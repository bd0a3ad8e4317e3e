import Counterpart.Proofs.Compatibility.Matrix

/-!
This module contains that compatibility is a partial equivalence: symmetric and transitive, and
reflexive on all fields but buttons. What decides is one thing about each field, the values of its
choices if its type has choices, else the type.
-/

namespace Counterpart

inductive Affinity where
  | choices (values : KeyMap Unit)
  | kind (k : FieldKind)
  | name (lowered : String)

namespace Field

def affinity? (f : Field) : Option Affinity :=
  match f.kind with
  | .button => none
  | .unknown name => some (.name (Text.lowerAscii name))
  | k => if k.bearsChoices then some (.choices f.choices.valueSet) else some (.kind k)

variable {f g f' g' : Field} {a : Affinity}

theorem affinity?_eq_none_iff : f.affinity? = none ↔ f.kind = .button := by
  unfold affinity?
  split
  . next h => simp [h]
  . next h => simp [h]
  . next hbutton _ =>
    rw [iff_false_right hbutton]
    split
    . simp
    . simp

theorem affinity?_eq_some (h : f.affinity? = some a)
    : f.bearsChoices = true ∧ a = .choices f.choices.valueSet
        ∨ f.bearsChoices = false ∧ a = .kind f.kind
        ∨ ∃ name, f.kind = .unknown name ∧ a = .name (Text.lowerAscii name) := by
  unfold bearsChoices
  unfold affinity? at h
  split at h
  . cases h
  . next name hname =>
    cases h
    exact .inr (.inr ⟨name, hname, rfl⟩)
  . split at h
    . next hbears =>
      cases h
      exact .inl ⟨hbears, rfl⟩
    . next hbears =>
      cases h
      exact .inr (.inl ⟨by simpa using hbears, rfl⟩)

theorem affinity?_of_bearsChoices (h : f.bearsChoices = true)
    : f.affinity? = some (.choices f.choices.valueSet) := by
  unfold bearsChoices at h
  unfold affinity?
  split
  . next hkind => simp [hkind, FieldKind.bearsChoices] at h
  . next hkind => simp [hkind, FieldKind.bearsChoices] at h
  . rw [if_pos h]

theorem affinity?_congr (hkind : f.kind = g.kind) (h : f.bearsChoices = false)
    : f.affinity? = g.affinity? := by
  unfold bearsChoices at h
  unfold affinity?
  rw [← hkind]
  split
  . rfl
  . rfl
  . simp [h]

theorem kind_eq_of_affinity?_eq (hf : f.affinity? = some a) (hg : g.affinity? = some a)
    (hbears : ¬ (f.bearsChoices = true ∧ g.bearsChoices = true))
    (hunknown : ∀ m n, f.kind = .unknown m → ¬ g.kind = .unknown n)
    : f.kind = g.kind := by
  rcases affinity?_eq_some hf with ⟨hfbears, rfl⟩ | ⟨_, rfl⟩ | ⟨m, hm, rfl⟩
  . rcases affinity?_eq_some hg with ⟨hgbears, _⟩ | ⟨_, heq⟩ | ⟨n, _, heq⟩
    . exact absurd ⟨hfbears, hgbears⟩ hbears
    . cases heq
    . cases heq
  . rcases affinity?_eq_some hg with ⟨_, heq⟩ | ⟨_, heq⟩ | ⟨n, _, heq⟩
    . cases heq
    . injection heq
    . cases heq
  . rcases affinity?_eq_some hg with ⟨_, heq⟩ | ⟨_, heq⟩ | ⟨n, hn, _⟩
    . cases heq
    . cases heq
    . exact absurd hn (hunknown m n hm)

theorem isCompatible_iff
    : f.isCompatible g = true ↔ ∃ a, f.affinity? = some a ∧ g.affinity? = some a := by
  unfold isCompatible
  split
  . next h => simp [affinity?_eq_none_iff.2 h]
  . next h _ => simp [affinity?_eq_none_iff.2 h]
  . next hf hg =>
    rw [beq_iff_eq]
    simp [affinity?, hf, hg, eq_comm]
  . next hf hg hunknown =>
    split
    . next hboth =>
      rw [affinity?_of_bearsChoices hboth.1, affinity?_of_bearsChoices hboth.2]
      simp [eq_comm]
    . next hnot =>
      rw [decide_eq_true_eq]
      constructor
      . intro hkind
        have hbears : f.bearsChoices = false := by
          rw [← hkind, and_self] at hnot
          exact eq_false_of_ne_true hnot
        rw [← affinity?_congr hkind hbears]
        cases ha : f.affinity? with
        | none => exact absurd (affinity?_eq_none_iff.1 ha) hf
        | some a => exact ⟨a, rfl, rfl⟩
      . rintro ⟨a, ha, hb⟩
        exact kind_eq_of_affinity?_eq ha hb hnot hunknown

theorem isCompatible_congr (hf : f.affinity? = f'.affinity?) (hg : g.affinity? = g'.affinity?)
    : f.isCompatible g = f'.isCompatible g' := by
  rw [Bool.eq_iff_iff, isCompatible_iff, isCompatible_iff, hf, hg]

theorem isCompatible_comm (f g : Field) : f.isCompatible g = g.isCompatible f := by
  rw [Bool.eq_iff_iff, isCompatible_iff, isCompatible_iff]
  simp only [and_comm]

theorem affinity?_eq_of_isCompatible (h : f.isCompatible g = true)
    : f.affinity? = g.affinity? := by
  rcases isCompatible_iff.1 h with ⟨a, hf, hg⟩
  rw [hf, hg]

theorem isCompatible_trans {h : Field} (hfg : f.isCompatible g = true)
    (hgh : g.isCompatible h = true)
    : f.isCompatible h = true := by
  rwa [isCompatible_congr (affinity?_eq_of_isCompatible hfg) rfl]

theorem isCompatible_self_iff : f.isCompatible f = true ↔ f.kind ≠ .button := by
  rw [isCompatible_iff, ne_eq, ← affinity?_eq_none_iff, Option.eq_none_iff_forall_ne_some]
  simp

/-- Nothing about a field counts but its type and, if it has choices, the set of their values; which
of the types with choices it has does not count either. -/
theorem affinity?_eq_of_alike
    (hkind : f.kind = g.kind ∨ (f.bearsChoices = true ∧ g.bearsChoices = true))
    (hvalues : f.bearsChoices = true →
      ∀ value, value ∈ f.choices.values ↔ value ∈ g.choices.values)
    : f.affinity? = g.affinity? := by
  by_cases hf : f.bearsChoices = true
  . have hg : g.bearsChoices = true := by
      rcases hkind with hkind | hboth
      . unfold bearsChoices at hf ⊢
        rwa [← hkind]
      . exact hboth.2
    rw [affinity?_of_bearsChoices hf, affinity?_of_bearsChoices hg]
    rw [Choices.valueSet_eq_iff.2 (hvalues hf)]
  . rcases hkind with hkind | hboth
    . apply affinity?_congr hkind
      simpa using hf
    . exact absurd hboth.1 hf

theorem compatibleWith_eq_or_disjoint (f g : Field) (candidates : List Field)
    : f.compatibleWith candidates = g.compatibleWith candidates
        ∨
      List.Disjoint (f.compatibleWith candidates) (g.compatibleWith candidates) := by
  unfold compatibleWith
  by_cases h : f.affinity? = g.affinity?
  . apply Or.inl
    congr 1
    funext candidate
    apply isCompatible_congr h rfl
  . apply Or.inr
    intro candidate hf hg
    apply h
    rw [affinity?_eq_of_isCompatible (List.mem_filter.1 hf).2]
    rw [affinity?_eq_of_isCompatible (List.mem_filter.1 hg).2]

/-- Compatibility is symmetric, transitive and reflexive on all fields but buttons. Of a field only
the type counts and, if it has choices, the set of their values, so the fields among some candidates
with which two fields may be paired are the same or have none in common. -/
theorem isCompatible_partial_equivalence (a b c : Field)
    : a.isCompatible b = b.isCompatible a
        ∧ (a.isCompatible b = true → b.isCompatible c = true → a.isCompatible c = true)
        ∧ (a.isCompatible a = true ↔ a.kind ≠ .button)
        ∧ ((a.kind = b.kind ∨ a.bearsChoices = true ∧ b.bearsChoices = true)
            → (a.bearsChoices = true →
                ∀ value, value ∈ a.choices.values ↔ value ∈ b.choices.values)
            → a.isCompatible c = b.isCompatible c)
        ∧ ∀ candidates : List Field,
            a.compatibleWith candidates = b.compatibleWith candidates
              ∨ List.Disjoint (a.compatibleWith candidates) (b.compatibleWith candidates) := by
  refine ⟨isCompatible_comm a b, isCompatible_trans, isCompatible_self_iff, ?_,
    compatibleWith_eq_or_disjoint a b⟩
  intro hkind hvalues
  apply isCompatible_congr
  . exact affinity?_eq_of_alike hkind hvalues
  . rfl

theorem isCompatible_partial_equivalence_stage
    : let seed : Choice := ⟨"Seed", "seed"⟩
      let growth : Choice := ⟨"Growth", "growth"⟩
      let stage : Field :=
        { key := "stage", label := "Stage", kind := .select, choices := [seed, growth] }
      let stages : Field :=
        { key := "stages", label := "", kind := .multiselect, required := true,
          choices := [.ofValue "growth", seed, seed] }
      let round : Field :=
        { key := "round", label := "Round", kind := .radio, choices := [growth, seed] }
      stage.isCompatible stages = true ∧ stages.isCompatible round = true
        ∧ stage.isCompatible round = true
        ∧ stage.isCompatible round = stages.isCompatible round := by
  intro seed growth stage stages round
  have hfirst : stage.isCompatible stages = true := by decide
  have hsecond : stages.isCompatible round = true := by decide
  have htheorem := isCompatible_partial_equivalence stage stages round
  refine ⟨hfirst, hsecond, htheorem.2.1 hfirst hsecond, ?_⟩
  apply htheorem.2.2.2.1
  . exact .inr ⟨rfl, rfl⟩
  . intro _ value
    simp [Choices.values, stage, stages, seed, growth, Choice.ofValue, or_comm]

end Field

end Counterpart
