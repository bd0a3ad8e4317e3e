import Mathlib.Data.List.Nodup
import Counterpart.Proofs.Field.Choices
import Counterpart.Proofs.Field.Schema

/-!
This module contains what the value of a choice stands for when it is looked up like any other text.
A trimmed value stands for itself. One with blanks around it is looked up without them, so that it
may name another choice, and then what a text stands for need not stand for itself.
-/

namespace Counterpart

open Text

namespace Choices

variable {cs : Choices} {c : Choice} {raw value : String}

theorem normalize?_of_hasValue (h : cs.hasValue (trim raw) = true)
    : cs.normalize? raw = some (trim raw) := by
  rcases hasValue_iff.1 h with ⟨c, hc, heq⟩
  have hexact : (cs.find? (·.value == trim raw)).isSome = true :=
    List.find?_isSome.2 ⟨c, hc, by simpa using heq⟩
  rcases Option.isSome_iff_exists.1 hexact with ⟨d, hd⟩
  have hvalue : d.value = trim raw := by simpa using List.find?_some hd
  unfold normalize? findLoosely?
  dsimp only
  rw [hd, Option.some_or, Option.map_some, hvalue]

theorem normalize?_of_not_hasValue (h : ¬ cs.hasValue (trim raw) = true)
    : cs.normalize? raw = (cs.find? (·.matchesLoosely raw)).map Choice.value := by
  have hexact : cs.find? (·.value == trim raw) = none := by
    rw [List.find?_eq_none]
    intro c hc heq
    exact h (hasValue_iff.2 ⟨c, hc, eq_of_beq heq⟩)
  unfold normalize? findLoosely?
  dsimp only
  rw [hexact, Option.none_or]
  simp only [Choice.matchesLoosely_trim]

def IsFirst (cs : Choices) (c : Choice) : Prop :=
  ∃ before after, cs = before ++ c :: after ∧ ∀ d ∈ before, ¬ d.matchesLoosely c.value = true

/-- Whether nothing comes between a choice and its own value: the value is trimmed, or without its
blanks it is no value at all and the choice is the first that goes by it. -/
def GoesByOwnValue (cs : Choices) (c : Choice) : Prop :=
  trim c.value = c.value ∨ (¬ cs.hasValue (trim c.value) = true ∧ cs.IsFirst c)

theorem find?_matchesLoosely_value_iff (h : cs.values.Nodup) (hc : c ∈ cs)
    : (cs.find? (·.matchesLoosely c.value)).map Choice.value = some c.value ↔ cs.IsFirst c := by
  have hself : c.matchesLoosely c.value = true := by
    rw [Choice.matchesLoosely_iff]
    exact .inl rfl
  have hfind : cs.find? (·.matchesLoosely c.value) = some c ↔ cs.IsFirst c := by
    rw [List.find?_eq_some_iff_append]
    unfold IsFirst
    simp [hself]
  rw [← hfind, Option.map_eq_some_iff]
  constructor
  . rintro ⟨d, hd, heq⟩
    rw [hd, List.inj_on_of_nodup_map h (List.mem_of_find?_eq_some hd) hc heq]
  . intro hd
    exact ⟨c, hd, rfl⟩

theorem normalize?_value_iff (h : cs.values.Nodup) (hc : c ∈ cs)
    : cs.normalize? c.value = some c.value ↔ cs.GoesByOwnValue c := by
  have hvalue : cs.hasValue c.value = true := hasValue_iff.2 ⟨c, hc, rfl⟩
  unfold GoesByOwnValue
  by_cases htrim : cs.hasValue (trim c.value) = true
  . rw [normalize?_of_hasValue htrim, Option.some_inj]
    simp [htrim]
  . have hne : trim c.value ≠ c.value := by
      intro heq
      rw [heq] at htrim
      exact htrim hvalue
    rw [normalize?_of_not_hasValue htrim, find?_matchesLoosely_value_iff h hc]
    simp [htrim, hne]

/-- The value of a choice stands for itself exactly if nothing comes between them. What a text
stands for always stands for itself exactly if that holds for every choice that some text stands
for; it does where all values are trimmed. -/
theorem normalize?_value (h : cs.values.Nodup)
    : (∀ c ∈ cs, cs.normalize? c.value = some c.value ↔ cs.GoesByOwnValue c)
      ∧ ((∀ raw value, cs.normalize? raw = some value → cs.normalize? value = some value)
          ↔
        ∀ c ∈ cs, (∃ raw, cs.normalize? raw = some c.value) → cs.GoesByOwnValue c)
      ∧ ((∀ c ∈ cs, trim c.value = c.value) →
        (∀ c ∈ cs, cs.normalize? c.value = some c.value)
          ∧ ∀ raw value, cs.normalize? raw = some value → cs.normalize? value = some value) := by
  have hown : ∀ c ∈ cs, cs.normalize? c.value = some c.value ↔ cs.GoesByOwnValue c :=
    fun c hc => normalize?_value_iff h hc
  have hagain : (∀ raw value, cs.normalize? raw = some value → cs.normalize? value = some value)
      ↔ ∀ c ∈ cs, (∃ raw, cs.normalize? raw = some c.value) → cs.GoesByOwnValue c := by
    constructor
    . rintro hstable c hc ⟨raw, hraw⟩
      exact (hown c hc).1 (hstable raw c.value hraw)
    . intro hall raw value hraw
      rcases hasValue_iff.1 (hasValue_of_normalize? hraw) with ⟨c, hc, rfl⟩
      exact (hown c hc).2 (hall c hc ⟨raw, hraw⟩)
  refine ⟨hown, hagain, ?_⟩
  intro htrimmed
  exact ⟨fun c hc => (hown c hc).2 (.inl (htrimmed c hc)),
    hagain.2 fun c hc _ => .inl (htrimmed c hc)⟩

theorem normalize?_value_stage
    : let seed : Choice := ⟨"Seed", "seed"⟩
      let growth : Choice := ⟨"Growth", " growth "⟩
      let cs : Choices := [seed, growth]
      cs.values.Nodup ∧ growth ∈ cs ∧ cs.GoesByOwnValue growth
        ∧ cs.normalize? growth.value = some growth.value := by
  intro seed growth cs
  have hnodup : cs.values.Nodup := by simp [cs, values, seed, growth]
  have hgrowth : growth ∈ cs := by simp [cs]
  have hown : cs.GoesByOwnValue growth :=
    .inr ⟨by decide +kernel, [seed], [], rfl, by decide +kernel⟩
  exact ⟨hnodup, hgrowth, hown, ((normalize?_value hnodup).1 growth hgrowth).2 hown⟩

/-- The label of one choice hides the padded value of another, so that a schema may hold a value
that stands for a different one, and a text that stands for that value. -/
theorem exists_normalize?_value_ne
    : let early : Choice := ⟨"Seed", "early"⟩
      let seed : Choice := ⟨"Old", " seed "⟩
      let cs : Choices := [early, seed]
      let stage : Field := { key := "stage", label := "Stage", kind := .select, choices := cs }
      (∃ s : Schema, Schema.ofFields? [stage] = .ok s)
        ∧ cs.values.Nodup ∧ seed ∈ cs
        ∧ cs.normalize? seed.value = some early.value ∧ early.value ≠ seed.value
        ∧ cs.normalize? "old" = some seed.value := by
  intro early seed cs stage
  have hstage : firstFault? [] [stage] = none := by decide +kernel
  refine ⟨⟨⟨[stage], hstage⟩, ?_⟩, ?_, ?_, ?_, ?_, ?_⟩
  . exact Schema.ofFields?_of_faultless hstage
  . simp [cs, values, early, seed]
  . simp [cs]
  . decide +kernel
  . simp [early, seed]
  . decide +kernel

end Choices

end Counterpart
