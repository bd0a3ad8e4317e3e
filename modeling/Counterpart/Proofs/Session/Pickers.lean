import Mathlib.Data.List.Basic
import Counterpart.Proofs.Session.Mapping

/-!
This module contains how the fields that a session offers for pairing compare with the unmapped
ones, those that no pairing names on their own side. What is offered is unmapped, but an unmapped
field with the key of a mapped field on the other side is not offered, so the two agree exactly as
long as there is none. What is offered can be paired, and is not offered any more when it is.
-/

namespace Counterpart

namespace Criteria

def mapsFounder (c : Criteria) (key : String) : Bool := c.pairings.any (·.founder == key)

def mapsInvestor (c : Criteria) (key : String) : Bool := c.pairings.any (·.investor == key)

theorem mentions_eq (c : Criteria) (key : String)
    : c.mentions key = (c.mapsFounder key || c.mapsInvestor key) := by
  unfold mentions mapsFounder mapsInvestor Pairing.mentions
  rw [Bool.eq_iff_iff]
  simp only [List.any_eq_true, Bool.or_eq_true, and_or_left, exists_or]

theorem get?_eq_none_of_not_mentions {c : Criteria} {key : String} (h : c.mentions key = false)
    : c.get? key = none := by
  rw [mentions_eq, Bool.or_eq_false_iff] at h
  have hfounder := h.1
  unfold mapsFounder at hfounder
  unfold get?
  simpa using hfounder

end Criteria

section Filter

variable {xs : List α} {p q : α → Bool}

theorem filter_eq_filter_iff : xs.filter p = xs.filter q ↔ ∀ x ∈ xs, p x = q x := by
  constructor
  . intro h x hx
    have hmem : x ∈ xs.filter p ↔ x ∈ xs.filter q := by rw [h]
    rw [List.mem_filter, List.mem_filter] at hmem
    simpa [hx, ← Bool.eq_iff_iff] using hmem
  . exact List.filter_congr

theorem filter_not_or_sublist : (xs.filter fun x => !(p x || q x)).Sublist (xs.filter (!p ·)) := by
  apply List.monotone_filter_right
  intro x hx
  simp only [Bool.not_or, Bool.and_eq_true] at hx
  exact hx.1

theorem filter_not_or_eq_iff
    : (xs.filter fun x => !(p x || q x)) = xs.filter (!p ·)
        ↔
      ∀ x ∈ xs, q x = true → p x = true := by
  rw [filter_eq_filter_iff]
  apply forall₂_congr
  intro x _
  cases p x <;> simp

end Filter

namespace Session

def unmappedFounders (s : Session) : List Field :=
  s.founder.schema.dataFields.filter fun f => !s.criteria.mapsFounder f.key

def unmappedCounterparts (s : Session) (f : Field) : List Field :=
  (f.compatibleWith s.investor.schema.fields).filter fun i => !s.criteria.mapsInvestor i.key

variable {s : Session} {f : Field}

theorem availableFounders_eq (s : Session)
    : s.availableFounders
        =
      s.founder.schema.dataFields.filter fun f =>
        !(s.criteria.mapsFounder f.key || s.criteria.mapsInvestor f.key) := by
  unfold availableFounders
  simp only [Criteria.mentions_eq]

theorem counterparts_eq (hf : f ∈ s.founder.schema.fields)
    : s.counterparts f.key
        =
      (f.compatibleWith s.investor.schema.fields).filter fun i =>
        !(s.criteria.mapsInvestor i.key || s.criteria.mapsFounder i.key) := by
  unfold counterparts
  rw [Schema.get?_eq_some_iff.2 ⟨hf, rfl⟩]
  simp only [Criteria.mentions_eq, Bool.or_comm]

/-- Only unmapped fields are offered, in the order of their form. All of them are, exactly if no
unmapped field has the key of a mapped field on the other side. -/
theorem offered_eq_unmapped_iff (s : Session)
    : s.availableFounders.Sublist s.unmappedFounders
      ∧ (s.availableFounders = s.unmappedFounders
          ↔
        ∀ f ∈ s.founder.schema.dataFields,
          s.criteria.mapsInvestor f.key = true → s.criteria.mapsFounder f.key = true)
      ∧ ∀ f ∈ s.founder.schema.fields,
          (s.counterparts f.key).Sublist (s.unmappedCounterparts f)
            ∧ (s.counterparts f.key = s.unmappedCounterparts f
                ↔
              ∀ i ∈ f.compatibleWith s.investor.schema.fields,
                s.criteria.mapsFounder i.key = true → s.criteria.mapsInvestor i.key = true) := by
  rw [availableFounders_eq]
  refine ⟨filter_not_or_sublist, filter_not_or_eq_iff, ?_⟩
  intro f hf
  rw [counterparts_eq hf]
  exact ⟨filter_not_or_sublist, filter_not_or_eq_iff⟩

/-- With two keys on both forms, one pairing takes both fields from either picker, although one of
each is unmapped. -/
theorem offered_ne_unmapped
    : let contact : Field := { key := "contact", label := "Contact", kind := .text }
      let email : Field := { key := "email", label := "Email", kind := .text }
      ∃ s : Session,
        s.Reachable ∧ s.founder.schema.fields = [contact, email]
          ∧ s.investor.schema.fields = [contact, email]
          ∧ s.criteria.pairings = [{ founder := "contact", investor := "email" }]
          ∧ s.unmappedFounders = [email] ∧ s.availableFounders = []
          ∧ s.unmappedCounterparts email = [contact] ∧ s.counterparts "email" = [] := by
  intro contact email
  let s : Session :=
    { settings := {}, founder := .ofSchema ⟨[contact, email], by decide +kernel⟩,
      investor := .ofSchema ⟨[contact, email], by decide +kernel⟩, criteria := .empty }
  have hs : s.Reachable := .start _ _ {}
  exact ⟨s.perform (.map "contact" "email"), hs.perform _, by decide +kernel⟩

variable {i : Field}

theorem mem_availableFounders_iff
    : f ∈ s.availableFounders
        ↔
      (f ∈ s.founder.schema.fields ∧ f.carriesData = true) ∧ s.criteria.mentions f.key = false := by
  unfold availableFounders Schema.dataFields
  rw [List.mem_filter, List.mem_filter, Bool.not_eq_true']

theorem mem_counterparts_iff (hf : f ∈ s.founder.schema.fields)
    : i ∈ s.counterparts f.key
        ↔
      (i ∈ s.investor.schema.fields ∧ f.isCompatible i = true)
        ∧ s.criteria.mentions i.key = false := by
  unfold counterparts Field.compatibleWith
  rw [Schema.get?_eq_some_iff.2 ⟨hf, rfl⟩]
  dsimp only
  rw [List.mem_filter, List.mem_filter, Bool.not_eq_true']

theorem availableFounders_append (s : Session) (p : Pairing)
    : availableFounders { s with criteria := ⟨s.criteria.pairings ++ [p]⟩ }
        =
      s.availableFounders.filter fun f => !p.mentions f.key := by
  unfold availableFounders
  rw [List.filter_filter]
  simp only [Criteria.mentions_append, Bool.not_or, Bool.and_comm]

theorem counterparts_append (s : Session) (p : Pairing) (key : String)
    : counterparts { s with criteria := ⟨s.criteria.pairings ++ [p]⟩ } key
        =
      (s.counterparts key).filter fun i => !p.mentions i.key := by
  unfold counterparts
  cases s.founder.schema.get? key with
  | none => rfl
  | some f =>
    dsimp only
    rw [List.filter_filter]
    simp only [Criteria.mentions_append, Bool.not_or, Bool.and_comm]

/-- Whatever is offered for pairing can be paired. Then neither field is offered any more, and what
else is offered was offered before, in the same order. -/
theorem map_of_offered (hf : f ∈ s.availableFounders) (hi : i ∈ s.counterparts f.key)
    : ∃ p t, s.map f.key i.key = .ok (p, t)
        ∧ f ∉ t.availableFounders
        ∧ (∀ key, i ∉ t.counterparts key)
        ∧ t.availableFounders.Sublist s.availableFounders
        ∧ ∀ key, (t.counterparts key).Sublist (s.counterparts key) := by
  rcases mem_availableFounders_iff.1 hf with ⟨⟨hfounder, _⟩, hnew⟩
  rcases (mem_counterparts_iff hfounder).1 hi with ⟨⟨hinvestor, hcompatible⟩, _⟩
  have hpair : s.checkPair f.key i.key = .ok () := by
    rw [checkPair_eq_ok_iff, isPair_compatibility_iff]
    exact ⟨f, hfounder, i, hinvestor, rfl, rfl, hcompatible⟩
  have hget := Criteria.get?_eq_none_of_not_mentions hnew
  refine ⟨_, _, map_of_get?_eq_none hpair hget, ?_, ?_, ?_, ?_⟩
  . rw [availableFounders_append]
    simp [Pairing.mentions, newPairing]
  . intro key
    rw [counterparts_append]
    simp [Pairing.mentions, newPairing]
  . rw [availableFounders_append]
    apply List.filter_sublist
  . intro key
    rw [counterparts_append]
    apply List.filter_sublist

theorem map_of_offered_contact
    : let contact : Field := { key := "contact", label := "Contact", kind := .text }
      let email : Field := { key := "email", label := "Email", kind := .text }
      let fund : Field := { key := "fund", label := "Fund", kind := .text }
      let ghost : Pairing := { founder := "ghost", investor := "gone" }
      ∃ s : Session,
        s.Reachable ∧ s.founder.schema.fields = [contact, email]
          ∧ s.investor.schema.fields = [fund, email] ∧ s.criteria.pairings = [ghost]
          ∧ contact ∈ s.availableFounders ∧ fund ∈ s.counterparts "contact"
          ∧ ∃ p t, s.map "contact" "fund" = .ok (p, t)
            ∧ contact ∉ t.availableFounders
            ∧ (∀ key, fund ∉ t.counterparts key)
            ∧ t.availableFounders.Sublist [contact, email]
            ∧ (t.counterparts "email").Sublist [fund, email] := by
  intro contact email fund ghost
  let s : Session :=
    { settings := {}, founder := .ofSchema ⟨[contact, email], by decide +kernel⟩,
      investor := .ofSchema ⟨[fund, email], by decide +kernel⟩, criteria := ⟨[ghost]⟩ }
  have hload : Criteria.ofPairings [ghost] = .ok ⟨[ghost]⟩ := by decide +kernel
  have hs : s.Reachable := .create (.load hload) (create_of_faultless _ _ ⟨[ghost]⟩ {})
  have havailable : s.availableFounders = [contact, email] := by decide +kernel
  have hcontact : s.counterparts "contact" = [fund, email] := by decide +kernel
  have hemail : s.counterparts "email" = [fund, email] := by decide +kernel
  have hf : contact ∈ s.availableFounders := by simp [havailable]
  have hi : fund ∈ s.counterparts "contact" := by simp [hcontact]
  rcases map_of_offered hf hi with ⟨p, t, hmap, hnot, hnone, hfounders, hinvestors⟩
  refine ⟨s, hs, rfl, rfl, rfl, hf, hi, p, t, hmap, hnot, hnone, ?_, ?_⟩
  . rwa [havailable] at hfounders
  . rw [← hemail]
    apply hinvestors

end Session

end Counterpart
