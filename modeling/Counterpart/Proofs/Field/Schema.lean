import Counterpart.Field.Schema
import Counterpart.Proofs.KeyMap

/-!
This module contains what a list of fields must satisfy to be a schema: every field is sound on its
own, and no two have one key.
-/

namespace Counterpart

/-- What the check of a schema asks of a field apart from the other fields. -/
structure Field.Sound (f : Field) : Prop where
  key : Text.isBlankText f.key = false
  choices : f.choices.duplicateValue? = none
  bounds : f.bounds.bind Bounds.inverted? = none

namespace Field

variable {f : Field} {seen : List String}

theorem fault?_eq_none_iff : f.fault? seen = none ↔ f.Sound ∧ f.key ∉ seen := by
  unfold fault?
  constructor
  . intro h
    split at h
    . cases h
    . next hkey =>
      split at h
      . cases h
      . next hnew =>
        split at h
        . cases h
        . next hchoices =>
          rw [Option.map_eq_none_iff] at h
          exact ⟨⟨by simpa using hkey, hchoices, h⟩, hnew⟩
  . rintro ⟨⟨hkey, hchoices, hbounds⟩, hnew⟩
    simp [hkey, hnew, hchoices, hbounds]

end Field

theorem firstFault?_eq_none_iff {seen : List String} {fields : List Field}
    : firstFault? seen fields = none
        ↔
      (∀ f ∈ fields, f.Sound ∧ f.key ∉ seen) ∧ (fields.map Field.key).Nodup := by
  induction fields generalizing seen with
  | nil => simp [firstFault?]
  | cons f fs ih =>
    unfold firstFault?
    cases hf : f.fault? seen with
    | some e =>
      have hnot : ¬ (f.Sound ∧ f.key ∉ seen) := by
        rw [← Field.fault?_eq_none_iff, hf]
        simp
      simp [hnot]
    | none =>
      rw [Field.fault?_eq_none_iff] at hf
      -- The key of `f` joins `seen`, so the rest must avoid it as well.
      simp only [ih, List.mem_cons, not_or, forall_eq_or_imp, List.map_cons, List.nodup_cons,
        List.mem_map, not_exists, not_and]
      constructor
      . rintro ⟨hall, hnodup⟩
        refine ⟨⟨hf, ?_⟩, ?_, hnodup⟩
        . intro g hg
          exact ⟨(hall g hg).1, (hall g hg).2.2⟩
        . intro g hg
          exact (hall g hg).2.1
      . rintro ⟨⟨_, hall⟩, hnew, hnodup⟩
        refine ⟨?_, hnodup⟩
        intro g hg
        exact ⟨(hall g hg).1, hnew g hg, (hall g hg).2⟩

namespace Schema

theorem nodup_keys (s : Schema) : (s.fields.map Field.key).Nodup :=
  (firstFault?_eq_none_iff.1 s.faultless).2

theorem get?_eq_some_iff {s : Schema} {key : String} {f : Field}
    : s.get? key = some f ↔ f ∈ s.fields ∧ f.key = key := by
  unfold get?
  apply KeyMap.find?_key_eq_some_iff Field.key s.nodup_keys

theorem fields_of_ofFields?_eq_ok {s : Schema} {fields : List Field}
    (h : ofFields? fields = .ok s)
    : s.fields = fields := by
  unfold ofFields? at h
  split at h
  . cases h
  . cases h
    rfl

theorem ofFields?_of_faultless {fields : List Field} (h : firstFault? [] fields = none)
    : ofFields? fields = .ok ⟨fields, h⟩ := by
  unfold ofFields?
  split
  . next hfault =>
    rw [h] at hfault
    cases hfault
  . rfl

end Schema

end Counterpart
