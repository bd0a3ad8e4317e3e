import Counterpart.Proofs.Criteria.Store
import Counterpart.Proofs.Field.Choices
import Counterpart.Proofs.Session.Reachable

/-!
This module contains what holds of a session at all times, whatever operations were performed on it
and whether or not they were refused: the validators are in step with the schemas, the schemas are
without fault, founder fields are paired at most once and weights are in range.
-/

namespace Counterpart

open Numeric

namespace Field

variable {f : Field}

theorem Sound.exists_not_isBlank (h : f.Sound) : ∃ c ∈ f.key.toList, ¬ Text.isBlank c = true := by
  have hkey := h.key
  unfold Text.isBlankText at hkey
  simpa using hkey

theorem Sound.nodup_values (h : f.Sound) : f.choices.values.Nodup :=
  Choices.duplicateValue?_eq_none_iff.1 h.choices

theorem Sound.not_lt (h : f.Sound) {b : Bounds} (hb : f.bounds = some b) {min max : Double}
    (hmin : b.min = some min) (hmax : b.max = some max)
    : ¬ max.lt min = true := by
  intro hlt
  have hbounds := h.bounds
  rw [hb, Option.bind_some] at hbounds
  unfold Bounds.inverted? at hbounds
  simp [hmin, hmax, hlt] at hbounds

end Field

theorem Schema.sound_of_mem {s : Schema} {f : Field} (hf : f ∈ s.fields) : f.Sound :=
  ((firstFault?_eq_none_iff.1 s.faultless).1 f hf).1

theorem Criteria.Reachable.sound {c : Criteria} (h : c.Reachable) : c.Sound := by
  induction h with
  | load h => exact sound_empty.addAll h
  | add _ h ih => exact ih.add h
  | edit founder investor patch _ ih => exact ih.edit founder investor patch
  | remove founder _ ih => exact ih.remove founder

namespace Session

variable {s : Session}

theorem Reachable.criteria (h : s.Reachable) : s.criteria.Reachable := by
  induction h with
  | create hcriteria h =>
    rcases create_eq_ok h with ⟨_, _, _, _, rfl⟩
    exact hcriteria
  | @perform s op _ ih =>
    rcases s.perform_cases op with hsame | ⟨side, schema, hset⟩ | ⟨criteria, hcriteria, hperform⟩
    . rwa [hsame]
    . rwa [hset, criteria_setForm]
    . rw [hperform]
      exact hcriteria ih

structure Consistent (s : Session) : Prop where
  validators : ∀ side,
    (s.form side).validator = .compile (s.schema side).fields .submission
  keys : ∀ side, (s.schema side).keys.Nodup
  keysNotBlank : ∀ side, ∀ f ∈ (s.schema side).fields, ∃ c ∈ f.key.toList, ¬ Text.isBlank c = true
  choices : ∀ side, ∀ f ∈ (s.schema side).fields, f.choices.values.Nodup
  bounds : ∀ side, ∀ f ∈ (s.schema side).fields, ∀ b, f.bounds = some b →
    ∀ min max, b.min = some min → b.max = some max → ¬ max.lt min = true
  founders : (s.criteria.pairings.map Pairing.founder).Nodup
  weights : ∀ p ∈ s.criteria.pairings, ∀ w, p.weight = some w → IsWeight w

theorem Reachable.consistent (h : s.Reachable) : s.Consistent where
  validators side := by
    rw [h.compiled side]
    rfl
  keys side := (s.schema side).nodup_keys
  keysNotBlank side f hf := (Schema.sound_of_mem hf).exists_not_isBlank
  choices side f hf := (Schema.sound_of_mem hf).nodup_values
  bounds side f hf b hb min max hmin hmax := (Schema.sound_of_mem hf).not_lt hb hmin hmax
  founders := h.criteria.sound.founders
  weights := h.criteria.sound.weights

/-- A session is consistent after any operations, in any order and whether or not they are
refused. -/
theorem consistent_foldl_perform {founder investor : List Field} {criteria : Criteria}
    {settings : Settings} (hcriteria : criteria.Reachable)
    (h : create founder investor criteria settings = .ok s) (operations : List Operation)
    : (operations.foldl perform s).Consistent := by
  have hs : s.Reachable := .create hcriteria h
  exact (hs.run operations).consistent

theorem consistent_foldl_perform_tags
    : let tags : Field := { key := "tags", label := "Tags", kind := .multiselect }
      let raise : Field := { key := "raise", label := "Raise", kind := .number }
      let settings : Settings := { criteria := { defaultWeight := some (.ofInt double 5) } }
      let operations : List Operation :=
        [.setSchema .founder [tags, tags], .map "tags" "tags", .map "raise" "raise",
          .map "raise" "raise", .edit "raise" "raise" { weight := some .nan },
          .importRows .founder [.ofList [("T", .string "Bio")]] (.ofList [("tags", "T")]) true]
      ∃ s : Session,
        Criteria.empty.Reachable ∧ create [tags, raise] [tags, raise] .empty settings = .ok s
          ∧ ((operations.foldl perform s).schema .founder).fields
              =
            [tags.grow [.ofValue "Bio"], raise]
          ∧ (operations.foldl perform s).criteria.pairings
              =
            [{ founder := "tags", investor := "tags", weight := some (.ofInt double 1) },
              { founder := "raise", investor := "raise" }]
          ∧ (operations.foldl perform s).Consistent := by
  intro tags raise settings operations
  let s : Session :=
    { settings, founder := .ofSchema ⟨[tags, raise], by decide +kernel⟩,
      investor := .ofSchema ⟨[tags, raise], by decide +kernel⟩, criteria := .empty }
  have hcreate : create [tags, raise] [tags, raise] .empty settings = .ok s :=
    create_of_faultless _ _ .empty settings
  exact ⟨s, Criteria.reachable_empty, hcreate, by decide +kernel, by decide +kernel,
    consistent_foldl_perform Criteria.reachable_empty hcreate operations⟩

end Session

end Counterpart
