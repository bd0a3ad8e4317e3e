import Counterpart.Import.Discovery
import Counterpart.Proofs.Field.Choices
import Counterpart.Proofs.Field.Schema

/-!
This module contains the growth of fields by choices that come from anywhere. Choices are appended
one after the other, each only if its value is not there yet, so that the values stay different, a
schema stays a schema, and the same choices do not make it grow again.
-/

namespace Counterpart

namespace Choices

variable {cs extra : Choices} {c : Choice} {value : String}

def push (cs : Choices) (c : Choice) : Choices := if cs.hasValue c.value then cs else cs ++ [c]

def extend (cs extra : Choices) : Choices := extra.foldl push cs

theorem hasValue_iff_mem_values : cs.hasValue value = true ↔ value ∈ cs.values := by
  rw [hasValue_iff]
  exact List.mem_map.symm

theorem push_of_mem (h : c.value ∈ cs.values) : cs.push c = cs := by
  unfold push
  rw [if_pos (hasValue_iff_mem_values.2 h)]

theorem push_of_not_mem (h : c.value ∉ cs.values) : cs.push c = cs ++ [c] := by
  unfold push
  rw [if_neg fun hvalue => h (hasValue_iff_mem_values.1 hvalue)]

theorem prefix_push (cs : Choices) (c : Choice) : cs <+: cs.push c := by
  by_cases h : c.value ∈ cs.values
  . exact ⟨[], by rw [push_of_mem h, List.append_nil]⟩
  . exact ⟨[c], (push_of_not_mem h).symm⟩

theorem mem_values_push_iff : value ∈ (cs.push c).values ↔ value ∈ cs.values ∨ value = c.value := by
  by_cases h : c.value ∈ cs.values
  . rw [push_of_mem h]
    constructor
    . exact .inl
    . rintro (hold | rfl)
      . exact hold
      . exact h
  . rw [push_of_not_mem h]
    simp [values]

theorem nodup_values_push (h : cs.values.Nodup) (c : Choice) : (cs.push c).values.Nodup := by
  by_cases hc : c.value ∈ cs.values
  . rw [push_of_mem hc]
    exact h
  . rw [push_of_not_mem hc]
    unfold values at h hc ⊢
    rw [List.map_append, List.map_singleton, ← List.concat_eq_append]
    exact h.concat hc

theorem extend_cons (cs extra : Choices) (c : Choice)
    : cs.extend (c :: extra) = (cs.push c).extend extra := by
  rfl

theorem prefix_extend (cs extra : Choices) : cs <+: cs.extend extra := by
  induction extra generalizing cs with
  | nil => exact List.prefix_refl cs
  | cons c extra ih =>
    rw [extend_cons]
    exact (prefix_push cs c).trans (ih (cs.push c))

theorem mem_values_extend_iff
    : value ∈ (cs.extend extra).values ↔ value ∈ cs.values ∨ value ∈ extra.values := by
  induction extra generalizing cs with
  | nil => simp [extend, values]
  | cons c extra ih =>
    have hcons : value ∈ values (c :: extra) ↔ value = c.value ∨ value ∈ values extra :=
      List.mem_cons
    rw [extend_cons, ih, mem_values_push_iff, hcons, or_assoc]

theorem nodup_values_extend (h : cs.values.Nodup) (extra : Choices)
    : (cs.extend extra).values.Nodup := by
  induction extra generalizing cs with
  | nil => exact h
  | cons c extra ih =>
    rw [extend_cons]
    exact ih (nodup_values_push h c)

theorem extend_of_present (h : ∀ value ∈ extra.values, value ∈ cs.values)
    : cs.extend extra = cs := by
  induction extra with
  | nil => rfl
  | cons c extra ih =>
    rw [extend_cons, push_of_mem (h c.value List.mem_cons_self)]
    exact ih fun value hvalue => h value (List.mem_cons_of_mem c.value hvalue)

theorem extend_of_absent (hfresh : ∀ c ∈ extra, ¬ cs.hasValue c.value = true)
    (hnodup : extra.values.Nodup)
    : cs.extend extra = cs ++ extra := by
  induction extra generalizing cs with
  | nil => rw [List.append_nil]; rfl
  | cons c extra ih =>
    have ⟨hhead, htail⟩ := List.nodup_cons.1 hnodup
    have hc : c.value ∉ cs.values := by
      rw [← hasValue_iff_mem_values]
      exact hfresh c List.mem_cons_self
    rw [extend_cons, push_of_not_mem hc, ih, List.append_assoc, List.singleton_append]
    . -- Now that `c` is there, the rest must be new beside it as well.
      intro d hd
      rw [hasValue_append, Bool.or_eq_true, not_or]
      refine ⟨hfresh d (List.mem_cons_of_mem c hd), ?_⟩
      rw [hasValue_iff_mem_values]
      intro heq
      apply hhead
      rw [← List.mem_singleton.1 heq]
      exact List.mem_map_of_mem hd
    . exact htail

@[simp]
theorem extend_extend (cs extra : Choices) : (cs.extend extra).extend extra = cs.extend extra := by
  apply extend_of_present
  intro value hvalue
  exact mem_values_extend_iff.2 (.inr hvalue)

end Choices

namespace Field

variable {f : Field}

theorem grow_eq (f : Field) (extra : Choices)
    : f.grow extra = { f with choices := f.choices.extend extra } := by
  rfl

@[simp]
theorem grow_grow (f : Field) (extra : Choices) : (f.grow extra).grow extra = f.grow extra := by
  rw [grow_eq, grow_eq, Choices.extend_extend]

theorem Sound.grow (hf : f.Sound) (extra : Choices) : (f.grow extra).Sound := by
  refine ⟨hf.key, ?_, hf.bounds⟩
  rw [grow_eq, Choices.duplicateValue?_eq_none_iff]
  exact Choices.nodup_values_extend (Choices.duplicateValue?_eq_none_iff.1 hf.choices) extra

end Field

namespace Import

variable {fields : List Field}

theorem map_key_grow (fields : List Field) (extra : NewChoices)
    : (grow fields extra).map Field.key = fields.map Field.key := by
  unfold grow
  rw [List.map_map]
  rfl

theorem firstFault?_grow (h : firstFault? [] fields = none) (extra : NewChoices)
    : firstFault? [] (grow fields extra) = none := by
  have ⟨hsound, hkeys⟩ := firstFault?_eq_none_iff.1 h
  rw [firstFault?_eq_none_iff, map_key_grow]
  refine ⟨?_, hkeys⟩
  intro g hg
  rcases List.mem_map.1 hg with ⟨f, hf, rfl⟩
  exact ⟨(hsound f hf).1.grow _, List.not_mem_nil⟩

theorem grow_grow (fields : List Field) (extra : NewChoices)
    : grow (grow fields extra) extra = grow fields extra := by
  unfold grow
  rw [List.map_map]
  apply List.map_congr_left
  intro f _
  exact f.grow_grow _

/-- A field that has grown: the same but for choices appended to the old ones, with the values that
it had and those that were given. -/
structure Grown (given : Choices) (f g : Field) : Prop where
  appended : ∃ more, g = { f with choices := f.choices ++ more }
  values : ∀ value, value ∈ g.choices.values ↔ value ∈ f.choices.values ∨ value ∈ given.values

theorem grown_grow (f : Field) (given : Choices) : Grown given f (f.grow given) := by
  rcases Choices.prefix_extend f.choices given with ⟨more, hmore⟩
  refine ⟨⟨more, ?_⟩, fun value => Choices.mem_values_extend_iff⟩
  rw [Field.grow_eq, hmore]

/-- A schema that grows by any choices whatever is a schema again. Its fields are the old ones in
order, each grown by the choices given for its key, and the same choices change nothing more. -/
theorem ofFields?_grow (s : Schema) (extra : NewChoices)
    : ∃ t : Schema, Schema.ofFields? (grow s.fields extra) = .ok t
        ∧ t.fields = grow s.fields extra
        ∧ List.Forall₂ (fun f g => Grown ((KeyMap.get? extra f.key).getD []) f g) s.fields t.fields
        ∧ grow t.fields extra = t.fields := by
  refine ⟨⟨_, firstFault?_grow s.faultless extra⟩, ?_, rfl, ?_, grow_grow s.fields extra⟩
  . exact Schema.ofFields?_of_faultless _
  . unfold grow
    rw [List.forall₂_map_right_iff, List.forall₂_same]
    intro f _
    exact grown_grow f _

end Import

end Counterpart
