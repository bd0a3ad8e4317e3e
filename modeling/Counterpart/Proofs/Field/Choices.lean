import Counterpart.Field.Choices
import Counterpart.Proofs.Text.Case

/-!
This module contains what it means for a text to name a choice, and what happens to that when more
choices are appended: a text that names a choice keeps standing for the same value as long as no
appended value names a choice that was there before.
-/

namespace Counterpart

open Text

namespace Choice

theorem matchesLoosely_iff {c : Choice} {raw : String}
    : c.matchesLoosely raw = true
        ↔
      fold c.value = fold raw ∨ (c.label ≠ "" ∧ fold c.label = fold raw) := by
  unfold matchesLoosely
  simp [fold]

@[simp]
theorem matchesLoosely_trim (c : Choice) (raw : String)
    : c.matchesLoosely (trim raw) = c.matchesLoosely raw := by
  rw [Bool.eq_iff_iff, matchesLoosely_iff, matchesLoosely_iff, fold_trim]

theorem matchesLoosely_of_value_eq {c : Choice} {raw : String} (h : c.value = trim raw)
    : c.matchesLoosely raw = true := by
  rw [matchesLoosely_iff]
  apply Or.inl
  rw [h, fold_trim]

theorem matchesLoosely_ofValue_iff {value raw : String}
    : (ofValue value).matchesLoosely raw = true ↔ fold value = fold raw := by
  rw [matchesLoosely_iff]
  simp [ofValue]

/-- Whether a text is the value or the label of a choice, without regard to case and surrounding
blanks. -/
def GoesBy (c : Choice) (s : String) : Prop := fold c.value = fold s ∨ fold c.label = fold s
  deriving Decidable

theorem matchesLoosely_iff_goesBy {c : Choice} {s : String} (hs : fold s ≠ "")
    : c.matchesLoosely s = true ↔ c.GoesBy s := by
  rw [matchesLoosely_iff]
  unfold GoesBy
  apply or_congr Iff.rfl
  constructor
  . exact And.right
  . intro heq
    refine ⟨?_, heq⟩
    intro hempty
    apply hs
    rw [← heq, hempty]
    rfl

end Choice

namespace Choices

variable {cs ds : Choices} {raw value : String}

theorem hasValue_iff : cs.hasValue value = true ↔ ∃ c ∈ cs, c.value = value := by
  unfold hasValue
  simp

theorem hasValue_append
    : Choices.hasValue (cs ++ ds) value = (cs.hasValue value || ds.hasValue value) := by
  unfold hasValue
  rw [List.any_append]

theorem namesChoice_iff : cs.namesChoice raw = true ↔ ∃ c ∈ cs, c.matchesLoosely raw = true := by
  unfold namesChoice findLoosely?
  simp only [Option.isSome_or, Choice.matchesLoosely_trim, Bool.or_eq_true, List.find?_isSome]
  constructor
  . rintro (⟨c, hc, heq⟩ | ⟨c, hc, hm⟩)
    . exact ⟨c, hc, Choice.matchesLoosely_of_value_eq (eq_of_beq heq)⟩
    . exact ⟨c, hc, hm⟩
  . rintro ⟨c, hc, hm⟩
    exact .inr ⟨c, hc, hm⟩

theorem namesChoice_congr {s t : String} (h : fold s = fold t)
    : cs.namesChoice s = cs.namesChoice t := by
  rw [Bool.eq_iff_iff, namesChoice_iff, namesChoice_iff]
  simp only [Choice.matchesLoosely_iff, h]

theorem namesChoice_iff_goesBy {s : String} (hs : fold s ≠ "")
    : cs.namesChoice s = true ↔ ∃ c ∈ cs, c.GoesBy s := by
  rw [namesChoice_iff]
  simp only [Choice.matchesLoosely_iff_goesBy hs]

theorem namesChoice_append
    : Choices.namesChoice (cs ++ ds) raw = (cs.namesChoice raw || ds.namesChoice raw) := by
  rw [Bool.eq_iff_iff, Bool.or_eq_true, namesChoice_iff, namesChoice_iff, namesChoice_iff]
  simp only [List.mem_append, or_and_right, exists_or]

@[simp]
theorem namesChoice_trim (cs : Choices) (raw : String)
    : cs.namesChoice (trim raw) = cs.namesChoice raw := by
  rw [Bool.eq_iff_iff, namesChoice_iff, namesChoice_iff]
  simp only [Choice.matchesLoosely_trim]

theorem namesChoice_of_hasValue (h : cs.hasValue (trim raw) = true)
    : cs.namesChoice raw = true := by
  rcases hasValue_iff.1 h with ⟨c, hc, heq⟩
  apply namesChoice_iff.2
  exact ⟨c, hc, Choice.matchesLoosely_of_value_eq heq⟩

theorem isSome_normalize? (cs : Choices) (raw : String)
    : (cs.normalize? raw).isSome = cs.namesChoice raw := by
  unfold normalize? namesChoice
  rw [Option.isSome_map]

theorem exists_of_normalize? (h : cs.normalize? raw = some value)
    : ∃ c ∈ cs, c.value = value ∧ c.matchesLoosely raw = true := by
  unfold normalize? findLoosely? at h
  rcases Option.map_eq_some_iff.1 h with ⟨c, hc, heq⟩
  rcases Option.or_eq_some_iff.1 hc with hc | ⟨_, hc⟩
  . have hexact : c.value = trim raw := by simpa using List.find?_some hc
    exact ⟨c, List.mem_of_find?_eq_some hc, heq, Choice.matchesLoosely_of_value_eq hexact⟩
  . have hloose : c.matchesLoosely (trim raw) = true := by simpa using List.find?_some hc
    rw [Choice.matchesLoosely_trim] at hloose
    exact ⟨c, List.mem_of_find?_eq_some hc, heq, hloose⟩

theorem hasValue_of_normalize? (h : cs.normalize? raw = some value) : cs.hasValue value = true := by
  rcases exists_of_normalize? h with ⟨c, hc, heq, _⟩
  exact hasValue_iff.2 ⟨c, hc, heq⟩

theorem normalize?_append_of_not_namesChoice_left (h : ¬ cs.namesChoice raw = true)
    : Choices.normalize? (cs ++ ds) raw = ds.normalize? raw := by
  unfold namesChoice findLoosely? at h
  dsimp only at h
  rw [Option.not_isSome_iff_eq_none, Option.or_eq_none_iff] at h
  unfold normalize? findLoosely?
  dsimp only
  rw [List.find?_append, List.find?_append, h.1, h.2, Option.none_or, Option.none_or]

theorem normalize?_append_of_not_namesChoice (h : ¬ ds.namesChoice raw = true)
    : Choices.normalize? (cs ++ ds) raw = cs.normalize? raw := by
  unfold namesChoice at h
  rw [Option.not_isSome_iff_eq_none] at h
  unfold findLoosely? at h
  dsimp only at h
  rw [Option.or_eq_none_iff] at h
  unfold normalize? findLoosely?
  dsimp only
  rw [List.find?_append, List.find?_append, h.1, h.2, Option.or_none, Option.or_none]

theorem normalize?_append (h : cs.namesChoice raw = true)
    (hfresh : ∀ d ∈ ds, ¬ cs.namesChoice d.value = true)
    : Choices.normalize? (cs ++ ds) raw = cs.normalize? raw := by
  -- A new choice that matches exactly would have a value that an old one goes by.
  have hexact : ds.find? (·.value == trim raw) = none := by
    rw [List.find?_eq_none]
    intro d hd heq
    apply hfresh d hd
    rw [eq_of_beq heq, namesChoice_trim]
    exact h
  unfold normalize? findLoosely?
  dsimp only
  rw [List.find?_append, List.find?_append, hexact, Option.or_none]
  congr 1
  cases hc : cs.find? (·.value == trim raw) with
  | some c => simp
  | none =>
    unfold namesChoice findLoosely? at h
    dsimp only at h
    rw [hc, Option.none_or] at h
    rw [Option.none_or, Option.none_or, Option.or_of_isSome h]

theorem duplicateValue?_go_eq_none_iff {seen : List String} {cs : List Choice}
    : duplicateValue?.go seen cs = none
        ↔
      (∀ c ∈ cs, c.value ∉ seen) ∧ (cs.map Choice.value).Nodup := by
  induction cs generalizing seen with
  | nil => simp [duplicateValue?.go]
  | cons c cs ih =>
    unfold duplicateValue?.go
    split
    . next hc => simp [hc]
    . next hc =>
      -- The value of `c` joins `seen`, so the rest must avoid it as well.
      simp only [ih, List.mem_cons, not_or, forall_eq_or_imp, List.map_cons, List.nodup_cons,
        List.mem_map, not_exists, not_and]
      constructor
      . rintro ⟨hall, hnodup⟩
        exact ⟨⟨hc, fun d hd => (hall d hd).2⟩, fun d hd => (hall d hd).1, hnodup⟩
      . rintro ⟨⟨_, hall⟩, hnew, hnodup⟩
        exact ⟨fun d hd => ⟨hnew d hd, hall d hd⟩, hnodup⟩

theorem duplicateValue?_eq_none_iff : cs.duplicateValue? = none ↔ cs.values.Nodup := by
  unfold duplicateValue? values
  rw [duplicateValue?_go_eq_none_iff]
  simp

end Choices

end Counterpart
