import Mathlib.Data.Finset.Card
import Counterpart.Field.FoldedSet
import Counterpart.Proofs.KeyMap

/-!
This module contains what insertion does to a set of folded texts. The set records the texts that
were inserted: under each folded form it has the first of them with that form, and nothing else.
-/

namespace Counterpart

namespace FoldedSet

variable {s : FoldedSet} {text other : String}

@[simp]
theorem contains_empty (text : String) : empty.contains text = false := by
  rfl

theorem contains_insert
    : (s.insert other).contains text = true
        ↔
      s.contains text = true ∨ Text.fold other = Text.fold text := by
  unfold insert
  split
  . next h =>
    constructor
    . exact .inl
    . rintro (htext | heq)
      . exact htext
      . unfold contains at h ⊢
        rwa [← heq]
  . unfold contains KeyMap.contains
    rw [KeyMap.get?_insert]
    by_cases heq : Text.fold text = Text.fold other
    . simp [heq]
    . have : ¬ Text.fold other = Text.fold text := Ne.symm heq
      simp [heq, this]

theorem contains_foldl_insert (texts : List String) (s : FoldedSet)
    : (texts.foldl insert s).contains text = true
        ↔
      s.contains text = true ∨ ∃ t ∈ texts, Text.fold t = Text.fold text := by
  induction texts generalizing s with
  | nil => simp
  | cons t texts ih =>
    rw [List.foldl_cons, ih, contains_insert]
    simp only [List.mem_cons, or_and_right, exists_or, exists_eq_left, or_assoc]

/-- Whether a set has, under every form, the first of the texts with that form. -/
def Records (s : FoldedSet) (texts : List String) : Prop :=
  ∀ form, s.spellings.get? form = texts.find? fun t => Text.fold t = form

variable {texts : List String}

theorem Records.get?_eq (h : s.Records texts) (text : String)
    : s.get? text = texts.find? fun t => Text.fold t = Text.fold text :=
  h (Text.fold text)

theorem Records.contains_iff (h : s.Records texts)
    : s.contains text = true ↔ ∃ t ∈ texts, Text.fold t = Text.fold text := by
  unfold contains KeyMap.contains
  rw [h]
  simp

theorem records_empty : empty.Records [] := by
  intro form
  rfl

theorem Records.insert (h : s.Records texts) (text : String)
    : (s.insert text).Records (texts ++ [text]) := by
  intro form
  rw [List.find?_append, ← h]
  unfold FoldedSet.insert
  split
  . next hcontains =>
    -- The new text stands behind the one that is recorded for its form.
    rcases h.contains_iff.1 hcontains with ⟨t, ht, hfold⟩
    by_cases heq : Text.fold text = form
    . have hsome : (s.spellings.get? form).isSome = true := by
        rw [h, List.find?_isSome]
        exact ⟨t, ht, by simpa [hfold] using heq⟩
      rw [Option.or_of_isSome hsome]
    . simp [heq]
  . next hnot =>
    rw [KeyMap.get?_insert]
    by_cases heq : form = Text.fold text
    . subst heq
      have hnone : s.spellings.get? (Text.fold text) = none := by
        simpa [contains, KeyMap.contains] using hnot
      simp [hnone]
    . simp [heq, Ne.symm heq]

theorem Records.foldl_insert (h : s.Records texts) (more : List String)
    : (more.foldl FoldedSet.insert s).Records (texts ++ more) := by
  induction more generalizing s texts with
  | nil => rwa [List.append_nil]
  | cons text more ih =>
    rw [List.foldl_cons, List.append_cons]
    exact ih (h.insert text)

theorem records_ofList (texts : List String) : (ofList texts).Records texts :=
  records_empty.foldl_insert texts

theorem Records.size_eq (h : s.Records texts) : s.size = (texts.map Text.fold).toFinset.card := by
  have hkeys : s.spellings.keys.toFinset = (texts.map Text.fold).toFinset := by
    ext form
    rw [List.mem_toFinset, List.mem_toFinset, KeyMap.mem_keys_iff, List.mem_map]
    rw [← Option.isSome_iff_exists, h, List.find?_isSome]
    simp
  have hnodup : s.spellings.keys.Nodup := s.spellings.nodup_keys
  rw [← hkeys, List.toFinset_card_of_nodup hnodup]
  exact (List.length_map _).symm

/-- Whatever was inserted at first and later: an insertion is new if no text of the form went before
it, the spelling of a form is the first one, untouched, and the size is the number of forms. -/
theorem keeps_first_spellings (first later : List String) (text : String)
    : let texts := first ++ later
      let s := later.foldl (fun s t => (s.insertNew t).2) (ofList first)
      ((s.insertNew text).1 = true ↔ ∀ t ∈ texts, Text.fold t ≠ Text.fold text)
        ∧ s.get? text = texts.find? (fun t => Text.fold t = Text.fold text)
        ∧ s.contains text = (s.get? text).isSome
        ∧ s.size = (texts.map Text.fold).toFinset.card := by
  intro texts s
  have h : s.Records texts := (records_ofList first).foldl_insert later
  refine ⟨?_, h.get?_eq text, rfl, h.size_eq⟩
  unfold insertNew
  rw [Bool.not_eq_true', Bool.eq_false_iff, ne_eq, h.contains_iff]
  simp

end FoldedSet

end Counterpart
