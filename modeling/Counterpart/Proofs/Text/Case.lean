import Counterpart.Proofs.Text.Trim
import Counterpart.Text.Case

/-!
This module contains the laws of the folded form: blanks at the ends do not count, and only a blank
text folds to the empty one.
-/

namespace Counterpart.Text

@[simp]
theorem fold_trim (s : String) : fold (trim s) = fold s := by
  unfold fold
  rw [trim_trim]

theorem lowerChar_ne_nil (c : Char) : lowerChar c ≠ [] := by
  unfold lowerChar
  split
  . simp
  . split
    . simp
    . simp

theorem lowerChars_go_eq_nil {before cs : List Char} (h : lowerChars.go before cs = [])
    : cs = [] := by
  cases cs with
  | nil => rfl
  | cons c cs =>
    unfold lowerChars.go at h
    have hlowered := (List.append_eq_nil_iff.1 h).1
    split at hlowered
    . split at hlowered
      . cases hlowered
      . cases hlowered
    . exact absurd hlowered (lowerChar_ne_nil c)

theorem lower_eq_empty {s : String} (h : lower s = "") : s = "" := by
  have hnil := lowerChars_go_eq_nil (String.ofList_eq_empty_iff.1 h)
  rw [← String.ofList_toList (s := s), hnil, String.ofList_nil]

theorem trim_eq_empty_of_fold {s : String} (h : fold s = "") : trim s = "" := by
  apply lower_eq_empty
  exact h

theorem fold_ne_empty {s : String} (htrim : trim s = s) (hne : s ≠ "") : fold s ≠ "" := by
  intro hempty
  apply hne
  rw [← htrim]
  exact trim_eq_empty_of_fold hempty

end Counterpart.Text
