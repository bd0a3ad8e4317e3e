import Mathlib.Data.List.DropRight
import Counterpart.Text.Blank

/-!
This module contains what trimming does to a text: the trimmed text neither starts nor ends with a
blank, and such texts are left alone.
-/

namespace Counterpart.Text

def Trimmed (cs : List Char) : Prop :=
  ∀ h : cs ≠ [], ¬ isBlank (cs.head h) ∧ ¬ isBlank (cs.getLast h)

theorem trimChars_eq_rdropWhile (cs : List Char)
    : trimChars cs = (cs.dropWhile isBlank).rdropWhile isBlank := by
  rfl

theorem trimmed_trimChars (cs : List Char) : Trimmed (trimChars cs) := by
  rw [trimChars_eq_rdropWhile]
  intro h
  constructor
  . have hpre := List.rdropWhile_prefix isBlank (cs.dropWhile isBlank)
    have hdrop : cs.dropWhile isBlank ≠ [] := by
      intro hnil
      simp [hnil] at h
    rw [hpre.head h]
    rw [List.head_dropWhile_not isBlank hdrop]
    simp
  . apply List.rdropWhile_last_not

theorem trimChars_eq_self {cs : List Char} (h : Trimmed cs) : trimChars cs = cs := by
  rw [trimChars_eq_rdropWhile]
  have hdrop : cs.dropWhile isBlank = cs := by
    cases cs with
    | nil => rfl
    | cons c cs =>
      have := (h (by simp)).1
      simp_all
  rw [hdrop, List.rdropWhile_eq_self_iff]
  intro hne
  exact (h hne).2

@[simp]
theorem trimChars_trimChars (cs : List Char) : trimChars (trimChars cs) = trimChars cs := by
  apply trimChars_eq_self
  apply trimmed_trimChars

theorem trimChars_concat {c : Char} (hc : isBlank c = true) (cs : List Char)
    : trimChars (cs ++ [c]) = trimChars cs := by
  rw [trimChars_eq_rdropWhile, trimChars_eq_rdropWhile, List.dropWhile_append]
  split
  . next hempty =>
    rw [List.isEmpty_iff.1 hempty]
    simp [hc]
  . rw [List.rdropWhile_concat, if_pos hc]

theorem sublist_trimChars (cs : List Char) : (trimChars cs).Sublist cs := by
  rw [trimChars_eq_rdropWhile]
  exact (List.rdropWhile_prefix isBlank _).sublist.trans (List.dropWhile_sublist isBlank)

theorem trimChars_append_left {before : List Char} (h : ∀ c ∈ before, isBlank c = true)
    (cs : List Char)
    : trimChars (before ++ cs) = trimChars cs := by
  rw [trimChars_eq_rdropWhile, trimChars_eq_rdropWhile, List.dropWhile_append_of_pos h]

theorem trimChars_append_right {after : List Char} (h : ∀ c ∈ after, isBlank c = true)
    (cs : List Char)
    : trimChars (cs ++ after) = trimChars cs := by
  induction after generalizing cs with
  | nil => rw [List.append_nil]
  | cons c after ih =>
    have ⟨hc, hafter⟩ := List.forall_mem_cons.1 h
    rw [List.append_cons, ih hafter, trimChars_concat hc]

theorem trim_of_isBlankText {s : String} (h : isBlankText s = true) : trim s = "" := by
  unfold isBlankText at h
  unfold trim trimChars
  rw [List.dropWhile_eq_nil_iff.2 (List.all_eq_true.1 h)]
  rfl

theorem trim_eq_empty_iff {s : String} : trim s = "" ↔ isBlankText s = true := by
  constructor
  . intro h
    have hnil : (s.toList.dropWhile isBlank).rdropWhile isBlank = [] := by
      rw [← trimChars_eq_rdropWhile]
      exact String.ofList_eq_empty_iff.1 h
    rw [List.rdropWhile_eq_nil_iff] at hnil
    have hdrop : s.toList.dropWhile isBlank = [] := by
      by_contra hne
      have hhead := hnil _ (List.head_mem hne)
      rw [List.head_dropWhile_not isBlank hne] at hhead
      cases hhead
    exact List.all_eq_true.2 (List.dropWhile_eq_nil_iff.1 hdrop)
  . exact trim_of_isBlankText

theorem trim_ofList (cs : List Char) : trim (.ofList cs) = .ofList (trimChars cs) := by
  unfold trim
  rw [String.toList_ofList]

@[simp]
theorem trimChars_toList_trim (s : String) : trimChars (trim s).toList = trimChars s.toList := by
  unfold trim
  rw [String.toList_ofList, trimChars_trimChars]

@[simp]
theorem trim_trim (s : String) : trim (trim s) = trim s := by
  rw [trim, trimChars_toList_trim, trim]

end Counterpart.Text
