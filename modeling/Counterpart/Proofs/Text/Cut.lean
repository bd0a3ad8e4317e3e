import Mathlib.Data.List.TakeDrop
import Mathlib.Data.List.TakeWhile
import Counterpart.Text.Blank

/-!
This module contains where lists are cut: at every element of a kind, or before the first one.
-/

namespace Counterpart.Text

variable {α : Type} {p : α → Bool} {as bs cs : List α} {a : α}

theorem cutAt_eq_splitOnP (p : α → Bool) (as : List α) : cutAt p as = as.splitOnP p := by
  induction as with
  | nil => rfl
  | cons a as ih =>
    rw [List.splitOnP_cons_eq_if_modifyHead, cutAt, ih]
    split
    . rfl
    . cases h : as.splitOnP p with
      | nil => exact absurd h (List.splitOnP_ne_nil p as)
      | cons piece pieces => rfl

theorem cutAt_of_forall_not (h : ∀ a ∈ as, p a = false) : cutAt p as = [as] := by
  rw [cutAt_eq_splitOnP, List.splitOnP_eq_singleton h]

theorem cutAt_append_cons (h : ∀ a ∈ as, p a = false) (ha : p a = true)
    : cutAt p (as ++ a :: bs) = as :: cutAt p bs := by
  rw [cutAt_eq_splitOnP, cutAt_eq_splitOnP]
  apply List.splitOnP_append_cons_of_forall_mem
  . exact h
  . exact ha

theorem cutAt_eq_pair_iff [BEq α] [LawfulBEq α]
    : cutAt (· == a) as = [bs, cs] ↔ as = bs ++ a :: cs ∧ a ∉ bs ∧ a ∉ cs := by
  have hother {ds : List α} (h : a ∉ ds) : ∀ d ∈ ds, (d == a) = false := by
    intro d hd
    rw [beq_eq_false_iff_ne]
    rintro rfl
    exact h hd
  constructor
  . intro h
    by_cases hfirst : a ∈ as
    . rcases List.eq_append_cons_of_mem hfirst with ⟨before, after, rfl, hbefore⟩
      rw [cutAt_append_cons (hother hbefore) (beq_self_eq_true a)] at h
      by_cases hsecond : a ∈ after
      . -- Two places leave three pieces at least.
        rcases List.eq_append_cons_of_mem hsecond with ⟨middle, rest, rfl, hmiddle⟩
        rw [cutAt_append_cons (hother hmiddle) (beq_self_eq_true a)] at h
        cases hrest : cutAt (· == a) rest with
        | nil => exact absurd hrest (cutAt_eq_splitOnP (· == a) rest ▸ List.splitOnP_ne_nil _ _)
        | cons piece pieces => simp [hrest] at h
      . rw [cutAt_of_forall_not (hother hsecond)] at h
        cases h
        exact ⟨rfl, hbefore, hsecond⟩
    . rw [cutAt_of_forall_not (hother hfirst)] at h
      cases h
  . rintro ⟨rfl, hbs, hcs⟩
    rw [cutAt_append_cons (hother hbs) (beq_self_eq_true a), cutAt_of_forall_not (hother hcs)]

theorem not_mem_of_mem_splitOn [BEq α] [LawfulBEq α] {piece : List α} (h : piece ∈ as.splitOn a)
    : a ∉ piece := by
  induction as generalizing piece with
  | nil => simp_all
  | cons b as ih =>
    rw [List.splitOn_cons_eq_if_modifyHead] at h
    split at h
    . rcases List.mem_cons.1 h with rfl | h
      . exact List.not_mem_nil
      . exact ih h
    . next hb =>
      cases hsplit : as.splitOn a with
      | nil => exact absurd hsplit (List.splitOn_ne_nil a as)
      | cons first pieces =>
        rw [hsplit] at h ih
        rcases List.mem_cons.1 h with rfl | h
        . rw [List.mem_cons, not_or]
          exact ⟨fun heq => hb (beq_iff_eq.2 heq.symm), ih List.mem_cons_self⟩
        . exact ih (List.mem_cons_of_mem first h)

theorem span_eq_cons_iff
    : as.span p = (bs, a :: cs) ↔ as = bs ++ a :: cs ∧ (∀ b ∈ bs, p b = true) ∧ p a = false := by
  rw [List.span_eq_takeWhile_dropWhile, Prod.mk.injEq]
  constructor
  . rintro ⟨hbs, hcs⟩
    refine ⟨?_, ?_, ?_⟩
    . rw [← hbs, ← hcs, List.takeWhile_append_dropWhile]
    . rw [← hbs]
      intro b hb
      exact List.mem_takeWhile_imp hb
    . have := List.head_dropWhile_not p (l := as) (by simp [hcs])
      simpa [hcs] using this
  . rintro ⟨rfl, hall, ha⟩
    rw [List.takeWhile_append_of_pos hall, List.dropWhile_append_of_pos hall]
    simp [ha]

theorem span_ne_eq_cons_iff [BEq α] [LawfulBEq α] {b : α}
    : as.span (· != a) = (bs, b :: cs) ↔ b = a ∧ as = bs ++ a :: cs ∧ a ∉ bs := by
  rw [span_eq_cons_iff]
  simp only [bne_iff_ne, bne_eq_false_iff_eq, List.forall_mem_ne']
  constructor
  . rintro ⟨hsplit, hbs, rfl⟩
    exact ⟨rfl, hsplit, hbs⟩
  . rintro ⟨rfl, hsplit, hbs⟩
    exact ⟨hsplit, hbs, rfl⟩

end Counterpart.Text
