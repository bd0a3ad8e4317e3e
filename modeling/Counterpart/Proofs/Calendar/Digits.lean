import Mathlib.Algebra.GroupWithZero.Nat
import Counterpart.Calendar.Timestamp
import Counterpart.Proofs.Format.Scalar

/-!
This module contains how blocks of digits are read: as a whole where they have the width of the
number, up to the next character where they are shorter, and in part where they are longer. A
timestamp has a number of characters that no date with a bare time of day reaches.
-/

namespace Counterpart.Calendar

open Numeric Text

structure IsBlock (width : Nat) (ds : List Char) : Prop where
  length : ds.length = width
  digits : ∀ d ∈ ds, d.isDigit = true

def padded (width n : Nat) : List Char := (Nat.toDigits 10 n).leftpad width '0'

theorem ofDigits_padded (width n : Nat) : ofDigits (padded width n) = n := by
  unfold ofDigits padded List.leftpad
  rw [Nat.ofDigitChars_append, Nat.ofDigitChars_replicate_zero, Nat.mul_zero]
  exact Nat.ofDigitChars_ten_toDigits

theorem isBlock_padded {width n : Nat} (hwidth : 0 < width) (h : n < 10 ^ width)
    : IsBlock width (padded width n) := by
  constructor
  . unfold padded
    rw [List.length_leftpad, max_eq_left]
    exact (Nat.length_toDigits_le_iff (by decide) hwidth).2 h
  . intro d hd
    unfold padded List.leftpad at hd
    rcases List.mem_append.1 hd with hd | hd
    . rw [List.eq_of_mem_replicate hd]
      rfl
    . exact Nat.isDigit_of_mem_toDigits (by decide) (by decide) hd

variable {count width : Nat} {ds rest cs : List Char} {c : Char}

namespace IsBlock

theorem exists_cons (h : IsBlock count ds) (hcount : 0 < count)
    : ∃ d left, ds = d :: left ∧ d.isDigit = true := by
  cases ds with
  | nil => exact absurd h.length hcount.ne
  | cons d left => exact ⟨d, left, rfl, h.digits d List.mem_cons_self⟩

theorem drop (h : IsBlock count ds) (width : Nat) : IsBlock (count - width) (ds.drop width) := by
  constructor
  . rw [List.length_drop, h.length]
  . intro d hd
    exact h.digits d (List.mem_of_mem_drop hd)

theorem dropWhile_isBlank (h : IsBlock count ds) (hcount : 0 < count) (rest : List Char)
    : (ds ++ rest).dropWhile isBlank = ds ++ rest := by
  rcases h.exists_cons hcount with ⟨d, left, rfl, hd⟩
  exact List.dropWhile_cons_of_neg (not_isBlank_of_isDigit hd)

theorem takeNumber_long (h : IsBlock count ds) (hwidth : 0 < width) (hcount : width ≤ count)
    (rest : List Char)
    : takeNumber width (ds ++ rest)
        =
      some (ofDigits (ds.take width), ds.drop width ++ rest) := by
  have hle : width ≤ ds.length := hcount.trans_eq h.length.symm
  have htake : (ds ++ rest).take width = ds.take width := List.take_append_of_le_length hle
  have hdigits : (ds.take width).takeWhile Char.isDigit = ds.take width := by
    rw [List.takeWhile_eq_self_iff]
    intro d hd
    exact h.digits d (List.mem_of_mem_take hd)
  have hlength : (ds.take width).length = width := List.length_take_of_le hle
  have hne : (ds.take width).isEmpty = false := by
    rw [List.isEmpty_eq_false_iff, ← List.length_pos_iff, hlength]
    exact hwidth
  unfold takeNumber
  simp only [htake, hdigits, hne, hlength, List.drop_append_of_le_length hle, Bool.false_eq_true,
    if_false]

theorem takeNumber_exact (h : IsBlock width ds) (hwidth : 0 < width) (rest : List Char)
    : takeNumber width (ds ++ rest) = some (ofDigits ds, rest) := by
  rw [h.takeNumber_long hwidth le_rfl, List.take_of_length_le h.length.le]
  rw [List.drop_of_length_le h.length.le, List.nil_append]

theorem takeNumber_short (h : IsBlock count ds) (hcount : 0 < count) (hwidth : count ≤ width)
    (hc : c.isDigit = false) (rest : List Char)
    : takeNumber width (ds ++ c :: rest) = some (ofDigits ds, c :: rest) := by
  have hdigits : ((ds ++ c :: rest).take width).takeWhile Char.isDigit = ds := by
    rw [List.take_append, List.take_of_length_le (h.length.trans_le hwidth)]
    rw [List.takeWhile_append_of_pos h.digits]
    cases width - ds.length with
    | zero => simp
    | succ n => simp [hc]
  have hne : ds.isEmpty = false := by
    rw [List.isEmpty_eq_false_iff, ← List.length_pos_iff, h.length]
    exact hcount
  unfold takeNumber
  simp only [hdigits, hne, List.drop_left, Bool.false_eq_true, if_false]

theorem takeYear_eq (h : IsBlock count ds) (hcount : 0 < count) (rest : List Char)
    : takeYear (ds ++ rest) = (takeNumber 4 (ds ++ rest)).map fun (n, left) => ((n : Int), left) := by
  rcases h.exists_cons hcount with ⟨d, left, rfl, hd⟩
  rw [List.cons_append]
  unfold takeYear
  split
  . next heq =>
    cases heq
    cases hd
  . next heq =>
    cases heq
    cases hd
  . rfl

end IsBlock

section Timestamp

theorem length_of_takeDigits {n : Nat} (h : takeDigits count cs = some (n, rest))
    : cs.length = count + rest.length := by
  unfold takeDigits at h
  dsimp only at h
  split at h
  . next htake =>
    cases h
    have hcount := htake.1
    rw [List.length_take] at hcount
    rw [List.length_drop]
    omega
  . cases h

theorem length_of_takeChar {p : Char → Bool} (h : takeChar p cs = some rest)
    : cs.length = 1 + rest.length := by
  unfold takeChar at h
  split at h
  . cases h
  . split at h
    . cases h
      rw [List.length_cons, Nat.add_comm]
    . cases h

theorem length_of_dropFraction (h : dropFraction cs = some rest) : rest.length ≤ cs.length := by
  unfold dropFraction at h
  split at h
  . next left =>
    dsimp only at h
    split at h
    . cases h
    . cases h
      exact Nat.le_succ_of_le (List.length_dropWhile_le _ _)
  . cases h
    exact Nat.le_refl _

theorem length_of_isTimestamp (h : isTimestamp cs = true) : 20 ≤ cs.length := by
  unfold isTimestamp at h
  simp only [Option.any_eq_true, Option.bind_eq_bind, Option.bind_eq_some_iff, Prod.exists,
    Option.pure_def, Option.some.injEq, id_eq] at h
  rcases h with ⟨_, ⟨year, cs₁, h₁, cs₂, h₂, month, cs₃, h₃, cs₄, h₄, day, cs₅, h₅, cs₆, h₆, hour,
    cs₇, h₇, cs₈, h₈, minute, cs₉, h₉, cs₁₀, h₁₀, second, cs₁₁, h₁₁, cs₁₂, h₁₂, rfl⟩, hlast⟩
  have hoffset : 1 ≤ cs₁₂.length := by
    cases cs₁₂ with
    | nil => simp [isOffset, takeChar] at hlast
    | cons c cs => simp
  have := length_of_takeDigits h₁
  have := length_of_takeChar h₂
  have := length_of_takeDigits h₃
  have := length_of_takeChar h₄
  have := length_of_takeDigits h₅
  have := length_of_takeChar h₆
  have := length_of_takeDigits h₇
  have := length_of_takeChar h₈
  have := length_of_takeDigits h₉
  have := length_of_takeChar h₁₀
  have := length_of_takeDigits h₁₁
  have := length_of_dropFraction h₁₂
  omega

end Timestamp

end Counterpart.Calendar
