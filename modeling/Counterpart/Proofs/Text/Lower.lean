import Mathlib.Data.List.Basic
import Counterpart.Text.Case

/-!
This module contains that lower-casing is done once and for all: what a character is lowered to is left
as it is, so lowering a text again changes nothing. A text without a capital sigma is lowered character
by character.
-/

namespace Counterpart.Text

def bitsAt (places : List Nat) : Nat := places.foldr (fun place bits => bits ||| 1 <<< place) 0

theorem testBit_bitsAt {places : List Nat} {n : Nat}
    : (bitsAt places).testBit n = true ↔ n ∈ places := by
  unfold bitsAt
  induction places with
  | nil => simp
  | cons place places ih =>
    rw [List.foldr_cons, Nat.testBit_or, Bool.or_eq_true, ih, List.mem_cons, or_comm]
    simp [Nat.one_shiftLeft, Nat.testBit_two_pow, eq_comm]

/-- That two long lists are disjoint is seen at one operation on their bits. -/
theorem not_mem_of_bitsAt {as bs : List Nat} (h : bitsAt as &&& bitsAt bs = 0) {n : Nat}
    (hn : n ∈ as)
    : n ∉ bs := by
  intro hbs
  have hbit := congrArg (Nat.testBit · n) h
  simp [testBit_bitsAt.2 hn, testBit_bitsAt.2 hbs] at hbit

namespace CaseRun

variable {r : CaseRun} {n : Nat}

def members (r : CaseRun) : List Nat :=
  (List.range ((r.last - r.first) / r.step + 1)).map fun k => r.first + k * r.step

def form (r : CaseRun) (n : Nat) : Char := .ofNat (n + r.shift).toNat

theorem mem_members_of_covers (h : r.covers n = true) : n ∈ r.members := by
  unfold covers at h
  simp only [Bool.and_eq_true, decide_eq_true_eq, beq_iff_eq] at h
  rcases h with ⟨⟨hfirst, hlast⟩, hstep⟩
  have hplace := Nat.div_add_mod' (n - r.first) r.step
  have hle : (n - r.first) / r.step ≤ (r.last - r.first) / r.step :=
    Nat.div_le_div_right (Nat.sub_le_sub_right hlast r.first)
  refine List.mem_map.2 ⟨(n - r.first) / r.step, List.mem_range.2 (Nat.lt_succ_of_le hle), ?_⟩
  omega

end CaseRun

def upperCodes : List Nat := 0x130 :: caseRuns.flatMap CaseRun.members

def lowerForms : List Char :=
  'i' :: Char.ofNat 0x307 :: caseRuns.flatMap fun r => r.members.map r.form

theorem toNat_lowerForms_not_mem_upperCodes {c : Char} (h : c ∈ lowerForms)
    : c.toNat ∉ upperCodes := by
  have hbits : bitsAt (lowerForms.map Char.toNat) &&& bitsAt upperCodes = 0 := by decide +kernel
  exact not_mem_of_bitsAt hbits (List.mem_map_of_mem h)

variable {c d : Char} {before cs : List Char} {s : String}

theorem lowerChar_cases (c : Char)
    : lowerChar c = [c] ∨ c.toNat ∈ upperCodes ∧ ∀ d ∈ lowerChar c, d ∈ lowerForms := by
  unfold lowerChar
  split
  . next hdotted =>
    refine .inr ⟨hdotted ▸ List.mem_cons_self, ?_⟩
    simp [lowerForms]
  . split
    . next r hfind =>
      have hr := List.mem_of_find?_eq_some hfind
      have hcovers : r.covers c.toNat = true := List.find?_some (p := (CaseRun.covers · c.toNat)) hfind
      have hmember := CaseRun.mem_members_of_covers hcovers
      refine .inr ⟨List.mem_cons_of_mem _ (List.mem_flatMap.2 ⟨r, hr, hmember⟩), ?_⟩
      rw [List.forall_mem_singleton]
      have hform : r.form c.toNat ∈ r.members.map r.form := List.mem_map_of_mem hmember
      exact List.mem_cons_of_mem _ (List.mem_cons_of_mem _ (List.mem_flatMap.2 ⟨r, hr, hform⟩))
    . exact .inl rfl

theorem lowerChar_of_mem_lowerChar (h : d ∈ lowerChar c) : lowerChar d = [d] := by
  rcases lowerChar_cases c with hself | ⟨_, hforms⟩
  . rw [hself, List.mem_singleton] at h
    rw [h, hself]
  . rcases lowerChar_cases d with hself | ⟨hcode, _⟩
    . exact hself
    . exact absurd hcode (toNat_lowerForms_not_mem_upperCodes (hforms d h))

theorem toNat_ne_of_lowerChar_eq (h : lowerChar c = [c]) : c.toNat ≠ 0x3A3 := by
  intro hsigma
  rw [← Char.ofNat_toNat c, hsigma] at h
  exact absurd h (by decide +kernel)

theorem lowerChar_of_mem_lowerChars_go (h : d ∈ lowerChars.go before cs) : lowerChar d = [d] := by
  induction cs generalizing before with
  | nil => cases h
  | cons c cs ih =>
    unfold lowerChars.go at h
    rcases List.mem_append.1 h with hlowered | hrest
    . split at hlowered
      . -- A capital sigma has two forms, which both are lower case.
        split at hlowered
        . rw [List.mem_singleton.1 hlowered]
          decide +kernel
        . rw [List.mem_singleton.1 hlowered]
          decide +kernel
      . exact lowerChar_of_mem_lowerChar hlowered
    . exact ih hrest

theorem lowerChars_go_eq_flatMap (h : ∀ c ∈ cs, c.toNat ≠ 0x3A3)
    : lowerChars.go before cs = cs.flatMap lowerChar := by
  induction cs generalizing before with
  | nil => rfl
  | cons c cs ih =>
    have ⟨hc, hcs⟩ := List.forall_mem_cons.1 h
    rw [lowerChars.go, ih hcs, if_neg hc, List.flatMap_cons]

theorem lowerChars_eq_flatMap (h : ∀ c ∈ cs, c.toNat ≠ 0x3A3)
    : lowerChars cs = cs.flatMap lowerChar :=
  lowerChars_go_eq_flatMap h

theorem flatMap_lowerChar_eq_self (h : ∀ c ∈ cs, lowerChar c = [c])
    : cs.flatMap lowerChar = cs := by
  rw [List.flatMap_congr h, List.flatMap_singleton']

theorem lowerChars_eq_self_iff : lowerChars cs = cs ↔ ∀ c ∈ cs, lowerChar c = [c] := by
  constructor
  . intro h c hc
    rw [← h] at hc
    exact lowerChar_of_mem_lowerChars_go hc
  . intro h
    rw [lowerChars_eq_flatMap fun c hc => toNat_ne_of_lowerChar_eq (h c hc)]
    exact flatMap_lowerChar_eq_self h

@[simp]
theorem lowerChars_lowerChars (cs : List Char) : lowerChars (lowerChars cs) = lowerChars cs := by
  rw [lowerChars_eq_self_iff]
  intro c hc
  exact lowerChar_of_mem_lowerChars_go hc

theorem lower_eq_self_iff : lower s = s ↔ ∀ c ∈ s.toList, lowerChar c = [c] := by
  rw [← lowerChars_eq_self_iff, lower, ← String.toList_inj, String.toList_ofList]

@[simp]
theorem lower_lower (s : String) : lower (lower s) = lower s := by
  unfold lower
  rw [String.toList_ofList, lowerChars_lowerChars]

end Counterpart.Text
