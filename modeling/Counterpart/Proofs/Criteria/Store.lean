import Mathlib.Data.List.Nodup
import Counterpart.Criteria.Store

/-!
This module contains what every operation on criteria keeps: a founder field occurs at most once,
and every weight is a number between zero and one.
-/

namespace Counterpart

open Numeric

def IsWeight (w : Double) : Prop :=
  ∃ x : Finite double, w = .finite x ∧ 0 ≤ x.units ∧ x.units ≤ one

theorem units_ofInt_zero : (Finite.ofInt double 0).units = 0 := by
  decide +kernel

theorem units_ofInt_one : (Finite.ofInt double 1).units = one := by
  decide +kernel

theorem isWeight_zero : IsWeight (.finite (.ofInt double 0)) := by
  refine ⟨_, rfl, ?_⟩
  rw [units_ofInt_zero]
  omega

theorem isWeight_one : IsWeight (.finite (.ofInt double 1)) := by
  refine ⟨_, rfl, ?_⟩
  rw [units_ofInt_one]
  omega

theorem isWeight_of_normalizeWeight {w v : Double} (h : normalizeWeight w = some v)
    : IsWeight v := by
  cases w with
  | infinite negative => cases h
  | nan => cases h
  | finite x =>
    simp only [normalizeWeight, Finite.lt, units_ofInt_zero, units_ofInt_one,
      decide_eq_true_eq] at h
    split at h
    . cases h
      exact isWeight_zero
    . split at h
      . cases h
        exact isWeight_one
      . cases h
        refine ⟨x, rfl, ?_⟩
        omega

namespace Pairing

variable {p : Pairing}

def Weighted (p : Pairing) : Prop := ∀ w, p.weight = some w → IsWeight w

theorem weighted_apply (h : p.Weighted) (patch : Patch) : (p.apply patch).Weighted := by
  intro w hw
  unfold apply at hw
  dsimp only at hw
  split at hw
  . exact isWeight_of_normalizeWeight hw
  . exact h w hw

theorem weighted_normalized (p : Pairing)
    : Weighted { p with weight := p.weight.bind normalizeWeight } := by
  intro w hw
  rcases Option.bind_eq_some_iff.1 hw with ⟨v, _, hv⟩
  exact isWeight_of_normalizeWeight hv

end Pairing

namespace Criteria

section ModifyFirst

variable {p : α → Bool} {f : α → α} {as : List α}

theorem map_modifyFirst {g : α → β} (h : ∀ a, g (f a) = g a)
    : (modifyFirst p f as).map g = as.map g := by
  induction as with
  | nil => rfl
  | cons a as ih =>
    unfold modifyFirst
    split
    . simp [h]
    . simp [ih]

theorem mem_modifyFirst {b : α} (h : b ∈ modifyFirst p f as) : b ∈ as ∨ ∃ a ∈ as, b = f a := by
  induction as with
  | nil => cases h
  | cons a as ih =>
    unfold modifyFirst at h
    split at h
    . rcases List.mem_cons.1 h with rfl | h
      . exact .inr ⟨a, List.mem_cons_self, rfl⟩
      . exact .inl (List.mem_cons_of_mem a h)
    . rcases List.mem_cons.1 h with rfl | h
      . exact .inl List.mem_cons_self
      . rcases ih h with h | ⟨c, hc, heq⟩
        . exact .inl (List.mem_cons_of_mem a h)
        . exact .inr ⟨c, List.mem_cons_of_mem a hc, heq⟩

end ModifyFirst

structure Sound (c : Criteria) : Prop where
  founders : (c.pairings.map Pairing.founder).Nodup
  weights : ∀ p ∈ c.pairings, p.Weighted

variable {c d : Criteria} {founder investor : String}

theorem get?_eq_none_iff : c.get? founder = none ↔ ∀ p ∈ c.pairings, p.founder ≠ founder := by
  unfold get?
  simp

theorem sound_empty : empty.Sound := by
  refine ⟨List.nodup_nil, ?_⟩
  intro p hp
  cases hp

namespace Sound

theorem append (hc : c.Sound) {p : Pairing} (hnew : c.get? p.founder = none) (hp : p.Weighted)
    : Sound ⟨c.pairings ++ [p]⟩ := by
  rw [get?_eq_none_iff] at hnew
  constructor
  . rw [List.map_append, List.nodup_append']
    exact ⟨hc.founders, List.nodup_singleton _, by simpa using hnew⟩
  . intro q hq
    rcases List.mem_append.1 hq with hq | hq
    . exact hc.weights q hq
    . rwa [List.mem_singleton.1 hq]

theorem addAll (hc : c.Sound) {ps : List Pairing} (h : c.addAll ps = .ok d) : d.Sound := by
  -- The pairings already stored are the accumulator, so soundness of `c` is the invariant.
  induction ps generalizing c with
  | nil =>
    cases h
    exact hc
  | cons p ps ih =>
    unfold Criteria.addAll at h
    split at h
    . cases h
    . next hnew =>
      apply ih _ h
      apply hc.append
      . exact hnew
      . exact p.weighted_normalized

theorem add (hc : c.Sound) (h : c.add founder investor = .ok d) : d.Sound := by
  unfold Criteria.add at h
  split at h
  . cases h
  . next hnew =>
    cases h
    apply hc.append hnew
    intro w hw
    cases hw

theorem edit (hc : c.Sound) (founder investor : String) (patch : Patch)
    : (c.edit founder investor patch).Sound := by
  constructor
  . unfold Criteria.edit
    dsimp only
    rw [map_modifyFirst]
    . exact hc.founders
    . intro p
      rfl
  . intro p hp
    rcases mem_modifyFirst hp with hp | ⟨q, hq, rfl⟩
    . exact hc.weights p hp
    . exact Pairing.weighted_apply (hc.weights q hq) patch

theorem remove (hc : c.Sound) (founder : String) : (c.remove founder).Sound := by
  have hsub : (c.remove founder).pairings.Sublist c.pairings := List.eraseP_sublist
  constructor
  . exact hc.founders.sublist (hsub.map Pairing.founder)
  . intro p hp
    exact hc.weights p (hsub.subset hp)

end Sound

end Criteria

end Counterpart
