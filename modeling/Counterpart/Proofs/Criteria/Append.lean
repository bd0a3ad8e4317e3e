import Counterpart.Proofs.Criteria.Store

/-!
This module contains what the operations on criteria do with a pairing that was just added. Its
founder field occurs nowhere before it, so it is the one that is found, updated and removed.
-/

namespace Counterpart

namespace Criteria

theorem modifyFirst_append {p : α → Bool} {as : List α} (h : ∀ a ∈ as, ¬ p a = true) (f : α → α)
    (bs : List α)
    : modifyFirst p f (as ++ bs) = as ++ modifyFirst p f bs := by
  induction as with
  | nil => rfl
  | cons a as ih =>
    rw [List.cons_append, modifyFirst, if_neg (h a List.mem_cons_self), ih]
    . rfl
    . intro b hb
      exact h b (List.mem_cons_of_mem a hb)

variable {c : Criteria} {p : Pairing} {founder : String}

theorem add_of_get?_eq_none (h : c.get? founder = none) (investor : String)
    : c.add founder investor = .ok ⟨c.pairings ++ [{ founder := founder, investor := investor }]⟩ := by
  unfold add
  rw [h]

theorem add_of_get?_eq_some (h : c.get? founder = some p) (investor : String)
    : c.add founder investor = .error (.duplicateMapping founder p.investor investor) := by
  unfold add
  rw [h]

theorem get?_append (h : c.get? p.founder = none)
    : get? ⟨c.pairings ++ [p]⟩ p.founder = some p := by
  unfold get? at h ⊢
  rw [List.find?_append, h]
  simp

theorem edit_append (h : c.get? p.founder = none) (patch : Patch)
    : edit ⟨c.pairings ++ [p]⟩ p.founder p.investor patch
        =
      ⟨c.pairings ++ [p.apply patch]⟩ := by
  rw [get?_eq_none_iff] at h
  unfold edit
  dsimp only
  rw [modifyFirst_append]
  . simp [modifyFirst, Pairing.pairs]
  . intro q hq
    simp [Pairing.pairs, h q hq]

theorem remove_append (h : c.get? p.founder = none)
    : remove ⟨c.pairings ++ [p]⟩ p.founder = c := by
  rw [get?_eq_none_iff] at h
  unfold remove
  dsimp only
  rw [List.eraseP_append_right]
  . simp
  . intro q hq
    simp [h q hq]

theorem mentions_append (c : Criteria) (p : Pairing) (key : String)
    : mentions ⟨c.pairings ++ [p]⟩ key = (c.mentions key || p.mentions key) := by
  unfold mentions
  simp

end Criteria

end Counterpart
