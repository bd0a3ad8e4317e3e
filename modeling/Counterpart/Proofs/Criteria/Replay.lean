import Counterpart.Proofs.Criteria.Append

/-!
This module contains that a list of pairings may be loaded at once or entered one by one, each
added by its two fields and then updated with its properties. Both ways stop at the same pairing for
the same reason, or end with the same criteria.
-/

namespace Counterpart

namespace Pairing

def patch (p : Pairing) : Patch where
  kind := some p.kind
  weight := p.weight
  required := some p.required

def normalized (p : Pairing) : Pairing := { p with weight := p.weight.bind normalizeWeight }

theorem apply_patch (p : Pairing)
    : apply { founder := p.founder, investor := p.investor } p.patch = p.normalized := by
  unfold apply patch normalized
  cases p.weight with
  | none => rfl
  | some w => rfl

end Pairing

namespace Criteria

def enter (c : Criteria) (p : Pairing) : Except CriteriaError Criteria := do
  let added ← c.add p.founder p.investor
  return added.edit p.founder p.investor p.patch

def replay (c : Criteria) (ps : List Pairing) : Except CriteriaError Criteria := ps.foldlM enter c

variable {c d : Criteria} {p q : Pairing} {ps : List Pairing}

theorem enter_of_get?_eq_none (h : c.get? p.founder = none)
    : c.enter p = .ok ⟨c.pairings ++ [p.normalized]⟩ := by
  unfold enter
  rw [add_of_get?_eq_none h, ← Pairing.apply_patch]
  apply congrArg Except.ok
  apply edit_append
  exact h

theorem enter_of_get?_eq_some (h : c.get? p.founder = some q)
    : c.enter p = .error (.duplicateMapping p.founder q.investor p.investor) := by
  unfold enter
  rw [add_of_get?_eq_some h]
  rfl

theorem replay_cons_of_get?_eq_none (h : c.get? p.founder = none) (ps : List Pairing)
    : c.replay (p :: ps) = replay ⟨c.pairings ++ [p.normalized]⟩ ps := by
  unfold replay
  rw [List.foldlM_cons, enter_of_get?_eq_none h]
  rfl

theorem replay_cons_of_get?_eq_some (h : c.get? p.founder = some q) (ps : List Pairing)
    : c.replay (p :: ps) = .error (.duplicateMapping p.founder q.investor p.investor) := by
  unfold replay
  rw [List.foldlM_cons, enter_of_get?_eq_some h]
  rfl

theorem addAll_eq_replay (c : Criteria) (ps : List Pairing) : c.addAll ps = c.replay ps := by
  induction ps generalizing c with
  | nil => rfl
  | cons p ps ih =>
    rw [addAll]
    cases hp : c.get? p.founder with
    | some q => rw [replay_cons_of_get?_eq_some hp]
    | none =>
      rw [replay_cons_of_get?_eq_none hp]
      apply ih

theorem get?_concat_eq_none_iff {key : String}
    : get? ⟨c.pairings ++ [p.normalized]⟩ key = none ↔ c.get? key = none ∧ p.founder ≠ key := by
  rw [get?_eq_none_iff, get?_eq_none_iff]
  simp [Pairing.normalized, or_imp, forall_and]

theorem replay_eq_ok_iff
    : c.replay ps = .ok d
        ↔
      (∀ p ∈ ps, c.get? p.founder = none) ∧ (ps.map Pairing.founder).Nodup
        ∧ d = ⟨c.pairings ++ ps.map Pairing.normalized⟩ := by
  -- The founder fields already stored are those of `c`, so the rest has to avoid them as well.
  induction ps generalizing c with
  | nil => simp [replay, pure, Except.pure, eq_comm]
  | cons p ps ih =>
    cases hp : c.get? p.founder with
    | some q =>
      rw [replay_cons_of_get?_eq_some hp]
      simp [hp]
    | none =>
      rw [replay_cons_of_get?_eq_none hp, ih]
      simp only [get?_concat_eq_none_iff, List.forall_mem_cons, List.map_cons, List.nodup_cons,
        List.mem_map, List.append_assoc, List.singleton_append]
      grind

/-- Loading a list of pairings is entering them one by one. It succeeds exactly if no founder field
occurs twice, and then keeps the pairings in order, changed in nothing but their weights. -/
theorem ofPairings_eq_replay (ps : List Pairing)
    : ofPairings ps = replay empty ps
        ∧ ∀ c, ofPairings ps = .ok c
            ↔
          (ps.map Pairing.founder).Nodup ∧ c.pairings = ps.map Pairing.normalized := by
  constructor
  . apply addAll_eq_replay
  . intro c
    unfold ofPairings
    rw [addAll_eq_replay, replay_eq_ok_iff]
    cases c
    simp [empty, get?]

example
    : ofPairings [{ founder := "stage", investor := "focus" },
          { founder := "stage", investor := "ask" }, { founder := "stage", investor := "size" }]
        =
      .error (.duplicateMapping "stage" "focus" "ask") := by
  decide

end Criteria

end Counterpart
