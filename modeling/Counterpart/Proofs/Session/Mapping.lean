import Counterpart.Proofs.Compatibility.Matrix
import Counterpart.Proofs.Criteria.Append
import Counterpart.Proofs.Session.Reachable

/-!
This module contains when two fields of a session can be paired and what is stored then. The fields
are looked up and compared one by one, which comes to the same as asking the matrix of both forms.
-/

namespace Counterpart

open Numeric

namespace Session

variable {s t : Session} {founder investor : String}

theorem isPair_compatibility_iff
    : s.compatibility.isPair founder investor = true
        ↔
      ∃ f ∈ s.founder.schema.fields, ∃ i ∈ s.investor.schema.fields,
        f.key = founder ∧ i.key = investor ∧ f.isCompatible i = true := by
  apply Matrix.isPair_build_iff
  apply Schema.nodup_keys

theorem checkPair_eq_ok_iff
    : s.checkPair founder investor = .ok ()
        ↔
      s.compatibility.isPair founder investor = true := by
  rw [isPair_compatibility_iff]
  unfold checkPair
  constructor
  . intro h
    split at h
    . cases h
    . cases h
    . next f i hf hi =>
      split at h
      . next hcompatible =>
        rw [Schema.get?_eq_some_iff] at hf hi
        exact ⟨f, hf.1, i, hi.1, hf.2, hi.2, hcompatible⟩
      . cases h
  . rintro ⟨f, hf, i, hi, hfounder, hinvestor, hcompatible⟩
    rw [Schema.get?_eq_some_iff.2 ⟨hf, hfounder⟩, Schema.get?_eq_some_iff.2 ⟨hi, hinvestor⟩]
    simp [hcompatible]

theorem checkPair_ne_pairingLost : s.checkPair founder investor ≠ .error .pairingLost := by
  unfold checkPair
  split
  . simp
  . simp
  . split
    . simp
    . simp

def newPairing (s : Session) (founder investor : String) : Pairing where
  founder := founder
  investor := investor
  weight := s.settings.criteria.defaultWeight.bind normalizeWeight

theorem map_of_checkPair_eq_error {e : SessionError}
    (h : s.checkPair founder investor = .error e)
    : s.map founder investor = .error e := by
  unfold map
  rw [h]

theorem map_of_get?_eq_some {p : Pairing} (h : s.checkPair founder investor = .ok ())
    (hp : s.criteria.get? founder = some p)
    : s.map founder investor
        =
      .error (.criteria (.duplicateMapping founder p.investor investor)) := by
  unfold map
  rw [h]
  dsimp only
  rw [Criteria.add_of_get?_eq_some hp]

theorem newPairing_eq (s : Session) (founder investor : String)
    : s.newPairing founder investor
        =
      match s.defaultPatch? with
      | some patch => Pairing.apply { founder := founder, investor := investor } patch
      | none => { founder := founder, investor := investor } := by
  unfold newPairing defaultPatch?
  cases s.settings.criteria.defaultWeight with
  | none => rfl
  | some w => rfl

theorem map_of_get?_eq_none (h : s.checkPair founder investor = .ok ())
    (hnew : s.criteria.get? founder = none)
    : s.map founder investor
        =
      .ok (s.newPairing founder investor,
        { s with criteria := ⟨s.criteria.pairings ++ [s.newPairing founder investor]⟩ }) := by
  have hget : Criteria.get? ⟨s.criteria.pairings ++ [s.newPairing founder investor]⟩ founder
      = some (s.newPairing founder investor) := by
    apply Criteria.get?_append hnew
  have hnewPairing := s.newPairing_eq founder investor
  unfold map
  rw [h]
  dsimp only
  rw [Criteria.add_of_get?_eq_none hnew]
  dsimp only
  cases hpatch : s.defaultPatch? with
  | none =>
    rw [hpatch] at hnewPairing
    dsimp only at hnewPairing ⊢
    rw [← hnewPairing, hget]
  | some patch =>
    -- The update finds the pairing that was just added, because no other has its founder field.
    have hedit := Criteria.edit_append (p := { founder := founder, investor := investor }) hnew patch
    rw [hpatch] at hnewPairing
    dsimp only at hnewPairing hedit ⊢
    rw [hedit, ← hnewPairing, hget]

theorem map_eq_ok_iff {p : Pairing}
    : s.map founder investor = .ok (p, t)
        ↔
      s.checkPair founder investor = .ok () ∧ s.criteria.get? founder = none
        ∧ p = s.newPairing founder investor
        ∧ t = { s with criteria := ⟨s.criteria.pairings ++ [p]⟩ } := by
  cases hpair : s.checkPair founder investor with
  | error e => simp [map_of_checkPair_eq_error hpair]
  | ok =>
    cases hget : s.criteria.get? founder with
    | some existing => simp [map_of_get?_eq_some hpair hget]
    | none =>
      rw [map_of_get?_eq_none hpair hget]
      constructor
      . intro h
        cases h
        exact ⟨rfl, rfl, rfl, rfl⟩
      . rintro ⟨_, _, rfl, rfl⟩
        rfl

theorem exists_map_iff
    : (∃ p t, s.map founder investor = .ok (p, t))
        ↔
      s.checkPair founder investor = .ok () ∧ s.criteria.get? founder = none := by
  simp only [map_eq_ok_iff]
  constructor
  . rintro ⟨_, _, hpair, hnew, _, _⟩
    exact ⟨hpair, hnew⟩
  . rintro ⟨hpair, hnew⟩
    exact ⟨_, _, hpair, hnew, rfl, rfl⟩

theorem map_ne_pairingLost : s.map founder investor ≠ .error .pairingLost := by
  intro h
  cases hpair : s.checkPair founder investor with
  | error e =>
    rw [map_of_checkPair_eq_error hpair] at h
    cases h
    exact checkPair_ne_pairingLost hpair
  | ok =>
    cases hget : s.criteria.get? founder with
    | some existing =>
      rw [map_of_get?_eq_some hpair hget] at h
      cases h
    | none =>
      rw [map_of_get?_eq_none hpair hget] at h
      cases h

theorem remove_append {p : Pairing} (h : s.criteria.get? p.founder = none)
    : remove { s with criteria := ⟨s.criteria.pairings ++ [p]⟩ } p.founder = (some p, s) := by
  unfold remove
  dsimp only
  rw [Criteria.get?_append h, Criteria.remove_append h]

theorem perform_map_of_eq_error {e : SessionError} (h : s.map founder investor = .error e)
    : s.perform (.map founder investor) = s := by
  simp only [perform]
  rw [h]
  rfl

/-- Two fields are paired exactly if the matrix pairs them and the founder field is not yet paired.
The new pairing comes last and is the one that is given, and removing it undoes everything. If the
fields are not paired, nothing changes. -/
theorem map_succeeds_iff (s : Session) (founder investor : String)
    : ((∃ p t, s.map founder investor = .ok (p, t))
          ↔
        s.compatibility.isPair founder investor = true
          ∧ ∀ p ∈ s.criteria.pairings, p.founder ≠ founder)
      ∧ (∀ p t, s.map founder investor = .ok (p, t) →
          p = { founder, investor, kind := .identical, required := false,
                weight := s.settings.criteria.defaultWeight.bind normalizeWeight }
            ∧ t = { s with criteria := ⟨s.criteria.pairings ++ [p]⟩ }
            ∧ t.remove founder = (some p, s))
      ∧ ∀ e, s.map founder investor = .error e →
          e ≠ .pairingLost ∧ s.perform (.map founder investor) = s := by
  refine ⟨?_, ?_, ?_⟩
  . rw [exists_map_iff, checkPair_eq_ok_iff, Criteria.get?_eq_none_iff]
  . intro p t h
    rcases map_eq_ok_iff.1 h with ⟨_, hnew, rfl, rfl⟩
    exact ⟨rfl, rfl, remove_append hnew⟩
  . intro e h
    refine ⟨?_, perform_map_of_eq_error h⟩
    rintro rfl
    exact map_ne_pairingLost h

theorem map_succeeds_iff_raise
    : let raise : Field := { key := "raise", label := "Raise", kind := .number }
      let cheque : Field := { key := "cheque", label := "Cheque", kind := .number }
      let fund : Field := { key := "fund", label := "Fund", kind := .text }
      let settings : Settings := { criteria := { defaultWeight := some .nan } }
      ∃ s t : Session,
        s.Reachable ∧ s.founder.schema.fields = [raise] ∧ s.investor.schema.fields = [cheque, fund]
          ∧ s.settings = settings
          ∧ s.map "raise" "cheque" = .ok ({ founder := "raise", investor := "cheque" }, t)
          ∧ t.criteria.pairings = [{ founder := "raise", investor := "cheque" }]
          ∧ t.remove "raise" = (some { founder := "raise", investor := "cheque" }, s)
          ∧ (¬ ∃ p u, t.map "raise" "cheque" = .ok (p, u))
          ∧ (¬ ∃ p u, s.map "raise" "fund" = .ok (p, u)) := by
  intro raise cheque fund settings
  let s : Session :=
    { settings, founder := .ofSchema ⟨[raise], by decide +kernel⟩,
      investor := .ofSchema ⟨[cheque, fund], by decide +kernel⟩, criteria := .empty }
  let t := s.perform (.map "raise" "cheque")
  have hmap : s.map "raise" "cheque" = .ok ({ founder := "raise", investor := "cheque" }, t) := by
    decide +kernel
  have hsucceeds := (map_succeeds_iff s "raise" "cheque").2.1 _ _ hmap
  refine ⟨s, t, .start _ _ settings, rfl, rfl, rfl, hmap, ?_, hsucceeds.2.2, ?_, ?_⟩
  . rw [hsucceeds.2.1]
    rfl
  . rw [(map_succeeds_iff t "raise" "cheque").1]
    decide +kernel
  . rw [(map_succeeds_iff s "raise" "fund").1]
    decide +kernel

end Session

end Counterpart
