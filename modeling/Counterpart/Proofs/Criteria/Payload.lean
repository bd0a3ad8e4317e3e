import Counterpart.Criteria.Codec
import Counterpart.Proofs.Criteria.Replay
import Counterpart.Proofs.Json.Scan
import Counterpart.Proofs.Session.Invariant

/-!
This module contains that criteria are restored from their stored form. No founder field is paired
twice, so nothing is refused, and the weights are in range, so none of them is changed.
-/

namespace Counterpart

open Numeric Json

theorem normalizeWeight_of_isWeight {w : Double} (h : IsWeight w) : normalizeWeight w = some w := by
  rcases h with ⟨x, rfl, hlow, hhigh⟩
  simp only [normalizeWeight, Finite.lt, units_ofInt_zero, units_ofInt_one, decide_eq_true_eq]
  rw [if_neg (by omega), if_neg (by omega)]

theorem Json.forall_mem_optionalMember_iff {P : String × Json → Prop} {name : String}
    {value : Option Json}
    : (∀ m ∈ optionalMember name value, P m) ↔ ∀ j, value = some j → P (name, j) := by
  cases value with
  | none => simp [optionalMember]
  | some j => simp [optionalMember]

namespace Pairing

def WeightReadsBack (p : Pairing) : Prop :=
  ∀ x, p.weight = some (.finite x) → (Number.float x).ReadsBack

variable {p : Pairing}

theorem Weighted.exists_finite (h : p.Weighted) {w : Double} (hw : p.weight = some w)
    : ∃ x, w = .finite x := by
  rcases h w hw with ⟨x, hx, _⟩
  exact ⟨x, hx⟩

theorem normalized_of_weighted (h : p.Weighted) : p.normalized = p := by
  unfold normalized
  cases hw : p.weight with
  | none => rw [Option.bind_none, ← hw]
  | some w => rw [Option.bind_some, normalizeWeight_of_isWeight (h w hw), ← hw]

theorem ofJson_toJson (h : p.Weighted) : decoder.ofJson p.toJson = .ok p := by
  rcases p with ⟨founder, investor, kind, weight, required⟩
  cases weight with
  | none =>
    cases kind with
    | identical => rfl
    | soft => rfl
  | some w =>
    rcases h.exists_finite rfl with ⟨x, rfl⟩
    cases kind with
    | identical => rfl
    | soft => rfl

theorem reads_kind (k : MatchKind) (depth : Nat)
    : MatchKind.decoder.Reads depth (.string k.name) := by
  cases k with
  | identical => exact Decoder.reads_choice rfl depth
  | soft => exact Decoder.reads_choice rfl depth

theorem reads_toJson (h : p.Weighted) (hweight : p.WeightReadsBack) (depth : Nat)
    : decoder.Reads (depth + 1) p.toJson := by
  have hstring (s : String) : ((fun _ => ()) <$> Decoder.string).Reads depth (.string s) :=
    (Decoder.reads_string s depth).map _
  have hkind : ((fun _ => ()) <$> MatchKind.decoder).Reads depth (.string p.kind.name) :=
    (reads_kind p.kind depth).map _
  have hnumber (j : Json) (hj : p.weight.map ofDouble = some j)
      : ((fun _ => ()) <$> Decoder.nullable .binary).Reads depth j := by
    rcases Option.map_eq_some_iff.1 hj with ⟨w, hw, rfl⟩
    rcases h.exists_finite hw with ⟨x, rfl⟩
    exact (Decoder.reads_nullableNumber (hweight x hw) depth).map _
  have hrequired : ((fun _ => ()) <$> Decoder.boolean).Reads depth (.bool p.required) :=
    (Decoder.reads_boolean p.required depth).map _
  apply Record.reads_object _ _ (ofJson_toJson h)
  . simp only [List.forall_mem_append, List.forall_mem_cons, forall_mem_optionalMember_iff]
    exact ⟨⟨⟨⟨_, rfl, hstring _⟩, ⟨_, rfl, hstring _⟩, ⟨_, rfl, hkind⟩, List.forall_mem_nil _⟩,
      fun j hj => ⟨_, rfl, hnumber j hj⟩⟩, ⟨_, rfl, hrequired⟩, List.forall_mem_nil _⟩
  . cases p.weight with
    | none => simp [optionalMember]
    | some w => simp [optionalMember]

end Pairing

namespace Criteria

variable {c : Criteria}

theorem ofPairings_pairings (h : c.Sound) : ofPairings c.pairings = .ok c := by
  unfold ofPairings
  rw [addAll_eq_replay, replay_eq_ok_iff]
  refine ⟨fun _ _ => rfl, h.founders, ?_⟩
  have hmap : c.pairings.map Pairing.normalized = c.pairings := by
    rw [List.map_congr_left, List.map_id]
    intro p hp
    exact Pairing.normalized_of_weighted (h.weights p hp)
  rw [hmap]
  rfl

theorem ofRead_pairings (h : c.Sound) : ofRead c.pairings = .ok c := by
  unfold ofRead
  rw [ofPairings_pairings h]

theorem pairings_ofJson_toJson (h : c.Sound)
    : (Decoder.list Pairing.decoder).ofJson c.toJson = .ok c.pairings := by
  apply Decoder.list_ofJson_map
  intro p hp
  exact Pairing.ofJson_toJson (h.weights p hp)

theorem reads_toJson (h : c.Sound) (hweights : ∀ p ∈ c.pairings, p.WeightReadsBack) (depth : Nat)
    : (Decoder.list Pairing.decoder).Reads (depth + 2) c.toJson := by
  apply Decoder.Reads.list
  intro j hj
  rcases List.mem_map.1 hj with ⟨p, hp, rfl⟩
  exact Pairing.reads_toJson (h.weights p hp) (hweights p hp) depth

/-- Criteria are restored from their stored form, and from the text of it if the text of every
weight reads as the weight; stored again they give the same text. -/
theorem restored_of_stored (h : c.Reachable)
    : ofJson c.toJson = .ok c
        ∧ ((∀ p ∈ c.pairings, p.WeightReadsBack) → ofText c.write = .ok c
            ∧ ∀ d, ofText c.write = .ok d → d.write = c.write) := by
  have hsound := h.sound
  constructor
  . unfold ofJson
    rw [pairings_ofJson_toJson hsound]
    exact ofRead_pairings hsound
  . intro hweights
    have hreads : (Decoder.list Pairing.decoder).Reads maxDepth c.toJson :=
      reads_toJson hsound hweights 125
    have hrestored : ofText c.write = .ok c := by
      unfold ofText write
      rw [Decoder.ofText_write hreads (pairings_ofJson_toJson hsound)]
      exact ofRead_pairings hsound
    refine ⟨hrestored, ?_⟩
    intro d hd
    rw [hrestored] at hd
    cases hd
    rfl

theorem restored_of_stored_stage
    : let one : Double := .finite (.ofInt double 1)
      let five : Double := .finite (.ofInt double 5)
      let twoFifths : Double := .finite ((Finite.ofInt double 2).div (.ofInt double 5))
      let stage : Pairing := { founder := "stage", investor := "\"A\"\n", weight := some one }
      let size : Pairing :=
        { founder := "größe", investor := "size", kind := .soft, weight := some twoFifths }
      let stored : Criteria := ⟨[stage, size]⟩
      ofPairings [{ stage with weight := some five }] = .ok ⟨[stage]⟩
        ∧ stored.Reachable
        ∧ (∀ p ∈ stored.pairings, p.WeightReadsBack)
        ∧ stored.write
            =
          "[\x7b\"founderField\":\"stage\",\"investorField\":\"\\\"A\\\"\\n\","
            ++ "\"matchType\":\"exact\",\"weight\":1.0,\"required\":false\x7d,"
            ++ "\x7b\"founderField\":\"größe\",\"investorField\":\"size\","
            ++ "\"matchType\":\"soft\",\"weight\":0.4,\"required\":false\x7d]"
        ∧ ofJson stored.toJson = .ok stored
        ∧ ofText stored.write = .ok stored
        ∧ ∀ d, ofText stored.write = .ok d → d.write = stored.write := by
  intro one five twoFifths stage size stored
  have hload : ofPairings [{ stage with weight := some five }] = .ok ⟨[stage]⟩ := by
    decide +kernel
  have hadd : Criteria.add ⟨[stage]⟩ "größe" "size"
      = .ok ⟨[stage, { founder := "größe", investor := "size" }]⟩ := by
    decide +kernel
  have hedit : Criteria.edit ⟨[stage, { founder := "größe", investor := "size" }]⟩ "größe" "size"
      { kind := some .soft, weight := some twoFifths } = stored := by
    decide +kernel
  have hreachable : stored.Reachable := by
    rw [← hedit]
    exact .edit _ _ _ (.add (.load hload) hadd)
  have hone : (Number.float (.ofInt double 1)).ReadsBack := by decide +kernel
  have htwoFifths : (Number.float ((Finite.ofInt double 2).div (.ofInt double 5))).ReadsBack := by
    decide +kernel
  have hweights : ∀ p ∈ stored.pairings, p.WeightReadsBack := by
    simp only [stored, List.forall_mem_cons]
    refine ⟨?_, ?_, List.forall_mem_nil _⟩
    . intro x hx
      rw [← Binary.finite.inj (Option.some.inj hx)]
      exact hone
    . intro x hx
      rw [← Binary.finite.inj (Option.some.inj hx)]
      exact htwoFifths
  have ⟨hjson, htext⟩ := restored_of_stored hreachable
  exact ⟨hload, hreachable, hweights, by decide +kernel, hjson, htext hweights⟩

end Criteria

end Counterpart
