import Counterpart.Compatibility.Matrix
import Counterpart.Proofs.KeyMap

/-!
This module contains what it takes for two fields to be compatible, what becomes of it when choices
are appended to them, and that the matrix of two forms holds exactly the compatible pairs.
-/

namespace Counterpart

namespace Choices

variable {cs ds : Choices}

theorem get?_valueSet_iff {value : String} {u : Unit}
    : cs.valueSet.get? value = some u ↔ value ∈ cs.values := by
  have hcontains := KeyMap.contains_ofList (cs.values.map (·, ())) value
  unfold KeyMap.contains at hcontains
  rw [Option.isSome_iff_exists, Unique.exists_iff] at hcontains
  cases u
  unfold valueSet
  simpa using hcontains

theorem valueSet_eq_iff
    : cs.valueSet = ds.valueSet ↔ ∀ value, value ∈ cs.values ↔ value ∈ ds.values := by
  constructor
  . intro h value
    rw [← get?_valueSet_iff, ← get?_valueSet_iff (u := ()), h]
  . intro h
    apply KeyMap.ext_get?
    intro value
    apply Option.ext
    intro u
    rw [get?_valueSet_iff, get?_valueSet_iff]
    apply h

end Choices

namespace Field

variable {f g : Field} {extra more : Choices}

theorem carriesData_of_isCompatible (h : f.isCompatible g = true) : f.carriesData = true := by
  unfold carriesData
  cases hf : f.kind with
  | button => simp [isCompatible, hf] at h
  | _ => rfl

theorem mem_keys_compatibleWith_iff {fields : List Field} {key : String}
    : key ∈ (f.compatibleWith fields).map Field.key
        ↔
      ∃ i ∈ fields, f.isCompatible i = true ∧ i.key = key := by
  unfold compatibleWith
  simp only [List.mem_map, List.mem_filter, and_assoc]

end Field

namespace Matrix

variable {founders investors : List Field}

theorem byFounder_foldl_enter (founders investors : List Field) (m : Matrix)
    : (founders.foldl (·.enter investors ·) m).byFounder
        =
      founders.foldl (fun b f => b.insert f.key ((f.compatibleWith investors).map Field.key))
        m.byFounder := by
  symm
  apply List.foldl_hom
  intro m f
  rfl

theorem byFounder_build (founders investors : List Field)
    : (build founders investors).byFounder
        =
      .ofList ((founders.filter Field.carriesData).map fun f =>
        (f.key, (f.compatibleWith investors).map Field.key)) := by
  unfold build KeyMap.ofList
  rw [List.foldl_map]
  apply byFounder_foldl_enter

theorem nodup_keys_rows (h : (founders.map Field.key).Nodup) (investors : List Field)
    : (((founders.filter Field.carriesData).map fun f =>
        (f.key, (f.compatibleWith investors).map Field.key)).map Prod.fst).Nodup := by
  rw [List.map_map]
  exact h.sublist (List.filter_sublist.map Field.key)

theorem get?_byFounder_build_iff (h : (founders.map Field.key).Nodup) {key : String}
    {keys : List String}
    : (build founders investors).byFounder.get? key = some keys
        ↔
      ∃ f ∈ founders, f.carriesData = true ∧ f.key = key
        ∧ (f.compatibleWith investors).map Field.key = keys := by
  rw [byFounder_build, KeyMap.get?_ofList_eq_some_iff (nodup_keys_rows h investors)]
  simp only [List.mem_map, List.mem_filter, Prod.mk.injEq, and_assoc]

theorem isPair_build_iff (h : (founders.map Field.key).Nodup) {founder investor : String}
    : (build founders investors).isPair founder investor = true
        ↔
      ∃ f ∈ founders, ∃ i ∈ investors, f.key = founder ∧ i.key = investor
        ∧ f.isCompatible i = true := by
  unfold isPair forFounder
  rw [List.contains_iff_mem]
  constructor
  . intro hmem
    cases hkeys : (build founders investors).byFounder.get? founder with
    | none => simp [hkeys] at hmem
    | some keys =>
      rw [hkeys, Option.getD_some] at hmem
      rcases (get?_byFounder_build_iff h).1 hkeys with ⟨f, hf, _, hfounder, rfl⟩
      rcases Field.mem_keys_compatibleWith_iff.1 hmem with ⟨i, hi, hcompatible, hinvestor⟩
      exact ⟨f, hf, i, hi, hfounder, hinvestor, hcompatible⟩
  . rintro ⟨f, hf, i, hi, hfounder, hinvestor, hcompatible⟩
    have hdata := Field.carriesData_of_isCompatible hcompatible
    rw [(get?_byFounder_build_iff h).2 ⟨f, hf, hdata, hfounder, rfl⟩, Option.getD_some]
    exact Field.mem_keys_compatibleWith_iff.2 ⟨i, hi, hcompatible, hinvestor⟩

end Matrix

end Counterpart
