import Mathlib.Algebra.BigOperators.Group.List.Basic
import Mathlib.Algebra.GroupWithZero.Nat
import Counterpart.Proofs.Compatibility.Relation

/-!
This module contains that both views of a matrix show the same relation: a founder field lists an
investor field exactly if the investor field lists the founder field, and each list stands in the
order of the form it is taken from.
-/

namespace Counterpart

namespace Field

variable {f i : Field} {fields : List Field}

theorem nodup_keys_compatibleWith (h : (fields.map Field.key).Nodup) (f : Field)
    : ((f.compatibleWith fields).map Field.key).Nodup :=
  h.sublist (List.filter_sublist.map Field.key)

theorem key_mem_keys_compatibleWith_iff (h : (fields.map Field.key).Nodup) (hi : i ∈ fields)
    : i.key ∈ (f.compatibleWith fields).map Field.key ↔ f.isCompatible i = true := by
  rw [mem_keys_compatibleWith_iff]
  constructor
  . rintro ⟨j, hj, hcompatible, hkey⟩
    rwa [← List.inj_on_of_nodup_map h hj hi hkey]
  . intro hcompatible
    exact ⟨i, hi, hcompatible, rfl⟩

theorem compatibleWith_of_not_carriesData (h : ¬ f.carriesData = true) (fields : List Field)
    : f.compatibleWith fields = [] := by
  unfold compatibleWith
  rw [List.filter_eq_nil_iff]
  intro i _ hcompatible
  exact h (carriesData_of_isCompatible hcompatible)

end Field

namespace Matrix

variable {founders investors : List Field} {f i : Field} {key : String}

section Listed

def listed (m : KeyMap (List String)) (key : String) : List String := (m.get? key).getD []

theorem listed_append (m : KeyMap (List String)) (key value k : String)
    : listed (append m key value) k = listed m k ++ if k = key then [value] else [] := by
  unfold append listed
  rw [KeyMap.get?_insert]
  split
  . next h => rw [h, Option.getD_some]
  . rw [List.append_nil]

theorem listed_foldl_append {keys : List String} (h : keys.Nodup) (m : KeyMap (List String))
    (value k : String)
    : listed (keys.foldl (fun m key => append m key value) m) k
        =
      listed m k ++ if k ∈ keys then [value] else [] := by
  induction keys generalizing m with
  | nil => simp
  | cons key keys ih =>
    have ⟨hhead, htail⟩ := List.nodup_cons.1 h
    rw [List.foldl_cons, ih htail, listed_append, List.append_assoc]
    congr 1
    by_cases hk : k = key
    . simp [hk, hhead]
    . simp [hk]

theorem listed_ensure (m : KeyMap (List String)) (key k : String)
    : listed (ensure m key) k = listed m k := by
  unfold ensure
  split
  . rfl
  . next h =>
    unfold KeyMap.contains at h
    rw [Option.not_isSome_iff_eq_none] at h
    unfold listed
    rw [KeyMap.get?_insert]
    split
    . next hk => rw [hk, h, Option.getD_some, Option.getD_none]
    . rfl

theorem listed_foldl_ensure (keys : List String) (m : KeyMap (List String)) (k : String)
    : listed (keys.foldl ensure m) k = listed m k := by
  induction keys generalizing m with
  | nil => rfl
  | cons key keys ih => rw [List.foldl_cons, ih, listed_ensure]

end Listed

theorem forInvestor_enter (h : (investors.map Field.key).Nodup) (m : Matrix) (f : Field)
    (key : String)
    : (m.enter investors f).forInvestor key
        =
      m.forInvestor key
        ++ if key ∈ (f.compatibleWith investors).map Field.key then [f.key] else [] := by
  apply listed_foldl_append
  exact Field.nodup_keys_compatibleWith h f

theorem forInvestor_foldl_enter (h : (investors.map Field.key).Nodup) (founders : List Field)
    (m : Matrix) (key : String)
    : (founders.foldl (·.enter investors ·) m).forInvestor key
        =
      m.forInvestor key
        ++ (founders.filter fun f =>
              key ∈ (f.compatibleWith investors).map Field.key).map Field.key := by
  induction founders generalizing m with
  | nil => simp
  | cons f founders ih =>
    rw [List.foldl_cons, ih, forInvestor_enter h, List.append_assoc]
    congr 1
    by_cases hkey : key ∈ (f.compatibleWith investors).map Field.key
    . rw [if_pos hkey, List.filter_cons_of_pos (by simpa using hkey)]
      rfl
    . rw [if_neg hkey, List.filter_cons_of_neg (by simpa using hkey)]
      rfl

theorem forInvestor_build (h : (investors.map Field.key).Nodup) (founders : List Field)
    (key : String)
    : (build founders investors).forInvestor key
        =
      (founders.filter fun f =>
        key ∈ (f.compatibleWith investors).map Field.key).map Field.key := by
  have hensure : (build founders investors).forInvestor key
      =
    ((founders.filter Field.carriesData).foldl (·.enter investors ·) empty).forInvestor key := by
    apply listed_foldl_ensure
  have hempty : empty.forInvestor key = [] := rfl
  rw [hensure, forInvestor_foldl_enter h, hempty, List.nil_append, List.filter_filter]
  congr 1
  apply List.filter_congr
  intro f _
  by_cases hdata : f.carriesData = true
  . simp [hdata]
  . simp [Field.compatibleWith_of_not_carriesData hdata]

theorem forInvestor_build_of_mem (h : (investors.map Field.key).Nodup) (founders : List Field)
    (hi : i ∈ investors)
    : (build founders investors).forInvestor i.key
        =
      (founders.filter (·.isCompatible i)).map Field.key := by
  rw [forInvestor_build h]
  congr 1
  apply List.filter_congr
  intro f _
  rw [Bool.eq_iff_iff, decide_eq_true_eq]
  exact Field.key_mem_keys_compatibleWith_iff h hi

theorem forFounder_build_eq_nil (h : (founders.map Field.key).Nodup)
    (hkey : ∀ f ∈ founders, f.key = key → ¬ f.carriesData = true)
    : (build founders investors).forFounder key = [] := by
  unfold forFounder
  cases hkeys : (build founders investors).byFounder.get? key with
  | none => rfl
  | some keys =>
    rcases (get?_byFounder_build_iff h).1 hkeys with ⟨f, hf, hdata, hfkey, _⟩
    exact absurd hdata (hkey f hf hfkey)

theorem forFounder_build_of_mem (h : (founders.map Field.key).Nodup) (hf : f ∈ founders)
    : (build founders investors).forFounder f.key = (f.compatibleWith investors).map Field.key := by
  by_cases hdata : f.carriesData = true
  . unfold forFounder
    rw [(get?_byFounder_build_iff h).2 ⟨f, hf, hdata, rfl, rfl⟩, Option.getD_some]
  . rw [Field.compatibleWith_of_not_carriesData hdata, List.map_nil]
    apply forFounder_build_eq_nil h
    intro g hg hkey
    rwa [List.inj_on_of_nodup_map h hg hf hkey]

theorem forInvestor_build_eq_nil (h : (investors.map Field.key).Nodup)
    (hkey : ∀ i ∈ investors, i.key = key → ¬ i.carriesData = true)
    : (build founders investors).forInvestor key = [] := by
  rw [forInvestor_build h, List.map_eq_nil_iff, List.filter_eq_nil_iff]
  intro f _ hmem
  rcases Field.mem_keys_compatibleWith_iff.1 (of_decide_eq_true hmem) with ⟨i, hi, hcompatible, hik⟩
  rw [Field.isCompatible_comm] at hcompatible
  exact hkey i hi hik (Field.carriesData_of_isCompatible hcompatible)

theorem mem_forInvestor_build_iff (h : (investors.map Field.key).Nodup) {founder investor : String}
    : founder ∈ (build founders investors).forInvestor investor
        ↔
      ∃ f ∈ founders, ∃ i ∈ investors, f.key = founder ∧ i.key = investor
        ∧ f.isCompatible i = true := by
  rw [forInvestor_build h, List.mem_map]
  simp only [List.mem_filter, decide_eq_true_eq, Field.mem_keys_compatibleWith_iff]
  constructor
  . rintro ⟨f, ⟨hf, i, hi, hcompatible, hik⟩, hfk⟩
    exact ⟨f, hf, i, hi, hfk, hik, hcompatible⟩
  . rintro ⟨f, hf, i, hi, hfk, hik, hcompatible⟩
    exact ⟨f, ⟨hf, i, hi, hcompatible, hik⟩, hfk⟩

theorem isPair_iff_mem_forFounder (m : Matrix) (founder investor : String)
    : m.isPair founder investor = true ↔ investor ∈ m.forFounder founder := by
  unfold isPair
  rw [List.contains_iff_mem]

theorem pairwise_unmatchedFounders (m : Matrix) : m.unmatchedFounders.Pairwise (· < ·) := by
  unfold unmatchedFounders
  apply List.Pairwise.sublist (List.filter_sublist.map Prod.fst)
  exact m.byFounder.sorted

theorem mem_unmatchedFounders_iff (m : Matrix)
    : key ∈ m.unmatchedFounders ↔ m.byFounder.get? key = some [] := by
  unfold unmatchedFounders
  rw [KeyMap.get?_eq_some_iff]
  simp

theorem mem_unmatchedFounders_build_iff (h : (founders.map Field.key).Nodup)
    : key ∈ (build founders investors).unmatchedFounders
        ↔
      ∃ f ∈ founders, f.carriesData = true ∧ f.key = key
        ∧ ∀ i ∈ investors, ¬ f.isCompatible i = true := by
  rw [mem_unmatchedFounders_iff, get?_byFounder_build_iff h]
  unfold Field.compatibleWith
  simp only [List.map_eq_nil_iff, List.filter_eq_nil_iff]

section Count

theorem countP_eq_sum (p : α → Bool) (as : List α)
    : as.countP p = (as.map fun a => if p a then 1 else 0).sum := by
  induction as with
  | nil => rfl
  | cons a as ih => rw [List.countP_cons, List.map_cons, List.sum_cons, ih, Nat.add_comm]

theorem sum_countP_comm (r : α → β → Bool) (as : List α) (bs : List β)
    : (as.map fun a => bs.countP (r a)).sum = (bs.map fun b => as.countP (r · b)).sum := by
  induction as with
  | nil => simp
  | cons a as ih =>
    simp only [List.countP_cons, List.sum_map_add]
    rw [List.map_cons, List.sum_cons, ih, countP_eq_sum, Nat.add_comm]

theorem pairCount_eq_sum (m : Matrix) : m.pairCount = (m.byFounder.values.map List.length).sum := by
  unfold pairCount
  apply List.length_flatten

theorem sum_length_carryingData (founders investors : List Field)
    : ((founders.filter Field.carriesData).map fun f => (f.compatibleWith investors).length).sum
        =
      (founders.map fun f => (f.compatibleWith investors).length).sum := by
  induction founders with
  | nil => rfl
  | cons f founders ih =>
    rw [List.map_cons, List.sum_cons, ← ih]
    by_cases hdata : f.carriesData = true
    . rw [List.filter_cons_of_pos hdata, List.map_cons, List.sum_cons]
    . rw [List.filter_cons_of_neg hdata, Field.compatibleWith_of_not_carriesData hdata]
      rw [List.length_nil, Nat.zero_add]

theorem pairCount_build (h : (founders.map Field.key).Nodup) (investors : List Field)
    : (build founders investors).pairCount
        =
      (founders.map fun f => (f.compatibleWith investors).length).sum := by
  rw [pairCount_eq_sum, byFounder_build, ← sum_length_carryingData]
  unfold KeyMap.values
  rw [List.map_map]
  have hperm := KeyMap.perm_entries_ofList (nodup_keys_rows h investors)
  rw [(hperm.map (List.length ∘ Prod.snd)).sum_eq, List.map_map]
  simp [Function.comp_def]

theorem pairCount_build_rows (h : (founders.map Field.key).Nodup) (investors : List Field)
    : (build founders investors).pairCount
        =
      (founders.map fun f => ((build founders investors).forFounder f.key).length).sum := by
  rw [pairCount_build h]
  congr 1
  apply List.map_congr_left
  intro f hf
  rw [forFounder_build_of_mem h hf, List.length_map]

theorem pairCount_build_columns (hfounders : (founders.map Field.key).Nodup)
    (hinvestors : (investors.map Field.key).Nodup)
    : (build founders investors).pairCount
        =
      (investors.map fun i => ((build founders investors).forInvestor i.key).length).sum := by
  rw [pairCount_build hfounders]
  calc
    (founders.map fun f => (f.compatibleWith investors).length).sum
    _ = (founders.map fun f => investors.countP f.isCompatible).sum := by
      simp only [Field.compatibleWith, List.countP_eq_length_filter]
    _ = (investors.map fun i => founders.countP (·.isCompatible i)).sum := by
      apply sum_countP_comm
    _ = (investors.map fun i => ((build founders investors).forInvestor i.key).length).sum := by
      congr 1
      apply List.map_congr_left
      intro i hi
      rw [forInvestor_build_of_mem hinvestors founders hi, List.length_map]
      rw [List.countP_eq_length_filter]

end Count

/-- Both views of a matrix show the compatible pairs of fields and nothing else, each in the order
of the other form. Keys that no field with data has are not listed, the founder fields without a
counterpart are told in the order of their keys, and every pair is counted once. -/
theorem build_views (hfounders : (founders.map Field.key).Nodup)
    (hinvestors : (investors.map Field.key).Nodup)
    : let m := build founders investors
      (∀ f ∈ founders, m.forFounder f.key = (f.compatibleWith investors).map Field.key)
        ∧ (∀ i ∈ investors,
            m.forInvestor i.key = (founders.filter (·.isCompatible i)).map Field.key)
        ∧ (∀ founder investor,
            (m.isPair founder investor = true ↔ investor ∈ m.forFounder founder)
              ∧ (m.isPair founder investor = true ↔ founder ∈ m.forInvestor investor)
              ∧ (m.isPair founder investor = true
                  ↔
                ∃ f ∈ founders, ∃ i ∈ investors, f.key = founder ∧ i.key = investor
                  ∧ f.isCompatible i = true))
        ∧ (∀ key, (∀ f ∈ founders, f.key = key → ¬ f.carriesData = true) → m.forFounder key = [])
        ∧ (∀ key, (∀ i ∈ investors, i.key = key → ¬ i.carriesData = true) → m.forInvestor key = [])
        ∧ m.unmatchedFounders.Pairwise (· < ·)
        ∧ (∀ key, key ∈ m.unmatchedFounders
            ↔
          ∃ f ∈ founders, f.carriesData = true ∧ f.key = key
            ∧ ∀ i ∈ investors, ¬ f.isCompatible i = true)
        ∧ m.pairCount = (founders.map fun f => (m.forFounder f.key).length).sum
        ∧ m.pairCount = (investors.map fun i => (m.forInvestor i.key).length).sum := by
  intro m
  refine ⟨fun f hf => forFounder_build_of_mem hfounders hf,
    fun i hi => forInvestor_build_of_mem hinvestors founders hi, ?_,
    fun key => forFounder_build_eq_nil hfounders, fun key => forInvestor_build_eq_nil hinvestors,
    pairwise_unmatchedFounders m, fun key => mem_unmatchedFounders_build_iff hfounders,
    pairCount_build_rows hfounders investors, pairCount_build_columns hfounders hinvestors⟩
  intro founder investor
  refine ⟨isPair_iff_mem_forFounder m founder investor, ?_, isPair_build_iff hfounders⟩
  rw [isPair_build_iff hfounders, mem_forInvestor_build_iff hinvestors]

theorem build_views_stage
    : let seed : Choice := .ofValue "seed"
      let stage : Field := { key := "stage", label := "Stage", kind := .select, choices := [seed] }
      let round : Field := { key := "round", label := "Round", kind := .radio, choices := [seed] }
      let email : Field := { key := "email", label := "Email", kind := .email }
      let send : Field := { key := "send", label := "Send", kind := .button }
      let stages : Field := { stage with kind := .multiselect }
      let founders := [round, stage, email, send]
      let investors := [send, stages]
      let m := build founders investors
      (founders.map Field.key).Nodup ∧ (investors.map Field.key).Nodup
        ∧ m.forFounder "round" = ["stage"]
        ∧ m.forInvestor "stage" = ["round", "stage"]
        ∧ m.isPair "stage" "stage" = true
        ∧ m.forFounder "send" = []
        ∧ m.unmatchedFounders = ["email"]
        ∧ m.pairCount = 2 := by
  intro seed stage round email send stages founders investors m
  have hfounders : (founders.map Field.key).Nodup := by decide
  have hinvestors : (investors.map Field.key).Nodup := by decide
  have hviews := build_views hfounders hinvestors
  have hcolumn : m.forInvestor "stage" = ["round", "stage"] := hviews.2.1 stages (by decide)
  refine ⟨hfounders, hinvestors, hviews.1 round (by decide), hcolumn, ?_, ?_, by decide +kernel, ?_⟩
  . rw [(hviews.2.2.1 "stage" "stage").2.1, hcolumn]
    decide
  . exact hviews.1 send (by decide)
  . rw [hviews.2.2.2.2.2.2.2.2]
    decide +kernel

end Matrix

end Counterpart
