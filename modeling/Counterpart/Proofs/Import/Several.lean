import Mathlib.Data.List.Nodup
import Counterpart.Import.Transform
import Counterpart.Proofs.Import.Occurrences

/-!
This module contains how a cell with several choices is read. Each of its texts stands for a value,
that of the choice it names or else itself. A cell without texts is not read, nor is one with a text
that names no choice, unless choices are created; any other is read as the values that its texts
stand for, each once and in the order in which they first occur.
-/

namespace Counterpart

open Text

section FirstOccurrences

variable {ss ts before covered after : List String} {s : String}

/-- Whether `ss` are the members of `ts`, each once, in the order in which they first occur. -/
structure ListsOnce (ss ts : List String) : Prop where
  mem : ∀ s, s ∈ ss ↔ s ∈ ts
  ordered : ss.Pairwise fun s t => ts.idxOf s < ts.idxOf t

theorem ListsOnce.nodup (h : ListsOnce ss ts) : ss.Nodup := by
  apply h.ordered.imp
  rintro s t hlt rfl
  exact absurd hlt (Nat.lt_irrefl _)

theorem eraseDups_concat_of_mem (h : s ∈ ts) : (ts ++ [s]).eraseDups = ts.eraseDups := by
  rw [List.eraseDups_append]
  simp [List.removeAll, h]

theorem eraseDups_concat_of_not_mem (h : s ∉ ts)
    : (ts ++ [s]).eraseDups = ts.eraseDups ++ [s] := by
  rw [List.eraseDups_append]
  simp [List.removeAll, h, List.eraseDups_cons]

theorem pairwise_idxOf_eraseDups (ts : List String)
    : ts.eraseDups.Pairwise fun s t => ts.idxOf s < ts.idxOf t := by
  induction ts using List.reverseRecOn with
  | nil => simp
  | append_singleton ts s ih =>
    -- A further element does not move the first occurrences of those before it.
    have hold : (ts.eraseDups).Pairwise fun t u => (ts ++ [s]).idxOf t < (ts ++ [s]).idxOf u := by
      apply ih.imp_of_mem
      intro t u ht hu hlt
      rw [List.mem_eraseDups] at ht hu
      rwa [List.idxOf_append_of_mem ht, List.idxOf_append_of_mem hu]
    by_cases hs : s ∈ ts
    . rw [eraseDups_concat_of_mem hs]
      exact hold
    . rw [eraseDups_concat_of_not_mem hs, List.pairwise_append]
      refine ⟨hold, List.pairwise_singleton _ s, ?_⟩
      intro t ht u hu
      rw [List.mem_eraseDups] at ht
      rw [List.mem_singleton.1 hu, List.idxOf_append_of_mem ht, List.idxOf_append_of_notMem hs]
      exact Nat.lt_add_right _ (List.idxOf_lt_length_of_mem ht)

theorem listsOnce_eraseDups (ts : List String) : ListsOnce ts.eraseDups ts :=
  ⟨fun _ => List.mem_eraseDups, pairwise_idxOf_eraseDups ts⟩

theorem eraseDups_of_covered (h : ∀ s ∈ covered, s ∈ before)
    : (before ++ covered ++ after).eraseDups = (before ++ after).eraseDups := by
  have hcovered : covered.removeAll before = [] := by
    simpa [List.removeAll, List.filter_eq_nil_iff] using h
  have hafter : after.removeAll (before ++ covered) = after.removeAll before := by
    apply List.filter_congr
    intro s _
    by_cases hs : s ∈ covered
    . simp [h s hs]
    . simp [hs]
  rw [List.eraseDups_append, List.eraseDups_append, List.eraseDups_append, hcovered, hafter]
  simp

theorem mapM_ite {p : String → Prop} [DecidablePred p] {g : String → String} (ts : List String)
    : ts.mapM (fun t => if p t then some (g t) else none)
        =
      if ∀ t ∈ ts, p t then some (ts.map g) else none := by
  induction ts with
  | nil => simp
  | cons t ts ih =>
    rw [List.mapM_cons, ih]
    simp only [List.forall_mem_cons]
    by_cases ht : p t
    . rw [if_pos ht]
      by_cases hts : ∀ u ∈ ts, p u
      . rw [if_pos hts, if_pos ⟨ht, hts⟩]
        rfl
      . rw [if_neg hts, if_neg fun h => hts h.2]
        rfl
    . have hcons : ¬ (p t ∧ ∀ u ∈ ts, p u) := fun h => ht h.1
      rw [if_neg ht, if_neg hcons]
      rfl

end FirstOccurrences

namespace Field

variable {f : Field} {j v : Json} {s t : String}

def meaning (f : Field) (t : String) : String := (f.choices.normalize? t).getD t

def Reads (f : Field) (create : Bool) (t : String) : Prop :=
  create = true ∨ f.choices.namesChoice t = true
  deriving Decidable

def ReadsAll (f : Field) (create : Bool) (ts : List String) : Prop :=
  ts ≠ [] ∧ ∀ t ∈ ts, f.Reads create t
  deriving Decidable

theorem readsAll_iff {create : Bool} {ts : List String}
    : f.ReadsAll create ts
        ↔
      ts ≠ [] ∧ (create = true ∨ ∀ t ∈ ts, f.choices.namesChoice t = true) := by
  unfold ReadsAll Reads
  cases create with
  | true => simp
  | false => simp

theorem choiceValue?_eq (f : Field) (create : Bool) (t : String)
    : f.choiceValue? create t = if f.Reads create t then some (f.meaning t) else none := by
  have hreads : f.Reads create t ↔ create = true ∨ (f.choices.normalize? t).isSome = true := by
    rw [Choices.isSome_normalize?]
    rfl
  unfold choiceValue? meaning
  simp only [hreads]
  cases f.choices.normalize? t with
  | none => simp
  | some value => simp

theorem cellTexts_eq_cellTokens (h : f.kind = .multiselect) (j : Json)
    : f.cellTexts j = (Import.cellTokens? j).getD [] := by
  unfold cellTexts Import.cellTokens?
  cases j with
  | array items => rfl
  | null | object => rfl
  | bool | number | string => simp [h, Json.scalarText?, clean_tokens]

theorem transform?_several (hkind : f.kind = .multiselect) (create : Bool) (j : Json)
    : f.transform? create j
        =
      if f.ReadsAll create (f.cellTexts j) then
        some (Json.strings ((f.cellTexts j).map f.meaning).eraseDups)
      else
        none := by
  have htexts := cellTexts_eq_cellTokens hkind j
  unfold transform?
  rw [hkind]
  cases htokens : Import.cellTokens? j with
  | none =>
    rw [htokens, Option.getD_none] at htexts
    rw [htexts, if_neg fun h => h.1 rfl]
    rfl
  | some tokens =>
    rw [htokens, Option.getD_some] at htexts
    dsimp only [Option.bind_eq_bind, Option.bind_some]
    rw [htexts, funext (f.choiceValue?_eq create), mapM_ite]
    by_cases hall : ∀ t ∈ tokens, f.Reads create t
    . rw [if_pos hall, Option.bind_some]
      by_cases hnil : tokens = []
      . have hreads : ¬ f.ReadsAll create tokens := fun h => h.1 hnil
        rw [if_neg hreads, hnil]
        rfl
      . have hreads : f.ReadsAll create tokens := ⟨hnil, hall⟩
        rw [if_neg (by simpa using hnil), if_pos hreads]
    . have hreads : ¬ f.ReadsAll create tokens := fun h => hall h.2
      rw [if_neg hall, if_neg hreads, Option.bind_none]

theorem hasValue_meaning (h : f.choices.namesChoice t = true)
    : f.choices.hasValue (f.meaning t) = true := by
  rw [← Choices.isSome_normalize?, Option.isSome_iff_exists] at h
  rcases h with ⟨value, hvalue⟩
  unfold meaning
  rw [hvalue]
  exact Choices.hasValue_of_normalize? hvalue

theorem exists_strings_of_several (hkind : f.kind = .multiselect)
    (h : f.transform? false j = some v)
    : ∃ values, v = Json.strings values ∧ ∀ value ∈ values, f.choices.hasValue value = true := by
  rw [transform?_several hkind] at h
  split at h
  . next hreads =>
    cases h
    refine ⟨_, rfl, ?_⟩
    intro value hvalue
    rcases List.mem_map.1 (List.mem_eraseDups.1 hvalue) with ⟨t, ht, rfl⟩
    rcases hreads.2 t ht with hcreate | hnames
    . cases hcreate
    . exact hasValue_meaning hnames
  . cases h

theorem namesChoice_of_hasValue_meaning (ht : trim t = t)
    (h : f.choices.hasValue (f.meaning t) = true)
    : f.choices.namesChoice t = true := by
  cases hvalue : f.choices.normalize? t with
  | some value => rw [← Choices.isSome_normalize?, hvalue]; rfl
  | none =>
    unfold meaning at h
    rw [hvalue, Option.getD_none] at h
    apply Choices.namesChoice_of_hasValue
    rwa [ht]

theorem reads_of_meaning_eq {create : Bool} (ht : trim t = t) (heq : f.meaning t = f.meaning s)
    (h : f.Reads create s)
    : f.Reads create t := by
  rcases h with hcreate | hs
  . exact .inl hcreate
  . apply Or.inr
    apply namesChoice_of_hasValue_meaning ht
    rw [heq]
    exact hasValue_meaning hs

def Covers (f : Field) (before covered : List String) : Prop :=
  ∀ t ∈ covered, ∃ s ∈ before, f.meaning t = f.meaning s
  deriving Decidable

theorem readsAll_of_covers {create : Bool} {before covered after : List String}
    (htrim : ∀ t ∈ covered, trim t = t) (h : f.Covers before covered)
    : f.ReadsAll create (before ++ covered ++ after) ↔ f.ReadsAll create (before ++ after) := by
  unfold ReadsAll
  apply and_congr
  . apply not_congr
    simp only [List.append_eq_nil_iff]
    constructor
    . rintro ⟨⟨hbefore, _⟩, hafter⟩
      exact ⟨hbefore, hafter⟩
    . rintro ⟨hbefore, hafter⟩
      refine ⟨⟨hbefore, ?_⟩, hafter⟩
      -- With nothing before them there is nothing that texts could stand for.
      rw [List.eq_nil_iff_forall_not_mem]
      intro t ht
      rcases h t ht with ⟨s, hs, _⟩
      rw [hbefore] at hs
      cases hs
  . simp only [List.forall_mem_append]
    constructor
    . rintro ⟨⟨hbefore, _⟩, hafter⟩
      exact ⟨hbefore, hafter⟩
    . rintro ⟨hbefore, hafter⟩
      refine ⟨⟨hbefore, ?_⟩, hafter⟩
      intro t ht
      rcases h t ht with ⟨s, hs, heq⟩
      exact reads_of_meaning_eq (htrim t ht) heq (hbefore s hs)

theorem eraseDups_map_meaning_of_covers {before covered after : List String}
    (h : f.Covers before covered)
    : ((before ++ covered ++ after).map f.meaning).eraseDups
        =
      ((before ++ after).map f.meaning).eraseDups := by
  rw [List.map_append, List.map_append, List.map_append]
  apply eraseDups_of_covered
  intro value hvalue
  rcases List.mem_map.1 hvalue with ⟨t, ht, rfl⟩
  rcases h t ht with ⟨s, hs, heq⟩
  exact List.mem_map.2 ⟨s, hs, heq.symm⟩

theorem transform?_of_covers (hkind : f.kind = .multiselect) (create : Bool) {i j : Json}
    {before covered after : List String} (hj : f.cellTexts j = before ++ after)
    (hi : f.cellTexts i = before ++ covered ++ after) (h : f.Covers before covered)
    : f.transform? create i = f.transform? create j := by
  have htrim : ∀ t ∈ covered, trim t = t := by
    intro t ht
    apply (trimmed_of_mem_cellTexts (f := f) (j := i) _).1
    rw [hi]
    simp [ht]
  rw [transform?_several hkind, transform?_several hkind, hi, hj]
  rw [eraseDups_map_meaning_of_covers h]
  simp only [readsAll_of_covers htrim h]

theorem texts_singleton (f : Field) (j : Json) : f.texts [j] = f.cellTexts j := by
  rw [texts_eq, List.flatMap_singleton]

/-- A cell of a field with several choices is read exactly if it has a text and choices are created
or all its texts name one. It is then read as the values that the texts stand for, each once and in
the order in which they first occur. Further texts for values that stand before them change
nothing. -/
theorem transform?_several_exact (hkind : f.kind = .multiselect) (create : Bool) (j : Json)
    : ((∃ v, f.transform? create j = some v)
          ↔
        f.texts [j] ≠ [] ∧ (create = true ∨ ∀ t ∈ f.texts [j], f.choices.namesChoice t = true))
      ∧ (∀ v, f.transform? create j = some v →
        ∃ values, v = Json.strings values ∧ values ≠ [] ∧ values.Nodup
          ∧ ListsOnce values ((f.texts [j]).map f.meaning))
      ∧ (∀ i before covered after,
        f.texts [j] = before ++ after → f.texts [i] = before ++ covered ++ after →
          f.Covers before covered → f.transform? create i = f.transform? create j) := by
  simp only [texts_singleton]
  refine ⟨?_, ?_, ?_⟩
  . rw [transform?_several hkind, ← readsAll_iff]
    simp
  . intro v hv
    rw [transform?_several hkind] at hv
    split at hv
    . next hreads =>
      cases hv
      have honce := listsOnce_eraseDups ((f.cellTexts j).map f.meaning)
      refine ⟨_, rfl, ?_, honce.nodup, honce⟩
      rcases List.exists_mem_of_ne_nil _ hreads.1 with ⟨t, ht⟩
      exact List.ne_nil_of_mem ((honce.mem _).2 (List.mem_map_of_mem ht))
    . cases hv
  . intro i before covered after hj hi hcovers
    exact transform?_of_covers hkind create hj hi hcovers

theorem transform?_several_exact_tags
    : let tags : Field :=
        { key := "tags", label := "Tags", kind := .multiselect, choices := [⟨"AI", "ml"⟩] }
      let short : Json := .string "ML ,bio,ai"
      let long : Json := .array [.string "ML", .string " bio", .string "Ai", .null, .string "bio"]
      tags.kind = .multiselect
        ∧ tags.texts [short] = ["ML", "bio", "ai"]
        ∧ tags.transform? true short = some (Json.strings ["ml", "bio"])
        ∧ tags.transform? false short = none
        ∧ tags.transform? true long = tags.transform? true (.string "ML,bio") := by
  intro tags short long
  have hkind : tags.kind = .multiselect := rfl
  have htexts : tags.texts [short] = ["ML", "bio", "ai"] := by decide +kernel
  have hshort : tags.transform? true short = some (Json.strings ["ml", "bio"]) := by decide +kernel
  have hstrict : tags.transform? false short = none := by
    by_contra hne
    rcases (transform?_several_exact hkind false short).1.1 (Option.ne_none_iff_exists'.1 hne)
      with ⟨_, hcreate | hnames⟩
    . cases hcreate
    . have hbio : tags.choices.namesChoice "bio" = true := hnames "bio" (by simp [htexts])
      revert hbio
      decide +kernel
  refine ⟨hkind, htexts, hshort, hstrict, ?_⟩
  apply (transform?_several_exact hkind true (.string "ML,bio")).2.2 long ["ML", "bio"] ["Ai", "bio"] []
  . decide +kernel
  . decide +kernel
  . decide +kernel

end Field

end Counterpart
