import Counterpart.Proofs.Import.Discovery

/-!
This module contains what the discovery of choices finds, said without regard to how it goes about
it: of all texts read from a column those that no choice goes by, each where a text of its folded
form stands first.
-/

namespace Counterpart

open Text

/-- The texts that satisfy `p` and before which no text of the same folded form stands. -/
def firstOccurrences (p : String → Bool) (ss : List String) : List String :=
  (ss.zipIdx.filter fun (s, n) => p s ∧ ∀ t ∈ ss.take n, fold t ≠ fold s).map Prod.fst

variable {p q : String → Bool} {s t : String} {ss : List String}

theorem firstOccurrences_cons (p : String → Bool) (s : String) (ss : List String)
    : firstOccurrences p (s :: ss)
        =
      (if p s then [s] else []) ++ firstOccurrences (fun t => p t && fold s != fold t) ss := by
  -- In the longer list every text behind `s` has one more text before it, which is `s`.
  have htail : ∀ t n, (p t ∧ ∀ u ∈ (s :: ss).take (n + 1), fold u ≠ fold t)
      ↔ ((p t && fold s != fold t) = true ∧ ∀ u ∈ ss.take n, fold u ≠ fold t) := by
    intro t n
    simp [and_assoc]
  unfold firstOccurrences
  rw [List.zipIdx_cons, List.zipIdx_succ, List.filter_cons, List.filter_map]
  simp only [Function.comp_def, htail, List.take_zero, List.not_mem_nil,
    false_imp_iff, implies_true, and_true, Bool.decide_eq_true]
  split
  . rw [List.map_cons, List.map_map]
    rfl
  . rw [List.map_map]
    rfl

theorem firstOccurrences_congr (h : ∀ s ∈ ss, p s = q s)
    : firstOccurrences p ss = firstOccurrences q ss := by
  unfold firstOccurrences
  congr 1
  apply List.filter_congr
  rintro ⟨s, n⟩ hs
  dsimp only
  rw [h s (List.fst_mem_of_mem_zipIdx hs)]

theorem firstOccurrences_cons_of_neg (hp : ∀ t, fold s = fold t → p s = p t) (hs : p s = false)
    : firstOccurrences p (s :: ss) = firstOccurrences p ss := by
  rw [firstOccurrences_cons, hs, if_neg Bool.false_ne_true, List.nil_append]
  congr 1
  funext t
  by_cases heq : fold s = fold t
  . simp [← hp t heq, hs]
  . simp [heq]

namespace Field

variable {f : Field} {values : List Json} {j : Json}

/-- Going through the texts that satisfy `p` with a record of the forms seen finds the first
occurrences among all texts, if `p` holds for all texts of one form or for none. -/
theorem firstSpellings_filter (hp : ∀ s t, fold s = fold t → p s = p t) (seen : FoldedSet)
    (ss : List String)
    : firstSpellings seen (ss.filter p)
        =
      firstOccurrences (fun s => p s && !seen.contains s) ss := by
  induction ss generalizing seen with
  | nil => rfl
  | cons s ss ih =>
    have hform : ∀ t, fold s = fold t
        → (p s && !seen.contains s) = (p t && !seen.contains t) := by
      intro t heq
      unfold FoldedSet.contains
      rw [hp s t heq, heq]
    by_cases hs : p s = true
    . rw [List.filter_cons_of_pos hs, firstSpellings_cons]
      split
      . next hseen => rw [firstOccurrences_cons_of_neg hform (by simp [hseen]), ih]
      . next hseen =>
        rw [firstOccurrences_cons, if_pos (by simp [hs, hseen]), List.singleton_append, ih]
        congr 2
        funext t
        have hinsert : (seen.insert s).contains t = (seen.contains t || fold s == fold t) := by
          rw [Bool.eq_iff_iff, FoldedSet.contains_insert]
          simp
        rw [hinsert, Bool.not_or, Bool.and_assoc]
        rfl
    . rw [List.filter_cons_of_neg hs, firstOccurrences_cons_of_neg hform (by simp [hs]), ih]

def written (f : Field) : Json → List String
  | .array items => items.filterMap Json.scalarText?
  | j =>
    match j.scalarText? with
    | none => []
    | some s =>
      if f.kind = .multiselect then (s.toList.splitOn ',').map .ofList else [s]

def texts (f : Field) (values : List Json) : List String :=
  ((values.flatMap f.written).map trim).filter (· ≠ "")

theorem cellTexts_eq (f : Field) (j : Json)
    : f.cellTexts j = ((f.written j).map trim).filter (· ≠ "") := by
  have hclean : ∀ ss, cellTexts.clean ss = (ss.map trim).filter (· ≠ "") := by
    intro ss
    unfold cellTexts.clean
    congr 1
    funext s
    rw [Bool.eq_iff_iff]
    simp
  unfold cellTexts written
  cases j with
  | array items => exact hclean _
  | null | object => rfl
  | bool | number | string =>
    simp only [Json.scalarText?]
    split
    . rw [clean_tokens, Import.tokens_eq]
    . exact hclean _

theorem texts_eq (f : Field) (values : List Json)
    : f.texts values = values.flatMap f.cellTexts := by
  unfold texts
  rw [funext f.cellTexts_eq, List.map_flatMap, List.filter_flatMap]

theorem fold_ne_of_mem_texts (h : t ∈ f.texts values) : fold t ≠ "" := by
  rw [texts_eq] at h
  rcases List.mem_flatMap.1 h with ⟨j, _, ht⟩
  have ⟨htrim, hne⟩ := trimmed_of_mem_cellTexts ht
  exact fold_ne_empty htrim hne

theorem newChoices_eq_firstOccurrences (hf : f.bearsChoices = true) (values : List Json)
    : f.newChoices values
        =
      firstOccurrences (fun s => ∀ c ∈ f.choices, ¬ c.GoesBy s) (f.texts values) := by
  have hcongr : ∀ s t, fold s = fold t
      → (!f.choices.namesChoice s) = !f.choices.namesChoice t := by
    intro s t heq
    rw [Choices.namesChoice_congr heq]
  rw [newChoices_eq hf, ← texts_eq, firstSpellings_filter hcongr]
  apply firstOccurrences_congr
  intro s hs
  have hnames := f.choices.namesChoice_iff_goesBy (fold_ne_of_mem_texts hs)
  rw [FoldedSet.contains_empty, Bool.not_false, Bool.and_true, Bool.eq_iff_iff]
  simp only [Bool.not_eq_true', decide_eq_true_eq]
  rw [← Bool.not_eq_true, hnames]
  simp

/-- The texts that a column brings are those that no choice goes by and before which no text of the
same form stands. No two of them are of one form, none names a choice, and every text read either
names a choice or has the form of just one of them. Fields without choices discover nothing. -/
theorem newChoices_exact (f : Field) (values : List Json)
    : (f.bearsChoices = true →
        f.newChoices values
            =
          firstOccurrences (fun s => ∀ c ∈ f.choices, ¬ c.GoesBy s) (f.texts values)
        ∧ (f.newChoices values).Pairwise (fun s t => fold s ≠ fold t)
        ∧ (∀ s ∈ f.newChoices values, f.choices.namesChoice s = false)
        ∧ ∀ t ∈ f.texts values,
          (f.choices.namesChoice t = true ∧ ∀ s ∈ f.newChoices values, fold s ≠ fold t)
            ∨ (f.choices.namesChoice t = false ∧ ∃! s, s ∈ f.newChoices values ∧ fold s = fold t))
      ∧ (f.bearsChoices = false → f.newChoices values = []) := by
  constructor
  . intro hf
    refine ⟨newChoices_eq_firstOccurrences hf values, f.pairwise_newChoices values, ?_, ?_⟩
    . intro s hs
      simpa using (mem_newChoices hs).2
    . intro t ht
      cases hnames : f.choices.namesChoice t with
      | true =>
        refine .inl ⟨rfl, ?_⟩
        intro s hs heq
        apply (mem_newChoices hs).2
        rw [Choices.namesChoice_congr heq, hnames]
      | false =>
        rw [texts_eq] at ht
        rcases namesChoice_or_mem_newChoices hf ht with hold | ⟨s, hs, heq⟩
        . rw [hnames] at hold
          cases hold
        . refine .inr ⟨rfl, s, ⟨hs, heq⟩, ?_⟩
          rintro u ⟨hu, hfold⟩
          exact eq_of_mem_newChoices hu hs (hfold.trans heq.symm)
  . intro hf
    exact newChoices_of_not_bearsChoices (by simp [hf]) values

theorem newChoices_exact_tags
    : let tags : Field :=
        { key := "tags", label := "Tags", kind := .multiselect, choices := [⟨"AI", "ml"⟩] }
      let note : Field := { key := "note", label := "Note", kind := .textarea }
      let values : List Json :=
        [.string "Bio ,bio,ai", .array [.string " ΟΣ", .null, .string "ος"]]
      tags.bearsChoices = true
        ∧ tags.texts values = ["Bio", "bio", "ai", "ΟΣ", "ος"]
        ∧ tags.newChoices values
            =
          firstOccurrences (fun s => ∀ c ∈ tags.choices, ¬ c.GoesBy s) (tags.texts values)
        ∧ tags.newChoices values = ["Bio", "ΟΣ"]
        ∧ tags.choices.namesChoice "ος" = false
        ∧ (∃! s, s ∈ tags.newChoices values ∧ fold s = fold "ος")
        ∧ note.bearsChoices = false ∧ note.newChoices values = [] := by
  intro tags note values
  have htags : tags.bearsChoices = true := rfl
  have htexts : tags.texts values = ["Bio", "bio", "ai", "ΟΣ", "ος"] := by decide +kernel
  rcases (newChoices_exact tags values).1 htags with ⟨hnew, _, _, hall⟩
  have hnot : tags.choices.namesChoice "ος" = false := by decide +kernel
  refine ⟨htags, htexts, hnew, by decide +kernel, hnot, ?_,
    rfl, (newChoices_exact note values).2 rfl⟩
  rcases hall "ος" (by simp [htexts]) with ⟨hold, _⟩ | ⟨_, hone⟩
  . rw [hnot] at hold
    cases hold
  . exact hone

end Field

end Counterpart
