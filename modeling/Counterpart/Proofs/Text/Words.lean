import Counterpart.Proofs.Text.Cut
import Counterpart.Proofs.Text.Trim

/-!
This module contains the words of a text, for any choice of the elements that stand between words.
Every text has one list of words, and this list does not depend on what stands between and around them.
-/

namespace Counterpart.Text

variable {α β : Type} {p : α → Bool} {ws vs : List (List α)} {as bs before after : List α} {a c : α}

/-- A word: at least one element, and none of those that stand between words. -/
structure Unbroken (p : α → Bool) (w : List α) : Prop where
  ne_nil : w ≠ []
  not_gap : ∀ a ∈ w, p a = false

namespace Unbroken

variable {w : List α}

theorem exists_getLast? (h : Unbroken p w) : ∃ a ∈ w.getLast?, p a = false := by
  rw [List.getLast?_eq_some_getLast h.ne_nil]
  exact ⟨_, rfl, h.not_gap _ (List.getLast_mem h.ne_nil)⟩

theorem exists_head?_append (h : Unbroken p w) (as : List α)
    : ∃ a ∈ (w ++ as).head?, p a = false := by
  cases w with
  | nil => exact absurd rfl h.ne_nil
  | cons a w => exact ⟨a, rfl, h.not_gap a List.mem_cons_self⟩

theorem exists_head?_intercalate (h : Unbroken p w) (as : List α) (ws : List (List α))
    : ∃ a ∈ (List.intercalate as (w :: ws)).head?, p a = false := by
  cases ws with
  | nil =>
    rw [List.intercalate_singleton, ← List.append_nil w]
    exact h.exists_head?_append []
  | cons v vs =>
    rw [List.intercalate_cons_cons, List.append_assoc]
    exact h.exists_head?_append _

theorem exists_eq_append (h : Unbroken p w) (hc : p c = true) (heq : w ++ as = before ++ c :: after)
    : ∃ between, before = w ++ between ∧ as = between ++ c :: after := by
  rcases List.append_eq_append_iff.1 heq with hsplit | ⟨between, hw, has⟩
  . exact hsplit
  . cases between with
    | nil => exact ⟨[], by simpa using hw.symm, has.symm⟩
    | cons b between =>
      cases has
      have hmem : c ∈ w := hw ▸ List.mem_append_right before List.mem_cons_self
      rw [h.not_gap c hmem] at hc
      cases hc

end Unbroken

/-- Whether a text consists of these words, with at least one element of the given kind between any two
and any number of them around all. -/
inductive Spells (p : α → Bool) : List (List α) → List α → Prop where
  | nil : Spells p [] []
  | gap (a : α) (ws : List (List α)) (as : List α) (ha : p a = true) (has : Spells p ws as)
    : Spells p ws (a :: as)
  | word (w : List α) (ws : List (List α)) (as : List α) (hw : Unbroken p w)
    (hstop : ∀ a ∈ as.head?, p a = true) (has : Spells p ws as)
    : Spells p (w :: ws) (w ++ as)

namespace Spells

theorem filter_cutAt (h : Spells p ws as) : (cutAt p as).filter (!·.isEmpty) = ws := by
  induction h with
  | nil => rfl
  | gap a ws as ha has ih =>
    rw [cutAt, if_pos ha]
    exact ih
  | word w ws as hw hstop has ih =>
    cases as with
    | nil =>
      rw [List.append_nil, cutAt_of_forall_not hw.not_gap, ← ih]
      simp [cutAt, hw.ne_nil]
    | cons a as =>
      have ha : p a = true := hstop a rfl
      rw [cutAt, if_pos ha, List.filter_cons_of_neg (by simp)] at ih
      rw [cutAt_append_cons hw.not_gap ha, List.filter_cons_of_pos (by simpa using hw.ne_nil), ih]

theorem unique (hws : Spells p ws as) (hvs : Spells p vs as) : ws = vs := by
  rw [← hws.filter_cutAt, hvs.filter_cutAt]

theorem unbroken (h : Spells p ws as) : ∀ w ∈ ws, Unbroken p w := by
  induction h with
  | nil => exact List.forall_mem_nil _
  | gap a ws as ha has ih => exact ih
  | word w ws as hw hstop has ih => exact List.forall_mem_cons.2 ⟨hw, ih⟩

theorem mem_iff (h : Spells p ws as) (ha : p a = false) : a ∈ as ↔ ∃ w ∈ ws, a ∈ w := by
  induction h with
  | nil => simp
  | gap b ws as hb has ih =>
    have hne : a ≠ b := by
      rintro rfl
      rw [ha] at hb
      cases hb
    rw [List.mem_cons, or_iff_right hne, ih]
  | word w ws as hw hstop has ih => simp [ih]

theorem append_left (hbs : ∀ b ∈ bs, p b = true) (h : Spells p ws as) : Spells p ws (bs ++ as) := by
  induction bs with
  | nil => exact h
  | cons b bs ih =>
    have ⟨hb, hbs⟩ := List.forall_mem_cons.1 hbs
    exact .gap b ws _ hb (ih hbs)

theorem append_right (hbs : ∀ b ∈ bs, p b = true) (h : Spells p ws as) : Spells p ws (as ++ bs) := by
  induction h with
  | nil =>
    have hgap := append_left hbs (.nil : Spells p [] [])
    rwa [List.append_nil] at hgap
  | gap a ws as ha has ih => exact .gap a ws _ ha ih
  | word w ws as hw hstop has ih =>
    rw [List.append_assoc]
    refine .word w ws _ hw ?_ ih
    intro a ha
    cases as with
    | nil => exact hbs a (List.mem_of_mem_head? ha)
    | cons b as => exact hstop a ha

theorem flatMap {q : β → Bool} {f : α → List β} (hword : ∀ a, p a = false → Unbroken q (f a))
    (hgap : ∀ a, p a = true → ∃ b, f a = [b] ∧ q b = true) (h : Spells p ws as)
    : Spells q (ws.map (·.flatMap f)) (as.flatMap f) := by
  induction h with
  | nil => exact .nil
  | gap a ws as ha has ih =>
    rcases hgap a ha with ⟨b, hfa, hb⟩
    rw [List.flatMap_cons, hfa]
    exact .gap b _ _ hb ih
  | word w ws as hw hstop has ih =>
    rw [List.flatMap_append, List.map_cons]
    refine .word _ _ _ ⟨?_, ?_⟩ ?_ ih
    . rw [ne_eq, List.flatMap_eq_nil_iff]
      intro hnil
      rcases List.exists_mem_of_ne_nil w hw.ne_nil with ⟨a, ha⟩
      exact (hword a (hw.not_gap a ha)).ne_nil (hnil a ha)
    . intro b hb
      rcases List.mem_flatMap.1 hb with ⟨a, ha, hb⟩
      exact (hword a (hw.not_gap a ha)).not_gap b hb
    . intro b hb
      cases as with
      | nil => cases hb
      | cons a as =>
        rcases hgap a (hstop a rfl) with ⟨c, hfa, hc⟩
        rw [List.flatMap_cons, hfa] at hb
        cases hb
        exact hc

theorem map_flatMap_eq {f : α → List α} (hf : ∀ a ∈ as, p a = false → f a = [a])
    (h : Spells p ws as)
    : ws.map (·.flatMap f) = ws := by
  have hsame : ∀ w ∈ ws, w.flatMap f = w := by
    intro w hw
    have hfw : ∀ a ∈ w, f a = [a] := by
      intro a ha
      have hnot := (h.unbroken w hw).not_gap a ha
      exact hf a ((h.mem_iff hnot).2 ⟨w, hw, ha⟩) hnot
    rw [List.flatMap_congr hfw, List.flatMap_singleton']
  rw [List.map_congr_left hsame, List.map_id']

theorem intercalate (ha : p a = true) (hws : ∀ w ∈ ws, Unbroken p w)
    : Spells p ws (List.intercalate [a] ws) := by
  induction ws with
  | nil => exact .nil
  | cons w ws ih =>
    have ⟨hw, hws⟩ := List.forall_mem_cons.1 hws
    cases ws with
    | nil =>
      have hlast := Spells.word w [] [] hw (by simp) .nil
      rw [List.append_nil] at hlast
      rwa [List.intercalate_singleton]
    | cons v vs =>
      rw [List.intercalate_cons_cons, List.append_assoc]
      refine .word w _ _ hw ?_ (.gap a _ _ ha (ih hws))
      rintro b ⟨⟩
      exact ha

end Spells

theorem exists_spells (p : α → Bool) (as : List α) : ∃ ws, Spells p ws as := by
  cases as with
  | nil => exact ⟨[], .nil⟩
  | cons a as =>
    by_cases ha : p a = true
    . rcases exists_spells p as with ⟨ws, hws⟩
      exact ⟨ws, .gap a ws as ha hws⟩
    . -- The first word goes on up to the next element that stands between words.
      have hword : Unbroken p (a :: as.takeWhile (!p ·)) := by
        refine ⟨List.cons_ne_nil a _, List.forall_mem_cons.2 ⟨Bool.eq_false_iff.2 ha, ?_⟩⟩
        intro b hb
        simpa using List.mem_takeWhile_imp hb
      have hstop : ∀ b ∈ (as.dropWhile (!p ·)).head?, p b = true := by
        intro b hb
        have hfirst := List.head?_dropWhile_not (!p ·) as
        rw [hb] at hfirst
        simpa using hfirst
      rcases exists_spells p (as.dropWhile (!p ·)) with ⟨ws, hws⟩
      rw [← List.takeWhile_append_dropWhile (p := (!p ·)) (l := as), ← List.cons_append]
      exact ⟨_, .word _ ws _ hword hstop hws⟩
termination_by as.length
decreasing_by
  . exact Nat.lt_succ_self _
  . exact Nat.lt_succ_of_le (List.dropWhile_sublist (!p ·)).length_le

theorem spells_iff : Spells p ws as ↔ (cutAt p as).filter (!·.isEmpty) = ws := by
  constructor
  . exact Spells.filter_cutAt
  . rintro rfl
    rcases exists_spells p as with ⟨ws, hws⟩
    rwa [hws.filter_cutAt]

/-- When words are joined by one element, nothing but this element stands between them, and each time
the end of a word stands before it and the start of a word after it. -/
theorem eq_of_intercalate_eq_append_cons (hws : ∀ w ∈ ws, Unbroken p w)
    (h : List.intercalate [a] ws = before ++ c :: after) (hc : p c = true)
    : c = a ∧ (∃ b ∈ before.getLast?, p b = false) ∧ ∃ b ∈ after.head?, p b = false := by
  induction ws generalizing before with
  | nil => simp at h
  | cons w ws ih =>
    have ⟨hw, hws⟩ := List.forall_mem_cons.1 hws
    cases ws with
    | nil =>
      rw [List.intercalate_singleton, ← List.append_nil w] at h
      rcases hw.exists_eq_append hc h with ⟨between, _, hnil⟩
      simp at hnil
    | cons v vs =>
      rw [List.intercalate_cons_cons, List.append_assoc, List.singleton_append] at h
      rcases hw.exists_eq_append hc h with ⟨between, rfl, hrest⟩
      -- Either `c` stands right behind the first word, or in what the other words make.
      rcases List.cons_eq_append_iff.1 hrest with ⟨rfl, hcons⟩ | ⟨between, rfl, hlater⟩
      . cases hcons
        rw [List.append_nil]
        have hv := hws v List.mem_cons_self
        exact ⟨rfl, hw.exists_getLast?, hv.exists_head?_intercalate [a] vs⟩
      . rcases ih hws hlater with ⟨hca, ⟨b, hb, hnot⟩, hafter⟩
        refine ⟨hca, ⟨b, ?_, hnot⟩, hafter⟩
        rw [Option.mem_def] at hb
        simp [List.getLast?_append, List.getLast?_cons, hb]

theorem exists_trimChars_append (cs : List Char)
    : ∃ before after, cs = before ++ trimChars cs ++ after
        ∧ (∀ c ∈ before, isBlank c = true) ∧ ∀ c ∈ after, isBlank c = true := by
  refine ⟨cs.takeWhile isBlank, (cs.dropWhile isBlank).rtakeWhile isBlank, ?_, ?_, ?_⟩
  . rw [trimChars_eq_rdropWhile, List.append_assoc, List.rdropWhile_append_rtakeWhile]
    rw [List.takeWhile_append_dropWhile]
  . intro c hc
    exact List.mem_takeWhile_imp hc
  . intro c hc
    exact List.mem_rtakeWhile_imp hc

theorem Spells.trimChars {p : Char → Bool} {ws : List (List Char)} {cs : List Char}
    (hblank : ∀ c, isBlank c = true → p c = true) (h : Spells p ws cs)
    : Spells p ws (trimChars cs) := by
  rcases exists_spells p (Text.trimChars cs) with ⟨vs, hvs⟩
  rcases exists_trimChars_append cs with ⟨before, after, hcs, hbefore, hafter⟩
  have hsurrounded : Spells p vs (before ++ Text.trimChars cs ++ after) :=
    (hvs.append_left fun c hc => hblank c (hbefore c hc)).append_right
      fun c hc => hblank c (hafter c hc)
  rw [← hcs] at hsurrounded
  rwa [h.unique hsurrounded]

end Counterpart.Text
