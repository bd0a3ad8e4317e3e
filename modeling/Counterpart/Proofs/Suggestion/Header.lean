import Counterpart.Proofs.Text.Case
import Counterpart.Proofs.Text.Lower
import Counterpart.Proofs.Text.Words
import Counterpart.Suggestion.Similarity

/-!
This module contains that normalising a header gives a canonical form: lower-case words with single
blanks between them, whatever the header has between and around its words. The normal form tells apart
headers with different words, and it is its own normal form.
-/

namespace Counterpart.Text

variable {ws vs : List (List Char)} {cs w : List Char} {c d : Char} {s t : String}

def isGap (c : Char) : Bool := isBlank c || isSeparator c

def gapCodes : List Nat :=
  List.range' 0x9 5 ++ [0x20, 0x85, 0xA0, 0x1680] ++ List.range' 0x2000 11
    ++ [0x2028, 0x2029, 0x202F, 0x205F, 0x3000] ++ ['_', '-', '.', '/', '\\'].map Char.toNat

theorem toNat_mem_gapCodes (h : isGap c = true) : c.toNat ∈ gapCodes := by
  unfold isGap at h
  unfold gapCodes
  rw [List.mem_append]
  rcases Bool.or_eq_true_iff.1 h with hblank | hseparator
  . left
    unfold isBlank at hblank
    simp only [Bool.or_eq_true, Bool.and_eq_true, decide_eq_true_eq, beq_iff_eq] at hblank
    simp only [List.append_assoc, List.cons_append, List.nil_append, List.mem_append,
      List.mem_range'_1, List.mem_cons, List.not_mem_nil, or_false]
    omega
  . right
    unfold isSeparator at hseparator
    apply List.mem_map_of_mem
    simpa [or_assoc] using hseparator

theorem gapCodes_disjoint {n : Nat} (h : n ∈ gapCodes)
    : n ∉ upperCodes ++ lowerForms.map Char.toNat := by
  have hbits : bitsAt gapCodes &&& bitsAt (upperCodes ++ lowerForms.map Char.toNat) = 0 := by
    decide +kernel
  exact not_mem_of_bitsAt hbits h

theorem lowerChar_of_isGap (h : isGap c = true) : lowerChar c = [c] := by
  rcases lowerChar_cases c with hself | ⟨hcode, _⟩
  . exact hself
  . exact absurd (List.mem_append_left _ hcode) (gapCodes_disjoint (toNat_mem_gapCodes h))

theorem unbroken_lowerChar (h : isGap c = false) : Unbroken isGap (lowerChar c) := by
  rcases lowerChar_cases c with hself | ⟨_, hforms⟩
  . rw [hself]
    exact ⟨List.cons_ne_nil c [], List.forall_mem_singleton.2 h⟩
  . refine ⟨lowerChar_ne_nil c, ?_⟩
    intro d hd
    rw [Bool.eq_false_iff]
    intro hgap
    exact gapCodes_disjoint (toNat_mem_gapCodes hgap)
      (List.mem_append_right _ (List.mem_map_of_mem (hforms d hd)))

theorem spells_flatMap_lowerChar (h : Spells isGap ws cs)
    : Spells isGap (ws.map (·.flatMap lowerChar)) (cs.flatMap lowerChar) := by
  refine h.flatMap (fun c hc => unbroken_lowerChar hc) ?_
  intro c hc
  exact ⟨c, lowerChar_of_isGap hc, hc⟩

def spaced (c : Char) : Char := if isSeparator c then ' ' else c

theorem normalizeChars_eq (cs : List Char)
    : normalizeChars cs
        =
      List.intercalate [' '] (wordsChars ((lowerChars (trimChars cs)).map spaced)) := by
  rfl

theorem spaced_of_not_isGap (h : isGap c = false) : spaced c = c := by
  unfold isGap at h
  rw [Bool.or_eq_false_iff] at h
  unfold spaced
  rw [h.2, if_neg Bool.false_ne_true]

theorem isBlank_spaced (c : Char) : isBlank (spaced c) = isGap c := by
  unfold spaced isGap
  split
  . next hseparator =>
    rw [hseparator, Bool.or_true]
    rfl
  . next hseparator => rw [Bool.eq_false_iff.2 hseparator, Bool.or_false]

theorem spells_map_spaced (h : Spells isGap ws cs) : Spells isBlank ws (cs.map spaced) := by
  have hspaced : Spells isBlank (ws.map (·.flatMap fun c => [spaced c]))
      (cs.flatMap fun c => [spaced c]) := by
    refine h.flatMap ?_ ?_
    . intro c hc
      exact ⟨List.cons_ne_nil _ _, List.forall_mem_singleton.2 ((isBlank_spaced c).trans hc)⟩
    . intro c hc
      exact ⟨spaced c, rfl, (isBlank_spaced c).trans hc⟩
  rw [h.map_flatMap_eq, ← List.map_eq_flatMap] at hspaced
  . exact hspaced
  . intro c _ hc
    rw [spaced_of_not_isGap hc]

theorem normalizeChars_of_spells_lowerChars (h : Spells isGap ws (lowerChars (trimChars cs)))
    : normalizeChars cs = List.intercalate [' '] ws := by
  rw [normalizeChars_eq, wordsChars, (spells_map_spaced h).filter_cutAt]

/-- A header without a capital sigma has the lower-case forms of its words in its normal form, whatever
stands between and around them. -/
theorem normalizeChars_of_spells (hsigma : ∀ c ∈ cs, c.toNat ≠ 0x3A3) (h : Spells isGap ws cs)
    : normalizeChars cs = List.intercalate [' '] (ws.map (·.flatMap lowerChar)) := by
  apply normalizeChars_of_spells_lowerChars
  rw [lowerChars_eq_flatMap fun c hc => hsigma c ((sublist_trimChars cs).mem hc)]
  apply spells_flatMap_lowerChar
  apply h.trimChars
  intro c hc
  rw [isGap, hc, Bool.true_or]

theorem normalizeChars_of_lowered (hlower : ∀ c ∈ cs, lowerChar c = [c]) (h : Spells isGap ws cs)
    : normalizeChars cs = List.intercalate [' '] ws := by
  rw [normalizeChars_of_spells (fun c hc => toNat_ne_of_lowerChar_eq (hlower c hc)) h]
  rw [h.map_flatMap_eq fun c hc _ => hlower c hc]

theorem exists_normalizeChars_eq (cs : List Char)
    : ∃ ws, normalizeChars cs = List.intercalate [' '] ws
        ∧ ∀ w ∈ ws, Unbroken isGap w ∧ ∀ c ∈ w, lowerChar c = [c] := by
  rcases exists_spells isGap (lowerChars (trimChars cs)) with ⟨ws, hws⟩
  refine ⟨ws, normalizeChars_of_spells_lowerChars hws, ?_⟩
  intro w hw
  have hword := hws.unbroken w hw
  refine ⟨hword, ?_⟩
  intro c hc
  exact lowerChar_of_mem_lowerChars_go ((hws.mem_iff (hword.not_gap c hc)).2 ⟨w, hw, hc⟩)

theorem spells_intercalate (hws : ∀ w ∈ ws, Unbroken isGap w)
    : Spells isGap ws (List.intercalate [' '] ws) :=
  .intercalate (by decide) hws

@[simp]
theorem normalizeChars_normalizeChars (cs : List Char)
    : normalizeChars (normalizeChars cs) = normalizeChars cs := by
  rcases exists_normalizeChars_eq cs with ⟨ws, heq, hws⟩
  have hspells := spells_intercalate fun w hw => (hws w hw).1
  rw [heq]
  apply normalizeChars_of_lowered _ hspells
  intro c hc
  by_cases hgap : isGap c = true
  . exact lowerChar_of_isGap hgap
  . rcases (hspells.mem_iff (Bool.eq_false_iff.2 hgap)).1 hc with ⟨w, hw, hcw⟩
    exact (hws w hw).2 c hcw

theorem gap_normalizeChars {before after : List Char} (h : normalizeChars cs = before ++ c :: after)
    (hc : isGap c = true)
    : c = ' ' ∧ (∃ b ∈ before.getLast?, isGap b = false) ∧ ∃ a ∈ after.head?, isGap a = false := by
  rcases exists_normalizeChars_eq cs with ⟨ws, heq, hws⟩
  rw [heq] at h
  exact eq_of_intercalate_eq_append_cons (fun w hw => (hws w hw).1) h hc

theorem normalizeChars_eq_iff {ds : List Char} (hcs : ∀ c ∈ cs, c.toNat ≠ 0x3A3)
    (hds : ∀ d ∈ ds, d.toNat ≠ 0x3A3) (hws : Spells isGap ws cs) (hvs : Spells isGap vs ds)
    : normalizeChars cs = normalizeChars ds
        ↔
      ws.map (·.flatMap lowerChar) = vs.map (·.flatMap lowerChar) := by
  rw [normalizeChars_of_spells hcs hws, normalizeChars_of_spells hds hvs]
  constructor
  . intro h
    have hjoined := spells_intercalate (spells_flatMap_lowerChar hws).unbroken
    rw [h] at hjoined
    exact hjoined.unique (spells_intercalate (spells_flatMap_lowerChar hvs).unbroken)
  . intro h
    rw [h]

-- A capital sigma is lowered by the letter that follows it, behind a point too, but not behind a blank.
example : normalize "ΑΣ.Α" = "ασ α" ∧ normalize "ΑΣ Α" = "ας α" := by
  decide +kernel

/-- Whether two headers have the same words, and differ only in what stands between and around these. -/
def SameWords (s t : String) : Prop := ∃ ws, Spells isGap ws s.toList ∧ Spells isGap ws t.toList

theorem normalize_eq_iff_sameWords (hs : lower s = s) (ht : lower t = t)
    : normalize s = normalize t ↔ SameWords s t := by
  rw [lower_eq_self_iff] at hs ht
  rcases exists_spells isGap s.toList with ⟨ws, hws⟩
  rcases exists_spells isGap t.toList with ⟨vs, hvs⟩
  unfold normalize
  rw [String.ofList_inj, normalizeChars_eq_iff _ _ hws hvs]
  . rw [hws.map_flatMap_eq fun c hc _ => hs c hc, hvs.map_flatMap_eq fun c hc _ => ht c hc]
    constructor
    . rintro rfl
      exact ⟨ws, hws, hvs⟩
    . rintro ⟨us, hus, hut⟩
      rw [hws.unique hus, hvs.unique hut]
  . intro c hc
    exact toNat_ne_of_lowerChar_eq (hs c hc)
  . intro c hc
    exact toNat_ne_of_lowerChar_eq (ht c hc)

theorem toList_normalize (s : String) : (normalize s).toList = normalizeChars s.toList := by
  unfold normalize
  rw [String.toList_ofList]

/-- A normal form has no separators, and no blanks but single ones that have a word on both sides. It is
its own normal form. Headers in lower case have one normal form exactly if they have the same words. -/
theorem normalize_canonical (s : String)
    : (∀ c ∈ ['_', '-', '.', '/', '\\'], c ∉ (normalize s).toList)
        ∧ (∀ before c after, (normalize s).toList = before ++ c :: after → isBlank c = true →
          c = ' ' ∧ (∃ b ∈ before.getLast?, isBlank b = false)
            ∧ ∃ a ∈ after.head?, isBlank a = false)
        ∧ normalize (normalize s) = normalize s
        ∧ ∀ t, lower s = s → lower t = t → (normalize s = normalize t ↔ SameWords s t) := by
  have hgap : ∀ c, isGap c = true ↔ isBlank c = true ∨ isSeparator c = true := by
    intro c
    rw [isGap, Bool.or_eq_true]
  rw [toList_normalize]
  refine ⟨?_, ?_, ?_, ?_⟩
  . intro c hc hmem
    rcases List.append_of_mem hmem with ⟨before, after, hsplit⟩
    have hseparator : isSeparator c = true := by
      unfold isSeparator
      simpa [or_assoc] using hc
    rcases (gap_normalizeChars hsplit ((hgap c).2 (.inr hseparator))).1 with rfl
    cases hseparator
  . intro before c after hsplit hblank
    have hnot : ∀ b, isGap b = false → isBlank b = false := by
      intro b hb
      rw [isGap, Bool.or_eq_false_iff] at hb
      exact hb.1
    rcases gap_normalizeChars hsplit ((hgap c).2 (.inl hblank)) with
      ⟨hspace, ⟨b, hb, hbgap⟩, a, ha, hagap⟩
    exact ⟨hspace, ⟨b, hb, hnot b hbgap⟩, a, ha, hnot a hagap⟩
  . rw [normalize, toList_normalize, normalizeChars_normalizeChars, normalize]
  . intro t hs ht
    exact normalize_eq_iff_sameWords hs ht

theorem normalize_canonical_address
    : SameWords "e-mail/address" "_e mail..\taddress "
        ∧ normalize "e-mail/address" = "e mail address"
        ∧ normalize "_e mail..\taddress " = "e mail address"
        ∧ normalize "e mail address" = "e mail address" := by
  have hs : lower "e-mail/address" = "e-mail/address" := by decide +kernel
  have ht : lower "_e mail..\taddress " = "_e mail..\taddress " := by decide +kernel
  have hwords : SameWords "e-mail/address" "_e mail..\taddress " :=
    ⟨["e".toList, "mail".toList, "address".toList], spells_iff.2 (by decide +kernel),
      spells_iff.2 (by decide +kernel)⟩
  have hnormal : normalize "e-mail/address" = "e mail address" := by decide +kernel
  rcases normalize_canonical "e-mail/address" with ⟨_, _, hagain, hiff⟩
  have hsame := (hiff _ hs ht).2 hwords
  rw [hnormal] at hagain hsame
  exact ⟨hwords, hnormal, hsame.symm, hagain⟩

end Counterpart.Text
