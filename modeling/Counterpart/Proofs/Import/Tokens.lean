import Mathlib.Data.List.Forall2
import Counterpart.Import.Tokens
import Counterpart.Proofs.Text.Cut
import Counterpart.Proofs.Text.Trim

/-!
This module contains what the tokens of a cell are: the pieces between its commas, trimmed, without
the empty ones. That a blank before a comma may count as a part of it makes no difference, because
all that a piece can lose by it is a blank at its end.
-/

namespace Counterpart

namespace Text

variable {α : Type} {p : α → Bool}

theorem flatMap_splitOnP_modifyHead (a : α) {pieces : List (List α)} (h : pieces ≠ [])
    : (pieces.modifyHead (a :: ·)).flatMap (·.splitOnP p)
        =
      if p a then
        [] :: pieces.flatMap (·.splitOnP p)
      else
        (pieces.flatMap (·.splitOnP p)).modifyHead (a :: ·) := by
  cases pieces with
  | nil => exact absurd rfl h
  | cons piece pieces =>
    rw [List.modifyHead_cons, List.flatMap_cons, List.flatMap_cons]
    rw [List.splitOnP_cons_eq_if_modifyHead]
    split
    . rfl
    . cases hpiece : piece.splitOnP p with
      | nil => exact absurd hpiece (List.splitOnP_ne_nil p piece)
      | cons first rest => rfl

theorem flatMap_splitOnP_splitOnP (as : List α)
    : (as.splitOnP p).flatMap (·.splitOnP p) = as.splitOnP p := by
  induction as with
  | nil => rfl
  | cons a as ih =>
    rw [List.splitOnP_cons_eq_if_modifyHead]
    split
    . rw [List.flatMap_cons, ih]
      rfl
    . next ha => rw [flatMap_splitOnP_modifyHead a (List.splitOnP_ne_nil p as), if_neg ha, ih]

theorem consHead_eq_modifyHead (c : Char) {pieces : List (List Char)} (h : pieces ≠ [])
    : consHead c pieces = pieces.modifyHead (c :: ·) := by
  cases pieces with
  | nil => exact absurd rfl h
  | cons piece pieces => rfl

theorem cutAtPair_ne_nil (a b : Char) (cs : List Char) : cutAtPair a b cs ≠ [] := by
  fun_induction cutAtPair a b cs with
  | case1 => simp
  | case2 c => simp
  | case3 c d cs hcut _ => simp
  | case4 c d cs hcut ih =>
    rw [consHead_eq_modifyHead c ih]
    simpa using ih

/-- Whether two pieces are the same but for a character that the first one lost at its end. -/
def Shortens (a : Char) (short piece : List Char) : Prop := piece = short ∨ piece = short ++ [a]

theorem forall₂_shortens_modifyHead {a c : Char} {shorts pieces : List (List Char)}
    (h : List.Forall₂ (Shortens a) shorts pieces)
    : List.Forall₂ (Shortens a) (shorts.modifyHead (c :: ·)) (pieces.modifyHead (c :: ·)) := by
  cases h with
  | nil => exact .nil
  | cons hhead htail =>
    refine .cons ?_ htail
    rcases hhead with rfl | rfl
    . exact .inl rfl
    . exact .inr rfl

/-- Cutting at a pair and then at its second character finds the pieces between those characters,
save that some lose the first character of the pair. -/
theorem forall₂_cutAtPair {a b : Char} (hne : a ≠ b) (cs : List Char)
    : List.Forall₂ (Shortens a)
        ((cutAtPair a b cs).flatMap (·.splitOnP (· == b))) (cs.splitOnP (· == b)) := by
  have hrefl : ∀ pieces, List.Forall₂ (Shortens a) pieces pieces := by
    intro pieces
    exact List.forall₂_same.2 fun piece _ => .inl rfl
  fun_induction cutAtPair a b cs with
  | case1 => exact hrefl _
  | case2 c =>
    rw [List.flatMap_cons, List.flatMap_nil, List.append_nil]
    exact hrefl _
  | case3 c d cs hcut ih =>
    rcases hcut with ⟨rfl, rfl⟩
    rw [List.splitOnP_cons_eq_if_modifyHead, if_neg (by simpa using hne)]
    rw [List.splitOnP_cons_eq_if_modifyHead, if_pos (by simp)]
    -- The pair is cut at as a whole, so the piece before it loses the pair's first character.
    exact .cons (.inr rfl) ih
  | case4 c d cs hcut ih =>
    rw [consHead_eq_modifyHead c (cutAtPair_ne_nil a b _)]
    rw [flatMap_splitOnP_modifyHead c (cutAtPair_ne_nil a b _)]
    rw [List.splitOnP_cons_eq_if_modifyHead]
    split
    . exact .cons (.inl rfl) ih
    . exact forall₂_shortens_modifyHead ih

end Text

namespace Import

open Text

theorem tokensChars_eq (cs : List Char)
    : tokensChars cs = ((cs.splitOn ',').map trimChars).filter (!·.isEmpty) := by
  unfold tokensChars
  rw [List.splitOn_eq_splitOnP]
  simp only [funext (cutAt_eq_splitOnP (· == ','))]
  congr 1
  split
  . have hshort := forall₂_cutAtPair (show ' ' ≠ ',' by decide) cs
    rw [← List.forall₂_eq_eq_eq, List.forall₂_map_left_iff, List.forall₂_map_right_iff]
    refine hshort.imp ?_
    rintro short piece (rfl | rfl)
    . rfl
    . exact (trimChars_concat (by decide) short).symm
  . rw [flatMap_splitOnP_splitOnP]

theorem tokens_eq (s : String)
    : tokens s = (((s.toList.splitOn ',').map .ofList).map trim).filter (· ≠ "") := by
  have htrim : trim ∘ String.ofList = String.ofList ∘ trimChars := by
    funext cs
    exact trim_ofList cs
  have hempty : ∀ cs : List Char, decide (String.ofList cs ≠ "") = !cs.isEmpty := by
    intro cs
    rw [Bool.eq_iff_iff]
    simp
  unfold tokens
  rw [tokensChars_eq, List.map_map, htrim, ← List.map_map, List.filter_map (f := String.ofList)]
  simp only [Function.comp_def, hempty]

theorem tokens_of_isBlankText {s : String} (h : isBlankText s = true) : tokens s = [] := by
  have hcommas : s.toList.splitOn ',' = [s.toList] := by
    rw [List.splitOn_eq_splitOnP]
    apply List.splitOnP_eq_singleton
    intro c hc
    have hblank : isBlank c = true := List.all_eq_true.1 h c hc
    rw [beq_eq_false_iff_ne]
    rintro rfl
    cases hblank
  rw [tokens_eq, hcommas]
  simp [trim_of_isBlankText h]

theorem trimmed_of_mem_tokens {s t : String} (h : t ∈ tokens s) : trim t = t ∧ t ≠ "" := by
  unfold tokens tokensChars at h
  rcases List.mem_map.1 h with ⟨cs, hcs, rfl⟩
  rcases List.mem_filter.1 hcs with ⟨hmem, hne⟩
  rcases List.mem_map.1 hmem with ⟨piece, _, rfl⟩
  constructor
  . rw [trim_ofList, trimChars_trimChars]
  . intro hempty
    rw [String.ofList_eq_empty_iff] at hempty
    simp [hempty] at hne

end Import

end Counterpart
