import Counterpart.Proofs.Import.Tokens

/-!
This module contains that the tokens of a text do not depend on how they are delimited: joined with
a comma that has blanks around it or none, they are the tokens of the joined text.
-/

namespace Counterpart

namespace Import

open Text

variable {left right : List Char}

theorem tokensChars_append_comma (cs ds : List Char)
    : tokensChars (cs ++ ',' :: ds) = tokensChars cs ++ tokensChars ds := by
  simp only [tokensChars_eq, List.splitOn_append_cons_self, List.map_append, List.filter_append]

theorem tokensChars_of_not_mem {cs : List Char} (h : ',' ∉ cs)
    : tokensChars cs = [trimChars cs].filter (!·.isEmpty) := by
  rw [tokensChars_eq, List.splitOn_eq_singleton h]
  rfl

structure IsToken (t : List Char) : Prop where
  ne_nil : t ≠ []
  trimmed : trimChars t = t
  comma_not_mem : ',' ∉ t

theorem isToken_of_mem_tokensChars {cs t : List Char} (h : t ∈ tokensChars cs) : IsToken t := by
  rw [tokensChars_eq] at h
  rcases List.mem_filter.1 h with ⟨hmem, hne⟩
  rcases List.mem_map.1 hmem with ⟨piece, hpiece, rfl⟩
  refine ⟨by simpa using hne, trimChars_trimChars piece, ?_⟩
  intro hcomma
  exact not_mem_of_mem_splitOn hpiece ((sublist_trimChars piece).mem hcomma)

theorem comma_not_mem_of_isBlank {cs : List Char} (h : ∀ c ∈ cs, isBlank c = true) : ',' ∉ cs := by
  intro hmem
  cases h ',' hmem

theorem tokensChars_isToken {t : List Char} (ht : IsToken t)
    (hright : ∀ c ∈ right, isBlank c = true) (hleft : ∀ c ∈ left, isBlank c = true)
    : tokensChars (right ++ t ++ left) = [t] := by
  have hcomma : ',' ∉ right ++ t ++ left := by
    simp [comma_not_mem_of_isBlank hleft, comma_not_mem_of_isBlank hright, ht.comma_not_mem]
  rw [tokensChars_of_not_mem hcomma, trimChars_append_right hleft, trimChars_append_left hright]
  rw [ht.trimmed]
  simp [ht.ne_nil]

theorem tokensChars_intercalate (hleft : ∀ c ∈ left, isBlank c = true)
    (hright : ∀ c ∈ right, isBlank c = true) {ts : List (List Char)} (hts : ∀ t ∈ ts, IsToken t)
    {before : List Char} (hbefore : ∀ c ∈ before, isBlank c = true)
    : tokensChars (before ++ List.intercalate (left ++ ',' :: right) ts) = ts := by
  -- Once a token is taken, the blanks behind its comma are those before the next one.
  induction ts generalizing before with
  | nil =>
    rw [List.intercalate_nil, List.append_nil]
    rw [tokensChars_of_not_mem (comma_not_mem_of_isBlank hbefore)]
    have htrim : trimChars before = [] := by
      rw [← List.append_nil before, trimChars_append_left hbefore]
      rfl
    simp [htrim]
  | cons t ts ih =>
    have ⟨ht, hts⟩ := List.forall_mem_cons.1 hts
    cases ts with
    | nil =>
      have hlast := tokensChars_isToken ht hbefore (List.forall_mem_nil _)
      rw [List.append_nil] at hlast
      rw [List.intercalate_singleton]
      exact hlast
    | cons u us =>
      rw [List.intercalate_cons_cons]
      have hsplit (rest : List Char)
          : before ++ (t ++ (left ++ ',' :: right) ++ rest)
              =
            (before ++ t ++ left) ++ ',' :: (right ++ rest) := by
        simp
      rw [hsplit, tokensChars_append_comma, tokensChars_isToken ht hbefore hleft, ih hts hright]
      rfl

theorem isToken_of_mem_tokens {s t : String} (h : t ∈ tokens s) : IsToken t.toList := by
  rcases List.mem_map.1 h with ⟨cs, hcs, rfl⟩
  rw [String.toList_ofList]
  exact isToken_of_mem_tokensChars hcs

theorem tokens_intercalate {delimiter : String}
    (hdelimiter : delimiter.toList = left ++ ',' :: right) (hleft : ∀ c ∈ left, isBlank c = true)
    (hright : ∀ c ∈ right, isBlank c = true) (s : String)
    : tokens (delimiter.intercalate (tokens s)) = tokens s := by
  have htokens : ∀ t ∈ (tokens s).map String.toList, IsToken t := by
    simp only [List.forall_mem_map]
    intro t ht
    exact isToken_of_mem_tokens ht
  have hjoined := tokensChars_intercalate hleft hright htokens (List.forall_mem_nil _)
  rw [List.nil_append, ← hdelimiter, ← String.toList_intercalate] at hjoined
  rw [tokens.eq_def (delimiter.intercalate _), hjoined, List.map_map]
  simp

/-- A blank before a comma is a part of the delimiter or of the piece, which makes no difference:
the tokens are the pieces between commas, trimmed, without the empty ones. None has a comma, and
joined with any of the usual delimiters they are found again. -/
theorem tokens_delimited (s : String)
    : tokens s = (((s.toList.splitOn ',').map .ofList).map trim).filter (· ≠ "")
        ∧ (∀ t ∈ tokens s, t ≠ "" ∧ trim t = t ∧ ',' ∉ t.toList)
        ∧ ∀ delimiter ∈ [",", ", ", " ,"], tokens (delimiter.intercalate (tokens s)) = tokens s := by
  refine ⟨tokens_eq s, ?_, ?_⟩
  . intro t ht
    have ⟨htrim, hne⟩ := trimmed_of_mem_tokens ht
    exact ⟨hne, htrim, (isToken_of_mem_tokens ht).comma_not_mem⟩
  . have hnone : ∀ c ∈ ([] : List Char), isBlank c = true := List.forall_mem_nil _
    have hblank : ∀ c ∈ [' '], isBlank c = true := List.forall_mem_singleton.2 rfl
    simp only [List.forall_mem_cons]
    refine ⟨?_, ?_, ?_, List.forall_mem_nil _⟩
    . exact tokens_intercalate rfl hnone hnone s
    . exact tokens_intercalate rfl hnone hblank s
    . exact tokens_intercalate rfl hblank hnone s

theorem tokens_delimited_tags
    : tokens " tech ,,health , real estate," = ["tech", "health", "real estate"]
        ∧ tokens "tech ,health ,real estate" = ["tech", "health", "real estate"] := by
  have ⟨heq, _, hjoined⟩ := tokens_delimited " tech ,,health , real estate,"
  have htokens : tokens " tech ,,health , real estate," = ["tech", "health", "real estate"] := by
    rw [heq]
    decide +kernel
  have hspaced := hjoined " ," (by simp)
  rw [htokens] at hspaced
  exact ⟨htokens, hspaced⟩

end Import

end Counterpart
