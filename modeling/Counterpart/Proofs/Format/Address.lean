import Counterpart.Format.Address
import Counterpart.Proofs.Text.Cut
import Counterpart.Proofs.Text.Regex

/-!
This module contains what email addresses, URLs and phone numbers are: in words, as regular expressions,
and that the checks accept exactly these texts.
-/

namespace Counterpart

open Text

namespace Format

variable {t : List Char}

def DomainText (t : List Char) : Prop :=
  ∃ before after, t = before ++ '.' :: after ∧ '.' ∉ after ∧ before ≠ [] ∧ after ≠ []

def EmailText (t : List Char) : Prop :=
  (∀ c ∈ t, isBlank c = false) ∧ t.count '@' = 1
    ∧ ∃ user domain, t = user ++ '@' :: domain ∧ user ≠ [] ∧ DomainText domain

def SchemeText (t : List Char) : Prop :=
  ∃ c more, t = c :: more ∧ c.isAlpha = true
    ∧ ∀ d ∈ more, d.isAlphanum = true ∨ d = '+' ∨ d = '.' ∨ d = '-'

def UrlText (t : List Char) : Prop :=
  ∃ scheme rest, t = scheme ++ ':' :: rest ∧ ':' ∉ scheme ∧ SchemeText scheme
    ∧ (∀ c ∈ rest, isBlank c = false)
    ∧ ∃ body, (rest = '/' :: '/' :: body ∨ (rest = body ∧ ¬ ['/', '/'] <+: rest))
      ∧ body ≠ [] ∧ body.head? ≠ some '/'

def PhoneText (t : List Char) : Prop :=
  (∀ c ∈ t, c.isDigit = true ∨ isBlank c = true ∨ c = '(' ∨ c = ')' ∨ c = '+' ∨ c = '-' ∨ c = '.')
    ∧ ∃ c ∈ t, c.isDigit = true

theorem isDomain_iff : isDomain t = true ↔ DomainText t := by
  unfold isDomain DomainText
  constructor
  . intro h
    split at h
    . next last dot before heq =>
      rcases span_ne_eq_cons_iff.1 heq with ⟨rfl, hsplit, hlast⟩
      have ht : t = before.reverse ++ '.' :: last.reverse := by
        rw [← t.reverse_reverse, hsplit]
        simp
      refine ⟨before.reverse, last.reverse, ht, by simpa using hlast, ?_⟩
      simpa [and_comm] using h
    . cases h
  . rintro ⟨before, after, rfl, hafter, hne⟩
    have hspan : (before ++ '.' :: after).reverse.span (· != '.')
        = (after.reverse, '.' :: before.reverse) :=
      span_ne_eq_cons_iff.2 ⟨rfl, by simp, by simpa using hafter⟩
    rw [hspan]
    simpa [and_comm] using hne

theorem isEmailChars_iff : isEmailChars t = true ↔ EmailText t := by
  have hblank : (!t.any isBlank) = true ↔ ∀ c ∈ t, isBlank c = false := by simp
  unfold isEmailChars EmailText
  rw [Bool.and_eq_true, hblank]
  apply and_congr_right
  intro _
  constructor
  . intro h
    split at h
    . next user domain heq =>
      rcases cutAt_eq_pair_iff.1 heq with ⟨rfl, huser, hdomain⟩
      rw [Bool.and_eq_true, isDomain_iff] at h
      refine ⟨?_, user, domain, rfl, by simpa using h.1, h.2⟩
      simp [List.count_eq_zero_of_not_mem, huser, hdomain]
    . cases h
  . rintro ⟨hcount, user, domain, rfl, huser, hdomain⟩
    rw [List.count_append, List.count_cons_self] at hcount
    have hpair : cutAt (· == '@') (user ++ '@' :: domain) = [user, domain] :=
      cutAt_eq_pair_iff.2 ⟨rfl, List.count_eq_zero.1 (by omega), List.count_eq_zero.1 (by omega)⟩
    rw [hpair]
    simpa [isDomain_iff, hdomain] using huser

theorem isScheme_iff : isScheme t = true ↔ SchemeText t := by
  unfold SchemeText
  cases t with
  | nil => simp [isScheme]
  | cons c more => simp [isScheme, or_assoc]

theorem SchemeText.colon_not_mem (h : SchemeText t) : ':' ∉ t := by
  rcases h with ⟨c, more, rfl, hc, hmore⟩
  rw [List.mem_cons, not_or]
  constructor
  . rintro rfl
    exact absurd hc (by decide)
  . intro hcolon
    exact absurd (hmore _ hcolon) (by decide)

theorem dropSlashes_iff {body : List Char}
    : dropSlashes t = body ↔ t = '/' :: '/' :: body ∨ (t = body ∧ ¬ ['/', '/'] <+: t) := by
  unfold dropSlashes
  split
  . simp
  . next h =>
    have hne : ¬ ['/', '/'] <+: t := by
      rintro ⟨rest, rfl⟩
      exact h rest rfl
    constructor
    . intro heq
      exact .inr ⟨heq, hne⟩
    . rintro (rfl | ⟨heq, _⟩)
      . exact absurd rfl (h body)
      . exact heq

theorem isUrlChars_iff : isUrlChars t = true ↔ UrlText t := by
  unfold isUrlChars UrlText
  constructor
  . intro h
    split at h
    . next scheme colon rest heq =>
      rcases span_ne_eq_cons_iff.1 heq with ⟨rfl, hsplit, hcolon⟩
      simp only [Bool.and_eq_true, isScheme_iff] at h
      refine ⟨scheme, rest, hsplit, hcolon, h.1.1, by simpa using h.1.2, dropSlashes rest,
        dropSlashes_iff.1 rfl, ?_⟩
      split at h
      . simp at h
      . next c more hbody => simpa [hbody] using h.2
    . cases h
  . rintro ⟨scheme, rest, rfl, hcolon, hscheme, hblank, body, hbody, hne, hhead⟩
    rw [span_ne_eq_cons_iff.2 ⟨rfl, rfl, hcolon⟩]
    dsimp only
    rw [dropSlashes_iff.2 hbody]
    cases body with
    | nil => exact absurd rfl hne
    | cons c more =>
      simp only [Bool.and_eq_true, isScheme_iff]
      exact ⟨⟨hscheme, by simpa using hblank⟩, by simpa using hhead⟩

theorem isPhoneChars_iff : isPhoneChars t = true ↔ PhoneText t := by
  simp [isPhoneChars, PhoneText, isPhoneChar, or_assoc]

/-- The expression `[^\s@]+@[^\s@]+\.[^\s@.]+`. -/
def emailPattern : Regex :=
  .plus (.oneOf fun c => !(isBlank c || c == '@')) ++ .char '@'
    ++ .plus (.oneOf fun c => !(isBlank c || c == '@')) ++ .char '.'
    ++ .plus (.oneOf fun c => !(isBlank c || c == '@' || c == '.'))

/-- The expression `[A-Za-z][A-Za-z0-9+.\-]*:(//)?[^\s/]\S*`. -/
def urlPattern : Regex :=
  .oneOf Char.isAlpha ++ .star (.oneOf fun c => c.isAlphanum || c == '+' || c == '.' || c == '-')
    ++ .char ':' ++ .optional (.char '/' ++ .char '/')
    ++ .oneOf (fun c => !(isBlank c || c == '/')) ++ .star (.oneOf fun c => !isBlank c)

/-- The expression `[0-9\s()+\-.]+`. -/
def phonePattern : Regex :=
  .plus (.oneOf fun c =>
    c.isDigit || isBlank c || c == '(' || c == ')' || c == '+' || c == '-' || c == '.')

theorem mem_emailPattern_iff_exists
    : t ∈ emailPattern.language
        ↔
      ∃ user before after, t = user ++ '@' :: (before ++ '.' :: after)
        ∧ (user ≠ [] ∧ (∀ c ∈ user, isBlank c = false) ∧ '@' ∉ user)
        ∧ (before ≠ [] ∧ (∀ c ∈ before, isBlank c = false) ∧ '@' ∉ before)
        ∧ after ≠ [] ∧ ((∀ c ∈ after, isBlank c = false) ∧ '@' ∉ after) ∧ '.' ∉ after := by
  unfold emailPattern
  simp only [Regex.language_append_append]
  simp only [Regex.mem_append, Regex.mem_plus_oneOf, Regex.mem_char, Bool.not_eq_true',
    Bool.or_eq_false_iff, beq_eq_false_iff_ne, imp_and, forall_and, List.forall_mem_ne']
  constructor
  . rintro ⟨user, _, rfl, huser, _, _, rfl, rfl, before, _, rfl, hbefore, _, after, rfl, rfl, hafter⟩
    exact ⟨user, before, after, rfl, huser, hbefore, hafter⟩
  . rintro ⟨user, before, after, rfl, huser, hbefore, hafter⟩
    exact ⟨user, _, rfl, huser, ['@'], _, rfl, rfl, before, _, rfl, hbefore, ['.'], after, rfl, rfl, hafter⟩

theorem mem_emailPattern_iff : t ∈ emailPattern.language ↔ EmailText t := by
  have hblank {user before after : List Char}
      : (∀ c ∈ user ++ '@' :: (before ++ '.' :: after), isBlank c = false)
          ↔
        (∀ c ∈ user, isBlank c = false) ∧ (∀ c ∈ before, isBlank c = false)
          ∧ ∀ c ∈ after, isBlank c = false := by
    have hat : isBlank '@' = false := rfl
    have hpoint : isBlank '.' = false := rfl
    simp only [List.forall_mem_append, List.forall_mem_cons, hat, hpoint, true_and]
  have hcount {user before after : List Char}
      : (user ++ '@' :: (before ++ '.' :: after)).count '@' = 1
          ↔
        '@' ∉ user ∧ '@' ∉ before ∧ '@' ∉ after := by
    simp only [← List.count_eq_zero, List.count_append, List.count_cons_self,
      List.count_cons_of_ne (by decide : '.' ≠ '@')]
    omega
  rw [mem_emailPattern_iff_exists]
  unfold EmailText DomainText
  constructor
  . rintro ⟨user, before, after, rfl, ⟨huser, hu, hu'⟩, ⟨hbefore, hb, hb'⟩, hafter, ⟨ha, ha'⟩, hpoint⟩
    exact ⟨hblank.2 ⟨hu, hb, ha⟩, hcount.2 ⟨hu', hb', ha'⟩, user, _, rfl, huser, before, after, rfl,
      hpoint, hbefore, hafter⟩
  . rintro ⟨hclear, hone, user, _, rfl, huser, before, after, rfl, hpoint, hbefore, hafter⟩
    rcases hblank.1 hclear with ⟨hu, hb, ha⟩
    rcases hcount.1 hone with ⟨hu', hb', ha'⟩
    exact ⟨user, before, after, rfl, ⟨huser, hu, hu'⟩, ⟨hbefore, hb, hb'⟩, hafter, ⟨ha, ha'⟩, hpoint⟩

theorem body_iff_exists {rest : List Char}
    : ((∀ c ∈ rest, isBlank c = false)
        ∧ ∃ body, (rest = '/' :: '/' :: body ∨ (rest = body ∧ ¬ ['/', '/'] <+: rest))
          ∧ body ≠ [] ∧ body.head? ≠ some '/')
        ↔
      ∃ slashes d more, rest = slashes ++ d :: more ∧ (slashes = [] ∨ slashes = ['/', '/'])
        ∧ (isBlank d = false ∧ d ≠ '/') ∧ ∀ c ∈ more, isBlank c = false := by
  constructor
  . rintro ⟨hblank, body, hbody, hne, hhead⟩
    cases body with
    | nil => exact absurd rfl hne
    | cons d more =>
      have hslash : d ≠ '/' := by simpa using hhead
      have hclear (h : d :: more <:+ rest) : isBlank d = false ∧ ∀ c ∈ more, isBlank c = false :=
        List.forall_mem_cons.1 fun c hc => hblank c (h.mem hc)
      rcases hbody with rfl | ⟨rfl, _⟩
      . rcases hclear ⟨['/', '/'], rfl⟩ with ⟨hd, hmore⟩
        exact ⟨['/', '/'], d, more, rfl, .inr rfl, ⟨hd, hslash⟩, hmore⟩
      . rcases hclear List.suffix_rfl with ⟨hd, hmore⟩
        exact ⟨[], d, more, rfl, .inl rfl, ⟨hd, hslash⟩, hmore⟩
  . rintro ⟨slashes, d, more, rfl, hslashes, ⟨hd, hslash⟩, hmore⟩
    have hclear : ∀ c ∈ d :: more, isBlank c = false := List.forall_mem_cons.2 ⟨hd, hmore⟩
    have hhead : (d :: more).head? ≠ some '/' := by simpa using hslash
    rcases hslashes with rfl | rfl
    . refine ⟨hclear, d :: more, .inr ⟨rfl, ?_⟩, List.cons_ne_nil _ _, hhead⟩
      rintro ⟨tail, htail⟩
      cases htail
      exact hslash rfl
    . refine ⟨?_, d :: more, .inl rfl, List.cons_ne_nil _ _, hhead⟩
      have hblank : isBlank '/' = false := rfl
      rw [List.cons_append, List.cons_append, List.nil_append, List.forall_mem_cons, List.forall_mem_cons]
      exact ⟨hblank, hblank, hclear⟩

theorem mem_urlPattern_iff_exists
    : t ∈ urlPattern.language
        ↔
      ∃ scheme rest, t = scheme ++ ':' :: rest ∧ SchemeText scheme
        ∧ ∃ slashes d more, rest = slashes ++ d :: more ∧ (slashes = [] ∨ slashes = ['/', '/'])
          ∧ (isBlank d = false ∧ d ≠ '/') ∧ ∀ c ∈ more, isBlank c = false := by
  have hslashes {slashes : List Char}
      : slashes ∈ (Regex.optional (.char '/' ++ .char '/')).language
          ↔
        slashes = [] ∨ slashes = ['/', '/'] := by
    simp [Regex.mem_optional, Regex.mem_append, Regex.mem_char]
  unfold urlPattern SchemeText
  simp only [Regex.language_append_append]
  simp only [Regex.mem_append, Regex.mem_star_oneOf, Regex.mem_char, Regex.mem_oneOf, hslashes,
    Bool.not_eq_true', Bool.or_eq_false_iff, beq_eq_false_iff_ne, Bool.or_eq_true, beq_iff_eq, or_assoc]
  constructor
  . rintro ⟨_, _, rfl, ⟨c, hc, rfl⟩, more, _, rfl, hscheme, _, _, rfl, rfl, slashes, _, rfl, hslashes,
      _, rest, rfl, ⟨d, hd, rfl⟩, hrest⟩
    exact ⟨c :: more, _, rfl, ⟨c, more, rfl, hc, hscheme⟩, slashes, d, rest, rfl, hslashes, hd, hrest⟩
  . rintro ⟨_, _, rfl, ⟨c, more, rfl, hc, hscheme⟩, slashes, d, rest, rfl, hslashes, hd, hrest⟩
    exact ⟨[c], _, rfl, ⟨c, hc, rfl⟩, more, _, rfl, hscheme, [':'], _, rfl, rfl, slashes, _, rfl,
      hslashes, [d], rest, rfl, ⟨d, hd, rfl⟩, hrest⟩

theorem mem_urlPattern_iff : t ∈ urlPattern.language ↔ UrlText t := by
  rw [mem_urlPattern_iff_exists]
  unfold UrlText
  simp only [body_iff_exists]
  constructor
  . rintro ⟨scheme, rest, rfl, hscheme, hrest⟩
    exact ⟨scheme, rest, rfl, hscheme.colon_not_mem, hscheme, hrest⟩
  . rintro ⟨scheme, rest, rfl, _, hscheme, hrest⟩
    exact ⟨scheme, rest, rfl, hscheme, hrest⟩

theorem mem_phonePattern_iff
    : t ∈ phonePattern.language ∧ (∃ c ∈ t, c.isDigit = true) ↔ PhoneText t := by
  unfold phonePattern PhoneText
  rw [Regex.mem_plus_oneOf]
  simp only [Bool.or_eq_true, beq_iff_eq, or_assoc]
  constructor
  . rintro ⟨⟨_, hall⟩, hdigit⟩
    exact ⟨hall, hdigit⟩
  . rintro ⟨hall, c, hc, hdigit⟩
    exact ⟨⟨List.ne_nil_of_mem hc, hall⟩, c, hc, hdigit⟩

/-- The checks accept what addresses are in words, and that is what the expressions match. -/
theorem address_syntax (s : String)
    : ((isEmail s = true ↔ EmailText (trim s).toList)
        ∧ (isUrl s = true ↔ UrlText (trim s).toList)
        ∧ (isPhone s = true ↔ PhoneText (trim s).toList))
      ∧ (isEmail s = true ↔ (trim s).toList ∈ emailPattern.language)
      ∧ (isUrl s = true ↔ (trim s).toList ∈ urlPattern.language)
      ∧ (isPhone s = true
          ↔
        (trim s).toList ∈ phonePattern.language ∧ ∃ c ∈ (trim s).toList, c.isDigit = true) := by
  have htrim : trimChars s.toList = (trim s).toList := by
    unfold trim
    rw [String.toList_ofList]
  have hemail : isEmail s = true ↔ EmailText (trim s).toList := by
    unfold isEmail
    rw [isEmailChars_iff, htrim]
  have hurl : isUrl s = true ↔ UrlText (trim s).toList := by
    unfold isUrl
    rw [isUrlChars_iff, htrim]
  have hphone : isPhone s = true ↔ PhoneText (trim s).toList := by
    unfold isPhone
    rw [isPhoneChars_iff, htrim]
  exact ⟨⟨hemail, hurl, hphone⟩, hemail.trans mem_emailPattern_iff.symm,
    hurl.trans mem_urlPattern_iff.symm, hphone.trans mem_phonePattern_iff.symm⟩

end Format

end Counterpart
