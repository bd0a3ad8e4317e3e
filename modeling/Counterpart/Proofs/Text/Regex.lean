import Mathlib.Computability.Language

/-!
This module contains regular expressions over classes of characters, and which texts they match as a
whole.
-/

namespace Counterpart.Text

open scoped Computability

inductive Regex where
  | oneOf (p : Char → Bool)
  | seq (r s : Regex)
  | optional (r : Regex)
  | star (r : Regex)

namespace Regex

instance : Append Regex := ⟨seq⟩

def char (c : Char) : Regex := oneOf (· == c)

def plus (r : Regex) : Regex := r ++ star r

def language : Regex → Language Char
  | oneOf p => {cs | ∃ c, p c = true ∧ cs = [c]}
  | seq r s => r.language * s.language
  | optional r => 1 + r.language
  | star r => r.language∗

variable {r s : Regex} {p : Char → Bool} {c : Char} {cs : List Char}

theorem mem_oneOf : cs ∈ (oneOf p).language ↔ ∃ c, p c = true ∧ cs = [c] := Iff.rfl

theorem mem_char : cs ∈ (char c).language ↔ cs = [c] := by
  unfold char
  simp [mem_oneOf]

theorem mem_append
    : cs ∈ (r ++ s).language ↔ ∃ as bs, cs = as ++ bs ∧ as ∈ r.language ∧ bs ∈ s.language := by
  constructor
  . intro h
    rcases Language.mem_mul.1 h with ⟨as, has, bs, hbs, rfl⟩
    exact ⟨as, bs, rfl, has, hbs⟩
  . rintro ⟨as, bs, rfl, has, hbs⟩
    exact Language.append_mem_mul has hbs

theorem language_append_append (r s t : Regex)
    : (r ++ s ++ t).language = (r ++ (s ++ t)).language :=
  mul_assoc r.language s.language t.language

theorem mem_optional : cs ∈ (optional r).language ↔ cs = [] ∨ cs ∈ r.language := Iff.rfl

theorem mem_star_oneOf : cs ∈ (star (oneOf p)).language ↔ ∀ c ∈ cs, p c = true := by
  constructor
  . intro h
    rcases Language.mem_kstar.1 h with ⟨pieces, rfl, hpieces⟩
    intro c hc
    rcases List.mem_flatten.1 hc with ⟨piece, hpiece, hc⟩
    rcases hpieces piece hpiece with ⟨d, hd, rfl⟩
    rwa [List.mem_singleton.1 hc]
  . intro h
    apply Language.mem_kstar.2
    refine ⟨cs.map ([·]), by rw [← List.flatMap_def, List.flatMap_singleton'], ?_⟩
    intro piece hpiece
    rcases List.mem_map.1 hpiece with ⟨c, hc, rfl⟩
    exact ⟨c, h c hc, rfl⟩

theorem mem_plus_oneOf : cs ∈ (plus (oneOf p)).language ↔ cs ≠ [] ∧ ∀ c ∈ cs, p c = true := by
  unfold plus
  rw [mem_append]
  constructor
  . rintro ⟨_, bs, rfl, ⟨c, hc, rfl⟩, hbs⟩
    rw [mem_star_oneOf] at hbs
    simpa [hc] using hbs
  . rintro ⟨hne, hall⟩
    cases cs with
    | nil => exact absurd rfl hne
    | cons c cs =>
      rw [List.forall_mem_cons] at hall
      exact ⟨[c], cs, rfl, ⟨c, hall.1, rfl⟩, mem_star_oneOf.2 hall.2⟩

end Regex

end Counterpart.Text
