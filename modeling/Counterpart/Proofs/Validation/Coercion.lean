import Counterpart.Proofs.Numeric.Stored
import Counterpart.Proofs.Validation.Alone

/-!
This module contains the form in which an accepted value is stored: as it is, or in the one other form
that the type of its field has for it. What is stored fits the field, and there is nothing to be said
against it.
-/

namespace Counterpart

open Numeric

def Format.boolWords : Bool → List String
  | true => ["true", "1", "yes"]
  | false => ["false", "0", "no"]

namespace Json

/-- Whether a value other than a truth value stands for one: zero or one, or a word in any case. -/
def Denotes (b : Bool) : Json → Prop
  | .number n => n.toDouble.units = if b then one else 0
  | .string s => Text.lowerAscii (Text.trim s) ∈ Format.boolWords b
  | _ => False

variable {j : Json} {b : Bool}

theorem parseBool?_eq_some_iff {s : String}
    : Format.parseBool? s = some b ↔ Text.lowerAscii (Text.trim s) ∈ Format.boolWords b := by
  unfold Format.parseBool? Format.boolWords
  generalize Text.lowerAscii (Text.trim s) = word
  cases b with
  | true => split <;> simp_all
  | false => split <;> simp_all

theorem asBool?_number_eq_some_iff {n : Number}
    : (number n).asBool? = some b ↔ n.toDouble.units = if b then one else 0 := by
  have hone := one_pos
  unfold asBool? Finite.units
  dsimp only
  generalize n.toDouble.magnitude = magnitude
  generalize one = unit at hone ⊢
  by_cases hzero : magnitude = 0
  . rw [if_pos hzero, hzero]
    cases b with
    | true =>
      simp only [Option.some.injEq, Bool.false_eq_true, false_iff, if_true]
      split <;> omega
    | false => simp
  . rw [if_neg hzero]
    cases b with
    | true =>
      simp only [if_true]
      split
      . next h => simp [h.1, h.2]
      . next h =>
        -- A magnitude of one with a sign is the number minus one.
        simp only [reduceCtorEq, false_iff]
        split
        . omega
        . next hsign =>
          have hne : magnitude ≠ unit := fun heq => h ⟨heq, hsign⟩
          omega
    | false =>
      simp only [Bool.false_eq_true, if_false]
      split
      . next h =>
        simp only [Option.some.injEq, Bool.true_eq_false, false_iff]
        split <;> omega
      . simp only [reduceCtorEq, false_iff]
        split <;> omega

theorem asBool?_eq_some_iff : j.asBool? = some b ↔ j = .bool b ∨ j.Denotes b := by
  cases j with
  | bool a => simp [asBool?, Denotes]
  | number n =>
    rw [asBool?_number_eq_some_iff]
    simp only [reduceCtorEq, false_or, Denotes]
  | string s =>
    simp only [asBool?, parseBool?_eq_some_iff, reduceCtorEq, false_or, Denotes]
  | null | array | object => simp [asBool?, Denotes]

end Json

namespace Rule

/-- The other form in which a value is stored: a numeric text as its number, and on import what stands
for a truth value as that truth value. -/
def coerce? (mode : Mode) : Rule → Json → Option Json
  | .number _, .string s => (Format.parseNumber? s).map fun x => .number (.ofDouble x)
  | .checkbox, .bool _ => none
  | .checkbox, j => if mode = .importing then j.asBool?.map .bool else none
  | _, _ => none

variable {r : Rule} {mode : Mode} {j k : Json}

theorem excess?_ofDouble (bounds : Option Bounds) (x : Finite double)
    (h : bounds.all (·.contains (.finite x)) = true)
    : excess? (.number bounds) (.number (.ofDouble x)) = none := by
  unfold excess?
  dsimp only
  simp only [Bounds.contains_congr (Number.units_toDouble_ofDouble x)]
  rw [if_pos h]

theorem check_text_eq_ok {form : TextSyntax} (h : check mode (.text form) j = .ok k)
    : k = j ∧ fits (.text form) j = true := by
  cases j with
  | string s =>
    simp only [check] at h
    split at h
    . next haccepts =>
      cases h
      simp [fits, haccepts]
    . cases h
  | null | bool | number | array | object => cases h

theorem check_number_eq_ok {bounds : Option Bounds} (h : check mode (.number bounds) j = .ok k)
    : k = (coerce? mode (.number bounds) j).getD j ∧ fits (.number bounds) k = true
        ∧ excess? (.number bounds) k = none := by
  unfold check at h
  dsimp only at h
  split at h
  . cases h
  . next x hx =>
    split at h
    . next hcontains =>
      cases j with
      | number n =>
        cases h
        cases hx
        simp [coerce?, fits, excess?, hcontains]
      | string s =>
        cases h
        have hx : Format.parseNumber? s = some x := hx
        simp [coerce?, fits, excess?_ofDouble bounds x hcontains, hx]
      | null | bool | array | object => cases hx
    . cases h

theorem check_single_eq_ok {choices : Choices} (h : check mode (.single choices) j = .ok k)
    : k = j ∧ fits (.single choices) j = true := by
  unfold check at h
  dsimp only at h
  split at h
  . next hchoice =>
    cases h
    cases j with
    | string s => exact ⟨rfl, hchoice⟩
    | null | bool | number | array | object => cases hchoice
  . cases h

theorem check_several_eq_ok {choices : Choices} (h : check mode (.several choices) j = .ok k)
    : k = j ∧ fits (.several choices) j = true := by
  cases j with
  | array items =>
    unfold check at h
    dsimp only at h
    split at h
    . next hnone =>
      cases h
      refine ⟨rfl, ?_⟩
      simpa [fits, List.filter_eq_nil_iff] using hnone
    . cases h
  | null | bool | number | string | object => cases h

theorem check_checkbox_eq_ok (h : check mode .checkbox j = .ok k)
    : k = (coerce? mode .checkbox j).getD j ∧ fits .checkbox k = true := by
  cases mode with
  | submission =>
    cases j with
    | bool b =>
      cases h
      exact ⟨rfl, rfl⟩
    | null | number | string | array | object => cases h
  | importing =>
    unfold check at h
    dsimp only at h
    split at h
    . next b hb =>
      cases h
      refine ⟨?_, rfl⟩
      cases j with
      | bool a =>
        cases hb
        rfl
      | null | number | string | array | object => simp [coerce?, hb]
    . cases h

theorem check_eq_ok (h : r.check mode j = .ok k) (hj : j ≠ .null)
    : k = (r.coerce? mode j).getD j ∧ r.fits k = true ∧ r.excess? k = none := by
  cases r with
  | text form =>
    rcases check_text_eq_ok h with ⟨rfl, hfits⟩
    exact ⟨rfl, hfits, rfl⟩
  | number bounds => exact check_number_eq_ok h
  | single choices =>
    rcases check_single_eq_ok h with ⟨rfl, hfits⟩
    exact ⟨rfl, hfits, rfl⟩
  | several choices =>
    rcases check_several_eq_ok h with ⟨rfl, hfits⟩
    exact ⟨rfl, hfits, rfl⟩
  | checkbox =>
    rcases check_checkbox_eq_ok h with ⟨hk, hfits⟩
    exact ⟨hk, hfits, rfl⟩
  | any =>
    cases h
    exact ⟨rfl, by simp [fits, hj], rfl⟩

theorem isMissing_of_isMissing_coerce? (h : ((r.coerce? mode j).getD j).isMissing = true)
    : j.isMissing = true := by
  cases hk : r.coerce? mode j with
  | none => rwa [hk] at h
  | some k =>
    rw [hk, Option.getD_some] at h
    unfold coerce? at hk
    split at hk
    . rcases Option.map_eq_some_iff.1 hk with ⟨x, _, rfl⟩
      cases h
    . cases hk
    . split at hk
      . rcases Option.map_eq_some_iff.1 hk with ⟨b, _, rfl⟩
        cases h
      . cases hk
    . cases hk

theorem coerce?_of_acceptsEmpty (h : r.acceptsEmpty j = true) : r.coerce? mode j = none := by
  cases r with
  | number | single | checkbox => cases h
  | text | several | any => rfl

theorem fits_of_acceptsEmpty (h : r.acceptsEmpty j = true) (hmissing : j.isMissing = true)
    (hj : j ≠ .null)
    : r.fits j = true := by
  cases r with
  | number | single | checkbox => cases h
  | text form =>
    cases j with
    | string s =>
      have hblank : Text.isBlankText s = true := hmissing
      simp [fits, hblank]
    | null | bool | number | array | object => cases h
  | several choices =>
    cases j with
    | array items =>
      have hnil : items = [] := List.isEmpty_iff.1 hmissing
      simp [fits, hnil]
    | null | bool | number | string | object => cases h
  | any => simp [fits, hj]

theorem coerce?_number_eq_some_iff {bounds : Option Bounds}
    : coerce? mode (.number bounds) j = some k
        ↔
      ∃ s x, j = .string s ∧ Format.parseNumber? s = some x ∧ k = .number (.ofDouble x) := by
  cases j with
  | string s => simp [coerce?, Option.map_eq_some_iff, @eq_comm _ k]
  | null | bool | number | array | object => simp [coerce?]

theorem coerce?_checkbox_eq_some_iff
    : coerce? mode .checkbox j = some k
        ↔
      mode = .importing ∧ ∃ b, j.Denotes b ∧ k = .bool b := by
  cases j with
  | bool a => simp [coerce?, Json.Denotes]
  | null | number | string | array | object =>
    simp [coerce?, Option.map_eq_some_iff, Json.asBool?_eq_some_iff, @eq_comm _ k]

end Rule

namespace FieldRule

variable {r : FieldRule} {mode : Mode} {j k : Json}

theorem map_some_eq_ok_iff {verdict : Except Issue Json} {value : Option Json}
    : verdict.map some = .ok value ↔ ∃ k, verdict = .ok k ∧ value = some k := by
  cases verdict with
  | error i => simp [Except.map]
  | ok k => simp [Except.map, eq_comm]

theorem check_eq_ok_none (h : r.check mode j = .ok none) : j = .null ∧ r.required = false := by
  unfold check at h
  split at h
  . cases h
  . next hrequired =>
    split at h
    . next hj =>
      subst hj
      simpa [Json.isMissing] using hrequired
    . split at h
      . cases h
      . rcases map_some_eq_ok_iff.1 h with ⟨_, _, hk⟩
        cases hk

theorem check_eq_ok_some (h : r.check mode j = .ok (some k))
    : j ≠ .null ∧ k = (r.rule.coerce? mode j).getD j ∧ r.rule.fits k = true
        ∧ r.issue? (some k) = none := by
  unfold check at h
  split at h
  . cases h
  . next hrequired =>
    split at h
    . cases h
    . next hj =>
      have hstored : k = (r.rule.coerce? mode j).getD j ∧ r.rule.fits k = true
          ∧ r.rule.excess? k = none := by
        split at h
        . next hempty =>
          -- An empty value of its type is stored before the rule is asked.
          cases h
          rw [Rule.coerce?_of_acceptsEmpty hempty.2, Option.getD_none]
          exact ⟨rfl, Rule.fits_of_acceptsEmpty hempty.2 hempty.1 hj,
            Rule.excess?_of_isMissing hempty.1⟩
        . rcases map_some_eq_ok_iff.1 h with ⟨l, hcheck, hl⟩
          cases hl
          exact Rule.check_eq_ok hcheck hj
      rcases hstored with ⟨hk, hfits, hexcess⟩
      refine ⟨hj, hk, hfits, ?_⟩
      unfold issue?
      dsimp only
      rw [if_neg, hexcess]
      rintro ⟨hmissing, hreq⟩
      rw [hk] at hmissing
      exact hrequired ⟨Rule.isMissing_of_isMissing_coerce? hmissing, hreq⟩

end FieldRule

namespace Field

def Coerces (mode : Mode) (f : Field) (j k : Json) : Prop :=
  match f.kind with
  | .number => ∃ s x, j = .string s ∧ Format.parseNumber? s = some x ∧ k = .number (.ofDouble x)
  | .checkbox => mode = .importing ∧ ∃ b, j.Denotes b ∧ k = .bool b
  | _ => False

variable {f : Field} {rule : Rule} {mode : Mode} {candidate j k : Json} {data : KeyMap Json}

theorem coerces_iff (hrule : Rule.ofField? f = some rule)
    : f.Coerces mode j k ↔ rule.coerce? mode j = some k := by
  unfold Rule.ofField? at hrule
  unfold Coerces
  cases hf : f.kind with
  | number =>
    rw [hf] at hrule
    cases hrule
    rw [Rule.coerce?_number_eq_some_iff]
  | checkbox =>
    rw [hf] at hrule
    cases hrule
    rw [Rule.coerce?_checkbox_eq_some_iff]
  | button =>
    rw [hf] at hrule
    cases hrule
  | text | email | textarea | select | multiselect | radio | date | file | url | phone | unknown =>
    rw [hf] at hrule
    cases hrule
    simp [Rule.coerce?]

theorem eq_getD_coerce?_iff (hrule : Rule.ofField? f = some rule)
    : k = (rule.coerce? mode j).getD j
        ↔
      f.Coerces mode j k ∨ (k = j ∧ ∀ l, ¬ f.Coerces mode j l) := by
  simp only [coerces_iff hrule]
  cases rule.coerce? mode j with
  | none => simp
  | some l => simp [eq_comm]

theorem check_of_failure? (hrule : Rule.ofField? f = some rule)
    (h : f.failure? mode candidate = none)
    : FieldRule.check ⟨f.key, f.required, rule⟩ mode ((candidate.member? f.key).getD .null)
        =
      .ok (f.kept? mode candidate) := by
  unfold failure? at h
  unfold kept?
  unfold verdict? at h ⊢
  rw [ofField?_eq, hrule] at h ⊢
  dsimp only [Option.map_some] at h ⊢
  cases hcheck : FieldRule.check ⟨f.key, f.required, rule⟩ mode
      ((candidate.member? f.key).getD .null) with
  | error i =>
    rw [hcheck] at h
    cases h
  | ok value => rfl

theorem kept?_eq_some (h : f.kept? mode candidate = some k)
    : ∃ rule j, Rule.ofField? f = some rule ∧ candidate.member? f.key = some j ∧ j ≠ .null
        ∧ k = (rule.coerce? mode j).getD j ∧ rule.fits k = true := by
  cases hrule : Rule.ofField? f with
  | none => simp [kept?, verdict?, ofField?_eq, hrule] at h
  | some rule =>
    have hcheck := check_of_failure? hrule (failure?_of_kept? h)
    rw [h] at hcheck
    rcases FieldRule.check_eq_ok_some hcheck with ⟨hj, hk, hfits, _⟩
    cases hmember : candidate.member? f.key with
    | none =>
      rw [hmember] at hj
      exact absurd rfl hj
    | some j =>
      rw [hmember, Option.getD_some] at hj hk
      exact ⟨rule, j, rfl, rfl, hj, hk, hfits⟩

theorem issue?_of_failure? (h : f.failure? mode candidate = none)
    (hdata : data.get? f.key = f.kept? mode candidate)
    : f.issue? data = none := by
  unfold issue?
  rw [hdata, ofField?_eq]
  cases hrule : Rule.ofField? f with
  | none => rfl
  | some rule =>
    have hcheck := check_of_failure? hrule h
    rw [Option.map_some, Option.bind_some]
    cases hk : f.kept? mode candidate with
    | none =>
      rw [hk] at hcheck
      have hrequired : f.required = false := (FieldRule.check_eq_ok_none hcheck).2
      simp [FieldRule.issue?, hrequired]
    | some k =>
      rw [hk] at hcheck
      exact (FieldRule.check_eq_ok_some hcheck).2.2.2

theorem exists_kept?_of_failure? (h : f.failure? mode candidate = none)
    (hdata : f.carriesData = true) (hmember : candidate.member? f.key = some j) (hj : j ≠ .null)
    : ∃ k, f.kept? mode candidate = some k := by
  rw [← isSome_ofField?, Option.isSome_iff_exists] at hdata
  rcases hdata with ⟨rule, hrule⟩
  have hcheck := check_of_failure? hrule h
  rw [hmember, Option.getD_some] at hcheck
  rw [← Option.ne_none_iff_exists']
  intro hnone
  rw [hnone] at hcheck
  exact hj (FieldRule.check_eq_ok_none hcheck).1

end Field

end Counterpart
