import Counterpart.Json.Reader

/-!
This module contains where number literals end: what follows one does not change how it is read, as
long as it cannot continue a literal.
-/

namespace Counterpart

open Numeric

namespace Json

open Text (Reader)

def continuesNumber (c : Char) : Bool :=
  c.isDigit || c == '.' || c == 'e' || c == 'E' || c == '+' || c == '-'

def Stops (rest : List Char) : Prop := ∀ c left, rest = c :: left → continuesNumber c = false

def Leaves (r : Reader α) (rest : List Char) : Prop :=
  ∀ cs, r (cs ++ rest) = (r cs).map fun (a, left) => (a, left ++ rest)

variable {rest : List Char}

theorem stops_nil : Stops [] := by
  intro c left h
  cases h

theorem stops_cons {c : Char} (h : continuesNumber c = false) (rest : List Char)
    : Stops (c :: rest) := by
  intro d left heq
  cases heq
  exact h

theorem Stops.head_ne (h : Stops rest) {c : Char} (hc : continuesNumber c = true)
    (left : List Char)
    : rest ≠ c :: left := by
  intro heq
  rw [h c left heq] at hc
  cases hc

theorem Stops.spanDigits_eq (h : Stops rest) : spanDigits rest = ([], rest) := by
  cases rest with
  | nil => rfl
  | cons c rest =>
    have hc := h c rest rfl
    simp only [continuesNumber, Bool.or_eq_false_iff] at hc
    simp [spanDigits, hc]

theorem spanDigits_append (h : Stops rest) (cs : List Char)
    : spanDigits (cs ++ rest) = ((spanDigits cs).1, (spanDigits cs).2 ++ rest) := by
  induction cs with
  | nil => rw [List.nil_append, h.spanDigits_eq]; rfl
  | cons c cs ih =>
    unfold spanDigits at ih ⊢
    by_cases hc : c.isDigit = true
    . simpa [hc] using ih
    . simp [hc]

theorem leaves_wholePart (h : Stops rest) : Leaves wholePart rest := by
  intro cs
  unfold wholePart
  rw [spanDigits_append h]
  dsimp only
  split
  . rfl
  . rfl
  . rfl

theorem fractionPart_of_ne {c : Char} (h : c ≠ '.') (cs : List Char)
    : fractionPart (c :: cs) = some ([], c :: cs) := by
  unfold fractionPart
  split
  . next heq =>
    cases heq
    exact absurd rfl h
  . rfl

theorem leaves_fractionPart (h : Stops rest) : Leaves fractionPart rest := by
  intro cs
  cases cs with
  | nil =>
    rw [List.nil_append]
    cases rest with
    | nil => rfl
    | cons c rest =>
      rw [fractionPart_of_ne]
      . rfl
      . intro heq
        apply h.head_ne _ rest
        . rw [heq]
        . decide
  | cons c cs =>
    by_cases hc : c = '.'
    . rw [hc, List.cons_append]
      simp only [fractionPart]
      rw [spanDigits_append h]
      dsimp only
      split
      . rfl
      . rfl
    . rw [List.cons_append, fractionPart_of_ne hc, fractionPart_of_ne hc]
      rfl

def exponentSign : List Char → Bool × List Char
  | '-' :: cs => (true, cs)
  | '+' :: cs => (false, cs)
  | cs => (false, cs)

theorem scanExponent_cons {c : Char} (h : c = 'e' ∨ c = 'E') (cs : List Char)
    : Decimal.scanExponent (c :: cs)
        =
      let (digits, rest) := spanDigits (exponentSign cs).2
      if digits.isEmpty then
        none
      else
        some (if (exponentSign cs).1 then -(ofDigits digits : Int) else ofDigits digits, rest) := by
  unfold Decimal.scanExponent
  dsimp only
  rw [if_pos h]
  rfl

theorem exponentSign_of_ne {cs : List Char} (hminus : ∀ left, cs ≠ '-' :: left)
    (hplus : ∀ left, cs ≠ '+' :: left)
    : exponentSign cs = (false, cs) := by
  unfold exponentSign
  split
  . next left => exact absurd rfl (hminus left)
  . next left => exact absurd rfl (hplus left)
  . rfl

theorem exponentSign_append (h : Stops rest) (cs : List Char)
    : exponentSign (cs ++ rest) = ((exponentSign cs).1, (exponentSign cs).2 ++ rest) := by
  cases cs with
  | nil =>
    rw [List.nil_append, exponentSign_of_ne (h.head_ne rfl) (h.head_ne rfl)]
    rfl
  | cons c cs =>
    by_cases hminus : c = '-'
    . rw [hminus]
      rfl
    . by_cases hplus : c = '+'
      . rw [hplus]
        rfl
      . rw [List.cons_append, exponentSign_of_ne, exponentSign_of_ne]
        . rfl
        . simp [hminus]
        . simp [hplus]
        . simp [hminus]
        . simp [hplus]

theorem leaves_exponentPart (h : Stops rest) : Leaves exponentPart rest := by
  intro cs
  cases cs with
  | nil =>
    rw [List.nil_append]
    cases rest with
    | nil => rfl
    | cons c rest =>
      have hc := h c rest rfl
      simp only [continuesNumber, Bool.or_eq_false_iff, beq_eq_false_iff_ne] at hc
      simp [exponentPart, hc]
  | cons c cs =>
    rw [List.cons_append]
    simp only [exponentPart]
    split
    . next hc =>
      rw [scanExponent_cons hc, scanExponent_cons hc, exponentSign_append h, spanDigits_append h]
      dsimp only
      split
      . rfl
      . rfl
    . rfl

def numberSign : List Char → Bool × List Char
  | '-' :: cs => (true, cs)
  | cs => (false, cs)

theorem numberSign_of_ne {cs : List Char} (h : ∀ left, cs ≠ '-' :: left)
    : numberSign cs = (false, cs) := by
  unfold numberSign
  split
  . next left => exact absurd rfl (h left)
  . rfl

theorem numberSign_append (h : Stops rest) (cs : List Char)
    : numberSign (cs ++ rest) = ((numberSign cs).1, (numberSign cs).2 ++ rest) := by
  cases cs with
  | nil =>
    rw [List.nil_append, numberSign_of_ne (h.head_ne rfl)]
    rfl
  | cons c cs =>
    by_cases hminus : c = '-'
    . rw [hminus]
      rfl
    . rw [List.cons_append, numberSign_of_ne, numberSign_of_ne]
      . rfl
      . simp [hminus]
      . simp [hminus]

theorem numberParts_eq (cs : List Char)
    : numberParts cs
        =
      (do
        let (whole, rest) ← wholePart (numberSign cs).2
        let (fraction, rest) ← fractionPart rest
        let (exponent, rest) ← exponentPart rest
        some ({ negative := (numberSign cs).1, whole, fraction, exponent }, rest)) := by
  rfl

theorem leaves_numberParts (h : Stops rest) : Leaves numberParts rest := by
  intro cs
  rw [numberParts_eq, numberParts_eq, numberSign_append h]
  dsimp only [Option.bind_eq_bind]
  rw [leaves_wholePart h]
  cases wholePart (numberSign cs).2 with
  | none => rfl
  | some whole =>
    rw [Option.map_some, Option.bind_some, Option.bind_some]
    dsimp only
    rw [leaves_fractionPart h]
    cases fractionPart whole.2 with
    | none => rfl
    | some fraction =>
      rw [Option.map_some, Option.bind_some, Option.bind_some]
      dsimp only
      rw [leaves_exponentPart h]
      cases exponentPart fraction.2 with
      | none => rfl
      | some exponent => rfl

theorem leaves_numberLiteral (h : Stops rest) : Leaves numberLiteral rest := by
  intro cs
  unfold numberLiteral
  dsimp only [Option.bind_eq_bind]
  rw [leaves_numberParts h]
  cases numberParts cs with
  | none => rfl
  | some parts =>
    rw [Option.map_some, Option.bind_some, Option.bind_some]
    dsimp only
    cases parts.1.value? with
    | none => rfl
    | some n => rfl

def startsNumber (c : Char) : Bool := c == '-' || c.isDigit

theorem numberLiteral_eq_none {c : Char} (h : startsNumber c = false) (cs : List Char)
    : numberLiteral (c :: cs) = none := by
  simp only [startsNumber, Bool.or_eq_false_iff, beq_eq_false_iff_ne] at h
  have hsign : numberSign (c :: cs) = (false, c :: cs) := by
    apply numberSign_of_ne
    simp [h.1]
  have hwhole : wholePart (c :: cs) = none := by
    simp [wholePart, spanDigits, h.2]
  unfold numberLiteral
  rw [numberParts_eq, hsign]
  dsimp only
  rw [hwhole]
  rfl

theorem exists_startsNumber {cs : List Char} {n : Number} (h : numberLiteral cs = some (n, []))
    : ∃ c left, cs = c :: left ∧ startsNumber c = true := by
  cases cs with
  | nil => cases h
  | cons c left =>
    refine ⟨c, left, rfl, ?_⟩
    cases hc : startsNumber c with
    | true => rfl
    | false =>
      rw [numberLiteral_eq_none hc] at h
      cases h

end Json

/-- Whether the text of a number reads as the number. A double is read in two roundings, so not
every double does. -/
def Number.ReadsBack (n : Number) : Prop := Json.numberLiteral n.chars = some (n, [])

instance (n : Number) : Decidable n.ReadsBack := inferInstanceAs (Decidable (_ = _))

theorem Number.ReadsBack.numberLiteral_append {n : Number} (h : n.ReadsBack) {rest : List Char}
    (hrest : Json.Stops rest)
    : Json.numberLiteral (n.chars ++ rest) = some (n, rest) := by
  rw [Json.leaves_numberLiteral hrest, h]
  rfl

end Counterpart
