/-!
This module contains the type of functions that read the start of a text, how such functions are
repeated, and the reading of hexadecimal digits.
-/

namespace Counterpart.Text

abbrev Reader (α : Type) := List Char → Option (α × List Char)

/-- One step of a repetition: the last piece, or a piece after which reading goes on. -/
inductive Step (α : Type) where
  | stop (piece : List α) (rest : List Char)
  | more (piece : List α) (rest : List Char)

def repeatStep (step : List Char → Option (Step α)) : (fuel : Nat) → Reader (List α)
  | 0, _ => none
  | fuel + 1, cs =>
    match step cs with
    | none => none
    | some (.stop piece rest) => some (piece, rest)
    | some (.more piece rest) =>
      (repeatStep step fuel rest).map fun (pieces, rest) => (piece ++ pieces, rest)

def collect (step : List Char → Option (Step α)) : Reader (List α) := fun cs =>
  -- There cannot be more steps than characters, the last one aside.
  repeatStep step (cs.length + 1) cs

def hexDigit? (c : Char) : Option Nat :=
  if '0' ≤ c ∧ c ≤ '9' then some (c.toNat - '0'.toNat)
  else if 'a' ≤ c ∧ c ≤ 'f' then some (c.toNat - 'a'.toNat + 10)
  else if 'A' ≤ c ∧ c ≤ 'F' then some (c.toNat - 'A'.toNat + 10)
  else none

def hexNumber? (cs : List Char) : Option Nat :=
  cs.foldlM (fun n c => (hexDigit? c).map fun d => n * 16 + d) 0

def scalarValue? (n : Nat) : Option Char :=
  if n < 0xD800 ∨ (0xE000 ≤ n ∧ n < 0x110000) then some (Char.ofNat n) else none

def hexEscape (count : Nat) : Reader Char := fun cs =>
  if cs.length < count then
    none
  else do
    let n ← hexNumber? (cs.take count)
    let c ← scalarValue? n
    some (c, cs.drop count)

end Counterpart.Text
