import Counterpart.KeyMap
import Counterpart.Numeric.Layout

/-!
This module contains JSON values. Numbers are kept as the integers and doubles they were written
as; the members of an object are kept in a list, so that a text with repeated members can still be
told apart from one without. `Json.canonical` gives the value proper: members sorted, each once.
-/

namespace Counterpart

open Numeric

/-- The integers that are kept exactly: those of 64 bits, signed or unsigned. -/
def Numeric.IsWord (n : Int) : Prop := -0x8000000000000000 ≤ n ∧ n ≤ 0xFFFFFFFFFFFFFFFF

instance (n : Int) : Decidable (IsWord n) := inferInstanceAs (Decidable (_ ∧ _))

inductive Number where
  | int (value : Int) (isWord : IsWord value)
  | float (value : Finite double)
  deriving DecidableEq

namespace Number

def toDouble : Number → Finite double
  | .int n _ => .ofInt double n
  | .float x => x

def ofInt (n : Int) : Number :=
  if h : IsWord n then .int n h else .float (.ofInt double n)

def layout : Layout where
  tie := .even
  pointed := true
  plus := true
  positional := some (-5, 16)

def chars : Number → List Char
  | .int n _ => if n < 0 then '-' :: Nat.toDigits 10 n.natAbs else Nat.toDigits 10 n.natAbs
  | .float x => layout.chars x

def write (n : Number) : String := .ofList n.chars

end Number

inductive Json where
  | null
  | bool (b : Bool)
  | number (n : Number)
  | string (s : String)
  | array (items : List Json)
  | object (members : List (String × Json))

namespace Json

instance : Inhabited Json := ⟨.null⟩

mutual

def decEq : (a b : Json) → Decidable (a = b)
  | .null, .null => .isTrue rfl
  | .bool a, .bool b =>
    if h : a = b then .isTrue (h ▸ rfl) else .isFalse fun h' => h (Json.bool.inj h')
  | .number a, .number b =>
    if h : a = b then .isTrue (h ▸ rfl) else .isFalse fun h' => h (Json.number.inj h')
  | .string a, .string b =>
    if h : a = b then .isTrue (h ▸ rfl) else .isFalse fun h' => h (Json.string.inj h')
  | .array a, .array b =>
    match decEqItems a b with
    | .isTrue h => .isTrue (h ▸ rfl)
    | .isFalse h => .isFalse fun h' => h (Json.array.inj h')
  | .object a, .object b =>
    match decEqMembers a b with
    | .isTrue h => .isTrue (h ▸ rfl)
    | .isFalse h => .isFalse fun h' => h (Json.object.inj h')
  | .null, .bool _ | .null, .number _ | .null, .string _ | .null, .array _ | .null, .object _
  | .bool _, .null | .bool _, .number _ | .bool _, .string _ | .bool _, .array _
  | .bool _, .object _
  | .number _, .null | .number _, .bool _ | .number _, .string _ | .number _, .array _
  | .number _, .object _
  | .string _, .null | .string _, .bool _ | .string _, .number _ | .string _, .array _
  | .string _, .object _
  | .array _, .null | .array _, .bool _ | .array _, .number _ | .array _, .string _
  | .array _, .object _
  | .object _, .null | .object _, .bool _ | .object _, .number _ | .object _, .string _
  | .object _, .array _ => .isFalse (by intro h; cases h)

def decEqItems : (as bs : List Json) → Decidable (as = bs)
  | [], [] => .isTrue rfl
  | [], _ :: _ | _ :: _, [] => .isFalse (by intro h; cases h)
  | a :: as, b :: bs =>
    match decEq a b with
    | .isFalse h => .isFalse fun h' => h (List.cons.inj h').1
    | .isTrue h =>
      match decEqItems as bs with
      | .isFalse h' => .isFalse fun h'' => h' (List.cons.inj h'').2
      | .isTrue h' => .isTrue (h ▸ h' ▸ rfl)

def decEqMembers : (as bs : List (String × Json)) → Decidable (as = bs)
  | [], [] => .isTrue rfl
  | [], _ :: _ | _ :: _, [] => .isFalse (by intro h; cases h)
  | (k, a) :: as, (l, b) :: bs =>
    if hk : k = l then
      match decEq a b with
      | .isFalse h => .isFalse fun h' => h (Prod.mk.inj (List.cons.inj h').1).2
      | .isTrue h =>
        match decEqMembers as bs with
        | .isFalse h' => .isFalse fun h'' => h' (List.cons.inj h'').2
        | .isTrue h' => .isTrue (hk ▸ h ▸ h' ▸ rfl)
    else
      .isFalse fun h => hk (Prod.mk.inj (List.cons.inj h).1).1

end

instance : DecidableEq Json := decEq

def member? (j : Json) (key : String) : Option Json :=
  match j with
  -- Of a repeated member the first counts.
  | .object members => members.lookup key
  | _ => none

mutual

/-- The value proper: the members of every object sorted by key, each once, the last one written
counting. -/
def canonical : Json → Json
  | .array items => .array (canonicalItems items)
  | .object members => .object (KeyMap.ofList (canonicalMembers members)).entries
  | j => j

def canonicalItems : List Json → List Json
  | [] => []
  | j :: js => canonical j :: canonicalItems js

def canonicalMembers : List (String × Json) → List (String × Json)
  | [] => []
  | (key, j) :: rest => (key, canonical j) :: canonicalMembers rest

end

def ofInt (n : Int) : Json := .number (.ofInt n)

def ofNat (n : Nat) : Json := .ofInt n

def ofMap (m : KeyMap Json) : Json := .object m.entries

def strings (ss : List String) : Json := .array (ss.map .string)

end Json

end Counterpart
