import Counterpart.Json.Writer
import Counterpart.Proofs.Json.Number

/-!
This module contains that the texts of strings, numbers and truth values read as what was written.
-/

namespace Counterpart

namespace Json

open Text (hexNumber?)

section StringBody

variable {c : Char}

theorem stringBody_plain (hquote : c ≠ '"') (hback : c ≠ '\\') (hcontrol : ¬ c.toNat < 32)
    (cs : List Char)
    : stringBody (c :: cs) = (stringBody cs).map fun (ds, rest) => (c :: ds, rest) := by
  rw [stringBody.eq_def]
  split
  . next heq => cases heq
  . next heq =>
    cases heq
    exact absurd rfl hquote
  . next heq =>
    cases heq
    exact absurd rfl hback
  . next heq =>
    cases heq
    exact absurd rfl hback
  . next heq =>
    cases heq
    rw [if_neg (by simp [hback, hcontrol])]

theorem stringBody_short {e : Char} (hunicode : e ≠ 'u') (h : shortEscape? e = some c)
    (cs : List Char)
    : stringBody ('\\' :: e :: cs) = (stringBody cs).map fun (ds, rest) => (c :: ds, rest) := by
  rw [stringBody.eq_def]
  split
  . next heq => cases heq
  . next heq => cases heq
  . next heq =>
    cases heq
    exact absurd rfl hunicode
  . next heq =>
    cases heq
    rw [h]
  . next hnot heq =>
    cases heq
    exact absurd rfl (hnot e cs rfl)

theorem hexNumber?_control : ∀ n < 32,
    hexNumber? ['0', '0', Nat.digitChar (n / 16), Nat.digitChar (n % 16)] = some n := by
  decide

theorem stringBody_control (h : c.toNat < 32) (cs : List Char)
    : stringBody
          ('\\' :: 'u' :: '0' :: '0' :: Nat.digitChar (c.toNat / 16)
            :: Nat.digitChar (c.toNat % 16) :: cs)
        =
      (stringBody cs).map fun (ds, rest) => (c :: ds, rest) := by
  simp only [stringBody, hexNumber?_control c.toNat h]
  rw [if_neg (by omega), if_neg (by omega), Char.ofNat_toNat]

theorem stringBody_escapeChar (c : Char) (cs : List Char)
    : stringBody (escapeChar c ++ cs)
        =
      (stringBody cs).map fun (ds, rest) => (c :: ds, rest) := by
  have hshort {e : Char} (hunicode : e ≠ 'u') (h : shortEscape? e = some c)
      : stringBody (['\\', e] ++ cs) = (stringBody cs).map fun (ds, rest) => (c :: ds, rest) :=
    stringBody_short hunicode h cs
  unfold escapeChar
  split
  . next h => exact hshort (by decide) (by rw [h]; rfl)
  split
  . next h => exact hshort (by decide) (by rw [h]; rfl)
  split
  . next h => exact hshort (by decide) (by rw [h]; rfl)
  split
  . next h => exact hshort (by decide) (by rw [h]; rfl)
  split
  . next h => exact hshort (by decide) (by rw [h]; rfl)
  split
  . next h => exact hshort (by decide) (by rw [← Char.ofNat_toNat c, h]; rfl)
  split
  . next h => exact hshort (by decide) (by rw [← Char.ofNat_toNat c, h]; rfl)
  split
  . next h => exact stringBody_control h cs
  . next hquote hback _ _ _ _ _ hcontrol => exact stringBody_plain hquote hback hcontrol cs

theorem stringBody_escape (cs rest : List Char)
    : stringBody (cs.flatMap escapeChar ++ '"' :: rest) = some (cs, rest) := by
  induction cs with
  | nil => simp [stringBody]
  | cons c cs ih =>
    rw [List.flatMap_cons, List.append_assoc, stringBody_escapeChar, ih]
    rfl

end StringBody

def opensScalar (c : Char) : Bool :=
  !(isBlank c || c == '[' || c == ']' || c == '\x7b' || c == '\x7d')

structure ReadsScalar (j : Json) : Prop where
  opens : ∃ c left, j.chars = c :: left ∧ opensScalar c = true
  scalar {rest : List Char} : Stops rest → scalar (j.chars ++ rest) = some (j, rest)

theorem readsScalar_bool (b : Bool) : ReadsScalar (.bool b) := by
  cases b with
  | false => exact ⟨⟨'f', ['a', 'l', 's', 'e'], rfl, rfl⟩, fun _ => rfl⟩
  | true => exact ⟨⟨'t', ['r', 'u', 'e'], rfl, rfl⟩, fun _ => rfl⟩

theorem readsScalar_string (s : String) : ReadsScalar (.string s) where
  opens := ⟨'"', _, rfl, rfl⟩
  scalar {rest} _ := by
    simp only [chars, stringChars, List.cons_append, List.append_assoc, List.nil_append]
    simp only [Json.scalar, stringBody_escape]
    rw [Option.map_some, String.ofList_toList]

theorem opensScalar_of_startsNumber {c : Char} (h : startsNumber c = true)
    : opensScalar c = true := by
  have hne {d : Char} (hd : startsNumber d = false) : c ≠ d := by
    intro heq
    rw [heq, hd] at h
    cases h
  unfold opensScalar isBlank
  simp only [beq_false_of_ne (hne (d := ' ') rfl), beq_false_of_ne (hne (d := '\t') rfl),
    beq_false_of_ne (hne (d := '\n') rfl), beq_false_of_ne (hne (d := '\r') rfl),
    beq_false_of_ne (hne (d := '[') rfl), beq_false_of_ne (hne (d := ']') rfl),
    beq_false_of_ne (hne (d := '\x7b') rfl), beq_false_of_ne (hne (d := '\x7d') rfl)]
  rfl

theorem scalar_of_startsNumber {c : Char} (h : startsNumber c = true) (cs : List Char)
    : scalar (c :: cs) = (numberLiteral (c :: cs)).map fun (n, rest) => (.number n, rest) := by
  unfold scalar
  split
  . next heq =>
    cases heq
    cases h
  . next heq =>
    cases heq
    cases h
  . next heq =>
    cases heq
    cases h
  . next heq =>
    cases heq
    cases h
  . rfl

theorem readsScalar_number {n : Number} (h : n.ReadsBack) : ReadsScalar (.number n) := by
  rcases exists_startsNumber h with ⟨c, left, hchars, hc⟩
  constructor
  . exact ⟨c, left, hchars, opensScalar_of_startsNumber hc⟩
  . intro rest hrest
    have happend := h.numberLiteral_append hrest
    rw [chars, hchars, List.cons_append, scalar_of_startsNumber hc]
    rw [hchars, List.cons_append] at happend
    rw [happend]
    rfl

end Json

end Counterpart
