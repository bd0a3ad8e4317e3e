/-!
This module contains blank characters and the two ways text is cut along them: trimming its ends
and splitting it into words. Functions on `List Char` carry the content, those on `String` wrap
them.
-/

namespace Counterpart.Text

/-- The characters with the property White_Space. -/
def isBlank (c : Char) : Bool :=
  let n := c.toNat
  (0x9 ≤ n && n ≤ 0xD) || n == 0x20 || n == 0x85 || n == 0xA0 || n == 0x1680
    || (0x2000 ≤ n && n ≤ 0x200A) || n == 0x2028 || n == 0x2029 || n == 0x202F || n == 0x205F
    || n == 0x3000

def trimChars (cs : List Char) : List Char :=
  ((cs.dropWhile isBlank).reverse.dropWhile isBlank).reverse

def trim (s : String) : String := .ofList (trimChars s.toList)

def isBlankText (s : String) : Bool := s.toList.all isBlank

def cutAt (p : α → Bool) : List α → List (List α)
  | [] => [[]]
  | a :: as =>
    if p a then
      [] :: cutAt p as
    else
      match cutAt p as with
      | [] => [[a]]
      | piece :: pieces => (a :: piece) :: pieces

def wordsChars (cs : List Char) : List (List Char) :=
  (cutAt isBlank cs).filter (!·.isEmpty)

end Counterpart.Text
