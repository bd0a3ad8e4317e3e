import Counterpart.Text.Case
import Counterpart.Text.PrintableTable

/-!
This module contains quoted text as it appears in diagnostics: between double quotes, with
backslash escapes for quotes, for common controls and for every character that would not show.
-/

namespace Counterpart.Text

def quoteChar (c : Char) : List Char :=
  if c = '"' then ['\\', '"']
  else if c = '\\' then ['\\', '\\']
  else if c = '\n' then ['\\', 'n']
  else if c = '\r' then ['\\', 'r']
  else if c = '\t' then ['\\', 't']
  else if c.toNat = 0 then ['\\', '0']
  else if inRanges hiddenRanges c then
    '\\' :: 'u' :: '\x7b' :: (Nat.toDigits 16 c.toNat ++ ['\x7d'])
  else [c]

def quoteChars (cs : List Char) : List Char :=
  '"' :: (cs.flatMap quoteChar ++ ['"'])

def quote (s : String) : String := .ofList (quoteChars s.toList)

end Counterpart.Text
