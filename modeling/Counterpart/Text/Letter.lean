import Counterpart.Text.Case
import Counterpart.Text.LetterTable

/-!
This module contains the classes of letters and of letters and numbers, over the whole of Unicode.
-/

namespace Counterpart.Text

def isLetter (c : Char) : Bool := inRanges letterRanges c

def isLetterOrNumber (c : Char) : Bool := isLetter c || inRanges numberRanges c

end Counterpart.Text
