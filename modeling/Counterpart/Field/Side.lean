/-!
This module contains the two populations that fill in forms.
-/

namespace Counterpart

inductive Side where
  | founder
  | investor
  deriving DecidableEq, Repr

namespace Side

def opposite : Side → Side
  | .founder => .investor
  | .investor => .founder

def name : Side → String
  | .founder => "founder"
  | .investor => "investor"

def lt : Side → Side → Bool
  | .founder, .investor => true
  | _, _ => false

end Side

end Counterpart
