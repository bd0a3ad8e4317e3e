import Counterpart.Numeric.Binary

/-!
This module contains the numeric bounds of a field.
-/

namespace Counterpart

open Numeric

structure Bounds where
  min : Option Double := none
  max : Option Double := none
  /-- How finely numbers are entered. A hint that is not enforced. -/
  step : Option Double := none
  deriving DecidableEq

namespace Bounds

def range (min max : Double) : Bounds := { min := some min, max := some max }

def contains (b : Bounds) (x : Double) : Bool :=
  b.min.all (·.le x) && b.max.all (x.le ·)

def inverted? (b : Bounds) : Option (Double × Double) :=
  match b.min, b.max with
  | some min, some max => if max.lt min then some (min, max) else none
  | _, _ => none

end Bounds

end Counterpart
