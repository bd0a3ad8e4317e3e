import Counterpart.Compatibility.Basic

/-!
This module contains the compatibility relation of two forms, as it is seen from either side.
-/

namespace Counterpart

structure Matrix where
  byFounder : KeyMap (List String)
  byInvestor : KeyMap (List String)
  deriving DecidableEq

namespace Matrix

def empty : Matrix := ⟨.empty, .empty⟩

def append (m : KeyMap (List String)) (key value : String) : KeyMap (List String) :=
  m.insert key ((m.get? key).getD [] ++ [value])

def enter (m : Matrix) (investors : List Field) (founder : Field) : Matrix :=
  let compatible := (founder.compatibleWith investors).map Field.key
  { byFounder := m.byFounder.insert founder.key compatible
    byInvestor := compatible.foldl (fun m key => append m key founder.key) m.byInvestor }

def ensure (m : KeyMap (List String)) (key : String) : KeyMap (List String) :=
  if m.contains key then m else m.insert key []

def build (founders investors : List Field) : Matrix :=
  let entered := (founders.filter Field.carriesData).foldl (·.enter investors ·) empty
  let keys := (investors.filter Field.carriesData).map Field.key
  { entered with byInvestor := keys.foldl ensure entered.byInvestor }

def forFounder (m : Matrix) (key : String) : List String := (m.byFounder.get? key).getD []

def forInvestor (m : Matrix) (key : String) : List String := (m.byInvestor.get? key).getD []

def isPair (m : Matrix) (founder investor : String) : Bool :=
  (m.forFounder founder).contains investor

def unmatchedFounders (m : Matrix) : List String :=
  (m.byFounder.entries.filter (·.2.isEmpty)).map Prod.fst

def pairCount (m : Matrix) : Nat := m.byFounder.values.flatten.length

end Matrix

end Counterpart
