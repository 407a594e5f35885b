/-
# Numbers as they are given

A number from outside is an integer of any size or a double. Numbers of both forms
are compared by their exact values, and an integer beyond the range of doubles has no
double.
-/

import ScriptDocs.Binary64.Basic

namespace ScriptDocs

/-- A number: an integer of any size, or a double. -/
inductive Number
  | integer (value : Int)
  | double (value : Binary64)
  deriving DecidableEq, Repr

namespace Number

/-- The double of a number, unless it is an integer beyond all doubles. -/
def double? : Number → Option Binary64
  | integer n => Binary64.ofInt? n
  | double x => some x

/-- An integer on the line of units, compared with a double by `compare`; every integer
lies between the infinities, and nothing compares with what is no number. -/
def compareWith (compare : Int → Int → Bool) (n : Int) : Binary64 → Bool
  | .notANumber => false
  | .infinite negative => compare 0 (if negative then -1 else 1)
  | .finite negative units =>
    compare (n * Binary64.unitsOfOne) (Binary64.signedUnits negative units)

/-- Whether one number is at most another; false when either is no number. -/
def atMost : Number → Number → Bool
  | integer m, integer n => m ≤ n
  | integer m, double y => compareWith (fun a b => decide (a ≤ b)) m y
  | double x, integer n => compareWith (fun a b => decide (b ≤ a)) n x
  | double x, double y => x.atMost y

/-- Whether one number is below another; false when either is no number. -/
def below : Number → Number → Bool
  | integer m, integer n => m < n
  | integer m, double y => compareWith (fun a b => decide (a < b)) m y
  | double x, integer n => compareWith (fun a b => decide (b < a)) n x
  | double x, double y => x.below y

end Number

end ScriptDocs
