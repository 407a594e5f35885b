/-
# Similarity of vectors

The cosine of the angle between two vectors, computed in doubles: the sum of the
products over the product of the lengths, moved into the range from -1 to 1. It is
zero where the vectors have no common length, where one of them is zero, and where
the product of their lengths leaves the range of doubles.

Sums of doubles depend on the order in which they are added up, and one order is fixed
here, from the left. A library that adds in another order may give scores that differ
in their last digits. What is proved of searches holds for its scores as well: of the
similarity of two vectors no more is used than that it is zero where their lengths
differ, and, where that is assumed, that it is a number.
-/

import ScriptDocs.Passage

namespace ScriptDocs

/-- The sum of the products of the components, added up from the left. -/
def dotProduct (a b : Vector64) : Binary64 :=
  (a.zipWith Binary64.mul b).foldl Binary64.add .zero

/-- The length of a vector in space. -/
def euclideanNorm (a : Vector64) : Binary64 :=
  (dotProduct a a).sqrt

/-- The similarity of two vectors. -/
def similarity (a b : Vector64) : Binary64 :=
  if a.isEmpty ∨ a.length ≠ b.length then .zero
  else
    let norms := (euclideanNorm a).mul (euclideanNorm b)
    if norms.isZero ∨ !norms.isFinite then .zero
    else ((dotProduct a b).div norms).clip (.neg .one) .one

end ScriptDocs
