/-
# Names spelled in ASCII

A name with characters outside ASCII is spelled by its ASCII characters, a hyphen, and
digits that say where the others belong. The others are put in one by one, the least
first, and each is told by how many steps it lies behind the last one, where a step
moves on by one place and at the end of the name to the next character. A number is
written with its lowest digit first, and a digit below a threshold ends it; the
thresholds follow the size of the numbers so far.
-/

import ScriptDocs.Text.Surrogate

namespace ScriptDocs.Url.Punycode

/-- The number of digits. -/
def base : Nat := 36

/-- The threshold of a digit, given how many digits of its number stand before it. -/
def threshold (bias index : Nat) : Nat :=
  max 1 (min 26 (base * (index + 1) - bias))

/-- The bias for numbers of about the given size. -/
def biasFor (bias delta : Nat) : Nat :=
  if 455 < delta then biasFor (bias + base) (delta / 35)
  else bias + base * delta / (delta + 38)
termination_by delta

/-- The bias behind a number that has put a character into a name, which has `count`
characters now. -/
def adapted (delta count : Nat) (isFirst : Bool) : Nat :=
  let delta := delta / (if isFirst then 700 else 2)
  biasFor 0 (delta + delta / count)

/-- A digit. -/
def digit (n : Nat) : Char :=
  if n < 26 then Char.ofNat (0x61 + n) else Char.ofNat (0x30 + (n - 26))

/-- The value of a digit. -/
def digitValue? (c : Char) : Option Nat :=
  let n := c.toNat
  if 0x61 ≤ n ∧ n ≤ 0x7A then some (n - 0x61)
  else if 0x41 ≤ n ∧ n ≤ 0x5A then some (n - 0x41)
  else if 0x30 ≤ n ∧ n ≤ 0x39 then some (n - 0x30 + 26)
  else none

/-- The digits of a number, of which `index` stand before. -/
def digits (bias index n : Nat) : Text :=
  let least := threshold bias index
  if n < least then [digit n]
  else
    digit (least + (n - least) % (base - least))
      :: digits bias (index + 1) ((n - least) / (base - least))
termination_by n
decreasing_by
  have : 1 ≤ least := Nat.le_max_left ..
  exact Nat.lt_of_le_of_lt (Nat.div_le_self ..) (by omega)

/-- The number in front of a text and the rest, `index` digits of it standing before. -/
def number? (bias : Nat) : Nat → Nat → Nat → Text → Option (Nat × Text)
  | _, _, _, [] => none
  | index, weight, sofar, c :: s => do
    let value ← digitValue? c
    let least := threshold bias index
    let sofar := sofar + value * weight
    if value < least then return (sofar, s)
    else number? bias (index + 1) (weight * (base - least)) sofar s

/-- The least code point outside ASCII. -/
def firstOther : Nat := 0x80

/-- The bias of the first number. -/
def firstBias : Nat := 72

/-- What has been written: the digits, the steps since the last character, how many
characters have been put in, and the bias. -/
structure Writing where
  digits : Text := []
  steps : Nat := 0
  count : Nat
  bias : Nat := firstBias

/-- Passing a character of the name while the characters `n` are put in. The first number
is the one behind the ASCII characters alone. -/
def Writing.pass (plain n : Nat) (writing : Writing) (c : Char) : Writing :=
  if c.toNat < n then { writing with steps := writing.steps + 1 }
  else if c.toNat = n then
    { digits := writing.digits ++ Punycode.digits writing.bias 0 writing.steps
      steps := 0
      count := writing.count + 1
      bias := adapted writing.steps (writing.count + 1) (writing.count = plain) }
  else writing

/-- The digits for the characters outside ASCII, which are given in increasing order; `next`
is the least one that may follow. -/
def writeOthers (s : Text) (plain next : Nat) (writing : Writing) : List Nat → Text
  | [] => writing.digits
  | n :: rest =>
    let reached := { writing with steps := writing.steps + (n - next) * (writing.count + 1) }
    let passed := s.foldl (Writing.pass plain n) reached
    writeOthers s plain (n + 1) { passed with steps := passed.steps + 1 } rest

/-- The spelling of a name in ASCII. -/
def encode (s : Text) : Text :=
  let plain := s.filter fun c => c.toNat < firstOther
  let others := (distinct ((s.map Char.toNat).filter (firstOther ≤ ·))).mergeSort
  let written := writeOthers s plain.length firstOther { count := plain.length } others
  if plain.isEmpty then written else plain ++ '-' :: written

/-- The characters that digits put into a name. The last one put in was `last`, and the
next place is `place`. Every number has a digit at least, so the number of digits is
enough `fuel`. -/
def readOthers (isFirst : Bool) (bias last place : Nat) (name : Text) : Nat → Text → Option Text
  | _, [] => some name
  | 0, _ => none
  | fuel + 1, c :: s => do
    let (delta, rest) ← number? bias 0 1 0 (c :: s)
    let room := name.length + 1
    let n := last + (place + delta) / room
    let index := (place + delta) % room
    if 0x10FFFF < n then none
    else
      let name := name.take index ++ Text.charOf n :: name.drop index
      readOthers false (adapted delta room isFirst) n (index + 1) name fuel rest

/-- The name that a spelling in ASCII stands for. -/
def decode? (s : Text) : Option Text :=
  let behind := (s.reverse.takeWhile (· ≠ '-')).reverse
  let plain := s.take (s.length - behind.length - 1)
  readOthers true firstBias firstOther 0 plain behind.length behind

end ScriptDocs.Url.Punycode
