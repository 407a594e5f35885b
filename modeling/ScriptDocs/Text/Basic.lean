/-
# Text as a list of characters

Every document, snippet, question and name in this library is the list of its
characters, so a length, a limit or a position counts Unicode code points. This
module holds the operations on such lists that know nothing about the meaning of
a character: fronts, first occurrences, pieces between separators, distinct
items, and the order by code point.
-/

namespace ScriptDocs

/-- A text is the list of its characters. -/
abbrev Text := List Char

instance : Coe String Text := ⟨String.toList⟩

instance : LawfulBEq Text := inferInstance

namespace Text

/-- The rest of a text after `front`, or nothing when the text does not start with it. -/
def afterFront? : Text → Text → Option Text
  | [], s => some s
  | _ :: _, [] => none
  | f :: front, c :: s => if f = c then afterFront? front s else none

/-- Whether a text starts with `front`. -/
def startsWith (front s : Text) : Bool :=
  (afterFront? front s).isSome

/-- Whether a text ends with `back`. -/
def endsWith (back s : Text) : Bool :=
  startsWith back.reverse s.reverse

/-- The text before the first occurrence of `mark` and the text after it. -/
def cut? (mark : Text) : Text → Option (Text × Text)
  | [] => (afterFront? mark []).map fun rest => ([], rest)
  | c :: s =>
    match afterFront? mark (c :: s) with
    | some rest => some ([], rest)
    | none => (cut? mark s).map fun (before, rest) => (c :: before, rest)

/-- Whether `part` occurs somewhere in a text. -/
def contains (part s : Text) : Bool :=
  (cut? part s).isSome

/-- Texts with one more character in front of the first of them. -/
def ontoFirst (c : Char) : List Text → List Text
  | [] => [[c]]
  | piece :: rest => (c :: piece) :: rest

/-- The pieces of a text between the occurrences of one character; a text without
it is one piece, and so is the empty text. -/
def pieces (separator : Char) : Text → List Text
  | [] => [[]]
  | c :: s =>
    if c = separator then [] :: pieces separator s else ontoFirst c (pieces separator s)

/-- The texts with `separator` between neighbours. -/
def join (separator : Text) (parts : List Text) : Text :=
  List.intercalate separator parts

/-- A text without the characters that satisfy `unwanted` at its right end. -/
def dropRightWhile (unwanted : Char → Bool) (s : Text) : Text :=
  (s.reverse.dropWhile unwanted).reverse

/-- A text without the characters that satisfy `unwanted` at either end. -/
def dropEnds (unwanted : Char → Bool) (s : Text) : Text :=
  dropRightWhile unwanted (s.dropWhile unwanted)

/-- Whether one text comes before another, or equals it, in the order by code points. -/
def atMost : Text → Text → Bool
  | [], _ => true
  | _ :: _, [] => false
  | a :: s, b :: t => if a = b then atMost s t else a.toNat < b.toNat

/-- The decimal numeral of an integer. -/
def ofInt (n : Int) : Text :=
  (toString n).toList

/-- The decimal numeral of a natural number. -/
def ofNat (n : Nat) : Text :=
  Nat.toDigits 10 n

/-- A numeral with zeros in front up to a width. -/
def padded (base width n : Nat) : Text :=
  let digits := Nat.toDigits base n
  List.replicate (width - digits.length) '0' ++ digits

/-- The number that decimal digits spell. -/
def digitsValue (digits : Text) : Nat :=
  digits.foldl (fun n c => n * 10 + (c.toNat - 0x30)) 0

/-- The value of a hexadecimal digit. -/
def hexValue? (c : Char) : Option Nat :=
  let n := c.toNat
  if 0x30 ≤ n && n ≤ 0x39 then some (n - 0x30)
  else if 0x41 ≤ n && n ≤ 0x46 then some (n - 0x37)
  else if 0x61 ≤ n && n ≤ 0x66 then some (n - 0x57)
  else none

/-- Whether a character belongs to one of some runs of code points, each given by its first
and last one. -/
def withinRuns (runs : List (Nat × Nat)) (c : Char) : Bool :=
  runs.any fun run => run.1 ≤ c.toNat && c.toNat ≤ run.2

end Text

/-- The items of a list, each once, in the order of their first appearance. -/
def distinct {α : Type} [DecidableEq α] : List α → List α
  | [] => []
  | x :: xs => x :: (distinct xs).filter (· ≠ x)

/-- The first items of a list up to a bound; a negative bound counts from the end. -/
def upTo {α : Type} (bound : Int) (xs : List α) : List α :=
  if bound < 0 then xs.take (xs.length - bound.natAbs) else xs.take bound.toNat

end ScriptDocs
