/-
# Labels of host names

A host name consists of labels. A label with characters outside ASCII is written in ASCII
behind a mark, and only a label that satisfies the rules for such names has a written
form: it is composed, its hyphens stand where they may, it begins with no mark, all its
characters are permitted where they stand, and their directions go together.
-/

import ScriptDocs.Text.Composition
import ScriptDocs.Text.Direction
import ScriptDocs.Text.Joining
import ScriptDocs.Text.Permitted
import ScriptDocs.Url.Fault
import ScriptDocs.Url.Punycode

namespace ScriptDocs.Url

namespace Label

/-- The mark of a label that spells others than ASCII characters. -/
def mark : Text := "xn--"

/-- The most characters of a written label. -/
def lengthLimit : Nat := 63

/-- Whether hyphens stand neither at the ends of a label nor in both its third and its
fourth place. -/
def hyphensFit (s : Text) : Bool :=
  (s.drop 2).take 2 ≠ ['-', '-'] && s.head? ≠ some '-' && s.getLast? ≠ some '-'

/-- Whether a mark that silences a vowel ends a text in reverse. -/
def endsSilent (before : Text) : Bool :=
  match before with
  | c :: _ => Text.combiningClass c == Text.vowelKillerClass
  | [] => false

/-- What the place of a character says about it: it is permitted, or not there, or nowhere.
The characters before it are given nearest first. -/
def fault? (label before : Text) (c : Char) (behind : Text) : Option LabelFault :=
  let joins (fits : Bool) : Option LabelFault := if fits then none else some .malformed
  let requires (fits : Bool) : Option LabelFault := if fits then none else some .contextRefused
  let n := c.toNat
  if Text.isPermitted c then none
  else if n == 0x200C then
    joins (endsSilent before || Text.joinsBehind before && Text.joinsBefore behind)
  else if n == 0x200D then joins (endsSilent before)
  else if n == 0xB7 then requires (before.head? == some 'l' && behind.head? == some 'l')
  else if n == 0x375 then requires (behind.head?.any (Text.withinRuns Text.greekRuns))
  else if n == 0x5F3 || n == 0x5F4 then
    requires (before.head?.any (Text.withinRuns Text.hebrewRuns))
  else if n == 0x30FB then
    requires (label.any fun d => d ≠ c && Text.withinRuns Text.japaneseRuns d)
  else if 0x660 ≤ n && n ≤ 0x669 then requires (!label.any (Text.withinRuns [(0x6F0, 0x6F9)]))
  else if 0x6F0 ≤ n && n ≤ 0x6F9 then requires (!label.any (Text.withinRuns [(0x660, 0x669)]))
  else some .characterRefused

/-- The first fault of the characters of a label from a place on. -/
def firstFault (label before : Text) : Text → Option LabelFault
  | [] => none
  | c :: behind => fault? label before c behind <|> firstFault label (c :: before) behind

/-- The check of a label. -/
def check (label : Text) : Except LabelFault Unit :=
  if label.isEmpty || !Text.isComposed label || !hyphensFit label
      || label.head?.any Text.isMark then .error .malformed
  else
    match firstFault label [] label with
    | some fault => .error fault
    | none => if Text.isOneWay label then .ok () else .error .directionsMixed

/-- Whether all characters of a text are ASCII. -/
def isAscii (s : Text) : Bool :=
  s.all fun c => c.toNat < 0x80

/-- What a label in ASCII spells. -/
def read (written : Text) : Except LabelFault Text := do
  match Text.afterFront? mark written with
  | none =>
    check written
    return written
  | some [] => .error .malformed
  | some spelling =>
    if spelling.getLast? = some '-' then .error .malformed
    else
      match Punycode.decode? spelling with
      | none => .error .malformed
      | some label =>
        check label
        return label

/-- The form of a label in ASCII. It is never shorter than the label, so that a long label
has none. -/
def write (label : Text) : Except LabelFault Text := do
  if lengthLimit < label.length then throw .malformed
  let written ←
    if isAscii label then (read label).map fun _ => label
    else (check label).map fun _ => mark ++ Punycode.encode label
  if lengthLimit < written.length then .error .malformed else .ok written

/-- Whether a character parts labels. -/
def parts (c : Char) : Bool :=
  c == '.' || c.toNat == 0x3002 || c.toNat == 0xFF0E || c.toNat == 0xFF61

/-- The labels of a host name, and whether it ends in a dot. -/
def split (name : Text) : List Text × Bool :=
  let labels := Text.pieces '.' (name.map fun c => if parts c then '.' else c)
  if labels.getLast? = some [] then (labels.dropLast, true) else (labels, false)

/-- The labels of a host name, each changed in the same way. -/
def mapName (change : Text → Except LabelFault Text) (name : Text) : Except LabelFault Text :=
  match split name with
  | ([], _) => .error .malformed
  | (labels, isDotted) =>
    (labels.mapM change).map fun labels =>
      Text.join "." (labels ++ if isDotted then [[]] else [])

/-- The most characters of a written host name without a dot at its end. -/
def nameLimit : Nat := 253

/-- The form of a host name in ASCII. -/
def writeName (name : Text) : Except LabelFault Text := do
  let written ← mapName write name
  if nameLimit < (Text.dropRightWhile (· == '.') written).length then .error .malformed
  else .ok written

/-- The host name that a name in ASCII spells. -/
def readName (written : Text) : Except LabelFault Text :=
  mapName read written

end Label

end ScriptDocs.Url
