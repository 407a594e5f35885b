/-
# Hosts

A host is a number of four parts, a number of eight parts in brackets, or a name. Text
that looks like a number of four parts must be one, where any characters count as
its points. A name in ASCII keeps its letters, in lower case; any other name is written
by its labels.
-/

import ScriptDocs.Text.Escape
import ScriptDocs.Text.Letter
import ScriptDocs.Url.Label

namespace ScriptDocs.Url.Host

/-- Whether a text is made of ASCII digits. -/
def isDigits (s : Text) : Bool :=
  !s.isEmpty && s.all Char.isDigit

/-- The runs of digits between the other characters of a text. -/
def digitGroups (s : Text) : List Text :=
  Text.pieces '.' (s.map fun c => if c.isDigit then c else '.')

/-- Whether four groups of digits can be read with one character between neighbours,
which may be a digit itself. -/
def looksNumbered (s : Text) : Bool :=
  let groups := digitGroups s
  groups.all (!·.isEmpty) && groups.length ≤ 4
    && 4 ≤ groups.length + (groups.map fun group => (group.length - 1) / 2).foldr (· + ·) 0

/-- A part of a number of four parts, without needless zeros. -/
def octet? (s : Text) : Option Nat :=
  let n := Text.digitsValue s
  if isDigits s && s.length ≤ 3 && n ≤ 255 && (s.head? ≠ some '0' || s.length == 1) then some n
  else none

/-- Whether a text is a number of four parts. -/
def isAddress4 (s : Text) : Bool :=
  let parts := Text.pieces '.' s
  parts.length == 4 && parts.all fun part => (octet? part).isSome

/-- Whether a text is a part of a number of eight parts. -/
def isHextet (s : Text) : Bool :=
  !s.isEmpty && s.length ≤ 4 && s.all fun c => (Text.hexValue? c).isSome

/-- The parts of a number of eight parts, of which the last two may be written as a number
of four parts. -/
def hextets? (s : Text) : Option (List Text) :=
  let parts := Text.pieces ':' s
  let last := parts.getLast?.getD []
  if parts.length < 3 then none
  else if '.' ∈ last then
    if isAddress4 last then some (parts.dropLast ++ [['0'], ['0']]) else none
  else some parts

/-- Whether parts on one side of a gap fit: an empty one stands for no part, and only where
it is the only one. -/
def sideFits (side : List Text) : Bool :=
  side = [[]] || side.all isHextet

/-- The number of parts on one side of a gap. -/
def sideLength (side : List Text) : Nat :=
  if side = [[]] then 0 else side.length

/-- The parts before and behind the gap, which is an empty part that is neither the first
nor the last one. -/
def gap? : List Text → Option (List Text × List Text)
  | a :: [] :: b :: rest => some ([a], b :: rest)
  | a :: rest => (gap? rest).map fun (before, behind) => (a :: before, behind)
  | [] => none

/-- Whether parts are those of a number of eight parts, some of which a gap may stand for. -/
def areHextets (parts : List Text) : Bool :=
  match gap? parts with
  | none => parts.length == 8 && parts.all isHextet
  | some (before, behind) =>
    sideFits before && sideFits behind && sideLength before + sideLength behind < 8
      && parts.length ≤ 9

/-- Whether a text is a number of eight parts, perhaps with a zone behind a percent sign. -/
def isAddress6 (s : Text) : Bool :=
  let zoneFits := match s.dropWhile (· ≠ '%') with
    | [] => true
    | _ :: zone => !zone.isEmpty && '%' ∉ zone
  zoneFits && (hextets? (s.takeWhile (· ≠ '%'))).any areHextets

/-- What stands between the brackets of a host. -/
def bracketed? : Text → Option Text
  | '[' :: s => if s.getLast? = some ']' then some s.dropLast else none
  | _ => none

/-- Whether a character may stand in a name in ASCII. -/
def isNameChar (c : Char) : Bool :=
  Text.isUnreserved c || "!$&'()*+,;=\"`\x7b\x7d%|\\".toList.contains c

/-- A host as it is written, without brackets. -/
def write (host : Text) : Except UrlFault Text :=
  if host.isEmpty then .ok []
  else if looksNumbered host then
    if isAddress4 host then .ok host else .error (.address4Unreadable host)
  else
    match bracketed? host with
    | some inner => if isAddress6 inner then .ok inner else .error (.address6Unreadable host)
    | none =>
      if Label.isAscii host then .ok (Text.escaped isNameChar (Text.lower host))
      else
        match Label.writeName (Text.lower host) with
        | .ok name => .ok name
        | .error _ => .error (.hostUnwritable host)

/-- A written host as it is shown. -/
def shown (host : Text) : Except LabelFault Text :=
  if Text.startsWith Label.mark host then Label.readName host else .ok host

end ScriptDocs.Url.Host
