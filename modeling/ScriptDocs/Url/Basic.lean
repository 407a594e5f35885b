/-
# Addresses in the network

An address names a scheme, a host with a port, a path, a query and a fragment, any of
which may be missing. Reading puts an address into its normal form: the scheme and the
host in lower case, the port left out where the scheme implies it, single and double points
in the path resolved, and every character that a part may not hold escaped. An address
without a scheme or a host is relative; it is read below a base.
-/

import ScriptDocs.Text.Digit
import ScriptDocs.Url.Host

namespace ScriptDocs

/-- An address. -/
structure Url where
  scheme : Text := []
  userinfo : Text := []
  host : Text := []
  port : Option Int := none
  path : Text := []
  query : Option Text := none
  fragment : Option Text := none
  deriving DecidableEq, Repr

namespace Url

/-- The parts of a text that spells an address, as they stand in it. -/
structure Parts where
  scheme : Text := []
  authority : Text := []
  path : Text := []
  query : Option Text := none
  fragment : Option Text := none
  deriving DecidableEq, Repr

/-- Whether a character may stand in a scheme behind its first letter. -/
def isSchemeChar (c : Char) : Bool :=
  c.isAlphanum || c == '+' || c == '.' || c == '-'

/-- The scheme in front of a text, and the rest behind its colon. The scheme may be empty. -/
def splitScheme (s : Text) : Text × Text :=
  let name := if s.head?.any Char.isAlpha then s.takeWhile isSchemeChar else []
  match s.drop name.length with
  | ':' :: rest => (name, rest)
  | _ => ([], s)

/-- The authority in front of a text, and the rest. -/
def splitAuthority : Text → Text × Text
  | '/' :: '/' :: s =>
    let isPart (c : Char) : Bool := c != '/' && c != '?' && c != '#'
    (s.takeWhile isPart, s.dropWhile isPart)
  | s => ([], s)

/-- The text before the first of a character, and the text behind it where there is one. -/
def cutAt (mark : Char) (s : Text) : Text × Option Text :=
  match s.dropWhile (· ≠ mark) with
  | _ :: rest => (s.takeWhile (· ≠ mark), some rest)
  | [] => (s, none)

/-- The parts of a text. -/
def Parts.split (s : Text) : Parts :=
  let (scheme, s) := splitScheme s
  let (authority, s) := splitAuthority s
  let (s, fragment) := cutAt '#' s
  let (path, query) := cutAt '?' s
  { scheme, authority, path, query, fragment }

/-- The user in front of an authority, and the rest behind the last at sign. -/
def splitUser (authority : Text) : Text × Text :=
  let host := (authority.reverse.takeWhile (· ≠ '@')).reverse
  (authority.take (authority.length - host.length - 1), host)

/-- The host in front of a text, with its brackets if it has some, and the port behind it. -/
def splitPort (s : Text) : Text × Text :=
  let inner := (s.reverse.dropWhile (· ≠ ']')).reverse
  let host :=
    if s.head? = some '[' && !inner.isEmpty then inner else s.takeWhile fun c => c ≠ ':' && c ≠ '@'
  match s.drop host.length with
  | ':' :: port => (host, port)
  | port => (host, port)

/-- The ports that schemes imply. -/
def impliedPorts : List (Text × Int) :=
  [("ftp", 21), ("http", 80), ("https", 443), ("ws", 80), ("wss", 443)]

/-- The port that a text spells, none where the scheme implies it. -/
def readPort (scheme port : Text) : Except UrlFault (Option Int) :=
  if port.isEmpty then .ok none
  else
    match Text.integer? port with
    | none => .error (.portUnreadable port)
    | some n => .ok (if (scheme, n) ∈ impliedPorts then none else some n)

/-- The names read so far, nearest first, with one more: a single point adds none, and a
double point takes one away unless only the empty name in front is left. -/
def addName (sofar : List Text) (name : Text) : List Text :=
  if name = ['.'] then sofar
  else if name = ['.', '.'] then (if sofar = [[]] then sofar else sofar.drop 1)
  else name :: sofar

/-- The names of a path without its single points, and without each name before a double
point. -/
def resolveNames (names : List Text) : List Text :=
  (names.foldl addName []).reverse

/-- A path whose single and double points are resolved. -/
def resolvePath (path : Text) : Text :=
  Text.join "/" (resolveNames (Text.pieces '/' path))

/-- Whether a character is printed and none of some. -/
def isPrintedBut (others : String) (c : Char) : Bool :=
  0x20 ≤ c.toNat && c.toNat < 0x7F && !others.toList.contains c

/-- Whether a character may stand in a path. -/
def isPathChar : Char → Bool :=
  isPrintedBut " \"#<>?`\x7b\x7d"

/-- Whether a character may stand in a query. -/
def isQueryChar : Char → Bool :=
  isPrintedBut " \"#<>"

/-- Whether a character may stand in a fragment. -/
def isFragmentChar : Char → Bool :=
  isPrintedBut " \"<>`"

/-- Whether a character may stand in the part about the user. -/
def isUserChar : Char → Bool :=
  isPrintedBut " \"#<>?`\x7b\x7d/;=@[\\]^|"

/-- The check of a path: with an authority it begins with a slash, and without an
authority and a scheme it must not look as if it had one. -/
def checkPath (hasScheme hasAuthority : Bool) (path : Text) : Except UrlFault Unit :=
  if hasAuthority && !path.isEmpty && path.head? != some '/' then .error .pathWithoutSlash
  else if !hasScheme && !hasAuthority && Text.startsWith "//" path then .error .pathWithTwoSlashes
  else if !hasScheme && !hasAuthority && Text.startsWith ":" path then .error .pathWithColon
  else .ok ()

/-- The address that parts spell. -/
def ofParts (parts : Parts) : Except UrlFault Url := do
  let (user, rest) := splitUser parts.authority
  let (rawHost, rawPort) := splitPort rest
  let scheme := parts.scheme.map Char.toLower
  let userinfo := Text.escaped isUserChar user
  let host ← Host.write rawHost
  let port ← readPort parts.scheme rawPort
  let hasScheme := !scheme.isEmpty
  let hasAuthority := !userinfo.isEmpty || !host.isEmpty || port.isSome
  checkPath hasScheme hasAuthority parts.path
  let path := if hasScheme || hasAuthority then resolvePath parts.path else parts.path
  return {
    scheme, userinfo, host, port
    path := Text.escaped isPathChar path
    query := parts.query.map (Text.escaped isQueryChar)
    fragment := parts.fragment.map (Text.escaped isFragmentChar) }

/-- The most characters of an address, and of each part of it. -/
def lengthLimit : Nat := 65536

/-- The first control character of a text, with its position. -/
def firstControl? (s : Text) : Option (Char × Nat) :=
  s.zipIdx.find? fun (c, _) => c.toNat < 0x20 || c.toNat == 0x7F

/-- The address that a text spells. -/
def read (s : Text) : Except UrlFault Url :=
  if lengthLimit < s.length then .error .tooLong
  else
    match firstControl? s with
    | some (c, position) => .error (.unprintable c position)
    | none => ofParts (Parts.split s)

/-- The part of an address that names the user, the host and the port. -/
def authority (url : Url) : Text :=
  let user := if url.userinfo.isEmpty then [] else url.userinfo ++ ['@']
  let host := if ':' ∈ url.host then '[' :: url.host ++ [']'] else url.host
  user ++ host ++ (match url.port with | some n => ':' :: Text.ofInt n | none => [])

/-- The parts of an address. -/
def parts (url : Url) : Parts where
  scheme := url.scheme
  authority := url.authority
  path := url.path
  query := url.query
  fragment := url.fragment

/-- The parts by their names, as far as they are there. -/
def Parts.listed (parts : Parts) : List (Part × Text) :=
  [(.scheme, parts.scheme), (.authority, parts.authority), (.path, parts.path)]
    ++ (parts.query.map fun query => (Part.query, query)).toList
    ++ (parts.fragment.map fun fragment => (Part.fragment, fragment)).toList

/-- The address that changed parts spell, none of which may be too long. -/
def ofChangedParts (parts : Parts) : Except UrlFault Url :=
  match parts.listed.find? fun (_, s) => lengthLimit < s.length with
  | some (part, _) => .error (.partTooLong part)
  | none => ofParts parts

/-- An address with another query. -/
def withQuery (query : Option Text) (url : Url) : Except UrlFault Url :=
  ofChangedParts { url.parts with query }

/-- Whether an address has a scheme and a host. -/
def isAbsolute (url : Url) : Bool :=
  !url.scheme.isEmpty && !url.host.isEmpty

/-- The path of an address, which is a slash where it is empty. -/
def fullPath (url : Url) : Text :=
  if url.path.isEmpty then ['/'] else url.path

/-- An address read below a base whose path ends in a slash. A relative one is put behind
that path, and all but its path and its query is dropped. -/
def below (base url : Url) : Except UrlFault Url :=
  if url.isAbsolute then .ok url
  else
    let path := base.fullPath ++ url.fullPath.dropWhile (· == '/')
    ofChangedParts { base.parts with path, query := url.query }

/-- The text of an address. -/
def text (url : Url) : Text :=
  let scheme := if url.scheme.isEmpty then [] else url.scheme ++ [':']
  let authority := if url.authority.isEmpty then [] else '/' :: '/' :: url.authority
  let behind (mark : Char) : Option Text → Text
    | some s => mark :: s
    | none => []
  scheme ++ authority ++ url.path ++ behind '?' url.query ++ behind '#' url.fragment

/-- The path of an address with its escaped characters. -/
def shownPath (url : Url) : Text :=
  Text.unescaped url.fullPath

/-- The name and the password in an address. -/
def user (url : Url) : Text × Text :=
  let (name, password) := cutAt ':' url.userinfo
  (Text.unescaped name, Text.unescaped (password.getD []))

end Url

end ScriptDocs
