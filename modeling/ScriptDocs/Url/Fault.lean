/-
# Faults of addresses

Why a text is no address of a resource in the network, and why a label of a host name is
none.
-/

import ScriptDocs.Text.Quoted

namespace ScriptDocs.Url

/-- Why a label of a host name is none. -/
inductive LabelFault
  /-- Its length, its hyphens, its first character, its joiners or its spelling. -/
  | malformed
  | characterRefused
  | contextRefused
  | directionsMixed
  deriving DecidableEq, Repr

/-- The parts of an address. -/
inductive Part
  | scheme
  | authority
  | path
  | query
  | fragment
  deriving DecidableEq, Repr

/-- The name of a part. -/
def Part.name : Part → Text
  | .scheme => "scheme"
  | .authority => "authority"
  | .path => "path"
  | .query => "query"
  | .fragment => "fragment"

end ScriptDocs.Url

namespace ScriptDocs

/-- Why a text is no address. -/
inductive UrlFault
  | tooLong
  | partTooLong (part : Url.Part)
  /-- A control character, and where it stands. -/
  | unprintable (c : Char) (position : Nat)
  | portUnreadable (port : Text)
  | address4Unreadable (host : Text)
  | address6Unreadable (host : Text)
  | hostUnwritable (host : Text)
  | pathWithoutSlash
  | pathWithTwoSlashes
  | pathWithColon
  deriving DecidableEq, Repr

/-- The wording of a fault. -/
def UrlFault.message : UrlFault → Text
  | tooLong => "URL too long"
  | partTooLong part => "URL component '".toList ++ part.name ++ "' too long".toList
  | unprintable c position =>
    "Invalid non-printable ASCII character in URL, ".toList ++ Text.quoted [c]
      ++ " at position ".toList ++ Text.ofNat position ++ ['.']
  | portUnreadable port => "Invalid port: ".toList ++ Text.quoted port
  | address4Unreadable host => "Invalid IPv4 address: ".toList ++ Text.quoted host
  | address6Unreadable host => "Invalid IPv6 address: ".toList ++ Text.quoted host
  | hostUnwritable host => "Invalid IDNA hostname: ".toList ++ Text.quoted host
  | pathWithoutSlash => "For absolute URLs, path must be empty or begin with '/'"
  | pathWithTwoSlashes => "Relative URLs cannot have a path starting with '//'"
  | pathWithColon => "Relative URLs cannot have a path starting with ':'"

end ScriptDocs
