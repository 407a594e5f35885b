/-
# SHA-256

The digest of FIPS 180-4 on a list of bytes, and the fingerprint of a text: the
hexadecimal digest of its UTF-8 bytes.
-/

import ScriptDocs.Text.Utf8

namespace ScriptDocs

namespace Sha256

/-- The round constants. -/
def roundConstants : Array UInt32 := #[
  0x428a2f98, 0x71374491, 0xb5c0fbcf, 0xe9b5dba5, 0x3956c25b, 0x59f111f1, 0x923f82a4, 0xab1c5ed5,
  0xd807aa98, 0x12835b01, 0x243185be, 0x550c7dc3, 0x72be5d74, 0x80deb1fe, 0x9bdc06a7, 0xc19bf174,
  0xe49b69c1, 0xefbe4786, 0x0fc19dc6, 0x240ca1cc, 0x2de92c6f, 0x4a7484aa, 0x5cb0a9dc, 0x76f988da,
  0x983e5152, 0xa831c66d, 0xb00327c8, 0xbf597fc7, 0xc6e00bf3, 0xd5a79147, 0x06ca6351, 0x14292967,
  0x27b70a85, 0x2e1b2138, 0x4d2c6dfc, 0x53380d13, 0x650a7354, 0x766a0abb, 0x81c2c92e, 0x92722c85,
  0xa2bfe8a1, 0xa81a664b, 0xc24b8b70, 0xc76c51a3, 0xd192e819, 0xd6990624, 0xf40e3585, 0x106aa070,
  0x19a4c116, 0x1e376c08, 0x2748774c, 0x34b0bcb5, 0x391c0cb3, 0x4ed8aa4a, 0x5b9cca4f, 0x682e6ff3,
  0x748f82ee, 0x78a5636f, 0x84c87814, 0x8cc70208, 0x90befffa, 0xa4506ceb, 0xbef9a3f7, 0xc67178f2]

/-- The eight words of the chaining state. -/
structure State where
  a : UInt32
  b : UInt32
  c : UInt32
  d : UInt32
  e : UInt32
  f : UInt32
  g : UInt32
  h : UInt32

/-- The state before the first block. -/
def State.initial : State :=
  ⟨0x6a09e667, 0xbb67ae85, 0x3c6ef372, 0xa54ff53a, 0x510e527f, 0x9b05688c, 0x1f83d9ab, 0x5be0cd19⟩

/-- A word turned right by a number of bits between 1 and 31. -/
def turnRight (x n : UInt32) : UInt32 :=
  (x >>> n) ||| (x <<< (32 - n))

/-- The message with its padding: a one bit, zeros, and the length in bits. -/
def padded (message : Bytes) : Bytes :=
  let zeros := (119 - message.length % 64) % 64
  let bits := message.length * 8
  message ++ 0x80 :: List.replicate zeros 0
    ++ (List.range 8).map fun i => (bits / Nat.pow 256 (7 - i)).toUInt8

/-- The word that four bytes spell, high one first. -/
def wordAt (block : Array UInt8) (i : Nat) : UInt32 :=
  (block.getD (4 * i) 0).toUInt32 <<< 24 ||| (block.getD (4 * i + 1) 0).toUInt32 <<< 16
    ||| (block.getD (4 * i + 2) 0).toUInt32 <<< 8 ||| (block.getD (4 * i + 3) 0).toUInt32

/-- The sixty-four words that one block contributes. -/
def schedule (block : Array UInt8) : Array UInt32 :=
  (List.range 64).foldl (fun words i =>
    if i < 16 then words.push (wordAt block i)
    else
      let x := words.getD (i - 15) 0
      let y := words.getD (i - 2) 0
      let s0 := turnRight x 7 ^^^ turnRight x 18 ^^^ (x >>> 3)
      let s1 := turnRight y 17 ^^^ turnRight y 19 ^^^ (y >>> 10)
      words.push (words.getD (i - 16) 0 + s0 + words.getD (i - 7) 0 + s1)) #[]

/-- One round. -/
def State.round (s : State) (constant word : UInt32) : State :=
  let s1 := turnRight s.e 6 ^^^ turnRight s.e 11 ^^^ turnRight s.e 25
  let choice := (s.e &&& s.f) ^^^ ((~~~ s.e) &&& s.g)
  let t1 := s.h + s1 + choice + constant + word
  let s0 := turnRight s.a 2 ^^^ turnRight s.a 13 ^^^ turnRight s.a 22
  let majority := (s.a &&& s.b) ^^^ (s.a &&& s.c) ^^^ (s.b &&& s.c)
  ⟨t1 + (s0 + majority), s.a, s.b, s.c, s.d + t1, s.e, s.f, s.g⟩

/-- The state after one block. -/
def State.absorb (s : State) (block : Array UInt8) : State :=
  let words := schedule block
  let t := (List.range 64).foldl
    (fun t i => t.round (roundConstants.getD i 0) (words.getD i 0)) s
  ⟨s.a + t.a, s.b + t.b, s.c + t.c, s.d + t.d, s.e + t.e, s.f + t.f, s.g + t.g, s.h + t.h⟩

/-- The words of the digest of a message. -/
def digest (message : Bytes) : List UInt32 :=
  let bytes := (padded message).toArray
  let last := (List.range (bytes.size / 64)).foldl
    (fun state i => state.absorb (bytes.extract (64 * i) (64 * i + 64))) State.initial
  [last.a, last.b, last.c, last.d, last.e, last.f, last.g, last.h]

end Sha256

/-- The fingerprint of a text: its SHA-256 digest as 64 hexadecimal digits. -/
def fingerprint (s : Text) : Text :=
  (Sha256.digest s.utf8).flatMap fun word =>
    let digits := Nat.toDigits 16 word.toNat
    List.replicate (8 - digits.length) '0' ++ digits

end ScriptDocs
