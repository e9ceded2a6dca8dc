/-
UTF-8.

`encode` writes text as bytes.  Bytes are read by an automaton that moves by
one byte at a time and puts out a character when it is complete.  A sequence
that starts like a character and then breaks off comes out as one unreadable
item, and the byte that broke it off is read afresh.  `decode?` refuses bytes
with an unreadable item, and `decodeLossy` shows each one as the replacement
character.
-/

namespace NodeGen
namespace Text

abbrev Bytes := List UInt8

/-! ## Writing -/

def encode (s : String) : Bytes :=
  s.toList.flatMap String.utf8EncodeChar

/-- Length in bytes. -/
def byteSize (s : String) : Nat :=
  s.utf8ByteSize

theorem encode_append (a b : String) : encode (a ++ b) = encode a ++ encode b := by
  simp [encode]

theorem byteSize_append (a b : String) : byteSize (a ++ b) = byteSize a + byteSize b :=
  String.utf8ByteSize_append

/-! ## Reading -/

namespace Utf8

/-- Between characters, or within one whose next byte lies between `lo` and
`hi` and is followed by `more` bytes. -/
inductive State where
  | ready
  | within (more : Nat) (lo hi : UInt8) (code : Nat)

/-- The state after a lead byte, unless no character starts with it. -/
def lead? (b : UInt8) : Option State :=
  if 0xC2 ≤ b && b ≤ 0xDF then some (.within 0 0x80 0xBF (b.toNat % 32))
  else if b = 0xE0 then some (.within 1 0xA0 0xBF 0)
  else if b = 0xED then some (.within 1 0x80 0x9F 13)
  else if 0xE1 ≤ b && b ≤ 0xEF then some (.within 1 0x80 0xBF (b.toNat % 16))
  else if b = 0xF0 then some (.within 2 0x90 0xBF 0)
  else if 0xF1 ≤ b && b ≤ 0xF3 then some (.within 2 0x80 0xBF (b.toNat % 8))
  else if b = 0xF4 then some (.within 2 0x80 0x8F 4)
  else none

/-- Reads the first byte of a character. -/
def start (b : UInt8) : List (Option Char) × State :=
  if b < 0x80 then ([some (Char.ofNat b.toNat)], .ready)
  else
    match lead? b with
    | some state => ([], state)
    | none => ([none], .ready)

/-- The items that a byte completes, and the state after it. -/
def step : State → UInt8 → List (Option Char) × State
  | .ready, b => start b
  | .within more lo hi code, b =>
    if lo ≤ b && b ≤ hi then
      let code := code * 64 + b.toNat % 64
      match more with
      | 0 => ([some (Char.ofNat code)], .ready)
      | more + 1 => ([], .within more 0x80 0xBF code)
    else (none :: (start b).1, (start b).2)

/-- The items of a byte sequence, `none` for each unreadable one. -/
def read : State → Bytes → List (Option Char)
  | .ready, [] => []
  | .within .., [] => [none]
  | state, b :: bs => (step state b).1 ++ read (step state b).2 bs

end Utf8

def decode? (bs : Bytes) : Option String :=
  ((Utf8.read .ready bs).mapM id).map String.ofList

def decodeLossy (bs : Bytes) : String :=
  String.ofList ((Utf8.read .ready bs).map (·.getD '\uFFFD'))

end Text
end NodeGen
