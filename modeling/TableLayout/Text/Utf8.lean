import TableLayout.Text.Quoted

/-!
# UTF-8

Bytes as text. Reading is strict and says where and why it stops.

- `encode`: the bytes of a text.
- `Fault`: the first fault of a sequence of bytes: the bytes it covers and the reason.
- `decode`: the text of a sequence of bytes, or its first fault.

The reader walks over the bytes with what it owes to the character that it is in (`Pending`): how
many bytes are still to come and between which bounds the next one lies. The bounds keep out
overlong forms, surrogates and numbers past the last code point.
-/

namespace TableLayout.Text.Utf8

/-- The bytes of a text. -/
def encode (s : String) : List UInt8 :=
  s.toList.flatMap String.utf8EncodeChar

/-- Why bytes are no text. -/
inductive Reason where
  /-- No character starts with this byte. -/
  | start
  /-- The character begun before it does not go on with this byte. -/
  | continuation
  /-- The bytes end inside a character. -/
  | truncated
deriving DecidableEq, Repr

/-- The words for a reason. -/
def Reason.message : Reason → String
  | .start => "invalid start byte"
  | .continuation => "invalid continuation byte"
  | .truncated => "unexpected end of data"

/-- The bytes from `start` up to and without `stop`, of which `first` is the first, are no
character. -/
structure Fault where
  start : Nat
  stop : Nat
  first : UInt8
  reason : Reason
deriving DecidableEq, Repr

/-- The full description of a fault. -/
def Fault.message (f : Fault) : String :=
  let place := if f.stop = f.start + 1 then
      s!"byte 0x{String.ofList (hexDigits 2 f.first.toNat)} in position {f.start}"
    else s!"bytes in position {f.start}-{f.stop - 1}"
  s!"'utf-8' codec can't decode {place}: {f.reason.message}"

/-- What is owed to a character that has begun. -/
structure Pending where
  /-- Where it began. -/
  start : Nat
  /-- The byte that it began with. -/
  first : UInt8
  /-- Bytes still to come after the next one. -/
  more : Nat
  /-- The least value of the next byte. -/
  low : UInt8
  /-- The greatest value of the next byte. -/
  high : UInt8
  /-- The number read so far. -/
  value : Nat

/-- What a character owes that begins at `pos` with the byte `b` from U+0080 on. -/
def pending? (pos : Nat) (b : UInt8) : Option Pending :=
  if 0xC2 ≤ b ∧ b ≤ 0xDF then some ⟨pos, b, 0, 0x80, 0xBF, b.toNat - 0xC0⟩
  else if 0xE0 ≤ b ∧ b ≤ 0xEF then
    -- Lower bytes would spell in three what two can, and higher ones half of a surrogate pair.
    let low := if b = 0xE0 then 0xA0 else 0x80
    let high := if b = 0xED then 0x9F else 0xBF
    some ⟨pos, b, 1, low, high, b.toNat - 0xE0⟩
  else if 0xF0 ≤ b ∧ b ≤ 0xF4 then
    -- Again what three bytes can spell, and what is beyond the last character.
    let low := if b = 0xF0 then 0x90 else 0x80
    let high := if b = 0xF4 then 0x8F else 0xBF
    some ⟨pos, b, 2, low, high, b.toNat - 0xF0⟩
  else none

/-- The text from position `pos` on, given the character that is under way. -/
def decodeFrom (pos : Nat) : Option Pending → List UInt8 → Except Fault (List Char)
  | none, [] => .ok []
  | some p, [] => .error ⟨p.start, pos, p.first, .truncated⟩
  | none, b :: rest =>
    if b < 0x80 then (Char.ofNat b.toNat :: ·) <$> decodeFrom (pos + 1) none rest
    else match pending? pos b with
      | some p => decodeFrom (pos + 1) (some p) rest
      | none => .error ⟨pos, pos + 1, b, .start⟩
  | some p, b :: rest =>
    if p.low ≤ b ∧ b ≤ p.high then
      let value := p.value * 64 + (b.toNat - 0x80)
      match p.more with
      | 0 => (Char.ofNat value :: ·) <$> decodeFrom (pos + 1) none rest
      | more + 1 => decodeFrom (pos + 1) (some ⟨p.start, p.first, more, 0x80, 0xBF, value⟩) rest
    -- The byte at fault is no part of the fault: a character may start with it.
    else .error ⟨p.start, pos, p.first, .continuation⟩

/-- The text of a sequence of bytes. -/
def decode (bytes : List UInt8) : Except Fault String :=
  String.ofList <$> decodeFrom 0 none bytes

end TableLayout.Text.Utf8
