import Winnow.Text.Basic

/-!
# UTF-8

Decoding is a transducer that reads one byte at a time. It holds the sequence that has begun and
emits segments: a character, or a maximal malformed subpart with the cause. The two readers are
views of the segments: one replaces every malformed subpart, the other one stops at the first.
-/

namespace Winnow.Utf8

/-- Why a subpart is no character. -/
inductive Malformation
  | invalidStart
  | invalidContinuation
  | unexpectedEnd
  deriving DecidableEq, Repr

/-- A piece of the decoded input with the number of bytes that it covers. -/
inductive Segment
  | scalar (char : Char) (width : Nat)
  | malformed (cause : Malformation) (width : Nat)
  deriving DecidableEq, Repr

/-- A sequence that has begun: the bits so far, the bytes read, the bytes that are missing and the
range that the next byte has to be in. -/
structure Pending where
  bits : Nat
  width : Nat
  missing : Nat
  low : Nat
  high : Nat
  deriving DecidableEq, Repr

/-- What a lead byte begins. The ranges of the second byte leave out overlong forms, surrogates and
numbers past the last code point. -/
def Pending.ofLead? (byte : Nat) : Option Pending :=
  if byte < 0xC2 then none
  else if byte < 0xE0 then some ⟨byte - 0xC0, 1, 1, 0x80, 0xBF⟩
  else if byte = 0xE0 then some ⟨0, 1, 2, 0xA0, 0xBF⟩
  else if byte = 0xED then some ⟨0xD, 1, 2, 0x80, 0x9F⟩
  else if byte < 0xF0 then some ⟨byte - 0xE0, 1, 2, 0x80, 0xBF⟩
  else if byte = 0xF0 then some ⟨0, 1, 3, 0x90, 0xBF⟩
  else if byte < 0xF4 then some ⟨byte - 0xF0, 1, 3, 0x80, 0xBF⟩
  else if byte = 0xF4 then some ⟨4, 1, 3, 0x80, 0x8F⟩
  else none

/-- Reads a byte where no sequence has begun. -/
def start (byte : Nat) : List Segment × Option Pending :=
  if byte < 0x80 then ([.scalar (Char.ofNat byte) 1], none)
  else
    match Pending.ofLead? byte with
    | some pending => ([], some pending)
    | none => ([.malformed .invalidStart 1], none)

/-- Reads a byte: it continues the sequence that has begun, or ends it as malformed and stands
where no sequence has begun. -/
def feed : Option Pending → Nat → List Segment × Option Pending
  | none, byte => start byte
  | some pending, byte =>
    if pending.low ≤ byte ∧ byte ≤ pending.high then
      let bits := pending.bits * 64 + (byte - 0x80)
      if pending.missing ≤ 1 then ([.scalar (Char.ofNat bits) (pending.width + 1)], none)
      else ([], some ⟨bits, pending.width + 1, pending.missing - 1, 0x80, 0xBF⟩)
    else
      let (segments, next) := start byte
      (.malformed .invalidContinuation pending.width :: segments, next)

/-- The segments of the bytes that follow what is pending. -/
def segmentsFrom : Option Pending → List UInt8 → List Segment
  | none, [] => []
  | some pending, [] => [.malformed .unexpectedEnd pending.width]
  | pending, byte :: rest =>
    let (segments, next) := feed pending byte.toNat
    segments ++ segmentsFrom next rest

/-- The segments of a byte sequence. -/
def segments (bytes : List UInt8) : List Segment := segmentsFrom none bytes

/-- The character that stands for a malformed subpart. -/
def replacement : Char := Char.ofNat 0xFFFD

/-- The character of a segment, the replacement character for a malformed one. -/
def Segment.charOrReplacement : Segment → Char
  | .scalar char _ => char
  | .malformed _ _ => replacement

/-- The bytes as text, every maximal malformed subpart replaced. -/
def decodeReplacing (bytes : List UInt8) : Text :=
  (segments bytes).map Segment.charOrReplacement

/-- The first malformed subpart of an input that has to be well formed. -/
structure DecodeError where
  cause : Malformation
  position : Nat
  bytes : List UInt8
  deriving DecidableEq, Repr

/-- The text of segments that begin at the given offset, or the first malformed one. -/
def textOf (bytes : List UInt8) (offset : Nat) : List Segment → Except DecodeError Text
  | [] => .ok []
  | .scalar char width :: rest =>
    match textOf bytes (offset + width) rest with
    | .ok text => .ok (char :: text)
    | .error problem => .error problem
  | .malformed cause width :: _ =>
    .error ⟨cause, offset, (bytes.drop offset).take width⟩

/-- The bytes as text; the first malformed subpart is an error. -/
def decode (bytes : List UInt8) : Except DecodeError Text := textOf bytes 0 (segments bytes)

/-- The bytes of one character. -/
def encodeChar (char : Char) : List UInt8 :=
  let code := char.toNat
  if code < 0x80 then [code.toUInt8]
  else if code < 0x800 then [(0xC0 + code / 64).toUInt8, (0x80 + code % 64).toUInt8]
  else if code < 0x10000 then
    [(0xE0 + code / 4096).toUInt8, (0x80 + code / 64 % 64).toUInt8, (0x80 + code % 64).toUInt8]
  else
    [(0xF0 + code / 262144).toUInt8, (0x80 + code / 4096 % 64).toUInt8,
      (0x80 + code / 64 % 64).toUInt8, (0x80 + code % 64).toUInt8]

/-- The bytes of a text. -/
def encode (text : Text) : List UInt8 := text.flatMap encodeChar

end Winnow.Utf8

namespace Winnow

/-- What is handed in for a text: the text itself, or bytes that stand for it. -/
inductive TextData
  | text (chars : Text)
  | bytes (bytes : List UInt8)
  deriving DecidableEq, Repr

/-- The text that is meant; malformed bytes are replaced. -/
def TextData.decoded : TextData → Text
  | .text chars => chars
  | .bytes data => Utf8.decodeReplacing data

end Winnow

namespace Winnow.Latin1

/-- The bytes as text, every byte being the character of that number. -/
def decode (bytes : List UInt8) : Text := bytes.map fun byte => Char.ofNat byte.toNat

end Winnow.Latin1
