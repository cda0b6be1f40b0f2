/-! Reading bytes as UTF-8 without ever failing: a sequence that is not well formed is replaced
by U+FFFD, once for each longest run of bytes that still could begin a character. -/
namespace UniversalMachine.Text.Utf8

/-- An inclusive range of byte values. -/
structure ByteRange where
  low : UInt8
  high : UInt8

def ByteRange.contains (range : ByteRange) (byte : UInt8) : Bool :=
  range.low ≤ byte && byte ≤ range.high

/-- Any continuation byte. -/
def continuation : ByteRange := ⟨0x80,0xBF⟩

/-- A character begun and not yet complete: its bits so far, and what may follow. -/
structure Partial where
  bits : Nat
  expected : ByteRange
  remaining : List ByteRange

/-- The characters that start with `lead`. The first continuation is narrower after the leads
that could otherwise spell a surrogate, a value above U+10FFFF or a longer form than needed. -/
def begin? (lead : UInt8) : Option Partial :=
  if 0xC2 ≤ lead && lead ≤ 0xDF then some ⟨lead.toNat % 32,continuation,[]⟩
  else if lead = 0xE0 then some ⟨0,⟨0xA0,0xBF⟩,[continuation]⟩
  else if lead = 0xED then some ⟨13,⟨0x80,0x9F⟩,[continuation]⟩
  else if 0xE1 ≤ lead && lead ≤ 0xEF then some ⟨lead.toNat % 16,continuation,[continuation]⟩
  else if lead = 0xF0 then some ⟨0,⟨0x90,0xBF⟩,[continuation,continuation]⟩
  else if 0xF1 ≤ lead && lead ≤ 0xF3 then
    some ⟨lead.toNat % 8,continuation,[continuation,continuation]⟩
  else if lead = 0xF4 then some ⟨4,⟨0x80,0x8F⟩,[continuation,continuation]⟩
  else none

/-- The character that stands for ill-formed bytes. -/
def replacement : Char := '�'

/-- The reader between two bytes: the text so far, and the character being read. -/
structure Reader where
  text : String := ""
  pending : Option Partial := none

/-- Reads a byte at which a character may start. -/
def Reader.start (text : String) (byte : UInt8) : Reader :=
  if byte < 0x80 then { text := text.push (Char.ofNat byte.toNat) }
  else match begin? byte with
    | some begun => { text, pending := some begun }
    | none => { text := text.push replacement }

/-- Reads one more byte. A byte that cannot continue the character begun ends that character as
a replacement and is read again as a start. -/
def Reader.next (reader : Reader) (byte : UInt8) : Reader :=
  match reader.pending with
  | none => .start reader.text byte
  | some begun =>
    if begun.expected.contains byte then
      let bits := begun.bits * 64 + byte.toNat % 64
      match begun.remaining with
      | [] => { text := reader.text.push (Char.ofNat bits) }
      | range :: ranges => { reader with pending := some ⟨bits,range,ranges⟩ }
    else .start (reader.text.push replacement) byte

/-- The text read, where a character still incomplete is one replacement. -/
def Reader.finish (reader : Reader) : String :=
  match reader.pending with
  | none => reader.text
  | some _ => reader.text.push replacement

/-- The text of `bytes`. -/
def decode (bytes : List UInt8) : String :=
  (bytes.foldl Reader.next {}).finish

example : decode [0x68,0xC3,0xA9,0x0A] = "hé\n" := by decide +kernel
example : decode [0xE2,0x82,0x41,0xF0,0x9F,0x98] = "�A�" := by decide +kernel
example : decode [0xED,0xA0,0x80] = "���" := by decide +kernel

end UniversalMachine.Text.Utf8
