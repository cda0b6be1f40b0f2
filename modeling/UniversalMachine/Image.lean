import UniversalMachine.FileTree

/-! Program images: platters as bytes, the most significant byte first. -/
namespace UniversalMachine

/-- Why a program cannot be loaded. -/
inductive LoadError where
  | unreadable (error : FileError)
  | misaligned (size : Nat)
  deriving DecidableEq, Repr

def LoadError.message : LoadError → String
  | .unreadable error => s!"Failed to read program image: {error.text}"
  | .misaligned size =>
    s!"Program image is {size} bytes, which is not a whole number of platters"

namespace Image

/-- The platter of four bytes. -/
def word (a b c d : UInt8) : UInt32 :=
  .ofNat (((a.toNat * 256 + b.toNat) * 256 + c.toNat) * 256 + d.toNat)

/-- The four bytes of a platter. -/
def bytes (word : UInt32) : List UInt8 :=
  let n := word.toNat
  [.ofNat (n / 0x1000000), .ofNat (n / 0x10000), .ofNat (n / 0x100), .ofNat n]

/-- The platters of whole groups of four bytes, behind those already read. -/
def words (read : Array UInt32) : List UInt8 → Array UInt32
  | a :: b :: c :: d :: rest => words (read.push (word a b c d)) rest
  | _ => read

/-- The program of an image, which must be a whole number of platters. -/
def decode (image : List UInt8) : Except LoadError (Array UInt32) :=
  if image.length % 4 = 0 then .ok (words #[] image) else .error (.misaligned image.length)

/-- The image that was read from a file, or why there is none. -/
def ofFile (file : Except FileError (List UInt8)) : Except LoadError (List UInt8) :=
  file.mapError .unreadable

/-- The program of an image that was read from a file. -/
def load (file : Except FileError (List UInt8)) : Except LoadError (Array UInt32) :=
  ofFile file >>= decode

/-- The image of a program. -/
def encode (program : Array UInt32) : List UInt8 := program.toList.flatMap bytes

example : decode [0x12,0x34,0x56,0x78,0,0,0,1] = .ok #[0x12345678,1] := rfl
example : encode #[0x12345678] = [0x12,0x34,0x56,0x78] := by decide
example : decode [0,0,0] = .error (.misaligned 3) := rfl

end Image
end UniversalMachine
