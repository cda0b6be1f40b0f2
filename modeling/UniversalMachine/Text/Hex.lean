/-! Fixed-width texts of numbers: hexadecimal words and left-aligned columns. -/
namespace UniversalMachine.Text

/-- Lowercase hexadecimal digits of `n`, filled with zeros on the left up to `width`. -/
def hex (width n : Nat) : String :=
  let digits := Nat.toDigits 16 n
  String.ofList (List.replicate (width - digits.length) '0' ++ digits)

/-- `text` followed by blanks up to `width` characters. -/
def padRight (width : Nat) (text : String) : String :=
  text ++ String.ofList (List.replicate (width - text.length) ' ')

example : hex 8 0xd0000048 = "d0000048" := by decide +kernel
example : hex 8 72 = "00000048" := by decide +kernel

end UniversalMachine.Text
