/-! Text as lines. -/
namespace UniversalMachine.Text

/-- The lines of a text, behind the reversed start of the first one. A line ends at a line feed, or
at a carriage return with a line feed; behind the last end there is a line only if it is not
empty. -/
def linesFrom (line : List Char) : List Char → List (List Char)
  | [] => if line.isEmpty then [] else [line.reverse]
  | '\r' :: '\n' :: rest => line.reverse :: linesFrom [] rest
  | '\n' :: rest => line.reverse :: linesFrom [] rest
  | c :: rest => linesFrom (c :: line) rest

def lines (text : String) : List String := (linesFrom [] text.toList).map String.ofList

example : lines "a\r\n\nb" = ["a","","b"] := by decide +kernel
example : lines "a\r" = ["a\r"] := by decide +kernel
example : lines "a\n" = ["a"] := by decide +kernel

end UniversalMachine.Text
