import UniversalMachine.Terminal.Basic

/-! What the keys do. -/
namespace UniversalMachine.Terminal

inductive KeyCode where
  | char (c : Char)
  | escape
  | enter
  | backspace
  | pageUp
  | pageDown
  | up
  | down
  /-- A key without a meaning here. -/
  | other
  deriving DecidableEq, Repr

structure Key where
  code : KeyCode
  ctrl : Bool := false
  deriving DecidableEq, Repr

/-- The number of lines that a page key moves by. -/
def page : Nat := 10

/-- Moves an offset down, but never beyond the largest one. -/
def scrollDown (offset count : Nat) : Nat := min (offset + count) bottom

/-- A typing key works only while the program waits for a line. -/
def typeKey (t : Terminal) (code : KeyCode) (ctrl : Bool) : Terminal :=
  if !t.inputEnabled then t
  else match code with
    | .enter => t.submitLine
    | .backspace => { t with input := String.ofList t.input.toList.dropLast }
    | .char c => if ctrl then t else { t with input := t.input.push c }
    | _ => t

def handleKey (t : Terminal) (key : Key) : Terminal :=
  match key.code, key.ctrl with
  | .escape, _ => { t with shouldQuit := true }
  | .char 'c', true => { t with shouldQuit := true }
  | .char 'd', true => t.closeInput
  | .pageUp, _ => { t with consoleScroll := min t.consoleScroll (t.log.size - 1) - page }
  | .pageDown, _ => { t with consoleScroll := scrollDown t.consoleScroll page }
  | .up, _ => { t with heapScroll := t.heapScroll - 1 }
  | .down, _ => { t with heapScroll := scrollDown t.heapScroll 1 }
  | code, ctrl => t.typeKey code ctrl

end UniversalMachine.Terminal
