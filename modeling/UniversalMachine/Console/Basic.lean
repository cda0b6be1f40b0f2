import UniversalMachine.Snapshot

/-! The machine's only contact with the outside: lines of input, bytes of output, the news that
the program halted, and the report of a fault. -/
namespace UniversalMachine

/-- The answer to a request for a line. -/
inductive LineRead where
  /-- A line, normally with its newline. -/
  | line (bytes : List UInt8)
  /-- Input may come later. -/
  | pending
  /-- No input will ever come. -/
  | endOfInput
  deriving DecidableEq, Repr

/-- A console is a state that answers the machine's calls. Each call returns the answer and the
next state. -/
class Console (κ : Type) where
  readLine : κ → LineRead × κ
  writeByte : κ → UInt8 → Except Device.Error Unit × κ
  /-- The halt instruction was reached. -/
  announceHalt : κ → Except Device.Error Unit × κ := fun console => (.ok (), console)
  /-- Pushes output that is held back to its destination. -/
  flush : κ → Except Device.Error Unit × κ := fun console => (.ok (), console)
  /-- Takes the report of a fault. -/
  reportFault : κ → Snapshot → κ := fun console _ => console

end UniversalMachine
