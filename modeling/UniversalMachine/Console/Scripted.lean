import UniversalMachine.Console.Basic
import UniversalMachine.Text.Utf8

/-! A console that answers from a list of lines and records what it is told. -/
namespace UniversalMachine

structure ScriptedConsole where
  lines : List (List UInt8) := []
  /-- Whether the input ends after the lines, or more may come. -/
  endOfInput : Bool := false
  output : Array UInt8 := #[]
  lineRequests : Nat := 0
  halts : Nat := 0
  faults : Array Snapshot := #[]
  deriving Repr

namespace ScriptedConsole

/-- The console that answers with `lines` and then with the end of input. -/
def ofLines (lines : List (List UInt8)) : ScriptedConsole := { lines, endOfInput := true }

def pushLine (console : ScriptedConsole) (line : List UInt8) : ScriptedConsole :=
  { console with lines := console.lines ++ [line] }

def readLine (console : ScriptedConsole) : LineRead × ScriptedConsole :=
  let console := { console with lineRequests := console.lineRequests + 1 }
  match console.lines with
  | line :: lines => (.line line, { console with lines })
  | [] => (if console.endOfInput then .endOfInput else .pending, console)

instance : Console ScriptedConsole where
  readLine := readLine
  writeByte console byte := (.ok (), { console with output := console.output.push byte })
  announceHalt console := (.ok (), { console with halts := console.halts + 1 })
  reportFault console snapshot := { console with faults := console.faults.push snapshot }

/-- Everything written so far, as text. -/
def outputText (console : ScriptedConsole) : String := Text.Utf8.decode console.output.toList

end ScriptedConsole
end UniversalMachine
