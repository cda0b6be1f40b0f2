import UniversalMachine.Scrollback
import UniversalMachine.Session.Basic

/-! The terminal front end: a session, everything its program printed, the line being typed, and
what the panes show. -/
namespace UniversalMachine

structure Terminal where
  session : Session
  programName : String
  log : Scrollback
  /-- The text typed so far. -/
  input : String
  /-- Whether the program asked for a line. -/
  inputEnabled : Bool
  /-- The first line shown of the log; `Terminal.bottom` sticks to its end. -/
  consoleScroll : Nat
  /-- The first array shown of the list of arrays. -/
  heapScroll : Nat
  /-- The status after the last slice. -/
  status : Session.Status
  fault : Option (Fault × Snapshot)
  /-- The number of instructions executed between two frames. -/
  slice : Nat
  shouldQuit : Bool
  message : String

namespace Terminal

/-- The largest scroll offset. -/
def bottom : Nat := 0xFFFFFFFFFFFFFFFF

/-- The number of instructions in a slice, unless another is chosen. -/
def defaultSlice : Nat := 200000

/-- Shows one event of the session. -/
def absorb (t : Terminal) : Event → Terminal
  | .programLoaded platters =>
    { t with
      log := t.log.pushNotice "*** PROGRAM LOADED ***"
      message := s!"Loaded {platters} platters" }
  | .print bytes => { t with log := t.log.pushBytes bytes.toList, consoleScroll := bottom }
  | .readLine => { t with inputEnabled := true, message := "Waiting for input" }
  | .halted =>
    { t with
      log := t.log.pushNotice "*** HALTED ***"
      consoleScroll := bottom
      message := "Program halted" }
  | .fault fault snapshot =>
    { t with message := s!"{fault.kind}: {fault.message}", fault := some (fault, snapshot) }

/-- Shows all events that the session has collected. -/
def absorbAll (t : Terminal) : Terminal :=
  let (events, session) := t.session.drain
  events.foldl absorb { t with session }

/-- The front end of a session. -/
def ofSession (session : Session) (programName : String) : Terminal :=
  absorbAll
    { session, programName
      log := {}
      input := ""
      inputEnabled := false
      consoleScroll := bottom
      heapScroll := 0
      status := session.status
      fault := none
      slice := defaultSlice
      shouldQuit := false
      message := "Running..." }

/-- Runs one slice and shows what it did. -/
def pump (t : Terminal) : Terminal :=
  let (status, session) := t.session.pump t.slice
  absorbAll { t with status, session }

/-- Passes a request to the session. Once it is taken, a waiting program runs again. -/
def deliver (t : Terminal) (request : Request) : Terminal :=
  match t.session.handle request with
  | (.ok _, session) =>
    { t with
      session
      inputEnabled := false
      status := if t.status = .awaitingInput then .running else t.status
      message := "Running..." }
  | (.error error, session) => { t with session, message := s!"Error: {error.message}" }

/-- Sends the typed line with a newline, and shows it in the log. -/
def submitLine (t : Terminal) : Terminal :=
  let line := (t.input.push '\n').toUTF8.toList
  deliver
    { t with input := "", log := t.log.pushBytes line, consoleScroll := bottom }
    (.readLineDone line)

def closeInput (t : Terminal) : Terminal := deliver { t with input := "" } .endOfInput

end Terminal
end UniversalMachine
