import UniversalMachine.Terminal.Key
import UniversalMachine.Terminal.Layout

/-! The turns of the front end: run a slice, draw, and handle at most one key. -/
namespace UniversalMachine.Terminal

/-- Something that happened on the keyboard or the screen. -/
inductive Happening where
  | press (key : Key)
  /-- Anything but a key being pressed. -/
  | ignored
  deriving DecidableEq, Repr

/-- What waiting for a happening gives. -/
inductive Poll where
  | nothing
  | pollFailed (text : String)
  | readFailed (text : String)
  | happened (happening : Happening)
  deriving DecidableEq, Repr

/-- Why the front end stopped taking turns. -/
inductive Ending where
  | quit
  | failed (text : String)
  /-- There was nothing left to wait for. -/
  | exhausted
  deriving DecidableEq, Repr

/-- The terminal after its last turn, with the waiting times in milliseconds and the polls left. -/
structure Visit where
  terminal : Terminal
  ending : Ending
  waits : Array Nat
  left : List Poll

/-- The first half of a turn: a slice if the program runs, and a frame. -/
def refresh (t : Terminal) (size : Size) : Terminal :=
  (if t.status = .running then t.pump else t).settleScroll size.paneHeight

/-- How long to wait for a happening: not at all while the program runs. -/
def waitTime (t : Terminal) : Nat := if t.status = .running then 0 else 50

def happen (t : Terminal) : Happening → Terminal
  | .press key => t.handleKey key
  | .ignored => t

/-- Takes turns until the user quits, waiting fails, or the polls are used up. -/
def visit (size : Size) (t : Terminal) (waits : Array Nat) (polls : List Poll) : Visit :=
  let t := t.refresh size
  if t.shouldQuit then ⟨t,.quit,waits,polls⟩
  else
    let waits := waits.push t.waitTime
    match polls with
    | [] => ⟨t,.exhausted,waits,[]⟩
    | .nothing :: polls => visit size t waits polls
    | .pollFailed text :: polls => ⟨t,.failed text,waits,polls⟩
    | .readFailed text :: polls => ⟨t,.failed text,waits,polls⟩
    | .happened happening :: polls => visit size (t.happen happening) waits polls

/-- Serves the keyboard from the first turn on. -/
def run (t : Terminal) (size : Size) (polls : List Poll) : Visit := visit size t #[] polls

end UniversalMachine.Terminal
