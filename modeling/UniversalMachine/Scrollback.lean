import UniversalMachine.Device.Source
import UniversalMachine.Text.Utf8

/-! Program output as lines of text. Only the last ten thousand completed lines are kept. -/
namespace UniversalMachine

/-- The completed lines, as a queue whose front part stands oldest first and whose back part
newest first, with their number; and the bytes of the line that is not complete yet. -/
structure Scrollback where
  front : List String := []
  back : List String := []
  count : Nat := 0
  pending : Array UInt8 := #[]
  deriving Repr

namespace Scrollback

/-- The most completed lines that are kept. -/
def limit : Nat := 10000

/-- The completed lines, the oldest first. -/
def completed (log : Scrollback) : List String := log.front ++ log.back.reverse

/-- Forgets the oldest completed line. -/
def dropOldest (log : Scrollback) : Scrollback :=
  match log.front with
  | _ :: front => { log with front, count := log.count - 1 }
  | [] => { log with front := log.back.reverse.tail, back := [], count := log.count - 1 }

def pushLine (log : Scrollback) (line : String) : Scrollback :=
  let log := if log.count = limit then log.dropOldest else log
  { log with back := line :: log.back, count := log.count + 1 }

/-- The incomplete line as text. -/
def tail (log : Scrollback) : String := Text.Utf8.decode log.pending.toList

/-- A line is decoded as a whole when its newline arrives. -/
def pushByte (log : Scrollback) (byte : UInt8) : Scrollback :=
  if byte = Device.newline then { log.pushLine log.tail with pending := #[] }
  else { log with pending := log.pending.push byte }

def pushBytes (log : Scrollback) (bytes : List UInt8) : Scrollback :=
  bytes.foldl pushByte log

/-- Puts a notice on a line of its own. -/
def pushNotice (log : Scrollback) (notice : String) : Scrollback :=
  let log := if log.pending.isEmpty then log else log.pushByte Device.newline
  log.pushLine notice

/-- Every line to be shown: the completed ones, and the incomplete one unless it is empty. -/
def lines (log : Scrollback) : List String :=
  if log.pending.isEmpty then log.completed else log.completed ++ [log.tail]

def size (log : Scrollback) : Nat := if log.pending.isEmpty then log.count else log.count + 1

def isEmpty (log : Scrollback) : Bool := log.size = 0

/-! What the operations do to the completed lines. -/

@[simp] theorem completed_dropOldest (log : Scrollback) :
    log.dropOldest.completed = log.completed.tail := by
  obtain ⟨front, back, count, pending⟩ := log
  cases front <;> simp [dropOldest, completed]

theorem completed_pushLine (log : Scrollback) (line : String) :
    (log.pushLine line).completed =
      (if log.count = limit then log.completed.tail else log.completed) ++ [line] := by
  have hpush : ∀ log : Scrollback, completed { log with
      back := line :: log.back, count := log.count + 1 } = log.completed ++ [line] := by
    simp [completed]
  by_cases h : log.count = limit
  · simp only [pushLine, h, if_true, hpush, completed_dropOldest]
  · simp only [pushLine, h, if_false, hpush]

/-- Bytes may arrive in pieces. -/
@[simp] theorem pushBytes_append (log : Scrollback) (a b : List UInt8) :
    log.pushBytes (a ++ b) = (log.pushBytes a).pushBytes b := by simp [pushBytes]

example : (({} : Scrollback).pushBytes [72,105,10,72]).lines = ["Hi", "H"] := by decide +kernel

end Scrollback
end UniversalMachine
