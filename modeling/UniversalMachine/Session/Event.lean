import UniversalMachine.Console.Basic

/-! What a session tells its host, and the console that collects it. -/
namespace UniversalMachine

inductive Event where
  | programLoaded (platters : Nat)
  /-- Bytes that the program wrote without a pause. -/
  | print (bytes : Array UInt8)
  /-- The program waits for a line. -/
  | readLine
  | halted
  | fault (fault : Fault) (snapshot : Snapshot)
  deriving DecidableEq, Repr

/-- The events not yet taken by the host, the newest first, and the report of a fault that has
not become an event yet. -/
structure EventQueue where
  newest : List Event := []
  report : Option Snapshot := none
  deriving Repr

namespace EventQueue

def push (queue : EventQueue) (event : Event) : EventQueue :=
  { queue with newest := event :: queue.newest }

/-- The events in the order in which they happened. -/
def events (queue : EventQueue) : List Event := queue.newest.reverse

@[simp] theorem events_push (queue : EventQueue) (event : Event) :
    (queue.push event).events = queue.events ++ [event] := by simp [events, push]

/-- A byte joins the bytes written just before it. -/
def print (queue : EventQueue) (byte : UInt8) : EventQueue :=
  match queue with
  | ⟨.print bytes :: older,report⟩ => ⟨.print (bytes.push byte) :: older,report⟩
  | ⟨newest,report⟩ => ⟨.print #[byte] :: newest,report⟩

instance : Console EventQueue where
  readLine queue := (.pending, queue.push .readLine)
  writeByte queue byte := (.ok (), queue.print byte)
  announceHalt queue := (.ok (), queue.push .halted)
  reportFault queue snapshot := { queue with report := some snapshot }

end EventQueue
end UniversalMachine
