import UniversalMachine.Image
import UniversalMachine.Machine.Run
import UniversalMachine.Session.Event

/-! A machine in the care of a host. The host sends requests, lets the machine run for a while,
and collects the events. -/
namespace UniversalMachine

inductive Request where
  | loadProgram (image : List UInt8)
  | readLineDone (line : List UInt8)
  | endOfInput
  deriving DecidableEq, Repr

inductive Session.Error where
  | noProgram
  | load (error : LoadError)
  | unknownSession (id : Nat)
  deriving DecidableEq, Repr

def Session.Error.message : Session.Error → String
  | .noProgram => "No program loaded"
  | .load error => error.message
  | .unknownSession id => s!"Unknown session {id}"

inductive Session.Status where
  | idle
  | running
  | awaitingInput
  | halted
  | faulted
  deriving DecidableEq, Repr

def Session.Status.name : Session.Status → String
  | .idle => "Idle"
  | .running => "Running"
  | .awaitingInput => "AwaitingInput"
  | .halted => "Halted"
  | .faulted => "Faulted"

structure Session where
  /-- The sizes of which the host has no memory for an array. -/
  refuses : UInt32 → Bool
  machine : Option Machine := none
  queue : EventQueue := {}

namespace Session

/-- The status of a machine in a given state. -/
def Status.ofState : Machine.State → Status
  | .ready => .running
  | .awaitingInput _ => .awaitingInput
  | .halted => .halted
  | .faulted _ => .faulted

def status (session : Session) : Status :=
  match session.machine with
  | none => .idle
  | some m => .ofState m.state

/-- Applies a request. Loading replaces the program, and its machine with it. -/
def handle (session : Session) : Request → Except Error Unit × Session
  | .loadProgram image =>
    match Image.decode image with
    | .error error => (.error (.load error), session)
    | .ok program =>
      (.ok (),
        { session with
          machine := some (.ofProgram session.refuses program)
          queue := { session.queue with report := none }.push (.programLoaded program.size) })
  | .readLineDone line =>
    match session.machine with
    | none => (.error .noProgram, session)
    | some m => (.ok (), { session with machine := some (m.pushInput line) })
  | .endOfInput =>
    match session.machine with
    | none => (.error .noProgram, session)
    | some m => (.ok (), { session with machine := some m.closeInput })

/-- The session after a run of its machine. A fault becomes an event with the state reported. -/
def settle (refuses : UInt32 → Bool) (run : Machine.Run EventQueue) : Status × Session :=
  let queue := run.console
  match run.result with
  | .ok .paused => (.running, ⟨refuses,some run.machine,queue⟩)
  | .ok .awaitingInput => (.awaitingInput, ⟨refuses,some run.machine,queue⟩)
  | .ok .halted => (.halted, ⟨refuses,some run.machine,queue⟩)
  | .error fault =>
    let event := .fault fault (queue.report.getD run.machine.snapshot)
    (.faulted, ⟨refuses,some run.machine,{ queue with report := none }.push event⟩)

/-- Runs the machine for at most `budget` instructions. A machine that has faulted is left alone. -/
def pump (session : Session) (budget : Nat) : Status × Session :=
  match session with
  | ⟨refuses,none,queue⟩ => (.idle, ⟨refuses,none,queue⟩)
  | ⟨refuses,some m,queue⟩ =>
    match m.state with
    | .faulted _ => (.faulted, ⟨refuses,some m,queue⟩)
    | _ => settle refuses (m.runFor budget queue)

/-- Runs the machine until it stops by itself; `none` if it needs more than `fuel` instructions. -/
def pumpUntilStop? (session : Session) (fuel : Nat) : Option (Status × Session) :=
  match session with
  | ⟨refuses,none,queue⟩ => some (.idle, ⟨refuses,none,queue⟩)
  | ⟨refuses,some m,queue⟩ =>
    match m.state with
    | .faulted _ => some (.faulted, ⟨refuses,some m,queue⟩)
    | _ => (m.run? fuel queue).map (settle refuses)

/-- Takes the events since the last drain. -/
def drain (session : Session) : List Event × Session :=
  (session.queue.events, { session with queue := { session.queue with newest := [] } })

/-- A new session that has taken an image holds its program, and has one event to tell. -/
theorem handle_loadProgram_iff {refuses : UInt32 → Bool} {image : List UInt8} {session : Session} :
    handle { refuses } (.loadProgram image) = (.ok (), session) ↔
      ∃ program, Image.decode image = .ok program ∧
        session = ⟨refuses,some (.ofProgram refuses program),⟨[.programLoaded program.size],none⟩⟩ := by
  simp only [handle]
  cases Image.decode image with
  | error error => simp
  | ok program =>
    simp only [Prod.mk.injEq, Except.ok.injEq, true_and, exists_eq_left']
    exact eq_comm

/-- A program that writes a byte, reads one and halts stops at the read. -/
example (refuses : UInt32 → Bool) :
    let m := Machine.ofProgram refuses #[0xd0000048,0xa0000000,0xb0000000,0x70000000]
    (Session.pump ⟨refuses,some m,{}⟩ 9).2.drain.1 = [.print #[72], .readLine] := by cbv

end Session
end UniversalMachine
