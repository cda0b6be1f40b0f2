import UniversalMachine.Console.Stream
import UniversalMachine.Machine.Run

/-! Running a program on streams until it halts or fails. The run is cut into slices, so that
output without a newline shows up while the program computes. -/
namespace UniversalMachine.Headless

/-- The number of instructions between two flushes. -/
def slice : Nat := 200000

inductive Ending where
  | halted
  | faulted (fault : Fault)
  /-- A flush between two slices failed. -/
  | outputFailed (error : Device.Error)
  /-- The machine came back for another reason. -/
  | stranded (outcome : Machine.Outcome)
  deriving DecidableEq, Repr

def Ending.exitCode : Ending → Nat
  | .halted => 0
  | _ => 1

/-- What is said about an ending. -/
def Ending.message : Ending → String
  | .halted => ""
  | .faulted fault => s!"Runtime error: {fault.message}\n"
  | .outputFailed error => s!"Output error: {error.text}\n"
  | .stranded outcome => s!"Machine stopped without halting: {outcome.name}\n"

structure Result (σ : Type) where
  ending : Ending
  machine : Machine
  console : StreamConsole σ

variable {σ : Type} [Device.Sink σ]

/-- What a slice leads to. -/
inductive Turn (σ : Type) where
  | ended (result : Result σ)
  | goesOn (machine : Machine) (console : StreamConsole σ)

/-- Runs one slice, and flushes if there is another to come. -/
def turn (m : Machine) (console : StreamConsole σ) : Turn σ :=
  let r := m.runFor slice console
  match r.result with
  | .ok .paused =>
    match r.console.flush with
    | (.ok _, console) => .goesOn r.machine console
    | (.error error, console) => .ended ⟨.outputFailed error,r.machine,console⟩
  | .ok .halted => .ended ⟨.halted,r.machine,r.console⟩
  | .ok outcome => .ended ⟨.stranded outcome,r.machine,r.console⟩
  | .error fault => .ended ⟨.faulted fault,r.machine,r.console⟩

/-- Runs slice after slice; `none` if more than `fuel` slices are needed. -/
def run? (m : Machine) (console : StreamConsole σ) : (fuel : Nat) → Option (Result σ)
  | 0 => none
  | fuel + 1 =>
    match turn m console with
    | .ended result => some result
    | .goesOn m console => run? m console fuel

end UniversalMachine.Headless
