import UniversalMachine.Machine.Step

/-! Running a machine until it halts, faults or waits for input, or until a budget of
instructions is spent. A halt and a fault are final: later runs answer the same again. -/
namespace UniversalMachine.Machine

/-- Why a run came back without a fault. -/
inductive Outcome where
  | halted
  | awaitingInput
  | paused
  deriving DecidableEq, Repr

def Outcome.name : Outcome → String
  | .halted => "Halted"
  | .awaitingInput => "AwaitingInput"
  | .paused => "Paused"

/-- A run that came back: its result, and the machine and the console as it left them. -/
structure Run (κ : Type) where
  result : Except Fault Outcome
  machine : Machine
  console : κ

/-- What a run finds at its start. -/
inductive Entry where
  /-- There is nothing to execute. -/
  | done (result : Except Fault Outcome)
  /-- Instructions can be fetched. -/
  | ready (m : Machine)

/-- Completes a suspended input instruction, if its byte has arrived. This instruction was fetched
by an earlier run and counts in no budget. -/
def enter (m : Machine) : Entry :=
  match m.state with
  | .ready => .ready m
  | .halted => .done (.ok .halted)
  | .faulted fault => .done (.error fault)
  | .awaitingInput r =>
    match m.takeInput? r with
    | none => .done (.ok .awaitingInput)
    | some m => .ready { m with state := .ready, cycle := m.cycle + 1 }

variable {κ : Type} [Console κ]

/-- Ends a run with a fault, which the console hears about. -/
def stop (m : Machine) (fault : Fault) (console : κ) : Run κ where
  result := .error fault
  machine := { m with state := .faulted fault }
  console := Console.reportFault console m.snapshot

def tick (m : Machine) : Machine := { m with cycle := m.cycle + 1 }

/-- Executes at most `budget` instructions. -/
def advance (m : Machine) (budget : Nat) (console : κ) : Run κ :=
  match budget with
  | 0 => ⟨.ok .paused,m,console⟩
  | budget + 1 =>
    match m.step console with
    | (.next, m, console) => m.tick.advance budget console
    | (.halted, m, console) => ⟨.ok .halted,m.tick,console⟩
    | (.suspended, m, console) => ⟨.ok .awaitingInput,m,console⟩
    | (.fault fault, m, console) => m.stop fault console

/-- Runs for at most `budget` instructions. -/
def runFor (m : Machine) (budget : Nat) (console : κ) : Run κ :=
  match m.enter with
  | .done result => ⟨result,m,console⟩
  | .ready m => m.advance budget console

/-- Executes instructions until one of them ends the run; `none` if more than `fuel` of them are
needed. -/
def exhaust? (m : Machine) (fuel : Nat) (console : κ) : Option (Run κ) :=
  match fuel with
  | 0 => none
  | fuel + 1 =>
    match m.step console with
    | (.next, m, console) => m.tick.exhaust? fuel console
    | (.halted, m, console) => some ⟨.ok .halted,m.tick,console⟩
    | (.suspended, m, console) => some ⟨.ok .awaitingInput,m,console⟩
    | (.fault fault, m, console) => some (m.stop fault console)

/-- Runs without a budget. The fuel only bounds the computation: every run that ends has the same
answer for all fuels that suffice. -/
def run? (m : Machine) (fuel : Nat) (console : κ) : Option (Run κ) :=
  match m.enter with
  | .done result => some ⟨result,m,console⟩
  | .ready m => m.exhaust? fuel console

end UniversalMachine.Machine
