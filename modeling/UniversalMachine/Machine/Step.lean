import UniversalMachine.Machine.Basic

/-! One instruction: fetch, decode, execute. -/
namespace UniversalMachine.Machine

/-- How an instruction ended. -/
inductive Step where
  | next
  | halted
  /-- It waits for input. -/
  | suspended
  | fault (fault : Fault)
  deriving DecidableEq, Repr

/-- What an input instruction stores once the input is used up. -/
def endOfInput : UInt32 := 0xFFFFFFFF

/-- Stores the next input byte, or the mark of its end, if either is there. -/
def takeInput? (m : Machine) (r : Register) : Option Machine :=
  match m.input with
  | byte :: input => some { m.set r byte.toUInt32 with input }
  | [] => if m.inputClosed then some (m.set r endOfInput) else none

/-- Takes in what the console answered to a request for a line. -/
def receive (m : Machine) : LineRead → Machine
  | .line bytes => m.pushInput bytes
  | .pending => m
  | .endOfInput => m.closeInput

variable {κ : Type} [Console κ]

/-- Asks the console for a line, if there is no input left and more may come. -/
def requestInput (m : Machine) (console : κ) : Machine × κ :=
  if m.input.isEmpty && !m.inputClosed then
    let (answer, console) := Console.readLine console
    (m.receive answer, console)
  else (m, console)

/-- Executes a decoded instruction. -/
def execute (m : Machine) (i : Instruction Register) (console : κ) : Step × Machine × κ :=
  match i with
  | .conditionalMove a b c => (.next, if m.get c = 0 then m else m.set a (m.get b), console)
  | .arrayIndex a b c =>
    match m.heap.read (m.get b) (m.get c) with
    | .ok word => (.next, m.set a word, console)
    | .error fault => (.fault fault, m, console)
  | .arrayAmendment a b c =>
    match m.heap.write (m.get a) (m.get b) (m.get c) with
    | (.ok _, heap) => (.next, { m with heap }, console)
    | (.error fault, heap) => (.fault fault, { m with heap }, console)
  | .addition a b c => (.next, m.set a (m.get b + m.get c), console)
  | .multiplication a b c => (.next, m.set a (m.get b * m.get c), console)
  | .division a b c =>
    if m.get c = 0 then (.fault .divisionByZero, m, console)
    else (.next, m.set a (m.get b / m.get c), console)
  | .notAnd a b c => (.next, m.set a (~~~(m.get b &&& m.get c)), console)
  | .halt =>
    match Console.announceHalt console with
    | (.ok _, console) => (.halted, { m with state := .halted }, console)
    | (.error error, console) => (.fault (.outputFailed error.kind), m, console)
  | .allocation b c =>
    match m.heap.allocate (m.get c) with
    | (.ok id, heap) => (.next, { m with heap }.set b id, console)
    | (.error fault, heap) => (.fault fault, { m with heap }, console)
  | .abandonment c =>
    match m.heap.abandon (m.get c) with
    | (.ok _, heap) => (.next, { m with heap }, console)
    | (.error fault, heap) => (.fault fault, { m with heap }, console)
  | .output c =>
    match Console.writeByte console (m.get c).toUInt8 with
    | (.ok _, console) => (.next, m, console)
    | (.error error, console) => (.fault (.outputFailed error.kind), m, console)
  | .input c =>
    let (m, console) := m.requestInput console
    match m.takeInput? c with
    | some m => (.next, m, console)
    | none => (.suspended, { m with state := .awaitingInput c }, console)
  | .loadProgram b c =>
    match m.heap.loadProgram (m.get b) with
    | (.ok _, heap) => (.next, { m with heap, pc := m.get c }, console)
    | (.error fault, heap) => (.fault fault, { m with heap }, console)
  | .orthography a value => (.next, m.set a value, console)

/-- Fetches, decodes and executes one instruction. The program counter moves on before the
platter is decoded, and stays where it is if it points at none. -/
def step (m : Machine) (console : κ) : Step × Machine × κ :=
  match m.fetch? with
  | none => (.fault (.invalidProgramCounter m.pc m.heap.program.size), m, console)
  | some word =>
    let m := { m with pc := m.pc + 1, lastWord := some word }
    match Instruction.decode word with
    | .ok i => m.execute i console
    | .error fault => (.fault fault, m, console)

end UniversalMachine.Machine
