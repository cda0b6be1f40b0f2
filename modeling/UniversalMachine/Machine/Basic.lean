import UniversalMachine.Console.Basic
import UniversalMachine.Heap

/-! The machine between two instructions. -/
namespace UniversalMachine

/-- What a machine does when it is run next. -/
inductive Machine.State where
  | ready
  /-- An input instruction was fetched and waits for a byte. -/
  | awaitingInput (register : Register)
  | halted
  | faulted (fault : Fault)
  deriving DecidableEq, Repr

structure Machine where
  registers : Registers
  heap : Heap
  pc : UInt32
  /-- The number of completed instructions. -/
  cycle : UInt64
  /-- Bytes that have arrived and are not consumed yet. -/
  input : List UInt8
  /-- No further bytes will arrive. -/
  inputClosed : Bool
  state : Machine.State
  /-- The platter fetched last. -/
  lastWord : Option UInt32

namespace Machine

/-- The machine about to execute the first platter of `program`. -/
def ofProgram (refuses : UInt32 → Bool) (program : Array UInt32) : Machine where
  registers := Vector.replicate 8 0
  heap := .ofProgram refuses program
  pc := 0
  cycle := 0
  input := []
  inputClosed := false
  state := .ready
  lastWord := none

def get (m : Machine) (r : Register) : UInt32 := m.registers[r]

def set (m : Machine) (r : Register) (value : UInt32) : Machine :=
  { m with registers := m.registers.set r value }

@[simp] theorem get_set (m : Machine) (r s : Register) (value : UInt32) :
    (m.set r value).get s = if s = r then value else m.get s := by
  by_cases h : s = r
  · subst h
    simp [get, set]
  · have hn : r.val ≠ s.val := fun hn => h (Fin.ext hn.symm)
    simp [get, set, h, Vector.getElem_set_ne _ _ hn]

def pushInput (m : Machine) (bytes : List UInt8) : Machine := { m with input := m.input ++ bytes }

def closeInput (m : Machine) : Machine := { m with inputClosed := true }

def snapshot (m : Machine) : Snapshot := ⟨m.registers,m.pc,m.cycle,m.lastWord⟩

def isHalted (m : Machine) : Bool := m.state = .halted

def isAwaitingInput (m : Machine) : Bool :=
  match m.state with
  | .awaitingInput _ => true
  | _ => false

/-- The platter that the program counter points at. -/
def fetch? (m : Machine) : Option UInt32 := m.heap.program[m.pc.toNat]?

/-- The instruction that the program counter points at, if it is one. -/
def nextInstruction? (m : Machine) : Option (Instruction Register) :=
  m.fetch?.bind fun word => (Instruction.decode word).toOption

end Machine
end UniversalMachine
