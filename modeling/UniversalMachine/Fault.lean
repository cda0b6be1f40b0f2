import UniversalMachine.Device.Error
import UniversalMachine.Text.Hex

/-! The faults that stop a machine. -/
namespace UniversalMachine

/-- Why a machine cannot go on. -/
inductive Fault where
  | invalidOpcode (opcode word : UInt32)
  | invalidProgramCounter (pc : UInt32) (size : Nat)
  | invalidArrayIndex (id : UInt32)
  | invalidOffset (id offset : UInt32) (size : Nat)
  | divisionByZero
  | doubleFree (id : UInt32)
  | invalidProgramArray (id : UInt32)
  | allocationFailed (size : UInt32)
  | outputFailed (kind : Device.Kind)
  deriving DecidableEq, Repr

namespace Fault

/-- The name of the kind of fault. -/
def kind : Fault → String
  | .invalidOpcode .. => "InvalidOpcode"
  | .invalidProgramCounter .. => "InvalidProgramCounter"
  | .invalidArrayIndex .. => "InvalidArrayIndex"
  | .invalidOffset .. => "InvalidOffset"
  | .divisionByZero => "DivisionByZero"
  | .doubleFree .. => "DoubleFree"
  | .invalidProgramArray .. => "InvalidProgramArray"
  | .allocationFailed .. => "AllocationFailed"
  | .outputFailed .. => "OutputFailed"

def message : Fault → String
  | .invalidOpcode opcode word =>
    s!"Invalid opcode {opcode.toNat} in instruction 0x" ++ Text.hex 8 word.toNat
  | .invalidProgramCounter pc size =>
    s!"Invalid program counter {pc.toNat}: program array holds {size} platters"
  | .invalidArrayIndex id => s!"Invalid array index: {id.toNat} is not an allocated array"
  | .invalidOffset id offset size =>
    s!"Invalid offset {offset.toNat} in array {id.toNat} of size {size}"
  | .divisionByZero => "Division by zero"
  | .doubleFree id => s!"Can't free unallocated array {id.toNat}"
  | .invalidProgramArray id => s!"Invalid program array: {id.toNat}"
  | .allocationFailed size => s!"Cannot allocate an array of {size.toNat} platters"
  | .outputFailed kind => s!"Output failed: {kind.text}"

end Fault
end UniversalMachine
