import UniversalMachine.Instruction.Codec

/-! The state of a machine as reported when it faults. -/
namespace UniversalMachine

/-- The values of the eight registers. -/
abbrev Registers := Vector UInt32 8

structure Snapshot where
  registers : Registers
  pc : UInt32
  cycle : UInt64
  lastWord : Option UInt32
  deriving DecidableEq, Repr

namespace Snapshot

/-- The operator of the platter fetched last. -/
def lastOpcode (snapshot : Snapshot) : Option Nat :=
  snapshot.lastWord.map Instruction.opcodeOf

/-- The report, a line for each item, without a newline at its end. -/
def text (snapshot : Snapshot) : String :=
  let registers := snapshot.registers.toList.zipIdx.map fun (value, i) =>
    s!"REG {i}: {value.toNat}"
  let last := match snapshot.lastWord, snapshot.lastOpcode with
    | some word, some opcode => "LAST INST CODE: " ++ Text.hex 8 word.toNat ++ s!" (op {opcode})"
    | _, _ => "LAST INST CODE: none"
  "\n".intercalate (["========== MACHINE STATE ==========="] ++ registers ++
    [s!"PC: {snapshot.pc.toNat}", s!"CYCLE: {snapshot.cycle.toNat}", last,
      "===================================="])

end Snapshot
end UniversalMachine
