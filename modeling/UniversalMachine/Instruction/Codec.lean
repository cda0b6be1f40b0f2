import UniversalMachine.Instruction.Basic

/-! Instructions as platters. The operator stands in the top four bits. Orthography holds its
register below them and a value in the low 25 bits; every other operator holds A, B and C in the
low nine bits. -/
namespace UniversalMachine.Instruction

/-- The weight of the operator in a platter: 28 bits stand below it. -/
def operatorWeight : Nat := 0x10000000

/-- The values of an orthography are below this, 25 bits long. -/
def valueLimit : Nat := 0x2000000

/-- The number of the operator in a platter. -/
def opcodeOf (word : UInt32) : Nat := word.toNat / operatorWeight

/-- The platter of an operator and its three registers, each taken modulo eight. -/
def operate (opcode a b c : Nat) : UInt32 :=
  .ofNat (opcode * operatorWeight + a % 8 * 64 + b % 8 * 8 + c % 8)

/-- The platter of an instruction. Operands it does not have are zero bits. -/
def encode (i : Instruction Nat) : UInt32 :=
  match i with
  | conditionalMove a b c | arrayIndex a b c | arrayAmendment a b c | addition a b c
  | multiplication a b c | division a b c | notAnd a b c => operate i.opcode a b c
  | halt => operate i.opcode 0 0 0
  | allocation b c | loadProgram b c => operate i.opcode 0 b c
  | abandonment c | output c | input c => operate i.opcode 0 0 c
  | orthography a value =>
    .ofNat (i.opcode * operatorWeight + a % 8 * valueLimit + value.toNat % valueLimit)

/-- The register in three bits of `word`, the lowest of which has the weight given. -/
def register (word : UInt32) (weight : Nat) : Register := Fin.ofNat 8 (word.toNat / weight)

/-- The instruction of a platter; the operators 14 and 15 do not exist. -/
def decode (word : UInt32) : Except Fault (Instruction Register) :=
  let a := register word 64
  let b := register word 8
  let c := register word 1
  match opcodeOf word with
  | 0 => .ok (conditionalMove a b c)
  | 1 => .ok (arrayIndex a b c)
  | 2 => .ok (arrayAmendment a b c)
  | 3 => .ok (addition a b c)
  | 4 => .ok (multiplication a b c)
  | 5 => .ok (division a b c)
  | 6 => .ok (notAnd a b c)
  | 7 => .ok halt
  | 8 => .ok (allocation b c)
  | 9 => .ok (abandonment c)
  | 10 => .ok (output c)
  | 11 => .ok (input c)
  | 12 => .ok (loadProgram b c)
  | 13 => .ok (orthography (register word valueLimit) (.ofNat (word.toNat % valueLimit)))
  | opcode => .error (.invalidOpcode (.ofNat opcode) word)

example : encode (addition 1 2 3) = 0x30000053 := by decide
example : decode 0xd6000048 = .ok (orthography 3 72) := rfl
example : decode 0xe0000000 = .error (.invalidOpcode 14 0xe0000000) := rfl

end UniversalMachine.Instruction
