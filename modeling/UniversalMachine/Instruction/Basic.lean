import UniversalMachine.Fault

/-! The fourteen instructions, over any type of register operand. Decoded platters name one of
the eight registers; an instruction written by hand may name any number. -/
namespace UniversalMachine

/-- One of the eight registers. -/
abbrev Register := Fin 8

inductive Instruction (ρ : Type) where
  | conditionalMove (a b c : ρ)
  | arrayIndex (a b c : ρ)
  | arrayAmendment (a b c : ρ)
  | addition (a b c : ρ)
  | multiplication (a b c : ρ)
  | division (a b c : ρ)
  | notAnd (a b c : ρ)
  | halt
  | allocation (b c : ρ)
  | abandonment (c : ρ)
  | output (c : ρ)
  | input (c : ρ)
  | loadProgram (b c : ρ)
  | orthography (a : ρ) (value : UInt32)
  deriving DecidableEq, Repr

namespace Instruction

variable {ρ τ : Type}

/-- The same instruction with every register operand replaced. -/
def map (f : ρ → τ) : Instruction ρ → Instruction τ
  | conditionalMove a b c => conditionalMove (f a) (f b) (f c)
  | arrayIndex a b c => arrayIndex (f a) (f b) (f c)
  | arrayAmendment a b c => arrayAmendment (f a) (f b) (f c)
  | addition a b c => addition (f a) (f b) (f c)
  | multiplication a b c => multiplication (f a) (f b) (f c)
  | division a b c => division (f a) (f b) (f c)
  | notAnd a b c => notAnd (f a) (f b) (f c)
  | halt => halt
  | allocation b c => allocation (f b) (f c)
  | abandonment c => abandonment (f c)
  | output c => output (f c)
  | input c => input (f c)
  | loadProgram b c => loadProgram (f b) (f c)
  | orthography a value => orthography (f a) value

@[simp] theorem map_id (i : Instruction ρ) : i.map id = i := by cases i <;> rfl

@[simp] theorem map_map {υ : Type} (f : ρ → τ) (g : τ → υ) (i : Instruction ρ) :
    (i.map f).map g = i.map (g ∘ f) := by cases i <;> rfl

/-- The number of the operator. -/
def opcode : Instruction ρ → Nat
  | conditionalMove .. => 0
  | arrayIndex .. => 1
  | arrayAmendment .. => 2
  | addition .. => 3
  | multiplication .. => 4
  | division .. => 5
  | notAnd .. => 6
  | halt => 7
  | allocation .. => 8
  | abandonment .. => 9
  | output .. => 10
  | input .. => 11
  | loadProgram .. => 12
  | orthography .. => 13

@[simp] theorem opcode_map (f : ρ → τ) (i : Instruction ρ) : (i.map f).opcode = i.opcode := by
  cases i <;> rfl

theorem opcode_lt (i : Instruction ρ) : i.opcode < 14 := by cases i <;> simp [opcode]

end Instruction
end UniversalMachine
