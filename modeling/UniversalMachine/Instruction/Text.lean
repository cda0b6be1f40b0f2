import UniversalMachine.Instruction.Basic

/-! The written forms of an instruction. -/
namespace UniversalMachine.Instruction

variable {ρ : Type}

def mnemonic : Instruction ρ → String
  | conditionalMove .. => "cmov"
  | arrayIndex .. => "index"
  | arrayAmendment .. => "amend"
  | addition .. => "add"
  | multiplication .. => "mul"
  | division .. => "div"
  | notAnd .. => "nand"
  | halt => "halt"
  | allocation .. => "alloc"
  | abandonment .. => "free"
  | output .. => "out"
  | input .. => "in"
  | loadProgram .. => "load"
  | orthography .. => "ortho"

/-- The register operands with their labels, in order. -/
def operands : Instruction ρ → List (String × ρ)
  | conditionalMove a b c | arrayIndex a b c | arrayAmendment a b c | addition a b c
  | multiplication a b c | division a b c | notAnd a b c => [("a",a), ("b",b), ("c",c)]
  | halt => []
  | allocation b c | loadProgram b c => [("b",b), ("c",c)]
  | abandonment c | output c | input c => [("c",c)]
  | orthography a _ => [("a",a)]

/-- The number that an orthography holds. -/
def value? : Instruction ρ → Option UInt32
  | orthography _ value => some value
  | _ => none

/-- One line of assembly: the mnemonic and its operands, as in `add r1, r2, r3`. -/
def text (i : Instruction Nat) : String :=
  let fields := i.operands.map (fun (_, r) => s!"r{r}") ++
    i.value?.toList.map (fun value => toString value.toNat)
  if fields.isEmpty then i.mnemonic else i.mnemonic ++ " " ++ ", ".intercalate fields

example : text (addition 1 2 3) = "add r1, r2, r3" := by decide +kernel
example : text (orthography 3 72) = "ortho r3, 72" := by decide +kernel
example : text halt = "halt" := by decide +kernel

end UniversalMachine.Instruction
