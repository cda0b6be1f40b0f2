import Mathlib
import UniversalMachine.Machine.Run
import UniversalMachine.Proofs.Store

/-! The machine as its description has it: a function from registers to words, a finite map of arrays on
a host that refuses any sizes, bytes in and bytes out. Fields of a platter are given by their bits, and
arithmetic is that of the natural numbers, reduced modulo 2^32 when a register is set. -/
namespace UniversalMachine

structure AbstractMachine where
  registers : Register → UInt32
  store : Store
  pc : UInt32
  cycle : ℕ
  input : List UInt8
  inputClosed : Bool
  /-- The lines that the console has not given yet. -/
  script : List (List UInt8)
  /-- Whether the input ends after the script. -/
  scriptEnds : Bool
  output : List UInt8

namespace AbstractMachine

def ofProgram (refuses : UInt32 → Bool) (program : Array UInt32) (script : List (List UInt8))
    (scriptEnds : Bool) : AbstractMachine where
  registers _ := 0
  store := .ofProgram refuses program
  pc := 0
  cycle := 0
  input := []
  inputClosed := false
  script := script
  scriptEnds := scriptEnds
  output := []

def set (s : AbstractMachine) (r : Register) (value : UInt32) : AbstractMachine :=
  { s with registers := Function.update s.registers r value }

/-- The three bits of a platter from bit `low` on, which name a register. -/
def selector (word : UInt32) (low : ℕ) : Register := (word.toBitVec.extractLsb' low 3).toFin

/-- The operator stands in bits 31 to 28, the registers A, B and C in bits 8 to 6, 5 to 3 and 2 to 0.
Operator 13 has its register in bits 27 to 25 and its value in bits 24 to 0. -/
def decode (word : UInt32) : Except Fault (Instruction Register) :=
  let a := selector word 6
  let b := selector word 3
  let c := selector word 0
  match (word.toBitVec.extractLsb 31 28).toNat with
  | 0 => .ok (.conditionalMove a b c)
  | 1 => .ok (.arrayIndex a b c)
  | 2 => .ok (.arrayAmendment a b c)
  | 3 => .ok (.addition a b c)
  | 4 => .ok (.multiplication a b c)
  | 5 => .ok (.division a b c)
  | 6 => .ok (.notAnd a b c)
  | 7 => .ok .halt
  | 8 => .ok (.allocation b c)
  | 9 => .ok (.abandonment c)
  | 10 => .ok (.output c)
  | 11 => .ok (.input c)
  | 12 => .ok (.loadProgram b c)
  | 13 => .ok (.orthography (selector word 25) (.ofNat (word.toBitVec.extractLsb 24 0).toNat))
  | opcode => .error (.invalidOpcode (.ofNat opcode) word)

/-- Asks for a line if the input is used up and not closed. -/
def listen (s : AbstractMachine) : AbstractMachine :=
  if s.input = [] ∧ ¬ s.inputClosed then
    match s.script with
    | line::script => { s with input := line, script }
    | [] => { s with inputClosed := s.scriptEnds }
  else s

/-- Stores the next byte of the input in a register, and all ones at the end of the input. -/
def accept (s : AbstractMachine) (r : Register) : Machine.Step × AbstractMachine :=
  match s.input with
  | byte::input => (.next,{ s with input }.set r (.ofNat byte.toNat))
  | [] => if s.inputClosed then (.next,s.set r (.ofNat (2^32-1))) else (.suspended,s)

/-- Takes over the store as an operation leaves it, and does `f` with the result if there is one. -/
def conclude {α : Type} (s : AbstractMachine) (x : Except Fault α × Store)
    (f : α → AbstractMachine → AbstractMachine) : Machine.Step × AbstractMachine :=
  match x with
  | (.ok a, store) => (.next,f a { s with store })
  | (.error fault, store) => (.fault fault,{ s with store })

def perform (s : AbstractMachine) : Instruction Register → Machine.Step × AbstractMachine
  | .conditionalMove a b c => (.next,if s.registers c ≠ 0 then s.set a (s.registers b) else s)
  | .arrayIndex a b c =>
    s.conclude (s.store.read (s.registers b) (s.registers c),s.store) fun word s => s.set a word
  | .arrayAmendment a b c =>
    s.conclude (s.store.write (s.registers a) (s.registers b) (s.registers c)) fun _ s => s
  | .addition a b c => (.next,s.set a (.ofNat ((s.registers b).toNat + (s.registers c).toNat)))
  | .multiplication a b c => (.next,s.set a (.ofNat ((s.registers b).toNat * (s.registers c).toNat)))
  | .division a b c =>
    if s.registers c = 0 then (.fault .divisionByZero,s)
    else (.next,s.set a (.ofNat ((s.registers b).toNat / (s.registers c).toNat)))
  | .notAnd a b c =>
    (.next,s.set a (.ofNat (2^32-1 - ((s.registers b).toNat &&& (s.registers c).toNat))))
  | .halt => (.halted,s)
  | .allocation b c => s.conclude (s.store.allocate (s.registers c)) fun id s => s.set b id
  | .abandonment c => s.conclude (s.store.abandon (s.registers c)) fun _ s => s
  | .output c => (.next,{ s with output := s.output ++ [.ofNat ((s.registers c).toNat &&& 0xFF)] })
  | .input c => s.listen.accept c
  | .loadProgram b c =>
    s.conclude (s.store.loadProgram (s.registers b)) fun _ s' => { s' with pc := s.registers c }
  | .orthography a value => (.next,s.set a value)

def step (s : AbstractMachine) : Machine.Step × AbstractMachine :=
  match s.store.program[s.pc.toNat]? with
  | none => (.fault (.invalidProgramCounter s.pc s.store.program.size),s)
  | some word =>
    let s := { s with pc := s.pc+1 }
    match decode word with
    | .ok i => s.perform i
    | .error fault => (.fault fault,s)

def tick (s : AbstractMachine) : AbstractMachine := { s with cycle := s.cycle+1 }

/-- Executes at most as many instructions as given. -/
def run (s : AbstractMachine) : ℕ → Except Fault Machine.Outcome × AbstractMachine
  | 0 => (.ok .paused,s)
  | budget+1 =>
    match s.step with
    | (.next, s) => s.tick.run budget
    | (.halted, s) => (.ok .halted,s.tick)
    | (.suspended, s) => (.ok .awaitingInput,s)
    | (.fault fault, s) => (.error fault,s)

theorem selector_eq (word : UInt32) (low : ℕ) :
    selector word low = Instruction.register word (2^low) := by
  apply Fin.ext
  simp [selector, Instruction.register, Nat.shiftRight_eq_div_pow]

/-- The bits of a platter tell what its digits tell. -/
theorem decode_eq (word : UInt32) : decode word = Instruction.decode word := by
  have hop : (word.toBitVec.extractLsb 31 28).toNat = Instruction.opcodeOf word := by
    have hlt := word.toNat_lt
    rw [BitVec.extractLsb_toNat,UInt32.toNat_toBitVec,Nat.shiftRight_eq_div_pow]
    unfold Instruction.opcodeOf Instruction.operatorWeight
    omega
  have hvalue : (word.toBitVec.extractLsb 24 0).toNat = word.toNat % Instruction.valueLimit := by
    simp [Instruction.valueLimit]
  unfold decode Instruction.decode
  simp only [hop, hvalue, selector_eq]
  rfl

@[simp] theorem listen_cycle (s : AbstractMachine) : s.listen.cycle = s.cycle := by
  unfold listen
  split
  · split <;> rfl
  · rfl

@[simp] theorem accept_cycle (s : AbstractMachine) (r : Register) :
    (s.accept r).2.cycle = s.cycle := by
  unfold accept
  split
  · rfl
  · split <;> rfl

theorem conclude_cycle (s : AbstractMachine) {α : Type} (x : Except Fault α × Store)
    {f : α → AbstractMachine → AbstractMachine} (h : ∀ a s, (f a s).cycle = s.cycle) :
    (s.conclude x f).2.cycle = s.cycle := by
  rcases x with ⟨fault | a,store⟩
  · rfl
  · exact h a { s with store }

theorem perform_cycle (s : AbstractMachine) (i : Instruction Register) :
    (s.perform i).2.cycle = s.cycle := by
  cases i with
  | conditionalMove a b c =>
    simp only [perform]
    split <;> rfl
  | division a b c =>
    simp only [perform]
    split <;> rfl
  | input c => exact (s.listen.accept_cycle c).trans s.listen_cycle
  | arrayIndex => exact s.conclude_cycle _ fun _ _ => rfl
  | arrayAmendment => exact s.conclude_cycle _ fun _ _ => rfl
  | allocation => exact s.conclude_cycle _ fun _ _ => rfl
  | abandonment => exact s.conclude_cycle _ fun _ _ => rfl
  | loadProgram => exact s.conclude_cycle _ fun _ _ => rfl
  | _ => rfl

theorem step_cycle (s : AbstractMachine) : s.step.2.cycle = s.cycle := by
  unfold step
  split
  · rfl
  · dsimp only
    split
    · exact perform_cycle _ _
    · rfl

theorem run_cycle_le (s : AbstractMachine) (budget : ℕ) :
    (s.run budget).2.cycle ≤ s.cycle+budget := by
  induction budget generalizing s with
  | zero => exact le_rfl
  | succ budget ih =>
    unfold run
    rcases he : s.step with ⟨ending,s'⟩
    have hs : s'.cycle = s.cycle := by rw [← s.step_cycle,he]
    cases ending with
    | next =>
      have h := ih s'.tick
      simp only [tick] at h ⊢
      omega
    | halted =>
      simp only [tick]
      omega
    | suspended =>
      dsimp only
      omega
    | fault fault =>
      dsimp only
      omega

end AbstractMachine
end UniversalMachine
