import Mathlib
import UniversalMachine.Console.Scripted
import UniversalMachine.Proofs.AbstractMachine
import UniversalMachine.Proofs.Slicing

/-! Runs on a scripted console are runs of the abstract machine. Each instruction keeps the two in
step, whichever registers it names, whatever it did to the program array and however the heap came to
hold the arrays it holds. -/
namespace UniversalMachine.Machine

structure Refines (m : Machine) (console : ScriptedConsole) (s : AbstractMachine) : Prop where
  registers : ∀ r, m.get r = s.registers r
  store : m.heap.Represents s.store
  pc : m.pc = s.pc
  cycle : m.cycle = .ofNat s.cycle
  input : m.input = s.input
  inputClosed : m.inputClosed = s.inputClosed
  script : console.lines = s.script
  scriptEnds : console.endOfInput = s.scriptEnds
  output : console.output.toList = s.output

theorem ofProgram_refines (refuses : UInt32 → Bool) (program : Array UInt32)
    (lines : List (List UInt8)) (endOfInput : Bool) :
    (ofProgram refuses program).Refines { lines, endOfInput }
      (.ofProgram refuses program lines endOfInput) where
  registers r := by simp [get, ofProgram, AbstractMachine.ofProgram]
  store := Heap.ofProgram_represents refuses program
  pc := rfl
  cycle := rfl
  input := rfl
  inputClosed := rfl
  script := rfl
  scriptEnds := rfl
  output := rfl

/-- Two steps end in the same way and leave states that are in step. -/
structure StepRefines (x : Step × Machine × ScriptedConsole) (y : Step × AbstractMachine) : Prop where
  ending : x.1 = y.1
  state : x.2.1.Refines x.2.2 y.2

/-- The end of an instruction that can fail. -/
def conclude {α : Type} (m : Machine) (console : ScriptedConsole) (x : Except Fault α × Heap)
    (f : α → Machine → Machine) : Step × Machine × ScriptedConsole :=
  match x with
  | (.ok a, heap) => (.next,f a { m with heap },console)
  | (.error fault, heap) => (.fault fault,{ m with heap },console)

section Conclude
variable (m : Machine) (a b c : Register) (console : ScriptedConsole)

theorem execute_arrayIndex : m.execute (.arrayIndex a b c) console =
    m.conclude console (m.heap.read (m.get b) (m.get c),m.heap) fun word m => m.set a word := by
  simp only [execute, conclude]
  cases m.heap.read (m.get b) (m.get c) <;> rfl

theorem execute_arrayAmendment : m.execute (.arrayAmendment a b c) console =
    m.conclude console (m.heap.write (m.get a) (m.get b) (m.get c)) fun _ m => m := by
  simp only [execute, conclude]
  rcases m.heap.write (m.get a) (m.get b) (m.get c) with ⟨_ | _,_⟩ <;> rfl

theorem execute_allocation : m.execute (.allocation b c) console =
    m.conclude console (m.heap.allocate (m.get c)) fun id m => m.set b id := by
  simp only [execute, conclude]
  rcases m.heap.allocate (m.get c) with ⟨_ | _,_⟩ <;> rfl

theorem execute_abandonment : m.execute (.abandonment c) console =
    m.conclude console (m.heap.abandon (m.get c)) fun _ m => m := by
  simp only [execute, conclude]
  rcases m.heap.abandon (m.get c) with ⟨_ | _,_⟩ <;> rfl

theorem execute_loadProgram : m.execute (.loadProgram b c) console =
    m.conclude console (m.heap.loadProgram (m.get b)) fun _ m' => { m' with pc := m.get c } := by
  simp only [execute, conclude]
  rcases m.heap.loadProgram (m.get b) with ⟨_ | _,_⟩ <;> rfl

end Conclude

namespace Refines

variable {m : Machine} {console : ScriptedConsole} {s : AbstractMachine} (h : m.Refines console s)
include h

theorem set (r : Register) (value : UInt32) : (m.set r value).Refines console (s.set r value) :=
  { h with
    registers other := by
      rw [get_set,h.registers]
      simp [AbstractMachine.set, Function.update_apply] }

theorem tick : m.tick.Refines console s.tick :=
  { h with
    cycle := by
      simp only [Machine.tick, AbstractMachine.tick]
      rw [h.cycle,UInt64.ofNat_add]
      rfl }

theorem conclude {α : Type} {x : Except Fault α × Heap} {y : Except Fault α × Store}
    {f : α → Machine → Machine} {g : α → AbstractMachine → AbstractMachine}
    (hxy : Heap.Agree x y)
    (hfg : ∀ a {m s}, Refines m console s → (f a m).Refines console (g a s)) :
    StepRefines (m.conclude console x f) (s.conclude y g) := by
  obtain ⟨result,heap⟩ := x
  obtain ⟨result',store⟩ := y
  obtain ⟨hresult,hstore⟩ := hxy
  dsimp only at hresult hstore
  subst hresult
  have hr : { m with heap }.Refines console { s with store } := { h with store := hstore }
  cases result with
  | error fault => exact ⟨rfl,hr⟩
  | ok a => exact ⟨rfl,hfg a hr⟩

theorem compute (a : Register) {x y : UInt32} (hxy : x = y) :
    StepRefines (.next,m.set a x,console) (.next,s.set a y) := by
  subst hxy
  exact ⟨rfl,h.set a x⟩

theorem requestInput :
    (m.requestInput console).1.Refines (m.requestInput console).2 s.listen := by
  unfold Machine.requestInput AbstractMachine.listen
  by_cases ha : s.input = [] ∧ ¬ s.inputClosed
  · have hm : m.input.isEmpty && !m.inputClosed := by simp [h.input, h.inputClosed, ha]
    rw [if_pos hm,if_pos ha]
    change (m.receive console.readLine.1).Refines console.readLine.2 _
    unfold ScriptedConsole.readLine
    dsimp only
    rw [h.script]
    cases s.script with
    | cons line script =>
      exact { h with
        input := by simp [receive, pushInput, h.input, ha.1]
        script := rfl }
    | nil =>
      cases he : s.scriptEnds with
      | true =>
        rw [h.scriptEnds.trans he]
        exact { h with
          inputClosed := rfl
          script := rfl
          scriptEnds := rfl }
      | false =>
        rw [h.scriptEnds.trans he]
        exact { h with
          inputClosed := by simpa [receive, h.inputClosed] using ha.2
          script := rfl
          scriptEnds := rfl }
  · have hm : ¬ (m.input.isEmpty && !m.inputClosed) := by
      simpa [h.input, h.inputClosed] using ha
    rw [if_neg hm,if_neg ha]
    exact h

theorem takeInput (c : Register) :
    StepRefines
      (match m.takeInput? c with
        | some m => (.next,m,console)
        | none => (.suspended,{ m with state := .awaitingInput c },console))
      (s.accept c) := by
  unfold AbstractMachine.accept
  cases hi : s.input with
  | cons byte input =>
    rw [takeInput?_of_cons c (h.input.trans hi)]
    have hb : { m with input }.Refines console { s with input } := { h with input := rfl }
    exact hb.compute c (by simp)
  | nil =>
    cases hc : s.inputClosed with
    | true =>
      rw [takeInput?_of_closed c (h.input.trans hi) (h.inputClosed.trans hc)]
      exact h.compute c rfl
    | false =>
      rw [takeInput?_eq_none_iff.mpr ⟨h.input.trans hi,h.inputClosed.trans hc⟩]
      exact ⟨rfl,{ h with }⟩

theorem execute (i : Instruction Register) :
    StepRefines (m.execute i console) (s.perform i) := by
  cases i with
  | conditionalMove a b c =>
    refine ⟨rfl,?_⟩
    simp only [Machine.execute, AbstractMachine.perform, h.registers, ne_eq, ite_not]
    split
    · exact h
    · exact h.set a _
  | arrayIndex a b c =>
    rw [execute_arrayIndex,h.registers,h.registers,h.store.read_eq]
    exact h.conclude ⟨rfl,h.store⟩ fun word _ _ hr => hr.set a word
  | arrayAmendment a b c =>
    rw [execute_arrayAmendment,h.registers,h.registers,h.registers]
    exact h.conclude (h.store.write _ _ _) fun _ _ _ hr => hr
  | addition a b c =>
    refine h.compute a ?_
    rw [h.registers,h.registers,UInt32.ofNat_add,UInt32.ofNat_toNat,UInt32.ofNat_toNat]
  | multiplication a b c =>
    refine h.compute a ?_
    rw [h.registers,h.registers,UInt32.ofNat_mul,UInt32.ofNat_toNat,UInt32.ofNat_toNat]
  | division a b c =>
    simp only [Machine.execute, AbstractMachine.perform, h.registers]
    split
    · exact ⟨rfl,h⟩
    · refine h.compute a ?_
      rw [← UInt32.toNat_div,UInt32.ofNat_toNat]
  | notAnd a b c =>
    refine h.compute a ?_
    have hlt : 2^32-1 - (s.registers b &&& s.registers c).toNat < UInt32.size := by
      unfold UInt32.size
      omega
    apply UInt32.toNat_inj.mp
    rw [h.registers,h.registers,← UInt32.toNat_and,UInt32.toNat_not,UInt32.toNat_ofNat_of_lt' hlt]
    rfl
  | halt => exact ⟨rfl,{ h with }⟩
  | allocation b c =>
    rw [execute_allocation,h.registers]
    exact h.conclude (h.store.allocate _) fun id _ _ hr => hr.set b id
  | abandonment c =>
    rw [execute_abandonment,h.registers]
    exact h.conclude (h.store.abandon _) fun _ _ _ hr => hr
  | output c =>
    refine ⟨rfl,{ h with output := ?_ }⟩
    change (console.output.push _).toList = _
    have hb : (s.registers c).toUInt8 = .ofNat ((s.registers c).toNat &&& 0xFF) := by
      apply UInt8.toNat_inj.mp
      simp [Nat.and_two_pow_sub_one_eq_mod _ 8]
    rw [Array.toList_push,h.output,h.registers,hb]
    rfl
  | input c => exact h.requestInput.takeInput c
  | loadProgram b c =>
    rw [execute_loadProgram,h.registers,h.registers,AbstractMachine.perform]
    refine h.conclude (h.store.loadProgram _) ?_
    intro _ m' s' hr
    exact { hr with pc := rfl }
  | orthography a value => exact ⟨rfl,h.set a value⟩

theorem step : StepRefines (m.step console) s.step := by
  have hf : m.fetch? = s.store.program[s.pc.toNat]? := by
    unfold fetch?
    rw [h.store.program_eq,h.pc]
  unfold Machine.step AbstractMachine.step
  rw [hf]
  cases s.store.program[s.pc.toNat]? with
  | none =>
    rw [h.store.program_eq,h.pc]
    exact ⟨rfl,h⟩
  | some word =>
    -- the counter moves on before the platter is decoded, also when that fails
    have hw : (m.fetched word).Refines console { s with pc := s.pc+1 } :=
      { h with pc := congrArg (· + 1) h.pc }
    dsimp only
    rw [AbstractMachine.decode_eq]
    cases Instruction.decode word with
    | ok i => exact hw.execute i
    | error fault => exact ⟨rfl,hw⟩

end Refines

/-- A run and an abstract run end in the same way and leave states that are in step. -/
structure Run.Refines (r : Run ScriptedConsole) (x : Except Fault Outcome × AbstractMachine) :
    Prop where
  result : r.result = x.1
  state : r.machine.Refines r.console x.2

theorem Refines.advance {m : Machine} {console : ScriptedConsole} {s : AbstractMachine}
    (h : m.Refines console s) (budget : ℕ) : (m.advance budget console).Refines (s.run budget) := by
  induction budget generalizing m console s with
  | zero => exact ⟨rfl,h⟩
  | succ budget ih =>
    unfold Machine.advance AbstractMachine.run
    rcases hm : m.step console with ⟨ending,m',console'⟩
    rcases hs : s.step with ⟨ending',s'⟩
    obtain ⟨he,hr⟩ : StepRefines (ending,m',console') (ending',s') := hm ▸ hs ▸ h.step
    dsimp only at he hr
    subst he
    cases ending with
    | next => exact ih hr.tick
    | halted => exact ⟨rfl,hr.tick⟩
    | suspended => exact ⟨rfl,hr⟩
    | fault fault => exact ⟨rfl,{ hr with }⟩

/-- A machine on a scripted console does what the abstract machine does, whichever sizes of arrays the
host refuses. After any number of instructions the two have the same outcome or fault, registers, arrays,
program counter, buffered input, output and count of instructions. The count is kept in 64 bits, which
suffices for budgets of 64 bits. The identifiers in use are below the number of identifiers made, so they
are words as long as that is at most 2^32. -/
theorem runFor_refines_abstract (refuses : UInt32 → Bool) (program : Array UInt32)
    (lines : List (List UInt8)) (endOfInput : Bool) (n : ℕ) :
    let r := (ofProgram refuses program).runFor n ({ lines, endOfInput } : ScriptedConsole)
    let x := (AbstractMachine.ofProgram refuses program lines endOfInput).run n
    r.result = x.1 ∧ (∀ i, r.machine.get i = x.2.registers i) ∧
      (∀ id, r.machine.heap.slot? id = x.2.store.arrays.lookup id) ∧
      x.2.store.arrays.keys ⊆ Finset.range r.machine.heap.capacity ∧ r.machine.pc = x.2.pc ∧
      r.machine.input = x.2.input ∧ r.machine.inputClosed = x.2.inputClosed ∧
      r.console.output.toList = x.2.output ∧
      r.machine.cycle = .ofNat x.2.cycle ∧ x.2.cycle ≤ n := by
  intro r x
  have hr : r.Refines x := by
    have h := (ofProgram_refines refuses program lines endOfInput).advance n
    rwa [← runFor_of_ready rfl] at h
  refine ⟨hr.result,hr.state.registers,fun id => (hr.state.store.lookup id).symm,?_,hr.state.pc,
    hr.state.input,hr.state.inputClosed,hr.state.output,hr.state.cycle,?_⟩
  · intro id hid
    rw [Finmap.mem_keys,hr.state.store.mem_iff] at hid
    exact Finset.mem_range.mpr (Heap.slot?_lt hid)
  · have hc := (AbstractMachine.ofProgram refuses program lines endOfInput).run_cycle_le n
    rwa [AbstractMachine.ofProgram,Nat.zero_add] at hc

end UniversalMachine.Machine
