import Mathlib
import UniversalMachine.Proofs.Emission
import UniversalMachine.Proofs.History

/-! A machine between two runs. Its state is what the last run returned, and what its session shows. A
suspended machine has fetched its input instruction and not completed it, whatever its program has made of
itself, and the run that completes the instruction does nothing else. -/
namespace UniversalMachine

namespace Machine

/-! ### The result of a run and the state that it leaves -/

/-- The result of a run and the state of the machine that it leaves say the same. -/
structure Run.Truthful {κ : Type} (r : Run κ) : Prop where
  halted : r.result = .ok .halted ↔ r.machine.state = .halted
  awaitingInput : r.result = .ok .awaitingInput ↔
    ∃ register, r.machine.state = .awaitingInput register
  starved : r.result = .ok .awaitingInput → r.machine.input = [] ∧ r.machine.inputClosed = false
  paused : r.result = .ok .paused ↔ r.machine.state = .ready
  faulted : ∀ fault, r.result = .error fault ↔ r.machine.state = .faulted fault

theorem Tells.truthful {κ : Type} {r : Run κ} (h : Tells r.result r.machine) : r.Truthful := by
  have hresult := h.result_eq
  generalize hs : r.machine.state = state at hresult
  constructor
  case starved =>
    intro hr
    rw [hr] at h
    cases h with
    | awaitingInput _ empty isOpen => exact ⟨empty,isOpen⟩
  all_goals
    rw [hresult,hs]
    cases state <;> simp [State.told]

end Machine

namespace Session
open Machine

/-- The result of every run, with a budget or without, says what state the machine is left in, and one that
waits has neither input nor the end of it. Only a run with a budget can pause. So a session returns from
every pump with the status that it shows then. -/
theorem result_tells_status {κ : Type} [Console κ] (m : Machine) (c : κ) (session : Session) :
    (∀ budget, (m.runFor budget c).Truthful) ∧
    (∀ fuel r, m.run? fuel c = some r → r.Truthful ∧ r.result ≠ .ok .paused) ∧
    (∀ budget, (session.pump budget).1 = (session.pump budget).2.status) ∧
    ∀ fuel status session', session.pumpUntilStop? fuel = some (status,session') →
      status = session'.status := by
  have htruthful : ∀ budget, (m.runFor budget c).Truthful :=
    fun budget => (m.runFor_tells budget c).truthful
  refine ⟨htruthful,?_,session.pump_status,?_⟩
  · intro fuel r hrun
    obtain ⟨rfl,hp⟩ := run?_eq_some_iff.mp hrun
    exact ⟨htruthful fuel,hp⟩
  · intro fuel status session' hpump
    have hstatus := session.pump_status fuel
    rwa [pump_of_pumpUntilStop? hpump] at hstatus

/-- The program writes a byte and waits for one, in a run without a budget and in a session. -/
theorem result_tells_status_waiting :
    let refuses : UInt32 → Bool := fun _ => false
    let m := ofProgram refuses #[0xd0000048,0xa0000000,0xb0000000,0x70000000]
    let console : Recorder := {}
    let session : Session := { refuses, machine := some m }
    (∃ r, m.run? 9 console = some r ∧ r.result = .ok .awaitingInput ∧
      (∃ register, r.machine.state = .awaitingInput register) ∧ r.machine.input = [] ∧
      r.machine.inputClosed = false) ∧
    ∃ session', session.pumpUntilStop? 9 = some (.awaitingInput,session') ∧
      session'.status = .awaitingInput := by
  intro refuses m console session
  have hresult : (m.runFor 9 console).result = .ok .awaitingInput := by
    simp only [m, console]
    cbv
  have hstatus : (session.pumpUntilStop? 9).map Prod.fst = some .awaitingInput := by
    simp only [session, m]
    cbv
  have hrun : m.run? 9 console = some (m.runFor 9 console) := by
    refine run?_eq_some_iff.mpr ⟨rfl,?_⟩
    rw [hresult]
    simp
  obtain ⟨⟨status,session'⟩,hpump,rfl⟩ := Option.map_eq_some_iff.mp hstatus
  obtain ⟨_,hruns,_,hpumps⟩ := result_tells_status m console session
  have htruthful := (hruns 9 _ hrun).1
  exact ⟨⟨_,hrun,hresult,htruthful.awaitingInput.mp hresult,htruthful.starved hresult⟩,
    session',hpump,(hpumps 9 _ _ hpump).symm⟩

end Session

namespace Machine

/-! ### Suspended machines -/

/-- A machine that a host can bring about from a program, with any console in each run. -/
inductive Reached (refuses : UInt32 → Bool) (program : Array UInt32) : Machine → Prop
  | start : Reached refuses program (.ofProgram refuses program)
  | push {m} (reached : Reached refuses program m) (bytes : List UInt8) :
      Reached refuses program (m.pushInput bytes)
  | close {m} (reached : Reached refuses program m) : Reached refuses program m.closeInput
  | runFor {m} {κ : Type} [Console κ] (reached : Reached refuses program m) (budget : ℕ) (console : κ) :
      Reached refuses program (m.runFor budget console).machine
  | run {m} {κ : Type} [Console κ] {fuel : ℕ} {console : κ} {r : Run κ}
      (reached : Reached refuses program m) (run : m.run? fuel console = some r) :
      Reached refuses program r.machine

/-- The platter fetched last is an input into `r`, and stands right before the program counter. -/
def BehindInput (m : Machine) (r : Register) : Prop :=
  ∃ word, m.lastWord = some word ∧ Instruction.decode word = .ok (.input r) ∧
    m.heap.program[(m.pc-1).toNat]? = some word

theorem Transition.behindInput {m m' : Machine} (h : m.Transition .suspended m') {r : Register}
    (hs : m'.state = .awaitingInput r) : m'.BehindInput r := by
  cases h with
  | @suspended word r' n fetch decode asked _ =>
    obtain rfl : r' = r := State.awaitingInput.inj hs
    obtain ⟨input,closed,rfl⟩ := asked.eq
    refine ⟨word,rfl,decode,?_⟩
    have hpc : m.pc+1-1 = m.pc := UInt32.add_sub_cancel m.pc 1
    change m.heap.program[(m.pc+1-1).toNat]? = some word
    rw [hpc]
    exact fetch

section Suspended
variable {κ : Type} [Console κ]

theorem behindInput_loop : Loop (fun m (_ : κ) => m.state = .ready) fun run =>
    ∀ r, run.machine.state = .awaitingInput r → run.machine.BehindInput r where
  paused h r hs := by
    rw [h] at hs
    cases hs
  next h he := (transition_of_step he).state_of_next.trans h
  halted {_ m' _ _} _ he r hs := by
    have hhalted : m'.tick.state = .halted := (transition_of_step he).state_of_halted
    rw [hhalted] at hs
    cases hs
  suspended _ he r hs := (transition_of_step he).behindInput hs
  fault _ _ r hs := by cases hs

theorem runFor_behindInput {m : Machine}
    (h : ∀ r, m.state = .awaitingInput r → m.BehindInput r) (budget : ℕ) (console : κ) (r : Register)
    (hs : (m.runFor budget console).machine.state = .awaitingInput r) :
    (m.runFor budget console).machine.BehindInput r := by
  cases he : m.enter with
  | done result =>
    simp only [runFor, he] at hs ⊢
    exact h r hs
  | ready m' =>
    simp only [runFor, he] at hs ⊢
    exact behindInput_loop.advance (enter_ready_state he) budget r hs

theorem Reached.behindInput {program : Array UInt32} {m : Machine} (h : Reached refuses program m)
    (r : Register) (hs : m.state = .awaitingInput r) : m.BehindInput r := by
  induction h generalizing r with
  | start => cases hs
  | push _ bytes ih => exact ih r hs
  | close _ ih => exact ih r hs
  | runFor _ budget console ih => exact runFor_behindInput ih budget console r hs
  | run _ run ih =>
    obtain ⟨rfl,_⟩ := run?_eq_some_iff.mp run
    exact runFor_behindInput ih _ _ r hs

/-- Whatever a host does with a program, on whatever consoles: a machine that waits for input into a register
has fetched an instruction that reads into this register, from right before the program counter. With input
there, or with its end, a run with no budget completes this instruction without a call on the console and
does nothing else. Without either, no run does anything. -/
theorem suspended_amid_input {program : Array UInt32} {m : Machine} (h : Reached refuses program m)
    {r : Register} (hs : m.state = .awaitingInput r) (c : κ) :
    (r.val < 8 ∧ ∃ word, m.lastWord = some word ∧ Instruction.decode word = .ok (.input r) ∧
      m.heap.program[(m.pc-1).toNat]? = some word) ∧
    (m.input ≠ [] ∨ m.inputClosed = true →
      m.runFor 0 c = ⟨.ok .paused,m.completeInput r,c⟩ ∧
      ∀ calls, (m.runFor 0 (⟨c,calls⟩ : Observed κ)).console.calls = calls) ∧
    (m.input = [] ∧ m.inputClosed = false → ∀ budget,
      m.runFor budget c = ⟨.ok .awaitingInput,m,c⟩ ∧
      m.run? budget c = some ⟨.ok .awaitingInput,m,c⟩) := by
  refine ⟨⟨r.isLt,h.behindInput r hs⟩,?_,?_⟩
  · intro hsupplied
    have he := enter_of_supplied hs hsupplied
    exact ⟨by simp only [runFor, he, advance],fun calls => by simp only [runFor, he, advance]⟩
  · rintro ⟨hi,hc⟩ budget
    have he := enter_of_waiting hs hi hc
    exact ⟨by simp only [runFor, he],by simp only [run?, he]⟩

/-- The program puts an input instruction into an array of its own, becomes this array, and waits. -/
theorem suspended_amid_input_replaced :
    let refuses : UInt32 → Bool := fun _ => false
    let program : Array UInt32 :=
      #[0xd2000001,0x80000011,0xda000006,0x10000105,0x20000084,0xc0000010,0xb0000003]
    let console : Recorder := {}
    let m := ((ofProgram refuses program).runFor 9 console).machine
    let fed := m.pushInput [72,10]
    Reached refuses program fed ∧ m.state = .awaitingInput 3 ∧ m.heap.program = #[0xb0000003] ∧
    (∃ word, m.lastWord = some word ∧ Instruction.decode word = .ok (.input 3) ∧
      m.heap.program[(m.pc-1).toNat]? = some word) ∧
    m.runFor 5 console = ⟨.ok .awaitingInput,m,console⟩ ∧
    fed.runFor 0 console = ⟨.ok .paused,fed.completeInput 3,console⟩ ∧
    (fed.completeInput 3).get 3 = 72 ∧ (fed.completeInput 3).input = [10] := by
  intro refuses program console m fed
  have hstate : m.state = .awaitingInput 3 := by
    simp only [m, program, console, refuses]
    cbv
  have hprogram : m.heap.program = #[0xb0000003] := by
    simp only [m, program, console, refuses]
    cbv
  have hstarved : m.input = [] ∧ m.inputClosed = false := by
    simp only [m, program, console, refuses]
    cbv
  have hinput : fed.input = [72,10] := by
    change m.input++[72,10] = [72,10]
    rw [hstarved.1]
    rfl
  have hm : Reached refuses program m := Reached.start.runFor 9 console
  have hfed : Reached refuses program fed := hm.push [72,10]
  obtain ⟨⟨_,hbehind⟩,_,hwaits⟩ := suspended_amid_input hm hstate console
  obtain ⟨_,hresumes,_⟩ := suspended_amid_input hfed hstate console
  refine ⟨hfed,hstate,hprogram,hbehind,(hwaits hstarved 5).1,(hresumes ?_).1,?_,?_⟩
  · left
    simp [hinput]
  · have hget : (fed.completeInput 3).get 3 =
        (fed.set 3 ((fed.input.head?.map UInt8.toUInt32).getD 0xFFFFFFFF)).get 3 := rfl
    rw [hget,get_set,if_pos rfl,hinput]
    rfl
  · change fed.input.tail = [10]
    rw [hinput]
    rfl

end Suspended
end Machine
end UniversalMachine
