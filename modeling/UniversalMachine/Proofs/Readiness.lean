import Mathlib
import UniversalMachine.Proofs.InTurn
import UniversalMachine.Proofs.Streams
import UniversalMachine.Proofs.Twins

/-! Programs that never wait. A host may do anything with a machine and flush its console in between. If
the console answers every request for a line with bytes or with the end of the input, no input instruction
is ever suspended. A stream answers so, whatever its source does. -/
namespace UniversalMachine

/-- Every request for a line is answered with bytes, or with the end of the input. -/
def Console.Decisive (κ : Type) [Console κ] : Prop :=
  ∀ c : κ, (∃ bytes, bytes ≠ [] ∧ (Console.readLine c).1 = .line bytes) ∨
    (Console.readLine c).1 = .endOfInput

namespace Machine

variable {κ : Type} [Console κ]

/-- What a host does with a machine and its console. -/
inductive Operation where
  | run
  | runFor (budget : ℕ)
  | pushInput (bytes : List UInt8)
  | closeInput
  | flush

/-- What it hears. -/
inductive Reply where
  | returned (result : Except Fault Outcome)
  | flushed (result : Except Device.Error Unit)
  | accepted

/-- What a run tells the host, and what it leaves. -/
def Run.reply (r : Run κ) : Reply × Machine × κ := (.returned r.result,r.machine,r.console)

/-- Performs one operation; `none` if a run without a budget needs more than `fuel` instructions. -/
def perform? (fuel : ℕ) (hosted : Machine × κ) : Operation → Option (Reply × Machine × κ)
  | .run => (hosted.1.run? fuel hosted.2).map Run.reply
  | .runFor budget => some (hosted.1.runFor budget hosted.2).reply
  | .pushInput bytes => some (.accepted,hosted.1.pushInput bytes,hosted.2)
  | .closeInput => some (.accepted,hosted.1.closeInput,hosted.2)
  | .flush => some (.flushed (Console.flush hosted.2).1,hosted.1,(Console.flush hosted.2).2)

section Decisive
variable (hκ : Console.Decisive κ)
include hκ

/-- An input instruction finds a byte or the end of the input, once it has asked. -/
theorem takeInput?_requestInput (m : Machine) (c : κ) (r : Register) :
    (m.requestInput c).1.takeInput? r ≠ none := by
  rw [Ne,takeInput?_eq_none_iff]
  by_cases hq : m.input = [] ∧ m.inputClosed = false
  · rw [requestInput_of_empty hq.1 hq.2]
    rintro ⟨hi,hc⟩
    rcases hκ c with ⟨bytes,hbytes,hread⟩ | hread
    · rw [hread] at hi
      exact hbytes (List.append_eq_nil_iff.mp hi).2
    · rw [hread] at hc
      cases hc
  · rw [requestInput_of_supplied hq]
    exact hq

theorem step_ne_suspended {m m' : Machine} {c c' : κ} : m.step c ≠ (.suspended,m',c') := by
  intro he
  -- the transition tells the instruction, and the step is executed again to see what it was answered
  cases transition_of_step he with
  | @suspended word r n fetch decode _ _ =>
    rw [step_of_decode fetch decode] at he
    simp only [execute] at he
    split at he
    · cases he
    · next hnone => exact takeInput?_requestInput hκ _ c r hnone

theorem unsuspended_loop :
    Loop (fun _ (_ : κ) => True) fun r => r.result ≠ .ok .awaitingInput where
  paused _ := by simp
  next _ _ := trivial
  halted _ _ := by simp
  suspended _ he := absurd he (step_ne_suspended hκ)
  fault _ _ := by simp [stop]

theorem runFor_unsuspended {m : Machine} (h : ∀ r, m.state ≠ .awaitingInput r) (budget : ℕ) (c : κ) :
    (m.runFor budget c).result ≠ .ok .awaitingInput := by
  cases he : m.enter with
  | done result =>
    have htells := m.runFor_tells budget c
    simp only [runFor, he] at htells ⊢
    rintro rfl
    cases htells with
    | @awaitingInput _ r state _ _ => exact h r state
  | ready m' =>
    simp only [runFor, he]
    exact (unsuspended_loop hκ).advance trivial budget

/-- No operation brings a machine to wait, and none is told that it does. -/
theorem perform?_unsuspended {fuel : ℕ} {hosted hosted' : Machine × κ} {operation : Operation}
    {reply : Reply} (h : ∀ r, hosted.1.state ≠ .awaitingInput r)
    (hp : perform? fuel hosted operation = some (reply,hosted')) :
    reply ≠ .returned (.ok .awaitingInput) ∧ ∀ r, hosted'.1.state ≠ .awaitingInput r := by
  obtain ⟨m,c⟩ := hosted
  have hrun : ∀ budget, (m.runFor budget c).reply.1 ≠ .returned (.ok .awaitingInput) ∧
      ∀ r, (m.runFor budget c).machine.state ≠ .awaitingInput r := by
    intro budget
    have hresult := runFor_unsuspended hκ h budget c
    have htold := (m.runFor_tells budget c).result_eq
    refine ⟨fun hreply => hresult (Reply.returned.inj hreply),?_⟩
    intro r hs
    rw [hs] at htold
    exact hresult htold
  cases operation with
  | run =>
    obtain ⟨r,hr,hreply⟩ := Option.map_eq_some_iff.mp hp
    obtain ⟨rfl,_⟩ := run?_eq_some_iff.mp hr
    cases hreply
    exact hrun fuel
  | runFor budget =>
    cases hp
    exact hrun budget
  | pushInput bytes =>
    cases hp
    exact ⟨by simp,h⟩
  | closeInput =>
    cases hp
    exact ⟨by simp,h⟩
  | flush =>
    cases hp
    exact ⟨by simp,h⟩

/-- Whatever a host does with a machine that does not wait, it goes on not to. -/
theorem inTurn?_unsuspended {fuel : ℕ} {hosted hosted' : Machine × κ} {operations : List Operation}
    {log : List (Operation × Reply)} (h : ∀ r, hosted.1.state ≠ .awaitingInput r)
    (hturns : inTurn? (perform? fuel) hosted operations = some (log,hosted')) :
    (∀ operation, (operation,Reply.returned (.ok .awaitingInput)) ∉ log) ∧
      ∀ r, hosted'.1.state ≠ .awaitingInput r := by
  refine inTurn?_induction (P := fun log hosted =>
    (∀ operation, (operation,Reply.returned (.ok .awaitingInput)) ∉ log) ∧
      ∀ r, hosted.1.state ≠ .awaitingInput r) ⟨by simp,h⟩ ?_ hturns
  rintro log mid operation reply next ⟨hlog,hmid⟩ hp
  obtain ⟨hreply,hnext⟩ := perform?_unsuspended hκ hmid hp
  refine ⟨?_,hnext⟩
  intro other hmem
  rcases List.mem_append.mp hmem with hmem | hmem
  · exact hlog other hmem
  · exact hreply (Prod.mk.inj (List.mem_singleton.mp hmem)).2.symm

end Decisive
end Machine

open Device Machine

variable {σ : Type} [Sink σ]

/-- A read that fails, or that gives nothing, ends the input. -/
theorem StreamConsole.decisive : Console.Decisive (StreamConsole σ) := by
  intro console
  change (∃ bytes, bytes ≠ [] ∧ console.readLine.1 = .line bytes) ∨
    console.readLine.1 = .endOfInput
  unfold StreamConsole.readLine
  rcases console.source.readLine with ⟨error | _ | ⟨byte,bytes⟩,source⟩
  · exact .inr rfl
  · exact .inr rfl
  · exact .inl ⟨byte::bytes,by simp,rfl⟩

namespace Headless

/-- A headless run is a host that runs slices and flushes in between. It is stranded if a slice waits. -/
theorem run?_inTurn (k : ℕ) {m : Machine} {console : StreamConsole σ} {fuel : ℕ} {r : Result σ}
    (h : run? m console fuel = some r) :
    ∃ operations log, inTurn? (perform? k) (m,console) operations =
        some (log,r.machine,r.console) ∧
      ∀ outcome, r.ending = .stranded outcome →
        (Operation.runFor slice,Reply.returned (.ok .awaitingInput)) ∈ log := by
  induction fuel generalizing m console with
  | zero => cases h
  | succ fuel ih =>
    rcases hr : m.runFor slice console with ⟨result,m',console'⟩
    have hslice : perform? k (m,console) (.runFor slice) = some (.returned result,m',console') := by
      simp only [perform?, hr, Run.reply]
    have hturn := inTurn?_singleton hslice
    simp only [run?, turn, hr] at h
    cases result with
    | error fault =>
      obtain rfl := Option.some.inj h
      exact ⟨_,_,hturn,by simp⟩
    | ok outcome =>
      cases outcome with
      | halted =>
        obtain rfl := Option.some.inj h
        exact ⟨_,_,hturn,by simp⟩
      | awaitingInput =>
        obtain rfl := Option.some.inj h
        exact ⟨_,_,hturn,by simp⟩
      | paused =>
        have hflush : perform? k (m',console') .flush =
            some (.flushed console'.flush.1,m',console'.flush.2) := rfl
        rcases hf : console'.flush with ⟨error | _,console''⟩
        · simp only [hf] at h hflush
          obtain rfl := Option.some.inj h
          exact ⟨_,_,inTurn?_append hturn (inTurn?_singleton hflush),by simp⟩
        · simp only [hf] at h hflush
          obtain ⟨operations,log,hlater,hstranded⟩ := ih h
          refine ⟨_,_,inTurn?_append (inTurn?_append hturn (inTurn?_singleton hflush)) hlater,?_⟩
          intro outcome he
          simp [hstranded outcome he]

/-- Whatever the source of a program yields and refuses, whatever becomes of its output, and whatever a host
does with the machine: no run comes back because the program waits for input, and the machine is never
suspended. So no headless run is stranded. -/
theorem never_suspended_on_streams (refuses : UInt32 → Bool) (program : Array UInt32)
    (source : Source) (sink : σ) (fuel : ℕ) :
    (∀ operations log m c,
      inTurn? (perform? fuel) (ofProgram refuses program,({ source, sink } : StreamConsole σ))
        operations = some (log,m,c) →
      (∀ operation, (operation,Reply.returned (.ok .awaitingInput)) ∉ log) ∧
      ∀ register, m.state ≠ .awaitingInput register) ∧
    ∀ r, run? (ofProgram refuses program) { source, sink } fuel = some r →
      ∀ outcome, r.ending ≠ .stranded outcome := by
  have hready : ∀ r, (ofProgram refuses program).state ≠ .awaitingInput r := by simp [ofProgram]
  refine ⟨fun operations log m c hturns => inTurn?_unsuspended StreamConsole.decisive hready hturns,?_⟩
  intro r hrun outcome hstranded
  obtain ⟨operations,log,hturns,hwaits⟩ := run?_inTurn fuel hrun
  exact (inTurn?_unsuspended StreamConsole.decisive hready hturns).1 _ (hwaits outcome hstranded)

/-- The program reads three bytes and halts. A line with two of them comes, and then nothing but a failure
and an end of file before more bytes. -/
theorem never_suspended_on_streams_cut_short :
    let refuses : UInt32 → Bool := fun _ => false
    let program : Array UInt32 := #[0xb0000000,0xb0000001,0xb0000002,0x70000000]
    let source : Source :=
      [.failure .interrupted,.bytes [72,10],.failure .timedOut,.bytes [],.bytes [73]]
    let console : StreamConsole ScriptedSink := { source, sink := {} }
    (∃ log m c, inTurn? (perform? 9) (ofProgram refuses program,console) [.runFor 1,.flush,.run] =
        some (log,m,c) ∧
      log.map Prod.snd =
        [.returned (.ok .paused),.flushed (.ok ()),.returned (.ok .halted)] ∧
      m.get 2 = endOfInput ∧ ∀ register, m.state ≠ .awaitingInput register) ∧
    ∃ r, run? (ofProgram refuses program) console 1 = some r ∧
      r.ending = .halted ∧ ∀ outcome, r.ending ≠ .stranded outcome := by
  intro refuses program source console
  have hhosted : (inTurn? (perform? 9) (ofProgram refuses program,console)
      [.runFor 1,.flush,.run]).map (fun done => (done.1.map Prod.snd,done.2.1.get 2)) =
        some ([.returned (.ok .paused),.flushed (.ok ()),.returned (.ok .halted)],
          endOfInput) := by
    simp only [program, console, source]
    cbv
  have hhalted : ((ofProgram refuses program).runFor 4 console).result = .ok .halted := by
    simp only [program, console, source]
    cbv
  have hslice : 4 ≤ slice := by decide
  have hrun := run?_of_le_slice (by rw [hhalted]; simp) hslice
  rw [hhalted] at hrun
  obtain ⟨⟨log,m,c⟩,hturns,hseen⟩ := Option.map_eq_some_iff.mp hhosted
  obtain ⟨hlog,hget⟩ := Prod.mk.inj hseen
  have hnever := (never_suspended_on_streams refuses program source console.sink 9).1 _ _ _ _ hturns
  exact ⟨⟨log,m,c,hturns,hlog,hget,hnever.2⟩,_,hrun,rfl,
    (never_suspended_on_streams refuses program source console.sink 1).2 _ hrun⟩

end Headless
end UniversalMachine
