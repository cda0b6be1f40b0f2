import Mathlib
import UniversalMachine.Console.Scripted
import UniversalMachine.Proofs.History

/-! Input on its way through a machine. What arrives, from the host or in a line of the console, waits in
the buffer and is stored byte by byte, in the order in which it came. The mark of the end is stored only
when nothing is left and nothing more will come. -/
namespace UniversalMachine

namespace Console.Call

/-- The bytes of the line that a request was answered with. -/
def bytes : Call → List UInt8
  | .readLine (.line bytes) => bytes
  | _ => []

def isReadLine : Call → Bool
  | .readLine _ => true
  | _ => false

theorem bytes_of_not_isReadLine {call : Call} (h : call.isReadLine = false) : call.bytes = [] := by
  cases call with
  | readLine answer => cases h
  | writeByte byte result => rfl
  | announceHalt result => rfl
  | flush result => rfl
  | reportFault snapshot => rfl

end Console.Call

open Console (Call)

namespace Machine

/-- What an instruction stored, if it was an input instruction and was completed. -/
def storedBy? (m : Machine) (ending : Step) (m' : Machine) : Option UInt32 :=
  match ending, m.nextInstruction? with
  | .next, some (.input r) => some (m'.get r)
  | _, _ => none

namespace Moment

/-- The value that an input instruction stored, if the moment completed one. -/
def stored? {κ : Type} : Moment κ → Option UInt32
  | .resumed r _ after => some (after.get r)
  | .executed before _ ending after _ => before.storedBy? ending after
  | _ => none

/-- The calls that the moment added to the log. -/
def calls {κ : Type} : Moment (Observed κ) → List Call
  | .executed _ observed _ _ observed' => observed'.calls.drop observed.calls.length
  | _ => []

/-- The bytes that the moment supplied. -/
def arrived {κ : Type} : Moment (Observed κ) → List UInt8
  | .pushed bytes => bytes
  | moment => moment.calls.flatMap Call.bytes

/-- The machine before and after a moment in which it worked. -/
def change? {κ : Type} : Moment κ → Option (Machine × Machine)
  | .resumed _ before after => some (before,after)
  | .executed before _ _ after _ => some (before,after)
  | _ => none

end Moment

/-! ### One instruction -/

/-- How input passes through a machine that goes from `m` to `m'`, stores a value or none, and makes
some calls. -/
structure Flow (m : Machine) (stored : Option UInt32) (calls : List Call) (m' : Machine) : Prop where
  balance : stored.toList.filter (· ≠ endOfInput)++m'.input.map UInt8.toUInt32 =
    (m.input++calls.flatMap Call.bytes).map UInt8.toUInt32
  ended : stored = some endOfInput → m.input = [] ∧ m'.input = [] ∧ m'.inputClosed = true
  asked : ∀ call ∈ calls, call.isReadLine → m.input = [] ∧ m.inputClosed = false
  once : calls.countP Call.isReadLine ≤ 1

theorem toUInt32_ne_endOfInput (byte : UInt8) : byte.toUInt32 ≠ endOfInput := by
  intro h
  have hn := congrArg UInt32.toNat h
  have hlt := byte.toNat_lt
  rw [UInt8.toNat_toUInt32] at hn
  have he : endOfInput.toNat = 4294967295 := rfl
  omega

/-- An instruction that is no input instruction leaves the buffer alone. -/
theorem flow_of_same {m m' : Machine} {calls : List Call} (hi : m'.input = m.input)
    (hcalls : ∀ call ∈ calls, call.isReadLine = false) : Flow m none calls m' where
  balance := by
    have hbytes : calls.flatMap Call.bytes = [] :=
      List.flatMap_eq_nil_iff.mpr fun call hc => Call.bytes_of_not_isReadLine (hcalls call hc)
    simp [hbytes, hi]
  ended h := by cases h
  asked call hc hr := by
    rw [hcalls call hc] at hr
    cases hr
  once := by
    have hzero : calls.countP Call.isReadLine = 0 :=
      List.countP_eq_zero.mpr fun call hc => by simp [hcalls call hc]
    omega

/-- The first byte of the buffer is stored, or the mark of the end. -/
theorem takeInput?_flow {m m' : Machine} {r : Register} (h : m.takeInput? r = some m') :
    Flow m (some (m'.get r)) [] m' := by
  rcases takeInput?_cases h with ⟨byte,input,hi,rfl⟩ | ⟨hi,hc,rfl⟩
  · have hget : ({ m.set r byte.toUInt32 with input } : Machine).get r = byte.toUInt32 :=
      (m.get_set r r byte.toUInt32).trans (if_pos rfl)
    rw [hget]
    refine ⟨?_,?_,by simp,by simp⟩
    · simp [hi, toUInt32_ne_endOfInput]
    · intro h
      exact absurd (Option.some.inj h) (toUInt32_ne_endOfInput byte)
  · have hrest : (m.set r endOfInput).input = [] := hi
    refine ⟨?_,?_,by simp,by simp⟩
    · simp [hi, hrest]
    · intro _
      exact ⟨hi,hrest,hc⟩

/-- A line goes to the end of the buffer, and a request for one is made only for an empty buffer. -/
theorem receive_flow {m : Machine} (hi : m.input = []) (hc : m.inputClosed = false)
    (answer : LineRead) : Flow m none [.readLine answer] (m.receive answer) where
  balance := by cases answer <;> simp [receive, pushInput, closeInput, Call.bytes]
  ended h := by cases h
  asked _ _ _ := ⟨hi,hc⟩
  once := by simp [Call.isReadLine]

/-- A machine that takes in what it asked for, if it had to, and then stores a byte of it. -/
theorem Flow.take {m n m' : Machine} {r : Register} {calls : List Call} (h : Flow m none calls n)
    (ht : n.takeInput? r = some m') (hm : n.input = [] → m.input = []) :
    Flow m (some (m'.get r)) calls m' where
  balance := by
    have hn := h.balance
    have hstored := (takeInput?_flow ht).balance
    simp only [Option.toList_none, List.filter_nil, List.nil_append] at hn
    rw [← hn,hstored]
    simp
  ended he := by
    obtain ⟨hi,hrest⟩ := (takeInput?_flow ht).ended he
    exact ⟨hm hi,hrest⟩
  asked := h.asked
  once := h.once

variable {κ : Type}

/-- The calls that a step made, and how input passed through it. -/
structure Draws (m : Machine) (observed : Observed κ) (ending : Step) (m' : Machine)
    (observed' : Observed κ) (calls : List Call) : Prop where
  log : observed'.calls = observed.calls++calls
  flow : Flow m (m.storedBy? ending m') calls m'
  input : ∀ call ∈ calls, call.isReadLine → ∃ r, m.nextInstruction? = some (.input r)

theorem Draws.tick {m m' : Machine} {ending : Step} {observed observed' : Observed κ}
    {calls : List Call} (h : Draws m observed ending m' observed' calls) :
    Draws m observed ending m'.tick observed' calls :=
  ⟨h.log,⟨h.flow.balance,h.flow.ended,h.flow.asked,h.flow.once⟩,h.input⟩

section Instruction
variable [Console κ]

theorem requestInput_flow (m : Machine) (observed : Observed κ) :
    ∃ calls, (m.requestInput observed).2.calls = observed.calls++calls ∧
      Flow m none calls (m.requestInput observed).1 ∧
      ((m.requestInput observed).1.input = [] → m.input = []) := by
  by_cases hq : m.input = [] ∧ m.inputClosed = false
  · obtain ⟨hi,hc⟩ := hq
    rw [requestInput_of_empty hi hc]
    exact ⟨_,rfl,receive_flow hi hc _,fun _ => hi⟩
  · rw [requestInput_of_supplied hq]
    exact ⟨[],by simp,flow_of_same rfl (by simp),id⟩

theorem Transition.input_eq {m m' : Machine} {ending : Step} (h : m.Transition ending m')
    (hn : ∀ r, m.nextInstruction? ≠ some (.input r)) : m'.input = m.input := by
  cases h with
  | lost => rfl
  | fault => rfl
  | next => rfl
  | halted => rfl
  | input hf hd => exact absurd (nextInstruction?_of_decode hf hd) (hn _)
  | suspended hf hd => exact absurd (nextInstruction?_of_decode hf hd) (hn _)

theorem storedBy?_of_not_input {m m' : Machine} {ending : Step}
    (hn : ∀ r, m.nextInstruction? ≠ some (.input r)) : m.storedBy? ending m' = none := by
  unfold storedBy?
  split
  · next hi => exact absurd hi (hn _)
  · rfl

theorem draws_of_not_input {m m' : Machine} {ending : Step} {observed observed' : Observed κ}
    {calls : List Call} (h : m.step observed = (ending,m',observed'))
    (hn : ∀ r, m.nextInstruction? ≠ some (.input r))
    (hlog : observed'.calls = observed.calls++calls)
    (hcalls : ∀ call ∈ calls, call.isReadLine = false) :
    Draws m observed ending m' observed' calls where
  log := hlog
  flow := by
    rw [storedBy?_of_not_input hn]
    exact flow_of_same ((transition_of_step h).input_eq hn) hcalls
  input call hc hr := by
    rw [hcalls call hc] at hr
    cases hr

theorem draws_of_input {m m' : Machine} {ending : Step} {observed observed' : Observed κ}
    {word : UInt32} {r : Register} (h : m.step observed = (ending,m',observed'))
    (hf : m.fetch? = some word) (hd : Instruction.decode word = .ok (.input r)) :
    ∃ calls, Draws m observed ending m' observed' calls := by
  have hi := nextInstruction?_of_decode hf hd
  obtain ⟨calls,hlog,hflow,hm⟩ := (m.fetched word).requestInput_flow observed
  rw [step_of_decode hf hd] at h
  simp only [execute] at h
  split at h
  · next n ht =>
    cases h
    refine ⟨calls,hlog,?_,fun _ _ _ => ⟨r,hi⟩⟩
    have htaken := hflow.take ht hm
    simp only [storedBy?, hi]
    exact ⟨htaken.balance,htaken.ended,htaken.asked,htaken.once⟩
  · next ht =>
    cases h
    refine ⟨calls,hlog,?_,fun _ _ _ => ⟨r,hi⟩⟩
    exact ⟨hflow.balance,hflow.ended,hflow.asked,hflow.once⟩

theorem draws_of_step {m m' : Machine} {ending : Step} {observed observed' : Observed κ}
    (h : m.step observed = (ending,m',observed')) :
    ∃ calls, Draws m observed ending m' observed' calls := by
  rcases m.quiet_or_calls with hq | ⟨word,i,hf,hd,hl⟩
  · have hsame : observed' = observed := by
      rw [hq.step observed observed] at h
      cases h
      rfl
    refine ⟨[],draws_of_not_input h ?_ (by simp [hsame]) (by simp)⟩
    intro r hi
    exact hq _ hi
  · have hi := nextInstruction?_of_decode hf hd
    have hstep := h
    rw [step_of_decode hf hd] at hstep
    cases i with
    | input r => exact draws_of_input h hf hd
    | halt =>
      simp only [execute] at hstep
      split at hstep
      all_goals
        next he =>
        cases hstep
        exact ⟨_,draws_of_not_input h (by simp [hi]) (Observed.calls_of_announceHalt he)
          (by simp [Call.isReadLine])⟩
    | output r =>
      simp only [execute] at hstep
      split at hstep
      all_goals
        next he =>
        cases hstep
        exact ⟨_,draws_of_not_input h (by simp [hi]) (Observed.calls_of_writeByte he)
          (by simp [Call.isReadLine])⟩
    | _ => exact absurd trivial hl

/-- The report of a fault comes last, and brings no input. -/
theorem Draws.stop {m m' : Machine} {fault : Fault} {observed observed' : Observed κ}
    {calls : List Call} (h : Draws m observed (.fault fault) m' observed' calls) :
    Draws m observed (.fault fault) (m'.stop fault observed').machine
      (m'.stop fault observed').console (calls++[.reportFault m'.snapshot]) where
  log := by simp [Machine.stop, Console.reportFault, Observed.note, h.log]
  flow := by
    have hnone : ∀ n, m.storedBy? (.fault fault) n = none := fun _ => by simp [storedBy?]
    refine ⟨?_,by simp [hnone],?_,?_⟩
    · simpa [Machine.stop, Call.bytes, hnone] using h.flow.balance
    · simpa [Call.isReadLine, or_imp, forall_and] using h.flow.asked
    · simpa [Call.isReadLine, List.countP_append] using h.flow.once
  input := by simpa [Call.isReadLine, or_imp, forall_and] using h.input

theorem draws_of_turn {m m' : Machine} {ending : Step} {observed observed' : Observed κ}
    (h : m.turn observed = (ending,m',observed')) :
    ∃ calls, Draws m observed ending m' observed' calls := by
  unfold turn at h
  rcases he : m.step observed with ⟨ending,n,observed''⟩
  obtain ⟨calls,hdraws⟩ := draws_of_step he
  rw [he] at h
  cases ending <;> cases h
  · exact ⟨calls,hdraws.tick⟩
  · exact ⟨calls,hdraws.tick⟩
  · exact ⟨calls,hdraws⟩
  · exact ⟨_,hdraws.stop⟩

end Instruction

/-! ### All of the history -/

/-- The mark of the end is stored only at the end of the input. A line is asked for only by an input
instruction that finds the buffer empty and the input open, and by each at most once. -/
structure Moment.Fair (moment : Moment (Observed κ)) : Prop where
  ended : moment.stored? = some endOfInput → ∃ before after, moment.change? = some (before,after) ∧
    before.input = [] ∧ after.input = [] ∧ after.inputClosed = true
  asked : ∀ call ∈ moment.calls, call.isReadLine → ∃ before after r,
    moment.change? = some (before,after) ∧ before.nextInstruction? = some (.input r) ∧
    before.input = [] ∧ before.inputClosed = false
  once : moment.calls.countP Call.isReadLine ≤ 1

/-- The bytes that were stored, followed by those in the buffer, are the bytes that arrived. -/
structure Conserved (moments : List (Moment (Observed κ))) (m : Machine)
    (calls : List Call) : Prop where
  balance : (moments.filterMap Moment.stored?).filter (· ≠ endOfInput)++
    m.input.map UInt8.toUInt32 = (moments.flatMap Moment.arrived).map UInt8.toUInt32
  fair : ∀ moment ∈ moments, moment.Fair
  /-- No call is made outside of the moments. -/
  log : calls = moments.flatMap Moment.calls

theorem Moment.Fair.of_idle {moment : Moment (Observed κ)} (hs : moment.stored? = none)
    (hc : moment.calls = []) : moment.Fair where
  ended h := by
    rw [hs] at h
    cases h
  asked := by simp [hc]
  once := by simp [hc]

theorem Conserved.append {moments : List (Moment (Observed κ))} {m m' : Machine}
    {calls calls' : List Call} (h : Conserved moments m calls) {moment : Moment (Observed κ)}
    (hfair : moment.Fair) (hlog : calls' = calls++moment.calls)
    (hbalance : moment.stored?.toList.filter (· ≠ endOfInput)++m'.input.map UInt8.toUInt32 =
      (m.input++moment.arrived).map UInt8.toUInt32) :
    Conserved (moments++[moment]) m' calls' where
  balance := by
    have hone : [moment].filterMap Moment.stored? = moment.stored?.toList := by
      cases hs : moment.stored? <;> simp [hs]
    rw [List.filterMap_append,List.filter_append,hone,List.append_assoc,hbalance,List.map_append,
      ← List.append_assoc,h.balance]
    simp
  fair := by
    intro other ho
    rcases List.mem_append.mp ho with ho | ho
    · exact h.fair other ho
    · rw [List.mem_singleton.mp ho]
      exact hfair
  log := by simp [hlog, h.log]

variable [Console κ]

theorem conserved_keeps :
    Keeps fun moments m (observed : Observed κ) => Conserved moments m observed.calls where
  push h bytes := by
    refine h.append (.of_idle rfl rfl) (by simp [Moment.calls]) ?_
    simp [Moment.stored?, Moment.arrived, pushInput]
  close h := by
    refine h.append (.of_idle rfl rfl) (by simp [Moment.calls]) ?_
    simp [Moment.stored?, Moment.arrived, Moment.calls, closeInput]
  answer h _ _ := by
    refine h.append (.of_idle rfl rfl) (by simp [Moment.calls]) ?_
    simp [Moment.stored?, Moment.arrived, Moment.calls]
  resume {moments m m' observed r} h hs he := by
    rcases enter_eq_ready he with ⟨hready,_⟩ | ⟨s,n,hwaits,ht,rfl⟩
    · rw [hs] at hready
      cases hready
    obtain rfl : r = s := State.awaitingInput.inj (hs.symm.trans hwaits)
    have hflow := takeInput?_flow ht
    refine h.append ⟨?_,by simp [Moment.calls],by simp [Moment.calls]⟩ (by simp [Moment.calls]) ?_
    · exact fun hend => ⟨_,_,rfl,hflow.ended hend⟩
    · exact hflow.balance
  turn {moments m m' observed observed' ending} h _ ht := by
    obtain ⟨calls,hlog,hflow,hinput⟩ := draws_of_turn ht
    have hcalls : (Moment.executed m observed ending m' observed').calls = calls := by
      simp [Moment.calls, hlog]
    refine h.append ⟨?_,?_,?_⟩ (by rw [hcalls,hlog]) ?_
    · exact fun hend => ⟨_,_,rfl,hflow.ended hend⟩
    · intro call hc hr
      rw [hcalls] at hc
      obtain ⟨r,hi⟩ := hinput call hc hr
      exact ⟨_,_,r,rfl,hi,hflow.asked call hc hr⟩
    · rw [hcalls]
      exact hflow.once
    · simp only [Moment.arrived, hcalls]
      exact hflow.balance

theorem inputClosed_keeps :
    Keeps fun (_ : List (Moment κ)) m (_ : κ) => m.inputClosed = true where
  push h _ := h
  close _ := rfl
  answer h _ _ := h
  resume h _ he := by
    rcases enter_eq_ready he with ⟨_,rfl⟩ | ⟨r,n,_,ht,rfl⟩
    · exact h
    · exact (takeInput?_inputClosed ht).trans h
  turn h _ ht := by
    unfold Machine.turn at ht
    split at ht
    all_goals
      next he =>
      cases ht
      exact (transition_of_step he).inputClosed h

/-- Whatever a host does with a machine, and whatever its console answers: the values that were stored,
without the marks of the end, and then the bytes in the buffer are the bytes that arrived. Input that is
closed stays closed. -/
theorem input_conserved {refuses : UInt32 → Bool} {program : Array UInt32} {console c : κ}
    {moments : List (Moment κ)} {m : Machine}
    (h : Handles (.ofProgram refuses program) console moments m c) :
    (∃ observed calls,
      Handles (.ofProgram refuses program) (⟨console,[]⟩ : Observed κ) observed m ⟨c,calls⟩ ∧
      observed.map (Moment.map Observed.console) = moments ∧ Conserved observed m calls) ∧
    ∀ later m' c', Handles m c later m' c' → m.inputClosed = true → m'.inputClosed = true := by
  constructor
  · obtain ⟨observed,calls,hobserved,hmap⟩ := h.observe
    have hstart : Conserved ([] : List (Moment (Observed κ))) (.ofProgram refuses program) [] :=
      ⟨rfl,by simp,rfl⟩
    exact ⟨observed,calls,hobserved,hmap,hobserved.invariant conserved_keeps hstart⟩
  · intro later m' c' hlater hclosed
    exact hlater.invariant inputClosed_keeps hclosed

/-- A byte comes from the host and two come in a line. The fourth instruction asks in vain, and is
completed with the mark of the end once the host has closed the input. -/
theorem input_conserved_mixed :
    let refuses : UInt32 → Bool := fun _ => false
    let program : Array UInt32 := #[0xb0000000,0xb0000001,0xb0000002,0xb0000003,0x70000000]
    let console : ScriptedConsole := { lines := [[73,10]] }
    let waiting := ((ofProgram refuses program).pushInput [72]).runFor 9 console
    let halted := waiting.machine.closeInput.runFor 9 waiting.console
    waiting.result = .ok .awaitingInput ∧ halted.result = .ok .halted ∧
    ∃ moments, Handles (.ofProgram refuses program) console moments halted.machine halted.console ∧
      moments.filterMap Moment.stored? = [72,73,10,endOfInput] ∧
      ∃ observed calls, Handles (.ofProgram refuses program) (⟨console,[]⟩ : Observed ScriptedConsole)
          observed halted.machine ⟨halted.console,calls⟩ ∧
        observed.map (Moment.map Observed.console) = moments ∧
        Conserved observed halted.machine calls := by
  intro refuses program console waiting halted
  have hwaiting : waiting.result = .ok .awaitingInput := by
    simp only [waiting]
    cbv
  have hhalted : halted.result = .ok .halted := by
    simp only [halted, waiting]
    cbv
  have hstart : Handles (ofProgram refuses program) console [] (ofProgram refuses program) console :=
    .start
  have h := ((hstart.push [72]).runFor 9).close.runFor 9
  refine ⟨hwaiting,hhalted,_,h,?_,(input_conserved h).1⟩
  cbv

end Machine
end UniversalMachine
