import Mathlib
import UniversalMachine.Console.Stream
import UniversalMachine.Proofs.Contact
import UniversalMachine.Proofs.History

/-! The end of a machine. A console hears of a halt once and of a fault once, and after that nothing
else. Every later run finds nothing to execute, and answers as the first one did. -/
namespace UniversalMachine

namespace Console.Call

def isAnnounceHalt : Call → Bool
  | .announceHalt _ => true
  | _ => false

def isReportFault : Call → Bool
  | .reportFault _ => true
  | _ => false

end Console.Call

open Console (Call)

namespace Machine

/-- What every run on a machine returns that has come to its end. -/
def State.result? : State → Option (Except Fault Outcome)
  | .halted => some (.ok .halted)
  | .faulted fault => some (.error fault)
  | _ => none

/-- None of the calls was about a halt or a fault. -/
def Silent (calls : List Call) : Prop :=
  ∀ call ∈ calls, call.isAnnounceHalt = false ∧ call.isReportFault = false

theorem silent_append {calls later : List Call} :
    Silent (calls++later) ↔ Silent calls ∧ Silent later := by
  simp only [Silent, List.mem_append, or_imp, forall_and]
  tauto

/-- What a step told its console about the end of the program. -/
inductive News : Step → List Call → Prop
  | silent {ending calls} (silent : Silent calls) (goes : ending ≠ .halted) : News ending calls
  | halted : News .halted [.announceHalt (.ok ())]
  | refused (error : Device.Error) :
      News (.fault (.outputFailed error.kind)) [.announceHalt (.error error)]

/-- All that a console was told, by the state of the machine. -/
inductive Told : State → List Call → Prop
  | going {state calls} (unfinished : state.result? = none) (silent : Silent calls) :
      Told state calls
  | halted {calls} (silent : Silent calls) : Told .halted (calls++[.announceHalt (.ok ())])
  | faulted {calls} (silent : Silent calls) (fault : Fault) (snapshot : Snapshot) :
      Told (.faulted fault) (calls++[.reportFault snapshot])
  /-- The console failed at the halt itself. -/
  | refused {calls} (silent : Silent calls) (error : Device.Error) (snapshot : Snapshot) :
      Told (.faulted (.outputFailed error.kind))
        (calls++[.announceHalt (.error error),.reportFault snapshot])

theorem Told.silent_of_unfinished {state : State} {calls : List Call} (h : Told state calls)
    (hs : state.result? = none) : Silent calls := by
  cases h with
  | going _ silent => exact silent
  | halted => cases hs
  | faulted => cases hs
  | refused => cases hs

/-! ### One instruction -/

section Instruction
variable {κ : Type} [Console κ]

theorem news_of_step {m m' : Machine} {ending : Step} {observed observed' : Observed κ}
    (h : m.step observed = (ending,m',observed')) :
    ∃ calls, observed'.calls = observed.calls++calls ∧ News ending calls := by
  cases contact_of_step h with
  | none => exact ⟨[],by simp,.silent (by simp [Silent]) (by simp)⟩
  | fault => exact ⟨[],by simp,.silent (by simp [Silent]) (by simp)⟩
  | asked _ _ _ read ends =>
    refine ⟨_,Observed.calls_of_readLine read,.silent ?_ ?_⟩
    · simp [Silent, Call.isAnnounceHalt, Call.isReportFault]
    · rcases ends with rfl | rfl <;> simp
  | wrote _ write =>
    refine ⟨_,Observed.calls_of_writeByte write,.silent ?_ (by simp)⟩
    simp [Silent, Call.isAnnounceHalt, Call.isReportFault]
  | refused _ write =>
    refine ⟨_,Observed.calls_of_writeByte write,.silent ?_ (by simp)⟩
    simp [Silent, Call.isAnnounceHalt, Call.isReportFault]
  | halted _ halt => exact ⟨_,Observed.calls_of_announceHalt halt,.halted⟩
  | haltRefused halt => exact ⟨_,Observed.calls_of_announceHalt halt,.refused _⟩

theorem told_of_turn {m m' : Machine} {ending : Step} {observed observed' : Observed κ}
    (h : m.turn observed = (ending,m',observed')) (hs : m.state = .ready)
    (hsilent : Silent observed.calls) : Told m'.state observed'.calls := by
  unfold turn at h
  rcases he : m.step observed with ⟨ending,n,observed''⟩
  obtain ⟨calls,hcalls,hnews⟩ := news_of_step he
  have ht := transition_of_step he
  rw [he] at h
  cases ending with
  | next =>
    cases h
    cases hnews with
    | silent hquiet =>
      have hready : n.tick.state = .ready := ht.state_of_next.trans hs
      rw [hcalls,hready]
      exact .going rfl (silent_append.mpr ⟨hsilent,hquiet⟩)
  | halted =>
    cases h
    have hhalted : n.tick.state = .halted := ht.state_of_halted
    rw [hcalls,hhalted]
    cases hnews with
    | silent _ goes => exact absurd rfl goes
    | halted => exact .halted hsilent
  | suspended =>
    cases h
    obtain ⟨r,hwaits,_,_⟩ := ht.waits_of_suspended
    cases hnews with
    | silent hquiet =>
      rw [hcalls,hwaits]
      exact .going rfl (silent_append.mpr ⟨hsilent,hquiet⟩)
  | fault fault =>
    cases h
    have hlog : (n.stop fault observed'').console.calls =
        observed.calls++(calls++[.reportFault n.snapshot]) := by
      rw [← List.append_assoc,← hcalls]
      rfl
    rw [hlog]
    cases hnews with
    | silent hquiet =>
      rw [← List.append_assoc]
      exact .faulted (silent_append.mpr ⟨hsilent,hquiet⟩) fault n.snapshot
    | refused error => exact .refused hsilent error n.snapshot

theorem told_keeps :
    Keeps fun (_ : List (Moment (Observed κ))) m observed => Told m.state observed.calls where
  push h _ := h
  close h := h
  answer h _ _ := h
  resume {_ m _ _ r} h hs he := by
    have hunfinished : m.state.result? = none := by
      rw [hs]
      rfl
    rw [enter_ready_state he]
    exact .going rfl (h.silent_of_unfinished hunfinished)
  turn {_ m _ _ _ _} h hs ht := by
    have hunfinished : m.state.result? = none := by
      rw [hs]
      rfl
    exact told_of_turn ht hs (h.silent_of_unfinished hunfinished)

theorem Tells.state_eq {result : Except Fault Outcome} {m : Machine} {state : State}
    (h : Tells result m) (hr : state.result? = some result) : m.state = state := by
  cases state with
  | ready => cases hr
  | awaitingInput r => cases hr
  | halted =>
    cases hr
    cases h with
    | halted hs => exact hs
  | faulted fault =>
    cases hr
    cases h with
    | fault hs => exact hs

/-- A run that returned the result of an end has left the machine at that end. -/
theorem returned_keeps :
    Keeps fun (moments : List (Moment κ)) m (_ : κ) => ∀ budget result state,
      .returned budget result ∈ moments → state.result? = some result → m.state = state where
  push h _ budget result state hm hr := h budget result state (by simpa using hm) hr
  close h budget result state hm hr := h budget result state (by simpa using hm) hr
  answer h ht _ budget result state hm hr := by
    rcases List.mem_append.mp hm with hm | hm
    · exact h budget result state hm hr
    · cases List.mem_singleton.mp hm
      exact ht.state_eq hr
  resume {_ m _ _ _} h hs _ budget result state hm hr := by
    have hsame : m.state = state := h budget result state (by simpa using hm) hr
    rw [← hsame,hs] at hr
    cases hr
  turn {_ m _ _ _ _} h hs _ budget result state hm hr := by
    have hsame : m.state = state := h budget result state (by simpa using hm) hr
    rw [← hsame,hs] at hr
    cases hr

end Instruction

/-! ### The end -/

/-- What a console with the log `calls` has heard about the end of `m`. -/
structure Reported (m : Machine) (calls : List Call) : Prop where
  haltOnce : calls.countP Call.isAnnounceHalt ≤ 1
  halted : m.state = .halted ↔ .announceHalt (.ok ()) ∈ calls
  refused : ∀ error, .announceHalt (.error error) ∈ calls →
    m.state = .faulted (.outputFailed error.kind)
  faulted : ∀ fault, m.state = .faulted fault → calls.countP Call.isReportFault = 1
  faultNever : (∀ fault, m.state ≠ .faulted fault) → calls.countP Call.isReportFault = 0

theorem Silent.announceHalt_not_mem {calls : List Call} (h : Silent calls)
    (result : Except Device.Error Unit) : .announceHalt result ∉ calls := by
  intro hm
  cases (h _ hm).1

theorem Silent.countP_announceHalt {calls : List Call} (h : Silent calls) :
    calls.countP Call.isAnnounceHalt = 0 :=
  List.countP_eq_zero.mpr fun call hc => by simp [(h call hc).1]

theorem Silent.countP_reportFault {calls : List Call} (h : Silent calls) :
    calls.countP Call.isReportFault = 0 :=
  List.countP_eq_zero.mpr fun call hc => by simp [(h call hc).2]

theorem Told.reported {m : Machine} {calls : List Call} (h : Told m.state calls) :
    Reported m calls := by
  generalize hs : m.state = state at h
  cases h with
  | going hunfinished silent =>
    have hhalted : state ≠ .halted := by
      rintro rfl
      cases hunfinished
    have hfaulted : ∀ fault, state ≠ .faulted fault := by
      rintro fault rfl
      cases hunfinished
    constructor <;>
      simp [hs, hhalted, hfaulted, silent.announceHalt_not_mem, silent.countP_announceHalt,
        silent.countP_reportFault]
  | halted silent =>
    constructor <;>
      simp [hs, silent.announceHalt_not_mem, silent.countP_announceHalt, silent.countP_reportFault,
        Call.isAnnounceHalt, Call.isReportFault]
  | faulted silent fault snapshot =>
    constructor <;>
      simp [hs, silent.announceHalt_not_mem, silent.countP_announceHalt, silent.countP_reportFault,
        Call.isAnnounceHalt, Call.isReportFault]
  | refused silent error snapshot =>
    constructor <;>
      simp [hs, silent.announceHalt_not_mem, silent.countP_announceHalt, silent.countP_reportFault,
        List.countP_cons, Call.isAnnounceHalt, Call.isReportFault]

theorem enter_of_result {m : Machine} {result : Except Fault Outcome}
    (h : m.state.result? = some result) : m.enter = .done result := by
  unfold enter
  cases hs : m.state with
  | ready => simp [hs, State.result?] at h
  | awaitingInput r => simp [hs, State.result?] at h
  | halted =>
    rw [hs] at h
    cases h
    rfl
  | faulted fault =>
    rw [hs] at h
    cases h
    rfl

variable {κ : Type} [Console κ]

/-- The host can still hand over input at the end, and nothing else happens. -/
theorem ended_keeps {m : Machine} {result : Except Fault Outcome}
    (h : m.state.result? = some result) (c : κ) :
    Keeps fun (_ : List (Moment κ)) m' c' =>
      c' = c ∧ ∃ bytes closed, m' = { m with input := m.input++bytes, inputClosed := closed } where
  push hm bytes := by
    obtain ⟨rfl,before,closed,rfl⟩ := hm
    exact ⟨rfl,before++bytes,closed,by simp [pushInput]⟩
  close hm := by
    obtain ⟨rfl,bytes,_,rfl⟩ := hm
    exact ⟨rfl,bytes,true,rfl⟩
  answer hm _ _ := hm
  resume hm hs _ := by
    obtain ⟨rfl,bytes,closed,rfl⟩ := hm
    dsimp only at hs
    rw [hs] at h
    cases h
  turn hm hs _ := by
    obtain ⟨rfl,bytes,closed,rfl⟩ := hm
    dsimp only at hs
    rw [hs] at h
    cases h

/-- Whatever a host does with a machine, and whatever its console answers: the console hears of a halt
at most once, of a fault exactly if there is one and then once, and the state of the machine is what it
has heard. At the end every run returns the result of that end at once, with the machine and the console
as it found them. -/
theorem end_reported_once {refuses : UInt32 → Bool} {program : Array UInt32} {console c : κ}
    {moments : List (Moment κ)} {m : Machine}
    (h : Handles (.ofProgram refuses program) console moments m c) :
    ∃ observed calls,
      Handles (.ofProgram refuses program) (⟨console,[]⟩ : Observed κ) observed m ⟨c,calls⟩ ∧
      observed.map (Moment.map Observed.console) = moments ∧ Reported m calls ∧
      (∀ budget result state, .returned budget result ∈ moments → state.result? = some result →
        m.state = state) ∧
      ∀ result, m.state.result? = some result →
        ∀ later m' observed', Handles m (⟨c,calls⟩ : Observed κ) later m' observed' →
          observed' = ⟨c,calls⟩ ∧
          (∃ bytes closed, m' = { m with input := m.input++bytes, inputClosed := closed }) ∧
          ∀ budget, m'.runFor budget observed' = ⟨result,m',observed'⟩ ∧
            m'.run? budget observed' = some ⟨result,m',observed'⟩ := by
  obtain ⟨observed,calls,hobserved,hmap⟩ := h.observe
  have hstart : Told (ofProgram refuses program).state [] := .going rfl (by simp [Silent])
  have htold : Told m.state calls := hobserved.invariant told_keeps hstart
  refine ⟨observed,calls,hobserved,hmap,htold.reported,?_,?_⟩
  · exact h.invariant returned_keeps (by simp)
  · intro result hresult later m' observed' hlater
    have hkept := hlater.invariant (ended_keeps hresult _)
      ⟨rfl,[],m.inputClosed,by simp⟩
    obtain ⟨hsame,bytes,closed,hm'⟩ := hkept
    refine ⟨hsame,⟨bytes,closed,hm'⟩,?_⟩
    have hdone : m'.enter = .done result := enter_of_result (by rw [hm']; exact hresult)
    intro budget
    exact ⟨by simp only [runFor, hdone],by simp only [run?, hdone]⟩

/-- The console refuses the news of the halt. The machine stands at the fault from then on, with what
the host hands over after it. -/
theorem end_reported_once_refused :
    let refuses : UInt32 → Bool := fun _ => false
    let program : Array UInt32 := #[0x70000000]
    let console : StreamConsole Device.ScriptedSink :=
      { source := [], sink := { flushes := [some .brokenPipe] } }
    let failed := (ofProgram refuses program).runFor 5 console
    let m := failed.machine
    m.state = .faulted (.outputFailed .brokenPipe) ∧
    ∃ moments calls, Handles (.ofProgram refuses program) console moments m failed.console ∧
      calls.countP Call.isAnnounceHalt ≤ 1 ∧ calls.countP Call.isReportFault = 1 ∧
      .announceHalt (.ok ()) ∉ calls ∧
      (m.pushInput [72]).runFor 5 (⟨failed.console,calls⟩ : Observed _) =
        ⟨.error (.outputFailed .brokenPipe),m.pushInput [72],failed.console,calls⟩ := by
  intro refuses program console failed m
  have hstate : m.state = .faulted (.outputFailed .brokenPipe) := by
    simp only [m, failed]
    cbv
  have hstart : Handles (ofProgram refuses program) console [] (ofProgram refuses program) console :=
    .start
  have h := hstart.runFor 5
  obtain ⟨_,calls,_,_,hreported,_,hfinal⟩ := end_reported_once h
  have hlater : Handles m (⟨failed.console,calls⟩ : Observed _) [.pushed [72]] (m.pushInput [72])
      ⟨failed.console,calls⟩ := Handles.start.push [72]
  have hresult : m.state.result? = some (.error (.outputFailed .brokenPipe)) := by
    rw [hstate]
    rfl
  obtain ⟨_,_,hruns⟩ := hfinal _ hresult _ _ _ hlater
  have hhalted : .announceHalt (.ok ()) ∉ calls := by
    intro hm
    have hs : m.state = .halted := hreported.halted.mpr hm
    rw [hstate] at hs
    cases hs
  exact ⟨hstate,_,calls,h,hreported.haltOnce,hreported.faulted _ hstate,hhalted,(hruns 5).1⟩

end Machine
end UniversalMachine
