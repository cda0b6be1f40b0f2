import Mathlib
import UniversalMachine.Console.Recorder
import UniversalMachine.Proofs.Finality

/-! An instruction that faults has done nothing. Up to it the run is one that pauses, and of the machine
that it pauses with the fault leaves everything as it was, but for the fetch. -/
namespace UniversalMachine

/-- The program counter points at no platter. -/
def Fault.Lost (fault : Fault) : Prop := ∃ pc size, fault = .invalidProgramCounter pc size

namespace Machine

variable {κ : Type} [Console κ]

/-! ### One instruction -/

/-- A decoded instruction has its platter, and meets other faults only. -/
theorem execute_not_lost {m m' : Machine} {i : Instruction Register} {fault : Fault} {c c' : κ}
    (h : m.execute i c = (.fault fault,m',c')) : ¬ fault.Lost := by
  cases i with
  | conditionalMove a b r => cases h
  | addition a b r => cases h
  | multiplication a b r => cases h
  | notAnd a b r => cases h
  | orthography a value => cases h
  | input r =>
    simp only [execute] at h
    split at h <;> cases h
  | division a b r =>
    simp only [execute] at h
    split at h <;> cases h
    simp [Fault.Lost]
  | halt =>
    simp only [execute] at h
    split at h <;> cases h
    simp [Fault.Lost]
  | output r =>
    simp only [execute] at h
    split at h <;> cases h
    simp [Fault.Lost]
  | arrayIndex a b r =>
    simp only [execute] at h
    split at h <;> cases h
    next he => rcases Heap.read_error he with rfl | ⟨size,rfl⟩ <;> simp [Fault.Lost]
  | arrayAmendment a b r =>
    simp only [execute] at h
    split at h <;> cases h
    next he =>
      rcases Heap.read_error (Heap.write_eq_error he).1 with rfl | ⟨size,rfl⟩ <;> simp [Fault.Lost]
  | allocation b r =>
    simp only [execute] at h
    split at h <;> cases h
    next he =>
      obtain ⟨rfl,_⟩ := Heap.allocate_eq_error he
      simp [Fault.Lost]
  | abandonment r =>
    simp only [execute] at h
    split at h <;> cases h
    next he => rcases Heap.abandon_eq_error he with ⟨rfl | rfl,_⟩ <;> simp [Fault.Lost]
  | loadProgram b r =>
    simp only [execute] at h
    split at h <;> cases h
    next he =>
      obtain ⟨rfl,_⟩ := Heap.loadProgram_eq_error he
      simp [Fault.Lost]

theorem not_lost_of_fetch {m m' : Machine} {word : UInt32} {fault : Fault} {c c' : κ}
    (hf : m.fetch? = some word) (h : m.step c = (.fault fault,m',c')) : ¬ fault.Lost := by
  cases hd : Instruction.decode word with
  | ok i =>
    rw [step_of_decode hf hd] at h
    exact execute_not_lost h
  | error cause =>
    obtain ⟨_,rfl⟩ := Instruction.decode_eq_error_iff.mp hd
    simp only [step, hf, hd] at h
    cases h
    simp [Fault.Lost]

/-- The machine `after` has met `fault` at the next platter of `before`. -/
inductive Meets (before : Machine) (fault : Fault) : Machine → Prop
  | lost (lost : fault.Lost) : Meets before fault { before with state := .faulted fault }
  | fetched {word : UInt32} (executing : ¬ fault.Lost) (fetch : before.fetch? = some word) :
      Meets before fault { before.fetched word with state := .faulted fault }

theorem meets_of_step {m m' : Machine} {fault : Fault} {c c' : κ}
    (h : m.step c = (.fault fault,m',c')) : m.Meets fault (m'.stop fault c').machine := by
  cases transition_of_step h with
  | lost => exact .lost ⟨_,_,rfl⟩
  | fault fetch => exact .fetched (not_lost_of_fetch fetch h) fetch

/-! ### The run up to it -/

/-- A run from `start` has paused with the machine `m` and the console `c`. -/
def Passes (start : Machine) (console : κ) (m : Machine) (c : κ) : Prop :=
  ∃ budget, start.runFor budget console = ⟨.ok .paused,m,c⟩

theorem Passes.ready {start m : Machine} {console c : κ} (h : Passes start console m c) :
    m.state = .ready := by
  obtain ⟨budget,hrun⟩ := h
  have htells := start.runFor_tells budget console
  rw [hrun] at htells
  cases htells with
  | paused hs => exact hs

theorem Passes.next {start m m' : Machine} {console c c' : κ} (h : Passes start console m c)
    (hs : m.step c = (.next,m',c')) : Passes start console m'.tick c' := by
  have hready := h.ready
  obtain ⟨budget,hrun⟩ := h
  refine ⟨budget+1,?_⟩
  rw [← runFor_resume,hrun,Run.resume,runFor_of_ready hready]
  simp only [advance, hs]

theorem passes_loop (start : Machine) (console : κ) :
    Loop (Passes start console) fun r => ∀ fault, r.result = .error fault →
      ∃ before c, Passes start console before c ∧ before.Meets fault r.machine where
  paused _ fault h := by cases h
  next h hs := h.next hs
  halted _ _ fault h := by cases h
  suspended _ _ fault h := by cases h
  fault h hs cause hc := by
    cases hc
    exact ⟨_,_,h,meets_of_step hs⟩

/-- A run that faults now has executed instructions. -/
theorem advance_of_error {m : Machine} {c : κ} {budget : ℕ} {fault : Fault}
    (hm : m.state ≠ .faulted fault) (h : (m.runFor budget c).result = .error fault) :
    ∃ n, m.enter = .ready n ∧ m.runFor budget c = n.advance budget c := by
  cases he : m.enter with
  | ready n => exact ⟨n,rfl,by simp only [runFor, he]⟩
  | done result =>
    simp only [runFor, he] at h
    rcases enter_eq_done he with ⟨_,rfl⟩ | ⟨cause,hs,rfl⟩ | ⟨_,_,rfl⟩
    · cases h
    · cases h
      exact absurd hs hm
    · cases h

/-- A run that faults passes through the machine that meets the fault. -/
theorem runFor_meets {m : Machine} {c : κ} {budget : ℕ} {fault : Fault}
    (hm : m.state ≠ .faulted fault) (h : (m.runFor budget c).result = .error fault) :
    ∃ before c', Passes m c before c' ∧ before.Meets fault (m.runFor budget c).machine := by
  obtain ⟨n,he,hrun⟩ := advance_of_error hm h
  have hstart : Passes m c n c := ⟨0,by simp only [runFor, he, advance]⟩
  rw [hrun] at h ⊢
  exact (passes_loop m c).advance hstart budget fault h

/-! ### The report -/

open Console (Call)

/-- A step itself reports no fault. -/
theorem News.filter_isReportFault {ending : Step} {calls : List Call} (h : News ending calls) :
    calls.filter Call.isReportFault = [] := by
  cases h with
  | silent silent =>
    rw [List.filter_eq_nil_iff]
    intro call hc
    simp [(silent call hc).2]
  | halted => rfl
  | refused => rfl

theorem report_loop : Loop
    (fun _ (observed : Observed κ) => observed.calls.filter Call.isReportFault = [])
    fun r => ∀ fault, r.result = .error fault →
      r.console.calls.filter Call.isReportFault = [.reportFault r.machine.snapshot] where
  paused _ fault h := by cases h
  halted _ _ fault h := by cases h
  suspended _ _ fault h := by cases h
  next h hs := by
    obtain ⟨calls,hcalls,hnews⟩ := news_of_step hs
    rw [hcalls,List.filter_append,h,hnews.filter_isReportFault]
    rfl
  fault {m m' observed observed' cause} h hs fault _ := by
    obtain ⟨calls,hcalls,hnews⟩ := news_of_step hs
    have hlog : (m'.stop cause observed').console.calls =
        observed.calls++calls++[.reportFault m'.snapshot] := by
      rw [← hcalls]
      rfl
    rw [hlog,List.filter_append,List.filter_append,h,hnews.filter_isReportFault]
    rfl

/-- The report is the only one, and shows the machine as the fault leaves it. -/
theorem runFor_report {m : Machine} {observed : Observed κ} {budget : ℕ} {fault : Fault}
    (hm : m.state ≠ .faulted fault) (hc : observed.calls = [])
    (h : (m.runFor budget observed).result = .error fault) :
    (m.runFor budget observed).console.calls.filter Call.isReportFault =
      [.reportFault (m.runFor budget observed).machine.snapshot] := by
  obtain ⟨n,_,hrun⟩ := advance_of_error hm h
  rw [hrun] at h ⊢
  exact report_loop.advance (by rw [hc]; rfl) budget fault h

/-- A machine that faults passes through one that the fault leaves as it was: its registers, its heap, its
input and its count of instructions, and, if the program counter was at fault, all of it. Otherwise the
platter that the counter points at has been fetched, and the counter is one further. The console hears of
one fault, with the state that the machine is left in. -/
theorem fault_undoes_step {m : Machine} (hm : ∀ fault, m.state ≠ .faulted fault) {c : κ} {budget : ℕ}
    {fault : Fault} (h : (m.runFor budget c).result = .error fault) :
    let after := (m.runFor budget c).machine
    (∃ k before c', k < budget ∧ m.runFor k c = ⟨.ok .paused,before,c'⟩ ∧
      (fault.Lost → after = { before with state := .faulted fault }) ∧
      (¬ fault.Lost → ∃ word, before.heap.program[before.pc.toNat]? = some word ∧
        after = { before with
          pc := before.pc+1, lastWord := some word, state := .faulted fault })) ∧
    ∃ c' calls, m.runFor budget (⟨c,[]⟩ : Observed κ) = ⟨.error fault,after,c',calls⟩ ∧
      calls.filter Call.isReportFault = [.reportFault after.snapshot] := by
  intro after
  constructor
  · obtain ⟨before,c',⟨k,hk⟩,hmeets⟩ := runFor_meets (hm fault) h
    have hpaused : (m.runFor k c).result = .ok .paused := by rw [hk]
    have hn : (m.runFor budget c).result ≠ .ok .paused := by
      rw [h]
      simp
    refine ⟨k,before,c',(resume_of_paused hpaused hn).1,hk,?_⟩
    change before.Meets fault after at hmeets
    generalize after = after at hmeets
    cases hmeets with
    | lost lost => exact ⟨fun _ => rfl,fun hl => absurd lost hl⟩
    | @fetched word executing fetch => exact ⟨fun hl => absurd hl executing,fun _ => ⟨word,fetch,rfl⟩⟩
  · obtain ⟨calls,hrun⟩ := m.runFor_observed budget c []
    have hobserved : (m.runFor budget (⟨c,[]⟩ : Observed κ)).result = .error fault := by
      rw [hrun]
      exact h
    have hreport := runFor_report (hm fault) rfl hobserved
    rw [hrun] at hreport
    rw [h] at hrun
    exact ⟨_,calls,hrun,hreport⟩

/-- The machine was suspended, and its byte has arrived. It reads from the array of that number, which there
is not, into the register that holds the number. -/
theorem fault_undoes_step_aliased :
    let refuses : UInt32 → Bool := fun _ => false
    let m : Machine :=
      { ofProgram refuses #[0xb0000001,0x10000049] with
        pc := 1, state := .awaitingInput 1, input := [72,10], lastWord := some 0xb0000001 }
    let console : Recorder := {}
    let fault := Fault.invalidArrayIndex 72
    (∀ fault, m.state ≠ .faulted fault) ∧ (m.runFor 5 console).result = .error fault ∧
    ¬ fault.Lost ∧ (m.runFor 5 console).machine.registers = #v[0,72,0,0,0,0,0,0] ∧
    (m.runFor 5 console).machine.pc = 2 ∧ (m.runFor 5 console).machine.cycle = 1 ∧
    ∃ k before c', k < 5 ∧ m.runFor k console = ⟨.ok .paused,before,c'⟩ ∧
      ∃ word, before.heap.program[before.pc.toNat]? = some word ∧
        (m.runFor 5 console).machine = { before with
          pc := before.pc+1, lastWord := some word, state := .faulted fault } := by
  intro refuses m console fault
  have hm : ∀ fault, m.state ≠ .faulted fault := by simp [m]
  have h : (m.runFor 5 console).result = .error fault := by cbv
  have hl : ¬ fault.Lost := by simp [fault, Fault.Lost]
  obtain ⟨⟨k,before,c',hk,hrun,_,hfetched⟩,_⟩ := fault_undoes_step hm h
  exact ⟨hm,h,hl,by cbv,by cbv,by cbv,k,before,c',hk,hrun,hfetched hl⟩

end Machine
end UniversalMachine
