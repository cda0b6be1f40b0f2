import Mathlib
import UniversalMachine.Console.Recorder
import UniversalMachine.Proofs.Step

/-! A run may be cut into slices anywhere. The budget of a slice can end on a pause, on a halt, on
a fault or on a suspended input instruction, and in each case the next slice goes on exactly where
one run with the joint budget would be. -/
namespace UniversalMachine.Machine

variable {κ : Type} [Console κ]

/-- Runs the machine that a run left, on the console that it left. -/
def Run.resume (r : Run κ) (budget : ℕ) : Run κ := r.machine.runFor budget r.console

/-- A run after which there is nothing to execute. -/
def Run.Stuck (r : Run κ) : Prop := r.machine.enter = .done r.result

theorem Run.Stuck.resume {r : Run κ} (h : r.Stuck) (budget : ℕ) : r.resume budget = r := by
  unfold Run.resume runFor
  rw [h]

/-- What a run finds on a machine that instructions can be fetched from. -/
theorem enter_eq_ready {m m' : Machine} (h : m.enter = .ready m') :
    (m.state = .ready ∧ m' = m) ∨
    ∃ r n, m.state = .awaitingInput r ∧ m.takeInput? r = some n ∧
      m' = { n with state := .ready, cycle := n.cycle+1 } := by
  unfold enter at h
  split at h
  · next hs =>
    cases h
    exact .inl ⟨hs,rfl⟩
  · cases h
  · cases h
  · next r hs =>
    split at h
    · cases h
    · next n ht =>
      cases h
      exact .inr ⟨r,n,hs,ht,rfl⟩

/-- What a run finds on a machine that there is nothing to execute on. -/
theorem enter_eq_done {m : Machine} {result : Except Fault Outcome} (h : m.enter = .done result) :
    (m.state = .halted ∧ result = .ok .halted) ∨
    (∃ fault, m.state = .faulted fault ∧ result = .error fault) ∨
    (m.input = [] ∧ m.inputClosed = false ∧ result = .ok .awaitingInput) := by
  unfold enter at h
  split at h
  · cases h
  · next hs =>
    cases h
    exact .inl ⟨hs,rfl⟩
  · next fault hs =>
    cases h
    exact .inr (.inl ⟨fault,hs,rfl⟩)
  · next r hs =>
    split at h
    · next ht =>
      cases h
      obtain ⟨hi,hc⟩ := takeInput?_eq_none_iff.mp ht
      exact .inr (.inr ⟨hi,hc,rfl⟩)
    · cases h

theorem enter_ready_state {m m' : Machine} (h : m.enter = .ready m') : m'.state = .ready := by
  rcases enter_eq_ready h with ⟨hs,rfl⟩ | ⟨r,n,_,_,rfl⟩
  · exact hs
  · rfl

theorem enter_of_waiting {m : Machine} {r : Register} (hs : m.state = .awaitingInput r)
    (hi : m.input = []) (hc : m.inputClosed = false) : m.enter = .done (.ok .awaitingInput) := by
  have ht : m.takeInput? r = none := takeInput?_eq_none_iff.mpr ⟨hi,hc⟩
  simp [enter, hs, ht]

/-- The machine once its suspended input instruction is completed: the register holds the first byte of
the buffer, or the mark of the end if there is none. -/
def completeInput (m : Machine) (r : Register) : Machine :=
  { m.set r ((m.input.head?.map UInt8.toUInt32).getD 0xFFFFFFFF) with
    input := m.input.tail, cycle := m.cycle+1, state := .ready }

theorem enter_of_supplied {m : Machine} {r : Register} (hs : m.state = .awaitingInput r)
    (h : m.input ≠ [] ∨ m.inputClosed = true) : m.enter = .ready (m.completeInput r) := by
  obtain ⟨registers,heap,pc,cycle,input,closed,state,lastWord⟩ := m
  obtain rfl : state = .awaitingInput r := hs
  cases input with
  | cons byte input => rfl
  | nil =>
    obtain rfl : closed = true := h.resolve_left fun hn => hn rfl
    rfl

theorem runFor_of_ready {m : Machine} (h : m.state = .ready) (budget : ℕ) (console : κ) :
    m.runFor budget console = m.advance budget console := by
  simp [runFor, enter, h]

/-- Every way of advancing leaves a machine that can be fetched from, with its budget spent, or one
that there is nothing to execute on. -/
theorem advance_ready_or_stuck (m : Machine) (budget : ℕ) (console : κ) (h : m.state = .ready) :
    (m.advance budget console).result = .ok .paused ∧
      (m.advance budget console).machine.state = .ready ∨
    (m.advance budget console).result ≠ .ok .paused ∧ (m.advance budget console).Stuck := by
  induction budget generalizing m console with
  | zero => exact .inl ⟨rfl,h⟩
  | succ budget ih =>
    unfold advance
    split
    · next m' c' he =>
      have hs := (transition_of_step he).state_of_next
      exact ih m'.tick c' (hs.trans h)
    · next m' c' he =>
      have hs : m'.tick.state = .halted := (transition_of_step he).state_of_halted
      exact .inr ⟨by simp,by simp [Run.Stuck, enter, hs]⟩
    · next m' c' he =>
      obtain ⟨r,hs,hi,hc⟩ := (transition_of_step he).waits_of_suspended
      exact .inr ⟨by simp,enter_of_waiting hs hi hc⟩
    · exact .inr ⟨by simp [stop],by simp [Run.Stuck, stop, enter]⟩

/-- What the result of a run tells about the machine that it leaves. -/
inductive Tells : Except Fault Outcome → Machine → Prop
  | paused {m} (state : m.state = .ready) : Tells (.ok .paused) m
  | halted {m} (state : m.state = .halted) : Tells (.ok .halted) m
  | awaitingInput {m r} (state : m.state = .awaitingInput r) (empty : m.input = [])
      (isOpen : m.inputClosed = false) : Tells (.ok .awaitingInput) m
  | fault {m fault} (state : m.state = .faulted fault) : Tells (.error fault) m

/-- The result of a run that leaves a machine in this state. -/
def State.told : State → Except Fault Outcome
  | .ready => .ok .paused
  | .halted => .ok .halted
  | .awaitingInput _ => .ok .awaitingInput
  | .faulted fault => .error fault

theorem Tells.result_eq {result : Except Fault Outcome} {m : Machine} (h : Tells result m) :
    result = m.state.told := by
  cases h with
  | paused state => rw [state]; rfl
  | halted state => rw [state]; rfl
  | awaitingInput state => rw [state]; rfl
  | fault state => rw [state]; rfl

theorem tells_loop : Loop (fun m (_ : κ) => m.state = .ready) fun r => Tells r.result r.machine where
  paused h := .paused h
  next h he := (transition_of_step he).state_of_next.trans h
  halted _ he := .halted (transition_of_step he).state_of_halted
  suspended _ he := by
    obtain ⟨r,hs,hi,hc⟩ := (transition_of_step he).waits_of_suspended
    exact .awaitingInput hs hi hc
  fault _ _ := .fault rfl

theorem runFor_tells (m : Machine) (budget : ℕ) (console : κ) :
    Tells (m.runFor budget console).result (m.runFor budget console).machine := by
  cases he : m.enter with
  | ready m' =>
    simp only [runFor, he]
    exact tells_loop.advance (enter_ready_state he) budget
  | done result =>
    simp only [runFor, he]
    unfold enter at he
    split at he
    · cases he
    · next hs =>
      cases he
      exact .halted hs
    · next hs =>
      cases he
      exact .fault hs
    · next r hs =>
      split at he
      · next ht =>
        cases he
        obtain ⟨hi,hc⟩ := takeInput?_eq_none_iff.mp ht
        exact .awaitingInput hs hi hc
      · cases he

theorem advance_resume (m : Machine) (first later : ℕ) (console : κ) (h : m.state = .ready) :
    (m.advance first console).resume later = m.advance (first+later) console := by
  induction first generalizing m console with
  | zero =>
    rw [Nat.zero_add]
    exact runFor_of_ready h later console
  | succ first ih =>
    have hstop := m.advance_ready_or_stuck (first+1) console h
    rw [Nat.succ_add]
    unfold advance at hstop ⊢
    split
    · next m' c' he =>
      have hs := (transition_of_step he).state_of_next
      exact ih m'.tick c' (hs.trans h)
    -- the first slice has ended for good, and another one finds nothing to execute
    all_goals
      next he =>
      simp only [he] at hstop
      rcases hstop with ⟨hp,_⟩ | ⟨_,hd⟩
      · simp [stop] at hp
      · exact hd.resume later

/-- A run that did not pause has nothing left to execute. -/
theorem runFor_stuck {m : Machine} {budget : ℕ} {console : κ}
    (h : (m.runFor budget console).result ≠ .ok .paused) : (m.runFor budget console).Stuck := by
  unfold runFor at h ⊢
  split at h
  · next result he => exact he
  · next m' he =>
    rcases m'.advance_ready_or_stuck budget console (enter_ready_state he) with ⟨hp,_⟩ | ⟨_,hd⟩
    · exact absurd hp h
    · exact hd

/-- Two slices in a row are one run with both budgets. -/
theorem runFor_resume (m : Machine) (first later : ℕ) (console : κ) :
    (m.runFor first console).resume later = m.runFor (first+later) console := by
  cases he : m.enter with
  | done result =>
    have hd : (m.runFor first console).Stuck := by simp [Run.Stuck, runFor, he]
    rw [hd.resume]
    simp [runFor, he]
  | ready m' =>
    simp only [runFor, he]
    exact m'.advance_resume first later console (enter_ready_state he)

/-- A larger budget does not change a run that did not pause. -/
theorem runFor_of_le {m : Machine} {budget larger : ℕ} {console : κ}
    (h : (m.runFor budget console).result ≠ .ok .paused) (hl : budget ≤ larger) :
    m.runFor larger console = m.runFor budget console := by
  obtain ⟨extra,rfl⟩ := Nat.exists_eq_add_of_le hl
  rw [← runFor_resume]
  exact (runFor_stuck h).resume extra

/-- A slice that pauses on the way to the end leaves the rest of the budget to the slices after it. -/
theorem resume_of_paused {m : Machine} {first budget : ℕ} {console : κ}
    (hp : (m.runFor first console).result = .ok .paused)
    (hn : (m.runFor budget console).result ≠ .ok .paused) :
    first < budget ∧
      (m.runFor first console).resume (budget-first) = m.runFor budget console := by
  have hlt : first < budget := by
    by_contra hle
    rw [← runFor_of_le hn (Nat.le_of_not_lt hle)] at hn
    exact hn hp
  refine ⟨hlt,?_⟩
  rw [runFor_resume,Nat.add_sub_cancel' hlt.le]

theorem exhaust?_eq_some_iff {m : Machine} {fuel : ℕ} {console : κ} {r : Run κ} :
    m.exhaust? fuel console = some r ↔
      m.advance fuel console = r ∧ r.result ≠ .ok .paused := by
  induction fuel generalizing m console with
  | zero =>
    simp only [exhaust?, advance, reduceCtorEq, false_iff]
    rintro ⟨rfl,h⟩
    exact h rfl
  | succ fuel ih =>
    unfold exhaust? advance
    split
    · exact ih
    all_goals
      simp only [Option.some.injEq]
      refine ⟨?_,And.left⟩
      rintro rfl
      simp [stop]

/-- The fuel of a run without a budget is a budget that it does not use up. -/
theorem run?_eq_some_iff {m : Machine} {fuel : ℕ} {console : κ} {r : Run κ} :
    m.run? fuel console = some r ↔ m.runFor fuel console = r ∧ r.result ≠ .ok .paused := by
  unfold run? runFor
  split
  · next result he =>
    simp only [Option.some.injEq]
    refine ⟨?_,And.left⟩
    rintro rfl
    refine ⟨rfl,?_⟩
    rintro rfl
    rcases enter_eq_done he with ⟨_,hr⟩ | ⟨_,_,hr⟩ | ⟨_,_,hr⟩ <;> cases hr
  · exact exhaust?_eq_some_iff

/-- The run without a budget comes back, as the run `r`. -/
def Ends (m : Machine) (console : κ) (r : Run κ) : Prop := ∃ fuel, m.run? fuel console = some r

theorem ends_iff {m : Machine} {console : κ} {r : Run κ} :
    m.Ends console r ↔ ∃ budget, m.runFor budget console = r ∧ r.result ≠ .ok .paused := by
  simp only [Ends, run?_eq_some_iff]

theorem Ends.unique {m : Machine} {console : κ} {r s : Run κ} (hr : m.Ends console r)
    (hs : m.Ends console s) : r = s := by
  obtain ⟨a,rfl,ha⟩ := ends_iff.mp hr
  obtain ⟨b,rfl,hb⟩ := ends_iff.mp hs
  rcases Nat.le_total a b with h | h
  · exact (runFor_of_le ha h).symm
  · exact runFor_of_le hb h

/-- Two runs that were once the same end alike. -/
theorem ends_congr {m n : Machine} {c d : κ} {a b : ℕ} (h : m.runFor a c = n.runFor b d)
    (r : Run κ) : m.Ends c r ↔ n.Ends d r := by
  have hadd : ∀ k, m.runFor (a+k) c = n.runFor (b+k) d := by
    intro k
    rw [← runFor_resume,← runFor_resume,h]
  rw [ends_iff,ends_iff]
  constructor
  · rintro ⟨k,rfl,hk⟩
    refine ⟨b+k,?_,hk⟩
    rw [← hadd,runFor_of_le hk (Nat.le_add_left k a)]
  · rintro ⟨k,rfl,hk⟩
    refine ⟨a+k,?_,hk⟩
    rw [hadd,runFor_of_le hk (Nat.le_add_left k b)]

/-- A run that was interrupted anywhere ends as it would have. -/
theorem ends_resume (m : Machine) (budget : ℕ) (console : κ) (r : Run κ) :
    m.Ends console r ↔
      (m.runFor budget console).machine.Ends (m.runFor budget console).console r := by
  refine ends_congr (a := budget) (b := 0) ?_ r
  exact (m.runFor_resume budget 0 console).symm

theorem foldl_resume (m : Machine) (first : ℕ) (later : List ℕ) (console : κ) :
    later.foldl Run.resume (m.runFor first console) = m.runFor (first+later.sum) console := by
  induction later generalizing first with
  | nil => rfl
  | cons budget later ih =>
    rw [List.foldl_cons,runFor_resume,ih,List.sum_cons,Nat.add_assoc]

/-- Slices run in a row leave the machine and the console as one run with the sum of their budgets
does, and the last of them returns its result. A run that did not pause is the run without a
budget. -/
theorem slicing_invisible (m : Machine) (console : κ) (first : ℕ) (later : List ℕ) :
    later.foldl Run.resume (m.runFor first console) = m.runFor (first+later.sum) console ∧
    ∀ budget, (m.runFor budget console).result ≠ .ok .paused →
      ∀ r, m.Ends console r ↔ r = m.runFor budget console := by
  refine ⟨m.foldl_resume first later console,?_⟩
  intro budget hp r
  have he : m.Ends console (m.runFor budget console) := ends_iff.mpr ⟨budget,rfl,hp⟩
  constructor
  · exact fun hr => hr.unique he
  · rintro rfl
    exact he

/-- A machine that waits for a byte which has arrived since: the first slice stores it, the second
writes it, and the third halts. -/
theorem slicing_invisible_resumed :
    let refuses : UInt32 → Bool := fun _ => false
    let m : Machine :=
      { ofProgram refuses #[0xa0000002,0x70000000] with state := .awaitingInput 2, input := [72] }
    let console : Recorder := {}
    [1,1].foldl Run.resume (m.runFor 0 console) = m.runFor 2 console ∧
    (m.runFor 2 console).result = .ok .halted ∧
    ∀ r, m.Ends console r ↔ r = m.runFor 2 console := by
  intro refuses m console
  have h := slicing_invisible m console 0 [1,1]
  have hr : (m.runFor 2 console).result = .ok .halted := by cbv
  refine ⟨h.1,hr,h.2 2 ?_⟩
  rw [hr]
  simp

end UniversalMachine.Machine
