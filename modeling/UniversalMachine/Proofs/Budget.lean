import Mathlib
import UniversalMachine.Proofs.BetweenRuns

/-! What the budget of a run counts. It is spent on the instructions that the run fetches. An instruction
that an earlier run has suspended is completed before the first of them and at no expense, so a run that
resumes one can complete one instruction more than its budget. -/
namespace UniversalMachine.Machine

variable {κ : Type}

/-- Whether an instruction that ends like this was completed. -/
def Step.completes : Step → Bool
  | .next => true
  | .halted => true
  | .suspended => false
  | .fault _ => false

def Moment.completes : Moment κ → Bool
  | .resumed _ _ _ => true
  | .executed _ _ ending _ _ => ending.completes
  | _ => false

/-- The number of instructions that were completed. -/
def completed (moments : List (Moment κ)) : ℕ := moments.countP Moment.completes

/-- The number of instructions that a run completes before it fetches one. -/
def resumed (m : Machine) : ℕ :=
  match m.state with
  | .awaitingInput _ => if m.input.isEmpty && !m.inputClosed then 0 else 1
  | _ => 0

theorem Transition.cycle {m m' : Machine} {ending : Step} (h : m.Transition ending m') :
    m'.cycle = m.cycle := by
  cases h with
  | lost => rfl
  | fault => rfl
  | next => rfl
  | halted => rfl
  | input _ _ asked taken =>
    obtain ⟨input,closed,rfl⟩ := asked.eq
    rcases takeInput?_cases taken with ⟨_,_,_,rfl⟩ | ⟨_,_,rfl⟩ <;> rfl
  | suspended _ _ asked _ =>
    obtain ⟨input,closed,rfl⟩ := asked.eq
    rfl

/-- A run that can fetch has completed the suspended instruction that it found, if it found one. -/
theorem resumed_of_enter {m m' : Machine} (h : m.enter = .ready m') :
    m'.cycle = m.cycle+.ofNat m.resumed ∧
      completed (m.resumption m' : List (Moment κ)) = m.resumed := by
  rcases enter_eq_ready h with ⟨hs,rfl⟩ | ⟨r,n,hs,ht,rfl⟩
  · simp [resumed, resumption, hs, completed]
  · have hsupplied : (m.input.isEmpty && !m.inputClosed) = false := by
      by_contra hempty
      have hn : m.takeInput? r = none := by
        rw [takeInput?_eq_none_iff]
        simpa using hempty
      rw [hn] at ht
      cases ht
    have hone : m.resumed = 1 := by simp [resumed, hs, hsupplied]
    have hcycle : n.cycle = m.cycle := by
      rcases takeInput?_cases ht with ⟨_,_,_,rfl⟩ | ⟨_,_,rfl⟩ <;> rfl
    rw [hone]
    refine ⟨?_,?_⟩
    · change n.cycle+1 = m.cycle+1
      rw [hcycle]
    · simp [resumption, hs, completed, Moment.completes]

variable [Console κ]

theorem turn_cycle {m m' : Machine} {c c' : κ} {ending : Step} (h : m.turn c = (ending,m',c')) :
    m'.cycle = m.cycle+.ofNat ending.completes.toNat := by
  unfold turn at h
  split at h
  all_goals
    next he =>
    have hcycle := (transition_of_step he).cycle
    cases h
    simp [tick, stop, Step.completes, hcycle]

/-- The counter and the budget see the same instructions completed, and a pause comes only once the budget is
spent. -/
theorem advance_completed (m : Machine) (budget : ℕ) (c : κ) :
    (m.advance budget c).machine.cycle = m.cycle+.ofNat (completed (m.moments budget c)) ∧
    completed (m.moments budget c) ≤ budget ∧
    ((m.advance budget c).result = .ok .paused → completed (m.moments budget c) = budget) := by
  induction budget generalizing m c with
  | zero => simp [advance, moments, completed]
  | succ budget ih =>
    rw [advance_succ,moments]
    rcases ht : m.turn c with ⟨ending,m',c'⟩
    have hcycle := turn_cycle ht
    cases ending with
    | next =>
      obtain ⟨hrest,hle,hpaused⟩ := ih m' c'
      have hone : completed (Moment.executed m c .next m' c'::m'.moments budget c') =
          completed (m'.moments budget c')+1 := List.countP_cons_of_pos rfl
      dsimp only
      rw [hone]
      refine ⟨?_,by omega,fun hp => by rw [hpaused hp]⟩
      rw [hrest,hcycle,Nat.add_comm _ 1,UInt64.ofNat_add,UInt64.add_assoc]
      rfl
    | halted =>
      refine ⟨hcycle,by simp [completed, Moment.completes, Step.completes],fun hp => ?_⟩
      cases hp
    | suspended =>
      refine ⟨hcycle,by simp [completed, Moment.completes, Step.completes],fun hp => ?_⟩
      cases hp
    | fault fault =>
      refine ⟨hcycle,by simp [completed, Moment.completes, Step.completes],fun hp => ?_⟩
      cases hp

/-- A run counts every instruction that it completes, those that it fetches and the one that it resumes. -/
theorem runFor_completed (m : Machine) (budget : ℕ) (c : κ) :
    (m.runFor budget c).machine.cycle = m.cycle+.ofNat (completed (m.runMoments budget c)) ∧
    completed (m.runMoments budget c) ≤ m.resumed+budget ∧
    ((m.runFor budget c).result = .ok .paused →
      completed (m.runMoments budget c) = m.resumed+budget) := by
  cases he : m.enter with
  | done result =>
    simp only [runFor, runMoments, he]
    refine ⟨by simp [completed],by simp [completed],?_⟩
    rintro rfl
    rcases enter_eq_done he with ⟨_,hr⟩ | ⟨_,_,hr⟩ | ⟨_,_,hr⟩ <;> cases hr
  | ready m' =>
    simp only [runFor, runMoments, he]
    obtain ⟨hcycle,hresumed⟩ := resumed_of_enter (κ := κ) he
    obtain ⟨hrest,hle,hpaused⟩ := m'.advance_completed budget c
    have hsum : completed (m.resumption m'++m'.moments budget c) =
        m.resumed+completed (m'.moments budget c) := by
      rw [← hresumed]
      exact List.countP_append
    rw [hsum]
    refine ⟨?_,by omega,fun hp => by rw [hpaused hp]⟩
    rw [hrest,hcycle,UInt64.ofNat_add,UInt64.add_assoc]

/-- By the counter, a run from `m` completes at most so many instructions, and exactly so many if it
pauses. -/
structure Run.Within (r : Run κ) (m : Machine) (budget : ℕ) : Prop where
  most : r.machine.cycle.toNat ≤ m.cycle.toNat+budget
  paused : r.result = .ok .paused → r.machine.cycle.toNat = m.cycle.toNat+budget

/-- On any machine and any console, a run counts the instructions that it completes. They are at most as many
as its budget, apart from one that it resumes, and exactly as many if it pauses. So a run keeps to its
budget exactly if it resumes nothing, or if it ends by itself before the excess shows. -/
theorem budget_excludes_resumption (m : Machine) (budget : ℕ) (c : κ) :
    let r := m.runFor budget c
    let done := completed (m.runMoments budget c)
    r.machine.cycle = m.cycle+.ofNat done ∧
    done ≤ m.resumed+budget ∧
    (r.result = .ok .paused → done = m.resumed+budget) ∧
    (m.cycle.toNat+m.resumed+budget < 2^64 →
      (r.Within m budget ↔ m.resumed = 0 ∨ r.result ≠ .ok .paused ∧ done ≤ budget)) := by
  intro r done
  obtain ⟨hcycle,hmost,hpaused⟩ := m.runFor_completed budget c
  refine ⟨hcycle,hmost,hpaused,?_⟩
  intro hsmall
  -- the counter does not pass its largest value
  have hcount : r.machine.cycle.toNat = m.cycle.toNat+done := by
    have hdone : done ≤ m.resumed+budget := hmost
    rw [hcycle,UInt64.toNat_add,UInt64.toNat_ofNat']
    change (m.cycle.toNat+done%2^64)%2^64 = m.cycle.toNat+done
    omega
  constructor
  · rintro ⟨hle,heq⟩
    rw [hcount] at hle heq
    by_cases hp : r.result = .ok .paused
    · have hall : done = m.resumed+budget := hpaused hp
      have := heq hp
      exact .inl (by omega)
    · exact .inr ⟨hp,by omega⟩
  · intro h
    rcases h with hnone | ⟨hp,hle⟩
    · rw [hnone,Nat.zero_add] at hmost hpaused
      refine ⟨by rw [hcount]; exact Nat.add_le_add_left hmost _,fun hp => ?_⟩
      rw [hcount]
      exact congrArg _ (hpaused hp)
    · exact ⟨by omega,fun hq => absurd hq hp⟩

/-- The program reads a byte, writes it and halts. It waits, and the byte comes. A run for one instruction
pauses after two, and a run for three comes to the halt. -/
theorem budget_excludes_resumption_fed :
    let refuses : UInt32 → Bool := fun _ => false
    let program : Array UInt32 := #[0xb0000000,0xa0000000,0x70000000]
    let console : Recorder := {}
    let m := ((ofProgram refuses program).runFor 9 console).machine.pushInput [65]
    (m.runFor 1 console).result = .ok .paused ∧ m.resumed = 1 ∧
    completed (m.runMoments 1 console) = 1+1 ∧
    m.cycle.toNat+m.resumed+3 < 2^64 ∧ (m.runFor 3 console).Within m 3 := by
  intro refuses program console m
  have hpaused : (m.runFor 1 console).result = .ok .paused := by
    simp only [m, program, console]
    cbv
  have hresumed : m.resumed = 1 := by
    simp only [m, program, console]
    cbv
  have hcycle : m.cycle.toNat = 0 := by
    simp only [m, program, console]
    cbv
  have hhalts : (m.runFor 3 console).result = .ok .halted := by
    simp only [m, program, console]
    cbv
  have hthree : completed (m.runMoments 3 console) = 3 := by
    simp only [m, program, console]
    cbv
  have hsmall : m.cycle.toNat+m.resumed+3 < 2^64 := by
    rw [hcycle,hresumed]
    decide
  obtain ⟨_,_,hone,_⟩ := budget_excludes_resumption m 1 console
  obtain ⟨_,_,_,hwithin⟩ := budget_excludes_resumption m 3 console
  refine ⟨hpaused,hresumed,?_,hsmall,(hwithin hsmall).mpr (.inr ⟨?_,hthree.le⟩)⟩
  · rw [hone hpaused,hresumed]
  · rw [hhalts]
    simp

/-- A run for one instruction that completes two of them. -/
theorem budget_overrun_resumed :
    let refuses : UInt32 → Bool := fun _ => false
    let program : Array UInt32 := #[0xb0000000,0xa0000000,0x70000000]
    let console : Recorder := {}
    let m := ((ofProgram refuses program).runFor 9 console).machine.pushInput [65]
    let r := m.runFor 1 console
    Reached refuses program m ∧ m.cycle.toNat+1 < 2^64 ∧ r.result = .ok .paused ∧
    m.cycle = 0 ∧ r.machine.cycle = 2 ∧ ¬ r.Within m 1 := by
  intro refuses program console m r
  have hcycle : m.cycle = 0 := by
    simp only [m, program, console]
    cbv
  have hpaused : r.result = .ok .paused := by
    simp only [r, m, program, console]
    cbv
  have hafter : r.machine.cycle = 2 := by
    simp only [r, m, program, console]
    cbv
  have hreached : Reached refuses program m := (Reached.start.runFor 9 console).push [65]
  refine ⟨hreached,by rw [hcycle]; decide,hpaused,hcycle,hafter,?_⟩
  intro hwithin
  have hmost := hwithin.most
  rw [hcycle,hafter] at hmost
  exact absurd hmost (by decide)

end UniversalMachine.Machine
