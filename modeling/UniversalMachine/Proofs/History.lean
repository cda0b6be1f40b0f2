import Mathlib
import UniversalMachine.Proofs.Twins

/-! What happens to a machine in the hands of a host, moment by moment, and what it asks of its console
on the way. A console that keeps a log of the calls on it leads a machine through the same history as one
that does not. -/
namespace UniversalMachine

/-- A call on a console, with its answer. -/
inductive Console.Call where
  | readLine (answer : LineRead)
  | writeByte (byte : UInt8) (result : Except Device.Error Unit)
  | announceHalt (result : Except Device.Error Unit)
  | flush (result : Except Device.Error Unit)
  | reportFault (snapshot : Snapshot)

/-- A console with a log of the calls on it, in the order in which they were made. -/
structure Observed (κ : Type) where
  console : κ
  calls : List Console.Call := []

variable {κ : Type} [Console κ]

namespace Observed

/-- The console after a call. -/
def note (observed : Observed κ) (console : κ) (call : Console.Call) : Observed κ :=
  ⟨console,observed.calls++[call]⟩

instance : Console (Observed κ) where
  readLine observed :=
    let (answer,console) := Console.readLine observed.console
    (answer,observed.note console (.readLine answer))
  writeByte observed byte :=
    let (result,console) := Console.writeByte observed.console byte
    (result,observed.note console (.writeByte byte result))
  announceHalt observed :=
    let (result,console) := Console.announceHalt observed.console
    (result,observed.note console (.announceHalt result))
  flush observed :=
    let (result,console) := Console.flush observed.console
    (result,observed.note console (.flush result))
  reportFault observed snapshot :=
    observed.note (Console.reportFault observed.console snapshot) (.reportFault snapshot)

theorem calls_of_readLine {observed observed' : Observed κ} {answer : LineRead}
    (h : Console.readLine observed = (answer,observed')) :
    observed'.calls = observed.calls++[.readLine answer] := by
  cases h
  rfl

theorem calls_of_writeByte {observed observed' : Observed κ} {byte : UInt8}
    {result : Except Device.Error Unit} (h : Console.writeByte observed byte = (result,observed')) :
    observed'.calls = observed.calls++[.writeByte byte result] := by
  cases h
  rfl

theorem calls_of_announceHalt {observed observed' : Observed κ}
    {result : Except Device.Error Unit} (h : Console.announceHalt observed = (result,observed')) :
    observed'.calls = observed.calls++[.announceHalt result] := by
  cases h
  rfl

end Observed

namespace Machine

/-- What a run returns if an instruction ends it. -/
def Step.result : Step → Except Fault Outcome
  | .next => .ok .paused
  | .halted => .ok .halted
  | .suspended => .ok .awaitingInput
  | .fault cause => .error cause

/-- One instruction, with what a run does about its ending: a completed instruction is counted, and a
fault is kept and reported. -/
def turn (m : Machine) (c : κ) : Step × Machine × κ :=
  match m.step c with
  | (.next,m',c') => (.next,m'.tick,c')
  | (.halted,m',c') => (.halted,m'.tick,c')
  | (.suspended,m',c') => (.suspended,m',c')
  | (.fault fault,m',c') => (.fault fault,(m'.stop fault c').machine,(m'.stop fault c').console)

theorem advance_succ (m : Machine) (budget : ℕ) (c : κ) :
    m.advance (budget+1) c = match m.turn c with
      | (.next,m',c') => m'.advance budget c'
      | (ending,m',c') => ⟨ending.result,m',c'⟩ := by
  rw [advance]
  unfold turn
  rcases m.step c with ⟨ending,m',c'⟩
  cases ending <;> rfl

/-- Something that happens to a machine on a console. -/
inductive Moment (κ : Type) where
  /-- The host hands over input. -/
  | pushed (bytes : List UInt8)
  /-- The host ends the input. -/
  | closed
  /-- A run completes the suspended instruction that it finds. -/
  | resumed (register : Register) (before after : Machine)
  /-- A run executes an instruction. -/
  | executed (before : Machine) (console : κ) (ending : Step) (after : Machine) (console' : κ)
  /-- A run comes back, one with a budget or one without. -/
  | returned (budget : Option ℕ) (result : Except Fault Outcome)

def Moment.map {μ : Type} (f : κ → μ) : Moment κ → Moment μ
  | .pushed bytes => .pushed bytes
  | .closed => .closed
  | .resumed r before after => .resumed r before after
  | .executed before c ending after c' => .executed before (f c) ending after (f c')
  | .returned budget result => .returned budget result

/-- The suspended instruction that a run completes, if it finds one. -/
def resumption (m m' : Machine) : List (Moment κ) :=
  match m.state with
  | .awaitingInput r => [.resumed r m m']
  | _ => []

/-- The instructions that advancing executes. -/
def moments (m : Machine) (budget : ℕ) (c : κ) : List (Moment κ) :=
  match budget with
  | 0 => []
  | budget+1 =>
    match m.turn c with
    | (.next,m',c') => .executed m c .next m' c'::m'.moments budget c'
    | (ending,m',c') => [.executed m c ending m' c']

/-- The instructions that a run completes or executes. -/
def runMoments (m : Machine) (budget : ℕ) (c : κ) : List (Moment κ) :=
  match m.enter with
  | .done _ => []
  | .ready m' => m.resumption m'++m'.moments budget c

/-- What a host has done with a machine, and what has happened to it by that. -/
inductive Handles (start : Machine) (console : κ) : List (Moment κ) → Machine → κ → Prop
  | start : Handles start console [] start console
  | push {moments m c} (handles : Handles start console moments m c) (bytes : List UInt8) :
      Handles start console (moments++[Moment.pushed bytes]) (m.pushInput bytes) c
  | close {moments m c} (handles : Handles start console moments m c) :
      Handles start console (moments++[Moment.closed]) m.closeInput c
  | runFor {moments m c} (handles : Handles start console moments m c) (budget : ℕ) :
      Handles start console
        (moments++m.runMoments budget c++[Moment.returned (some budget) (m.runFor budget c).result])
        (m.runFor budget c).machine (m.runFor budget c).console
  | run {moments m c fuel r} (handles : Handles start console moments m c)
      (run : m.run? fuel c = some r) :
      Handles start console (moments++m.runMoments fuel c++[Moment.returned none r.result])
        r.machine r.console

/-! ### Moment by moment -/

theorem turn_state_of_next {m m' : Machine} {c c' : κ} (h : m.turn c = (.next,m',c')) :
    m'.state = m.state := by
  unfold turn at h
  split at h <;> cases h
  next he => exact (transition_of_step he).state_of_next

/-- What the host and every moment of a run keep. -/
structure Keeps (P : List (Moment κ) → Machine → κ → Prop) : Prop where
  push : ∀ {moments m c}, P moments m c → ∀ bytes,
    P (moments++[Moment.pushed bytes]) (m.pushInput bytes) c
  close : ∀ {moments m c}, P moments m c → P (moments++[Moment.closed]) m.closeInput c
  resume : ∀ {moments m m' c r}, P moments m c → m.state = .awaitingInput r →
    m.enter = .ready m' → P (moments++[Moment.resumed r m m']) m' c
  turn : ∀ {moments m m' c c' ending}, P moments m c → m.state = .ready →
    m.turn c = (ending,m',c') → P (moments++[Moment.executed m c ending m' c']) m' c'
  answer : ∀ {moments m c result}, P moments m c → Tells result m → ∀ budget,
    P (moments++[Moment.returned budget result]) m c

section Keeps
variable {P : List (Moment κ) → Machine → κ → Prop} (hP : Keeps P)
include hP

theorem Keeps.advance {past : List (Moment κ)} {m : Machine} {c : κ} (h : P past m c)
    (hs : m.state = .ready) (budget : ℕ) :
    P (past++m.moments budget c) (m.advance budget c).machine (m.advance budget c).console := by
  induction budget generalizing past m c with
  | zero => simpa [moments, Machine.advance] using h
  | succ budget ih =>
    rw [advance_succ]
    unfold moments
    rcases ht : m.turn c with ⟨ending,m',c'⟩
    have hnext := hP.turn h hs ht
    cases ending with
    | next => simpa using ih hnext ((turn_state_of_next ht).trans hs)
    | halted => exact hnext
    | suspended => exact hnext
    | fault fault => exact hnext

theorem Keeps.runFor {past : List (Moment κ)} {m : Machine} {c : κ} (h : P past m c) (budget : ℕ) :
    P (past++m.runMoments budget c) (m.runFor budget c).machine (m.runFor budget c).console := by
  cases he : m.enter with
  | done result => simpa [runMoments, Machine.runFor, he] using h
  | ready m' =>
    simp only [runMoments, Machine.runFor, he]
    rw [← List.append_assoc]
    refine hP.advance ?_ (enter_ready_state he) budget
    rcases enter_eq_ready he with ⟨hs,rfl⟩ | ⟨r,n,hs,_,_⟩
    · simpa [resumption, hs] using h
    · simpa [resumption, hs] using hP.resume h hs he

/-- What holds at the start, and is kept by the host and by every moment of a run, holds at the end. -/
theorem Handles.invariant {start m : Machine} {console c : κ} {moments : List (Moment κ)}
    (hstart : P [] start console) (h : Handles start console moments m c) : P moments m c := by
  induction h with
  | start => exact hstart
  | push _ bytes ih => exact hP.push ih bytes
  | close _ ih => exact hP.close ih
  | @runFor _ m c _ budget ih => exact hP.answer (hP.runFor ih budget) (m.runFor_tells budget c) _
  | @run _ m c fuel r _ run ih =>
    obtain ⟨rfl,_⟩ := run?_eq_some_iff.mp run
    exact hP.answer (hP.runFor ih fuel) (m.runFor_tells fuel c) _

end Keeps

/-! ### Observing changes nothing -/

theorem observed_twins : Twins fun (c : κ) (observed : Observed κ) => observed.console = c where
  readLine := by
    rintro c observed rfl
    exact ⟨rfl,rfl⟩
  writeByte := by
    rintro c observed rfl byte
    exact ⟨rfl,rfl⟩
  announceHalt := by
    rintro c observed rfl
    exact ⟨rfl,rfl⟩
  reportFault := by
    rintro c observed rfl snapshot
    rfl

theorem turn_observed (m : Machine) (observed : Observed κ) :
    m.turn observed.console =
      ((m.turn observed).1,(m.turn observed).2.1,(m.turn observed).2.2.console) := by
  obtain ⟨hending,hmachine,hconsole⟩ := step_twins observed_twins (c := observed.console) rfl m
  unfold turn
  rcases hx : m.step observed.console with ⟨ending,m',c'⟩
  rcases hy : m.step observed with ⟨ending',n',observed'⟩
  rw [hx,hy] at hending hmachine hconsole
  dsimp only at hending hmachine hconsole
  subst hending hmachine hconsole
  cases ending' <;> rfl

theorem moments_observed (m : Machine) (budget : ℕ) (observed : Observed κ) :
    (m.moments budget observed).map (Moment.map Observed.console) =
      m.moments budget observed.console := by
  induction budget generalizing m observed with
  | zero => rfl
  | succ budget ih =>
    unfold moments
    rw [turn_observed]
    rcases m.turn observed with ⟨ending,m',observed'⟩
    cases ending with
    | next =>
      simp only [List.map_cons, ih]
      rfl
    | halted => rfl
    | suspended => rfl
    | fault fault => rfl

theorem runMoments_observed (m : Machine) (budget : ℕ) (observed : Observed κ) :
    (m.runMoments budget observed).map (Moment.map Observed.console) =
      m.runMoments budget observed.console := by
  unfold runMoments
  cases m.enter with
  | done result => rfl
  | ready m' =>
    have hresumption : (m.resumption m').map (Moment.map Observed.console) =
        (m.resumption m' : List (Moment κ)) := by
      unfold resumption
      cases m.state <;> rfl
    simp only [List.map_append, moments_observed, hresumption]

theorem runFor_observed (m : Machine) (budget : ℕ) (c : κ) (calls : List Console.Call) :
    ∃ calls', m.runFor budget (⟨c,calls⟩ : Observed κ) =
      ⟨(m.runFor budget c).result,(m.runFor budget c).machine,(m.runFor budget c).console,calls'⟩ := by
  obtain ⟨hresult,hmachine,hconsole⟩ :=
    runFor_twins observed_twins (c := c) (d := ⟨c,calls⟩) rfl m budget
  refine ⟨(m.runFor budget (⟨c,calls⟩ : Observed κ)).console.calls,?_⟩
  rw [← hresult,← hmachine,← hconsole]

/-- Every history of a machine on a console is one on the same console with a log. -/
theorem Handles.observe {start m : Machine} {console c : κ} {moments : List (Moment κ)}
    (h : Handles start console moments m c) :
    ∃ observed calls, Handles start (⟨console,[]⟩ : Observed κ) observed m ⟨c,calls⟩ ∧
      observed.map (Moment.map Observed.console) = moments := by
  induction h with
  | start => exact ⟨[],[],.start,rfl⟩
  | push _ bytes ih =>
    obtain ⟨observed,calls,hobserved,rfl⟩ := ih
    exact ⟨_,calls,hobserved.push bytes,by simp [Moment.map]⟩
  | close _ ih =>
    obtain ⟨observed,calls,hobserved,rfl⟩ := ih
    exact ⟨_,calls,hobserved.close,by simp [Moment.map]⟩
  | @runFor _ m c _ budget ih =>
    obtain ⟨observed,calls,hobserved,rfl⟩ := ih
    obtain ⟨calls',hrun⟩ := m.runFor_observed budget c calls
    have hnext := hobserved.runFor budget
    rw [hrun] at hnext
    exact ⟨_,calls',hnext,by simp [runMoments_observed, Moment.map]⟩
  | @run _ m c fuel r _ run ih =>
    obtain ⟨observed,calls,hobserved,rfl⟩ := ih
    obtain ⟨rfl,hp⟩ := run?_eq_some_iff.mp run
    obtain ⟨calls',hrun⟩ := m.runFor_observed fuel c calls
    have hnext := hobserved.run (run?_eq_some_iff.mpr ⟨hrun,hp⟩)
    exact ⟨_,calls',hnext,by simp [runMoments_observed, Moment.map]⟩

end Machine
end UniversalMachine
