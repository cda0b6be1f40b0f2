import Mathlib
import UniversalMachine.Proofs.Supply

/-! A machine knows its console by the answers alone. Consoles that answer every call alike lead a
machine through the same run. -/
namespace UniversalMachine

/-- The instruction makes no call on the console. -/
def Instruction.Local {ρ : Type} : Instruction ρ → Prop
  | .halt => False
  | .output _ => False
  | .input _ => False
  | _ => True

namespace Machine

variable {κ μ : Type} [Console κ] [Console μ]

theorem execute_local (m : Machine) {i : Instruction Register} (hi : i.Local) (c : κ) (d : μ) :
    m.execute i c = ((m.execute i d).1,(m.execute i d).2.1,c) := by
  cases i with
  | halt => exact absurd hi id
  | output r => exact absurd hi id
  | input r => exact absurd hi id
  | conditionalMove a b r => rfl
  | addition a b r => rfl
  | multiplication a b r => rfl
  | notAnd a b r => rfl
  | orthography a value => rfl
  | _ =>
    simp only [execute]
    split <;> rfl

/-- The next instruction makes no call on the console, or there is none. -/
def Quiet (m : Machine) : Prop := ∀ i, m.nextInstruction? = some i → i.Local

theorem step_of_decode {m : Machine} {word : UInt32} {i : Instruction Register}
    (hf : m.fetch? = some word) (hd : Instruction.decode word = .ok i) (c : κ) :
    m.step c = (m.fetched word).execute i c := by
  simp only [step, hf, hd]
  rfl

theorem nextInstruction?_of_decode {m : Machine} {word : UInt32} {i : Instruction Register}
    (hf : m.fetch? = some word) (hd : Instruction.decode word = .ok i) :
    m.nextInstruction? = some i := by
  simp [nextInstruction?, hf, hd, Except.toOption]

theorem quiet_or_calls (m : Machine) :
    m.Quiet ∨ ∃ word i, m.fetch? = some word ∧ Instruction.decode word = .ok i ∧ ¬ i.Local := by
  cases hf : m.fetch? with
  | none => exact .inl fun i hi => by simp [nextInstruction?, hf] at hi
  | some word =>
    cases hd : Instruction.decode word with
    | error fault => exact .inl fun i hi => by simp [nextInstruction?, hf, hd, Except.toOption] at hi
    | ok i =>
      by_cases hl : i.Local
      · left
        intro j hj
        rw [nextInstruction?_of_decode hf hd] at hj
        cases hj
        exact hl
      · exact .inr ⟨word,i,rfl,hd,hl⟩

/-- A quiet step leaves its console as it is, and is the same on every console. -/
theorem Quiet.step {m : Machine} (h : m.Quiet) (c : κ) (d : μ) :
    m.step c = ((m.step d).1,(m.step d).2.1,c) := by
  cases hf : m.fetch? with
  | none => simp only [Machine.step, hf]
  | some word =>
    cases hd : Instruction.decode word with
    | error fault => simp only [Machine.step, hf, hd]
    | ok i =>
      rw [step_of_decode hf hd,step_of_decode hf hd]
      exact execute_local _ (h i (nextInstruction?_of_decode hf hd)) c d

/-- Consoles related by `R` answer alike, and stay related. -/
structure Twins (R : κ → μ → Prop) : Prop extends Alike R where
  readLine : ∀ {c d}, R c d →
    (Console.readLine d).1 = (Console.readLine c).1 ∧
    R (Console.readLine c).2 (Console.readLine d).2

/-- The same ending of an instruction, on consoles that are still related. -/
structure SameStep (R : κ → μ → Prop) (x : Step × Machine × κ) (y : Step × Machine × μ) :
    Prop where
  ending : y.1 = x.1
  machine : y.2.1 = x.2.1
  console : R x.2.2 y.2.2

/-- The same run, on consoles that are still related. -/
structure Run.Same (R : κ → μ → Prop) (x : Run κ) (y : Run μ) : Prop where
  result : y.result = x.result
  machine : y.machine = x.machine
  console : R x.console y.console

section Twins
variable {R : κ → μ → Prop} (hR : Twins R) {c : κ} {d : μ} (h : R c d)
include hR h

theorem requestInput_twins (m : Machine) :
    (m.requestInput d).1 = (m.requestInput c).1 ∧
    R (m.requestInput c).2 (m.requestInput d).2 := by
  by_cases hq : m.input = [] ∧ m.inputClosed = false
  · obtain ⟨hi,hc⟩ := hq
    obtain ⟨ha,hn⟩ := hR.readLine h
    rw [requestInput_of_empty hi hc,requestInput_of_empty hi hc]
    exact ⟨congrArg m.receive ha,hn⟩
  · rw [requestInput_of_supplied hq,requestInput_of_supplied hq]
    exact ⟨rfl,h⟩

theorem execute_twins (m : Machine) (i : Instruction Register) :
    SameStep R (m.execute i c) (m.execute i d) := by
  by_cases hi : i.Local
  · rw [execute_local m hi d c]
    refine ⟨rfl,rfl,?_⟩
    rw [execute_local m hi c c]
    exact h
  · cases i with
    | halt =>
      obtain ⟨ha,hn⟩ := hR.announceHalt h
      simp only [execute]
      rcases hd : Console.announceHalt d with ⟨answer,d'⟩
      rcases hc : Console.announceHalt c with ⟨answer',c'⟩
      rw [hd,hc] at ha hn
      subst ha
      cases answer <;> exact ⟨rfl,rfl,hn⟩
    | output r =>
      obtain ⟨ha,hn⟩ := hR.writeByte h (m.get r).toUInt8
      simp only [execute]
      rcases hd : Console.writeByte d (m.get r).toUInt8 with ⟨answer,d'⟩
      rcases hc : Console.writeByte c (m.get r).toUInt8 with ⟨answer',c'⟩
      rw [hd,hc] at ha hn
      subst ha
      cases answer <;> exact ⟨rfl,rfl,hn⟩
    | input r =>
      obtain ⟨hm,hn⟩ := requestInput_twins hR h m
      simp only [execute]
      rw [hm]
      cases (m.requestInput c).1.takeInput? r <;> exact ⟨rfl,rfl,hn⟩
    | _ => exact absurd trivial hi

theorem step_twins (m : Machine) : SameStep R (m.step c) (m.step d) := by
  rcases m.quiet_or_calls with hq | ⟨word,i,hf,hd,_⟩
  · rw [hq.step d c]
    refine ⟨rfl,rfl,?_⟩
    rw [hq.step c c]
    exact h
  · rw [step_of_decode hf hd,step_of_decode hf hd]
    exact execute_twins hR h _ i

theorem advance_twins (m : Machine) (budget : ℕ) :
    Run.Same R (m.advance budget c) (m.advance budget d) := by
  induction budget generalizing m c d with
  | zero => exact ⟨rfl,rfl,h⟩
  | succ budget ih =>
    obtain ⟨hending,hmachine,hn⟩ := step_twins hR h m
    unfold advance
    rcases hx : m.step c with ⟨ending,m',c'⟩
    rcases hy : m.step d with ⟨ending',n',d'⟩
    rw [hx,hy] at hending hmachine hn
    dsimp only at hending hmachine hn
    subst hending hmachine
    cases ending' with
    | next => exact ih hn n'.tick
    | halted => exact ⟨rfl,rfl,hn⟩
    | suspended => exact ⟨rfl,rfl,hn⟩
    | fault fault => exact ⟨rfl,rfl,hR.reportFault hn n'.snapshot⟩

/-- A machine runs alike on consoles that answer alike. -/
theorem runFor_twins (m : Machine) (budget : ℕ) :
    Run.Same R (m.runFor budget c) (m.runFor budget d) := by
  unfold runFor
  split
  · exact ⟨rfl,rfl,h⟩
  · next n _ => exact advance_twins hR h n budget

theorem run?_twins (m : Machine) (fuel : ℕ) :
    Option.Rel (Run.Same R) (m.run? fuel c) (m.run? fuel d) := by
  have hsame := runFor_twins hR h m fuel
  have hnone : m.run? fuel c = none ↔ m.run? fuel d = none := by
    simp only [Option.eq_none_iff_forall_ne_some, ne_eq, run?_eq_some_iff, not_and, forall_eq',
      hsame.result]
  cases hd : m.run? fuel d with
  | none =>
    rw [hnone.mpr hd]
    exact .none
  | some y =>
    have hne : m.run? fuel c ≠ none := fun hc => by simp [hnone.mp hc] at hd
    obtain ⟨x,hx⟩ := Option.ne_none_iff_exists'.mp hne
    rw [hx,← (run?_eq_some_iff.mp hx).1,← (run?_eq_some_iff.mp hd).1]
    exact .some hsame

end Twins
end Machine
end UniversalMachine
