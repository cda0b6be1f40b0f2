import Mathlib
import UniversalMachine.Console.Scripted
import UniversalMachine.Proofs.Supply

/-! How input reaches a machine is invisible to its program: the console may answer with the lines,
a host may hand over everything before the run, or one line at each suspension. -/
namespace UniversalMachine.Machine

variable {κ μ : Type} [Console κ] [Console μ]

theorem closed_loop : Loop (fun m (_ : κ) => m.inputClosed = true)
    fun r => r.result ≠ .ok .awaitingInput ∧ r.machine.inputClosed = true where
  paused h := ⟨by simp,h⟩
  next h he := (transition_of_step he).inputClosed h
  halted h he := ⟨by simp,(transition_of_step he).inputClosed h⟩
  suspended h he := absurd (transition_of_step he) (Transition.not_suspended h)
  fault h he := ⟨by simp [stop],(transition_of_step he).inputClosed h⟩

/-- A machine whose input is closed does not wait, and its input stays closed. -/
theorem runFor_closed {m : Machine} (h : m.inputClosed = true) (budget : ℕ) (console : κ) :
    (m.runFor budget console).result ≠ .ok .awaitingInput ∧
      (m.runFor budget console).machine.inputClosed = true := by
  cases hm : m.enter with
  | ready m' =>
    have hc : m'.inputClosed = true := by
      rcases enter_eq_ready hm with ⟨_,rfl⟩ | ⟨r,n,_,ht,rfl⟩
      · exact h
      · exact (takeInput?_inputClosed ht).trans h
    simp only [runFor, hm]
    exact closed_loop.advance hc budget
  | done result =>
    simp only [runFor, hm]
    rcases enter_eq_done hm with ⟨_,rfl⟩ | ⟨fault,_,rfl⟩ | ⟨_,hc,_⟩
    · exact ⟨by simp,h⟩
    · exact ⟨by simp,h⟩
    · rw [h] at hc
      cases hc

/-- How a host runs a machine to its end: each suspension is answered with the next line, and with
the end of the input once there is none left. -/
inductive Served : Machine → κ → List (List UInt8) → Run κ → Prop
  | finish {m c lines r} (run : m.Ends c r) (final : r.result ≠ .ok .awaitingInput) :
      Served m c lines r
  | line {m c line lines r s} (run : m.Ends c r) (waits : r.result = .ok .awaitingInput)
      (later : Served (r.machine.pushInput line) r.console lines s) : Served m c (line::lines) s
  | close {m c r s} (run : m.Ends c r) (waits : r.result = .ok .awaitingInput)
      (later : Served r.machine.closeInput r.console [] s) : Served m c [] s

section Withholds
variable {P : κ → μ → Prop} (hP : Withholds P) {m : Machine} {bytes : List UInt8} {c : κ} {d : μ}
include hP

/-- A run without input that comes back has either finished, and so has the run with all of the
input at hand, or it waits, and the other run is the one that goes on from there. -/
theorem ends_withholds (h : P c d) (he : m.Expects bytes) {x : Run κ} (hx : m.Ends c x) :
    (x.result ≠ .ok .awaitingInput ∧
      ∃ y, (m.supply bytes).Ends d y ∧ Run.Matches P bytes x y) ∨
    (x.result = .ok .awaitingInput ∧ x.machine.Expects bytes ∧
      ∃ d', P x.console d' ∧ ∀ y, (m.supply bytes).Ends d y ↔ (x.machine.supply bytes).Ends d' y) := by
  obtain ⟨budget,rfl,hp⟩ := ends_iff.mp hx
  rcases runFor_withholds hP h he budget with hm | ⟨hr,hexp,left,d',hd,hy⟩
  · left
    refine ⟨?_,_,ends_iff.mpr ⟨budget,rfl,?_⟩,hm⟩
    · rw [← hm.result]
      exact (runFor_closed rfl budget d).1
    · rw [hm.result]
      exact hp
  · exact .inr ⟨hr,hexp,d',hd,ends_congr hy⟩

theorem exists_ends_of_supply (h : P c d) (he : m.Expects bytes) {y : Run μ}
    (hy : (m.supply bytes).Ends d y) : ∃ x, m.Ends c x := by
  obtain ⟨budget,rfl,hp⟩ := ends_iff.mp hy
  refine ⟨_,ends_iff.mpr ⟨budget,rfl,?_⟩⟩
  rcases runFor_withholds hP h he budget with hm | hw
  · rw [← hm.result]
    exact hp
  · rw [hw.result]
    simp

theorem Served.supply {lines : List (List UInt8)} {x : Run κ} (hx : Served m c lines x) (h : P c d)
    (he : m.Expects lines.flatten) :
    ∃ rest y, (m.supply lines.flatten).Ends d y ∧ Run.Matches P rest x y := by
  induction hx generalizing d with
  | finish run final =>
    rcases ends_withholds hP h he run with ⟨_,y,hy,hm⟩ | ⟨hw,_⟩
    · exact ⟨_,y,hy,hm⟩
    · exact absurd hw final
  | @line m c line lines r s run waits later ih =>
    rcases ends_withholds hP h he run with ⟨hw,_⟩ | ⟨_,hexp,d',hd,hiff⟩
    · exact absurd waits hw
    · have hl : (r.machine.pushInput line).Expects lines.flatten :=
        fun hc => (List.append_eq_nil_iff.mp (hexp hc)).2
      obtain ⟨rest,y,hy,hm⟩ := ih hd hl
      rw [supply_pushInput] at hy
      exact ⟨rest,y,(hiff y).mpr hy,hm⟩
  | @close m c r s run waits later ih =>
    rcases ends_withholds hP h he run with ⟨hw,_⟩ | ⟨_,_,d',hd,hiff⟩
    · exact absurd waits hw
    · obtain ⟨rest,y,hy,hm⟩ := ih hd (fun _ => rfl)
      exact ⟨rest,y,(hiff y).mpr hy,hm⟩

/-- If the machine with all of its input comes to an end, a host can serve the other one to its
end: every suspension uses up a line, and there is none after the input was closed. -/
theorem exists_served {lines : List (List UInt8)} (h : P c d) (he : m.Expects lines.flatten)
    {y : Run μ} (hy : (m.supply lines.flatten).Ends d y) : ∃ x, Served m c lines x := by
  induction lines generalizing m c d with
  | nil =>
    obtain ⟨x,hx⟩ := exists_ends_of_supply hP h he hy
    rcases ends_withholds hP h he hx with ⟨hf,_⟩ | ⟨hw,_,d',hd,hiff⟩
    · exact ⟨x,.finish hx hf⟩
    · have hn : (x.machine.closeInput.supply []).Ends d' y := (hiff y).mp hy
      obtain ⟨x',hx'⟩ := exists_ends_of_supply hP hd (fun _ => rfl) hn
      have hf : x'.result ≠ .ok .awaitingInput := by
        obtain ⟨budget,rfl,_⟩ := ends_iff.mp hx'
        exact (runFor_closed rfl budget x.console).1
      exact ⟨x',.close hx hw (.finish hx' hf)⟩
  | cons line lines ih =>
    obtain ⟨x,hx⟩ := exists_ends_of_supply hP h he hy
    rcases ends_withholds hP h he hx with ⟨hf,_⟩ | ⟨hw,hexp,d',hd,hiff⟩
    · exact ⟨x,.finish hx hf⟩
    · have hl : (x.machine.pushInput line).Expects lines.flatten :=
        fun hc => (List.append_eq_nil_iff.mp (hexp hc)).2
      have hn : ((x.machine.pushInput line).supply lines.flatten).Ends d' y := by
        rw [supply_pushInput]
        exact (hiff y).mp hy
      obtain ⟨x',hx'⟩ := ih hd hl hn
      exact ⟨x',.line hx hw hx'⟩

end Withholds

/-- The ways in which the lines of a script reach a machine. -/
inductive Delivery where
  /-- The console answers with the lines, and then with the end of the input. -/
  | byConsole
  /-- All bytes are pushed and the input is closed before the run. -/
  | inAdvance
  /-- The console has nothing, and a host answers each suspension. -/
  | onDemand

/-- Delivered so, the lines take the program to its end, which is the run `r`. -/
def Delivery.Ends (refuses : UInt32 → Bool) (program : Array UInt32) (lines : List (List UInt8))
    (r : Run ScriptedConsole) : Delivery → Prop
  | byConsole => (ofProgram refuses program).Ends (.ofLines lines) r
  | inAdvance => ((ofProgram refuses program).pushInput lines.flatten).closeInput.Ends {} r
  | onDemand => Served (ofProgram refuses program) {} lines r

/-- The same ending, as far as the program can tell and its output shows. -/
structure Run.Agrees (r s : Run ScriptedConsole) : Prop where
  result : r.result = s.result
  registers : r.machine.registers = s.machine.registers
  heap : r.machine.heap = s.machine.heap
  pc : r.machine.pc = s.machine.pc
  cycle : r.machine.cycle = s.machine.cycle
  lastWord : r.machine.lastWord = s.machine.lastWord
  output : r.console.output = s.console.output

theorem Run.Agrees.symm {r s : Run ScriptedConsole} (h : r.Agrees s) : s.Agrees r :=
  ⟨h.result.symm,h.registers.symm,h.heap.symm,h.pc.symm,h.cycle.symm,h.lastWord.symm,
    h.output.symm⟩

theorem Run.Agrees.trans {r s t : Run ScriptedConsole} (h : r.Agrees s) (g : s.Agrees t) :
    r.Agrees t :=
  ⟨h.result.trans g.result,h.registers.trans g.registers,h.heap.trans g.heap,h.pc.trans g.pc,
    h.cycle.trans g.cycle,h.lastWord.trans g.lastWord,h.output.trans g.output⟩

theorem Run.Matches.agrees {R : ScriptedConsole → ScriptedConsole → Prop}
    (hR : ∀ {c d}, R c d → c.output = d.output) {bytes : List UInt8} {x y : Run ScriptedConsole}
    (h : Run.Matches R bytes x y) : x.Agrees y := by
  obtain ⟨result,m,c⟩ := x
  obtain ⟨result',n,d⟩ := y
  obtain ⟨hr,hm,hc,_⟩ := h
  dsimp only at hr hm hc
  subst hr hm
  exact ⟨rfl,rfl,rfl,rfl,rfl,rfl,hR hc⟩

/-- The first console answers with `bytes` and then with the end of the input. -/
def ScriptDelivers (bytes : List UInt8) (c d : ScriptedConsole) : Prop :=
  c.endOfInput = true ∧ (∀ line ∈ c.lines, line ≠ []) ∧ c.lines.flatten = bytes ∧
    c.output = d.output

/-- The first console has no lines, and does not say that there will be none. -/
def ScriptWithholds (c d : ScriptedConsole) : Prop :=
  c.endOfInput = false ∧ c.lines = [] ∧ c.output = d.output

theorem scriptDelivers : Delivers ScriptDelivers where
  alike bytes := {
    writeByte := by
      rintro c d ⟨he,hl,hb,ho⟩ byte
      exact ⟨rfl,he,hl,hb,congrArg (Array.push · byte) ho⟩
    announceHalt := fun h => ⟨rfl,h⟩
    reportFault := fun h _ => h }
  readLine := by
    rintro bytes ⟨lines,endOfInput,output,lineRequests,halts,faults⟩ d ⟨he,hl,rfl,ho⟩
    dsimp only at he hl ho
    subst he
    cases lines with
    | nil => exact .inr ⟨_,rfl,rfl,rfl,hl,rfl,ho⟩
    | cons line lines =>
      left
      refine ⟨line,lines.flatten,_,hl line (by simp),rfl,rfl,rfl,?_,rfl,ho⟩
      exact fun l h => hl l (List.mem_cons_of_mem _ h)

theorem scriptWithholds : Withholds ScriptWithholds where
  alike := {
    writeByte := by
      rintro c d ⟨he,hl,ho⟩ byte
      exact ⟨rfl,he,hl,congrArg (Array.push · byte) ho⟩
    announceHalt := fun h => ⟨rfl,h⟩
    reportFault := fun h _ => h }
  readLine := by
    rintro ⟨lines,endOfInput,output,lineRequests,halts,faults⟩ d ⟨he,hl,ho⟩
    dsimp only at he hl ho
    subst he hl
    exact ⟨_,rfl,rfl,rfl,ho⟩

theorem ofProgram_expects (refuses : UInt32 → Bool) (program : Array UInt32) (bytes : List UInt8) :
    (ofProgram refuses program).Expects bytes := fun h => by cases h

theorem runFor_byConsole (refuses : UInt32 → Bool) (program : Array UInt32)
    {lines : List (List UInt8)} (hl : ∀ line ∈ lines, line ≠ []) (budget : ℕ) :
    ((ofProgram refuses program).runFor budget (ScriptedConsole.ofLines lines)).Agrees
      (((ofProgram refuses program).supply lines.flatten).runFor budget {}) := by
  have h : ScriptDelivers lines.flatten (.ofLines lines) {} := ⟨rfl,hl,rfl,rfl⟩
  obtain ⟨rest,hm⟩ := advance_delivers scriptDelivers h (ofProgram_expects refuses program _) budget
  rw [runFor_of_ready rfl,runFor_of_ready rfl]
  exact hm.agrees fun h => h.2.2.2

namespace Delivery

variable {refuses : UInt32 → Bool} {program : Array UInt32} {lines : List (List UInt8)}
  {r : Run ScriptedConsole}

/-- Every ending is also one with all of the input at hand. -/
theorem exists_inAdvance (hl : ∀ line ∈ lines, line ≠ []) (how : Delivery)
    (h : how.Ends refuses program lines r) : ∃ s, inAdvance.Ends refuses program lines s ∧ r.Agrees s := by
  cases how with
  | byConsole =>
    obtain ⟨budget,rfl,hp⟩ := ends_iff.mp h
    have ha := runFor_byConsole refuses program hl budget
    refine ⟨_,ends_iff.mpr ⟨budget,rfl,?_⟩,ha⟩
    exact fun hs => hp (ha.result.trans hs)
  | inAdvance => exact ⟨r,h,rfl,rfl,rfl,rfl,rfl,rfl,rfl⟩
  | onDemand =>
    obtain ⟨rest,s,hs,hm⟩ :=
      Served.supply scriptWithholds h ⟨rfl,rfl,rfl⟩ (ofProgram_expects refuses program _)
    exact ⟨s,hs,hm.agrees fun h => h.2.2⟩

/-- A program that ends with all of the input at hand ends under every delivery. -/
theorem exists_of_inAdvance (hl : ∀ line ∈ lines, line ≠ []) (how : Delivery)
    (h : inAdvance.Ends refuses program lines r) : ∃ s, how.Ends refuses program lines s := by
  cases how with
  | byConsole =>
    obtain ⟨budget,rfl,hp⟩ := ends_iff.mp h
    have ha := runFor_byConsole refuses program hl budget
    refine ⟨_,ends_iff.mpr ⟨budget,rfl,?_⟩⟩
    exact fun hs => hp (ha.result.symm.trans hs)
  | inAdvance => exact ⟨r,h⟩
  | onDemand =>
    exact exists_served scriptWithholds ⟨rfl,rfl,rfl⟩ (ofProgram_expects refuses program _) h

theorem inAdvance_result (h : inAdvance.Ends refuses program lines r) :
    r.result = .ok .halted ∨ ∃ fault, r.result = .error fault := by
  obtain ⟨budget,hb,hp⟩ := ends_iff.mp h
  have hw : r.result ≠ .ok .awaitingInput := by
    rw [← hb]
    exact (runFor_closed rfl budget _).1
  cases hr : r.result with
  | error fault => exact .inr ⟨fault,rfl⟩
  | ok outcome =>
    cases outcome with
    | halted => exact .inl rfl
    | awaitingInput => exact absurd hr hw
    | paused => exact absurd hr hp

end Delivery

/-- However the lines of a script are delivered, a program that comes to an end halts or faults,
comes to an end under every other delivery too, and ends there in the same way. -/
theorem delivery_invisible (refuses : UInt32 → Bool) (program : Array UInt32)
    (lines : List (List UInt8)) (hl : ∀ line ∈ lines, line ≠ []) (how : Delivery)
    (r : Run ScriptedConsole) (h : how.Ends refuses program lines r) :
    (r.result = .ok .halted ∨ ∃ fault, r.result = .error fault) ∧
    ∀ other : Delivery, (∃ s, other.Ends refuses program lines s) ∧
      ∀ s, other.Ends refuses program lines s → s.Agrees r := by
  obtain ⟨a,ha,hra⟩ := how.exists_inAdvance hl h
  constructor
  · rw [hra.result]
    exact Delivery.inAdvance_result ha
  · intro other
    refine ⟨other.exists_of_inAdvance hl ha,?_⟩
    intro s hs
    obtain ⟨b,hb,hsb⟩ := other.exists_inAdvance hl hs
    obtain rfl := Ends.unique hb ha
    exact hsb.trans hra.symm

/-- A program that echoes two bytes and meets the end of the input at its third read. -/
theorem delivery_invisible_echo :
    let refuses : UInt32 → Bool := fun _ => false
    let program := #[0xb0000001,0xa0000001,0xb0000001,0xa0000001,0xb0000001,0x70000000]
    let lines : List (List UInt8) := [[72],[105]]
    (∀ line ∈ lines, line ≠ []) ∧
    ∃ r, Delivery.byConsole.Ends refuses program lines r ∧ r.console.output = #[72,105] ∧
      ∀ other : Delivery, (∃ s, other.Ends refuses program lines s) ∧
        ∀ s, other.Ends refuses program lines s → s.Agrees r := by
  intro refuses program lines
  have hl : ∀ line ∈ lines, line ≠ [] := by simp [lines]
  have hr : ((ofProgram refuses program).runFor 6 (ScriptedConsole.ofLines lines)).result =
      .ok .halted := by cbv
  have h : Delivery.byConsole.Ends refuses program lines
      ((ofProgram refuses program).runFor 6 (ScriptedConsole.ofLines lines)) :=
    ends_iff.mpr ⟨6,rfl,by simp [hr]⟩
  exact ⟨hl,_,h,by cbv,(delivery_invisible refuses program lines hl .byConsole _ h).2⟩

end UniversalMachine.Machine
