import Mathlib
import UniversalMachine.Proofs.Slicing

/-! Only an input instruction notices how much input a machine has. Every delivery of input is
compared with the machine that has all of its input from the start and never asks for any: a console
that answers with lines keeps step with it, and a console that has none keeps step with it up to the
next suspension. -/
namespace UniversalMachine.Machine

variable {κ μ : Type} [Console κ] [Console μ]

/-- The machine with `bytes` behind its input and no more to come. -/
def supply (m : Machine) (bytes : List UInt8) : Machine := (m.pushInput bytes).closeInput

/-- Bytes are still to be delivered only while the input is open. -/
def Expects (m : Machine) (bytes : List UInt8) : Prop := m.inputClosed = true → bytes = []

@[simp] theorem supply_get (m : Machine) (bytes : List UInt8) (r : Register) :
    (m.supply bytes).get r = m.get r := rfl

@[simp] theorem supply_heap (m : Machine) (bytes : List UInt8) :
    (m.supply bytes).heap = m.heap := rfl

theorem supply_pushInput (m : Machine) (line bytes : List UInt8) :
    (m.pushInput line).supply bytes = m.supply (line++bytes) := by
  simp [supply, pushInput, closeInput]

theorem takeInput?_supply {m m' : Machine} {r : Register} {bytes : List UInt8}
    (he : m.Expects bytes) (h : m.takeInput? r = some m') :
    (m.supply bytes).takeInput? r = some (m'.supply bytes) ∧ m'.Expects bytes := by
  rcases takeInput?_cases h with ⟨byte,input,hi,rfl⟩ | ⟨hi,hc,rfl⟩
  · have hs : (m.supply bytes).input = byte::(input++bytes) := by
      simp [supply, pushInput, closeInput, hi]
    exact ⟨takeInput?_of_cons r hs,he⟩
  · obtain rfl := he hc
    have hs : (m.supply []).input = [] := by simp [supply, pushInput, closeInput, hi]
    exact ⟨takeInput?_of_closed r hs rfl,he⟩

/-- A machine with all of its input never waits. -/
theorem exists_takeInput?_supply (m : Machine) (r : Register) (bytes : List UInt8) :
    ∃ m', (m.supply bytes).takeInput? r = some m' := by
  apply Option.ne_none_iff_exists'.mp
  rw [Ne,takeInput?_eq_none_iff]
  rintro ⟨_,hc⟩
  cases hc

theorem execute_input_supply {m m' : Machine} {r : Register} {bytes : List UInt8}
    (h : (m.supply bytes).takeInput? r = some m') (console : κ) :
    (m.supply bytes).execute (.input r) console = (.next,m',console) := by
  have hq : (m.supply bytes).requestInput console = (m.supply bytes,console) := by
    simp [requestInput, supply, closeInput]
  simp [execute, hq, h]

/-- Consoles related by `R` take output alike, and stay related. -/
structure Alike (R : κ → μ → Prop) : Prop where
  writeByte : ∀ {c d}, R c d → ∀ byte,
    (Console.writeByte d byte).1 = (Console.writeByte c byte).1 ∧
    R (Console.writeByte c byte).2 (Console.writeByte d byte).2
  announceHalt : ∀ {c d}, R c d →
    (Console.announceHalt d).1 = (Console.announceHalt c).1 ∧
    R (Console.announceHalt c).2 (Console.announceHalt d).2
  reportFault : ∀ {c d}, R c d → ∀ snapshot,
    R (Console.reportFault c snapshot) (Console.reportFault d snapshot)

/-- The same ending of an instruction on a machine and on that machine with further input. -/
structure Matches (R : κ → μ → Prop) (bytes : List UInt8) (x : Step × Machine × κ)
    (y : Step × Machine × μ) : Prop where
  ending : y.1 = x.1
  machine : y.2.1 = x.2.1.supply bytes
  console : R x.2.2 y.2.2
  expects : x.2.1.Expects bytes

/-- The same run of a machine and of that machine with further input. -/
structure Run.Matches (R : κ → μ → Prop) (bytes : List UInt8) (x : Run κ) (y : Run μ) : Prop where
  result : y.result = x.result
  machine : y.machine = x.machine.supply bytes
  console : R x.console y.console
  expects : x.machine.Expects bytes

section Alike
variable {R : κ → μ → Prop} (hR : Alike R) {c : κ} {d : μ} (h : R c d)
include hR h

theorem execute_matches (m : Machine) (i : Instruction Register) (hi : ∀ r, i ≠ .input r)
    (bytes : List UInt8) (he : m.Expects bytes) :
    Matches R bytes (m.execute i c) ((m.supply bytes).execute i d) := by
  cases i with
  | input r => exact absurd rfl (hi r)
  | conditionalMove a b r =>
    by_cases hz : m.get r = 0
    · simp only [execute, supply_get, hz, if_true]
      exact ⟨rfl,rfl,h,he⟩
    · simp only [execute, supply_get, hz, if_false]
      exact ⟨rfl,rfl,h,he⟩
  | arrayIndex a b r =>
    simp only [execute, supply_get, supply_heap]
    cases m.heap.read (m.get b) (m.get r) <;> exact ⟨rfl,rfl,h,he⟩
  | arrayAmendment a b r =>
    simp only [execute, supply_get, supply_heap]
    rcases m.heap.write (m.get a) (m.get b) (m.get r) with ⟨_ | _,_⟩ <;> exact ⟨rfl,rfl,h,he⟩
  | addition a b r => exact ⟨rfl,rfl,h,he⟩
  | multiplication a b r => exact ⟨rfl,rfl,h,he⟩
  | division a b r =>
    by_cases hz : m.get r = 0
    · simp only [execute, supply_get, hz, if_true]
      exact ⟨rfl,rfl,h,he⟩
    · simp only [execute, supply_get, hz, if_false]
      exact ⟨rfl,rfl,h,he⟩
  | notAnd a b r => exact ⟨rfl,rfl,h,he⟩
  | halt =>
    obtain ⟨ha,hn⟩ := hR.announceHalt h
    simp only [execute]
    rcases hd : Console.announceHalt d with ⟨answer,d'⟩
    rcases hc : Console.announceHalt c with ⟨answer',c'⟩
    rw [hd,hc] at ha hn
    subst ha
    cases answer <;> exact ⟨rfl,rfl,hn,he⟩
  | allocation b r =>
    simp only [execute, supply_get, supply_heap]
    rcases m.heap.allocate (m.get r) with ⟨_ | _,_⟩ <;> exact ⟨rfl,rfl,h,he⟩
  | abandonment r =>
    simp only [execute, supply_get, supply_heap]
    rcases m.heap.abandon (m.get r) with ⟨_ | _,_⟩ <;> exact ⟨rfl,rfl,h,he⟩
  | output r =>
    obtain ⟨ha,hn⟩ := hR.writeByte h (m.get r).toUInt8
    simp only [execute, supply_get]
    rcases hd : Console.writeByte d (m.get r).toUInt8 with ⟨answer,d'⟩
    rcases hc : Console.writeByte c (m.get r).toUInt8 with ⟨answer',c'⟩
    rw [hd,hc] at ha hn
    subst ha
    cases answer <;> exact ⟨rfl,rfl,hn,he⟩
  | loadProgram b r =>
    simp only [execute, supply_get, supply_heap]
    rcases m.heap.loadProgram (m.get b) with ⟨_ | _,_⟩ <;> exact ⟨rfl,rfl,h,he⟩
  | orthography a value => exact ⟨rfl,rfl,h,he⟩

/-- A step ends alike whatever input is still to come, unless it fetches an input instruction. -/
theorem step_matches (m : Machine) (bytes : List UInt8) (he : m.Expects bytes) :
    Matches R bytes (m.step c) ((m.supply bytes).step d) ∨
    ∃ word r, m.step c = (m.fetched word).execute (.input r) c ∧
      (m.supply bytes).step d = ((m.fetched word).supply bytes).execute (.input r) d := by
  have hf : (m.supply bytes).fetch? = m.fetch? := rfl
  unfold step
  rw [hf]
  cases m.fetch? with
  | none => exact .inl ⟨rfl,rfl,h,he⟩
  | some word =>
    dsimp only
    cases Instruction.decode word with
    | error fault => exact .inl ⟨rfl,rfl,h,he⟩
    | ok i =>
      by_cases hi : ∃ r, i = .input r
      · obtain ⟨r,rfl⟩ := hi
        exact .inr ⟨word,r,rfl,rfl⟩
      · left
        exact execute_matches hR h (m.fetched word) i (fun r hr => hi ⟨r,hr⟩) bytes he

theorem stop_matches (m : Machine) (bytes : List UInt8) (fault : Fault) (he : m.Expects bytes) :
    Run.Matches R bytes (m.stop fault c) ((m.supply bytes).stop fault d) :=
  ⟨rfl,rfl,hR.reportFault h m.snapshot,he⟩

end Alike

/-- A console that answers with the given bytes, in lines that are not empty, and then with the end
of the input, and that takes output as another one does. -/
structure Delivers (D : List UInt8 → κ → μ → Prop) : Prop where
  alike : ∀ bytes, Alike (D bytes)
  readLine : ∀ {bytes c d}, D bytes c d →
    (∃ line rest c', line ≠ [] ∧ bytes = line++rest ∧
      Console.readLine c = (.line line,c') ∧ D rest c' d) ∨
    (∃ c', bytes = [] ∧ Console.readLine c = (.endOfInput,c') ∧ D [] c' d)

section Delivers
variable {D : List UInt8 → κ → μ → Prop} (hD : Delivers D) {m : Machine} {bytes : List UInt8}
  {c : κ} {d : μ}
include hD

/-- A request for a line moves bytes from the console to the machine, and leaves it with something
to take. -/
theorem requestInput_delivers (h : D bytes c d) (he : m.Expects bytes) :
    ∃ rest, (m.requestInput c).1.supply rest = m.supply bytes ∧
      (m.requestInput c).1.Expects rest ∧ D rest (m.requestInput c).2 d ∧
      ¬ ((m.requestInput c).1.input = [] ∧ (m.requestInput c).1.inputClosed = false) := by
  by_cases hq : m.input = [] ∧ m.inputClosed = false
  · obtain ⟨hi,hc⟩ := hq
    rw [requestInput_of_empty hi hc]
    rcases hD.readLine h with ⟨line,rest,c',hl,rfl,hc',hn⟩ | ⟨c',rfl,hc',hn⟩
    · rw [hc']
      refine ⟨rest,m.supply_pushInput line rest,?_,hn,?_⟩
      · intro hx
        have ho : m.inputClosed = true := hx
        rw [hc] at ho
        cases ho
      · rintro ⟨hx,_⟩
        simp [receive, pushInput, hi, hl] at hx
    · rw [hc']
      refine ⟨[],rfl,fun _ => rfl,hn,?_⟩
      rintro ⟨_,hx⟩
      cases hx
  · rw [requestInput_of_supplied hq]
    exact ⟨bytes,rfl,he,h,hq⟩

/-- One step on a console that delivers the input, and with all of the input at hand. -/
theorem step_delivers (h : D bytes c d) (he : m.Expects bytes) :
    ∃ rest, Matches (D rest) rest (m.step c) ((m.supply bytes).step d) := by
  rcases step_matches (hD.alike bytes) h m bytes he with hm | ⟨word,r,hx,hy⟩
  · exact ⟨bytes,hm⟩
  · have hf : (m.fetched word).Expects bytes := he
    obtain ⟨rest,hs,hr,hn,ht⟩ := requestInput_delivers hD h hf
    rw [← takeInput?_eq_none_iff (r := r)] at ht
    obtain ⟨m',hm'⟩ := Option.ne_none_iff_exists'.mp ht
    obtain ⟨hsup,hexp⟩ := takeInput?_supply hr hm'
    rw [hs] at hsup
    refine ⟨rest,?_⟩
    rw [hx,hy,execute_input_supply hsup]
    simp only [execute, hm']
    exact ⟨rfl,rfl,hn,hexp⟩

theorem advance_delivers (h : D bytes c d) (he : m.Expects bytes) (budget : ℕ) :
    ∃ rest, Run.Matches (D rest) rest (m.advance budget c) ((m.supply bytes).advance budget d) := by
  induction budget generalizing m bytes c d with
  | zero => exact ⟨bytes,rfl,rfl,h,he⟩
  | succ budget ih =>
    obtain ⟨rest,hm⟩ := step_delivers hD h he
    unfold advance
    rcases hx : m.step c with ⟨ending,m',c'⟩
    rcases hy : (m.supply bytes).step d with ⟨ending',n',d'⟩
    rw [hx,hy] at hm
    obtain ⟨hending,hmachine,hn,hr⟩ := hm
    dsimp only at hending hmachine hn hr
    subst hending hmachine
    cases ending' with
    | next => exact ih (m := m'.tick) hn hr
    | halted => exact ⟨rest,rfl,rfl,hn,hr⟩
    | suspended => exact ⟨rest,rfl,rfl,hn,hr⟩
    | fault fault => exact ⟨rest,stop_matches (hD.alike rest) hn m' rest fault hr⟩

end Delivers

theorem enter_supply {m m' : Machine} {bytes : List UInt8} (he : m.Expects bytes)
    (h : m.enter = .ready m') :
    (m.supply bytes).enter = .ready (m'.supply bytes) ∧ m'.Expects bytes := by
  rcases enter_eq_ready h with ⟨hs,rfl⟩ | ⟨r,n,hs,ht,rfl⟩
  · have hm : (m'.supply bytes).state = .ready := hs
    exact ⟨by simp only [enter, hm],he⟩
  · have hm : (m.supply bytes).state = .awaitingInput r := hs
    obtain ⟨hn,hexp⟩ := takeInput?_supply he ht
    exact ⟨by simp only [enter, hm, hn]; rfl,hexp⟩

/-- Input changes nothing for a machine that there is nothing to execute on, unless it waits. -/
theorem enter_done_supply {m : Machine} {result : Except Fault Outcome}
    (h : m.enter = .done result) (hr : result ≠ .ok .awaitingInput) (bytes : List UInt8) :
    (m.supply bytes).enter = .done result := by
  rcases enter_eq_done h with ⟨hs,rfl⟩ | ⟨fault,hs,rfl⟩ | ⟨_,_,rfl⟩
  · have hm : (m.supply bytes).state = .halted := hs
    simp only [enter, hm]
  · have hm : (m.supply bytes).state = .faulted fault := hs
    simp only [enter, hm]
  · exact absurd rfl hr

/-- Waiting for a byte that is there comes to the same as taking it at once. -/
theorem enter_of_takeInput? {m n : Machine} {r : Register} (hs : m.state = .ready)
    (h : m.takeInput? r = some n) :
    Machine.enter { m with state := .awaitingInput r } = .ready n.tick := by
  rcases takeInput?_cases h with ⟨byte,input,hi,rfl⟩ | ⟨hi,hc,rfl⟩
  · have ht := takeInput?_of_cons (m := { m with state := .awaitingInput r }) r hi
    simp only [enter, ht, tick, set, hs]
  · have ht := takeInput?_of_closed (m := { m with state := .awaitingInput r }) r hi hc
    simp only [enter, ht, tick, set, hs]

/-- A console that never has input, and that takes output as another one does. -/
structure Withholds (P : κ → μ → Prop) : Prop where
  alike : Alike P
  readLine : ∀ {c d}, P c d → ∃ c', Console.readLine c = (.pending,c') ∧ P c' d

/-- The first run waits, and the second goes on from there with all of the input at hand. -/
structure Run.Waits (P : κ → μ → Prop) (bytes : List UInt8) (x : Run κ) (y : Run μ) : Prop where
  result : x.result = .ok .awaitingInput
  expects : x.machine.Expects bytes
  later : ∃ left d, P x.console d ∧ y = (x.machine.supply bytes).runFor left d

section Withholds
variable {P : κ → μ → Prop} (hP : Withholds P) {m : Machine} {bytes : List UInt8} {c : κ} {d : μ}
  (h : P c d) (he : m.Expects bytes)
include hP h he

/-- One step without input, and with all of it at hand. A suspended machine is already past its
input instruction, as far as the supplied one can tell. -/
theorem step_withholds (hr : m.state = .ready) :
    Matches P bytes (m.step c) ((m.supply bytes).step d) ∨
    ∃ m' c' n, m.step c = (.suspended,m',c') ∧ P c' d ∧ m'.Expects bytes ∧
      (m.supply bytes).step d = (.next,n,d) ∧ (m'.supply bytes).enter = .ready n.tick := by
  rcases step_matches hP.alike h m bytes he with hm | ⟨word,r,hx,hy⟩
  · exact .inl hm
  · have hrequest : ∃ c', (m.fetched word).requestInput c = (m.fetched word,c') ∧ P c' d := by
      obtain ⟨c',hc,hn⟩ := hP.readLine h
      unfold requestInput
      split
      · exact ⟨c',by simp [hc, receive],hn⟩
      · exact ⟨c,rfl,h⟩
    obtain ⟨c',hc,hn⟩ := hrequest
    have hf : (m.fetched word).Expects bytes := he
    rw [hx,hy]
    cases ht : (m.fetched word).takeInput? r with
    | some m' =>
      obtain ⟨hsup,hexp⟩ := takeInput?_supply hf ht
      left
      rw [execute_input_supply hsup]
      simp only [execute, hc, ht]
      exact ⟨rfl,rfl,hn,hexp⟩
    | none =>
      obtain ⟨n,hsup⟩ := (m.fetched word).exists_takeInput?_supply r bytes
      right
      refine ⟨{ m.fetched word with state := .awaitingInput r },c',n,?_,hn,he,?_,?_⟩
      · simp only [execute, hc, ht]
      · exact execute_input_supply hsup d
      · exact enter_of_takeInput? (m := (m.fetched word).supply bytes) hr hsup

theorem advance_withholds (hr : m.state = .ready) (budget : ℕ) :
    Run.Matches P bytes (m.advance budget c) ((m.supply bytes).advance budget d) ∨
    Run.Waits P bytes (m.advance budget c) ((m.supply bytes).advance budget d) := by
  induction budget generalizing m c d with
  | zero => exact .inl ⟨rfl,rfl,h,he⟩
  | succ budget ih =>
    unfold advance
    rcases step_withholds hP h he hr with hm | ⟨m',c',n,hx,hn,hexp,hy,hent⟩
    · rcases hx : m.step c with ⟨ending,m',c'⟩
      rcases hy : (m.supply bytes).step d with ⟨ending',n',d'⟩
      rw [hx,hy] at hm
      obtain ⟨hending,hmachine,hn,hexp⟩ := hm
      dsimp only at hending hmachine hn hexp
      subst hending hmachine
      cases ending' with
      | next =>
        have hs := (transition_of_step hx).state_of_next
        exact ih (m := m'.tick) hn hexp (hs.trans hr)
      | halted => exact .inl ⟨rfl,rfl,hn,hexp⟩
      | suspended => exact .inl ⟨rfl,rfl,hn,hexp⟩
      | fault fault => exact .inl (stop_matches hP.alike hn m' bytes fault hexp)
    · rw [hx,hy]
      refine .inr ⟨rfl,hexp,budget,d,hn,?_⟩
      simp only [runFor, hent]

/-- A run without input is a run with all of it at hand, up to the point where it waits. -/
theorem runFor_withholds (budget : ℕ) :
    Run.Matches P bytes (m.runFor budget c) ((m.supply bytes).runFor budget d) ∨
    Run.Waits P bytes (m.runFor budget c) ((m.supply bytes).runFor budget d) := by
  cases hm : m.enter with
  | ready m' =>
    obtain ⟨hs,hexp⟩ := enter_supply he hm
    simp only [runFor, hm, hs]
    exact advance_withholds hP h hexp (enter_ready_state hm) budget
  | done result =>
    have hx : m.runFor budget c = ⟨result,m,c⟩ := by simp only [runFor, hm]
    rw [hx]
    by_cases hr : result = .ok .awaitingInput
    · exact .inr ⟨hr,he,budget,d,h,rfl⟩
    · left
      simp only [runFor, enter_done_supply hm hr]
      exact ⟨rfl,rfl,h,he⟩

end Withholds
end UniversalMachine.Machine
