import Mathlib
import UniversalMachine.Machine.Run

/-! What one instruction can do to a machine, said once for all instructions and consoles. -/
namespace UniversalMachine.Machine

variable {κ : Type} [Console κ]

theorem takeInput?_of_cons {m : Machine} {byte : UInt8} {input : List UInt8} (r : Register)
    (h : m.input = byte::input) :
    m.takeInput? r = some { m.set r byte.toUInt32 with input } := by
  simp [takeInput?, h]

theorem takeInput?_of_closed {m : Machine} (r : Register) (hi : m.input = [])
    (hc : m.inputClosed = true) : m.takeInput? r = some (m.set r endOfInput) := by
  simp [takeInput?, hi, hc]

theorem takeInput?_eq_none_iff {m : Machine} {r : Register} :
    m.takeInput? r = none ↔ m.input = [] ∧ m.inputClosed = false := by
  unfold takeInput?
  cases m.input with
  | nil => simp
  | cons byte input => simp

/-- A byte is stored and leaves the buffer, or the mark of the end is stored. -/
theorem takeInput?_cases {m m' : Machine} {r : Register} (h : m.takeInput? r = some m') :
    (∃ byte input, m.input = byte::input ∧ m' = { m.set r byte.toUInt32 with input }) ∨
    (m.input = [] ∧ m.inputClosed = true ∧ m' = m.set r endOfInput) := by
  cases hi : m.input with
  | cons byte input =>
    rw [takeInput?_of_cons r hi] at h
    exact .inl ⟨byte,input,rfl,(Option.some.inj h).symm⟩
  | nil =>
    cases hc : m.inputClosed with
    | false =>
      rw [takeInput?_eq_none_iff.mpr ⟨hi,hc⟩] at h
      cases h
    | true =>
      rw [takeInput?_of_closed r hi hc] at h
      exact .inr ⟨rfl,rfl,(Option.some.inj h).symm⟩

theorem takeInput?_state {m m' : Machine} {r : Register} (h : m.takeInput? r = some m') :
    m'.state = m.state := by
  rcases takeInput?_cases h with ⟨_,_,_,rfl⟩ | ⟨_,_,rfl⟩ <;> rfl

theorem takeInput?_inputClosed {m m' : Machine} {r : Register} (h : m.takeInput? r = some m') :
    m'.inputClosed = m.inputClosed := by
  rcases takeInput?_cases h with ⟨_,_,_,rfl⟩ | ⟨_,_,rfl⟩ <;> rfl

/-- The machine that has fetched `word`. -/
def fetched (m : Machine) (word : UInt32) : Machine :=
  { m with pc := m.pc+1, lastWord := some word }

/-- The machine after an input instruction has asked for a line, if it had to. -/
inductive Asked (m : Machine) : Machine → Prop
  | never : Asked m m
  | once (answer : LineRead) (empty : m.input = []) (isOpen : m.inputClosed = false) :
      Asked m (m.receive answer)

theorem requestInput_of_empty {m : Machine} (hi : m.input = []) (hc : m.inputClosed = false)
    (console : κ) :
    m.requestInput console =
      (m.receive (Console.readLine console).1,(Console.readLine console).2) := by
  simp [requestInput, hi, hc]

theorem requestInput_of_supplied {m : Machine} (h : ¬ (m.input = [] ∧ m.inputClosed = false))
    (console : κ) : m.requestInput console = (m,console) := by
  unfold requestInput
  rw [if_neg]
  simpa using h

theorem requestInput_asked (m : Machine) (console : κ) : m.Asked (m.requestInput console).1 := by
  unfold requestInput
  split
  · next h =>
    simp only [Bool.and_eq_true, List.isEmpty_iff, Bool.not_eq_true'] at h
    exact .once _ h.1 h.2
  · exact .never

/-- Asking changes what is known of the input, and nothing else. -/
theorem Asked.eq {m n : Machine} (h : m.Asked n) :
    ∃ input closed, n = { m with input, inputClosed := closed } := by
  cases h with
  | never => exact ⟨m.input,m.inputClosed,rfl⟩
  | once answer => cases answer <;> exact ⟨_,_,rfl⟩

theorem Asked.state {m n : Machine} (h : m.Asked n) : n.state = m.state := by
  obtain ⟨input,closed,rfl⟩ := h.eq
  rfl

theorem Asked.inputClosed {m n : Machine} (h : m.Asked n) (hc : m.inputClosed = true) :
    n.inputClosed = true := by
  cases h with
  | never => exact hc
  | once answer _ ho =>
    rw [hc] at ho
    cases ho

/-- What a step can do to a machine, whatever its console answers. -/
inductive Transition (m : Machine) : Step → Machine → Prop
  | lost (nowhere : m.fetch? = none) :
      Transition m (.fault (.invalidProgramCounter m.pc m.heap.program.size)) m
  | fault {word : UInt32} (fetch : m.fetch? = some word) (fault : Fault) :
      Transition m (.fault fault) (m.fetched word)
  | next {word : UInt32} (fetch : m.fetch? = some word) (registers : Registers) (heap : Heap)
      (pc : UInt32) : Transition m .next { m.fetched word with registers, heap, pc }
  | halted {word : UInt32} (fetch : m.fetch? = some word) :
      Transition m .halted { m.fetched word with state := .halted }
  | input {word : UInt32} {r : Register} {n m' : Machine} (fetch : m.fetch? = some word)
      (decode : Instruction.decode word = .ok (.input r)) (asked : (m.fetched word).Asked n)
      (taken : n.takeInput? r = some m') : Transition m .next m'
  | suspended {word : UInt32} {r : Register} {n : Machine} (fetch : m.fetch? = some word)
      (decode : Instruction.decode word = .ok (.input r)) (asked : (m.fetched word).Asked n)
      (waits : n.takeInput? r = none) :
      Transition m .suspended { n with state := .awaitingInput r }

theorem execute_transition {m : Machine} {word : UInt32} {i : Instruction Register}
    (hf : m.fetch? = some word) (hd : Instruction.decode word = .ok i) (console : κ) :
    m.Transition ((m.fetched word).execute i console).1
      ((m.fetched word).execute i console).2.1 := by
  cases i with
  | conditionalMove a b c =>
    simp only [execute]
    split <;> exact .next hf _ _ _
  | addition a b c => exact .next hf _ _ _
  | multiplication a b c => exact .next hf _ _ _
  | notAnd a b c => exact .next hf _ _ _
  | orthography a value => exact .next hf _ _ _
  | halt =>
    simp only [execute]
    split
    · exact .halted hf
    · exact .fault hf _
  | input c =>
    have ha := (m.fetched word).requestInput_asked console
    simp only [execute]
    split
    · next h => exact .input hf hd ha h
    · next h => exact .suspended hf hd ha h
  | division a b c =>
    simp only [execute]
    split
    · exact .fault hf _
    · exact .next hf _ _ _
  | arrayIndex a b c =>
    simp only [execute]
    split
    · exact .next hf _ _ _
    · exact .fault hf _
  | output c =>
    simp only [execute]
    split
    · exact .next hf _ _ _
    · exact .fault hf _
  | arrayAmendment a b c =>
    simp only [execute]
    split
    · exact .next hf _ _ _
    · next h =>
      obtain ⟨_,rfl⟩ := Heap.write_eq_error h
      exact .fault hf _
  | allocation b c =>
    simp only [execute]
    split
    · exact .next hf _ _ _
    · next h =>
      obtain ⟨_,rfl⟩ := Heap.allocate_eq_error h
      exact .fault hf _
  | abandonment c =>
    simp only [execute]
    split
    · exact .next hf _ _ _
    · next h =>
      obtain ⟨_,rfl⟩ := Heap.abandon_eq_error h
      exact .fault hf _
  | loadProgram b c =>
    simp only [execute]
    split
    · exact .next hf _ _ _
    · next h =>
      obtain ⟨_,rfl⟩ := Heap.loadProgram_eq_error h
      exact .fault hf _

theorem transition_of_step {m m' : Machine} {ending : Step} {console console' : κ}
    (h : m.step console = (ending,m',console')) : m.Transition ending m' := by
  have ht : m.Transition (m.step console).1 (m.step console).2.1 := by
    unfold step
    split
    · next hf => exact .lost hf
    · next word hf =>
      dsimp only
      split
      · next i hd => exact execute_transition hf hd console
      · exact .fault hf _
  rwa [h] at ht

namespace Transition

variable {m m' : Machine} {ending : Step}

theorem state_of_next (h : m.Transition .next m') : m'.state = m.state := by
  cases h with
  | next => rfl
  | input _ _ ha ht => exact (takeInput?_state ht).trans ha.state

theorem state_of_halted (h : m.Transition .halted m') : m'.state = .halted := by
  cases h with
  | halted => rfl

theorem waits_of_suspended (h : m.Transition .suspended m') :
    ∃ r, m'.state = .awaitingInput r ∧ m'.input = [] ∧ m'.inputClosed = false := by
  cases h with
  | @suspended word r n _ _ _ hw =>
    obtain ⟨hi,hc⟩ := takeInput?_eq_none_iff.mp hw
    exact ⟨r,rfl,hi,hc⟩

/-- Input that is closed stays closed. -/
theorem inputClosed (h : m.Transition ending m') (hc : m.inputClosed = true) :
    m'.inputClosed = true := by
  cases h with
  | lost => exact hc
  | fault => exact hc
  | next => exact hc
  | halted => exact hc
  | input _ _ ha ht => exact (takeInput?_inputClosed ht).trans (ha.inputClosed hc)
  | suspended _ _ ha _ => exact ha.inputClosed hc

theorem not_suspended (hc : m.inputClosed = true) : ¬ m.Transition .suspended m' := by
  intro h
  obtain ⟨_,_,_,ho⟩ := h.waits_of_suspended
  rw [h.inputClosed hc] at ho
  cases ho

end Transition

/-- What holds before every instruction, and what then holds of the run however it comes back. -/
structure Loop (I : Machine → κ → Prop) (Q : Run κ → Prop) : Prop where
  paused : ∀ {m c}, I m c → Q ⟨.ok .paused,m,c⟩
  next : ∀ {m m' c c'}, I m c → m.step c = (.next,m',c') → I m'.tick c'
  halted : ∀ {m m' c c'}, I m c → m.step c = (.halted,m',c') → Q ⟨.ok .halted,m'.tick,c'⟩
  suspended : ∀ {m m' c c'}, I m c → m.step c = (.suspended,m',c') →
    Q ⟨.ok .awaitingInput,m',c'⟩
  fault : ∀ {m m' c c' fault}, I m c → m.step c = (.fault fault,m',c') → Q (m'.stop fault c')

theorem Loop.advance {I : Machine → κ → Prop} {Q : Run κ → Prop} (h : Loop I Q) {m : Machine}
    {console : κ} (hi : I m console) (budget : ℕ) : Q (m.advance budget console) := by
  induction budget generalizing m console with
  | zero => exact h.paused hi
  | succ budget ih =>
    unfold Machine.advance
    split
    · next he => exact ih (h.next hi he)
    · next he => exact h.halted hi he
    · next he => exact h.suspended hi he
    · next he => exact h.fault hi he

end UniversalMachine.Machine
