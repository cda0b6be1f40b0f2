import Mathlib
import UniversalMachine.Proofs.Codec
import UniversalMachine.Proofs.Step

/-! What one instruction can do to a console, said once for all instructions and consoles: nothing, or
one request for a line, or one byte, or the news of the halt. -/
namespace UniversalMachine

/-- The program itself is at fault, and not the console. -/
def Fault.Internal (fault : Fault) : Prop := ∀ kind, fault ≠ .outputFailed kind

namespace Heap

variable {heap heap' : Heap} {id offset value size : UInt32} {fault : Fault}

/-! Each operation has its own faults. -/

theorem read_error (h : heap.read id offset = .error fault) :
    fault = .invalidArrayIndex id ∨ ∃ size, fault = .invalidOffset id offset size := by
  unfold read at h
  split at h
  · cases h
    exact .inl rfl
  · split at h <;> cases h
    exact .inr ⟨_,rfl⟩

theorem read_internal (h : heap.read id offset = .error fault) : fault.Internal := by
  rcases read_error h with rfl | ⟨size,rfl⟩ <;> simp [Fault.Internal]

theorem write_internal (h : heap.write id offset value = (.error fault,heap')) : fault.Internal :=
  read_internal (write_eq_error h).1

theorem allocate_internal (h : heap.allocate size = (.error fault,heap')) : fault.Internal := by
  obtain ⟨rfl,_⟩ := allocate_eq_error h
  simp [Fault.Internal]

theorem abandon_internal (h : heap.abandon id = (.error fault,heap')) : fault.Internal := by
  rcases abandon_eq_error h with ⟨rfl | rfl,_⟩ <;> simp [Fault.Internal]

theorem loadProgram_internal (h : heap.loadProgram id = (.error fault,heap')) : fault.Internal := by
  obtain ⟨rfl,_⟩ := loadProgram_eq_error h
  simp [Fault.Internal]

end Heap

theorem Instruction.decode_internal {word : UInt32} {fault : Fault}
    (h : Instruction.decode word = .error fault) : fault.Internal := by
  obtain ⟨_,rfl⟩ := decode_eq_error_iff.mp h
  simp [Fault.Internal]

namespace Machine

variable {κ : Type} [Console κ]

/-- The byte that the next instruction writes, if it is an output instruction. -/
def nextOutput? (m : Machine) : Option UInt8 :=
  match m.nextInstruction? with
  | some (.output r) => some (m.get r).toUInt8
  | _ => none

/-- What a step can do to its console. -/
inductive Contact (m : Machine) (c : κ) : Step → κ → Prop
  | none (silent : m.nextOutput? = none) : Contact m c .next c
  | fault {fault} (internal : fault.Internal) : Contact m c (.fault fault) c
  /-- An input instruction finds no input left. It is suspended if none has arrived yet. -/
  | asked {answer c' ending} (silent : m.nextOutput? = none) (empty : m.input = [])
      (isOpen : m.inputClosed = false) (read : Console.readLine c = (answer,c'))
      (ends : ending = .next ∨ ending = .suspended) (waits : answer = .pending → ending = .suspended) :
      Contact m c ending c'
  | wrote {byte c'} (output : m.nextOutput? = some byte)
      (write : Console.writeByte c byte = (.ok (),c')) : Contact m c .next c'
  | refused {byte error c'} (output : m.nextOutput? = some byte)
      (write : Console.writeByte c byte = (.error error,c')) :
      Contact m c (.fault (.outputFailed error.kind)) c'
  | halted {c'} (silent : m.nextOutput? = none) (halt : Console.announceHalt c = (.ok (),c')) :
      Contact m c .halted c'
  | haltRefused {error c'} (halt : Console.announceHalt c = (.error error,c')) :
      Contact m c (.fault (.outputFailed error.kind)) c'

theorem nextOutput?_of_fetch {m : Machine} {word : UInt32} {i : Instruction Register}
    (hf : m.fetch? = some word) (hd : Instruction.decode word = .ok i) :
    m.nextOutput? = match i with
      | .output r => some (m.get r).toUInt8
      | _ => none := by
  have hi : m.nextInstruction? = some i := by simp [nextInstruction?, hf, hd, Except.toOption]
  unfold nextOutput?
  rw [hi]
  cases i <;> rfl

/-- An input instruction asks only if it finds nothing to take. -/
theorem input_contact {m : Machine} {word : UInt32} (r : Register) (hs : m.nextOutput? = none)
    (c : κ) :
    m.Contact c ((m.fetched word).execute (.input r) c).1
      ((m.fetched word).execute (.input r) c).2.2 := by
  simp only [execute]
  by_cases hq : m.input = [] ∧ m.inputClosed = false
  · obtain ⟨hi,hc⟩ := hq
    rcases hr : Console.readLine c with ⟨answer,c'⟩
    have hrequest := requestInput_of_empty (m := m.fetched word) hi hc c
    rw [hr] at hrequest
    rw [hrequest]
    dsimp only
    split
    · next n ht =>
      refine .asked hs hi hc hr (.inl rfl) ?_
      rintro rfl
      have hnone : (m.fetched word).takeInput? r = none := takeInput?_eq_none_iff.mpr ⟨hi,hc⟩
      rw [receive,hnone] at ht
      cases ht
    · exact .asked hs hi hc hr (.inr rfl) fun _ => rfl
  · rw [requestInput_of_supplied (m := m.fetched word) hq]
    dsimp only
    split
    · exact .none hs
    · next ht => exact absurd (takeInput?_eq_none_iff.mp ht) hq

theorem execute_contact {m : Machine} {word : UInt32} {i : Instruction Register}
    (hf : m.fetch? = some word) (hd : Instruction.decode word = .ok i) (c : κ) :
    m.Contact c ((m.fetched word).execute i c).1 ((m.fetched word).execute i c).2.2 := by
  have hout := nextOutput?_of_fetch hf hd
  cases i with
  | conditionalMove a b r => exact .none hout
  | addition a b r => exact .none hout
  | multiplication a b r => exact .none hout
  | notAnd a b r => exact .none hout
  | orthography a value => exact .none hout
  | input r => exact input_contact r hout c
  | division a b r =>
    simp only [execute]
    split
    · exact .fault fun kind => by simp
    · exact .none hout
  | arrayIndex a b r =>
    simp only [execute]
    split
    · exact .none hout
    · next h => exact .fault (Heap.read_internal h)
  | arrayAmendment a b r =>
    simp only [execute]
    split
    · exact .none hout
    · next h => exact .fault (Heap.write_internal h)
  | allocation b r =>
    simp only [execute]
    split
    · exact .none hout
    · next h => exact .fault (Heap.allocate_internal h)
  | abandonment r =>
    simp only [execute]
    split
    · exact .none hout
    · next h => exact .fault (Heap.abandon_internal h)
  | loadProgram b r =>
    simp only [execute]
    split
    · exact .none hout
    · next h => exact .fault (Heap.loadProgram_internal h)
  | halt =>
    simp only [execute]
    split
    · next h => exact .halted hout h
    · next h => exact .haltRefused h
  | output r =>
    simp only [execute]
    split
    · next h => exact .wrote hout h
    · next h => exact .refused hout h

theorem contact_of_step {m m' : Machine} {ending : Step} {c c' : κ}
    (h : m.step c = (ending,m',c')) : m.Contact c ending c' := by
  have hcontact : m.Contact c (m.step c).1 (m.step c).2.2 := by
    unfold step
    split
    · exact .fault fun kind => by simp
    · next word hf =>
      dsimp only
      split
      · next i hd => exact execute_contact hf hd c
      · next hd => exact .fault (Instruction.decode_internal hd)
  rwa [h] at hcontact

end Machine
end UniversalMachine
