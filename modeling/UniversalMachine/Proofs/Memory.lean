import Mathlib
import UniversalMachine.Proofs.Store

/-! What can be asked of a memory, and what the answers depend on. A heap answers like the map of its
arrays, whatever its history was. -/
namespace UniversalMachine

/-- Arrays under identifiers, with a program array. -/
class Memory (σ : Type) where
  allocate : σ → UInt32 → Except Fault UInt32 × σ
  abandon : σ → UInt32 → Except Fault Unit × σ
  read : σ → UInt32 → UInt32 → Except Fault UInt32
  write : σ → UInt32 → UInt32 → UInt32 → Except Fault Unit × σ
  loadProgram : σ → UInt32 → Except Fault Unit × σ
  array : σ → UInt32 → Except Fault (Array UInt32)
  program : σ → Array UInt32
  isLive : σ → UInt32 → Bool
  live : σ → List (UInt32 × ℕ)

instance : Memory Heap where
  allocate := Heap.allocate
  abandon := Heap.abandon
  read := Heap.read
  write := Heap.write
  loadProgram := Heap.loadProgram
  array := Heap.array
  program := Heap.program
  isLive := Heap.isLive
  live := Heap.live

instance : Memory Store where
  allocate := Store.allocate
  abandon := Store.abandon
  read := Store.read
  write := Store.write
  loadProgram := Store.loadProgram
  array := Store.array
  program := Store.program
  isLive := Store.isLive
  live := Store.live

namespace Memory

inductive Request where
  | allocate (size : UInt32)
  | abandon (id : UInt32)
  | read (id offset : UInt32)
  | write (id offset value : UInt32)
  | loadProgram (id : UInt32)
  | array (id : UInt32)
  | program
  | isLive (id : UInt32)
  | live
  deriving DecidableEq, Repr

inductive Answer where
  | done
  | id (id : UInt32)
  | word (word : UInt32)
  | array (data : Array UInt32)
  | flag (value : Bool)
  | listing (arrays : List (UInt32 × ℕ))
  deriving DecidableEq, Repr

variable {σ : Type} [Memory σ]

/-- Puts the result of an operation as an answer. -/
def answer {α : Type} (view : α → Answer) (x : Except Fault α × σ) : Except Fault Answer × σ :=
  (x.1.map view,x.2)

def perform (memory : σ) : Request → Except Fault Answer × σ
  | .allocate size => answer .id (allocate memory size)
  | .abandon id => answer (fun _ => .done) (abandon memory id)
  | .read id offset => ((read memory id offset).map .word,memory)
  | .write id offset value => answer (fun _ => .done) (write memory id offset value)
  | .loadProgram id => answer (fun _ => .done) (loadProgram memory id)
  | .array id => ((array memory id).map .array,memory)
  | .program => (.ok (.array (program memory)),memory)
  | .isLive id => (.ok (.flag (isLive memory id)),memory)
  | .live => (.ok (.listing (live memory)),memory)

/-- The answers to a list of requests in turn, and the memory after them. -/
def performAll (memory : σ) : List Request → List (Except Fault Answer) × σ
  | [] => ([],memory)
  | request::requests =>
    let (answer, memory) := perform memory request
    let (answers, memory) := performAll memory requests
    (answer::answers,memory)

variable {heap : Heap} {store : Store}

theorem answer_agrees {α : Type} (view : α → Answer) {x : Except Fault α × Heap}
    {y : Except Fault α × Store} (h : Heap.Agree x y) : Heap.Agree (answer view x) (answer view y) :=
  ⟨congrArg (Except.map view) h.result,h.memory⟩

theorem perform_agrees (h : heap.Represents store) (request : Request) :
    Heap.Agree (perform heap request) (perform store request) := by
  cases request with
  | allocate size => exact answer_agrees _ (h.allocate size)
  | abandon id => exact answer_agrees _ (h.abandon id)
  | write id offset value => exact answer_agrees _ (h.write id offset value)
  | loadProgram id => exact answer_agrees _ (h.loadProgram id)
  | read id offset => exact ⟨congrArg (Except.map Answer.word) (h.read_eq id offset),h⟩
  | array id => exact ⟨congrArg (Except.map Answer.array) (h.array_eq id),h⟩
  | program => exact ⟨congrArg (fun data => Except.ok (Answer.array data)) h.program_eq,h⟩
  | isLive id => exact ⟨congrArg (fun value => Except.ok (Answer.flag value)) (h.isLive_eq id),h⟩
  | live => exact ⟨congrArg (fun arrays => Except.ok (Answer.listing arrays)) h.live_eq,h⟩

theorem performAll_agrees (h : heap.Represents store) (requests : List Request) :
    Heap.Agree (performAll heap requests) (performAll store requests) := by
  induction requests generalizing heap store with
  | nil => exact ⟨rfl,h⟩
  | cons request requests ih =>
    have hfirst := perform_agrees h request
    have hrest := ih hfirst.memory
    exact ⟨congrArg₂ List.cons hfirst.result hrest.result,hrest.memory⟩

theorem performAll_ofProgram (refuses : UInt32 → Bool) (program : Array UInt32)
    (history : List Request) :
    Heap.Agree (performAll (Heap.ofProgram refuses program) history)
      (performAll (Store.ofProgram refuses program) history) :=
  performAll_agrees (Heap.ofProgram_represents refuses program) history

theorem answer_eq_error {α : Type} {view : α → Answer} {x : Except Fault α × Heap} {fault : Fault}
    (h : (answer view x).1 = .error fault) : x = (.error fault,x.2) := by
  obtain ⟨result,memory⟩ := x
  cases result with
  | ok a => cases h
  | error cause =>
    cases h
    rfl

/-- A request that is refused changes nothing. -/
theorem perform_eq_error {request : Request} {fault : Fault}
    (h : (perform heap request).1 = .error fault) : (perform heap request).2 = heap := by
  cases request with
  | allocate size => exact (Heap.allocate_eq_error (answer_eq_error h)).2
  | abandon id => exact (Heap.abandon_eq_error (answer_eq_error h)).2
  | write id offset value => exact (Heap.write_eq_error (answer_eq_error h)).2
  | loadProgram id => exact (Heap.loadProgram_eq_error (answer_eq_error h)).2
  | read id offset => rfl
  | array id => rfl
  | program => rfl
  | isLive id => rfl
  | live => rfl

theorem perform_refuses (store : Store) (request : Request) :
    (perform store request).2.refuses = store.refuses := by
  cases request with
  | allocate size =>
    change (store.allocate size).2.refuses = store.refuses
    unfold Store.allocate
    split <;> rfl
  | abandon id =>
    change (store.abandon id).2.refuses = store.refuses
    unfold Store.abandon
    split_ifs <;> rfl
  | write id offset value =>
    change (store.write id offset value).2.refuses = store.refuses
    unfold Store.write
    split
    · rfl
    · split <;> rfl
  | loadProgram id =>
    change (store.loadProgram id).2.refuses = store.refuses
    unfold Store.loadProgram
    split <;> rfl
  | _ => rfl

/-- No request changes what the host refuses. -/
theorem performAll_refuses (store : Store) (requests : List Request) :
    (performAll store requests).2.refuses = store.refuses := by
  induction requests generalizing store with
  | nil => rfl
  | cons request requests ih => exact (ih _).trans (perform_refuses store request)

/-- Heaps on one host that hold the same arrays stand for one store. -/
theorem store_eq {other : Heap} {store' : Store} (h : heap.Represents store)
    (ho : other.Represents store') (hrefuses : store'.refuses = store.refuses)
    (hs : ∀ id, other.slot? id = heap.slot? id) : store' = store := by
  have harrays : store'.arrays = store.arrays := by
    apply Finmap.ext_lookup
    intro id
    rw [h.lookup,ho.lookup,hs]
  cases store'
  cases store
  cases hrefuses
  cases harrays
  rfl

/-- A heap is the finite map of its arrays, whatever was asked of it before and whichever sizes the host
refuses. It answers every list of requests as the map does and holds the arrays of the map afterwards. A
request that fails leaves it as it was. The identifier of a new array is the least positive one out of
use, as long as a word can tell it. Heaps on one host that hold the same arrays cannot be told apart by
later requests, and go on holding the same arrays. -/
theorem heap_behaves_as_store (refuses : UInt32 → Bool) (program : Array UInt32)
    (history : List Request) :
    let heap := (performAll (Heap.ofProgram refuses program) history).2
    let store := (performAll (Store.ofProgram refuses program) history).2
    (performAll (Heap.ofProgram refuses program) history).1 =
        (performAll (Store.ofProgram refuses program) history).1 ∧
      (∀ id, store.arrays.lookup id = heap.slot? id) ∧
      (∀ request fault, (perform heap request).1 = .error fault → (perform heap request).2 = heap) ∧
      (∀ size, refuses size = false → store.fresh < UInt32.size →
        ∃ id heap', heap.allocate size = (.ok id,heap') ∧
          IsLeast {id : ℕ | 0 < id ∧ heap.slot? id = none} id.toNat) ∧
      ∀ program' history',
        let other := (performAll (Heap.ofProgram refuses program') history').2
        (∀ id, other.slot? id = heap.slot? id) → ∀ requests,
          (performAll other requests).1 = (performAll heap requests).1 ∧
          ∀ id, (performAll other requests).2.slot? id = (performAll heap requests).2.slot? id := by
  intro heap store
  obtain ⟨hanswers,hr⟩ := performAll_ofProgram refuses program history
  have hrefuses : store.refuses = refuses := performAll_refuses _ history
  refine ⟨hanswers,hr.lookup,fun _ _ => perform_eq_error,?_,?_⟩
  · intro size hs hfresh
    have hgranted : heap.refuses size = false := by
      rw [hr.refuses]
      change store.refuses size = false
      rw [hrefuses,hs]
    rw [hr.fresh_eq] at hfresh
    refine ⟨_,_,heap.allocate_of_granted hgranted,?_⟩
    rw [Heap.reserve_fst,UInt32.toNat_ofNat_of_lt' hfresh]
    exact hr.tidy.isLeast_nextId
  · intro program' history' other hs requests
    have ho := (performAll_ofProgram refuses program' history').memory
    -- both heaps stand for one store, and the answers to come depend on that alone
    have hstore := store_eq hr ho ((performAll_refuses _ history').trans hrefuses.symm) hs
    obtain ⟨hx,hrx⟩ := performAll_agrees hr requests
    obtain ⟨hy,hry⟩ := performAll_agrees ho requests
    rw [hstore] at hy hry
    refine ⟨hy.trans hx.symm,?_⟩
    intro id
    rw [← hry.lookup,← hrx.lookup]

/-- The host refuses arrays of five platters. An array of the largest size that it grants is made under an
identifier that was given up. -/
theorem heap_behaves_as_store_recycled :
    let refuses : UInt32 → Bool := (· == 5)
    let heap := (performAll (Heap.ofProgram refuses #[7]) [.allocate 2,.abandon 1]).2
    let store := (performAll (Store.ofProgram refuses #[7]) [.allocate 2,.abandon 1]).2
    let other := (performAll (Heap.ofProgram refuses #[7]) [.allocate 5]).2
    (heap.capacity = 2 ∧ other.capacity = 1) ∧ refuses 0xFFFFFFFF = false ∧
      store.fresh < UInt32.size ∧ (∀ id, other.slot? id = heap.slot? id) ∧
      (perform heap (.allocate 5)).1 = .error (.allocationFailed 5) ∧
      (perform heap (.allocate 5)).2 = heap ∧
      (∃ id heap', heap.allocate 0xFFFFFFFF = (.ok id,heap') ∧
        IsLeast {id : ℕ | 0 < id ∧ heap.slot? id = none} id.toNat) ∧
      (performAll other [.allocate 3,.live]).1 = (performAll heap [.allocate 3,.live]).1 := by
  intro refuses heap store other
  have hslots : heap.slots = #[some #[7],none] := by
    simp only [heap, refuses]
    cbv
  have hother : other.slots = #[some #[7]] := by
    simp only [other, refuses]
    cbv
  have hnext : heap.nextId = 1 := by
    simp only [heap, refuses]
    cbv
  have hrefused : (perform heap (.allocate 5)).1 = .error (.allocationFailed 5) := by
    simp only [heap, refuses]
    cbv
  obtain ⟨_,_,hfails,hleast,hsame⟩ := heap_behaves_as_store refuses #[7] [.allocate 2,.abandon 1]
  have hfresh : store.fresh < UInt32.size := by
    rw [(performAll_ofProgram refuses #[7] [.allocate 2,.abandon 1]).memory.fresh_eq]
    change heap.nextId < UInt32.size
    rw [hnext]
    decide
  have hslot : ∀ id, other.slot? id = heap.slot? id := by
    intro id
    unfold Heap.slot?
    rw [hslots,hother]
    rcases id with _ | _ | id <;> rfl
  have hgranted : refuses 0xFFFFFFFF = false := by decide
  exact ⟨⟨congrArg Array.size hslots,congrArg Array.size hother⟩,hgranted,hfresh,hslot,hrefused,
    hfails _ _ hrefused,hleast 0xFFFFFFFF hgranted hfresh,(hsame #[7] [.allocate 5] hslot _).1⟩

end Memory
end UniversalMachine
