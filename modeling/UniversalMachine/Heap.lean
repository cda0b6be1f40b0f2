import Std.Data.TreeSet
import UniversalMachine.Fault

/-! The machine's memory: arrays of platters under identifiers. Array 0 is the program and is
always allocated. An abandoned identifier is used again before a new one is made, the smallest
first, so the identifiers a program sees depend on nothing but its own requests.

An operation that changes the heap returns its result beside the heap that it leaves. What it does
when it succeeds is an update that cannot fail. -/
namespace UniversalMachine

/-- The slot of an identifier holds its array, or nothing once the array was abandoned. The
abandoned identifiers, the number of arrays and their total size are kept beside the slots. -/
structure Heap where
  /-- The sizes of which the host has no memory for an array. -/
  refuses : UInt32 → Bool
  slots : Array (Option (Array UInt32))
  /-- The abandoned identifiers. Only one in use is abandoned, and 0 never is, so a queue of them
  would not hold one twice either, nor 0 for the next array to skip. -/
  free : Std.TreeSet Nat
  liveArrays : Nat
  livePlatters : Nat

namespace Heap

/-- The heap that holds `program` and nothing else. -/
def ofProgram (refuses : UInt32 → Bool) (program : Array UInt32) : Heap :=
  ⟨refuses,#[some program],∅,1,program.size⟩

/-- The number of identifiers made so far. -/
def capacity (heap : Heap) : Nat := heap.slots.size

/-- The array in the slot numbered `id`, if there is one. -/
def slot? (heap : Heap) (id : Nat) : Option (Array UInt32) := heap.slots[id]?.join

/-- The array that `id` names now, if any. -/
def array? (heap : Heap) (id : UInt32) : Option (Array UInt32) := heap.slot? id.toNat

def isLive (heap : Heap) (id : UInt32) : Bool := (heap.array? id).isSome

/-- The program array. -/
def program (heap : Heap) : Array UInt32 := (heap.array? 0).getD #[]

/-- The identifiers in use with the sizes of their arrays, in increasing order. -/
def live (heap : Heap) : List (UInt32 × Nat) :=
  heap.slots.toList.zipIdx.filterMap fun (slot, id) =>
    slot.map fun data => (UInt32.ofNat id, data.size)

def array (heap : Heap) (id : UInt32) : Except Fault (Array UInt32) :=
  match heap.array? id with
  | some data => .ok data
  | none => .error (.invalidArrayIndex id)

/-- The platter at `offset` of array `id`. -/
def read (heap : Heap) (id offset : UInt32) : Except Fault UInt32 :=
  match heap.array? id with
  | none => .error (.invalidArrayIndex id)
  | some data =>
    match data[offset.toNat]? with
    | some word => .ok word
    | none => .error (.invalidOffset id offset data.size)

/-- Replaces the platter at `offset` of array `id`, if there is one. -/
def put (heap : Heap) (id offset value : UInt32) : Heap :=
  { heap with slots := heap.slots.modify id.toNat fun slot =>
      slot.map fun data => data.setIfInBounds offset.toNat value }

/-- A platter can be written exactly where one can be read. -/
def write (heap : Heap) (id offset value : UInt32) : Except Fault Unit × Heap :=
  match heap.read id offset with
  | .error fault => (.error fault, heap)
  | .ok _ => (.ok (), heap.put id offset value)

/-- Makes an array of zeros under the smallest abandoned identifier, or under a new one. -/
def reserve (heap : Heap) (size : UInt32) : UInt32 × Heap :=
  let data := Array.replicate size.toNat 0
  match heap.free.min? with
  | some id =>
    (.ofNat id,
      { heap with
        slots := heap.slots.setIfInBounds id (some data)
        free := heap.free.erase id
        liveArrays := heap.liveArrays + 1
        livePlatters := heap.livePlatters + size.toNat })
  | none =>
    (.ofNat heap.slots.size,
      { heap with
        slots := heap.slots.push (some data)
        liveArrays := heap.liveArrays + 1
        livePlatters := heap.livePlatters + size.toNat })

def allocate (heap : Heap) (size : UInt32) : Except Fault UInt32 × Heap :=
  if heap.refuses size then (.error (.allocationFailed size), heap)
  else
    let (id, heap) := heap.reserve size
    (.ok id, heap)

/-- Gives up the array `id` and its identifier. -/
def release (heap : Heap) (id : UInt32) : Heap :=
  let size := ((heap.array? id).map Array.size).getD 0
  { heap with
    slots := heap.slots.setIfInBounds id.toNat none
    free := heap.free.insert id.toNat
    liveArrays := heap.liveArrays - 1
    livePlatters := heap.livePlatters - size }

/-- The program array is never abandoned, and no array twice. -/
def abandon (heap : Heap) (id : UInt32) : Except Fault Unit × Heap :=
  if id = 0 then (.error (.invalidArrayIndex id), heap)
  else if heap.isLive id then (.ok (), heap.release id)
  else (.error (.doubleFree id), heap)

/-- Makes the program array a copy of array `id`. The program itself stays where it is. -/
def install (heap : Heap) (id : UInt32) : Heap :=
  if id = 0 then heap
  else match heap.array? id with
    | none => heap
    | some data =>
      { heap with
        slots := heap.slots.setIfInBounds 0 (some data)
        livePlatters := heap.livePlatters - heap.program.size + data.size }

def loadProgram (heap : Heap) (id : UInt32) : Except Fault Unit × Heap :=
  if heap.isLive id then (.ok (), heap.install id) else (.error (.invalidProgramArray id), heap)

/-! What each update does to the arrays in the slots. -/

theorem slot?_ofProgram (refuses : UInt32 → Bool) (program : Array UInt32) (id : Nat) :
    (ofProgram refuses program).slot? id = if id = 0 then some program else none := by
  cases id with
  | zero => rfl
  | succ id => simp [slot?, ofProgram]

theorem slot?_eq_none {heap : Heap} {id : Nat} (h : heap.capacity ≤ id) : heap.slot? id = none := by
  have hs : heap.slots.size ≤ id := h
  simp [slot?, hs]

/-- A write changes one cell of one array. -/
theorem slot?_put (heap : Heap) (id offset value : UInt32) (other : Nat) :
    (heap.put id offset value).slot? other =
      if other = id.toNat then (heap.slot? other).map (·.setIfInBounds offset.toNat value)
      else heap.slot? other := by
  by_cases h : other = id.toNat
  · subst h
    cases hs : heap.slots[id.toNat]? with
    | none => simp [slot?, put, Array.getElem?_modify, hs]
    | some slot => cases slot <;> simp [slot?, put, Array.getElem?_modify, hs]
  · simp [slot?, put, Array.getElem?_modify, h, Ne.symm h]

/-- Exactly the slot given up is empty then. -/
theorem slot?_release (heap : Heap) (id : UInt32) (other : Nat) :
    (heap.release id).slot? other = if other = id.toNat then none else heap.slot? other := by
  by_cases h : other = id.toNat
  · subst h
    by_cases hb : id.toNat < heap.slots.size <;> simp [slot?, release, hb]
  · simp [slot?, release, h, Ne.symm h]

/-- Loading changes the program array only. -/
theorem slot?_install (heap : Heap) (id : UInt32) (other : Nat) (h : heap.isLive id) :
    (heap.install id).slot? other = if other = 0 then heap.array? id else heap.slot? other := by
  by_cases hid : id = 0
  · subst hid
    by_cases ho : other = 0
    · subst ho
      simp [install, array?]
    · simp [install, ho]
  · obtain ⟨data, hd⟩ := Option.isSome_iff_exists.mp h
    have hslots : (heap.install id).slots = heap.slots.setIfInBounds 0 (some data) := by
      simp [install, hid, hd]
    have hsize : 0 < heap.slots.size := by
      by_cases hs : heap.slots.size = 0
      · simp [array?, slot?, Array.eq_empty_of_size_eq_zero hs] at hd
      · omega
    by_cases ho : other = 0
    · subst ho
      simp [slot?, hslots, hsize, hd]
    · simp [slot?, hslots, ho, Ne.symm ho]

/-! What an operation has done, by its result. A failure leaves the heap as it was. -/

section Results
variable {heap heap' : Heap} {id offset value size : UInt32} {fault : Fault}

theorem write_eq_ok (h : heap.write id offset value = (.ok (), heap')) :
    heap' = heap.put id offset value := by
  unfold write at h
  split at h <;> cases h
  rfl

theorem write_eq_error (h : heap.write id offset value = (.error fault, heap')) :
    heap.read id offset = .error fault ∧ heap' = heap := by
  unfold write at h
  split at h <;> cases h
  next hread => exact ⟨hread, rfl⟩

theorem allocate_eq_ok (h : heap.allocate size = (.ok id, heap')) :
    heap.refuses size = false ∧ heap.reserve size = (id, heap') := by
  unfold allocate at h
  split at h <;> cases h
  next hgranted => exact ⟨Bool.eq_false_iff.mpr hgranted, rfl⟩

theorem allocate_eq_error (h : heap.allocate size = (.error fault, heap')) :
    fault = .allocationFailed size ∧ heap' = heap := by
  unfold allocate at h
  split at h <;> cases h
  exact ⟨rfl, rfl⟩

theorem allocate_of_refused (heap : Heap) (h : heap.refuses size = true) :
    heap.allocate size = (.error (.allocationFailed size), heap) := by
  simp [allocate, h]

theorem allocate_of_granted (heap : Heap) (h : heap.refuses size = false) :
    heap.allocate size = (.ok (heap.reserve size).1, (heap.reserve size).2) := by
  simp [allocate, h]

theorem abandon_eq_ok (h : heap.abandon id = (.ok (), heap')) :
    id ≠ 0 ∧ heap.isLive id ∧ heap' = heap.release id := by
  unfold abandon at h
  split at h
  · cases h
  · next hid =>
    split at h <;> cases h
    next hlive => exact ⟨hid, hlive, rfl⟩

theorem abandon_eq_error (h : heap.abandon id = (.error fault, heap')) :
    (fault = .invalidArrayIndex id ∨ fault = .doubleFree id) ∧ heap' = heap := by
  unfold abandon at h
  split at h
  · cases h
    exact ⟨.inl rfl, rfl⟩
  · split at h <;> cases h
    exact ⟨.inr rfl, rfl⟩

theorem loadProgram_eq_ok (h : heap.loadProgram id = (.ok (), heap')) :
    heap.isLive id ∧ heap' = heap.install id := by
  unfold loadProgram at h
  split at h <;> cases h
  next hlive => exact ⟨hlive, rfl⟩

theorem loadProgram_eq_error (h : heap.loadProgram id = (.error fault, heap')) :
    fault = .invalidProgramArray id ∧ heap' = heap := by
  unfold loadProgram at h
  split at h <;> cases h
  exact ⟨rfl, rfl⟩

end Results

/-- Two arrays are made, the first is given up, and its identifier is the next to be used. -/
example (refuses : UInt32 → Bool) :
    (((((ofProgram refuses #[]).reserve 2).2.reserve 5).2.release 1).reserve 3).1 = 1 := by cbv

example (refuses : UInt32 → Bool) :
    ((((ofProgram refuses #[7]).reserve 2).2.put 1 1 9).install 1).program = #[0,9] := by cbv

end Heap
end UniversalMachine
