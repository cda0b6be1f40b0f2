import Mathlib
import UniversalMachine.Proofs.FreeList

/-! The heap as a finite map from identifiers to arrays. The slots, the list of abandoned identifiers
and the order in which they came about do not show: every operation on a heap is the plain operation
on the map of its arrays. Whether the host has memory for an array depends on its size alone, in a way
that is left open. -/
namespace UniversalMachine

structure Store where
  /-- The sizes of which the host has no memory for an array. -/
  refuses : UInt32 → Bool
  /-- The arrays in use, under their identifiers. -/
  arrays : Finmap fun _ : ℕ => Array UInt32

namespace Store

def ofProgram (refuses : UInt32 → Bool) (program : Array UInt32) : Store :=
  ⟨refuses,Finmap.singleton 0 program⟩

theorem exists_unused (store : Store) : ∃ id, 0 < id ∧ id ∉ store.arrays := by
  obtain ⟨id,h⟩ := Infinite.exists_notMem_finset (insert 0 store.arrays.keys)
  rw [Finset.mem_insert,not_or,Finmap.mem_keys] at h
  exact ⟨id,Nat.pos_of_ne_zero h.1,h.2⟩

instance (store : Store) (id : ℕ) : Decidable (id ∈ store.arrays) :=
  decidable_of_iff _ Finmap.lookup_isSome

/-- The least positive identifier that is not in use. -/
def fresh (store : Store) : ℕ := Nat.find store.exists_unused

theorem fresh_eq_iff {store : Store} {id : ℕ} :
    store.fresh = id ↔
      (0 < id ∧ id ∉ store.arrays) ∧ ∀ other < id, 0 < other → other ∈ store.arrays := by
  simp only [fresh, Nat.find_eq_iff, not_and, not_not]

/-- The identifiers in use with the sizes of their arrays, in increasing order. -/
def live (store : Store) : List (UInt32 × ℕ) :=
  store.arrays.keys.sort.filterMap fun id =>
    (store.arrays.lookup id).map fun data => (.ofNat id,data.size)

def isLive (store : Store) (id : UInt32) : Bool := decide (id.toNat ∈ store.arrays)

/-- The program array. -/
def program (store : Store) : Array UInt32 := (store.arrays.lookup 0).getD #[]

def array (store : Store) (id : UInt32) : Except Fault (Array UInt32) :=
  match store.arrays.lookup id.toNat with
  | some data => .ok data
  | none => .error (.invalidArrayIndex id)

def read (store : Store) (id offset : UInt32) : Except Fault UInt32 :=
  match store.arrays.lookup id.toNat with
  | none => .error (.invalidArrayIndex id)
  | some data =>
    if h : offset.toNat < data.size then .ok data[offset.toNat]
    else .error (.invalidOffset id offset data.size)

def insert (store : Store) (id : ℕ) (data : Array UInt32) : Store :=
  { store with arrays := store.arrays.insert id data }

def erase (store : Store) (id : ℕ) : Store := { store with arrays := store.arrays.erase id }

def write (store : Store) (id offset value : UInt32) : Except Fault Unit × Store :=
  match store.arrays.lookup id.toNat with
  | none => (.error (.invalidArrayIndex id),store)
  | some data =>
    if h : offset.toNat < data.size then
      (.ok (),store.insert id.toNat (data.set offset.toNat value))
    else (.error (.invalidOffset id offset data.size),store)

/-- The identifier is told as a word of 32 bits. -/
def allocate (store : Store) (size : UInt32) : Except Fault UInt32 × Store :=
  if store.refuses size then (.error (.allocationFailed size),store)
  else (.ok (.ofNat store.fresh),store.insert store.fresh (Array.replicate size.toNat 0))

def abandon (store : Store) (id : UInt32) : Except Fault Unit × Store :=
  if id = 0 then (.error (.invalidArrayIndex id),store)
  else if id.toNat ∈ store.arrays then (.ok (),store.erase id.toNat)
  else (.error (.doubleFree id),store)

def loadProgram (store : Store) (id : UInt32) : Except Fault Unit × Store :=
  match store.arrays.lookup id.toNat with
  | none => (.error (.invalidProgramArray id),store)
  | some data => (.ok (),store.insert 0 data)

theorem lookup_insert (store : Store) (id other : ℕ) (data : Array UInt32) :
    (store.insert id data).arrays.lookup other =
      if other = id then some data else store.arrays.lookup other := by
  unfold insert
  by_cases h : other = id
  · subst h
    simp
  · simp [h, Finmap.lookup_insert_of_ne]

theorem lookup_erase (store : Store) (id other : ℕ) :
    (store.erase id).arrays.lookup other =
      if other = id then none else store.arrays.lookup other := by
  unfold erase
  by_cases h : other = id
  · subst h
    simp
  · simp [h, Finmap.lookup_erase_ne]

end Store

namespace Heap

theorem filterMap_zipIdx {α β : Type} (f : α × ℕ → Option β) (l : List α) :
    l.zipIdx.filterMap f = (List.range l.length).filterMap fun i => l[i]?.bind fun a => f (a,i) := by
  induction l using List.reverseRecOn with
  | nil => rfl
  | append_singleton l a ih =>
    have hl : ∀ i ∈ List.range l.length,
        ((l++[a])[i]?.bind fun a => f (a,i)) = l[i]?.bind fun a => f (a,i) := by
      intro i hi
      rw [List.getElem?_append_left (List.mem_range.mp hi)]
    simp [List.zipIdx_append, ih, List.range_succ, List.filterMap_congr hl, List.filterMap_cons]

theorem live_eq_range (heap : Heap) :
    heap.live = (List.range heap.capacity).filterMap fun id =>
      (heap.slot? id).map fun data => (.ofNat id,data.size) := by
  unfold live
  rw [filterMap_zipIdx,Array.length_toList]
  congr
  funext id
  simp only [slot?, Array.getElem?_toList]
  cases heap.slots[id]? <;> rfl

theorem refuses_reserve (heap : Heap) (size : UInt32) :
    (heap.reserve size).2.refuses = heap.refuses := by
  unfold reserve
  cases heap.free.min? <;> rfl

theorem refuses_install (heap : Heap) (id : UInt32) : (heap.install id).refuses = heap.refuses := by
  unfold install
  split
  · rfl
  · split <;> rfl

/-- The heap holds the arrays of the store, on the same host. -/
structure Represents (heap : Heap) (store : Store) : Prop where
  tidy : heap.Tidy
  refuses : heap.refuses = store.refuses
  lookup : ∀ id, store.arrays.lookup id = heap.slot? id

/-- The same result, beside a heap and a store that hold the same arrays. -/
structure Agree {α : Type} (x : α × Heap) (y : α × Store) : Prop where
  result : x.1 = y.1
  memory : x.2.Represents y.2

theorem ofProgram_represents (refuses : UInt32 → Bool) (program : Array UInt32) :
    (ofProgram refuses program).Represents (.ofProgram refuses program) where
  tidy := ofProgram_tidy refuses program
  refuses := rfl
  lookup id := by
    rw [slot?_ofProgram]
    by_cases h : id = 0
    · subst h
      simp [Store.ofProgram]
    · simp [Store.ofProgram, h, Finmap.lookup_eq_none]

namespace Represents

variable {heap : Heap} {store : Store} (h : heap.Represents store)
include h

theorem mem_iff (id : ℕ) : id ∈ store.arrays ↔ heap.slot? id ≠ none := by
  rw [← h.lookup,Ne,Finmap.lookup_eq_none,not_not]

theorem fresh_eq : store.fresh = heap.nextId := by
  obtain ⟨hn,hbelow⟩ := h.tidy.nextId_spec
  rw [Store.fresh_eq_iff]
  refine ⟨⟨h.tidy.nextId_pos,?_⟩,?_⟩
  · rw [h.mem_iff,not_not]
    exact hn
  · intro other ho _
    rw [h.mem_iff]
    exact hbelow other ho

theorem isLive_eq (id : UInt32) : heap.isLive id = store.isLive id := by
  unfold isLive Store.isLive array?
  rw [Bool.eq_iff_iff,decide_eq_true_iff,h.mem_iff,Option.ne_none_iff_isSome]

theorem array_eq (id : UInt32) : heap.array id = store.array id := by
  have hl := h.lookup id.toNat
  unfold array Store.array array?
  cases hs : heap.slot? id.toNat with
  | none => simp only [hl, hs]
  | some data => simp only [hl, hs]

theorem program_eq : heap.program = store.program := by
  unfold program Store.program array?
  rw [h.lookup]
  rfl

theorem read_eq (id offset : UInt32) : heap.read id offset = store.read id offset := by
  unfold read Store.read array?
  rw [h.lookup]
  cases heap.slot? id.toNat with
  | none => rfl
  | some data =>
    by_cases ho : offset.toNat < data.size <;> simp [ho]

theorem write (id offset value : UInt32) :
    Agree (heap.write id offset value) (store.write id offset value) := by
  unfold Heap.write
  rw [h.read_eq]
  unfold Store.read Store.write
  cases hd : store.arrays.lookup id.toNat with
  | none => exact ⟨rfl,h⟩
  | some data =>
    by_cases ho : offset.toNat < data.size
    · simp only [ho, dif_pos]
      refine ⟨rfl,h.tidy.put id offset value,h.refuses,?_⟩
      intro other
      rw [Store.lookup_insert,slot?_put,← h.lookup]
      split
      · next hx =>
        subst hx
        rw [hd]
        simp [Array.setIfInBounds, ho]
      · rfl
    · simp only [ho, dif_neg, not_false_eq_true]
      exact ⟨rfl,h⟩

theorem allocate (size : UInt32) : Agree (heap.allocate size) (store.allocate size) := by
  have hrefuses : heap.refuses size = store.refuses size := congrFun h.refuses size
  unfold Store.allocate
  cases hs : store.refuses size with
  | true =>
    rw [heap.allocate_of_refused (hrefuses.trans hs),if_pos rfl]
    exact ⟨rfl,h⟩
  | false =>
    rw [heap.allocate_of_granted (hrefuses.trans hs),if_neg Bool.false_ne_true]
    refine ⟨?_,h.tidy.reserve size,(heap.refuses_reserve size).trans h.refuses,?_⟩
    · rw [h.fresh_eq,reserve_fst]
    · intro other
      rw [Store.lookup_insert,slot?_reserve h.tidy,h.fresh_eq,h.lookup]

theorem abandon (id : UInt32) : Agree (heap.abandon id) (store.abandon id) := by
  unfold Heap.abandon Store.abandon
  by_cases hid : id = 0
  · simp only [hid, if_true]
    exact ⟨rfl,h⟩
  · by_cases hl : heap.isLive id
    · have hm : id.toNat ∈ store.arrays := by simpa [h.isLive_eq, Store.isLive] using hl
      simp only [hid, hl, hm, if_true, if_false]
      refine ⟨rfl,h.tidy.release hid hl,h.refuses,?_⟩
      intro other
      rw [Store.lookup_erase,slot?_release,h.lookup]
    · have hm : id.toNat ∉ store.arrays := by simpa [h.isLive_eq, Store.isLive] using hl
      simp only [hid, hl, hm, if_false]
      exact ⟨rfl,h⟩

theorem loadProgram (id : UInt32) : Agree (heap.loadProgram id) (store.loadProgram id) := by
  unfold Heap.loadProgram Store.loadProgram
  rw [h.lookup]
  cases hd : heap.slot? id.toNat with
  | none =>
    have hl : ¬ heap.isLive id := by simp [isLive, array?, hd]
    simp only [hl]
    exact ⟨rfl,h⟩
  | some data =>
    have hl : heap.isLive id := by simp [isLive, array?, hd]
    simp only [hl, if_true]
    refine ⟨rfl,h.tidy.install hl,(heap.refuses_install id).trans h.refuses,?_⟩
    intro other
    rw [Store.lookup_insert,slot?_install heap id other hl,array?,hd,h.lookup]

theorem keys_sort :
    store.arrays.keys.sort = (List.range heap.capacity).filter fun id => (heap.slot? id).isSome := by
  have hnodup : ((List.range heap.capacity).filter fun id => (heap.slot? id).isSome).Nodup :=
    List.nodup_range.filter _
  have hkeys : store.arrays.keys =
      ((List.range heap.capacity).filter fun id => (heap.slot? id).isSome).toFinset := by
    ext id
    rw [Finmap.mem_keys,h.mem_iff,List.mem_toFinset,List.mem_filter,List.mem_range,
      Option.ne_none_iff_isSome]
    exact ⟨fun hs => ⟨slot?_lt (Option.ne_none_iff_isSome.mpr hs),hs⟩,And.right⟩
  -- the slots are listed in order, so sorting their set of identifiers gives the list back
  rw [hkeys]
  exact (List.toFinset_sort (· ≤ ·) hnodup).mpr (List.pairwise_le_range.filter _)

theorem live_eq : heap.live = store.live := by
  unfold Store.live
  rw [live_eq_range,h.keys_sort,List.filterMap_filter]
  congr
  funext id
  rw [h.lookup]
  cases heap.slot? id <;> rfl

end Represents
end Heap
end UniversalMachine
