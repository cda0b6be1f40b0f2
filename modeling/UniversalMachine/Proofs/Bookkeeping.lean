import Mathlib
import UniversalMachine.Proofs.Memory

/-! The books of a heap. The abandoned identifiers, the number of arrays and their total size are kept
beside the slots and updated on their own; after any requests they still say what the slots say. -/
namespace UniversalMachine.Heap

/-- The arrays in use, in the order of their identifiers. -/
def arrays (heap : Heap) : List (Array UInt32) := heap.slots.toList.reduceOption

/-- The sum of `weight` over the arrays in use. Both counters of a heap are such sums. -/
def total (heap : Heap) (weight : Array UInt32 → ℕ) : ℕ := (heap.arrays.map weight).sum

theorem length_arrays (heap : Heap) : heap.arrays.length = heap.total fun _ => 1 := by simp [total]

/-- Replacing an entry takes its old weight out of the sum and brings the new one in. -/
theorem sum_reduceOption_set {α : Type} (weight : α → ℕ) (new : Option α) {old : Option α}
    {l : List (Option α)} {i : ℕ} (h : l[i]? = some old) :
    ((l.set i new).reduceOption.map weight).sum + (old.map weight).getD 0 =
      (l.reduceOption.map weight).sum + (new.map weight).getD 0 := by
  induction l generalizing i with
  | nil => simp at h
  | cons a l ih =>
    cases i with
    | zero =>
      have ha : a = old := by simpa using h
      subst ha
      cases a <;> cases new <;> simp <;> omega
    | succ i =>
      have hi := ih (i := i) (by simpa using h)
      cases a <;> simp <;> omega

theorem total_set {heap other : Heap} {id : ℕ} {old new : Option (Array UInt32)}
    (h : heap.slots[id]? = some old) (ho : other.slots = heap.slots.setIfInBounds id new)
    (weight : Array UInt32 → ℕ) :
    other.total weight + (old.map weight).getD 0 =
      heap.total weight + (new.map weight).getD 0 := by
  unfold total arrays
  rw [ho,Array.toList_setIfInBounds]
  exact sum_reduceOption_set weight new (by simpa using h)

theorem slots_of_slot? {heap : Heap} {id : ℕ} {data : Array UInt32} (h : heap.slot? id = some data) :
    heap.slots[id]? = some (some data) := by
  simpa [slot?, Option.join_eq_some_iff] using h

theorem Tidy.slots_eq_none_iff {heap : Heap} (h : heap.Tidy) (id : ℕ) :
    heap.slots[id]? = some none ↔ id ∈ heap.free := by
  rw [h.mem_free]
  unfold slot? capacity
  by_cases hid : id < heap.slots.size <;> simp [hid]

theorem Tidy.slot?_zero {heap : Heap} (h : heap.Tidy) : heap.slot? 0 = some heap.program := by
  obtain ⟨program,hp⟩ := Option.ne_none_iff_exists'.mp h.program
  simp [Heap.program, array?, hp]

theorem Tidy.total_reserve {heap : Heap} (h : heap.Tidy) (size : UInt32)
    (weight : Array UInt32 → ℕ) :
    (heap.reserve size).2.total weight =
      heap.total weight + weight (Array.replicate size.toNat 0) := by
  cases hm : heap.free.min? with
  | none =>
    have hslots : (heap.reserve size).2.slots =
        heap.slots.push (some (Array.replicate size.toNat 0)) := by
      simp [Heap.reserve, hm]
    simp [total, arrays, hslots, List.reduceOption_append]
  | some id =>
    have hslots : (heap.reserve size).2.slots =
        heap.slots.setIfInBounds id (some (Array.replicate size.toNat 0)) := by
      simp [Heap.reserve, hm]
    -- the slot that is used again held nothing
    have hmem : id ∈ heap.free := (Std.TreeSet.min?_eq_some_iff_mem_and_forall.mp hm).1
    have hnone := (h.slots_eq_none_iff id).mpr hmem
    simpa using total_set hnone hslots weight

theorem total_release {heap : Heap} {id : UInt32} {data : Array UInt32}
    (h : heap.array? id = some data) (weight : Array UInt32 → ℕ) :
    (heap.release id).total weight + weight data = heap.total weight := by
  have hslots : (heap.release id).slots = heap.slots.setIfInBounds id.toNat none := rfl
  simpa using total_set (slots_of_slot? h) hslots weight

theorem Tidy.total_install {heap : Heap} (h : heap.Tidy) {id : UInt32} {data : Array UInt32}
    (hd : heap.array? id = some data) (weight : Array UInt32 → ℕ) :
    (heap.install id).total weight + weight heap.program = heap.total weight + weight data := by
  by_cases hid : id = 0
  · subst hid
    obtain rfl : data = heap.program := Option.some.inj (hd.symm.trans h.slot?_zero)
    simp [Heap.install]
  · have hslots : (heap.install id).slots = heap.slots.setIfInBounds 0 (some data) := by
      simp [Heap.install, hid, hd]
    simpa using total_set (slots_of_slot? h.slot?_zero) hslots weight

theorem le_total {heap : Heap} {id : ℕ} {data : Array UInt32} (h : heap.slot? id = some data)
    (weight : Array UInt32 → ℕ) : weight data ≤ heap.total weight := by
  have hmem : data ∈ heap.arrays := by
    rw [arrays,List.reduceOption_mem_iff]
    exact List.mem_of_getElem? (by simpa using slots_of_slot? h)
  exact List.le_sum_of_mem (List.mem_map_of_mem hmem)

/-- Only the weights in the slots enter the sum. -/
theorem total_eq (heap : Heap) (weight : Array UInt32 → ℕ) :
    heap.total weight = (heap.slots.map (Option.map weight)).toList.reduceOption.sum := by
  simp [total, arrays, List.reduceOption_map]

theorem total_put (heap : Heap) (id offset value : UInt32) {weight : Array UInt32 → ℕ}
    (hw : ∀ data, weight (data.setIfInBounds offset.toNat value) = weight data) :
    (heap.put id offset value).total weight = heap.total weight := by
  have hslots : (heap.put id offset value).slots.map (Option.map weight) =
      heap.slots.map (Option.map weight) := by
    apply Array.ext_getElem?
    intro other
    by_cases ho : id.toNat = other
    · subst ho
      rcases hs : heap.slots[id.toNat]? with _ | _ | data <;>
        simp [put, Array.getElem?_map, Array.getElem?_modify, hs, hw]
    · simp [put, Array.getElem?_map, Array.getElem?_modify, ho]
  rw [total_eq,total_eq,hslots]

/-- The books agree with the slots. -/
structure Balanced (heap : Heap) : Prop extends heap.Tidy where
  liveArrays : heap.liveArrays = heap.total fun _ => 1
  livePlatters : heap.livePlatters = heap.total Array.size

theorem ofProgram_balanced (refuses : UInt32 → Bool) (program : Array UInt32) :
    (ofProgram refuses program).Balanced where
  toTidy := ofProgram_tidy refuses program
  liveArrays := by simp [ofProgram, total, arrays]
  livePlatters := by simp [ofProgram, total, arrays]

theorem liveArrays_reserve (heap : Heap) (size : UInt32) :
    (heap.reserve size).2.liveArrays = heap.liveArrays+1 := by
  unfold reserve
  cases heap.free.min? <;> rfl

namespace Balanced

variable {heap : Heap} (h : heap.Balanced)
include h

theorem reserve (size : UInt32) : (heap.reserve size).2.Balanced where
  toTidy := h.toTidy.reserve size
  liveArrays := by rw [liveArrays_reserve,h.toTidy.total_reserve,h.liveArrays]
  livePlatters := by
    have hc : (heap.reserve size).2.livePlatters = heap.livePlatters+size.toNat := by
      unfold Heap.reserve
      cases heap.free.min? <;> rfl
    rw [hc,h.toTidy.total_reserve,h.livePlatters,Array.size_replicate]

/-- Giving an array up takes it off both counters, which are large enough for that. -/
theorem counters_release {id : UInt32} {data : Array UInt32} (hd : heap.array? id = some data) :
    (heap.release id).liveArrays+1 = heap.liveArrays ∧
      (heap.release id).livePlatters+data.size = heap.livePlatters := by
  have hcount := total_release hd fun _ => 1
  have hsize := total_release hd Array.size
  rw [← h.liveArrays] at hcount
  rw [← h.livePlatters] at hsize
  simp only [Heap.release, hd, Option.map_some, Option.getD_some]
  omega

theorem release {id : UInt32} (hid : id ≠ 0) (hl : heap.isLive id) :
    (heap.release id).Balanced := by
  obtain ⟨data,hd⟩ := Option.isSome_iff_exists.mp hl
  obtain ⟨hcount,hsize⟩ := h.counters_release hd
  have htotal := total_release hd
  refine ⟨h.toTidy.release hid hl,?_,?_⟩
  · have := htotal fun _ => 1
    rw [h.liveArrays] at hcount
    omega
  · have := htotal Array.size
    rw [h.livePlatters] at hsize
    omega

/-- Loading takes the old program off the counter, which is large enough for that, and adds the new
one. -/
theorem livePlatters_install {id : UInt32} {data : Array UInt32} (hd : heap.array? id = some data) :
    heap.program.size ≤ heap.livePlatters ∧
      (heap.install id).livePlatters+heap.program.size = heap.livePlatters+data.size := by
  have hle := le_total h.toTidy.slot?_zero Array.size
  rw [← h.livePlatters] at hle
  refine ⟨hle,?_⟩
  by_cases hid : id = 0
  · subst hid
    obtain rfl : data = heap.program := Option.some.inj (hd.symm.trans h.toTidy.slot?_zero)
    simp [Heap.install]
  · simp only [Heap.install, hid, if_false, hd]
    omega

theorem install {id : UInt32} (hl : heap.isLive id) : (heap.install id).Balanced := by
  obtain ⟨data,hd⟩ := Option.isSome_iff_exists.mp hl
  have htotal := h.toTidy.total_install hd
  refine ⟨h.toTidy.install hl,?_,?_⟩
  · have hc : (heap.install id).liveArrays = heap.liveArrays := by
      unfold Heap.install
      split
      · rfl
      · split <;> rfl
    have := htotal fun _ => 1
    rw [hc,h.liveArrays]
    omega
  · have hsize := (h.livePlatters_install hd).2
    have := htotal Array.size
    rw [h.livePlatters] at hsize
    omega

theorem put (id offset value : UInt32) : (heap.put id offset value).Balanced where
  toTidy := h.toTidy.put id offset value
  liveArrays := by
    rw [total_put heap id offset value fun _ => rfl]
    exact h.liveArrays
  livePlatters := by
    rw [total_put heap id offset value fun data => data.size_setIfInBounds]
    exact h.livePlatters

end Balanced

/-! The list of abandoned identifiers. An identifier enters it once for each time it leaves it. -/

theorem nodup_free (heap : Heap) : heap.free.toList.Nodup :=
  Std.TreeSet.distinct_toList.imp fun hab => by simpa using hab

theorem Tidy.count_free {heap : Heap} (h : heap.Tidy) (id : ℕ) :
    heap.free.toList.count id = if heap.slots[id]? = some none then 1 else 0 := by
  rw [heap.nodup_free.count]
  simp only [Std.TreeSet.mem_toList, h.slots_eq_none_iff]

theorem Tidy.free_release {heap : Heap} (h : heap.Tidy) {id : UInt32} (hl : heap.isLive id) :
    (heap.release id).free.toList.Perm (id.toNat::heap.free.toList) := by
  have hn : id.toNat ∉ heap.free := by
    rw [h.mem_free]
    rintro ⟨_,hs⟩
    exact Option.ne_none_iff_isSome.mpr hl hs
  have hp := Std.TreeSet.toList_insert_perm (t := heap.free) (k := id.toNat)
  rwa [if_neg (by simpa using hn)] at hp

theorem free_reserve {heap : Heap} {id : ℕ} (hm : heap.free.min? = some id) (size : UInt32) :
    heap.free.toList.Perm (id::(heap.reserve size).2.free.toList) := by
  have hmem : id ∈ heap.free := (Std.TreeSet.min?_eq_some_iff_mem_and_forall.mp hm).1
  have hnext : heap.nextId = id := by simp [nextId, hm]
  have hn : (id::(heap.reserve size).2.free.toList).Nodup := by
    refine List.nodup_cons.mpr ⟨?_,nodup_free _⟩
    simp [mem_free_reserve, hnext]
  rw [List.perm_ext_iff_of_nodup heap.nodup_free hn]
  intro other
  simp only [List.mem_cons, Std.TreeSet.mem_toList, mem_free_reserve, hnext]
  by_cases ho : other = id
  · simp [ho, hmem]
  · simp [ho]

/-- What a request can do to a heap. -/
inductive Update (heap : Heap) : Heap → Prop
  | none : Update heap heap
  | reserve (size : UInt32) : Update heap (heap.reserve size).2
  | release {id : UInt32} (proper : id ≠ 0) (live : heap.isLive id) : Update heap (heap.release id)
  | put (id offset value : UInt32) : Update heap (heap.put id offset value)
  | install {id : UInt32} (live : heap.isLive id) : Update heap (heap.install id)

theorem Update.balanced {heap heap' : Heap} (h : heap.Balanced) (hu : heap.Update heap') :
    heap'.Balanced := by
  cases hu with
  | none => exact h
  | reserve size => exact h.reserve size
  | release proper live => exact h.release proper live
  | put id offset value => exact h.put id offset value
  | install live => exact h.install live

end UniversalMachine.Heap

namespace UniversalMachine.Memory

variable {heap : Heap}

theorem perform_update (heap : Heap) (request : Request) : heap.Update (perform heap request).2 := by
  cases request with
  | allocate size =>
    change heap.Update (heap.allocate size).2
    rcases hm : heap.allocate size with ⟨fault | id,heap'⟩
    · obtain ⟨_,rfl⟩ := Heap.allocate_eq_error hm
      exact .none
    · have hu : heap.Update (heap.reserve size).2 := .reserve size
      rwa [(Heap.allocate_eq_ok hm).2] at hu
  | abandon id =>
    change heap.Update (heap.abandon id).2
    rcases hm : heap.abandon id with ⟨fault | _,heap'⟩
    · obtain ⟨_,rfl⟩ := Heap.abandon_eq_error hm
      exact .none
    · obtain ⟨hid,hl,rfl⟩ := Heap.abandon_eq_ok hm
      exact .release hid hl
  | write id offset value =>
    change heap.Update (heap.write id offset value).2
    rcases hm : heap.write id offset value with ⟨fault | _,heap'⟩
    · obtain ⟨_,rfl⟩ := Heap.write_eq_error hm
      exact .none
    · rw [Heap.write_eq_ok hm]
      exact .put id offset value
  | loadProgram id =>
    change heap.Update (heap.loadProgram id).2
    rcases hm : heap.loadProgram id with ⟨fault | _,heap'⟩
    · obtain ⟨_,rfl⟩ := Heap.loadProgram_eq_error hm
      exact .none
    · obtain ⟨hl,rfl⟩ := Heap.loadProgram_eq_ok hm
      exact .install hl
  | read id offset => exact .none
  | array id => exact .none
  | program => exact .none
  | isLive id => exact .none
  | live => exact .none

theorem perform_balanced (h : heap.Balanced) (request : Request) :
    (perform heap request).2.Balanced :=
  (perform_update heap request).balanced h

theorem performAll_balanced (h : heap.Balanced) (requests : List Request) :
    (performAll heap requests).2.Balanced := by
  induction requests generalizing heap with
  | nil => exact h
  | cons request requests ih => exact ih (perform_balanced h request)

/-- The books of a heap are right after any requests, granted or refused. The program array is there,
the list of abandoned identifiers holds those of the empty slots, each once, and the counters count
the arrays and their platters. So the smallest abandoned identifier is never 0 and names an empty slot,
an array made takes one entry off the list and an array given up puts one on, and no counter ever falls
below what is taken off it. -/
theorem heap_books_right (refuses : UInt32 → Bool) (program : Array UInt32)
    (history : List Request) :
    let heap := (performAll (Heap.ofProgram refuses program) history).2
    (∃ data, heap.slots[0]? = some (some data)) ∧
    (∀ id, heap.free.toList.count id = if heap.slots[id]? = some none then 1 else 0) ∧
    (∀ id ∈ heap.free, id ≠ 0 ∧ id < heap.capacity) ∧
    heap.liveArrays = heap.arrays.length ∧
    heap.livePlatters = (heap.arrays.map Array.size).sum ∧
    (∀ size id heap', heap.allocate size = (.ok id,heap') → ∀ least, heap.free.min? = some least →
      least ≠ 0 ∧ heap.slots[least]? = some none ∧
      heap.free.toList.Perm (least::heap'.free.toList)) ∧
    (∀ id heap', heap.abandon id = (.ok (),heap') → ∃ data, heap.array? id = some data ∧
      heap'.free.toList.Perm (id.toNat::heap.free.toList) ∧
      heap'.liveArrays+1 = heap.liveArrays ∧
      heap'.livePlatters+data.size = heap.livePlatters) ∧
    (∀ id heap', heap.loadProgram id = (.ok (),heap') → ∃ data, heap.array? id = some data ∧
      heap.program.size ≤ heap.livePlatters ∧
      heap'.livePlatters+heap.program.size = heap.livePlatters+data.size) := by
  intro heap
  have h : heap.Balanced := performAll_balanced (Heap.ofProgram_balanced refuses program) history
  have hfree : ∀ id ∈ heap.free, id ≠ 0 ∧ id < heap.capacity := by
    intro id hmem
    obtain ⟨hlt,hs⟩ := (h.mem_free id).mp hmem
    refine ⟨?_,hlt⟩
    rintro rfl
    exact h.program hs
  refine ⟨⟨_,Heap.slots_of_slot? h.slot?_zero⟩,h.count_free,hfree,?_,h.livePlatters,?_,?_,?_⟩
  · rw [Heap.length_arrays]
    exact h.liveArrays
  · intro size id heap' hm least hleast
    have hmem : least ∈ heap.free := (Std.TreeSet.min?_eq_some_iff_mem_and_forall.mp hleast).1
    refine ⟨(hfree least hmem).1,(h.slots_eq_none_iff least).mpr hmem,?_⟩
    have hperm := Heap.free_reserve hleast size
    rwa [(Heap.allocate_eq_ok hm).2] at hperm
  · intro id heap' hm
    obtain ⟨_,hl,rfl⟩ := Heap.abandon_eq_ok hm
    obtain ⟨data,hd⟩ := Option.isSome_iff_exists.mp hl
    exact ⟨data,hd,h.free_release hl,h.counters_release hd⟩
  · intro id heap' hm
    obtain ⟨hl,rfl⟩ := Heap.loadProgram_eq_ok hm
    obtain ⟨data,hd⟩ := Option.isSome_iff_exists.mp hl
    exact ⟨data,hd,h.livePlatters_install hd⟩

/-- Two arrays were made and the first given up: each kind of update meets the books that a refused
abandonment and a refused array have left alone. -/
theorem heap_books_right_reused :
    let refuses : UInt32 → Bool := (· == 9)
    let history : List Request := [.allocate 2,.allocate 3,.abandon 1,.abandon 1,.allocate 9]
    let heap := (performAll (Heap.ofProgram refuses #[7]) history).2
    (∃ id heap', heap.allocate 5 = (.ok id,heap') ∧ heap.free.min? = some 1 ∧
      heap.slots[1]? = some none ∧ heap.free.toList.Perm (1::heap'.free.toList)) ∧
    (∃ heap', heap.abandon 2 = (.ok (),heap') ∧ heap'.liveArrays+1 = heap.liveArrays) ∧
    (∃ heap', heap.loadProgram 2 = (.ok (),heap') ∧ heap.program.size ≤ heap.livePlatters) := by
  intro refuses history heap
  have hmin : heap.free.min? = some 1 := by
    simp only [heap, history, refuses]
    cbv
  have hlive : heap.isLive 2 = true := by
    simp only [heap, history, refuses]
    cbv
  have hgranted : heap.refuses 5 = false := by
    simp only [heap, history, refuses]
    cbv
  obtain ⟨_,_,_,_,_,hallocate,habandon,hload⟩ := heap_books_right refuses #[7] history
  have hmade := heap.allocate_of_granted hgranted
  have hgone : heap.abandon 2 = (.ok (),heap.release 2) := by simp [Heap.abandon, hlive]
  have hloaded : heap.loadProgram 2 = (.ok (),heap.install 2) := by simp [Heap.loadProgram, hlive]
  obtain ⟨_,hslot,hperm⟩ := hallocate 5 _ _ hmade 1 hmin
  obtain ⟨_,_,_,hcount,_⟩ := habandon 2 _ hgone
  obtain ⟨_,_,hsize,_⟩ := hload 2 _ hloaded
  exact ⟨⟨_,_,hmade,hmin,hslot,hperm⟩,⟨_,hgone,hcount⟩,_,hloaded,hsize⟩

end UniversalMachine.Memory
