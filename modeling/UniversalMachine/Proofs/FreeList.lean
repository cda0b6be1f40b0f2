import Mathlib
import UniversalMachine.Heap

/-! The list of abandoned identifiers of a heap. It holds the empty slots and nothing else, so the
next identifier is the first one that names no array. -/
namespace UniversalMachine.Heap

/-- The program array is there, and the abandoned identifiers are those of the empty slots. -/
structure Tidy (heap : Heap) : Prop where
  program : heap.slot? 0 ≠ none
  mem_free : ∀ id, id ∈ heap.free ↔ id < heap.capacity ∧ heap.slot? id = none

theorem slot?_lt {heap : Heap} {id : ℕ} (h : heap.slot? id ≠ none) : id < heap.capacity := by
  by_contra hn
  exact h (slot?_eq_none (Nat.le_of_not_lt hn))

@[simp] theorem capacity_put (heap : Heap) (id offset value : UInt32) :
    (heap.put id offset value).capacity = heap.capacity := by simp [capacity, put]

@[simp] theorem capacity_release (heap : Heap) (id : UInt32) :
    (heap.release id).capacity = heap.capacity := by simp [capacity, release]

@[simp] theorem capacity_install (heap : Heap) (id : UInt32) :
    (heap.install id).capacity = heap.capacity := by
  unfold install
  split
  · rfl
  · split <;> simp [capacity]

@[simp] theorem free_install (heap : Heap) (id : UInt32) : (heap.install id).free = heap.free := by
  unfold install
  split
  · rfl
  · split <;> rfl

theorem ofProgram_tidy (refuses : UInt32 → Bool) (program : Array UInt32) :
    (ofProgram refuses program).Tidy where
  program := by simp [slot?_ofProgram]
  mem_free id := by
    have hc : (ofProgram refuses program).capacity = 1 := rfl
    have hf : id ∉ (ofProgram refuses program).free := Std.TreeSet.not_mem_emptyc
    rw [slot?_ofProgram,hc]
    constructor
    · exact fun h => absurd h hf
    · rintro ⟨h,hn⟩
      obtain rfl : id = 0 := by omega
      cases hn

theorem Tidy.put {heap : Heap} (h : heap.Tidy) (id offset value : UInt32) :
    (heap.put id offset value).Tidy where
  program := by
    rw [slot?_put]
    split
    · simpa using h.program
    · exact h.program
  mem_free other := by
    have hf : (heap.put id offset value).free = heap.free := rfl
    rw [hf,h.mem_free,capacity_put,slot?_put]
    split <;> simp

theorem Tidy.release {heap : Heap} (h : heap.Tidy) {id : UInt32} (hid : id ≠ 0)
    (hl : heap.isLive id) : (heap.release id).Tidy where
  program := by
    have hn : ¬ 0 = id.toNat := fun hn => hid (UInt32.toNat_inj.mp hn.symm)
    rw [slot?_release,if_neg hn]
    exact h.program
  mem_free other := by
    have hf : (heap.release id).free = heap.free.insert id.toNat := rfl
    have hlt : id.toNat < heap.capacity := slot?_lt (Option.ne_none_iff_isSome.mpr hl)
    rw [hf,Std.TreeSet.mem_insert,h.mem_free,capacity_release,slot?_release,compare_eq_iff_eq]
    by_cases ho : other = id.toNat
    · subst ho
      simp [hlt]
    · simp [ho, Ne.symm ho]

theorem Tidy.install {heap : Heap} (h : heap.Tidy) {id : UInt32} (hl : heap.isLive id) :
    (heap.install id).Tidy where
  program := by
    rw [slot?_install heap id 0 hl,if_pos rfl]
    exact Option.ne_none_iff_isSome.mpr hl
  mem_free other := by
    rw [free_install,h.mem_free,capacity_install,slot?_install heap id other hl]
    by_cases ho : other = 0
    · subst ho
      have hn := Option.ne_none_iff_isSome.mpr hl
      simp [h.program, hn]
    · simp [ho]

/-- The identifier under which the next array is made. -/
def nextId (heap : Heap) : ℕ := heap.free.min?.getD heap.capacity

/-- All slots before the next identifier are occupied, and its own is not. -/
theorem Tidy.nextId_spec {heap : Heap} (h : heap.Tidy) :
    heap.slot? heap.nextId = none ∧ ∀ other < heap.nextId, heap.slot? other ≠ none := by
  unfold nextId
  cases hm : heap.free.min? with
  | none =>
    have he : heap.free.isEmpty := Std.TreeSet.min?_eq_none_iff.mp hm
    -- nothing was abandoned, so every slot is occupied and the next one is new
    refine ⟨slot?_eq_none le_rfl,?_⟩
    intro other ho hn
    exact Std.TreeSet.isEmpty_iff_forall_not_mem.mp he other ((h.mem_free other).mpr ⟨ho,hn⟩)
  | some id =>
    obtain ⟨hmem,hmin⟩ := Std.TreeSet.min?_eq_some_iff_mem_and_forall.mp hm
    obtain ⟨hlt,hn⟩ := (h.mem_free id).mp hmem
    refine ⟨hn,?_⟩
    intro other ho hs
    rw [Option.getD_some] at ho
    have hle := hmin other ((h.mem_free other).mpr ⟨ho.trans hlt,hs⟩)
    rw [Nat.isLE_compare] at hle
    omega

theorem Tidy.nextId_pos {heap : Heap} (h : heap.Tidy) : 0 < heap.nextId := by
  apply Nat.pos_of_ne_zero
  intro hz
  have hn := h.nextId_spec.1
  rw [hz] at hn
  exact h.program hn

theorem Tidy.isLeast_nextId {heap : Heap} (h : heap.Tidy) :
    IsLeast {id | 0 < id ∧ heap.slot? id = none} heap.nextId := by
  obtain ⟨hn,hbelow⟩ := h.nextId_spec
  refine ⟨⟨h.nextId_pos,hn⟩,?_⟩
  intro other ho
  exact Nat.le_of_not_lt fun hlt => hbelow other hlt ho.2

theorem reserve_fst (heap : Heap) (size : UInt32) : (heap.reserve size).1 = .ofNat heap.nextId := by
  unfold reserve nextId
  cases heap.free.min? <;> rfl

theorem slot?_reserve {heap : Heap} (h : heap.Tidy) (size : UInt32) (other : ℕ) :
    (heap.reserve size).2.slot? other =
      if other = heap.nextId then some (Array.replicate size.toNat 0) else heap.slot? other := by
  unfold reserve nextId
  cases hm : heap.free.min? with
  | none =>
    by_cases ho : other = heap.slots.size <;> simp [slot?, capacity, Array.getElem?_push, ho]
  | some id =>
    obtain ⟨hmem,_⟩ := Std.TreeSet.min?_eq_some_iff_mem_and_forall.mp hm
    by_cases ho : other = id
    · subst ho
      have hs : other < heap.slots.size := ((h.mem_free other).mp hmem).1
      simp [slot?, hs]
    · simp [slot?, ho, Ne.symm ho]

theorem capacity_reserve {heap : Heap} (h : heap.Tidy) (size : UInt32) :
    (heap.reserve size).2.capacity = max heap.capacity (heap.nextId+1) := by
  unfold reserve nextId
  cases hm : heap.free.min? with
  | none => simp [capacity]
  | some id =>
    obtain ⟨hmem,_⟩ := Std.TreeSet.min?_eq_some_iff_mem_and_forall.mp hm
    have hlt : id < heap.slots.size := ((h.mem_free id).mp hmem).1
    simp only [capacity, Array.size_setIfInBounds, Option.getD_some]
    omega

theorem mem_free_reserve {heap : Heap} (size : UInt32) (other : ℕ) :
    other ∈ (heap.reserve size).2.free ↔ other ≠ heap.nextId ∧ other ∈ heap.free := by
  unfold reserve nextId
  cases hm : heap.free.min? with
  | none =>
    have he : heap.free.isEmpty := Std.TreeSet.min?_eq_none_iff.mp hm
    have hn := Std.TreeSet.isEmpty_iff_forall_not_mem.mp he other
    simp [hn]
  | some id =>
    simp only [Option.getD_some]
    rw [Std.TreeSet.mem_erase,Ne,compare_eq_iff_eq,eq_comm]

theorem Tidy.reserve {heap : Heap} (h : heap.Tidy) (size : UInt32) : (heap.reserve size).2.Tidy where
  program := by
    rw [slot?_reserve h]
    split
    · simp
    · exact h.program
  mem_free other := by
    rw [mem_free_reserve,h.mem_free,capacity_reserve h,slot?_reserve h]
    by_cases ho : other = heap.nextId
    · simp [ho]
    · have hlt : other < heap.nextId+1 → heap.slot? other ≠ none := by
        intro hl
        exact h.nextId_spec.2 other (by omega)
      simp only [ho, if_false, ne_eq, not_false_eq_true, true_and, lt_max_iff]
      tauto

end UniversalMachine.Heap
