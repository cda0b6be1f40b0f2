import Mathlib
import UniversalMachine.Proofs.Bookkeeping

/-! The number of identifiers that a heap has made. Every identifier is live or waits in the list of
abandoned ones, and a new one is made only when that list is empty. So a heap has made as many
identifiers as it has ever had arrays at one time. -/
namespace UniversalMachine.Heap

namespace Balanced

variable {heap : Heap} (h : heap.Balanced)
include h

theorem liveArrays_eq_length : heap.liveArrays = heap.slots.toList.reduceOption.length := by
  rw [h.liveArrays,← length_arrays,arrays]

theorem liveArrays_le_capacity : heap.liveArrays ≤ heap.capacity := by
  rw [h.liveArrays_eq_length,capacity,← Array.length_toList]
  exact List.reduceOption_length_le _

/-- Some identifier is not in use exactly if one was abandoned. -/
theorem liveArrays_lt_capacity_iff : heap.liveArrays < heap.capacity ↔ ∃ id, id ∈ heap.free := by
  rw [h.liveArrays_eq_length,capacity,← Array.length_toList,List.reduceOption_length_lt_iff,
    List.mem_iff_getElem?]
  apply exists_congr
  intro id
  rw [Array.getElem?_toList]
  exact h.slots_eq_none_iff id

theorem liveArrays_eq_capacity_iff :
    heap.liveArrays = heap.capacity ↔ ∀ id < heap.capacity, (heap.slot? id).isSome := by
  have hle := h.liveArrays_le_capacity
  have hlt := h.liveArrays_lt_capacity_iff
  constructor
  · intro he id hid
    have hn : id ∉ heap.free := fun hm => by
      have := hlt.mpr ⟨id,hm⟩
      omega
    rw [h.mem_free] at hn
    exact Option.isSome_iff_ne_none.mpr fun hs => hn ⟨hid,hs⟩
  · intro hall
    by_contra hne
    obtain ⟨id,hm⟩ := hlt.mp (by omega)
    obtain ⟨hid,hs⟩ := (h.mem_free id).mp hm
    simpa [hs] using hall id hid

end Balanced

/-- An update makes no identifier, or it makes one when all of them are in use, and then they all are
again. -/
theorem Update.mints {heap heap' : Heap} (h : heap.Balanced) (hu : heap.Update heap') :
    heap'.capacity = heap.capacity ∨
    (heap.liveArrays = heap.capacity ∧ heap'.capacity = heap.capacity+1 ∧
      heap'.liveArrays = heap'.capacity) := by
  cases hu with
  | none => exact .inl rfl
  | release => exact .inl (capacity_release heap _)
  | put => exact .inl (capacity_put heap _ _ _)
  | install => exact .inl (capacity_install heap _)
  | reserve size =>
    have hcapacity := capacity_reserve h.toTidy size
    cases hm : heap.free.min? with
    | some id =>
      have hmem : id ∈ heap.free := (Std.TreeSet.min?_eq_some_iff_mem_and_forall.mp hm).1
      have hlt := ((h.mem_free id).mp hmem).1
      have hnext : heap.nextId = id := by simp [nextId, hm]
      left
      omega
    | none =>
      have hnext : heap.nextId = heap.capacity := by simp [nextId, hm]
      have hfull : heap.liveArrays = heap.capacity := by
        rw [h.liveArrays_eq_capacity_iff]
        intro id hid
        exact Option.isSome_iff_ne_none.mpr (h.nextId_spec.2 id (by omega))
      have hcount := heap.liveArrays_reserve size
      right
      omega

end UniversalMachine.Heap

namespace UniversalMachine.Memory

variable {heap : Heap}

theorem performAll_concat (heap : Heap) (history : List Request) (request : Request) :
    (performAll heap (history++[request])).2 = (perform (performAll heap history).2 request).2 := by
  induction history generalizing heap with
  | nil => rfl
  | cons first history ih => exact ih (perform heap first).2

variable (refuses : UInt32 → Bool) (program : Array UInt32)

/-- The numbers of arrays in use, over all moments of a history. -/
def liveCounts (history : List Request) : Set ℕ :=
  {count | ∃ earlier, earlier <+: history ∧
    (performAll (Heap.ofProgram refuses program) earlier).2.liveArrays = count}

theorem liveCounts_nil : liveCounts refuses program [] = {1} := by
  ext count
  simp [liveCounts, performAll, Heap.ofProgram, eq_comm]

theorem liveCounts_concat (history : List Request) (request : Request) :
    liveCounts refuses program (history++[request]) =
      insert (performAll (Heap.ofProgram refuses program) (history++[request])).2.liveArrays
        (liveCounts refuses program history) := by
  ext count
  simp only [liveCounts, List.prefix_concat_iff, or_and_right, exists_or, exists_eq_left,
    Set.mem_insert_iff, Set.mem_ofPred_eq]
  rw [eq_comm]

theorem capacity_perform (h : heap.Balanced) (request : Request) :
    (perform heap request).2.capacity = max (perform heap request).2.liveArrays heap.capacity := by
  have hle := (perform_balanced h request).liveArrays_le_capacity
  rcases (perform_update heap request).mints h with hsame | ⟨_,hnew,hlive⟩ <;> omega

theorem isGreatest_capacity (history : List Request) :
    IsGreatest (liveCounts refuses program history)
      (performAll (Heap.ofProgram refuses program) history).2.capacity := by
  induction history using List.reverseRecOn with
  | nil =>
    rw [liveCounts_nil]
    exact isGreatest_singleton
  | append_singleton history request ih =>
    have hbalanced := performAll_balanced (Heap.ofProgram_balanced refuses program) history
    rw [liveCounts_concat,performAll_concat,capacity_perform hbalanced]
    exact ih.insert _

/-- A heap has made as many identifiers as it has had arrays at one time, at some moment of its history
and never more. A request makes a new identifier only if every other one names an array. -/
theorem capacity_is_peak (history : List Request) :
    let heap := (performAll (Heap.ofProgram refuses program) history).2
    IsGreatest (liveCounts refuses program history) heap.capacity ∧
    ∀ request, heap.capacity < (perform heap request).2.capacity →
      ∀ id < heap.capacity, (heap.slot? id).isSome := by
  intro heap
  have hbalanced : heap.Balanced :=
    performAll_balanced (Heap.ofProgram_balanced refuses program) history
  refine ⟨isGreatest_capacity refuses program history,?_⟩
  intro request hmints
  rcases (perform_update heap request).mints hbalanced with hsame | ⟨hfull,_,_⟩
  · rw [hsame] at hmints
    exact absurd hmints (Nat.lt_irrefl _)
  · exact hbalanced.liveArrays_eq_capacity_iff.mp hfull

/-- Two arrays were made and given up, the second of them in vain once more, and two others took their
identifiers. An array that the host refuses needs no identifier, and the next one needs a new one. -/
theorem capacity_is_peak_refilled :
    let refuses : UInt32 → Bool := (· == 9)
    let emptied : List Request := [.allocate 2,.allocate 3,.abandon 1,.abandon 2,.abandon 2]
    let refilled := emptied++[.allocate 0,.allocate 7,.allocate 9]
    let heap := (performAll (Heap.ofProgram refuses #[7]) refilled).2
    (performAll (Heap.ofProgram refuses #[7]) emptied).2.liveArrays = 1 ∧
    IsGreatest (liveCounts refuses #[7] emptied) 3 ∧ heap.capacity = 3 ∧
    heap.capacity < (perform heap (.allocate 1)).2.capacity ∧
    ∀ id < 3, (heap.slot? id).isSome := by
  intro refuses emptied refilled heap
  have hcapacity : (performAll (Heap.ofProgram refuses #[7]) emptied).2.capacity = 3 := by
    simp only [emptied, refuses]
    cbv
  have hrefilled : heap.capacity = 3 := by
    simp only [heap, refilled, emptied, refuses]
    cbv
  have hnew : (perform heap (.allocate 1)).2.capacity = 4 := by
    simp only [heap, refilled, emptied, refuses]
    cbv
  have hmints : heap.capacity < (perform heap (.allocate 1)).2.capacity := by omega
  have hpeak := (capacity_is_peak refuses #[7] emptied).1
  have hlive := (capacity_is_peak refuses #[7] refilled).2 (.allocate 1) hmints
  rw [hcapacity] at hpeak
  rw [hrefilled] at hlive
  exact ⟨by simp only [emptied, refuses]; cbv,hpeak,hrefilled,hmints,hlive⟩

end UniversalMachine.Memory
