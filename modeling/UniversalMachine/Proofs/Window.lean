import Mathlib
import UniversalMachine.Proofs.Bookkeeping
import UniversalMachine.Proofs.FullLog
import UniversalMachine.Terminal.Key
import UniversalMachine.Terminal.Pane

/-! How far the panes scroll. The keys move the offsets by themselves, and drawing brings them back into
range: then the console pane is as full as the log allows, and the machine pane has an array to list. -/
namespace UniversalMachine

namespace Scrollback

/-- A log that can come about. -/
def Written (log : Scrollback) : Prop := ∃ entries, log = pushAll {} entries

variable {log : Scrollback}

theorem Written.size_eq (h : log.Written) : log.size = log.lines.length := by
  obtain ⟨entries,rfl⟩ := h
  exact (pushAll_abridges entries).size_eq

theorem Written.size_le (h : log.Written) : log.size ≤ limit+1 := by
  obtain ⟨entries,rfl⟩ := h
  have habridges := pushAll_abridges entries
  have hcount : (pushAll {} entries).count ≤ limit := by
    rw [habridges.count,habridges.completed,List.rtake,List.length_drop]
    omega
  unfold size
  split <;> omega

theorem Written.push (h : log.Written) (entry : Entry) : (log.push entry).Written := by
  obtain ⟨entries,rfl⟩ := h
  exact ⟨entries++[entry],(pushAll_append {} entries [entry]).symm⟩

end Scrollback

namespace Heap

theorem length_live (heap : Heap) : heap.live.length = heap.arrays.length := by
  have hslots : heap.slots.toList = heap.slots.toList.zipIdx.map Prod.fst := by simp
  unfold live arrays List.reduceOption
  rw [List.length_filterMap_eq_countP,List.length_filterMap_eq_countP]
  nth_rewrite 2 [hslots]
  rw [List.countP_map]
  simp [Function.comp_def]

/-- The counter of arrays counts those in the list, and there is always the program. -/
theorem Balanced.liveArrays_pos {heap : Heap} (h : heap.Balanced) :
    heap.liveArrays = heap.live.length ∧ 0 < heap.live.length := by
  have hcount : heap.liveArrays = heap.live.length := by
    rw [length_live,length_arrays]
    exact h.liveArrays
  refine ⟨hcount,?_⟩
  have hone := le_total h.slot?_zero fun _ => 1
  rw [← h.liveArrays,hcount] at hone
  omega

end Heap

namespace Terminal
open Screen

variable {t : Terminal}

/-! ### The console pane -/

/-- What a console pane of a given height shows once it is drawn, and where the page keys lead from there. -/
structure Filled (t : Terminal) (height : ℕ) : Prop where
  inRange : t.consoleScroll ≤ t.log.lines.length-visibleLines height
  selected : t.window height = t.log.lines.extract t.consoleScroll
    (t.consoleScroll+min (visibleLines height) t.log.lines.length)
  full : (t.window height).length = min (visibleLines height) t.log.lines.length
  again : t.clampConsole height = t
  pageUp : ∀ ctrl, ((t.handleKey ⟨.pageUp,ctrl⟩).clampConsole height).consoleScroll =
    t.consoleScroll-10
  pageDown : ∀ ctrl, ((t.handleKey ⟨.pageDown,ctrl⟩).clampConsole height).consoleScroll =
    min (t.consoleScroll+10) (t.log.lines.length-visibleLines height)

theorem isEmpty_eq_false (hlog : t.log.Written) (hne : t.log.lines ≠ []) :
    t.log.isEmpty = false := by
  have hpos := List.length_pos_of_ne_nil hne
  rw [← hlog.size_eq] at hpos
  simp only [Scrollback.isEmpty, decide_eq_false_iff_not]
  omega

theorem clampConsole_eq (hlog : t.log.Written) (hne : t.log.lines ≠ []) (height : ℕ) :
    t.clampConsole height =
      { t with consoleScroll := min t.consoleScroll (t.log.lines.length-visibleLines height) } := by
  simp [clampConsole, isEmpty_eq_false hlog hne, hlog.size_eq]

theorem length_window {height : ℕ}
    (h : t.consoleScroll ≤ t.log.lines.length-visibleLines height) :
    (t.window height).length = min (visibleLines height) t.log.lines.length := by
  unfold window
  rw [List.length_take,List.length_drop]
  omega

theorem window_eq_extract (t : Terminal) (height : ℕ) :
    t.window height = t.log.lines.extract t.consoleScroll
      (t.consoleScroll+min (visibleLines height) t.log.lines.length) := by
  unfold window List.extract
  rw [List.take_eq_take_iff,List.length_drop]
  omega

/-- The keys keep within the length of the log, which is beyond every offset that is drawn. -/
theorem clampConsole_filled (hlog : t.log.Written) (hne : t.log.lines ≠ []) (height : ℕ) :
    (t.clampConsole height).Filled height := by
  have hvisible : 1 ≤ visibleLines height := le_max_left _ _
  have hsize := hlog.size_eq
  have hsmall : t.log.lines.length ≤ 10001 := hsize ▸ hlog.size_le
  have hdraw : ∀ offset, clampConsole { t with consoleScroll := offset } height =
      { t with consoleScroll := min offset (t.log.lines.length-visibleLines height) } :=
    fun offset => clampConsole_eq (t := { t with consoleScroll := offset }) hlog hne height
  rw [clampConsole_eq hlog hne]
  generalize hs : min t.consoleScroll (t.log.lines.length-visibleLines height) = s
  have hrange : s ≤ t.log.lines.length-visibleLines height := by omega
  refine ⟨hrange,window_eq_extract _ height,length_window hrange,?_,?_,?_⟩
  · rw [hdraw,min_eq_left hrange]
  · intro ctrl
    change (clampConsole { t with consoleScroll := min s (t.log.size-1)-10 } height).consoleScroll = s-10
    rw [hdraw,hsize]
    dsimp only
    omega
  · intro ctrl
    change (clampConsole { t with consoleScroll := min (s+10) 0xFFFFFFFFFFFFFFFF } height).consoleScroll =
      min (s+10) (t.log.lines.length-visibleLines height)
    rw [hdraw]
    dsimp only
    omega

/-- A page key, and then a frame. -/
def turnPage (height : ℕ) (t : Terminal) (key : Key) : Terminal :=
  (t.handleKey key).clampConsole height

def Key.IsPage (key : Key) : Prop := key.code = .pageUp ∨ key.code = .pageDown

theorem Key.IsPage.handleKey {key : Key} (h : key.IsPage) (t : Terminal) :
    ∃ offset, t.handleKey key = { t with consoleScroll := offset } := by
  obtain ⟨code,ctrl⟩ := key
  rcases h with h | h <;> dsimp only at h <;> subst h <;> exact ⟨_,rfl⟩

theorem log_clampConsole (t : Terminal) (height : ℕ) : (t.clampConsole height).log = t.log := by
  unfold clampConsole
  split <;> rfl

theorem log_turnPage {key : Key} (h : key.IsPage) (t : Terminal) (height : ℕ) :
    (t.turnPage height key).log = t.log := by
  obtain ⟨offset,hkey⟩ := h.handleKey t
  rw [turnPage,log_clampConsole,hkey]

theorem log_foldl_turnPage {keys : List Key} (h : ∀ key ∈ keys, key.IsPage) (t : Terminal)
    (height : ℕ) : (keys.foldl (turnPage height) t).log = t.log := by
  induction keys generalizing t with
  | nil => rfl
  | cons key keys ih =>
    obtain ⟨hkey,hkeys⟩ := List.forall_mem_cons.mp h
    rw [List.foldl_cons,ih hkeys,log_turnPage hkey]

/-- Each frame behind a page key leaves the pane full, whatever the keys before it did. -/
theorem foldl_turnPage_filled (hlog : t.log.Written) (hne : t.log.lines ≠ []) (height : ℕ)
    {keys : List Key} {key : Key} (h : ∀ k ∈ keys++[key], k.IsPage) :
    ((keys++[key]).foldl (turnPage height) t).Filled height := by
  obtain ⟨hkeys,hkey⟩ := List.forall_mem_append.mp h
  obtain ⟨offset,hmoved⟩ := (hkey key (by simp)).handleKey (keys.foldl (turnPage height) t)
  have hsame := log_foldl_turnPage hkeys t height
  rw [List.foldl_append]
  change (((keys.foldl (turnPage height) t).handleKey key).clampConsole height).Filled height
  rw [hmoved]
  apply clampConsole_filled
  · change (keys.foldl (turnPage height) t).log.Written
    rw [hsame]
    exact hlog
  · change (keys.foldl (turnPage height) t).log.lines ≠ []
    rw [hsame]
    exact hne

/-! ### The machine pane -/

def Key.IsArrow (key : Key) : Prop := key.code = .up ∨ key.code = .down

theorem foldl_handleKey_arrows {keys : List Key} (h : ∀ key ∈ keys, key.IsArrow) (t : Terminal) :
    ∃ offset, keys.foldl handleKey t = { t with heapScroll := offset } := by
  induction keys generalizing t with
  | nil => exact ⟨t.heapScroll,rfl⟩
  | cons key keys ih =>
    obtain ⟨hkey,hkeys⟩ := List.forall_mem_cons.mp h
    have hmoved : ∃ offset, t.handleKey key = { t with heapScroll := offset } := by
      obtain ⟨code,ctrl⟩ := key
      rcases hkey with hkey | hkey <;> dsimp only at hkey <;> subst hkey <;> exact ⟨_,rfl⟩
    obtain ⟨first,hfirst⟩ := hmoved
    obtain ⟨offset,hoffset⟩ := ih hkeys (t.handleKey key)
    refine ⟨offset,?_⟩
    rw [List.foldl_cons,hoffset,hfirst]

/-- A row of the machine pane says that there is an array with this identifier and number of platters. -/
def Lists (row : Line) (id : UInt32) (size : ℕ) : Prop :=
  row.flatMap (fun span => span.text.toList) =
    "  #".toList++(toString id.toNat).toList++List.replicate (6-(toString id.toNat).length) ' '++
      (toString size).toList++" platters".toList

theorem arrayLine_lists (id : UInt32) (size : ℕ) : Lists (arrayLine (id,size)) id size := by
  have hunit : toString " platters" = " platters" := rfl
  simp [Lists, arrayLine, label, muted, Text.padRight, hunit]

/-- Where a machine pane stands once it is drawn: at an array. Behind the first fifteen rows it lists this
array and those after it, as far as there are rows in its box. -/
structure AtArray (t : Terminal) (m : Machine) : Prop where
  inRange : t.heapScroll < m.heap.live.length
  counted : m.heap.liveArrays = m.heap.live.length
  drawn : ∀ (area : Area) (canvas : Canvas), t.drawMachine area canvas =
    (canvas.border area (.ofFg Theme.borderNormal) " Machine ").writeLines area.inside
      (t.machineRows m area.height) .left
  listed : ∀ (area : Area) i, t.heapScroll+i < m.heap.live.length → 15+i < area.inside.height →
    ∃ id size row, m.heap.live[t.heapScroll+i]? = some (id,size) ∧
      (t.machineRows m area.height)[15+i]? = some row ∧ Lists row id size

theorem length_machineLines (m : Machine) (fault : Option Snapshot) :
    (machineLines m fault).length = 15 := by
  simp [machineLines]

/-- The machine pane lists the arrays from the offset on, as far as there are rows for them. -/
theorem getElem?_machineRows {m : Machine} {i height : ℕ} (hrow : 15+i < height-2) :
    (t.machineRows m height)[15+i]? = m.heap.live[t.heapScroll+i]?.map arrayLine := by
  have hroom : i < height-(15+2) := by omega
  simp only [machineRows, length_machineLines]
  rw [List.getElem?_append_right (by simp [length_machineLines]),length_machineLines,
    Nat.add_sub_cancel_left,List.getElem?_map,List.getElem?_take_of_lt hroom,List.getElem?_drop]

theorem clampHeap_atArray {m : Machine} (hm : t.session.machine = some m)
    (hheap : m.heap.Balanced) : t.clampHeap.AtArray m := by
  obtain ⟨hcount,hpos⟩ := hheap.liveArrays_pos
  have hclamp : t.clampHeap = { t with heapScroll := min t.heapScroll (m.heap.liveArrays-1) } := by
    simp only [clampHeap, hm]
  have hscroll : t.clampHeap.heapScroll < m.heap.live.length := by
    rw [hclamp]
    dsimp only
    omega
  have hmachine : t.clampHeap.session.machine = some m := by
    rw [hclamp]
    exact hm
  refine ⟨hscroll,hcount,fun area canvas => ?_,fun area i hi hrow => ?_⟩
  · simp only [drawMachine, hmachine]
  · obtain ⟨⟨id,size⟩,harray⟩ : ∃ entry, m.heap.live[t.clampHeap.heapScroll+i]? = some entry :=
      ⟨_,List.getElem?_eq_getElem hi⟩
    refine ⟨id,size,arrayLine (id,size),harray,?_,arrayLine_lists id size⟩
    rw [getElem?_machineRows hrow,harray]
    rfl

end Terminal
end UniversalMachine
