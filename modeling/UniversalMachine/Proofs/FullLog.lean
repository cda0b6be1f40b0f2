import Mathlib
import UniversalMachine.Proofs.Display

/-! The log against one that forgets nothing. The full log cuts whole strings of bytes at their newlines,
where the log takes byte after byte and gives up its oldest line to make room for a new one. The log is the
end of the full one. -/
namespace UniversalMachine
open Device

/-- All completed lines, and the bytes behind the last of them. -/
structure FullLog where
  completed : List String := []
  pending : List UInt8 := []

namespace FullLog

/-- The line that is not complete, unless it is empty. -/
def tail (log : FullLog) : List String :=
  if log.pending = [] then [] else [Text.Utf8.decode log.pending]

/-- Bytes are cut at the newlines, and all the runs between them but the last are lines. A notice is a line
behind the one that it finds incomplete. -/
def push (log : FullLog) : Scrollback.Entry → FullLog
  | .bytes bytes =>
    let runs := (log.pending++bytes).splitOn newline
    ⟨log.completed++runs.dropLast.map Text.Utf8.decode,runs.getLastD []⟩
  | .notice text => ⟨log.completed++log.tail++[text],[]⟩

def ofEntries (entries : List Scrollback.Entry) : FullLog := entries.foldl push {}

example : (ofEntries [.bytes [72,105],.notice "n",.bytes [10,0xc3],.bytes [0xa9,10,33]]).completed =
    ["Hi","n","","é"] := by decide +kernel

/-- A newline completes the line before the rest is looked at. -/
theorem push_newline {log : FullLog} (h : newline ∉ log.pending) (bytes : List UInt8) :
    log.push (.bytes (newline::bytes)) =
      push ⟨log.completed++[Text.Utf8.decode log.pending],[]⟩ (.bytes bytes) := by
  have hruns : bytes.splitOn newline ≠ [] := List.splitOn_ne_nil newline bytes
  simp only [push, List.splitOn_append_cons_self_of_not_mem h, List.nil_append,
    List.dropLast_cons_of_ne_nil hruns, List.map_cons, List.append_assoc, List.cons_append]
  cases hsplit : bytes.splitOn newline with
  | nil => exact absurd hsplit hruns
  | cons run runs => rfl

theorem push_cons (log : FullLog) (byte : UInt8) (bytes : List UInt8) :
    log.push (.bytes (byte::bytes)) =
      push ⟨log.completed,log.pending++[byte]⟩ (.bytes bytes) := by
  simp [push]

theorem push_nil {log : FullLog} (h : newline ∉ log.pending) : log.push (.bytes []) = log := by
  simp [push, List.splitOn_eq_singleton h]

end FullLog

namespace Scrollback

/-- The log is the end of a full one. -/
structure Abridges (log : Scrollback) (full : FullLog) : Prop where
  completed : log.completed = full.completed.rtake limit
  count : log.count = log.completed.length
  pending : log.pending.toList = full.pending
  unbroken : newline ∉ full.pending

/-- Giving up the oldest of so many lines makes room for one behind them. -/
theorem rtake_succ_concat {α : Type} (lines : List α) (line : α) (n : ℕ) :
    (lines++[line]).rtake (n+1) =
      (if (lines.rtake (n+1)).length = n+1 then (lines.rtake (n+1)).tail
        else lines.rtake (n+1))++[line] := by
  have hlength : (lines.rtake (n+1)).length = min (n+1) lines.length := by
    simp only [List.rtake, List.length_drop]
    omega
  rw [List.rtake_concat_succ,hlength]
  congr 1
  unfold List.rtake
  split
  · next hfull =>
    rw [List.tail_drop]
    congr 1
    omega
  · next hroom =>
    congr 1
    omega

theorem rtake_min_length {α : Type} (lines : List α) (n : ℕ) :
    lines.rtake (min n lines.length) = lines.rtake n := by
  unfold List.rtake
  congr 1
  omega

theorem dropOldest_count (log : Scrollback) : log.dropOldest.count = log.count-1 := by
  unfold dropOldest
  split <;> rfl

theorem dropOldest_pending (log : Scrollback) : log.dropOldest.pending = log.pending := by
  unfold dropOldest
  split <;> rfl

theorem pushLine_count (log : Scrollback) (line : String) :
    (log.pushLine line).count = (if log.count = limit then log.count-1 else log.count)+1 := by
  by_cases h : log.count = limit
  · simp only [pushLine, h, if_true, dropOldest_count]
  · simp only [pushLine, h, if_false]

theorem pushLine_pending (log : Scrollback) (line : String) :
    (log.pushLine line).pending = log.pending := by
  by_cases h : log.count = limit
  · simp only [pushLine, h, if_true, dropOldest_pending]
  · simp only [pushLine, h, if_false]

variable {log : Scrollback} {full : FullLog}

theorem Abridges.pushLine (h : log.Abridges full) (line : String) :
    (log.pushLine line).Abridges ⟨full.completed++[line],full.pending⟩ where
  completed := by
    -- the limit only has to leave room for a line; unfolded it would be counted down
    obtain ⟨n,hn⟩ : ∃ n, limit = n+1 := ⟨9999,rfl⟩
    rw [completed_pushLine,h.count,h.completed,hn]
    exact (rtake_succ_concat full.completed line n).symm
  count := by
    rw [pushLine_count,completed_pushLine,h.count]
    split
    · simp
    · simp
  pending := by
    rw [pushLine_pending]
    exact h.pending
  unbroken := h.unbroken

theorem Abridges.tail_eq (h : log.Abridges full) : log.tail = Text.Utf8.decode full.pending := by
  rw [tail,h.pending]

theorem Abridges.pushNewline (h : log.Abridges full) :
    (log.pushByte newline).Abridges
      ⟨full.completed++[Text.Utf8.decode full.pending],[]⟩ := by
  have hline := h.pushLine log.tail
  rw [pushByte,if_pos rfl,← h.tail_eq]
  exact ⟨hline.completed,hline.count,rfl,by simp⟩

theorem Abridges.pushByte (h : log.Abridges full) {byte : UInt8} (hb : byte ≠ newline) :
    (log.pushByte byte).Abridges ⟨full.completed,full.pending++[byte]⟩ := by
  rw [Scrollback.pushByte,if_neg hb]
  refine ⟨h.completed,h.count,?_,?_⟩
  · rw [Array.toList_push,h.pending]
  · simp [h.unbroken, hb.symm]

theorem Abridges.pushBytes (h : log.Abridges full) (bytes : List UInt8) :
    (log.pushBytes bytes).Abridges (full.push (.bytes bytes)) := by
  induction bytes generalizing log full with
  | nil =>
    rw [FullLog.push_nil h.unbroken]
    exact h
  | cons byte bytes ih =>
    -- the full log has all bytes at once, and gives up the first of them to keep step
    change ((log.pushByte byte).pushBytes bytes).Abridges _
    by_cases hb : byte = newline
    · subst hb
      rw [FullLog.push_newline h.unbroken]
      exact ih h.pushNewline
    · rw [FullLog.push_cons]
      exact ih (h.pushByte hb)

theorem Abridges.isEmpty_pending (h : log.Abridges full) :
    log.pending.isEmpty = true ↔ full.pending = [] := by
  rw [← h.pending,Array.isEmpty_iff]
  exact Array.toList_eq_nil_iff.symm

theorem Abridges.pushNotice (h : log.Abridges full) (text : String) :
    (log.pushNotice text).Abridges (full.push (.notice text)) := by
  unfold Scrollback.pushNotice FullLog.push FullLog.tail
  by_cases hp : full.pending = []
  · have hnotice := h.pushLine text
    simpa [h.isEmpty_pending, hp] using hnotice
  · have hnotice := h.pushNewline.pushLine text
    simpa [h.isEmpty_pending, hp] using hnotice

theorem pushAll_abridges (entries : List Entry) :
    (pushAll {} entries).Abridges (.ofEntries entries) := by
  induction entries using List.reverseRecOn with
  | nil => exact ⟨rfl,rfl,rfl,by simp [FullLog.ofEntries]⟩
  | append_singleton entries entry ih =>
    rw [pushAll_append,FullLog.ofEntries,List.foldl_append]
    cases entry with
    | bytes bytes => exact ih.pushBytes bytes
    | notice text => exact ih.pushNotice text

theorem Abridges.lines_eq (h : log.Abridges full) :
    log.lines = full.completed.rtake limit++full.tail := by
  unfold lines FullLog.tail
  rw [← h.completed,← h.tail_eq]
  by_cases hp : full.pending = []
  · simp [h.isEmpty_pending, hp]
  · simp [h.isEmpty_pending, hp]

theorem Abridges.size_eq (h : log.Abridges full) : log.size = log.lines.length := by
  unfold size lines
  rw [h.count]
  split
  · rfl
  · simp

theorem pushAll_pieces (log : Scrollback) (pieces : List (List UInt8)) :
    log.pushAll (pieces.map .bytes) = log.pushBytes pieces.flatten := by
  induction pieces generalizing log with
  | nil => rfl
  | cons piece pieces ih =>
    rw [List.flatten_cons,pushBytes_append,← ih]
    rfl

/-- Whatever is put into the log: it shows the last ten thousand lines that were ever completed, or all of
them if they are fewer, and then the incomplete line if there is one. Its size is the number of lines that it
shows. Bytes may be cut into pieces anywhere. -/
theorem log_shows_end (entries : List Entry) :
    let log := pushAll {} entries
    let full := FullLog.ofEntries entries
    log.lines = full.completed.rtake (min 10000 full.completed.length)++full.tail ∧
    log.size = log.lines.length ∧
    ∀ before (pieces : List (List UInt8)) after,
      pushAll {} (before++pieces.map Entry.bytes++after) =
        pushAll {} (before++Entry.bytes pieces.flatten::after) := by
  intro log full
  have habridges : log.Abridges full := pushAll_abridges entries
  refine ⟨?_,habridges.size_eq,?_⟩
  · change log.lines = full.completed.rtake (min limit full.completed.length)++full.tail
    rw [rtake_min_length]
    exact habridges.lines_eq
  · intro before pieces after
    rw [List.append_assoc,pushAll_append,pushAll_append,pushAll_append,pushAll_pieces]
    rfl

end Scrollback
end UniversalMachine
