import Mathlib
import UniversalMachine.Device.Source

/-! The lines of a source. A source that is only ever interrupted yields the lines of its bytes, whatever
chunks they come in: a newline may stand anywhere in a chunk, and a line may go on over many of them. -/
namespace UniversalMachine.Device

/-! ### Splitting bytes -/

theorem splitLine?_terminated {line : List UInt8} (h : newline ∉ line) (rest : List UInt8) :
    splitLine? (line++newline::rest) = some (line++[newline],rest) := by
  have hpass : ∀ byte ∈ line, (byte != newline) = true := by
    intro byte hb
    simpa using fun he : byte = newline => h (he ▸ hb)
  simp [splitLine?, List.dropWhile_append_of_pos hpass, List.takeWhile_append_of_pos hpass]

theorem splitLine?_eq_none_iff {data : List UInt8} : splitLine? data = none ↔ newline ∉ data := by
  constructor
  · intro hnone hmem
    obtain ⟨line,rest,rfl,hline⟩ := List.eq_append_cons_of_mem hmem
    rw [splitLine?_terminated hline] at hnone
    cases hnone
  · intro hmem
    have hpass : data.dropWhile (· != newline) = [] := by
      rw [List.dropWhile_eq_nil_iff]
      intro byte hb
      simpa using fun he : byte = newline => hmem (he ▸ hb)
    simp [splitLine?, hpass]

/-- The first line of some bytes, and what follows it. Only what is not followed by anything may lack its
newline. -/
inductive FirstLine : List UInt8 → List UInt8 → List UInt8 → Prop
  | terminated {line} (unbroken : newline ∉ line) (rest : List UInt8) :
      FirstLine (line++newline::rest) (line++[newline]) rest
  | last {line} (unbroken : newline ∉ line) : FirstLine line line []

namespace FirstLine

variable {bytes line rest : List UInt8}

theorem append_eq (h : FirstLine bytes line rest) : line++rest = bytes := by
  cases h with
  | terminated _ rest => simp
  | last => simp

theorem eq_nil (h : FirstLine bytes line rest) (hl : line = []) : bytes = [] := by
  cases h with
  | terminated => simp at hl
  | last => exact hl

theorem prepend (h : FirstLine bytes line rest) {before : List UInt8} (hb : newline ∉ before) :
    FirstLine (before++bytes) (before++line) rest := by
  cases h with
  | @terminated line unbroken rest =>
    have hjoined : newline ∉ before++line := by simp [hb, unbroken]
    simpa using FirstLine.terminated hjoined rest
  | last unbroken => exact .last (by simp [hb, unbroken])

theorem splitLine?_eq (h : FirstLine bytes line rest) :
    (splitLine? bytes).getD (bytes,[]) = (line,rest) := by
  cases h with
  | terminated unbroken rest => rw [splitLine?_terminated unbroken,Option.getD_some]
  | last unbroken => rw [splitLine?_eq_none_iff.mpr unbroken,Option.getD_none]

/-- There is only one place to cut at. -/
theorem unique {line' rest' : List UInt8} (h : FirstLine bytes line rest)
    (h' : FirstLine bytes line' rest') : line = line' ∧ rest = rest' :=
  Prod.mk.inj (h.splitLine?_eq.symm.trans h'.splitLine?_eq)

end FirstLine

/-- Bytes cut behind each newline into lines that are not empty. -/
inductive CutInto : List UInt8 → List (List UInt8) → Prop
  | nil : CutInto [] []
  | cons {bytes line rest lines} (first : FirstLine bytes line rest) (nonempty : line ≠ [])
      (later : CutInto rest lines) : CutInto bytes (line::lines)

theorem CutInto.flatten_eq {bytes : List UInt8} {lines : List (List UInt8)}
    (h : CutInto bytes lines) : lines.flatten = bytes := by
  induction h with
  | nil => rfl
  | cons first _ _ ih => rw [List.flatten_cons,ih,first.append_eq]

theorem CutInto.ne_nil {bytes : List UInt8} {lines : List (List UInt8)} (h : CutInto bytes lines) :
    ∀ line ∈ lines, line ≠ [] := by
  induction h with
  | nil => simp
  | cons _ nonempty _ ih => exact List.forall_mem_cons.mpr ⟨nonempty,ih⟩

theorem firstLine_of_splitLine? {data line after : List UInt8}
    (h : splitLine? data = some (line,after)) (more : List UInt8) :
    FirstLine (data++more) line (after++more) := by
  by_cases hmem : newline ∈ data
  · obtain ⟨start,rest,rfl,hstart⟩ := List.eq_append_cons_of_mem hmem
    rw [splitLine?_terminated hstart] at h
    cases h
    rw [List.append_assoc,List.cons_append]
    exact .terminated hstart (after++more)
  · rw [splitLine?_eq_none_iff.mpr hmem] at h
    cases h

theorem exists_firstLine (bytes : List UInt8) : ∃ line rest, FirstLine bytes line rest := by
  cases h : splitLine? bytes with
  | none => exact ⟨bytes,[],.last (splitLine?_eq_none_iff.mp h)⟩
  | some split =>
    have hfirst := firstLine_of_splitLine? h []
    rw [List.append_nil] at hfirst
    exact ⟨_,_,hfirst⟩

theorem exists_cutInto (bytes : List UInt8) : ∃ lines, CutInto bytes lines := by
  induction hn : bytes.length using Nat.strong_induction_on generalizing bytes with
  | _ n ih =>
    obtain ⟨line,rest,hfirst⟩ := exists_firstLine bytes
    by_cases hline : line = []
    · rw [hfirst.eq_nil hline]
      exact ⟨[],.nil⟩
    · have hshorter : rest.length < n := by
        have hpos := List.length_pos_of_ne_nil hline
        rw [← hn,← hfirst.append_eq,List.length_append]
        omega
      obtain ⟨lines,hlines⟩ := ih rest.length hshorter rest rfl
      exact ⟨line::lines,.cons hfirst hline hlines⟩

namespace Source

/-- The bytes still to come. -/
def content : Source → List UInt8
  | [] => []
  | .bytes data::rest => data++content rest
  | .failure _::rest => content rest

/-- Nothing but interruptions comes between the bytes, and no end of file before the last of them. -/
def Steady (source : Source) : Prop :=
  ∀ chunk ∈ source, chunk ≠ .bytes [] ∧ ∀ kind, chunk = .failure kind → kind = .interrupted

theorem content_unread (data : List UInt8) (source : Source) :
    (source.unread data).content = data++source.content := by
  unfold unread
  cases data <;> simp [content]

theorem steady_unread {source : Source} (h : source.Steady) (data : List UInt8) :
    (source.unread data).Steady := by
  unfold unread
  cases data with
  | nil => exact h
  | cons byte data =>
    intro chunk hc
    rcases List.mem_cons.mp hc with rfl | hc
    · simp
    · exact h chunk hc

/-- Reading takes the first line of the bytes that a steady source yields. -/
theorem readLineAfter_steady {source : Source} (h : source.Steady) (gathered : List UInt8) :
    ∃ line rest, source.readLineAfter gathered = (.ok (gathered++line),rest) ∧ rest.Steady ∧
      FirstLine source.content line rest.content := by
  induction source generalizing gathered with
  | nil => exact ⟨[],[],by simp [readLineAfter],h,.last List.not_mem_nil⟩
  | cons chunk source ih =>
    have hrest : Steady source := fun other ho => h other (List.mem_cons_of_mem _ ho)
    obtain ⟨hbytes,hkind⟩ := h chunk (by simp)
    cases chunk with
    | failure kind =>
      obtain rfl := hkind kind rfl
      obtain ⟨line,rest,hr,hs,hfirst⟩ := ih hrest gathered
      exact ⟨line,rest,by simpa [readLineAfter] using hr,hs,hfirst⟩
    | bytes data =>
      have hempty : data.isEmpty = false := by
        rw [List.isEmpty_eq_false_iff]
        exact fun hd => hbytes (by rw [hd])
      cases hsplit : splitLine? data with
      | some split =>
        obtain ⟨line,after⟩ := split
        refine ⟨line,unread after source,?_,steady_unread hrest after,?_⟩
        · simp [readLineAfter, hempty, hsplit]
        · rw [content_unread]
          exact firstLine_of_splitLine? hsplit (content source)
      | none =>
        -- the line goes on in the next chunk
        obtain ⟨line,rest,hr,hs,hfirst⟩ := ih hrest (gathered++data)
        refine ⟨data++line,rest,?_,hs,hfirst.prepend (splitLine?_eq_none_iff.mp hsplit)⟩
        simpa [readLineAfter, hempty, hsplit] using hr

end Source
end UniversalMachine.Device
