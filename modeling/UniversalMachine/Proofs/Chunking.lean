import Mathlib
import UniversalMachine.Proofs.Readiness

/-! The chunks of a source are invisible. A console reads the lines of the bytes that its source yields, and
nothing else on it looks at the source, so two consoles whose sources yield the same bytes answer every call
alike. -/
namespace UniversalMachine
open Device

namespace Machine

variable {κ μ : Type}

/-- The same machine, on consoles that are related. -/
def HostedAlike (R : κ → μ → Prop) (x : Machine × κ) (y : Machine × μ) : Prop :=
  x.1 = y.1 ∧ R x.2 y.2

theorem Run.Same.reply {R : κ → μ → Prop} {x : Run κ} {y : Run μ} (h : Run.Same R x y) :
    x.reply.1 = y.reply.1 ∧ HostedAlike R x.reply.2 y.reply.2 :=
  ⟨congrArg Reply.returned h.result.symm,h.machine.symm,h.console⟩

variable [Console κ] [Console μ]

section Twins
variable {R : κ → μ → Prop} (hR : Twins R)
  (hflush : ∀ {c d}, R c d → (Console.flush d).1 = (Console.flush c).1 ∧
    R (Console.flush c).2 (Console.flush d).2)
  {x : Machine × κ} {y : Machine × μ} (h : HostedAlike R x y)
include hR hflush h

/-- A host hears the same from machines on consoles that answer alike, also when it flushes them. -/
theorem perform?_twins (fuel : ℕ) (operation : Operation) :
    Option.Rel (fun a b => a.1 = b.1 ∧ HostedAlike R a.2 b.2) (perform? fuel x operation)
      (perform? fuel y operation) := by
  obtain ⟨m,c⟩ := x
  obtain ⟨m',d⟩ := y
  obtain ⟨rfl,hcd⟩ : m = m' ∧ R c d := h
  cases operation with
  | run =>
    have hrun := run?_twins hR hcd m fuel
    simp only [perform?]
    generalize m.run? fuel c = u at hrun ⊢
    generalize m.run? fuel d = v at hrun ⊢
    cases hrun with
    | none => exact .none
    | some hsame => exact .some hsame.reply
  | runFor budget => exact .some (runFor_twins hR hcd m budget).reply
  | pushInput bytes => exact .some ⟨rfl,rfl,hcd⟩
  | closeInput => exact .some ⟨rfl,rfl,hcd⟩
  | flush =>
    obtain ⟨hanswer,hnext⟩ := hflush hcd
    exact .some ⟨congrArg Reply.flushed hanswer.symm,rfl,hnext⟩

theorem inTurn?_twins (fuel : ℕ) (operations : List Operation) :
    Option.Rel (fun a b => a.1 = b.1 ∧ HostedAlike R a.2 b.2) (inTurn? (perform? fuel) x operations)
      (inTurn? (perform? fuel) y operations) :=
  inTurn?_rel (R := HostedAlike R)
    (fun h operation => perform?_twins hR hflush h fuel operation) h operations

end Twins
end Machine

namespace StreamConsole
open Machine

variable {σ : Type}

/-! ### Reading lines -/

section Answers
variable [Sink σ]

/-- The answer to a request for a line, after so many others. -/
def answer (console : StreamConsole σ) : ℕ → LineRead
  | 0 => console.readLine.1
  | n+1 => console.readLine.2.answer n

/-- The first line of what the source yields is read, and no line only if there are no bytes. -/
theorem readLine_steady {console : StreamConsole σ} (h : console.source.Steady) :
    ∃ line, FirstLine console.source.content line console.readLine.2.source.content ∧
      console.readLine.2.source.Steady ∧
      console.readLine.1 = if line = [] then .endOfInput else .line line := by
  obtain ⟨line,rest,hline,hsteady,hfirst⟩ := Source.readLineAfter_steady h []
  have hsource : console.source.readLine = (.ok line,rest) := hline
  refine ⟨line,?_⟩
  simp only [StreamConsole.readLine, hsource]
  refine ⟨hfirst,hsteady,?_⟩
  cases line <;> rfl

/-- At the end of the file there is nothing to read, for ever. -/
theorem answer_of_empty {console : StreamConsole σ} (hs : console.source.Steady)
    (hc : console.source.content = []) (n : ℕ) : console.answer n = .endOfInput := by
  induction n generalizing console with
  | zero =>
    obtain ⟨line,hfirst,_,hread⟩ := readLine_steady hs
    rw [hc] at hfirst
    have hline : line = [] := (List.append_eq_nil_iff.mp hfirst.append_eq).1
    rw [answer,hread,if_pos hline]
  | succ n ih =>
    obtain ⟨line,hfirst,hsteady,_⟩ := readLine_steady hs
    rw [hc] at hfirst
    exact ih hsteady (List.append_eq_nil_iff.mp hfirst.append_eq).2

theorem answer_of_cutInto {bytes : List UInt8} {lines : List (List UInt8)}
    (h : CutInto bytes lines) {console : StreamConsole σ} (hs : console.source.Steady)
    (hc : console.source.content = bytes) (n : ℕ) :
    console.answer n = lines[n]?.elim .endOfInput .line := by
  induction h generalizing console n with
  | nil => exact answer_of_empty hs hc n
  | cons first nonempty _ ih =>
    obtain ⟨line',hfirst,hsteady,hread⟩ := readLine_steady hs
    rw [hc] at hfirst
    obtain ⟨rfl,hrest⟩ := first.unique hfirst
    cases n with
    | zero =>
      rw [answer,hread,if_neg nonempty]
      rfl
    | succ n => exact ih hsteady hrest.symm n

end Answers

/-! ### Everything else -/

/-- The call does not look at the source, and leaves it alone. -/
def Blind {α : Type} (call : StreamConsole σ → α × StreamConsole σ) : Prop :=
  ∀ console source,
    call { console with source } = ((call console).1,{ (call console).2 with source })

theorem Blind.source_eq {α : Type} {call : StreamConsole σ → α × StreamConsole σ} (h : Blind call)
    (console : StreamConsole σ) : (call console).2.source = console.source :=
  congrArg (fun answered => answered.2.source) (h console console.source)

/-- Two consoles that differ in how the same bytes are cut into chunks. -/
inductive Rechunked : StreamConsole σ → StreamConsole σ → Prop
  | mk {console : StreamConsole σ} {source : Source} (steady : console.source.Steady)
      (steady' : source.Steady) (content : source.content = console.source.content) :
      Rechunked console { console with source }

/-- What a host has heard, the machine, and all of the console but its source. -/
def seen (done : List (Operation × Reply) × Machine × StreamConsole σ) :
    List (Operation × Reply) × Machine × σ × Option Error × String :=
  (done.1,done.2.1,done.2.2.sink,done.2.2.held,done.2.2.diagnostics)

theorem seen_eq {x y : List (Operation × Reply) × Machine × StreamConsole σ}
    (h : x.1 = y.1 ∧ HostedAlike Rechunked x.2 y.2) : seen x = seen y := by
  obtain ⟨log,m,c⟩ := x
  obtain ⟨log',m',d⟩ := y
  obtain ⟨rfl,rfl,hcd⟩ : log = log' ∧ m = m' ∧ Rechunked c d := h
  cases hcd
  rfl

theorem Blind.rechunked {α : Type} {call : StreamConsole σ → α × StreamConsole σ} (h : Blind call)
    {c d : StreamConsole σ} (hcd : Rechunked c d) :
    (call d).1 = (call c).1 ∧ Rechunked (call c).2 (call d).2 := by
  obtain ⟨steady,steady',content⟩ := hcd
  rw [h c]
  rw [← h.source_eq c] at steady content
  exact ⟨rfl,.mk steady steady' content⟩

variable [Sink σ]

theorem blind_flush : Blind (flush : StreamConsole σ → Except Error Unit × StreamConsole σ) := by
  rintro ⟨source,sink,held,diagnostics⟩ other
  cases held <;> rfl

theorem blind_writeByte (byte : UInt8) :
    Blind fun console : StreamConsole σ => console.writeByte byte := by
  rintro ⟨source,sink,held,diagnostics⟩ other
  cases held with
  | some error => rfl
  | none =>
    simp only [writeByte]
    rcases Sink.put sink byte with ⟨error | _,sink'⟩
    · rfl
    · dsimp only
      split <;> rfl

theorem blind_reportFault (snapshot : Snapshot) :
    Blind fun console : StreamConsole σ => ((),console.reportFault snapshot) := by
  intro console source
  have hflush := blind_flush console source
  simp only [reportFault, hflush]

theorem Rechunked.readLine {c d : StreamConsole σ} (h : Rechunked c d) :
    d.readLine.1 = c.readLine.1 ∧ Rechunked c.readLine.2 d.readLine.2 := by
  obtain ⟨steady,steady',content⟩ := h
  obtain ⟨line,rest,hline,hsteady,hfirst⟩ := Source.readLineAfter_steady steady []
  obtain ⟨line',rest',hline',hsteady',hfirst'⟩ := Source.readLineAfter_steady steady' []
  rw [content] at hfirst'
  obtain ⟨rfl,hrest⟩ := hfirst.unique hfirst'
  have hsource : c.source.readLine = (.ok line,rest) := hline
  have hsource' : Source.readLine _ = (.ok line,rest') := hline'
  simp only [StreamConsole.readLine, hsource, hsource', true_and]
  exact .mk hsteady hsteady' hrest.symm

theorem rechunked_twins : Twins (@Rechunked σ) where
  readLine h := h.readLine
  writeByte h byte := (blind_writeByte byte).rechunked h
  announceHalt h := blind_flush.rechunked h
  reportFault h snapshot := ((blind_reportFault snapshot).rechunked h).2

/-- Two sources that are only ever interrupted yield the same bytes, in whatever chunks. Then requests for
lines are answered alike: with the bytes cut behind each newline, where the last line may lack its newline and
none is empty, and then with the end of the input for ever. A host that does anything with a machine on
either of them hears the same, and the machine, the calls on the sink and what was reported are the same. -/
theorem chunking_invisible {source other : Source} (hs : source.Steady) (ho : other.Steady)
    (hc : source.content = other.content) (sink : σ) :
    (∃ lines, CutInto source.content lines ∧ lines.flatten = source.content ∧
      (∀ line ∈ lines, line ≠ []) ∧
      ∀ n, answer { source, sink } n = lines[n]?.elim .endOfInput .line ∧
        answer { source := other, sink } n = lines[n]?.elim .endOfInput .line) ∧
    ∀ fuel m operations,
      (inTurn? (perform? fuel) (m,({ source, sink } : StreamConsole σ)) operations).map seen =
        (inTurn? (perform? fuel) (m,({ source := other, sink } : StreamConsole σ)) operations).map
          seen := by
  constructor
  · obtain ⟨lines,hlines⟩ := exists_cutInto source.content
    exact ⟨lines,hlines,hlines.flatten_eq,hlines.ne_nil,
      fun n => ⟨answer_of_cutInto hlines hs rfl n,answer_of_cutInto hlines ho hc.symm n⟩⟩
  · intro fuel m operations
    have hstart : HostedAlike Rechunked (m,({ source, sink } : StreamConsole σ))
        (m,({ source := other, sink } : StreamConsole σ)) := ⟨rfl,.mk hs ho hc.symm⟩
    exact map_eq_of_rel seen_eq
      (inTurn?_twins rechunked_twins blind_flush.rechunked hstart fuel operations)

/-- Two lines, the second without a newline. In one source the first line goes on over an interruption; in the
other its newline stands inside a chunk. The program reads all four bytes and writes the last one. -/
theorem chunking_invisible_greeting :
    let refuses : UInt32 → Bool := fun _ => false
    let source : Source := [.bytes [72],.failure .interrupted,.bytes [105,10],.bytes [33]]
    let other : Source := [.bytes [72,105,10,33],.failure .interrupted]
    let sink : ScriptedSink := { writes := [.failed .interrupted] }
    let m := ofProgram refuses #[0xb0000000,0xb0000001,0xb0000002,0xb0000003,0xa0000003,0x70000000]
    source.Steady ∧ other.Steady ∧ source.content = other.content ∧
    (∀ n, answer { source := other, sink } n = answer { source, sink } n) ∧
    answer { source, sink } 0 = .line [72,105,10] ∧ answer { source, sink } 1 = .line [33] ∧
    answer { source, sink } 2 = .endOfInput ∧
    (inTurn? (perform? 9) (m,({ source, sink } : StreamConsole ScriptedSink))
        [.runFor 2,.run]).map (fun done => done.1.map Prod.snd) =
      some [.returned (.ok .paused),.returned (.ok .halted)] ∧
    (inTurn? (perform? 9) (m,({ source, sink } : StreamConsole ScriptedSink))
        [.runFor 2,.run]).map seen =
      (inTurn? (perform? 9) (m,({ source := other, sink } : StreamConsole ScriptedSink))
        [.runFor 2,.run]).map seen := by
  intro refuses source other sink m
  have hs : source.Steady := by simp [Source.Steady, source]
  have ho : other.Steady := by simp [Source.Steady, other]
  have hc : source.content = other.content := by
    simp only [source, other]
    cbv
  obtain ⟨⟨lines,_,_,_,hanswer⟩,hhosted⟩ := chunking_invisible hs ho hc sink
  refine ⟨hs,ho,hc,fun n => (hanswer n).2.trans (hanswer n).1.symm,?_,?_,?_,?_,hhosted 9 m _⟩
  all_goals
    simp only [source, sink, m]
    cbv

end StreamConsole
end UniversalMachine
