import Mathlib
import UniversalMachine.Console.Recorder
import UniversalMachine.Headless
import UniversalMachine.Proofs.Delivery
import UniversalMachine.Proofs.Lines

/-! Programs on streams. A source that yields its bytes steadily and a sink that never fails deliver
the input of a machine and take its output, so the slices of a headless run follow the machine that
has all of its input at hand. -/
namespace UniversalMachine.Device

/-- In the states that `usable` allows, a sink takes every byte and every flush. What it has taken is
told by `written`. -/
structure Reliable {σ : Type} [Sink σ] (usable : σ → Prop) (written : σ → List UInt8) : Prop where
  put : ∀ {sink}, usable sink → ∀ byte, (Sink.put sink byte).1 = .ok () ∧
    usable (Sink.put sink byte).2 ∧ written (Sink.put sink byte).2 = written sink++[byte]
  flush : ∀ {sink}, usable sink → (Sink.flush sink).1 = .ok () ∧
    usable (Sink.flush sink).2 ∧ written (Sink.flush sink).2 = written sink

end UniversalMachine.Device

namespace UniversalMachine.StreamConsole
open Device Machine

variable {σ : Type} [Sink σ] {usable : σ → Prop} {written : σ → List UInt8}

/-! What the calls on a console do, by what it holds and what its sink answers. -/

section Calls
variable {console : StreamConsole σ} {byte : UInt8} {sink : σ} {error : Error}

theorem flush_of_held (h : console.held = some error) :
    console.flush = (.error error,{ console with held := none }) := by
  simp [StreamConsole.flush, h]

theorem flush_of_none (h : console.held = none) :
    console.flush = ((Sink.flush console.sink).1,
      { console with sink := (Sink.flush console.sink).2 }) := by
  simp [StreamConsole.flush, h]

theorem writeByte_of_held (h : console.held = some error) :
    console.writeByte byte = (.error error,{ console with held := none }) := by
  simp [StreamConsole.writeByte, h]

theorem writeByte_of_refused (h : console.held = none)
    (hp : Sink.put console.sink byte = (.error error,sink)) :
    console.writeByte byte = (.error error,{ console with sink }) := by
  simp [StreamConsole.writeByte, h, hp]

theorem writeByte_of_taken (h : console.held = none)
    (hp : Sink.put console.sink byte = (.ok (),sink)) :
    console.writeByte byte = if byte = newline
      then ((Sink.flush sink).1,{ console with sink := (Sink.flush sink).2 })
      else (.ok (),{ console with sink }) := by
  simp [StreamConsole.writeByte, h, hp]

theorem readLine_held_of_ok (h : (Sink.flush console.sink).1 = .ok ()) :
    console.readLine.2.held = console.held := by
  simp [StreamConsole.readLine, h]

theorem readLine_held_of_error (h : (Sink.flush console.sink).1 = .error error) :
    console.readLine.2.held = some (console.held.getD error) := by
  simp [StreamConsole.readLine, h]

end Calls

/-- The source of a console yields `bytes`, and its sink has taken what a recorder took, behind what
it had taken before. -/
structure Serves (usable : σ → Prop) (written : σ → List UInt8) (before bytes : List UInt8)
    (console : StreamConsole σ) (recorder : Recorder) : Prop where
  held : console.held = none
  usable : usable console.sink
  steady : console.source.Steady
  content : console.source.content = bytes
  output : written console.sink = before++recorder.output.toList

section Reliable
variable (hs : Reliable usable written) {before bytes : List UInt8} {console : StreamConsole σ}
  {recorder : Recorder} (h : Serves usable written before bytes console recorder)
include hs h

theorem Serves.flush : console.flush.1 = .ok () ∧
    Serves usable written before bytes console.flush.2 recorder := by
  obtain ⟨hr,hu,hw⟩ := hs.flush h.usable
  rw [flush_of_none h.held]
  exact ⟨hr,h.held,hu,h.steady,h.content,hw.trans h.output⟩

theorem Serves.writeByte (byte : UInt8) : (console.writeByte byte).1 = .ok () ∧
    Serves usable written before bytes (console.writeByte byte).2
      ⟨recorder.output.push byte⟩ := by
  obtain ⟨hr,hu,hw⟩ := hs.put h.usable byte
  have hp : Sink.put console.sink byte = (.ok (),(Sink.put console.sink byte).2) := Prod.ext hr rfl
  have hout : written (Sink.put console.sink byte).2 =
      before++(recorder.output.push byte).toList := by
    rw [hw,h.output,Array.toList_push,List.append_assoc]
  rw [writeByte_of_taken h.held hp]
  by_cases hn : byte = newline
  · obtain ⟨hr',hu',hw'⟩ := hs.flush hu
    rw [if_pos hn]
    exact ⟨hr',h.held,hu',h.steady,h.content,hw'.trans hout⟩
  · rw [if_neg hn]
    exact ⟨rfl,h.held,hu,h.steady,h.content,hout⟩

/-- A line is read, and is not empty, unless nothing is left to read. -/
theorem Serves.readLine :
    (∃ line rest, line ≠ [] ∧ bytes = line++rest ∧ console.readLine.1 = .line line ∧
      Serves usable written before rest console.readLine.2 recorder) ∨
    (bytes = [] ∧ console.readLine.1 = .endOfInput ∧
      Serves usable written before [] console.readLine.2 recorder) := by
  obtain ⟨hr,hu,hw⟩ := hs.flush h.usable
  obtain ⟨line,rest,hline,hsteady,hfirst⟩ := Source.readLineAfter_steady h.steady []
  have hsource : console.source.readLine = (.ok line,rest) := hline
  have hcontent : bytes = line++rest.content := by rw [hfirst.append_eq,h.content]
  simp only [StreamConsole.readLine, hr, hsource, h.held]
  cases line with
  | nil =>
    have hbytes : bytes = [] := h.content.symm.trans (hfirst.eq_nil rfl)
    have hnone : rest.content = [] := hcontent.symm.trans hbytes
    exact .inr ⟨hbytes,rfl,rfl,hu,hsteady,hnone,hw.trans h.output⟩
  | cons byte line =>
    exact .inl ⟨byte::line,rest.content,by simp,hcontent,rfl,rfl,hu,hsteady,rfl,hw.trans h.output⟩

end Reliable

theorem serves_delivers (hs : Reliable usable written) (before : List UInt8) :
    Delivers (Serves usable written before) where
  alike bytes := {
    writeByte := fun h byte => ⟨(h.writeByte hs byte).1.symm,(h.writeByte hs byte).2⟩
    announceHalt := fun h => ⟨(h.flush hs).1.symm,(h.flush hs).2⟩
    reportFault := by
      intro c d h snapshot
      obtain ⟨_,hf⟩ := h.flush hs
      exact ⟨hf.held,hf.usable,hf.steady,hf.content,hf.output⟩ }
  readLine := by
    intro bytes c d h
    rcases h.readLine hs with ⟨line,rest,hl,hb,ha,hn⟩ | ⟨hb,ha,hn⟩
    · exact .inl ⟨line,rest,_,hl,hb,Prod.ext ha rfl,hn⟩
    · exact .inr ⟨_,hb,Prod.ext ha rfl,hn⟩

end UniversalMachine.StreamConsole

namespace UniversalMachine.Headless
open Device Machine StreamConsole

variable {σ : Type} [Sink σ]

/-- The ending of a headless run whose last slice came back with a result, and did not pause. -/
def Ending.ofResult : Except Fault Outcome → Ending
  | .ok .halted => .halted
  | .ok outcome => .stranded outcome
  | .error fault => .faulted fault

theorem run?_of_ne_paused {m : Machine} {console : StreamConsole σ}
    (h : (m.runFor slice console).result ≠ .ok .paused) (fuel : ℕ) :
    run? m console (fuel+1) = some ⟨.ofResult (m.runFor slice console).result,
      (m.runFor slice console).machine,(m.runFor slice console).console⟩ := by
  rcases hr : m.runFor slice console with ⟨_ | outcome,m',c'⟩
  · simp only [run?, turn, hr, Ending.ofResult]
  · rw [hr] at h
    cases outcome with
    | paused => exact absurd rfl h
    | halted => simp only [run?, turn, hr, Ending.ofResult]
    | awaitingInput => simp only [run?, turn, hr, Ending.ofResult]

theorem run?_of_le_slice {m : Machine} {console : StreamConsole σ} {budget : ℕ}
    (h : (m.runFor budget console).result ≠ .ok .paused) (hb : budget ≤ slice) :
    run? m console 1 = some ⟨.ofResult (m.runFor budget console).result,
      (m.runFor budget console).machine,(m.runFor budget console).console⟩ := by
  have hsame := runFor_of_le h hb
  rw [← hsame] at h ⊢
  exact run?_of_ne_paused h 0

section Reliable
variable {usable : σ → Prop} {written : σ → List UInt8} (hs : Reliable usable written)
  {before bytes : List UInt8} {m : Machine} {console : StreamConsole σ} {recorder : Recorder}
  (h : Serves usable written before bytes console recorder) (he : m.Expects bytes)
  (hr : m.state = .ready)
include hs h he hr

/-- A slice that pauses leaves the run where the machine with all of its input is then. -/
theorem slice_paused (hp : (m.runFor slice console).result = .ok .paused) :
    ∃ rest, Serves usable written before rest (m.runFor slice console).console.flush.2
        ((m.supply bytes).runFor slice recorder).console ∧
      (m.runFor slice console).machine.Expects rest ∧
      (m.runFor slice console).machine.state = .ready ∧
      ((m.supply bytes).runFor slice recorder).machine =
        (m.runFor slice console).machine.supply rest ∧
      ((m.supply bytes).runFor slice recorder).result = .ok .paused ∧
      ∀ fuel, run? m console (fuel+1) =
        run? (m.runFor slice console).machine (m.runFor slice console).console.flush.2 fuel := by
  obtain ⟨rest,hm⟩ := advance_delivers (serves_delivers hs before) h he slice
  have hsupply : (m.supply bytes).state = .ready := hr
  rw [runFor_of_ready hr] at hp ⊢
  rw [runFor_of_ready hsupply]
  obtain ⟨hflush,hserves⟩ := hm.console.flush hs
  refine ⟨rest,hserves,hm.expects,?_,hm.machine,hm.result.trans hp,?_⟩
  · rcases m.advance_ready_or_stuck slice console hr with ⟨_,hready⟩ | ⟨hnp,_⟩
    · exact hready
    · exact absurd hp hnp
  · intro fuel
    rcases hf : (m.advance slice console).console.flush with ⟨result,c⟩
    rw [hf] at hflush
    dsimp only at hflush
    subst hflush
    simp only [run?, turn, runFor_of_ready hr, hp, hf]

/-- A headless run that ends is the run of the machine with all of its input. -/
theorem run?_follows {fuel : ℕ} {r : Result σ} (hrun : run? m console fuel = some r) :
    ∃ rest y, (m.supply bytes).Ends recorder y ∧ r.ending = .ofResult y.result ∧
      y.machine = r.machine.supply rest ∧
      Serves usable written before rest r.console y.console := by
  induction fuel generalizing bytes m console recorder with
  | zero => cases hrun
  | succ fuel ih =>
    by_cases hp : (m.runFor slice console).result = .ok .paused
    · obtain ⟨rest,hserves,hexp,hready,hmachine,_,hnext⟩ := slice_paused hs h he hr hp
      rw [hnext] at hrun
      obtain ⟨rest',y,hends,hy⟩ := ih hserves hexp hready hrun
      refine ⟨rest',y,?_,hy⟩
      rw [ends_resume _ slice,hmachine]
      exact hends
    · obtain ⟨rest,hm⟩ := advance_delivers (serves_delivers hs before) h he slice
      have hsupply : (m.supply bytes).state = .ready := hr
      rw [← runFor_of_ready hr,← runFor_of_ready hsupply] at hm
      rw [run?_of_ne_paused hp] at hrun
      obtain rfl := Option.some.inj hrun
      refine ⟨rest,_,ends_iff.mpr ⟨slice,rfl,?_⟩,?_,hm.machine,hm.console⟩
      · rw [hm.result]
        exact hp
      · rw [hm.result]

/-- If the machine with all of its input comes to an end, enough slices bring the run to one. -/
theorem exists_run? {y : Run Recorder} (hy : (m.supply bytes).Ends recorder y) :
    ∃ fuel r, run? m console fuel = some r := by
  obtain ⟨budget,rfl,hn⟩ := ends_iff.mp hy
  clear hy
  induction budget using Nat.strong_induction_on generalizing bytes m console recorder with
  | _ budget ih =>
    by_cases hp : (m.runFor slice console).result = .ok .paused
    · obtain ⟨rest,hserves,hexp,hready,hmachine,hpaused,hnext⟩ := slice_paused hs h he hr hp
      obtain ⟨hlt,hresume⟩ := resume_of_paused hpaused hn
      -- the slices still to come have the rest of the budget
      have hlater : (((m.runFor slice console).machine.supply rest).runFor (budget-slice)
          ((m.supply bytes).runFor slice recorder).console).result ≠ .ok .paused := by
        unfold Run.resume at hresume
        rw [← hmachine,hresume]
        exact hn
      have hslice : 0 < slice := by decide
      obtain ⟨fuel,r,hrun⟩ := ih (budget-slice) (by omega) hserves hexp hready hlater
      exact ⟨fuel+1,r,(hnext fuel).trans hrun⟩
    · exact ⟨1,_,run?_of_ne_paused hp 0⟩

end Reliable
end UniversalMachine.Headless
