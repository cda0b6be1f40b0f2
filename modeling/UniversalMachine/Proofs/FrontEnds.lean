import Mathlib
import UniversalMachine.Proofs.Hosting
import UniversalMachine.Proofs.SinkLog

/-! A program ends on streams as it does in a session. Both go through the run of the machine that has
all of its input at hand: on streams slice by slice, with a flush between two slices, and in a session
turn by turn, with the lines handed over when they are asked for. -/
namespace UniversalMachine

namespace Device.ScriptedSink

/-- No call will fail, though writes may be interrupted. -/
structure NeverFails (sink : ScriptedSink) : Prop where
  writes : ∀ answer ∈ sink.writes, answer = .accepted ∨ answer = .failed .interrupted
  flushes : ∀ failure ∈ sink.flushes, failure = none

theorem attempt_of_neverFails (byte : UInt8) {writes : List WriteAnswer} (calls : Array Call)
    (h : ∀ answer ∈ writes, answer = .accepted ∨ answer = .failed .interrupted) :
    (attempt byte writes calls).1 = .ok () ∧
      ∀ answer ∈ (attempt byte writes calls).2.1, answer ∈ writes := by
  induction writes generalizing calls with
  | nil => simp [attempt]
  | cons answer rest ih =>
    have hrest := fun other ho => h other (List.mem_cons_of_mem _ ho)
    rcases h answer (by simp) with rfl | rfl
    · exact ⟨rfl,fun other ho => List.mem_cons_of_mem _ ho⟩
    · obtain ⟨hok,hmem⟩ := ih (calls.push (.write byte (.failed .interrupted))) hrest
      exact ⟨hok,fun other ho => List.mem_cons_of_mem _ (hmem other ho)⟩

theorem reliable : Reliable NeverFails written where
  put := by
    intro sink h byte
    obtain ⟨hok,hmem⟩ := attempt_of_neverFails byte sink.calls h.writes
    obtain ⟨tries,answer,hlog,hresult⟩ := attempt_spec byte sink.writes sink.calls
    obtain rfl : answer = .accepted := by
      rcases hresult with ⟨_,ha⟩ | ⟨error,herror,_⟩
      · exact ha
      · rw [hok] at herror
        cases herror
    refine ⟨hok,⟨fun answer ha => h.writes answer (hmem answer ha),h.flushes⟩,?_⟩
    change (attempt byte sink.writes sink.calls).2.2.toList.filterMap _ = _
    rw [hlog]
    simp [written]
  flush := by
    intro sink h
    change sink.flush.1 = _ ∧ sink.flush.2.NeverFails ∧ sink.flush.2.written = _
    unfold flush
    cases hf : sink.flushes with
    | nil => exact ⟨rfl,⟨h.writes,by simp⟩,by simp [written]⟩
    | cons failure flushes =>
      obtain rfl := h.flushes failure (by simp [hf])
      refine ⟨rfl,⟨h.writes,?_⟩,by simp [written]⟩
      intro other ho
      exact h.flushes other (by simp only [hf, List.mem_cons]; exact .inr ho)

end Device.ScriptedSink

open Device Machine

variable {σ : Type} {usable : σ → Prop} {written : σ → List UInt8}

/-- A headless run and a host have come to the same end of a program. The sink has taken, behind what
it had taken before, the bytes that the host was told of. -/
structure Headless.Result.Agrees (written : σ → List UInt8) (before : List UInt8) (r : Result σ)
    (host : Host) : Prop where
  ending : (r.ending = .halted ∧ host.session.status = .halted) ∨
    ∃ fault snapshot, r.ending = .faulted fault ∧ host.session.status = .faulted ∧
      .fault fault snapshot ∈ host.events
  output : written r.console.sink = before++printed host.events
  machine : ∃ m, host.session.machine = some m ∧ m.registers = r.machine.registers ∧
    m.heap = r.machine.heap ∧ m.pc = r.machine.pc ∧ m.cycle = r.machine.cycle ∧
    m.lastWord = r.machine.lastWord

/-- A headless run and a host that both ended as the machine with all of its input did. -/
theorem Host.Finished.agrees {host : Host} {m : Machine} {y : Run Recorder} (h : host.Finished m y)
    {before rest : List UInt8} {r : Headless.Result σ} (he : r.ending = .ofResult y.result)
    (hm : y.machine = r.machine.supply rest)
    (hs : StreamConsole.Serves usable written before rest r.console y.console) :
    r.Agrees written before host := by
  have hstatus := Session.status_of_machine h.machine
  obtain ⟨rest',hsupply⟩ := h.supply
  have hsame : m.supply rest' = r.machine.supply rest := hsupply.symm.trans hm
  refine ⟨?_,?_,m,h.machine,?_⟩
  · rcases h.ending with ⟨hr,hstate⟩ | ⟨fault,snapshot,hr,hstate,hmem⟩
    · left
      rw [he,hr,hstatus,hstate]
      exact ⟨rfl,rfl⟩
    · right
      rw [he,hr,hstatus,hstate]
      exact ⟨fault,snapshot,rfl,rfl,hmem⟩
  · rw [hs.output,h.output]
  · exact ⟨(congrArg Machine.registers hsame :),(congrArg Machine.heap hsame :),
      (congrArg Machine.pc hsame :),(congrArg Machine.cycle hsame :),
      (congrArg Machine.lastWord hsame :)⟩

theorem Host.Follows.not_final {host : Host} {m : Machine} {recorder : Recorder}
    (h : host.Follows m recorder) :
    host.session.status ≠ .halted ∧ host.session.status ≠ .faulted := by
  rw [Session.status_of_machine h.machine]
  rcases h.goesOn with hs | ⟨r,hs⟩ <;> rw [hs] <;> simp [Session.Status.ofState]

/-- A program that comes to an end on streams comes to the same end in a session, and conversely. The
stream of input is cut in any way and may be interrupted, and the sink takes everything; the host pumps
with any budgets but 0 and hands over a line, or the end of the input, whenever the program waits. -/
theorem front_ends_agree [Sink σ] (hs : Reliable usable written) (refuses : UInt32 → Bool)
    {image : List UInt8} (ha : image.length % 4 = 0) {lines : List (List UInt8)} {source : Source}
    (hsteady : source.Steady) (hc : source.content = lines.flatten) {sink : σ} (hu : usable sink)
    {turns : ℕ → Turn} (hb : ∀ n, 0 < (turns n).budget) :
    ∃ program session, Image.decode image = .ok program ∧
      Session.handle { refuses } (.loadProgram image) = (.ok (),session) ∧
      (∀ fuel r, Headless.run? (.ofProgram refuses program) { source, sink } fuel = some r →
        ∃ n, r.Agrees written (written sink) (Host.after { session, lines } turns n)) ∧
      ∀ n, (Host.after { session, lines } turns n).session.status = .halted ∨
          (Host.after { session, lines } turns n).session.status = .faulted →
        ∃ fuel r, Headless.run? (.ofProgram refuses program) { source, sink } fuel = some r ∧
          r.Agrees written (written sink) (Host.after { session, lines } turns n) := by
  have hdecode : Image.decode image = .ok (Image.words #[] image) := if_pos ha
  generalize Image.words #[] image = program at hdecode
  let session : Session :=
    { refuses
      machine := some (.ofProgram refuses program)
      queue := EventQueue.push {} (.programLoaded program.size) }
  let host : Host := { session, lines }
  have hserves : StreamConsole.Serves usable written (written sink) lines.flatten { source, sink }
      ({} : Recorder) := ⟨rfl,hu,hsteady,hc,by simp⟩
  have hexpects := ofProgram_expects refuses program lines.flatten
  have hfollows : host.Follows (.ofProgram refuses program) {} := ⟨rfl,.inl rfl,hexpects,rfl⟩
  refine ⟨program,session,hdecode,?_,?_,?_⟩
  · exact Session.handle_loadProgram_iff.mpr ⟨program,hdecode,rfl⟩
  · intro fuel r hrun
    obtain ⟨rest,y,hends,hending,hmachine,hserved⟩ :=
      Headless.run?_follows hs hserves hexpects rfl hrun
    obtain ⟨n,m,hfinished⟩ := hfollows.reaches_end hb hends
    exact ⟨n,hfinished.agrees hending hmachine hserved⟩
  · intro n hstatus
    rcases hfollows.after turns n with ⟨_,_,hgoes⟩ | ⟨m,y,hends,hfinished⟩
    · rcases hstatus with hstatus | hstatus
      · exact absurd hstatus hgoes.not_final.1
      · exact absurd hstatus hgoes.not_final.2
    · obtain ⟨fuel,r,hrun⟩ := Headless.exists_run? hs hserves hexpects rfl hends
      obtain ⟨rest,y',hends',hending,hmachine,hserved⟩ :=
        Headless.run?_follows hs hserves hexpects rfl hrun
      obtain rfl := hends'.unique hends
      exact ⟨fuel,r,hrun,hfinished.agrees hending hmachine hserved⟩

/-- The program reads two bytes, writes each of them and halts. On streams its input comes in other
pieces than in the session, and is interrupted. -/
theorem front_ends_agree_echo :
    let refuses : UInt32 → Bool := fun _ => false
    let program : Array UInt32 := #[0xb0000001,0xa0000001,0xb0000001,0xa0000001,0x70000000]
    let image := Image.encode program
    let lines : List (List UInt8) := [[72],[105,10]]
    let source : Source := [.bytes [72,105],.failure .interrupted,.bytes [10]]
    let sink : ScriptedSink := { writes := [.failed .interrupted,.accepted] }
    let turns : ℕ → Turn := fun n => ⟨n+1,true⟩
    image.length % 4 = 0 ∧ source.Steady ∧ source.content = lines.flatten ∧ sink.NeverFails ∧
    (∀ n, 0 < (turns n).budget) ∧
    ∃ session r n, Session.handle { refuses } (.loadProgram image) = (.ok (),session) ∧
      Headless.run? (.ofProgram refuses program) { source, sink } 1 = some r ∧
      r.ending = .halted ∧ r.console.sink.written = [72,105] ∧
      r.Agrees ScriptedSink.written [] (Host.after { session, lines } turns n) := by
  intro refuses program image lines source sink turns
  have ha : image.length % 4 = 0 := by cbv
  have hsteady : source.Steady := by simp [Source.Steady, source]
  have hc : source.content = lines.flatten := by cbv
  have hu : sink.NeverFails := ⟨by simp [sink],by simp [sink]⟩
  have hb : ∀ n, 0 < (turns n).budget := fun n => Nat.succ_pos n
  have hhalted : ((Machine.ofProgram refuses program).runFor 5
      ({ source, sink } : StreamConsole ScriptedSink)).result = .ok .halted := by cbv
  have hslice : 5 ≤ Headless.slice := by decide
  have hrun := Headless.run?_of_le_slice (by rw [hhalted]; simp) hslice
  rw [hhalted] at hrun
  have hdecode : Image.decode image = .ok program := by cbv
  obtain ⟨decoded,session,hd,hload,hforth,_⟩ :=
    front_ends_agree ScriptedSink.reliable refuses ha hsteady hc hu hb
  obtain rfl : program = decoded := Except.ok.inj (hdecode.symm.trans hd)
  obtain ⟨n,hagrees⟩ := hforth 1 _ hrun
  exact ⟨ha,hsteady,hc,hu,hb,session,_,n,hload,hrun,rfl,by cbv,hagrees⟩

end UniversalMachine
