import Mathlib
import UniversalMachine.Proofs.InputLine

/-! The message of the terminal against its status. Events, lines and the end of the input each set the
message, and only some of them set the status. The two say the same until the user ends the input of a
program that has come to an end already. -/
namespace UniversalMachine.Terminal
open Machine

variable {t : Terminal}

/-- What the terminal says after a run with this result, and what it said before if the run paused. -/
def announcement (before : String) : Except Fault Outcome → String
  | .ok .paused => before
  | .ok .awaitingInput => "Waiting for input"
  | .ok .halted => "Program halted"
  | .error fault => s!"{fault.kind}: {fault.message}"

theorem pump_message {m n : Machine} (hm : t.session.machine = some m) (he : m.enter = .ready n)
    (hq : t.session.queue.newest = []) :
    t.pump.message = announcement t.message (m.runFor t.slice ({} : Recorder)).result := by
  obtain ⟨_,prints,hprints,_,hevents⟩ := Session.pump_drained hm he hq t.slice
  have hnews : t.news = prints++(m.runFor t.slice ({} : Recorder)).closing := hevents
  rw [pump_eq_foldl,hnews,List.foldl_append]
  obtain ⟨scroll,hscroll⟩ := foldl_absorb_prints hprints
    { t with
      status := (t.session.pump t.slice).1
      session := { (t.session.pump t.slice).2 with
        queue := { (t.session.pump t.slice).2.queue with newest := [] } } }
  rw [hscroll]
  generalize m.runFor t.slice ({} : Recorder) = r
  obtain ⟨result,m',recorder⟩ := r
  cases result with
  | error fault => rfl
  | ok outcome => cases outcome <;> rfl

/-- The message says what the status says. -/
structure Candid (t : Terminal) : Prop where
  halted : t.status = .halted → t.message = "Program halted"
  faulted : t.status = .faulted → ∃ fault snapshot, t.fault = some (fault,snapshot) ∧
    t.message = s!"{fault.kind}: {fault.message}"
  awaitingInput : t.status = .awaitingInput → t.message = "Waiting for input"

/-- The program has come to an end. -/
def Stopped (t : Terminal) : Prop := t.status = .halted ∨ t.status = .faulted

/-- The input was ended when the program had come to an end. -/
def ClosedLate (t : Terminal) (acts : List Act) : Prop :=
  Occurs (fun t a => a = .press endKey ∧ t.Stopped) t acts

theorem Candid.of_running (h : t.status = .running) : t.Candid := by
  constructor <;> (rw [h]; simp)

/-- A slice says how its run came back, and shows the status that belongs to it. -/
theorem Shows.candid {r : Run Recorder} {t' : Terminal} (h : Shows t r t')
    (ht : Tells r.result r.machine) (hm : t'.message = announcement t.message r.result) :
    t'.Candid := by
  have hstatus := h.status
  have hfault := h.fault
  obtain ⟨result,m,console⟩ := r
  dsimp only at ht hm hstatus hfault
  cases ht with
  | paused hs =>
    rw [hs] at hstatus
    exact .of_running hstatus
  | halted hs =>
    rw [hs] at hstatus
    exact ⟨fun _ => hm,fun hf => by simp [hstatus, Session.Status.ofState] at hf,
      fun ha => by simp [hstatus, Session.Status.ofState] at ha⟩
  | awaitingInput hs =>
    rw [hs] at hstatus
    exact ⟨fun hh => by simp [hstatus, Session.Status.ofState] at hh,
      fun hf => by simp [hstatus, Session.Status.ofState] at hf,fun _ => hm⟩
  | fault hs =>
    rw [hs] at hstatus
    exact ⟨fun hh => by simp [hstatus, Session.Status.ofState] at hh,fun _ => ⟨_,_,hfault,hm⟩,
      fun ha => by simp [hstatus, Session.Status.ofState] at ha⟩

/-- A slice that finds nothing to execute leaves the terminal as it is. -/
theorem Tended.pump_eq (h : t.Tended) (hs : t.status ≠ .running) : t.pump = t := by
  rcases h.phase.enters_or_idle with ⟨hr,_⟩ | ⟨_,hstatus,hidle⟩
  · exact absurd hr hs
  · have hsame : t.session.status = t.status := hstatus t.session.refuses t.session.queue
    rw [pump_idle h.drained hidle,hsame]

theorem Tended.pump_candid (h : t.Tended) (hc : t.Candid) : t.pump.Candid := by
  by_cases hs : t.status = .running
  · obtain ⟨m,n,hm,he⟩ := h.phase.running_iff.mp hs
    exact (pump_shows hm he h.drained).candid (m.runFor_tells t.slice _)
      (pump_message hm he h.drained)
  · rw [h.pump_eq hs]
    exact hc

theorem Phase.idle {status : Session.Status} {enabled : Bool} {fault : Option (Fault × Snapshot)}
    (h : Phase none status enabled fault) : status = .idle := by
  cases h
  rfl

theorem Tended.closeInput_status (h : t.Tended) :
    t.closeInput.status = if t.status = .awaitingInput then .running else t.status := by
  cases hm : t.session.machine with
  | some m => rw [closeInput_eq hm]
  | none =>
    have hphase := h.phase
    rw [hm] at hphase
    simp [Terminal.closeInput, deliver, Session.handle, hm, hphase.idle]

/-- To end the input of a program that runs or waits leaves it running. -/
theorem Tended.closeInput_candid (h : t.Tended) (hstopped : ¬ t.Stopped) : t.closeInput.Candid := by
  have hstatus := h.closeInput_status
  obtain ⟨hh,hf⟩ := not_or.mp hstopped
  by_cases ha : t.status = .awaitingInput
  · rw [if_pos ha] at hstatus
    exact .of_running hstatus
  · rw [if_neg ha] at hstatus
    rw [← hstatus] at hh hf ha
    exact ⟨fun hs => absurd hs hh,fun hs => absurd hs hf,fun hs => absurd hs ha⟩

theorem Tended.submitLine_candid (h : t.Tended) (henabled : t.inputEnabled = true) :
    t.submitLine.Candid := by
  obtain ⟨m,hm,_⟩ := h.phase.enabled_iff.mp henabled
  have hs := h.attentive.enabled.mp henabled
  rw [submitLine_eq hm]
  exact .of_running (if_pos hs)

theorem Tended.press_candid (h : t.Tended) (hc : t.Candid) {key : Key}
    (hk : ¬ (key = endKey ∧ t.Stopped)) : (t.handleKey key).Candid := by
  have hhandled := t.handled_handleKey key
  generalize t.handleKey key = t' at hhandled ⊢
  cases hhandled with
  | pageUp => exact ⟨hc.halted,hc.faulted,hc.awaitingInput⟩
  | pageDown => exact ⟨hc.halted,hc.faulted,hc.awaitingInput⟩
  | looked => exact ⟨hc.halted,hc.faulted,hc.awaitingInput⟩
  | typed => exact ⟨hc.halted,hc.faulted,hc.awaitingInput⟩
  | submitted ctrl henabled => exact h.submitLine_candid henabled
  | closed => exact h.closeInput_candid fun hstopped => hk ⟨rfl,hstopped⟩

/-- The terminal says that a program runs which has come to an end. -/
structure Outdated (t : Terminal) : Prop where
  stopped : t.Stopped
  message : t.message = "Running..."

theorem Tended.closeInput_outdated (h : t.Tended) (hstopped : t.Stopped) : t.closeInput.Outdated := by
  have hphase := h.phase
  cases hm : t.session.machine with
  | none =>
    rw [hm] at hphase
    rcases hstopped with hs | hs <;> rw [hphase.idle] at hs <;> cases hs
  | some m =>
    rw [closeInput_eq hm]
    refine ⟨?_,rfl⟩
    rcases hstopped with hs | hs
    · exact .inl (by simp [hs])
    · exact .inr (by simp [hs])

namespace Outdated

variable (h : t.Outdated) (htended : t.Tended)
include h htended

theorem pump : t.pump.Outdated := by
  have hs : t.status ≠ .running := by
    rcases h.stopped with hs | hs <;> rw [hs] <;> simp
  rw [htended.pump_eq hs]
  exact h

/-- No line can be submitted any more, so the message stays. -/
theorem press (key : Key) : (t.handleKey key).Outdated := by
  have hpressed := t.pressed_handleKey key
  generalize t.handleKey key = t' at hpressed ⊢
  cases hpressed with
  | looked => exact ⟨h.stopped,h.message⟩
  | typed => exact ⟨h.stopped,h.message⟩
  | submitted henabled =>
    have hs := htended.attentive.enabled.mp henabled
    rcases h.stopped with hstopped | hstopped <;> rw [hs] at hstopped <;> cases hstopped
  | closed => exact htended.closeInput_outdated h.stopped

end Outdated

theorem running_ne_report (fault : Fault) : "Running..." ≠ s!"{fault.kind}: {fault.message}" := by
  intro h
  have hreport : "Running..." = fault.kind++": "++fault.message := h
  have hfirst := congrArg (fun text : String => text.toList.head?) hreport
  cases fault <;> simp [Fault.kind] at hfirst

theorem Outdated.not_candid (h : t.Outdated) : ¬ t.Candid := by
  intro hc
  have hmessage := h.message
  rcases h.stopped with hs | hs
  · rw [hc.halted hs] at hmessage
    exact absurd hmessage (by decide)
  · obtain ⟨fault,_,_,hreport⟩ := hc.faulted hs
    rw [hreport] at hmessage
    exact running_ne_report fault hmessage.symm

theorem Tended.act_candid (h : t.Tended) (hc : t.Candid) {a : Act}
    (ha : ¬ (a = .press endKey ∧ t.Stopped)) : (t.act a).Candid := by
  cases a with
  | pump => exact h.pump_candid hc
  | press key =>
    refine h.press_candid hc ?_
    rintro ⟨rfl,hstopped⟩
    exact ha ⟨rfl,hstopped⟩
  | draw paneHeight =>
    obtain ⟨_,_,hdraw⟩ := t.settleScroll_eq paneHeight
    change (t.settleScroll paneHeight).Candid
    rw [hdraw]
    exact ⟨hc.halted,hc.faulted,hc.awaitingInput⟩

theorem Outdated.act (h : t.Outdated) (htended : t.Tended) (a : Act) : (t.act a).Outdated := by
  cases a with
  | pump => exact h.pump htended
  | press key => exact h.press htended key
  | draw paneHeight =>
    obtain ⟨_,_,hdraw⟩ := t.settleScroll_eq paneHeight
    change (t.settleScroll paneHeight).Outdated
    rw [hdraw]
    exact ⟨h.stopped,h.message⟩

/-- The message fits up to the first time that the input is ended late, and is outdated from then on. -/
theorem Tended.foldl_candid (h : t.Tended) (hc : t.Candid) (acts : List Act) :
    (¬ ClosedLate t acts → (acts.foldl act t).Candid) ∧
    (ClosedLate t acts → (acts.foldl act t).Outdated) := by
  induction acts using List.reverseRecOn with
  | nil => exact ⟨fun _ => hc,fun hlate => absurd hlate not_occurs_nil⟩
  | append_singleton acts last ih =>
    have htended := h.foldl_act acts
    rw [ClosedLate,occurs_concat,List.foldl_append]
    refine ⟨fun hnot => ?_,fun hlate => ?_⟩
    · obtain ⟨hearlier,hlast⟩ := not_or.mp hnot
      exact htended.act_candid (ih.1 hearlier) hlast
    · rcases hlate with hearlier | ⟨rfl,hstopped⟩
      · exact (ih.2 hearlier).act htended last
      · exact htended.closeInput_outdated hstopped

theorem ofSession_status {refuses : UInt32 → Bool} {session : Session} {image : List UInt8}
    (h : Session.handle { refuses } (.loadProgram image) = (.ok (),session)) (name : String) :
    (ofSession session name).status = .running := by
  obtain ⟨_,_,rfl⟩ := Session.handle_loadProgram_iff.mp h
  rfl

/-- Whatever a user does with a program, and wherever the slices end, the message says what the status says
until the user ends the input of a program that has come to an end. From then on it says that the program
runs. The message of a program that waits is always right. -/
theorem message_fits_status {refuses : UInt32 → Bool} {session : Session}
    (h : ∃ image, Session.handle { refuses } (.loadProgram image) = (.ok (),session))
    (name : String) (slice : ℕ) (acts : List Act) :
    let start := { ofSession session name with slice }
    let t := acts.foldl act start
    (t.Candid ↔ ¬ ClosedLate start acts) ∧
    (ClosedLate start acts → t.Stopped ∧ t.message = "Running...") ∧
    (t.status = .awaitingInput → t.message = "Waiting for input") := by
  intro start t
  obtain ⟨image,hload⟩ := h
  have htended : start.Tended := ofSession_tended (.inr ⟨image,hload⟩) name slice
  have hcandid : start.Candid := .of_running (ofSession_status hload name)
  obtain ⟨hfits,hlate⟩ := htended.foldl_candid hcandid acts
  refine ⟨⟨fun hc hclosed => (hlate hclosed).not_candid hc,hfits⟩,
    fun hclosed => ⟨(hlate hclosed).stopped,(hlate hclosed).message⟩,fun hs => ?_⟩
  refine (hfits fun hclosed => ?_).awaitingInput hs
  rcases (hlate hclosed).stopped with hstopped | hstopped <;> rw [hs] at hstopped <;> cases hstopped

/-- The program reads a byte and halts. The input is ended while it waits, and once more after the halt. -/
theorem message_fits_status_twice_closed :
    let refuses : UInt32 → Bool := fun _ => false
    let program : Array UInt32 := #[0xb0000000,0x70000000]
    let session : Session := ⟨refuses,some (.ofProgram refuses program),⟨[.programLoaded 2],none⟩⟩
    let start := { ofSession session "" with slice := 5 }
    let early : List Act := [.pump,.press endKey,.pump]
    let late : List Act := early++[.press endKey]
    (∃ image, Session.handle { refuses } (.loadProgram image) = (.ok (),session)) ∧
    (early.foldl act start).status = .halted ∧ ¬ ClosedLate start early ∧
    (early.foldl act start).message = "Program halted" ∧
    ClosedLate start late ∧ (late.foldl act start).message = "Running..." := by
  intro refuses program session start early late
  have hload : ∃ image, Session.handle { refuses } (.loadProgram image) = (.ok (),session) := by
    refine ⟨Image.encode program,?_⟩
    have hdecode : Image.decode (Image.encode program) = .ok program := by cbv
    exact Session.handle_loadProgram_iff.mpr ⟨program,hdecode,rfl⟩
  have hwaits : (act start .pump).status = .awaitingInput := by
    simp only [start, session, program]
    cbv
  have hhalts : (early.foldl act start).status = .halted := by
    simp only [early, start, session, program]
    cbv
  have hearly : ¬ ClosedLate start early := by
    -- the input is ended once, and the program waits then
    change ¬ ClosedLate start ((([]++[Act.pump])++[Act.press endKey])++[Act.pump])
    rw [ClosedLate,occurs_concat,occurs_concat,occurs_concat]
    simp [not_occurs_nil, Stopped, hwaits]
  have hlate : ClosedLate start late := occurs_concat.mpr (.inr ⟨rfl,.inl hhalts⟩)
  have hfits := (message_fits_status hload "" 5 early).1.mpr hearly
  exact ⟨hload,hhalts,hearly,hfits.halted hhalts,hlate,
    ((message_fits_status hload "" 5 late).2.1 hlate).2⟩

/-- A program that has halted, and a message that says that it runs. -/
theorem message_runs_after_halt :
    let refuses : UInt32 → Bool := fun _ => false
    let session : Session := ⟨refuses,some (.ofProgram refuses #[0x70000000]),⟨[.programLoaded 1],none⟩⟩
    let acts : List Act := [.pump,.press ⟨.char 'd',true⟩]
    let t := acts.foldl act { ofSession session "" with slice := 5 }
    (∃ image, Session.handle { refuses } (.loadProgram image) = (.ok (),session)) ∧
    t.status = .halted ∧ t.message = "Running..." ∧ ¬ t.Candid := by
  intro refuses session acts t
  have hload : ∃ image, Session.handle { refuses } (.loadProgram image) = (.ok (),session) := by
    refine ⟨Image.encode #[0x70000000],?_⟩
    have hdecode : Image.decode (Image.encode #[0x70000000]) = .ok #[0x70000000] := by cbv
    exact Session.handle_loadProgram_iff.mpr ⟨_,hdecode,rfl⟩
  have hstatus : t.status = .halted := by
    simp only [t, acts, session]
    cbv
  have hmessage : t.message = "Running..." := by
    simp only [t, acts, session]
    cbv
  exact ⟨hload,hstatus,hmessage,Outdated.not_candid ⟨.inl hstatus,hmessage⟩⟩

end UniversalMachine.Terminal
