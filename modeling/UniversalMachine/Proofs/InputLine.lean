import Mathlib
import UniversalMachine.Proofs.Display
import UniversalMachine.Terminal.Loop

/-! The input line of the terminal is open exactly while the program waits for a line. The terminal keeps
a status and a switch of its own, which slices, keys and answers all change, and they agree with the machine
after each of these. -/
namespace UniversalMachine
open Machine

theorem toList_loop_ne_nil (bytes : ByteArray) (i : ℕ) {read : List UInt8} (h : read ≠ []) :
    ByteArray.toList.loop bytes i read ≠ [] := by
  fun_induction ByteArray.toList.loop bytes i read with
  | case1 i read hi ih => exact ih (by simp)
  | case2 i read hi => simpa using h

theorem toList_ne_nil {bytes : ByteArray} (h : 0 < bytes.size) : bytes.toList ≠ [] := by
  unfold ByteArray.toList ByteArray.toList.loop
  rw [if_pos h]
  exact toList_loop_ne_nil bytes _ (by simp)

namespace Terminal

/-- The bytes of a line that is submitted. -/
def lineOf (text : String) : List UInt8 := (text.push '\n').toUTF8.toList

theorem lineOf_ne_nil (text : String) : lineOf text ≠ [] := by
  apply toList_ne_nil
  change 0 < (text.push '\n').utf8ByteSize
  rw [String.utf8ByteSize_push]
  exact Nat.add_pos_right _ (Char.utf8Size_pos _)

variable {t t' : Terminal}

theorem submitLine_eq {m : Machine} (hm : t.session.machine = some m) :
    t.submitLine =
      { t with
        session := { t.session with machine := some (m.pushInput (lineOf t.input)) }
        input := ""
        log := t.log.pushBytes (lineOf t.input)
        consoleScroll := bottom
        inputEnabled := false
        status := if t.status = .awaitingInput then .running else t.status
        message := "Running..." } := by
  simp [submitLine, deliver, Session.handle, hm, lineOf]

theorem closeInput_eq {m : Machine} (hm : t.session.machine = some m) :
    t.closeInput =
      { t with
        session := { t.session with machine := some m.closeInput }
        input := ""
        inputEnabled := false
        status := if t.status = .awaitingInput then .running else t.status
        message := "Running..." } := by
  simp [closeInput, deliver, Session.handle, hm]

/-- The key that ends the input. -/
def endKey : Key := ⟨.char 'd',true⟩

/-- A key that neither turns a page of the console pane nor ends the input. -/
structure Key.Minor (key : Key) : Prop where
  up : key.code ≠ .pageUp
  down : key.code ≠ .pageDown
  close : key ≠ endKey

/-- What each key can do. -/
inductive Handled (t : Terminal) : Key → Terminal → Prop
  | pageUp (ctrl : Bool) :
      Handled t ⟨.pageUp,ctrl⟩ { t with consoleScroll := min t.consoleScroll (t.log.size-1)-page }
  | pageDown (ctrl : Bool) :
      Handled t ⟨.pageDown,ctrl⟩ { t with consoleScroll := scrollDown t.consoleScroll page }
  | looked {key : Key} (minor : key.Minor) (heapScroll : ℕ) (shouldQuit : Bool) :
      Handled t key { t with heapScroll, shouldQuit }
  | typed {key : Key} (minor : key.Minor) (enabled : t.inputEnabled = true) (input : String) :
      Handled t key { t with input }
  | submitted (ctrl : Bool) (enabled : t.inputEnabled = true) : Handled t ⟨.enter,ctrl⟩ t.submitLine
  | closed : Handled t endKey t.closeInput

theorem handled_typeKey {code : KeyCode} {ctrl : Bool} (h : Key.Minor ⟨code,ctrl⟩) :
    Handled t ⟨code,ctrl⟩ (t.typeKey code ctrl) := by
  unfold typeKey
  split
  · exact .looked h t.heapScroll t.shouldQuit
  · next hopen =>
    have henabled : t.inputEnabled = true := by simpa using hopen
    split
    · exact .submitted ctrl henabled
    · exact .typed h henabled _
    · split
      · exact .looked h t.heapScroll t.shouldQuit
      · exact .typed h henabled _
    · exact .looked h t.heapScroll t.shouldQuit

theorem handled_handleKey (t : Terminal) (key : Key) : Handled t key (t.handleKey key) := by
  obtain ⟨code,ctrl⟩ := key
  cases code with
  | char c =>
    by_cases hc : c = 'c' ∧ ctrl = true
    · obtain ⟨rfl,rfl⟩ := hc
      exact .looked ⟨by simp,by simp,by decide⟩ t.heapScroll true
    · by_cases hd : c = 'd' ∧ ctrl = true
      · obtain ⟨rfl,rfl⟩ := hd
        exact .closed
      · have htype : t.handleKey ⟨.char c,ctrl⟩ = t.typeKey (.char c) ctrl := by
          unfold handleKey
          split <;> simp_all
        rw [htype]
        exact handled_typeKey ⟨by simp,by simp,by simpa [endKey] using hd⟩
  | pageUp => exact .pageUp ctrl
  | pageDown => exact .pageDown ctrl
  | escape => exact .looked ⟨by simp,by simp,by simp [endKey]⟩ t.heapScroll true
  | up => exact .looked ⟨by simp,by simp,by simp [endKey]⟩ _ t.shouldQuit
  | down => exact .looked ⟨by simp,by simp,by simp [endKey]⟩ _ t.shouldQuit
  | enter => exact handled_typeKey ⟨by simp,by simp,by simp [endKey]⟩
  | backspace => exact handled_typeKey ⟨by simp,by simp,by simp [endKey]⟩
  | other => exact handled_typeKey ⟨by simp,by simp,by simp [endKey]⟩

/-- What a key can do, whichever it is. -/
inductive Pressed (t : Terminal) : Terminal → Prop
  | looked (consoleScroll heapScroll : ℕ) (shouldQuit : Bool) :
      Pressed t { t with consoleScroll, heapScroll, shouldQuit }
  | typed (enabled : t.inputEnabled = true) (input : String) : Pressed t { t with input }
  | submitted (enabled : t.inputEnabled = true) : Pressed t t.submitLine
  | closed : Pressed t t.closeInput

theorem Handled.pressed {key : Key} (h : Handled t key t') : Pressed t t' := by
  cases h with
  | pageUp => exact .looked _ t.heapScroll t.shouldQuit
  | pageDown => exact .looked _ t.heapScroll t.shouldQuit
  | looked => exact .looked t.consoleScroll _ _
  | typed minor enabled input => exact .typed enabled input
  | submitted ctrl enabled => exact .submitted enabled
  | closed => exact .closed

theorem pressed_handleKey (t : Terminal) (key : Key) : Pressed t (t.handleKey key) :=
  (t.handled_handleKey key).pressed

/-- Drawing moves the panes and nothing else. -/
theorem settleScroll_eq (t : Terminal) (paneHeight : ℕ) :
    ∃ consoleScroll heapScroll, t.settleScroll paneHeight = { t with consoleScroll, heapScroll } := by
  obtain ⟨consoleScroll,hc⟩ : ∃ consoleScroll, t.clampConsole paneHeight = { t with consoleScroll } := by
    unfold clampConsole
    split
    · exact ⟨t.consoleScroll,rfl⟩
    · exact ⟨_,rfl⟩
  unfold settleScroll clampHeap
  rw [hc]
  split
  · exact ⟨consoleScroll,t.heapScroll,rfl⟩
  · exact ⟨consoleScroll,_,rfl⟩

/-- The machine of a session, and the status, the switch of the input line and the fault that a terminal
shows with it. -/
inductive Phase : Option Machine → Session.Status → Bool → Option (Fault × Snapshot) → Prop
  | absent : Phase none .idle false none
  | ready {m} (state : m.state = .ready) : Phase (some m) .running false none
  | waits {m} (waits : m.Waits) : Phase (some m) .awaitingInput true none
  /-- The program waited, and its input has come or ended since. -/
  | answered {m r} (state : m.state = .awaitingInput r)
      (supplied : m.input ≠ [] ∨ m.inputClosed = true) : Phase (some m) .running false none
  | halted {m} (state : m.state = .halted) : Phase (some m) .halted false none
  | faulted {m fault} (report : Fault × Snapshot) (state : m.state = .faulted fault) :
      Phase (some m) .faulted false (some report)

/-- What holds between any two actions on a terminal. -/
structure Tended (t : Terminal) : Prop where
  phase : Phase t.session.machine t.status t.inputEnabled t.fault
  typed : t.input ≠ "" → t.inputEnabled = true
  drained : t.session.queue.newest = []

/-- The run that a slice lets the machine go through says how the terminal goes on. -/
theorem Shows.phase {r : Run Recorder} (h : Shows t r t') (ht : Tells r.result r.machine)
    (henabled : t.inputEnabled = false) (hfault : t.fault = none) :
    Phase t'.session.machine t'.status t'.inputEnabled t'.fault := by
  obtain ⟨hm,_,hstatus,_,henabled',hfault',_,_⟩ := h
  obtain ⟨result,m,console⟩ := r
  rw [hm,hstatus,hfault',hfault]
  dsimp only at ht henabled' ⊢
  simp only [henabled, Bool.false_eq_true, false_or] at henabled'
  -- only a read opens the input line
  have hshut : result ≠ .ok .awaitingInput → t'.inputEnabled = false := by
    intro hne
    simpa [hne] using henabled'
  cases ht with
  | paused hs =>
    rw [hs,hshut (by simp)]
    exact .ready hs
  | halted hs =>
    rw [hs,hshut (by simp)]
    exact .halted hs
  | awaitingInput hs hi hc =>
    rw [hs,henabled'.mpr rfl]
    exact .waits ⟨_,hs,hi,hc⟩
  | fault hs =>
    rw [hs,hshut (by simp)]
    exact .faulted _ hs

section Phase
variable {machine : Option Machine} {status : Session.Status} {enabled : Bool}
  {fault : Option (Fault × Snapshot)}

/-- A slice lets a program go on that is shown as running, with the input line shut, or it finds the
status that is shown. -/
theorem Phase.enters_or_idle (h : Phase machine status enabled fault) :
    (status = .running ∧ enabled = false ∧ fault = none ∧
      ∃ m n, machine = some m ∧ m.enter = .ready n) ∨
    (status ≠ .running ∧ (∀ refuses queue, Session.status ⟨refuses,machine,queue⟩ = status) ∧
      ∀ m n, machine = some m → m.enter ≠ .ready n) := by
  have hidle : ∀ {m : Machine} {result : Except Fault Outcome}, m.enter = .done result →
      ∀ m' n, some m = some m' → m'.enter ≠ .ready n := by
    rintro m result hd m' n hm he
    cases hm
    simp [hd] at he
  cases h with
  | absent => exact .inr ⟨by simp,fun _ _ => rfl,by simp⟩
  | @ready m hs => exact .inl ⟨rfl,rfl,rfl,m,m,rfl,by simp [enter, hs]⟩
  | @answered m r hs hsupplied =>
    exact .inl ⟨rfl,rfl,rfl,m,_,rfl,enter_of_supplied hs hsupplied⟩
  | waits hw =>
    obtain ⟨r,hs,hi,hc⟩ := hw
    exact .inr ⟨by simp,by simp [Session.status, hs, Session.Status.ofState],
      hidle (enter_of_waiting hs hi hc)⟩
  | @halted m hs =>
    have hd : m.enter = .done (.ok .halted) := by simp [enter, hs]
    exact .inr ⟨by simp,by simp [Session.status, hs, Session.Status.ofState],hidle hd⟩
  | @faulted m fault report hs =>
    have hd : m.enter = .done (.error fault) := by simp [enter, hs]
    exact .inr ⟨by simp,by simp [Session.status, hs, Session.Status.ofState],hidle hd⟩

theorem Phase.running_iff (h : Phase machine status enabled fault) :
    status = .running ↔ ∃ m n, machine = some m ∧ m.enter = .ready n := by
  rcases h.enters_or_idle with ⟨hs,_,_,henters⟩ | ⟨hs,_,hidle⟩
  · exact ⟨fun _ => henters,fun _ => hs⟩
  · refine ⟨fun hr => absurd hr hs,?_⟩
    rintro ⟨m,n,hm,he⟩
    exact absurd he (hidle m n hm)

theorem Phase.enabled_iff (h : Phase machine status enabled fault) :
    enabled = true ↔ ∃ m, machine = some m ∧ m.Waits := by
  cases h with
  | waits hw => exact ⟨fun _ => ⟨_,rfl,hw⟩,fun _ => rfl⟩
  | absent => simp
  | ready hs => simp [Waits, hs]
  | answered hs hsupplied =>
    simp only [Bool.false_eq_true, false_iff]
    rintro ⟨m,hm,_,_,hi,hc⟩
    cases hm
    simp [hi, hc] at hsupplied
  | halted hs => simp [Waits, hs]
  | faulted _ hs => simp [Waits, hs]

/-- Input makes a program go on that waited for it, and is kept for later by another one. -/
theorem Phase.answer {m m' : Machine} (h : Phase (some m) status enabled fault) (hs : m'.state = m.state)
    (hsupplied : m'.input ≠ [] ∨ m'.inputClosed = true) :
    Phase (some m') (if status = .awaitingInput then .running else status) false fault := by
  cases h with
  | ready hstate => exact .ready (hs.trans hstate)
  | waits hw =>
    obtain ⟨r,hstate,_,_⟩ := hw
    exact .answered (hs.trans hstate) hsupplied
  | answered hstate => exact .answered (hs.trans hstate) hsupplied
  | halted hstate => exact .halted (hs.trans hstate)
  | faulted report hstate => exact .faulted report (hs.trans hstate)

end Phase

namespace Tended

theorem pump (h : t.Tended) : t.pump.Tended := by
  rcases h.phase.enters_or_idle with ⟨_,henabled,hfault,m,n,hm,he⟩ | ⟨_,hstatus,hidle⟩
  · have hshows := pump_shows hm he h.drained
    refine ⟨hshows.phase (m.runFor_tells t.slice _) henabled hfault,?_,hshows.drained⟩
    intro hinput
    rw [hshows.input] at hinput
    exact hshows.inputEnabled.mpr (.inl (h.typed hinput))
  · have hsame : t.session.status = t.status := hstatus t.session.refuses t.session.queue
    rw [pump_idle h.drained hidle,hsame]
    exact h

theorem closeInput (h : t.Tended) : t.closeInput.Tended := by
  have hphase := h.phase
  cases hm : t.session.machine with
  | none =>
    simp only [Terminal.closeInput, Terminal.deliver, Session.handle, hm]
    exact ⟨h.phase,by simp,h.drained⟩
  | some m =>
    rw [hm] at hphase
    rw [closeInput_eq hm]
    exact ⟨hphase.answer rfl (.inr rfl),by simp,h.drained⟩

theorem submitLine (h : t.Tended) (henabled : t.inputEnabled = true) : t.submitLine.Tended := by
  have hphase := h.phase
  obtain ⟨m,hm,_⟩ := h.phase.enabled_iff.mp henabled
  rw [hm] at hphase
  rw [submitLine_eq hm]
  refine ⟨hphase.answer rfl (.inl ?_),by simp,h.drained⟩
  exact List.append_ne_nil_of_right_ne_nil _ (lineOf_ne_nil t.input)

theorem press (h : t.Tended) (key : Key) : (t.handleKey key).Tended := by
  have hpressed := t.pressed_handleKey key
  generalize t.handleKey key = t' at hpressed ⊢
  cases hpressed with
  | looked => exact ⟨h.phase,h.typed,h.drained⟩
  | typed henabled => exact ⟨h.phase,fun _ => henabled,h.drained⟩
  | submitted henabled => exact h.submitLine henabled
  | closed => exact h.closeInput

theorem draw (h : t.Tended) (paneHeight : ℕ) : (t.settleScroll paneHeight).Tended := by
  obtain ⟨consoleScroll,heapScroll,hdraw⟩ := t.settleScroll_eq paneHeight
  rw [hdraw]
  exact ⟨h.phase,h.typed,h.drained⟩

end Tended

/-- What happens to a terminal. -/
inductive Act where
  | pump
  | press (key : Key)
  /-- A frame with a console pane of this height. -/
  | draw (paneHeight : ℕ)

def act (t : Terminal) : Act → Terminal
  | .pump => t.pump
  | .press key => t.handleKey key
  | .draw paneHeight => t.settleScroll paneHeight

/-- One of the acts meets a condition on it and on the terminal that it comes upon. -/
def Occurs (P : Terminal → Act → Prop) (t : Terminal) (acts : List Act) : Prop :=
  ∃ earlier last, earlier++[last] <+: acts ∧ P (earlier.foldl act t) last

theorem not_occurs_nil {P : Terminal → Act → Prop} : ¬ Occurs P t [] := by
  rintro ⟨earlier,last,hbefore,_⟩
  simp at hbefore

theorem occurs_concat {P : Terminal → Act → Prop} {acts : List Act} {last : Act} :
    Occurs P t (acts++[last]) ↔ Occurs P t acts ∨ P (acts.foldl act t) last := by
  constructor
  · rintro ⟨earlier,a,hbefore,ha⟩
    rcases List.prefix_concat_iff.mp hbefore with hall | hearlier
    · obtain ⟨rfl,hlast⟩ := List.append_inj' hall rfl
      cases hlast
      exact .inr ha
    · exact .inl ⟨earlier,a,hearlier,ha⟩
  · rintro (⟨earlier,a,hbefore,ha⟩ | hlast)
    · exact ⟨earlier,a,hbefore.trans (List.prefix_append _ _),ha⟩
    · exact ⟨acts,last,List.prefix_rfl,hlast⟩

theorem Tended.foldl_act (h : t.Tended) (acts : List Act) : (acts.foldl act t).Tended := by
  induction acts generalizing t with
  | nil => exact h
  | cons first acts ih =>
    cases first with
    | pump => exact ih h.pump
    | press key => exact ih (h.press key)
    | draw paneHeight => exact ih (h.draw paneHeight)

theorem Tended.refresh (h : t.Tended) (size : Size) : (t.refresh size).Tended := by
  unfold Terminal.refresh
  split
  · exact h.pump.draw size.paneHeight
  · exact h.draw size.paneHeight

theorem Tended.happen (h : t.Tended) (happening : Happening) : (t.happen happening).Tended := by
  cases happening with
  | press key => exact h.press key
  | ignored => exact h

theorem Tended.visit (h : t.Tended) (size : Size) (waits : Array ℕ) (polls : List Poll) :
    (visit size t waits polls).terminal.Tended := by
  fun_induction Terminal.visit size t waits polls with
  | case1 => exact h.refresh size
  | case2 => exact h.refresh size
  | case3 _ _ _ _ _ _ ih => exact ih (h.refresh size)
  | case4 => exact h.refresh size
  | case5 => exact h.refresh size
  | case6 _ _ _ _ _ happening _ ih => exact ih ((h.refresh size).happen happening)

theorem ofSession_tended {refuses : UInt32 → Bool} {session : Session}
    (h : session = { refuses } ∨
      ∃ image, Session.handle { refuses } (.loadProgram image) = (.ok (),session))
    (name : String) (slice : ℕ) : Tended { ofSession session name with slice } := by
  rcases h with rfl | ⟨image,hload⟩
  · exact ⟨.absent,fun hne => absurd rfl hne,rfl⟩
  · obtain ⟨program,_,rfl⟩ := Session.handle_loadProgram_iff.mp hload
    have hinput : (ofSession ⟨refuses,some (.ofProgram refuses program),
      ⟨[.programLoaded program.size],none⟩⟩ name).input = "" := rfl
    exact ⟨.ready rfl,fun hne => absurd hinput hne,rfl⟩

/-- The input line agrees with the program. -/
structure Attentive (t : Terminal) : Prop where
  enabled : t.inputEnabled = true ↔ t.status = .awaitingInput
  typed : t.input ≠ "" → t.inputEnabled = true
  waiting : t.status = .awaitingInput → ∃ m, t.session.machine = some m ∧ m.Waits
  answered : ∀ m r, t.session.machine = some m → m.state = .awaitingInput r →
    t.status ≠ .awaitingInput →
    t.status = .running ∧ (m.input ≠ [] ∨ m.inputClosed = true)
  otherwise : (∀ m r, t.session.machine = some m → m.state ≠ .awaitingInput r) →
    t.status = t.session.status
  faulted : t.fault.isSome = true ↔ t.status = .faulted

theorem Tended.attentive (h : t.Tended) : t.Attentive := by
  obtain ⟨⟨refuses,machine,queue⟩,_,_,input,enabled,_,_,status,fault,_,_,_⟩ := t
  obtain ⟨hphase,htyped,_⟩ := h
  dsimp only at hphase htyped
  refine ⟨?_,htyped,?_,?_,?_,?_⟩
  · cases hphase <;> simp
  · rintro rfl
    cases hphase with
    | waits hw => exact ⟨_,rfl,hw⟩
  · rintro m r rfl hs hne
    cases hphase with
    | answered _ hsupplied => exact ⟨rfl,hsupplied⟩
    | waits => exact absurd rfl hne
    | ready hstate => simp [hs] at hstate
    | halted hstate => simp [hs] at hstate
    | faulted _ hstate => simp [hs] at hstate
  · intro hother
    cases hphase with
    | absent => rfl
    | waits hw =>
      obtain ⟨r,hs,_⟩ := hw
      exact absurd hs (hother _ r rfl)
    | answered hs => exact absurd hs (hother _ _ rfl)
    | ready hs => simp [Session.status, hs, Session.Status.ofState]
    | halted hs => simp [Session.status, hs, Session.Status.ofState]
    | faulted _ hs => simp [Session.status, hs, Session.Status.ofState]
  · cases hphase <;> simp

/-- Whatever a user does, and wherever a slice ends, the input line of a terminal that began with a new
session is open exactly if the program waits for a line, and the status is that of the program. A program
that waited and has been answered counts as running, and the next slice does let it go on. -/
theorem input_line_follows_program {refuses : UInt32 → Bool} {session : Session}
    (h : session = { refuses } ∨
      ∃ image, Session.handle { refuses } (.loadProgram image) = (.ok (),session))
    (name : String) (slice : ℕ) (acts : List Act) :
    let t := acts.foldl act { ofSession session name with slice }
    t.Attentive ∧
    (t.inputEnabled = true ↔ ∃ m, t.session.machine = some m ∧ m.Waits) ∧
    (t.status = .running ↔ ∃ m n, t.session.machine = some m ∧ m.enter = .ready n) ∧
    ∀ size polls, (t.run size polls).terminal.Attentive := by
  intro t
  have htended : t.Tended := (ofSession_tended h name slice).foldl_act acts
  refine ⟨htended.attentive,htended.phase.enabled_iff,htended.phase.running_iff,?_⟩
  exact fun size polls => (htended.visit size #[] polls).attentive

/-- The program reads a line. A key comes before it asks, another one after that, then the line is
submitted, and the input ends before the next slice. -/
theorem input_line_follows_program_hasty :
    let refuses : UInt32 → Bool := fun _ => false
    let program : Array UInt32 := #[0xb0000000,0xa0000000,0x70000000]
    let session : Session := ⟨refuses,some (.ofProgram refuses program),⟨[.programLoaded 3],none⟩⟩
    let early : List Act := [.press ⟨.char 'x',false⟩,.pump,.press ⟨.char 'y',false⟩]
    let late : List Act := early++[.press ⟨.enter,false⟩,.press ⟨.char 'd',true⟩]
    let t := early.foldl act { ofSession session "" with slice := 1 }
    let t' := late.foldl act { ofSession session "" with slice := 1 }
    (∃ image, Session.handle { refuses } (.loadProgram image) = (.ok (),session)) ∧
    t.input = "y" ∧ t.status = .awaitingInput ∧ t.Attentive ∧
    t'.input = "" ∧ t'.status = .running ∧
    ∃ m n, t'.session.machine = some m ∧ m.enter = .ready n := by
  intro refuses program session early late t t'
  have hload : ∃ image, Session.handle { refuses } (.loadProgram image) = (.ok (),session) := by
    refine ⟨Image.encode program,?_⟩
    have hdecode : Image.decode (Image.encode program) = .ok program := by cbv
    exact Session.handle_loadProgram_iff.mpr ⟨program,hdecode,rfl⟩
  have hasked : t.input = "y" ∧ t.status = .awaitingInput := by
    simp only [t, early]
    constructor <;> cbv
  have hended : t'.input = "" ∧ t'.status = .running := by
    simp only [t', late, early]
    constructor <;> cbv
  refine ⟨hload,hasked.1,hasked.2,?_,hended.1,hended.2,?_⟩
  · exact (input_line_follows_program (.inr hload) "" 1 early).1
  · exact (input_line_follows_program (.inr hload) "" 1 late).2.2.1.mp hended.2

end Terminal
end UniversalMachine
