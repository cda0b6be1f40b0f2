import Mathlib
import UniversalMachine.Proofs.InputLine

/-! The log of a terminal is the conversation of a user with the program: what the program wrote up to each
read, and each line that was typed, as a whole. Where the slices end leaves no trace in it. -/
namespace UniversalMachine
open Machine

/-- The second recorder was given the same bytes as the first one, after others. -/
def Recorder.Continues (before : Array UInt8) (recorder later : Recorder) : Prop :=
  later.output = before++recorder.output

theorem Recorder.continues_twins (before : Array UInt8) : Twins (Recorder.Continues before) where
  readLine h := ⟨rfl,h⟩
  writeByte := by
    intro recorder later h byte
    refine ⟨rfl,?_⟩
    change later.output.push byte = before++recorder.output.push byte
    rw [h,Array.push_append]
  announceHalt h := ⟨rfl,h⟩
  reportFault h _ := h

namespace Machine

/-- The run as it is recorded after other bytes. -/
def Run.behind (r : Run Recorder) (before : Array UInt8) : Run Recorder :=
  { r with console := ⟨before++r.console.output⟩ }

theorem runFor_behind (m : Machine) (budget : ℕ) (before : Array UInt8) :
    m.runFor budget (⟨before⟩ : Recorder) = (m.runFor budget {}).behind before := by
  have hstart : Recorder.Continues before {} ⟨before⟩ := by simp [Recorder.Continues]
  obtain ⟨hresult,hmachine,houtput⟩ :=
    runFor_twins (Recorder.continues_twins before) hstart m budget
  generalize m.runFor budget ({} : Recorder) = x at hresult hmachine houtput ⊢
  generalize m.runFor budget (⟨before⟩ : Recorder) = y at hresult hmachine houtput
  obtain ⟨_,_,⟨output⟩⟩ := y
  cases hresult
  cases hmachine
  cases houtput
  rfl

/-- A run that goes on from where another one left off. -/
theorem resume_behind (r : Run Recorder) (budget : ℕ) :
    r.resume budget = (r.machine.runFor budget {}).behind r.console.output :=
  r.machine.runFor_behind budget r.console.output

theorem Ends.behind {m : Machine} {budget : ℕ} {x : Run Recorder}
    (h : (m.runFor budget ({} : Recorder)).machine.Ends ({} : Recorder) x) :
    m.Ends {} (x.behind (m.runFor budget ({} : Recorder)).console.output) := by
  obtain ⟨later,rfl,hx⟩ := ends_iff.mp h
  rw [ends_resume m budget,ends_iff]
  exact ⟨later,resume_behind _ later,hx⟩

theorem Run.pushAll_behind (r : Run Recorder) (before : Array UInt8) (log : Scrollback) :
    log.pushAll (r.behind before).entries = (log.pushBytes before.toList).pushAll r.entries := by
  simp [Run.entries, Run.behind, Scrollback.pushAll, Scrollback.push]

/-- A run that did not come to an end leaves no notice. -/
theorem Run.pushAll_of_unfinished {r : Run Recorder}
    (hr : r.result = .ok .paused ∨ r.result = .ok .awaitingInput) (log : Scrollback) :
    log.pushAll r.entries = log.pushBytes r.console.output.toList := by
  rcases hr with hr | hr <;> simp [Run.entries, hr, Scrollback.pushAll, Scrollback.push]

theorem Waits.runFor {m : Machine} (h : m.Waits) (budget : ℕ) :
    m.runFor budget ({} : Recorder) = ⟨.ok .awaitingInput,m,{}⟩ := by
  obtain ⟨r,hs,hi,hc⟩ := h
  simp only [Machine.runFor, enter_of_waiting hs hi hc]

/-- A conversation with a machine. The program is given a line, or the end of its input, each time it waits,
until it ends with a result. The entries are what a log of it shows. -/
inductive Converses :
    Machine → List (List UInt8) → List Scrollback.Entry → Except Fault Outcome → Prop
  | ended {m lines r} (ends : m.Ends ({} : Recorder) r) (final : r.result ≠ .ok .awaitingInput) :
      Converses m lines r.entries r.result
  | line {m line lines r entries result} (ends : m.Ends ({} : Recorder) r)
      (waits : r.result = .ok .awaitingInput)
      (rest : Converses (r.machine.pushInput line) lines entries result) :
      Converses m (line::lines) (r.entries++.bytes line::entries) result
  | close {m r entries result} (ends : m.Ends ({} : Recorder) r)
      (waits : r.result = .ok .awaitingInput)
      (rest : Converses r.machine.closeInput [] entries result) :
      Converses m [] (r.entries++entries) result

/-- The program and the lines leave no choice. -/
theorem Converses.unique {m : Machine} {lines : List (List UInt8)}
    {entries entries' : List Scrollback.Entry} {result result' : Except Fault Outcome}
    (h : Converses m lines entries result) (h' : Converses m lines entries' result') :
    entries = entries' ∧ result = result' := by
  induction h generalizing entries' result' with
  | ended ends final =>
    cases h' with
    | ended ends' =>
      obtain rfl := ends.unique ends'
      exact ⟨rfl,rfl⟩
    | line ends' waits' => exact absurd (ends.unique ends' ▸ waits') final
    | close ends' waits' => exact absurd (ends.unique ends' ▸ waits') final
  | line ends waits _ ih =>
    cases h' with
    | ended ends' final' => exact absurd (ends.unique ends' ▸ waits) final'
    | line ends' _ rest' =>
      obtain rfl := ends.unique ends'
      obtain ⟨rfl,rfl⟩ := ih rest'
      exact ⟨rfl,rfl⟩
  | close ends waits _ ih =>
    cases h' with
    | ended ends' final' => exact absurd (ends.unique ends' ▸ waits) final'
    | close ends' _ rest' =>
      obtain rfl := ends.unique ends'
      obtain ⟨rfl,rfl⟩ := ih rest'
      exact ⟨rfl,rfl⟩

/-- A conversation may be joined in the middle of a run. -/
theorem Converses.behind {m : Machine} {budget : ℕ} {lines : List (List UInt8)}
    {entries : List Scrollback.Entry} {result : Except Fault Outcome}
    (h : Converses (m.runFor budget ({} : Recorder)).machine lines entries result) :
    ∃ entries', Converses m lines entries' result ∧
      ∀ log : Scrollback, log.pushAll entries' =
        (log.pushBytes (m.runFor budget ({} : Recorder)).console.output.toList).pushAll entries := by
  cases h with
  | @ended _ _ x ends final =>
    exact ⟨_,.ended (r := x.behind _) ends.behind final,x.pushAll_behind _⟩
  | line ends waits rest =>
    refine ⟨_,.line ends.behind waits rest,fun log => ?_⟩
    rw [Scrollback.pushAll_append,Run.pushAll_behind,Scrollback.pushAll_append]
  | close ends waits rest =>
    refine ⟨_,.close ends.behind waits rest,fun log => ?_⟩
    rw [Scrollback.pushAll_append,Run.pushAll_behind,Scrollback.pushAll_append]

end Machine

/-- The status after a run with this result. -/
def Session.Status.ofResult : Except Fault Outcome → Session.Status
  | .ok .paused => .running
  | .ok .awaitingInput => .awaitingInput
  | .ok .halted => .halted
  | .error _ => .faulted

theorem Machine.Tells.status {result : Except Fault Outcome} {m : Machine} (h : Tells result m) :
    Session.Status.ofState m.state = .ofResult result := by
  rw [h.result_eq]
  cases m.state <;> rfl

namespace Terminal

variable {t : Terminal}

/-- Types a line and submits it. -/
def typeLine (t : Terminal) (text : String) : Terminal :=
  (text.toList.foldl (fun t c => t.handleKey ⟨.char c,false⟩) t).handleKey ⟨.enter,false⟩

theorem handleKey_char (henabled : t.inputEnabled = true) (c : Char) :
    t.handleKey ⟨.char c,false⟩ = { t with input := t.input.push c } := by
  simp [handleKey, typeKey, henabled]

theorem foldl_handleKey (henabled : t.inputEnabled = true) (chars : List Char) :
    chars.foldl (fun t c => t.handleKey ⟨.char c,false⟩) t =
      { t with input := chars.foldl String.push t.input } := by
  induction chars generalizing t with
  | nil => rfl
  | cons c chars ih =>
    rw [List.foldl_cons,handleKey_char henabled]
    exact ih henabled

theorem toList_foldl_push (chars : List Char) (text : String) :
    (chars.foldl String.push text).toList = text.toList++chars := by
  induction chars generalizing text with
  | nil => simp
  | cons c chars ih => simp [ih]

theorem typeLine_eq (henabled : t.inputEnabled = true) (hinput : t.input = "") (text : String) :
    t.typeLine text = submitLine { t with input := text } := by
  have htext : text.toList.foldl String.push t.input = text := by
    apply String.toList_injective
    simp [toList_foldl_push, hinput]
  unfold typeLine
  rw [foldl_handleKey henabled,htext]
  simp [handleKey, typeKey, henabled]

/-- A terminal, and the lines that its user will type. -/
structure User where
  terminal : Terminal
  lines : List String

namespace User

/-- The user lets the program run. Each time it waits, they type the next line, or end the input once all
are typed. -/
def act (user : User) : User :=
  match user.terminal.status with
  | .running => { user with terminal := user.terminal.pump }
  | .awaitingInput =>
    match user.lines with
    | [] => { user with terminal := user.terminal.handleKey ⟨.char 'd',true⟩ }
    | text::lines => ⟨user.terminal.typeLine text,lines⟩
  | _ => user

/-- The program has come to an end. -/
def Ended (user : User) : Prop :=
  user.terminal.status = .halted ∨ user.terminal.status = .faulted

theorem Ended.act {user : User} (h : user.Ended) : user.act = user := by
  unfold User.act
  rcases h with h | h <;> rw [h]

theorem Ended.iterate {user : User} (h : user.Ended) (n : ℕ) : User.act^[n] user = user :=
  Function.iterate_fixed h.act n

/-- There is one end. -/
theorem Ended.unique {user : User} {n k : ℕ} (hn : (User.act^[n] user).Ended)
    (hk : (User.act^[k] user).Ended) : User.act^[n] user = User.act^[k] user := by
  rcases Nat.le_total n k with h | h
  · obtain ⟨d,rfl⟩ := Nat.exists_eq_add_of_le' h
    rw [Function.iterate_add_apply,hn.iterate]
  · obtain ⟨d,rfl⟩ := Nat.exists_eq_add_of_le' h
    rw [Function.iterate_add_apply,hk.iterate]

/-- The user of a program that runs or waits, between two lines. -/
structure Live (user : User) (m : Machine) : Prop where
  tended : user.terminal.Tended
  input : user.terminal.input = ""
  machine : user.terminal.session.machine = some m
  status : user.terminal.status = .running ∨ user.terminal.status = .awaitingInput

/-- The second user is the first one after the program went through the run `r`. -/
structure Arrives (user : User) (r : Run Recorder) (user' : User) : Prop where
  tended : user'.terminal.Tended
  input : user'.terminal.input = ""
  machine : user'.terminal.session.machine = some r.machine
  status : user'.terminal.status = .ofResult r.result
  log : user'.terminal.log = user.terminal.log.pushAll r.entries
  slice : user'.terminal.slice = user.terminal.slice
  lines : user'.lines = user.lines

variable {user user' : User} {m : Machine} {r : Run Recorder}

theorem Arrives.live (h : user.Arrives r user')
    (hr : r.result = .ok .paused ∨ r.result = .ok .awaitingInput) : user'.Live r.machine := by
  refine ⟨h.tended,h.input,h.machine,?_⟩
  rw [h.status]
  rcases hr with hr | hr
  · exact .inl (by rw [hr]; rfl)
  · exact .inr (by rw [hr]; rfl)

theorem Arrives.asked (h : user.Arrives r user') (hr : r.result = .ok .awaitingInput) :
    user'.terminal.status = .awaitingInput := by
  rw [h.status,hr]
  rfl

theorem Live.act_running (h : user.Live m) (hs : user.terminal.status = .running) :
    user.Arrives (m.runFor user.terminal.slice {}) user.act := by
  have hact : user.act = { user with terminal := user.terminal.pump } := by
    simp only [User.act, hs]
  obtain ⟨m',n,hm,he⟩ := h.tended.phase.running_iff.mp hs
  obtain rfl := Option.some.inj (h.machine.symm.trans hm)
  have hshows := pump_shows hm he h.tended.drained
  rw [hact]
  refine ⟨h.tended.pump,hshows.input.trans h.input,hshows.machine,?_,hshows.log,hshows.slice,rfl⟩
  exact hshows.status.trans (m.runFor_tells user.terminal.slice _).status

theorem Live.waits (h : user.Live m) (hs : user.terminal.status = .awaitingInput) : m.Waits := by
  obtain ⟨m',hm,hw⟩ := h.tended.attentive.waiting hs
  obtain rfl := Option.some.inj (h.machine.symm.trans hm)
  exact hw

/-- A line that is typed goes to the log and to the program, which runs again. -/
theorem Live.act_line (h : user.Live m) (hs : user.terminal.status = .awaitingInput) {text : String}
    {lines : List String} (hl : user.lines = text::lines) :
    user.act.Live (m.pushInput (lineOf text)) ∧ user.act.lines = lines ∧
      user.act.terminal.slice = user.terminal.slice ∧
      user.act.terminal.log = user.terminal.log.pushBytes (lineOf text) := by
  have henabled : user.terminal.inputEnabled = true := h.tended.attentive.enabled.mpr hs
  have hact : user.act = ⟨submitLine { user.terminal with input := text },lines⟩ := by
    simp only [User.act, hs, hl, typeLine_eq henabled h.input]
  have htended : Tended { user.terminal with input := text } :=
    ⟨h.tended.phase,fun _ => henabled,h.tended.drained⟩
  have hlive := htended.submitLine henabled
  have hsubmit := submitLine_eq (t := { user.terminal with input := text }) h.machine
  rw [hsubmit] at hlive hact
  rw [hact]
  exact ⟨⟨hlive,rfl,rfl,.inl (if_pos hs)⟩,rfl,rfl,rfl⟩

theorem Live.act_close (h : user.Live m) (hs : user.terminal.status = .awaitingInput)
    (hl : user.lines = []) :
    user.act.Live m.closeInput ∧ user.act.lines = [] ∧
      user.act.terminal.slice = user.terminal.slice ∧
      user.act.terminal.log = user.terminal.log := by
  have hact : user.act = { user with terminal := user.terminal.closeInput } := by
    simp only [User.act, hs, hl]
    rfl
  have hlive := h.tended.closeInput
  rw [closeInput_eq h.machine] at hlive hact
  rw [hact]
  exact ⟨⟨hlive,rfl,rfl,.inl (if_pos hs)⟩,hl,rfl,rfl⟩

theorem ended_of_final {result : Except Fault Outcome} (hs : user.terminal.status = .ofResult result)
    (hp : result ≠ .ok .paused) (ha : result ≠ .ok .awaitingInput) : user.Ended := by
  unfold Ended
  rw [hs]
  cases result with
  | error fault => exact .inr rfl
  | ok outcome =>
    cases outcome with
    | halted => exact .inl rfl
    | awaitingInput => exact absurd rfl ha
    | paused => exact absurd rfl hp

/-- What the user sees of a program that has come to an end is a conversation with it. -/
theorem Live.converses (h : user.Live m) {n : ℕ} (hend : (User.act^[n] user).Ended) :
    ∃ entries result, Converses m (user.lines.map lineOf) entries result ∧
      (User.act^[n] user).terminal.status = .ofResult result ∧
      (User.act^[n] user).terminal.log = user.terminal.log.pushAll entries := by
  induction n generalizing user m with
  | zero =>
    rcases hend with hend | hend <;> rcases h.status with hs | hs <;> simp [hs] at hend
  | succ n ih =>
    rw [Function.iterate_succ_apply] at hend ⊢
    rcases h.status with hs | hs
    · have harrives := h.act_running hs
      by_cases hr : (m.runFor user.terminal.slice ({} : Recorder)).result = .ok .paused ∨
          (m.runFor user.terminal.slice ({} : Recorder)).result = .ok .awaitingInput
      · -- the slice and the rest of its run are one run
        obtain ⟨entries,result,hconverses,hstatus,hlog⟩ := ih (harrives.live hr) hend
        rw [harrives.lines] at hconverses
        obtain ⟨entries',hconverses',hentries⟩ := hconverses.behind
        refine ⟨entries',result,hconverses',hstatus,?_⟩
        rw [hlog,harrives.log,Run.pushAll_of_unfinished hr,hentries]
      · obtain ⟨hp,ha⟩ := not_or.mp hr
        have hended := ended_of_final harrives.status hp ha
        rw [hended.iterate]
        exact ⟨_,_,.ended (ends_iff.mpr ⟨_,rfl,hp⟩) ha,harrives.status,harrives.log⟩
    · have hw := h.waits hs
      -- nothing is written before the answer
      have hends : m.Ends ({} : Recorder) ⟨.ok .awaitingInput,m,{}⟩ :=
        ends_iff.mpr ⟨0,hw.runFor 0,by simp⟩
      cases hl : user.lines with
      | nil =>
        obtain ⟨hlive,hlines,_,hlog⟩ := h.act_close hs hl
        obtain ⟨entries,result,hconverses,hstatus,hlog'⟩ := ih hlive hend
        rw [hlines] at hconverses
        refine ⟨_,result,.close hends rfl hconverses,hstatus,?_⟩
        rw [hlog',hlog]
        rfl
      | cons text lines =>
        obtain ⟨hlive,hlines,_,hlog⟩ := h.act_line hs hl
        obtain ⟨entries,result,hconverses,hstatus,hlog'⟩ := ih hlive hend
        rw [hlines] at hconverses
        refine ⟨_,result,.line hends rfl hconverses,hstatus,?_⟩
        rw [hlog',hlog]
        rfl

theorem Arrives.trans {x y : Run Recorder} {user'' : User} (h : user.Arrives x user')
    (hx : x.result = .ok .paused) (h' : user'.Arrives y user'') :
    user.Arrives (y.behind x.console.output) user'' := by
  refine ⟨h'.tended,h'.input,h'.machine,h'.status,?_,h'.slice.trans h.slice,h'.lines.trans h.lines⟩
  rw [h'.log,h.log,Run.pushAll_behind,Run.pushAll_of_unfinished (.inl hx)]

/-- A program that does not run for ever comes to where its run ends, however short the slices are. -/
theorem Live.arrives (h : user.Live m) (hslice : 0 < user.terminal.slice) {budget : ℕ}
    (hb : (m.runFor budget ({} : Recorder)).result ≠ .ok .paused) :
    ∃ n, user.Arrives (m.runFor budget {}) (User.act^[n] user) := by
  induction budget using Nat.strong_induction_on generalizing user m with
  | h budget ih =>
    rcases h.status with hs | hs
    · have harrives := h.act_running hs
      by_cases hp : (m.runFor user.terminal.slice ({} : Recorder)).result = .ok .paused
      · -- the slice was not empty, so less of the budget is left
        obtain ⟨hlt,hresume⟩ := resume_of_paused hp hb
        rw [resume_behind] at hresume
        rw [← hresume] at hb ⊢
        obtain ⟨n,hn⟩ := ih (budget-user.terminal.slice) (by omega) (harrives.live (.inl hp))
          (harrives.slice ▸ hslice) hb
        exact ⟨n+1,harrives.trans hp hn⟩
      · refine ⟨1,?_⟩
        have hsame : m.runFor budget ({} : Recorder) = m.runFor user.terminal.slice {} :=
          Ends.unique (ends_iff.mpr ⟨budget,rfl,hb⟩) (ends_iff.mpr ⟨user.terminal.slice,rfl,hp⟩)
        rw [hsame]
        exact harrives
    · refine ⟨0,?_⟩
      rw [(h.waits hs).runFor]
      exact ⟨h.tended,h.input,h.machine,hs,rfl,rfl,rfl⟩

theorem Live.reaches (h : user.Live m) (hslice : 0 < user.terminal.slice)
    (hends : m.Ends ({} : Recorder) r) : ∃ n, user.Arrives r (User.act^[n] user) := by
  obtain ⟨budget,rfl,hb⟩ := ends_iff.mp hends
  exact h.arrives hslice hb

/-- A conversation takes place at the terminal, however short the slices are. -/
theorem Live.ends {lines : List (List UInt8)} {entries : List Scrollback.Entry}
    {result : Except Fault Outcome} (hconverses : Converses m lines entries result)
    (h : user.Live m) (hlines : user.lines.map lineOf = lines) (hslice : 0 < user.terminal.slice) :
    ∃ n, (User.act^[n] user).Ended ∧ (User.act^[n] user).terminal.status = .ofResult result ∧
      (User.act^[n] user).terminal.log = user.terminal.log.pushAll entries := by
  induction hconverses generalizing user with
  | ended hends hfinal =>
    obtain ⟨n,hn⟩ := h.reaches hslice hends
    obtain ⟨budget,rfl,hb⟩ := ends_iff.mp hends
    exact ⟨n,ended_of_final hn.status hb hfinal,hn.status,hn.log⟩
  | line hends hwaits _ ih =>
    obtain ⟨n,hn⟩ := h.reaches hslice hends
    obtain ⟨text,rest,htexts,rfl,hrest⟩ := List.map_eq_cons_iff.mp hlines
    obtain ⟨hlive,hleft,hslice',hlog⟩ :=
      (hn.live (.inr hwaits)).act_line (hn.asked hwaits) (hn.lines.trans htexts)
    obtain ⟨k,hk⟩ := ih hlive (by rw [hleft,hrest]) (by rw [hslice',hn.slice]; exact hslice)
    refine ⟨k+(n+1),?_⟩
    rw [Function.iterate_add_apply,Function.iterate_succ_apply',Scrollback.pushAll_append,← hn.log]
    rw [hlog] at hk
    exact hk
  | close hends hwaits _ ih =>
    obtain ⟨n,hn⟩ := h.reaches hslice hends
    have hnone : user.lines = [] := List.map_eq_nil_iff.mp hlines
    obtain ⟨hlive,hleft,hslice',hlog⟩ :=
      (hn.live (.inr hwaits)).act_close (hn.asked hwaits) (hn.lines.trans hnone)
    obtain ⟨k,hk⟩ := ih hlive (by rw [hleft,List.map_nil]) (by rw [hslice',hn.slice]; exact hslice)
    refine ⟨k+(n+1),?_⟩
    rw [Function.iterate_add_apply,Function.iterate_succ_apply',Scrollback.pushAll_append,← hn.log]
    rw [hlog] at hk
    exact hk

/-- The user of a program that has just been loaded. -/
def start (session : Session) (name : String) (slice : ℕ) (lines : List String) : User :=
  ⟨{ ofSession session name with slice },lines⟩

theorem start_live {refuses : UInt32 → Bool} {image : List UInt8} {program : Array UInt32}
    (hdecode : Image.decode image = .ok program) {session : Session}
    (hload : Session.handle { refuses } (.loadProgram image) = (.ok (),session)) (name : String)
    (slice : ℕ) (lines : List String) :
    (start session name slice lines).Live (.ofProgram refuses program) ∧
      (start session name slice lines).terminal.log =
        Scrollback.pushAll {} [.notice "*** PROGRAM LOADED ***"] := by
  have htended := ofSession_tended (.inr ⟨image,hload⟩) name slice
  obtain ⟨decoded,hd,rfl⟩ := Session.handle_loadProgram_iff.mp hload
  obtain rfl : program = decoded := Except.ok.inj (hdecode.symm.trans hd)
  exact ⟨⟨htended,rfl,rfl,.inl rfl⟩,rfl⟩

end User

open User

/-- The user types the given lines, one each time that the program waits, and ends the input after them. If
the program comes to an end, then the log is that of the conversation with it, after the notice that it
was loaded. With any other slices the program ends too, and the log is the same. -/
theorem transcript_exact {refuses : UInt32 → Bool} {image : List UInt8} {program : Array UInt32}
    (hdecode : Image.decode image = .ok program) {session : Session}
    (hload : Session.handle { refuses } (.loadProgram image) = (.ok (),session)) (name : String)
    (lines : List String) {slice n : ℕ}
    (hend : (User.act^[n] (start session name slice lines)).Ended) :
    let t := (User.act^[n] (start session name slice lines)).terminal
    (∃ entries result, Converses (.ofProgram refuses program) (lines.map lineOf) entries result) ∧
    (∀ entries result, Converses (.ofProgram refuses program) (lines.map lineOf) entries result →
      t.status = .ofResult result ∧
      t.log = Scrollback.pushAll {} (.notice "*** PROGRAM LOADED ***"::entries)) ∧
    ∀ slice', 0 < slice' →
      (∃ k, (User.act^[k] (start session name slice' lines)).Ended) ∧
      ∀ k, (User.act^[k] (start session name slice' lines)).Ended →
        (User.act^[k] (start session name slice' lines)).terminal.status = t.status ∧
        (User.act^[k] (start session name slice' lines)).terminal.log = t.log := by
  intro t
  obtain ⟨hlive,hlog⟩ := start_live hdecode hload name slice lines
  obtain ⟨entries,result,hconverses,hstatus,hlog'⟩ := hlive.converses hend
  have hentries : t.log = Scrollback.pushAll {} (.notice "*** PROGRAM LOADED ***"::entries) := by
    rw [hlog',hlog]
    rfl
  refine ⟨⟨entries,result,hconverses⟩,?_,?_⟩
  · intro entries' result' hconverses'
    obtain ⟨rfl,rfl⟩ := hconverses.unique hconverses'
    exact ⟨hstatus,hentries⟩
  · intro slice' hslice'
    obtain ⟨hlive',hloaded⟩ := start_live hdecode hload name slice' lines
    obtain ⟨k,hk,hstatus',hlog''⟩ := User.Live.ends hconverses hlive' rfl hslice'
    refine ⟨⟨k,hk⟩,?_⟩
    intro k' hk'
    rw [hk'.unique hk,hstatus',hlog'',hloaded]
    exact ⟨hstatus.symm,hentries.symm⟩

/-- The program writes a prompt, reads a byte and writes it, and halts. The line that is typed follows the
prompt in the log, and the notice ends the line that the program has begun. -/
theorem transcript_exact_echo :
    let refuses : UInt32 → Bool := fun _ => false
    let program : Array UInt32 := #[0xd000003e,0xa0000000,0xb0000000,0xa0000000,0x70000000]
    let session : Session := ⟨refuses,some (.ofProgram refuses program),⟨[.programLoaded 5],none⟩⟩
    let user := User.act^[5] (start session "" 2 ["hi"])
    user.Ended ∧
    user.terminal.log.lines = ["*** PROGRAM LOADED ***",">hi","h","*** HALTED ***"] ∧
    ∃ k, (User.act^[k] (start session "" 1 ["hi"])).Ended ∧
      (User.act^[k] (start session "" 1 ["hi"])).terminal.log.lines =
        ["*** PROGRAM LOADED ***",">hi","h","*** HALTED ***"] := by
  intro refuses program session user
  have hdecode : Image.decode (Image.encode program) = .ok program := by cbv
  have hload : Session.handle { refuses } (.loadProgram (Image.encode program)) =
      (.ok (),session) :=
    Session.handle_loadProgram_iff.mpr ⟨program,hdecode,rfl⟩
  have hend : user.Ended := .inl (by simp only [user]; cbv)
  have hlines : user.terminal.log.lines =
      ["*** PROGRAM LOADED ***",">hi","h","*** HALTED ***"] := by
    simp only [user]
    cbv
  obtain ⟨⟨k,hk⟩,hsame⟩ := (transcript_exact hdecode hload "" ["hi"] hend).2.2 1 (by decide)
  refine ⟨hend,hlines,k,hk,?_⟩
  rw [(hsame k hk).2]
  exact hlines

end Terminal
end UniversalMachine
