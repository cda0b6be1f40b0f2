import Mathlib
import UniversalMachine.Proofs.Hosting
import UniversalMachine.Proofs.Twins
import UniversalMachine.Terminal.Key

/-! What a slice of a program changes on the terminal. -/
namespace UniversalMachine
open Machine

namespace Scrollback

/-- Something that the log is given as a whole. -/
inductive Entry where
  | bytes (bytes : List UInt8)
  | notice (text : String)

def push (log : Scrollback) : Entry → Scrollback
  | .bytes bytes => log.pushBytes bytes
  | .notice text => log.pushNotice text

def pushAll (log : Scrollback) (entries : List Entry) : Scrollback := entries.foldl push log

theorem pushAll_append (log : Scrollback) (first later : List Entry) :
    log.pushAll (first++later) = (log.pushAll first).pushAll later := List.foldl_append

end Scrollback

theorem EventQueue.records_twins (before : List UInt8) : Twins (EventQueue.Records before) where
  toAlike := (EventQueue.records_withholds before).alike
  readLine h := ⟨rfl,EventQueue.records_push h rfl⟩

theorem Grows.isPrint {newest : List Event} (h : Grows [] newest) :
    ∀ event ∈ newest, event.IsPrint := by
  cases h with
  | nothing => simp
  | new => simp [Event.IsPrint]

namespace Machine

/-- The event that says why a run ended. A pause is not told. -/
def Run.closing {κ : Type} (r : Run κ) : List Event :=
  match r.result with
  | .ok .paused => []
  | .ok .awaitingInput => [.readLine]
  | .ok .halted => [.halted]
  | .error fault => [.fault fault r.machine.snapshot]

theorem Closing.closing_eq {κ : Type} {r : Run κ} {event : Event} (h : r.machine.Closing event)
    (ht : Tells r.result r.machine) : r.closing = [event] := by
  unfold Run.closing
  rw [ht.result_eq]
  cases h with
  | readLine waits =>
    obtain ⟨_,hs,_,_⟩ := waits
    rw [hs]
    rfl
  | halted hs =>
    rw [hs]
    rfl
  | fault hs =>
    rw [hs]
    rfl

/-- What the log shows of a run: all of its output, and a notice if it halted. -/
def Run.entries (r : Run Recorder) : List Scrollback.Entry :=
  .bytes r.console.output.toList::
    match r.result with
    | .ok .halted => [.notice "*** HALTED ***"]
    | _ => []

theorem Run.printed_closing {κ : Type} (r : Run κ) : printed r.closing = [] := by
  unfold Run.closing
  split <;> rfl

/-- After a drain, a pump tells of bytes and then, unless it pauses, why it ended. -/
theorem Emitted.split_closing {κ : Type} {r : Run κ} {newest : List Event}
    (h : Emitted [] r.machine newest) (ht : Tells r.result r.machine) :
    ∃ prints, (∀ event ∈ prints, event.IsPrint) ∧ newest.reverse = prints++r.closing := by
  cases h with
  | paused hg hs =>
    have hclosing : r.closing = [] := by
      unfold Run.closing
      rw [ht.result_eq,hs]
      rfl
    refine ⟨newest.reverse,?_,by rw [hclosing,List.append_nil]⟩
    exact fun event he => hg.isPrint event (List.mem_reverse.mp he)
  | @closed newest event hg hc =>
    refine ⟨newest.reverse,?_,by rw [hc.closing_eq ht,List.reverse_cons]⟩
    exact fun event he => hg.isPrint event (List.mem_reverse.mp he)

end Machine

namespace Session

theorem printed_settle (refuses : UInt32 → Bool) (x : Run EventQueue) :
    printed (settle refuses x).2.queue.events = printed x.console.events := by
  obtain ⟨result,m,queue⟩ := x
  cases result with
  | ok outcome => cases outcome <;> rfl
  | error fault => simp [settle, printed, Event.payload, EventQueue.events, EventQueue.push]

/-- A pump of a session that was drained tells the bytes that the program wrote, and why it ended. -/
theorem pump_drained {session : Session} {m n : Machine} (hm : session.machine = some m)
    (he : m.enter = .ready n) (hq : session.queue.newest = []) (budget : ℕ) :
    let r := m.runFor budget ({} : Recorder)
    (session.pump budget).2.machine = some r.machine ∧
    ∃ prints, (∀ event ∈ prints, event.IsPrint) ∧ printed prints = r.console.output.toList ∧
      (session.pump budget).2.queue.events = prints++r.closing := by
  intro r
  obtain ⟨hsame,hpump,hrun⟩ : Run.Same (EventQueue.Records []) (m.runFor budget session.queue) r ∧
      session.pump budget = settle session.refuses (m.runFor budget session.queue) ∧
      m.runFor budget session.queue = n.advance budget session.queue := by
    refine ⟨runFor_twins (EventQueue.records_twins []) ?_ m budget,pump_eq hm ?_ budget,?_⟩
    · simp [EventQueue.Records, EventQueue.events, hq, printed]
    · intro fault hs
      simp [enter, hs] at he
    · simp only [runFor, he]
  have hemitted : Emitted [] r.machine (session.pump budget).2.queue.newest := by
    rw [hsame.machine,hpump,hrun,← hq]
    exact (emitted_loop session.refuses session.queue.newest).advance ⟨enter_ready_state he,.nothing⟩ budget
  obtain ⟨prints,hprints,hevents⟩ := hemitted.split_closing (m.runFor_tells budget _)
  have hprinted : printed (session.pump budget).2.queue.events = r.console.output.toList := by
    rw [hpump,printed_settle]
    exact hsame.console
  have hmachine : (session.pump budget).2.machine = some r.machine := by
    rw [hpump,settle_machine,hsame.machine]
  refine ⟨hmachine,prints,hprints,?_,hevents⟩
  rw [← hprinted]
  change _ = printed (session.pump budget).2.queue.newest.reverse
  rw [hevents,printed_append,r.printed_closing,List.append_nil]

end Session

namespace Terminal

variable {t : Terminal}

/-- Bytes go to the log, and the console shows its end. -/
theorem foldl_absorb_prints {prints : List Event} (h : ∀ event ∈ prints, event.IsPrint)
    (t : Terminal) :
    ∃ scroll, prints.foldl absorb t =
      { t with log := t.log.pushBytes (printed prints), consoleScroll := scroll } := by
  induction prints generalizing t with
  | nil => exact ⟨t.consoleScroll,rfl⟩
  | cons event prints ih =>
    obtain ⟨hevent,hprints⟩ := List.forall_mem_cons.mp h
    cases event with
    | print bytes =>
      obtain ⟨scroll,hscroll⟩ := ih hprints (t.absorb (.print bytes))
      refine ⟨scroll,?_⟩
      rw [List.foldl_cons,hscroll]
      simp [absorb, printed, Event.payload]
    | _ => exact absurd hevent id

/-- What a slice changes on a terminal, when it lets the machine go through the run `r`. -/
structure Shows (t : Terminal) (r : Run Recorder) (t' : Terminal) : Prop where
  machine : t'.session.machine = some r.machine
  drained : t'.session.queue.newest = []
  status : t'.status = .ofState r.machine.state
  log : t'.log = t.log.pushAll r.entries
  inputEnabled : t'.inputEnabled = true ↔ t.inputEnabled = true ∨ r.result = .ok .awaitingInput
  fault : t'.fault =
    match r.result with
    | .ok _ => t.fault
    | .error fault => some (fault,r.machine.snapshot)
  input : t'.input = t.input
  slice : t'.slice = t.slice

theorem pump_shows {m n : Machine} (hm : t.session.machine = some m) (he : m.enter = .ready n)
    (hq : t.session.queue.newest = []) : Shows t (m.runFor t.slice {}) t.pump := by
  obtain ⟨hmachine,prints,hprints,hprinted,hevents⟩ := Session.pump_drained hm he hq t.slice
  have hstatus := t.session.pump_status t.slice
  rw [Session.status_of_machine hmachine] at hstatus
  unfold pump absorbAll
  simp only [Session.drain, hevents, List.foldl_append]
  obtain ⟨scroll,hscroll⟩ := foldl_absorb_prints hprints
    { t with
      status := (t.session.pump t.slice).1
      session := { (t.session.pump t.slice).2 with
        queue := { (t.session.pump t.slice).2.queue with newest := [] } } }
  rw [hscroll,hprinted]
  generalize m.runFor t.slice ({} : Recorder) = r at hmachine hstatus
  obtain ⟨result,m',recorder⟩ := r
  cases result with
  | error fault => exact ⟨hmachine,rfl,hstatus,rfl,by simp [Run.closing, absorb],rfl,rfl,rfl⟩
  | ok outcome =>
    cases outcome <;>
      exact ⟨hmachine,rfl,hstatus,rfl,by simp [Run.closing, absorb],rfl,rfl,rfl⟩

/-- The events that a slice shows. -/
def news (t : Terminal) : List Event := (t.session.pump t.slice).2.queue.events

theorem pump_eq_foldl (t : Terminal) :
    t.pump = t.news.foldl absorb
      { t with
        status := (t.session.pump t.slice).1
        session := { (t.session.pump t.slice).2 with
          queue := { (t.session.pump t.slice).2.queue with newest := [] } } } := rfl

/-- A slice that finds nothing to execute only looks at the status again. -/
theorem pump_idle (hq : t.session.queue.newest = [])
    (h : ∀ m n, t.session.machine = some m → m.enter ≠ .ready n) :
    t.pump = { t with status := t.session.status } := by
  have hsame : (t.session.pump t.slice).2 = t.session := by
    rcases t.session.pump_cases t.slice with hsame | ⟨m,n,hm,he,_⟩
    · exact hsame
    · exact absurd he (h m n hm)
  have hstatus := t.session.pump_status t.slice
  rw [hsame] at hstatus
  unfold pump absorbAll
  simp only [hsame, hstatus, Session.drain, EventQueue.events, hq, List.reverse_nil, List.foldl_nil]
  rw [← hq]

end Terminal
end UniversalMachine
