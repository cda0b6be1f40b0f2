import Mathlib
import UniversalMachine.Console.Recorder
import UniversalMachine.Proofs.Emission

/-! A host that takes turns with a session until its program ends. It pumps with some budget, collects
the events or leaves them for later, and answers each suspension with the next of its lines, or with the
end of the input once they are used up. Whatever the budgets are, the session goes through the run of the
machine that has all of the lines at hand. -/
namespace UniversalMachine
open Machine

/-- The bytes that an event brings. -/
def Event.payload : Event → List UInt8
  | .print bytes => bytes.toList
  | _ => []

/-- The bytes that the program has written, as the events tell them. -/
def printed (events : List Event) : List UInt8 := events.flatMap Event.payload

@[simp] theorem printed_append (first later : List Event) :
    printed (first++later) = printed first++printed later := List.flatMap_append

theorem EventQueue.printed_print (queue : EventQueue) (byte : UInt8) :
    printed (queue.print byte).events = printed queue.events++[byte] := by
  unfold EventQueue.print
  split <;> simp [EventQueue.events, printed, Event.payload]

/-- A queue holds what a recorder has taken, behind bytes that were collected before. -/
def EventQueue.Records (before : List UInt8) (queue : EventQueue) (recorder : Recorder) : Prop :=
  before++printed queue.events = recorder.output.toList

theorem EventQueue.records_push {before : List UInt8} {queue : EventQueue} {recorder : Recorder}
    (h : queue.Records before recorder) {event : Event} (he : event.payload = []) :
    (queue.push event).Records before recorder := by
  simpa [Records, printed, he] using h

theorem EventQueue.records_withholds (before : List UInt8) :
    Withholds (EventQueue.Records before) where
  alike := {
    writeByte := by
      intro queue recorder h byte
      refine ⟨rfl,?_⟩
      have hp := queue.printed_print byte
      change before++printed (queue.print byte).events = (recorder.output.push byte).toList
      rw [hp,Array.toList_push,← h,List.append_assoc]
    announceHalt := fun h => ⟨rfl,records_push h rfl⟩
    reportFault := fun h _ => h }
  readLine := fun h => ⟨_,rfl,records_push h rfl⟩

/-- A session, the lines not yet handed to it, and the events collected from it. -/
structure Host where
  session : Session
  lines : List (List UInt8)
  collected : List Event := []

/-- How a host takes its turn: the budget, and whether it collects the events. -/
structure Turn where
  budget : ℕ
  collects : Bool

namespace Host

/-- All events so far. -/
def events (host : Host) : List Event := host.collected++host.session.queue.events

def collect (host : Host) : Host :=
  { host with session := host.session.drain.2, collected := host.collected++host.session.drain.1 }

def send (host : Host) (request : Request) : Host :=
  { host with session := (host.session.handle request).2 }

/-- Answers a program that waits. -/
def answer (host : Host) : Host :=
  match host.lines with
  | [] => host.send .endOfInput
  | line::lines => { host.send (.readLineDone line) with lines }

/-- The host after a pump, before it answers. -/
def pumped (host : Host) (turn : Turn) : Host :=
  let host := { host with session := (host.session.pump turn.budget).2 }
  if turn.collects then host.collect else host

def take (host : Host) (turn : Turn) : Host :=
  if (host.session.pump turn.budget).1 = .awaitingInput then (host.pumped turn).answer
  else host.pumped turn

/-- The host after so many turns. -/
def after (host : Host) (turns : ℕ → Turn) : ℕ → Host
  | 0 => host
  | n+1 => (host.take (turns 0)).after (fun i => turns (i+1)) n

theorem pumped_spec (host : Host) (turn : Turn) :
    (host.pumped turn).session.machine = (host.session.pump turn.budget).2.machine ∧
    (host.pumped turn).lines = host.lines ∧
    (host.pumped turn).events =
      host.collected++(host.session.pump turn.budget).2.queue.events := by
  unfold pumped
  cases turn.collects with
  | false => exact ⟨rfl,rfl,rfl⟩
  | true => exact ⟨rfl,rfl,by simp [collect, events, Session.drain, EventQueue.events]⟩

/-- The number of suspensions that the host will still have to answer, at most. -/
def waits (host : Host) (m : Machine) : ℕ := if m.inputClosed then 0 else host.lines.length+1

/-- An answer moves a line from the host to the machine, or closes its input, and is one less to give. -/
theorem answer_spec {host : Host} {m : Machine} (hm : host.session.machine = some m)
    (ho : m.inputClosed = false) :
    ∃ m', host.answer.session.machine = some m' ∧ m'.state = m.state ∧
      m'.supply host.answer.lines.flatten = m.supply host.lines.flatten ∧
      m'.Expects host.answer.lines.flatten ∧ host.answer.events = host.events ∧
      host.answer.waits m' < host.waits m := by
  cases hl : host.lines with
  | nil =>
    have hlines : host.answer.lines = [] := by simp [answer, hl, send, Session.handle, hm]
    refine ⟨m.closeInput,?_,rfl,?_,fun _ => by simp [hlines],?_,?_⟩
    · simp [answer, hl, send, Session.handle, hm]
    · rw [hlines]
      rfl
    · simp [answer, hl, send, Session.handle, hm, events]
    · simp [waits, ho, closeInput]
  | cons line lines =>
    have hlines : host.answer.lines = lines := by simp [answer, hl]
    have ho' : (m.pushInput line).inputClosed = false := ho
    refine ⟨m.pushInput line,?_,rfl,?_,?_,?_,?_⟩
    · simp [answer, hl, send, Session.handle, hm]
    · rw [hlines,supply_pushInput]
      rfl
    · intro hc
      rw [ho'] at hc
      cases hc
    · simp [answer, hl, send, Session.handle, hm, events]
    · simp [waits, ho, ho', hlines, hl]

/-- The host of a machine that goes on, and a recorder of its output so far. -/
structure Follows (host : Host) (m : Machine) (recorder : Recorder) : Prop where
  machine : host.session.machine = some m
  goesOn : m.state = .ready ∨ ∃ r, m.state = .awaitingInput r
  expects : m.Expects host.lines.flatten
  output : printed host.events = recorder.output.toList

/-- The host of a machine that has come to the end of the run `y`. -/
structure Finished (host : Host) (m : Machine) (y : Run Recorder) : Prop where
  machine : host.session.machine = some m
  supply : ∃ rest, y.machine = m.supply rest
  output : printed host.events = y.console.output.toList
  ending : (y.result = .ok .halted ∧ m.state = .halted) ∨
    ∃ fault snapshot, y.result = .error fault ∧ m.state = .faulted fault ∧
      .fault fault snapshot ∈ host.events

/-- Where a turn leaves the host, next to a run `y` of the machine that has all of the lines at hand. -/
inductive Progress (host : Host) (m : Machine) (y : Run Recorder) (next : Host) : Prop
  | finished {m'} (result : y.result ≠ .ok .paused) (finished : next.Finished m' y)
  | paused {m'} (result : y.result = .ok .paused)
      (machine : y.machine = m'.supply next.lines.flatten) (follows : next.Follows m' y.console)
      (fewer : next.waits m' ≤ host.waits m)
  /-- The host has used up one of its answers. -/
  | answered {m' recorder left} (run : y = (m'.supply next.lines.flatten).runFor left recorder)
      (follows : next.Follows m' recorder) (fewer : next.waits m' < host.waits m)

section Turn
variable {host : Host} {m : Machine} {recorder : Recorder} {turn : Turn} {status : Session.Status}
  {session : Session}

theorem take_of_ne (hp : host.session.pump turn.budget = (status,session))
    (hs : status ≠ .awaitingInput) :
    (host.take turn).session.machine = session.machine ∧ (host.take turn).lines = host.lines ∧
      (host.take turn).events = host.collected++session.queue.events := by
  have h := host.pumped_spec turn
  simp only [hp] at h
  simpa only [take, hp, hs, if_false] using h

theorem take_of_awaitingInput (hp : host.session.pump turn.budget = (.awaitingInput,session)) :
    host.take turn = (host.pumped turn).answer := by
  simp only [take, hp, if_true]

theorem Follows.pump (h : host.Follows m recorder) (budget : ℕ) :
    host.session.pump budget =
      Session.settle host.session.refuses (m.runFor budget host.session.queue) := by
  refine Session.pump_eq h.machine ?_ budget
  intro fault hf
  rcases h.goesOn with hs | ⟨r,hs⟩ <;> rw [hf] at hs <;> cases hs

/-- A run that is not suspended ends or pauses with the run that has all of the lines at hand. -/
theorem Follows.take_of_matches (h : host.Follows m recorder) {y : Run Recorder}
    (hy : y.result ≠ .ok .awaitingInput)
    (hm : Run.Matches (EventQueue.Records (printed host.collected)) host.lines.flatten
      (m.runFor turn.budget host.session.queue) y) :
    host.Progress m y (host.take turn) := by
  have hpump := h.pump turn.budget
  have htells := m.runFor_tells turn.budget host.session.queue
  have hclosed : m.inputClosed = true → _ :=
    fun hc => (runFor_closed hc turn.budget host.session.queue).2
  generalize m.runFor turn.budget host.session.queue = x at hm hpump htells hclosed
  obtain ⟨result,m',queue⟩ := x
  obtain ⟨hresult,hmachine,hout,hexp⟩ := hm
  dsimp only at hresult hmachine hout hexp htells hclosed
  rw [hresult] at hy
  have hprinted : printed (host.collected++queue.events) = y.console.output.toList := by
    rw [printed_append]
    exact hout
  cases htells with
  | halted hs =>
    obtain ⟨htm,_,hte⟩ := take_of_ne hpump (by simp)
    refine .finished (by simp [hresult]) ⟨htm,⟨_,hmachine⟩,?_,.inl ⟨hresult,hs⟩⟩
    rw [hte]
    exact hprinted
  | @fault _ fault hs =>
    obtain ⟨htm,_,hte⟩ := take_of_ne hpump (by simp)
    have hevents : (host.take turn).events =
        host.collected++queue.events++[.fault fault (queue.report.getD m'.snapshot)] := by
      rw [hte,EventQueue.events_push,← List.append_assoc]
      rfl
    have hmem : .fault fault (queue.report.getD m'.snapshot) ∈ (host.take turn).events := by
      rw [hevents]
      exact List.mem_append_right _ (List.mem_singleton_self _)
    refine .finished (by simp [hresult]) ⟨htm,⟨_,hmachine⟩,?_,.inr ⟨fault,_,hresult,hs,hmem⟩⟩
    rw [hevents,printed_append,hprinted]
    simp [printed, Event.payload]
  | awaitingInput => exact absurd rfl hy
  | paused hs =>
    obtain ⟨htm,htl,hte⟩ := take_of_ne hpump (by simp)
    refine .paused hresult (by rw [htl]; exact hmachine) ⟨htm,.inl hs,?_,?_⟩ ?_
    · rw [htl]
      exact hexp
    · rw [hte]
      exact hprinted
    · unfold waits
      rw [htl]
      cases hc : m.inputClosed with
      | false => split <;> simp
      | true => simp [hclosed hc]

/-- A suspended run is answered, and goes on as the run that has all of the lines at hand does. -/
theorem Follows.take_of_waits (h : host.Follows m recorder) {y : Run Recorder}
    (hw : Run.Waits (EventQueue.Records (printed host.collected)) host.lines.flatten
      (m.runFor turn.budget host.session.queue) y) :
    host.Progress m y (host.take turn) := by
  have hpump := h.pump turn.budget
  have htells := m.runFor_tells turn.budget host.session.queue
  have hopen : m.inputClosed = false := by
    by_contra hc
    exact (runFor_closed (by simpa using hc) turn.budget host.session.queue).1 hw.result
  generalize m.runFor turn.budget host.session.queue = x at hw hpump htells
  obtain ⟨result,m',queue⟩ := x
  obtain ⟨hresult,hexp,left,recorder',hout,hy⟩ := hw
  dsimp only at hresult hexp hout hy htells
  subst hresult
  obtain ⟨hpm,hpl,hpe⟩ := host.pumped_spec turn
  rw [hpump] at hpm hpe
  cases htells with
  | @awaitingInput _ r hs _ hc =>
  obtain ⟨m'',ham,hstate,hsupply,hexp',hevents,hfewer⟩ := answer_spec hpm hc
  rw [← take_of_awaitingInput hpump] at ham hsupply hexp' hevents hfewer
  rw [hpl] at hsupply
  have hrun : y = (m''.supply (host.take turn).lines.flatten).runFor left recorder' := by
    rw [hsupply]
    exact hy
  have hprinted : printed (host.take turn).events = recorder'.output.toList := by
    rw [hevents,hpe,printed_append]
    exact hout
  have hwaits : (host.pumped turn).waits m' = host.waits m := by simp [waits, hc, hopen, hpl]
  refine .answered hrun ⟨ham,.inr ⟨r,hstate.trans hs⟩,hexp',hprinted⟩ ?_
  rw [← hwaits]
  exact hfewer

theorem Follows.progress (h : host.Follows m recorder) (turn : Turn) :
    host.Progress m ((m.supply host.lines.flatten).runFor turn.budget recorder)
      (host.take turn) := by
  have hrecords : host.session.queue.Records (printed host.collected) recorder := by
    have hout := h.output
    rwa [events,printed_append] at hout
  rcases runFor_withholds (EventQueue.records_withholds _) hrecords h.expects turn.budget with hm | hw
  · exact h.take_of_matches (runFor_closed rfl turn.budget recorder).1 hm
  · exact h.take_of_waits hw

theorem Finished.take {y : Run Recorder} (h : host.Finished m y) (turn : Turn) :
    (host.take turn).Finished m y := by
  have hpump : ∃ status, status ≠ .awaitingInput ∧
      host.session.pump turn.budget = (status,host.session) := by
    obtain ⟨⟨refuses,machine,queue⟩,lines,collected⟩ := host
    have hm : machine = some m := h.machine
    subst hm
    rcases h.ending with ⟨_,hs⟩ | ⟨fault,_,_,hs,_⟩
    · exact ⟨.halted,by simp,by simp [Session.pump, hs, runFor, enter, Session.settle]⟩
    · exact ⟨.faulted,by simp,by simp [Session.pump, hs]⟩
  obtain ⟨status,hs,hp⟩ := hpump
  obtain ⟨hm,_,he⟩ := take_of_ne hp hs
  have hevents : (host.take turn).events = host.events := he
  refine ⟨hm.trans h.machine,h.supply,?_,?_⟩
  · rw [hevents]
    exact h.output
  · rw [hevents]
    exact h.ending

end Turn

section Run
variable {host : Host} {m : Machine} {recorder : Recorder}

theorem Finished.after {y : Run Recorder} (h : host.Finished m y) (turns : ℕ → Turn) (n : ℕ) :
    (host.after turns n).Finished m y := by
  induction n generalizing host turns with
  | zero => exact h
  | succ n ih => exact ih (h.take (turns 0)) fun i => turns (i+1)

/-- At every point a session goes on, or it has come to the end of the run that has all of the lines at
hand. -/
theorem Follows.after (h : host.Follows m recorder) (turns : ℕ → Turn) (n : ℕ) :
    (∃ m' recorder', (host.after turns n).Follows m' recorder') ∨
    ∃ m' y, (m.supply host.lines.flatten).Ends recorder y ∧
      (host.after turns n).Finished m' y := by
  induction n generalizing host m recorder turns with
  | zero => exact .inl ⟨m,recorder,h⟩
  | succ n ih =>
    have hprogress := h.progress (turns 0)
    have hends := (m.supply host.lines.flatten).ends_resume (turns 0).budget recorder
    cases hprogress with
    | finished hr hf => exact .inr ⟨_,_,ends_iff.mpr ⟨_,rfl,hr⟩,hf.after _ n⟩
    | paused _ hm hf =>
      rcases ih hf fun i => turns (i+1) with hgoes | ⟨m',y,hy,hfinished⟩
      · exact .inl hgoes
      · rw [← hm] at hy
        exact .inr ⟨m',y,(hends y).mpr hy,hfinished⟩
    | answered hrun hf =>
      rcases ih hf fun i => turns (i+1) with hgoes | ⟨m',y,hy,hfinished⟩
      · exact .inl hgoes
      · exact .inr ⟨m',y,(ends_congr hrun y).mpr hy,hfinished⟩

/-- With budgets that are never 0, the session comes to the end of the run that has all of the lines at
hand, if that run has one. -/
theorem Follows.reaches_end (h : host.Follows m recorder) {turns : ℕ → Turn}
    (hb : ∀ n, 0 < (turns n).budget) {y : Run Recorder}
    (hy : (m.supply host.lines.flatten).Ends recorder y) :
    ∃ n m', (host.after turns n).Finished m' y := by
  obtain ⟨budget,hrun,hn⟩ := ends_iff.mp hy
  clear hy
  generalize hw : host.waits m = w
  -- first the answers still to give, then the instructions up to the next suspension
  induction w using Nat.strong_induction_on generalizing host m recorder turns budget with
  | _ w ihw =>
    induction budget using Nat.strong_induction_on generalizing host m recorder turns with
    | _ budget ihb =>
      have hlater : ∀ n, 0 < (turns (n+1)).budget := fun n => hb (n+1)
      have hends := ends_iff.mpr ⟨budget,hrun,hn⟩
      have hprogress := h.progress (turns 0)
      cases hprogress with
      | finished hr hf =>
        have hsame := Ends.unique (ends_iff.mpr ⟨_,rfl,hr⟩) hends
        rw [hsame] at hf
        exact ⟨1,_,hf⟩
      | paused hp hm hf hfewer =>
        obtain ⟨hlt,hresume⟩ := resume_of_paused hp (by rw [hrun]; exact hn)
        rw [Run.resume,hm,hrun] at hresume
        rcases hfewer.lt_or_eq with hfewer | hsame
        · obtain ⟨n,m',hf⟩ := ihw _ (hw ▸ hfewer) hf hlater _ hresume rfl
          exact ⟨n+1,m',hf⟩
        · have hpos := hb 0
          obtain ⟨n,m',hf⟩ := ihb _ (by omega) hf hlater hresume (hsame.trans hw)
          exact ⟨n+1,m',hf⟩
      | answered hr hf hfewer =>
        obtain ⟨left,hleft,_⟩ := ends_iff.mp ((ends_congr hr y).mp hends)
        obtain ⟨n,m',hf⟩ := ihw _ (hw ▸ hfewer) hf hlater left hleft rfl
        exact ⟨n+1,m',hf⟩

end Run
end Host
end UniversalMachine
