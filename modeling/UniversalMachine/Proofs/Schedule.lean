import Mathlib
import UniversalMachine.Proofs.Protocol
import UniversalMachine.Proofs.Twins

/-! When a host pumps a session, and when it drains it, does not change what the session tells. The end
of a slice and a drain may cut a print in two. Up to such cuts, the events are those of one pump with all
of the budgets. -/
namespace UniversalMachine
open Machine

namespace Event

/-- Puts an event before others. Bytes join the bytes that follow them. -/
def join : Event → List Event → List Event
  | .print bytes,.print more::rest => .print (bytes++more)::rest
  | event,rest => event::rest

/-- Joins adjacent prints. -/
def merge (events : List Event) : List Event := events.foldr join []

theorem join_join (bytes more : Array UInt8) (rest : List Event) :
    join (.print bytes) (join (.print more) rest) = join (.print (bytes++more)) rest := by
  cases rest with
  | nil => rfl
  | cons next rest => cases next <;> simp [join]

theorem foldr_join (event : Event) (rest later : List Event) :
    (join event rest).foldr join later = join event (rest.foldr join later) := by
  cases event with
  | print bytes =>
    cases rest with
    | nil => rfl
    | cons next rest =>
      cases next with
      | print more => exact (join_join bytes more _).symm
      | _ => rfl
  | _ => rfl

theorem foldr_merge (events later : List Event) :
    (merge events).foldr join later = events.foldr join later := by
  induction events with
  | nil => rfl
  | cons event events ih =>
    change (join event (merge events)).foldr join later = _
    rw [foldr_join,ih,List.foldr_cons]

/-- Events that are the same up to cuts stay so when others follow. -/
theorem merge_congr {first second : List Event} (h : merge first = merge second)
    (later : List Event) : merge (first++later) = merge (second++later) := by
  unfold merge
  rw [List.foldr_append,List.foldr_append,← foldr_merge first,h,foldr_merge second]

theorem join_eq_cons {event : Event} {rest : List Event}
    (h : ∀ next ∈ rest.head?, ¬ (event.IsPrint ∧ next.IsPrint)) :
    join event rest = event::rest := by
  cases rest with
  | nil => cases event <;> rfl
  | cons next rest =>
    cases event with
    | print bytes =>
      cases next with
      | print more => exact absurd ⟨trivial,trivial⟩ (h _ rfl)
      | _ => rfl
    | _ => rfl

end Event

open Event

theorem Coalesced.merge_eq {events : List Event} (h : Coalesced events) : merge events = events := by
  have hapart := h.apart
  clear h
  induction events with
  | nil => rfl
  | cons event rest ih =>
    obtain ⟨hhead,htail⟩ := List.isChain_cons.mp hapart
    change join event (merge rest) = _
    rw [ih htail,join_eq_cons hhead]

namespace EventQueue

/-- A byte that joins a print is a print of its own, up to cuts. -/
theorem merge_print (drained : List Event) (queue : EventQueue) (byte : UInt8) :
    merge (drained++(queue.print byte).events) = merge (drained++queue.events++[.print #[byte]]) := by
  rcases queue.print_cases byte with ⟨bytes,older,hq,hp⟩ | ⟨_,hp⟩
  · simp [events, hq, hp, merge, join]
  · simp [events, hp]

/-- A queue, behind what was drained before, holds the events of another one, up to cuts. -/
structure Recuts (drained : List Event) (queue whole : EventQueue) : Prop where
  events : merge (drained++queue.events) = merge whole.events
  report : queue.report = whole.report

theorem Recuts.push {drained : List Event} {queue whole : EventQueue} (h : Recuts drained queue whole)
    (event : Event) : Recuts drained (queue.push event) (whole.push event) := by
  refine ⟨?_,h.report⟩
  rw [events_push,events_push,← List.append_assoc]
  exact merge_congr h.events [event]

theorem Recuts.print {drained : List Event} {queue whole : EventQueue} (h : Recuts drained queue whole)
    (byte : UInt8) : Recuts drained (queue.print byte) (whole.print byte) := by
  have hreport : ∀ q : EventQueue, (q.print byte).report = q.report := by
    intro q
    unfold EventQueue.print
    split <;> rfl
  refine ⟨?_,by rw [hreport,hreport,h.report]⟩
  have hwhole := whole.merge_print [] byte
  rw [List.nil_append,List.nil_append] at hwhole
  rw [merge_print,hwhole]
  exact merge_congr h.events [.print #[byte]]

/-- Queues related by `R` answer alike. They hold the same report, and stay related when it becomes an
event. -/
structure Settles (R : EventQueue → EventQueue → Prop) : Prop extends Twins R where
  report : ∀ {queue other}, R queue other → queue.report = other.report
  clear : ∀ {queue other}, R queue other →
    R { queue with report := none } { other with report := none }
  push : ∀ {queue other}, R queue other → ∀ event, R (queue.push event) (other.push event)

theorem recuts_settles (drained : List Event) : Settles (Recuts drained) where
  readLine h := ⟨rfl,h.push .readLine⟩
  writeByte h byte := ⟨rfl,h.print byte⟩
  announceHalt h := ⟨rfl,h.push .halted⟩
  reportFault h _ := ⟨h.events,rfl⟩
  report h := h.report
  clear h := ⟨h.events,rfl⟩
  push h event := h.push event

end EventQueue

namespace Session

/-- A session, behind what was drained from it, tells what another one does, up to cuts. -/
structure Recuts (drained : List Event) (session whole : Session) : Prop where
  refuses : session.refuses = whole.refuses
  machine : session.machine = whole.machine
  queue : session.queue.Recuts drained whole.queue

/-- A pump leaves a session with this machine as it is, or it is a run of the machine. -/
inductive Pumping (refuses : UInt32 → Bool) (machine : Option Machine) : Prop
  | idle (status : Status)
      (pump : ∀ queue budget,
        Session.pump ⟨refuses,machine,queue⟩ budget = (status,⟨refuses,machine,queue⟩))
      (stop : ∀ queue fuel,
        pumpUntilStop? ⟨refuses,machine,queue⟩ fuel = some (status,⟨refuses,machine,queue⟩))
  | works (m : Machine)
      (pump : ∀ queue budget,
        Session.pump ⟨refuses,machine,queue⟩ budget = settle refuses (m.runFor budget queue))
      (stop : ∀ queue fuel,
        pumpUntilStop? ⟨refuses,machine,queue⟩ fuel = (m.run? fuel queue).map (settle refuses))

theorem pumping (refuses : UInt32 → Bool) (machine : Option Machine) : Pumping refuses machine := by
  cases machine with
  | none => exact .idle _ (fun _ _ => rfl) fun _ _ => rfl
  | some m =>
    cases hs : m.state with
    | faulted fault =>
      refine .idle .faulted ?_ ?_
      · intro queue budget
        simp only [pump, hs]
      · intro queue fuel
        simp only [pumpUntilStop?, hs]
    | _ =>
      refine .works m ?_ ?_
      · intro queue budget
        simp only [pump, hs]
      · intro queue fuel
        simp only [pumpUntilStop?, hs]

/-- Two pumps that return the same, and leave the same machine and queues related by `R`. -/
structure Pumped (R : EventQueue → EventQueue → Prop) (x y : Status × Session) : Prop where
  status : x.1 = y.1
  refuses : x.2.refuses = y.2.refuses
  machine : x.2.machine = y.2.machine
  queue : R x.2.queue y.2.queue

section Settles
variable {R : EventQueue → EventQueue → Prop} (hR : EventQueue.Settles R)
include hR

theorem settle_pumped (refuses : UInt32 → Bool) {x y : Run EventQueue} (h : Run.Same R x y) :
    Pumped R (settle refuses x) (settle refuses y) := by
  obtain ⟨result,m,queue⟩ := x
  obtain ⟨result',m',other⟩ := y
  obtain ⟨rfl,rfl,hq⟩ := h
  cases result' with
  | ok outcome => cases outcome <;> exact ⟨rfl,rfl,rfl,hq⟩
  | error fault =>
    -- both have the report of the same fault
    have hreport : queue.report = other.report := hR.report hq
    refine ⟨rfl,rfl,rfl,?_⟩
    simp only [settle, hreport]
    exact hR.push (hR.clear hq) _

theorem pump_pumped {queue other : EventQueue} (hq : R queue other) (refuses : UInt32 → Bool)
    (machine : Option Machine) (budget : ℕ) :
    Pumped R (pump ⟨refuses,machine,queue⟩ budget) (pump ⟨refuses,machine,other⟩ budget) := by
  cases pumping refuses machine with
  | idle status hpump =>
    rw [hpump,hpump]
    exact ⟨rfl,rfl,rfl,hq⟩
  | works m hpump =>
    rw [hpump,hpump]
    exact settle_pumped hR refuses (runFor_twins hR.toTwins hq m budget)

theorem pumpUntilStop?_pumped {queue other : EventQueue} (hq : R queue other)
    (refuses : UInt32 → Bool) (machine : Option Machine) (fuel : ℕ) :
    Option.Rel (Pumped R) (pumpUntilStop? ⟨refuses,machine,queue⟩ fuel)
      (pumpUntilStop? ⟨refuses,machine,other⟩ fuel) := by
  cases pumping refuses machine with
  | idle status _ hstop =>
    rw [hstop,hstop]
    exact .some ⟨rfl,rfl,rfl,hq⟩
  | works m _ hstop =>
    have hrun := run?_twins hR.toTwins hq m fuel
    rw [hstop,hstop]
    generalize m.run? fuel queue = x at hrun ⊢
    generalize m.run? fuel other = y at hrun ⊢
    cases hrun with
    | none => exact .none
    | some h => exact .some (settle_pumped hR refuses h)

end Settles

theorem Recuts.pump {drained : List Event} {session whole : Session}
    (h : Recuts drained session whole) (budget : ℕ) :
    (session.pump budget).1 = (whole.pump budget).1 ∧
      Recuts drained (session.pump budget).2 (whole.pump budget).2 := by
  obtain ⟨refuses,machine,queue⟩ := session
  obtain ⟨refuses',machine',queue'⟩ := whole
  obtain ⟨rfl,rfl,hq⟩ := h
  obtain ⟨hstatus,hrefuses,hmachine,hqueue⟩ :=
    pump_pumped (EventQueue.recuts_settles drained) hq refuses machine budget
  exact ⟨hstatus,hrefuses,hmachine,hqueue⟩

theorem Recuts.drain {drained : List Event} {session whole : Session}
    (h : Recuts drained session whole) : Recuts (drained++session.drain.1) session.drain.2 whole := by
  refine ⟨h.refuses,h.machine,?_,h.queue.report⟩
  have hevents := h.queue.events
  simpa [Session.drain, EventQueue.events] using hevents

/-- A machine that a run has left is pumped by running it on. -/
theorem settle_pump (refuses : UInt32 → Bool) {r : Run EventQueue} (h : Tells r.result r.machine)
    (later : ℕ) : (settle refuses r).2.pump later = settle refuses (r.resume later) := by
  obtain ⟨result,m,queue⟩ := r
  dsimp only at h
  cases h with
  | paused hs => exact pump_eq rfl (by simp [hs]) later
  | halted hs => exact pump_eq rfl (by simp [hs]) later
  | awaitingInput hs => exact pump_eq rfl (by simp [hs]) later
  | @fault _ fault hs =>
    -- the machine is left alone from now on
    have hstuck : Run.Stuck ⟨.error fault,m,queue⟩ := by simp [Run.Stuck, enter, hs]
    rw [hstuck.resume later]
    simp only [settle, pump, hs]

/-- Two pumps in a row are one pump with both budgets. -/
theorem pump_pump (session : Session) (first later : ℕ) :
    (session.pump first).2.pump later = session.pump (first+later) := by
  obtain ⟨refuses,machine,queue⟩ := session
  cases pumping refuses machine with
  | idle status hpump => rw [hpump,hpump,hpump]
  | works m hpump => rw [hpump,hpump,← runFor_resume,settle_pump refuses (m.runFor_tells first queue)]

/-- A pump without a budget comes back as one with a budget that it does not use up. -/
theorem pumpUntilStop?_iff {session : Session} {budget : ℕ}
    (h : (session.pump budget).1 ≠ .running) (stopped : Status × Session) :
    (∃ fuel, session.pumpUntilStop? fuel = some stopped) ↔ stopped = session.pump budget := by
  obtain ⟨refuses,machine,queue⟩ := session
  cases pumping refuses machine with
  | idle status hpump hstop => simp [hpump, hstop, eq_comm]
  | works m hpump hstop =>
    rw [hpump] at h ⊢
    have hp : (m.runFor budget queue).result ≠ .ok .paused := by
      intro hp
      exact h (by simp [settle, hp])
    simp only [hstop, Option.map_eq_some_iff]
    constructor
    · rintro ⟨fuel,r,hr,rfl⟩
      have hends : m.Ends queue (m.runFor budget queue) := ends_iff.mpr ⟨budget,rfl,hp⟩
      rw [Ends.unique ⟨fuel,hr⟩ hends]
    · rintro rfl
      exact ⟨budget,_,run?_eq_some_iff.mpr ⟨rfl,hp⟩,rfl⟩

end Session

namespace Schedule

/-- What a host does with a session that it lets run. -/
inductive Move where
  | pump (budget : ℕ)
  | drain

/-- A session, what its last pump returned, and everything drained from it. -/
structure Watch where
  session : Session
  status : Option Session.Status := none
  drained : List Event := []

def Watch.take (watch : Watch) : Move → Watch
  | .pump budget =>
    { watch with
      session := (watch.session.pump budget).2
      status := some (watch.session.pump budget).1 }
  | .drain =>
    { watch with session := watch.session.drain.2, drained := watch.drained++watch.session.drain.1 }

/-- The budgets of the pumps. -/
def budgets (moves : List Move) : List ℕ :=
  moves.filterMap fun
    | .pump budget => some budget
    | .drain => none

/-- Drains between the pumps change nothing but the cuts. -/
theorem foldl_take_recuts {watch whole : Watch} (hs : watch.status = whole.status)
    (h : Session.Recuts watch.drained watch.session whole.session) (moves : List Move) :
    (moves.foldl Watch.take watch).status =
        (((budgets moves).map Move.pump).foldl Watch.take whole).status ∧
      Session.Recuts (moves.foldl Watch.take watch).drained (moves.foldl Watch.take watch).session
        (((budgets moves).map Move.pump).foldl Watch.take whole).session := by
  induction moves generalizing watch whole with
  | nil => exact ⟨hs,h⟩
  | cons move moves ih =>
    cases move with
    | pump budget =>
      obtain ⟨hstatus,hsession⟩ := h.pump budget
      exact ih (congrArg some hstatus) hsession
    | drain => exact ih hs h.drain

theorem foldl_take_pump (watch : Watch) (first : ℕ) (later : List ℕ) :
    ((first::later).map Move.pump).foldl Watch.take watch =
      { watch with
        session := (watch.session.pump (first+later.sum)).2
        status := some (watch.session.pump (first+later.sum)).1 } := by
  induction later generalizing first with
  | nil => rfl
  | cons budget later ih =>
    have hjoin : (watch.take (.pump first)).take (.pump budget) =
        watch.take (.pump (first+budget)) := by
      simp only [Watch.take, Session.pump_pump]
    have hadd : first+(budget::later).sum = first+budget+later.sum := by
      rw [List.sum_cons,Nat.add_assoc]
    simp only [List.map_cons, List.foldl_cons] at ih ⊢
    rw [hjoin,ih,hadd]

/-- Pumps and drains in any order lead a session to the machine and the status of one pump with all of
the budgets. What was drained, and what is left to drain, are the events of that pump once adjacent prints
are joined. If the last pump did not run out of its budget, the pump without a budget comes back, and is
that pump. -/
theorem schedule_invisible {refuses : UInt32 → Bool} {actions : List Protocol.Action}
    {session : Session} {batches : List (List Event)}
    (hreach : Protocol.Reaches ⟨{ refuses },[]⟩ actions ⟨session,batches⟩)
    {moves : List Move} (hmoves : budgets moves ≠ []) :
    let watch := moves.foldl Watch.take { session }
    let whole := session.pump (budgets moves).sum
    watch.status = some whole.1 ∧ watch.session.machine = whole.2.machine ∧
    merge (watch.drained++watch.session.drain.1) = whole.2.drain.1 ∧
    (watch.status ≠ some .running →
      ∀ stopped, (∃ fuel, session.pumpUntilStop? fuel = some stopped) ↔ stopped = whole) := by
  intro watch whole
  have hcoalesced : Coalesced session.queue.newest := (hreach.coalesced ⟨.nil,by simp⟩).1
  have hstart : Session.Recuts [] session session := ⟨rfl,rfl,rfl,rfl⟩
  have hsame : ({ session } : Watch).status = ({ session } : Watch).status := rfl
  obtain ⟨hstatus,hrecuts⟩ := foldl_take_recuts hsame hstart moves
  obtain ⟨first,later,hb⟩ := List.exists_cons_of_ne_nil hmoves
  have hpumped := foldl_take_pump { session } first later
  have hsum : (budgets moves).sum = first+later.sum := by rw [hb,List.sum_cons]
  rw [← hb,← hsum] at hpumped
  rw [hpumped] at hstatus hrecuts
  refine ⟨hstatus,hrecuts.machine,?_,?_⟩
  · have hwhole : Coalesced whole.2.queue.newest := Session.pump_coalesced hcoalesced _
    exact hrecuts.queue.events.trans hwhole.reverse.merge_eq
  · intro hrunning stopped
    refine Session.pumpUntilStop?_iff ?_ stopped
    intro hr
    exact hrunning (hstatus.trans (congrArg some hr))

/-- The program writes two bytes and reads. One drain comes between the bytes, and leaves two prints. -/
theorem schedule_invisible_greeting :
    let refuses : UInt32 → Bool := fun _ => false
    let program : Array UInt32 := #[0xd0000048,0xa0000000,0xa0000000,0xb0000000,0x70000000]
    let session : Session := ⟨refuses,some (.ofProgram refuses program),⟨[.programLoaded 5],none⟩⟩
    let moves : List Move := [.drain,.pump 2,.drain,.pump 1,.pump 9]
    let watch := moves.foldl Watch.take { session }
    (∃ actions batches, Protocol.Reaches ⟨{ refuses },[]⟩ actions ⟨session,batches⟩) ∧
    budgets moves ≠ [] ∧
    watch.drained++watch.session.drain.1 =
      [.programLoaded 5,.print #[72],.print #[72],.readLine] ∧
    merge (watch.drained++watch.session.drain.1) =
      [.programLoaded 5,.print #[72,72],.readLine] ∧
    watch.status = some .awaitingInput ∧
    ∃ fuel, session.pumpUntilStop? fuel = some (session.pump (budgets moves).sum) := by
  intro refuses program session moves watch
  have hdecode : Image.decode (Image.encode program) = .ok program := by cbv
  have hload : Session.handle { refuses } (.loadProgram (Image.encode program)) =
      (.ok (),session) :=
    Session.handle_loadProgram_iff.mpr ⟨program,hdecode,rfl⟩
  have hreach : Protocol.Reaches ⟨{ refuses },[]⟩
      [.accepted (.loadProgram (Image.encode program))] ⟨session,[]⟩ :=
    Protocol.Reaches.start.does (.accepted hload)
  have hmoves : budgets moves ≠ [] := by simp [budgets, moves]
  have hstatus : watch.status = some .awaitingInput := by cbv
  have hwhole : (session.pump (budgets moves).sum).2.drain.1 =
      [.programLoaded 5,.print #[72,72],.readLine] := by cbv
  obtain ⟨_,_,hmerge,hstop⟩ := schedule_invisible hreach hmoves
  refine ⟨⟨_,_,hreach⟩,hmoves,by cbv,hmerge.trans hwhole,hstatus,?_⟩
  exact (hstop (by rw [hstatus]; simp) _).mpr rfl

end Schedule
end UniversalMachine
