import Mathlib
import UniversalMachine.Proofs.Contact
import UniversalMachine.Proofs.Delivery
import UniversalMachine.Session.Basic

/-! What a pump adds to the events of a session: bytes that the program wrote, and behind them at most
one event of another kind, which says why the machine stopped. -/
namespace UniversalMachine
open Machine

/-- The event brings bytes. -/
def Event.IsPrint : Event → Prop
  | .print _ => True
  | _ => False

/-- A byte joins the newest print, or begins one behind an event of another kind. -/
theorem EventQueue.print_cases (queue : EventQueue) (byte : UInt8) :
    (∃ bytes older, queue.newest = .print bytes::older ∧
      (queue.print byte).newest = .print (bytes.push byte)::older) ∨
    ((∀ event ∈ queue.newest.head?, ¬ event.IsPrint) ∧
      (queue.print byte).newest = .print #[byte]::queue.newest) := by
  obtain ⟨newest,report⟩ := queue
  cases newest with
  | nil => exact .inr ⟨by simp,rfl⟩
  | cons event older =>
    cases event with
    | print bytes => exact .inl ⟨bytes,older,rfl,rfl⟩
    | _ => exact .inr ⟨by simp [Event.IsPrint],rfl⟩

/-- No print is empty, and no two of them are adjacent. -/
structure Coalesced (events : List Event) : Prop where
  nonempty : ∀ bytes, .print bytes ∈ events → bytes ≠ #[]
  apart : events.IsChain fun first next => ¬ (first.IsPrint ∧ next.IsPrint)

namespace Coalesced

theorem nil : Coalesced [] := ⟨by simp,by simp⟩

theorem reverse {events : List Event} (h : Coalesced events) : Coalesced events.reverse := by
  refine ⟨fun bytes hb => h.nonempty bytes (List.mem_reverse.mp hb),?_⟩
  rw [List.isChain_reverse]
  exact h.apart.imp fun _ _ hp ⟨hf,hn⟩ => hp ⟨hn,hf⟩

theorem cons {events : List Event} (h : Coalesced events) {event : Event}
    (he : ¬ event.IsPrint) : Coalesced (event::events) := by
  constructor
  · intro bytes hb
    rcases List.mem_cons.mp hb with rfl | hb
    · exact absurd trivial he
    · exact h.nonempty bytes hb
  · exact h.apart.cons fun _ _ hp => he hp.1

theorem print {queue : EventQueue} (h : Coalesced queue.newest) (byte : UInt8) :
    Coalesced (queue.print byte).newest := by
  rcases queue.print_cases byte with ⟨bytes,older,hq,hp⟩ | ⟨hhead,hp⟩
  · rw [hq] at h
    rw [hp]
    obtain ⟨hhead,htail⟩ := List.isChain_cons.mp h.apart
    constructor
    · intro other ho
      rcases List.mem_cons.mp ho with hsame | ho
      · cases hsame
        simp
      · exact h.nonempty other (List.mem_cons_of_mem _ ho)
    · exact htail.cons fun next hn hprints => hhead next hn ⟨trivial,hprints.2⟩
  · rw [hp]
    constructor
    · intro other ho
      rcases List.mem_cons.mp ho with hsame | ho
      · cases hsame
        simp
      · exact h.nonempty other ho
    · exact h.apart.cons fun next hn hprints => hhead next hn hprints.2

end Coalesced

/-- Bytes may have been written between two lists of events, the newest first: they joined the newest
print or began another one. -/
inductive Grows : List Event → List Event → Prop
  | nothing {newest} : Grows newest newest
  | more {bytes bytes' older} : Grows (.print bytes::older) (.print bytes'::older)
  | new {newest bytes} : Grows newest (.print bytes::newest)

namespace Grows

variable {newest newest' : List Event}

theorem print {queue : EventQueue} (h : Grows newest queue.newest) (byte : UInt8) :
    Grows newest (queue.print byte).newest := by
  rcases queue.print_cases byte with ⟨bytes,older,hq,hp⟩ | ⟨hhead,hp⟩
  · rw [hq] at h
    rw [hp]
    cases h with
    | nothing => exact .more
    | more => exact .more
    | new => exact .new
  · rw [hp]
    generalize queue.newest = newest' at h hhead
    cases h with
    | nothing => exact .new
    | more => exact absurd trivial (hhead _ rfl)
    | new => exact absurd trivial (hhead _ rfl)

theorem append (h : Grows newest newest') (older : List Event) :
    Grows (newest++older) (newest'++older) := by
  cases h with
  | nothing => exact .nothing
  | more => exact .more
  | new => exact .new

variable {event : Event} (he : ¬ event.IsPrint)
include he

/-- What lies behind an event of another kind stays as it is. -/
theorem of_append {rest older : List Event} (h : Grows (rest++event::older) newest') :
    ∃ rest', newest' = rest'++event::older ∧ Grows rest rest' := by
  generalize hn : rest++event::older = newest at h
  cases h with
  | nothing => exact ⟨rest,hn.symm,.nothing⟩
  | @new _ bytes => exact ⟨.print bytes::rest,by rw [← hn]; rfl,.new⟩
  | @more bytes bytes' _ =>
    cases rest with
    | nil =>
      cases hn
      exact absurd trivial he
    | cons first rest =>
      cases hn
      exact ⟨.print bytes'::rest,rfl,.more⟩

/-- An event of another kind was there before. -/
theorem split {later earlier : List Event} (h : Grows newest (later++event::earlier)) :
    ∃ later', newest = later'++event::earlier := by
  generalize hn : later++event::earlier = newest' at h
  cases h with
  | nothing => exact ⟨later,hn.symm⟩
  | new =>
    cases later with
    | nil =>
      cases hn
      exact absurd trivial he
    | cons first later =>
      cases hn
      exact ⟨later,rfl⟩
  | @more bytes _ _ =>
    cases later with
    | nil =>
      cases hn
      exact absurd trivial he
    | cons first later =>
      cases hn
      exact ⟨.print bytes::later,rfl⟩

end Grows

namespace Machine

/-- The machine cannot go on before input arrives or ends. -/
def Waits (m : Machine) : Prop :=
  ∃ r, m.state = .awaitingInput r ∧ m.input = [] ∧ m.inputClosed = false

/-- The event that says why a machine stopped. -/
inductive Closing (m : Machine) : Event → Prop
  | readLine (waits : m.Waits) : Closing m .readLine
  | halted (state : m.state = .halted) : Closing m .halted
  | fault {fault} (state : m.state = .faulted fault) (internal : fault.Internal) :
      Closing m (.fault fault m.snapshot)

/-- A machine that stopped and said why does not go on by itself. -/
theorem Closing.enter_ne_ready {m n : Machine} {event : Event} (h : m.Closing event) :
    m.enter ≠ .ready n := by
  cases h with
  | readLine waits =>
    obtain ⟨r,hs,hi,hc⟩ := waits
    simp [enter_of_waiting hs hi hc]
  | halted state => simp [enter, state]
  | fault state => simp [enter, state]

/-- Input changes nothing about the reason, unless the machine waited for it. -/
theorem Closing.pushInput {m : Machine} {event : Event} (h : m.Closing event)
    (bytes : List UInt8) :
    (m.pushInput bytes).Closing event ∨ (event = .readLine ∧ bytes ≠ []) := by
  cases h with
  | halted state => exact .inl (.halted state)
  | fault state internal => exact .inl (.fault (m := m.pushInput bytes) state internal)
  | readLine waits =>
    by_cases hb : bytes = []
    · obtain ⟨r,hs,hi,hc⟩ := waits
      exact .inl (.readLine ⟨r,hs,by simp [Machine.pushInput, hi, hb],hc⟩)
    · exact .inr ⟨rfl,hb⟩

theorem Closing.closeInput {m : Machine} {event : Event} (h : m.Closing event) :
    m.closeInput.Closing event ∨ event = .readLine := by
  cases h with
  | halted state => exact .inl (.halted state)
  | fault state internal => exact .inl (.fault (m := m.closeInput) state internal)
  | readLine => exact .inr rfl

/-- The events of a session, the newest first, after a pump that has left the machine `m`. -/
inductive Emitted (newest : List Event) (m : Machine) : List Event → Prop
  | paused {newest'} (grows : Grows newest newest') (state : m.state = .ready) :
      Emitted newest m newest'
  | closed {newest' event} (grows : Grows newest newest') (closing : m.Closing event) :
      Emitted newest m (event::newest')

theorem Emitted.append {newest newest' : List Event} {m : Machine} (h : Emitted newest m newest')
    (older : List Event) : Emitted (newest++older) m (newest'++older) := by
  cases h with
  | paused hg hs => exact .paused (hg.append older) hs
  | closed hg hc => exact .closed (hg.append older) hc

theorem Emitted.of_append {rest older newest' : List Event} {event : Event} {m : Machine}
    (he : ¬ event.IsPrint) (h : Emitted (rest++event::older) m newest') :
    ∃ rest', newest' = rest'++event::older ∧ Emitted rest m rest' := by
  cases h with
  | paused hg hs =>
    obtain ⟨rest',rfl,hg'⟩ := hg.of_append he
    exact ⟨rest',rfl,.paused hg' hs⟩
  | @closed _ closing hg hc =>
    obtain ⟨rest',rfl,hg'⟩ := hg.of_append he
    exact ⟨closing::rest',rfl,.closed hg' hc⟩

/-- An event of another kind than a print was there before, or it is the newest and closes the pump. -/
theorem Emitted.split {newest later earlier : List Event} {event : Event} {m : Machine}
    (he : ¬ event.IsPrint) (h : Emitted newest m (later++event::earlier)) :
    (∃ later', newest = later'++event::earlier) ∨ (later = [] ∧ m.Closing event) := by
  generalize hn : later++event::earlier = newest' at h
  cases h with
  | paused hg _ =>
    rw [← hn] at hg
    exact .inl (hg.split he)
  | closed hg hc =>
    cases later with
    | nil =>
      cases hn
      exact .inr ⟨rfl,hc⟩
    | cons first later =>
      cases hn
      exact .inl (hg.split he)

/-- What a step can do to the events of a session. -/
inductive Notes (queue : EventQueue) : Step → EventQueue → Prop
  | nothing : Notes queue .next queue
  | print (byte : UInt8) : Notes queue .next (queue.print byte)
  | halted : Notes queue .halted (queue.push .halted)
  | readLine : Notes queue .suspended (queue.push .readLine)
  | fault {fault} (internal : fault.Internal) : Notes queue (.fault fault) queue

theorem notes_of_step {m m' : Machine} {ending : Step} {queue queue' : EventQueue}
    (h : m.step queue = (ending,m',queue')) : Notes queue ending queue' := by
  have hcontact := contact_of_step h
  cases hcontact with
  | none => exact .nothing
  | fault internal => exact .fault internal
  | asked _ _ _ read _ waits =>
    cases read
    obtain rfl := waits rfl
    exact .readLine
  | wrote _ write =>
    cases write
    exact .print _
  | refused _ write => cases write
  | halted _ halt =>
    cases halt
    exact .halted
  | haltRefused halt => cases halt

theorem coalesced_loop (refuses : UInt32 → Bool) :
    Loop (fun _ (queue : EventQueue) => Coalesced queue.newest)
      fun r => Coalesced (Session.settle refuses r).2.queue.newest where
  paused h := h
  next := by
    intro m m' queue queue' h he
    cases notes_of_step he with
    | nothing => exact h
    | print byte => exact h.print byte
  halted := by
    intro m m' queue queue' h he
    cases notes_of_step he with
    | halted => exact h.cons id
  suspended := by
    intro m m' queue queue' h he
    cases notes_of_step he with
    | readLine => exact h.cons id
  fault := by
    intro m m' queue queue' fault h he
    cases notes_of_step he with
    | fault => exact h.cons id

theorem emitted_loop (refuses : UInt32 → Bool) (newest : List Event) :
    Loop (fun m (queue : EventQueue) => m.state = .ready ∧ Grows newest queue.newest)
      fun r => Emitted newest r.machine (Session.settle refuses r).2.queue.newest where
  paused h := .paused h.2 h.1
  next := by
    intro m m' queue queue' h he
    refine ⟨(transition_of_step he).state_of_next.trans h.1,?_⟩
    cases notes_of_step he with
    | nothing => exact h.2
    | print byte => exact h.2.print byte
  halted := by
    intro m m' queue queue' h he
    have hs : m'.tick.state = .halted := (transition_of_step he).state_of_halted
    cases notes_of_step he with
    | halted => exact .closed h.2 (.halted hs)
  suspended := by
    intro m m' queue queue' h he
    cases notes_of_step he with
    | readLine => exact .closed h.2 (.readLine (transition_of_step he).waits_of_suspended)
  fault := by
    intro m m' queue queue' fault h he
    cases notes_of_step he with
    | fault internal => exact .closed h.2 (.fault rfl internal)

end Machine

namespace Session

theorem pump_eq {session : Session} {m : Machine} (hm : session.machine = some m)
    (hf : ∀ fault, m.state ≠ .faulted fault) (budget : ℕ) :
    session.pump budget = settle session.refuses (m.runFor budget session.queue) := by
  obtain ⟨refuses,machine,queue⟩ := session
  dsimp only at hm
  subst hm
  cases hs : m.state with
  | faulted fault => exact absurd hs (hf fault)
  | ready => simp only [pump, hs]
  | awaitingInput r => simp only [pump, hs]
  | halted => simp only [pump, hs]

/-- A pump without a budget that comes back is one with a budget that it does not use up. -/
theorem pump_of_pumpUntilStop? {session session' : Session} {fuel : ℕ} {status : Status}
    (h : session.pumpUntilStop? fuel = some (status,session')) :
    session.pump fuel = (status,session') := by
  obtain ⟨refuses,_ | m,queue⟩ := session
  · exact Option.some.inj h
  · unfold pumpUntilStop? at h
    unfold pump
    dsimp only at h ⊢
    split at h
    · exact Option.some.inj h
    · obtain ⟨r,hr,hs⟩ := Option.map_eq_some_iff.mp h
      rw [(run?_eq_some_iff.mp hr).1]
      exact hs

theorem settle_machine (refuses : UInt32 → Bool) (r : Run EventQueue) :
    (settle refuses r).2.machine = some r.machine := by
  unfold settle
  split <;> rfl

theorem status_of_machine {session : Session} {m : Machine} (h : session.machine = some m) :
    session.status = .ofState m.state := by
  simp [Session.status, h]

theorem settle_status (refuses : UInt32 → Bool) {r : Run EventQueue} (h : Tells r.result r.machine) :
    (settle refuses r).1 = .ofState r.machine.state := by
  unfold settle
  rw [h.result_eq]
  cases r.machine.state <;> rfl

/-- A pump returns the status that it leaves. -/
theorem pump_status (session : Session) (budget : ℕ) :
    (session.pump budget).1 = (session.pump budget).2.status := by
  obtain ⟨refuses,_ | m,queue⟩ := session
  · rfl
  · by_cases hf : ∃ fault, m.state = .faulted fault
    · obtain ⟨fault,hs⟩ := hf
      simp [pump, hs, status, Status.ofState]
    · rw [pump_eq rfl (fun fault hs => hf ⟨fault,hs⟩) budget,status_of_machine (settle_machine _ _)]
      exact settle_status refuses (m.runFor_tells budget queue)

/-- A pump finds nothing to execute and leaves the session as it is, or it lets the machine go on. -/
theorem pump_cases (session : Session) (budget : ℕ) :
    (session.pump budget).2 = session ∨
    ∃ m n, session.machine = some m ∧ m.enter = .ready n ∧
      session.pump budget = settle session.refuses (m.runFor budget session.queue) ∧
      m.runFor budget session.queue = n.advance budget session.queue := by
  obtain ⟨refuses,_ | m,queue⟩ := session
  · exact .inl rfl
  · by_cases hf : ∃ fault, m.state = .faulted fault
    · obtain ⟨fault,hs⟩ := hf
      exact .inl (by simp only [pump, hs])
    · have hpump : pump ⟨refuses,some m,queue⟩ budget = settle refuses (m.runFor budget queue) :=
        pump_eq rfl (fun fault hs => hf ⟨fault,hs⟩) budget
      cases he : m.enter with
      | ready n => exact .inr ⟨m,n,rfl,he,hpump,by simp only [runFor, he]⟩
      | done result =>
        have hrun : m.runFor budget queue = ⟨result,m,queue⟩ := by simp only [runFor, he]
        left
        rw [hpump,hrun]
        rcases enter_eq_done he with ⟨_,rfl⟩ | ⟨fault,hs,_⟩ | ⟨_,_,rfl⟩
        · rfl
        · exact absurd ⟨fault,hs⟩ hf
        · rfl

theorem pump_emitted {session : Session} {m : Machine} (hm : session.machine = some m)
    (budget : ℕ) :
    (session.pump budget).2 = session ∨
    ∃ n m', m.enter = .ready n ∧ (session.pump budget).2.machine = some m' ∧
      (m.inputClosed = true → m'.inputClosed = true) ∧
      Emitted session.queue.newest m' (session.pump budget).2.queue.newest := by
  rcases session.pump_cases budget with hsame | ⟨m₀,n,hm₀,he,hpump,hrun⟩
  · exact .inl hsame
  · obtain rfl := Option.some.inj (hm₀.symm.trans hm)
    have hemitted := (emitted_loop session.refuses session.queue.newest).advance
      ⟨enter_ready_state he,.nothing⟩ budget
    rw [← hrun] at hemitted
    rw [hpump]
    exact .inr ⟨n,_,he,settle_machine _ _,fun hc => (runFor_closed hc _ _).2,hemitted⟩

theorem pump_coalesced {session : Session} (h : Coalesced session.queue.newest) (budget : ℕ) :
    Coalesced (session.pump budget).2.queue.newest := by
  rcases session.pump_cases budget with hsame | ⟨_,n,_,_,hpump,hrun⟩
  · rw [hsame]
    exact h
  · rw [hpump,hrun]
    exact (coalesced_loop session.refuses).advance h budget

end Session
end UniversalMachine
