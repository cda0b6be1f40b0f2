import Mathlib
import UniversalMachine.Proofs.Isolation
import UniversalMachine.Proofs.Schedule

/-! Loading a program either fails and changes nothing, or leaves nothing of the program before it. Only
the events that the host had not taken yet are still there, and the next drain returns them first. -/
namespace UniversalMachine
open Machine

namespace EventQueue

/-- A queue holds older events behind those of another one, which holds at least one. A byte thus joins
the same print in both, and never an older one. -/
structure Follows (older : List Event) (queue fresh : EventQueue) : Prop where
  newest : queue.newest = fresh.newest++older
  report : queue.report = fresh.report
  told : fresh.newest ≠ []

variable {older : List Event} {queue fresh : EventQueue}

theorem Follows.push (h : Follows older queue fresh) (event : Event) :
    Follows older (queue.push event) (fresh.push event) :=
  ⟨congrArg (event::·) h.newest,h.report,by simp [EventQueue.push]⟩

theorem Follows.print (h : Follows older queue fresh) (byte : UInt8) :
    Follows older (queue.print byte) (fresh.print byte) := by
  obtain ⟨newest,report⟩ := queue
  obtain ⟨newest',report'⟩ := fresh
  obtain ⟨hnewest,hreport,htold⟩ := h
  dsimp only at hnewest hreport htold
  subst hnewest hreport
  cases newest' with
  | nil => exact absurd rfl htold
  | cons event rest => cases event <;> exact ⟨rfl,rfl,by simp [EventQueue.print]⟩

theorem follows_settles (older : List Event) : Settles (Follows older) where
  readLine h := ⟨rfl,h.push .readLine⟩
  writeByte h byte := ⟨rfl,h.print byte⟩
  announceHalt h := ⟨rfl,h.push .halted⟩
  reportFault h _ := ⟨h.newest,rfl,h.told⟩
  report h := h.report
  clear h := ⟨h.newest,rfl,h.told⟩
  push h event := h.push event

end EventQueue

namespace Session

theorem perform?_error_iff {fuel : ℕ} {session session' : Session} {request : Request}
    {error : Error} :
    session.perform? fuel (.handle request) = some (.handled (.error error),session') ↔
      session.Rejects request error ∧ session' = session := by
  rw [← handle_eq_error_iff]
  simp [perform?, Prod.ext_iff]

/-- A session goes on as another one does, with older events that the host has not taken yet. -/
structure Follows (older : List Event) (session fresh : Session) : Prop where
  refuses : session.refuses = fresh.refuses
  machine : session.machine = fresh.machine
  queue : session.queue.Follows older fresh.queue

theorem Pumped.follows {older : List Event} {x y : Status × Session}
    (h : Pumped (EventQueue.Follows older) x y) : Follows older x.2 y.2 :=
  ⟨h.refuses,h.machine,h.queue⟩

/-- The same answer from sessions that go on alike, or the answers of the first drain. -/
inductive Resembles (older : List Event) : Answer × Session → Answer × Session → Prop
  | same {answer session fresh} (reply : ∀ events, answer ≠ .events events)
      (follows : Follows older session fresh) : Resembles older (answer,session) (answer,fresh)
  | drained {events session} :
      Resembles older (.events (older.reverse++events),session) (.events events,session)

variable {older : List Event} {session fresh : Session}

theorem Follows.status (h : Follows older session fresh) : session.status = fresh.status := by
  unfold Session.status
  rw [h.machine]

theorem Follows.drain (h : Follows older session fresh) :
    Resembles older (.events session.drain.1,session.drain.2)
      (.events fresh.drain.1,fresh.drain.2) := by
  obtain ⟨hrefuses,hmachine,hnewest,hreport,_⟩ := h
  simp only [Session.drain, EventQueue.events, hrefuses, hmachine, hnewest, hreport, List.reverse_append]
  exact .drained

theorem Follows.handle (h : Follows older session fresh) (fuel : ℕ) (request : Request) :
    Option.Rel (Resembles older) (session.perform? fuel (.handle request))
      (fresh.perform? fuel (.handle request)) := by
  obtain ⟨refuses,machine,queue⟩ := session
  obtain ⟨refuses',machine',queue'⟩ := fresh
  obtain ⟨rfl,rfl,hq⟩ := h
  cases request with
  | loadProgram image =>
    simp only [perform?, Session.handle]
    cases Image.decode image with
    | error error => exact .some (.same (by simp) ⟨rfl,rfl,hq⟩)
    | ok program =>
      refine .some (.same (by simp) ⟨rfl,rfl,?_⟩)
      exact (EventQueue.follows_settles older).push ((EventQueue.follows_settles older).clear hq) _
  | readLineDone line =>
    cases machine with
    | none => exact .some (.same (by simp) ⟨rfl,rfl,hq⟩)
    | some m => exact .some (.same (by simp) ⟨rfl,rfl,hq⟩)
  | endOfInput =>
    cases machine with
    | none => exact .some (.same (by simp) ⟨rfl,rfl,hq⟩)
    | some m => exact .some (.same (by simp) ⟨rfl,rfl,hq⟩)

theorem Follows.pump (h : Follows older session fresh) (fuel : ℕ) (budget : Option ℕ) :
    Option.Rel (Resembles older) (session.perform? fuel (.pump budget))
      (fresh.perform? fuel (.pump budget)) := by
  obtain ⟨refuses,machine,queue⟩ := session
  obtain ⟨refuses',machine',queue'⟩ := fresh
  obtain ⟨rfl,rfl,hq⟩ := h
  have hpumped : Option.Rel (Pumped (EventQueue.Follows older))
      (pumpWithin? ⟨refuses,machine,queue⟩ fuel budget)
      (pumpWithin? ⟨refuses,machine,queue'⟩ fuel budget) := by
    cases budget with
    | none => exact pumpUntilStop?_pumped (EventQueue.follows_settles older) hq refuses machine fuel
    | some budget =>
      exact .some (pump_pumped (EventQueue.follows_settles older) hq refuses machine budget)
  simp only [perform?]
  generalize pumpWithin? ⟨refuses,machine,queue⟩ fuel budget = x at hpumped ⊢
  generalize pumpWithin? ⟨refuses,machine,queue'⟩ fuel budget = y at hpumped ⊢
  cases hpumped with
  | none => exact .none
  | @some x y hxy =>
    have hstatus : x.1 = y.1 := hxy.status
    simp only [Option.map_some, hstatus]
    exact .some (.same (by simp) hxy.follows)

theorem Follows.resembles (h : Follows older session fresh) (fuel : ℕ) (call : Call) :
    Option.Rel (Resembles older) (session.perform? fuel call) (fresh.perform? fuel call) := by
  cases call with
  | handle request => exact h.handle fuel request
  | pump budget => exact h.pump fuel budget
  | drain => exact .some h.drain
  | status =>
    simp only [perform?, h.status]
    exact .some (.same (by simp) h)

/-- Puts events before those of the first drain. -/
def precede (old : List Event) : List (Call × Answer) → List (Call × Answer)
  | [] => []
  | (call,.events events)::log => (call,.events (old++events))::log
  | entry::log => entry::precede old log

theorem precede_cons {old : List Event} {call : Call} {answer : Answer} {log : List (Call × Answer)}
    (h : ∀ events, answer ≠ .events events) :
    precede old ((call,answer)::log) = (call,answer)::precede old log := by
  cases answer with
  | events events => exact absurd rfl (h events)
  | _ => rfl

theorem answers_cons {fuel : ℕ} {call : Call} {calls : List Call}
    (hcall : Option.Rel (Resembles older) (session.perform? fuel call) (fresh.perform? fuel call))
    (hcalls : ∀ {session fresh}, Follows older session fresh →
      (inTurn? (perform? fuel) session calls).map (fun done => (done.1,done.2.machine)) =
        (inTurn? (perform? fuel) fresh calls).map
          fun done => (precede older.reverse done.1,done.2.machine)) :
    (inTurn? (perform? fuel) session (call::calls)).map (fun done => (done.1,done.2.machine)) =
      (inTurn? (perform? fuel) fresh (call::calls)).map
        fun done => (precede older.reverse done.1,done.2.machine) := by
  rw [inTurn?_cons,inTurn?_cons]
  generalize session.perform? fuel call = x at hcall ⊢
  generalize fresh.perform? fuel call = y at hcall ⊢
  cases hcall with
  | none => rfl
  | some hxy =>
    cases hxy with
    -- the sessions have become equal
    | drained => simp only [Option.bind_some, Option.map_map, Function.comp_def, precede]
    | @same answer session fresh hreply hfollows =>
      have hrest :=
        congrArg (Option.map fun done => ((call,answer)::done.1,done.2)) (hcalls hfollows)
      simpa only [Option.bind_some, Option.map_map, Function.comp_def, precede_cons hreply]
        using hrest

/-- The sessions give the same answers, but for the older events that the first drain returns. -/
theorem Follows.answers (h : Follows older session fresh) (fuel : ℕ) (calls : List Call) :
    (inTurn? (perform? fuel) session calls).map (fun done => (done.1,done.2.machine)) =
      (inTurn? (perform? fuel) fresh calls).map
        fun done => (precede older.reverse done.1,done.2.machine) := by
  induction calls generalizing session fresh with
  | nil => exact congrArg (fun machine => some ([],machine)) h.machine
  | cons call calls ih => exact answers_cons (h.resembles fuel call) ih

theorem load_resembles (session : Session) (fuel : ℕ) {image : List UInt8}
    (hsize : image.length % 4 = 0) :
    Option.Rel (Resembles session.queue.newest) (session.perform? fuel (.handle (.loadProgram image)))
      (perform? fuel { refuses := session.refuses } (.handle (.loadProgram image))) := by
  simp only [perform?, Session.handle, Image.decode, if_pos hsize]
  exact .some (.same (by simp) ⟨rfl,rfl,rfl,rfl,by simp [EventQueue.push]⟩)

/-- A request that is not accepted is answered with an error and changes nothing: an image that is not a
whole number of platters, or input while there is no program. An image that is accepted leads to all the
answers, and to the machine, of a new session that is asked the same. The first drain returns what the
host had not taken before, and after it what it would return there. -/
theorem load_leaves_no_residue (fuel : ℕ) (session : Session) :
    (∀ request error session',
      session.perform? fuel (.handle request) = some (.handled (.error error),session') ↔
        session.Rejects request error ∧ session' = session) ∧
    ∀ image, image.length % 4 = 0 → ∀ calls,
      (inTurn? (perform? fuel) session (.handle (.loadProgram image)::calls)).map
          (fun done => (done.1,done.2.machine)) =
        (inTurn? (perform? fuel) { refuses := session.refuses }
            (.handle (.loadProgram image)::calls)).map
          fun done => (precede session.drain.1 done.1,done.2.machine) := by
  refine ⟨fun request error session' => perform?_error_iff,?_⟩
  intro image hsize calls
  exact answers_cons (session.load_resembles fuel hsize) fun h => h.answers fuel calls

/-- The first program has written a byte and waits for a line, and nothing of it was drained. -/
theorem load_leaves_no_residue_waiting :
    let refuses : UInt32 → Bool := fun _ => false
    let loaded : Session :=
      ⟨refuses,some (.ofProgram refuses #[0xd0000048,0xa0000000,0xb0000000,0x70000000]),
        ⟨[.programLoaded 4],none⟩⟩
    let waiting := (loaded.pump 9).2
    let load := Call.handle (.loadProgram (Image.encode #[0xd0000041,0xa0000000,0x70000000]))
    (Image.encode #[0xd0000041,0xa0000000,0x70000000]).length % 4 = 0 ∧
    waiting.status = .awaitingInput ∧
    (inTurn? (perform? 9) waiting [load,.pump none,.drain,.pump (some 1),.drain]).map Prod.fst =
      some [(load,.handled (.ok ())),(.pump none,.status .halted),
        (.drain,.events [.programLoaded 4,.print #[72],.readLine,
          .programLoaded 3,.print #[65],.halted]),
        (.pump (some 1),.status .halted),(.drain,.events [])] := by
  intro refuses loaded waiting load
  have hsize : (Image.encode #[0xd0000041,0xa0000000,0x70000000]).length % 4 = 0 := by cbv
  have hstatus : waiting.status = .awaitingInput := by
    simp only [waiting, loaded]
    cbv
  refine ⟨hsize,hstatus,?_⟩
  have h := (load_leaves_no_residue 9 waiting).2 _ hsize [.pump none,.drain,.pump (some 1),.drain]
  have hfst := congrArg (Option.map Prod.fst) h
  rw [Option.map_map,Option.map_map] at hfst
  refine hfst.trans ?_
  simp only [waiting, loaded, load]
  cbv

end Session
end UniversalMachine
