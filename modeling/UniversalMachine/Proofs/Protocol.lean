import Mathlib
import UniversalMachine.Proofs.Emission
import UniversalMachine.Proofs.Image

/-! The order of the events of a session, for all that a host may do with it. The events are looked at
as the host sees them: those of the batches drained so far, and behind them those still in the queue. -/
namespace UniversalMachine

/-- What a session makes of a request that it accepts. -/
inductive Session.Accepts (session : Session) : Request → Session → Prop
  | loadProgram {image program} (decode : Image.decode image = .ok program) :
      Accepts session (.loadProgram image)
        { session with
          machine := some (.ofProgram session.refuses program)
          queue := { session.queue with report := none }.push (.programLoaded program.size) }
  | readLineDone {m} (machine : session.machine = some m) (line : List UInt8) :
      Accepts session (.readLineDone line) { session with machine := some (m.pushInput line) }
  | endOfInput {m} (machine : session.machine = some m) :
      Accepts session .endOfInput { session with machine := some m.closeInput }

theorem Session.accepts_of_handle {session session' : Session} {request : Request}
    (h : session.handle request = (.ok (),session')) : session.Accepts request session' := by
  cases request with
  | loadProgram image =>
    simp only [handle] at h
    split at h
    · cases h
    · next decode =>
      cases h
      exact .loadProgram decode
  | readLineDone line =>
    simp only [handle] at h
    split at h
    · cases h
    · next machine =>
      cases h
      exact .readLineDone machine line
  | endOfInput =>
    simp only [handle] at h
    split at h
    · cases h
    · next machine =>
      cases h
      exact .endOfInput machine

/-- The requests that a session does not accept, with the error of each. -/
inductive Session.Rejects (session : Session) : Request → Error → Prop
  | misaligned {image : List UInt8} (size : image.length % 4 ≠ 0) :
      Rejects session (.loadProgram image) (.load (.misaligned image.length))
  | line {line : List UInt8} (empty : session.machine = none) :
      Rejects session (.readLineDone line) .noProgram
  | endOfInput (empty : session.machine = none) : Rejects session .endOfInput .noProgram

/-- A request that is not accepted changes nothing. -/
theorem Session.handle_eq_error_iff {session session' : Session} {request : Request}
    {error : Error} :
    session.handle request = (.error error,session') ↔
      session.Rejects request error ∧ session' = session := by
  constructor
  · intro h
    cases request with
    | loadProgram image =>
      by_cases hsize : image.length % 4 = 0
      · simp [handle, Image.decode, hsize] at h
      · simp only [handle, Image.decode, if_neg hsize] at h
        cases h
        exact ⟨.misaligned hsize,rfl⟩
    | readLineDone line =>
      cases hm : session.machine with
      | none =>
        simp only [handle, hm] at h
        cases h
        exact ⟨.line hm,rfl⟩
      | some m => simp [handle, hm] at h
    | endOfInput =>
      cases hm : session.machine with
      | none =>
        simp only [handle, hm] at h
        cases h
        exact ⟨.endOfInput hm,rfl⟩
      | some m => simp [handle, hm] at h
  · rintro ⟨h,rfl⟩
    cases h with
    | misaligned hsize => simp [handle, Image.decode, hsize]
    | line hm => simp [handle, hm]
    | endOfInput hm => simp [handle, hm]

/-- The request lets a program that waits go on. -/
def Request.Answers : Request → Prop
  | .loadProgram _ => False
  | .readLineDone line => line ≠ []
  | .endOfInput => True

/-- No event of the same program follows this one. -/
def Event.IsFinal : Event → Prop
  | .halted => True
  | .fault _ _ => True
  | _ => False

theorem Event.IsFinal.not_isPrint {event : Event} (h : event.IsFinal) : ¬ event.IsPrint := by
  cases event with
  | print bytes => exact absurd h id
  | _ => exact id

namespace Protocol
open Machine

/-- What a host did, and how a request was received. A pump without a budget has come back. -/
inductive Action where
  | accepted (request : Request)
  | rejected (request : Request)
  | pumped (budget : Option ℕ)
  | drained

/-- A session, and the batches of events drained from it so far. -/
structure Record where
  session : Session
  batches : List (List Event) := []

namespace Record

/-- All events so far, in the order in which they happened. -/
def events (record : Record) : List Event := record.batches.flatten++record.session.queue.events

/-- The same, the newest first. -/
def newest (record : Record) : List Event := record.events.reverse

theorem newest_mk (session : Session) (batches : List (List Event)) :
    (⟨session,batches⟩ : Record).newest = session.queue.newest++batches.flatten.reverse := by
  simp [newest, events, EventQueue.events]

theorem events_of_newest {record : Record} {newest : List Event} (h : record.newest = newest) :
    record.events = newest.reverse := by
  rw [← h,Record.newest,List.reverse_reverse]

end Record

/-- What an action does. -/
inductive Does : Record → Action → Record → Prop
  | accepted {session batches request session'}
      (handle : session.handle request = (.ok (),session')) :
      Does ⟨session,batches⟩ (.accepted request) ⟨session',batches⟩
  | rejected {session batches request error session'}
      (handle : session.handle request = (.error error,session')) :
      Does ⟨session,batches⟩ (.rejected request) ⟨session',batches⟩
  | pumped {session batches} (budget : ℕ) :
      Does ⟨session,batches⟩ (.pumped (some budget)) ⟨(session.pump budget).2,batches⟩
  | pumpedUntilStop {session batches fuel status session'}
      (pump : session.pumpUntilStop? fuel = some (status,session')) :
      Does ⟨session,batches⟩ (.pumped none) ⟨session',batches⟩
  | drained {session batches} :
      Does ⟨session,batches⟩ .drained ⟨session.drain.2,batches++[session.drain.1]⟩

/-- What actions in a row do. -/
inductive Reaches (start : Record) : List Action → Record → Prop
  | start : Reaches start [] start
  | does {actions action record record'} (reaches : Reaches start actions record)
      (does : Does record action record') : Reaches start (actions++[action]) record'

/-- Every batch, and the one that could be drained now, is coalesced. -/
def Record.Coalesced (record : Record) : Prop :=
  UniversalMachine.Coalesced record.session.queue.newest ∧
    ∀ batch ∈ record.batches, UniversalMachine.Coalesced batch

theorem Does.coalesced {record record' : Record} {action : Action} (h : Does record action record')
    (hr : record.Coalesced) : record'.Coalesced := by
  obtain ⟨hq,hb⟩ := hr
  cases h with
  | accepted handle =>
    refine ⟨?_,hb⟩
    cases Session.accepts_of_handle handle with
    | loadProgram => exact hq.cons id
    | readLineDone => exact hq
    | endOfInput => exact hq
  | rejected handle =>
    obtain ⟨_,rfl⟩ := Session.handle_eq_error_iff.mp handle
    exact ⟨hq,hb⟩
  | pumped budget => exact ⟨Session.pump_coalesced hq budget,hb⟩
  | @pumpedUntilStop session _ fuel _ _ pump =>
    have hpump := Session.pump_coalesced hq fuel
    rw [Session.pump_of_pumpUntilStop? pump] at hpump
    exact ⟨hpump,hb⟩
  | drained =>
    refine ⟨.nil,?_⟩
    intro batch hmem
    rcases List.mem_append.mp hmem with hmem | hmem
    · exact hb batch hmem
    · rw [List.mem_singleton.mp hmem]
      exact hq.reverse

theorem Reaches.coalesced {start record : Record} {actions : List Action}
    (h : Reaches start actions record) (hs : start.Coalesced) : record.Coalesced := by
  induction h with
  | start => exact hs
  | does _ does ih => exact does.coalesced ih

/-- What an action does to a program that is not replaced: to the events, the newest first, and to the
machine. -/
inductive Effect (newest : List Event) (m : Machine) : Action → List Event → Machine → Prop
  | idle {action} (idle : ∀ request, action ≠ .accepted request) : Effect newest m action newest m
  | line (bytes : List UInt8) :
      Effect newest m (.accepted (.readLineDone bytes)) newest (m.pushInput bytes)
  | endOfInput : Effect newest m (.accepted .endOfInput) newest m.closeInput
  | ran {budget n m' newest'} (enter : m.enter = .ready n)
      (closed : m.inputClosed = true → m'.inputClosed = true) (emitted : Emitted newest m' newest') :
      Effect newest m (.pumped budget) newest' m'

theorem Effect.of_append {rest older newest' : List Event} {event : Event} {m m' : Machine}
    {action : Action} (he : ¬ event.IsPrint)
    (h : Effect (rest++event::older) m action newest' m') :
    ∃ rest', newest' = rest'++event::older ∧ Effect rest m action rest' m' := by
  cases h with
  | idle idle => exact ⟨rest,rfl,.idle idle⟩
  | line bytes => exact ⟨rest,rfl,.line bytes⟩
  | endOfInput => exact ⟨rest,rfl,.endOfInput⟩
  | ran enter closed emitted =>
    obtain ⟨rest',rfl,hrest⟩ := emitted.of_append he
    exact ⟨rest',rfl,.ran enter closed hrest⟩

theorem effect_of_pump {session : Session} {m : Machine} (hm : session.machine = some m)
    (batches : List (List Event)) (fuel : ℕ) (budget : Option ℕ) :
    ∃ m', (session.pump fuel).2.machine = some m' ∧
      Effect (Record.newest ⟨session,batches⟩) m (.pumped budget)
        (Record.newest ⟨(session.pump fuel).2,batches⟩) m' := by
  rcases Session.pump_emitted hm fuel with hsame | ⟨n,m',enter,hm',closed,emitted⟩
  · rw [hsame]
    exact ⟨m,hm,.idle (by simp)⟩
  · refine ⟨m',hm',.ran enter closed ?_⟩
    rw [Record.newest_mk,Record.newest_mk]
    exact emitted.append _

theorem Does.effect {record record' : Record} {action : Action} {m : Machine}
    (h : Does record action record') (hm : record.session.machine = some m)
    (hn : ∀ image, action ≠ .accepted (.loadProgram image)) :
    ∃ m', record'.session.machine = some m' ∧ Effect record.newest m action record'.newest m' := by
  cases h with
  | rejected handle =>
    obtain ⟨_,rfl⟩ := Session.handle_eq_error_iff.mp handle
    exact ⟨m,hm,.idle (by simp)⟩
  | pumped budget => exact effect_of_pump hm _ budget _
  | @pumpedUntilStop session batches fuel status session' pump =>
    have heffect := effect_of_pump hm batches fuel none
    rw [Session.pump_of_pumpUntilStop? pump] at heffect
    exact heffect
  | @drained session batches =>
    have hnewest : Record.newest ⟨session.drain.2,batches++[session.drain.1]⟩ =
        Record.newest ⟨session,batches⟩ := by
      simp [Record.newest, Record.events, Session.drain, EventQueue.events]
    rw [hnewest]
    exact ⟨m,hm,.idle (by simp)⟩
  | accepted handle =>
    cases Session.accepts_of_handle handle with
    | @loadProgram image => exact absurd rfl (hn image)
    | readLineDone machine line =>
      obtain rfl := Option.some.inj (machine.symm.trans hm)
      exact ⟨_,rfl,.line line⟩
    | endOfInput machine =>
      obtain rfl := Option.some.inj (machine.symm.trans hm)
      exact ⟨_,rfl,.endOfInput⟩

/-- A host has answered when `events` was all that had happened. -/
def Answered (start : Record) (actions : List Action) (record : Record) (events : List Event) :
    Prop :=
  ∃ first request later asked fed, actions = first++.accepted request::later ∧ request.Answers ∧
    Reaches start first asked ∧ asked.events = events ∧ Does asked (.accepted request) fed ∧
    Reaches fed later record

theorem Answered.does {start record record' : Record} {actions : List Action} {action : Action}
    {events : List Event} (h : Answered start actions record events)
    (hd : Does record action record') : Answered start (actions++[action]) record' events := by
  obtain ⟨first,request,later,asked,fed,rfl,hr,hasked,he,hfed,hlater⟩ := h
  exact ⟨first,request,later++[action],asked,fed,by simp,hr,hasked,he,hfed,hlater.does hd⟩

/-- Of the events since the start, the newest first, each one but the prints closes the run of the
machine and is the newest, or it is a request that was answered. -/
def Respects (start : Record) (actions : List Action) (record : Record) (rest : List Event)
    (m : Machine) : Prop :=
  ∀ {later event earlier}, rest = later++event::earlier → ¬ event.IsPrint →
    (later = [] ∧ m.Closing event) ∨
    (event = .readLine ∧
      Answered start actions record ((.readLine::earlier)++start.newest).reverse)

section Step
variable {start record record' : Record} {actions : List Action} {action : Action}
  {rest rest' : List Event} {m m' : Machine}

/-- Where the host feeds the machine, a request may be answered that was not. -/
theorem Respects.feed {request : Request} (h : Respects start actions record rest m)
    (hreach : Reaches start actions record) (hn : record.newest = rest++start.newest)
    (hd : Does record (.accepted request) record')
    (hc : ∀ {event}, m.Closing event →
      m'.Closing event ∨ (event = .readLine ∧ request.Answers)) :
    Respects start (actions++[.accepted request]) record' rest m' := by
  intro later event earlier hsplit he
  rcases h hsplit he with ⟨rfl,closing⟩ | ⟨rfl,answered⟩
  · rcases hc closing with closing' | ⟨rfl,answers⟩
    · exact .inl ⟨rfl,closing'⟩
    · refine .inr ⟨rfl,actions,request,[],record,record',rfl,answers,hreach,?_,hd,.start⟩
      rw [Record.events_of_newest hn,hsplit]
      rfl
  · exact .inr ⟨rfl,answered.does hd⟩

theorem Respects.step (h : Respects start actions record rest m)
    (hreach : Reaches start actions record) (hn : record.newest = rest++start.newest)
    (hd : Does record action record') (heffect : Effect rest m action rest' m') :
    Respects start (actions++[action]) record' rest' m' := by
  cases heffect with
  | line bytes => exact h.feed hreach hn hd fun closing => closing.pushInput bytes
  | endOfInput =>
    refine h.feed hreach hn hd fun closing => ?_
    exact closing.closeInput.imp_right fun hr => ⟨hr,trivial⟩
  | idle =>
    intro later event earlier hsplit he
    exact (h hsplit he).imp_right fun ⟨hr,answered⟩ => ⟨hr,answered.does hd⟩
  | ran enter _ emitted =>
    intro later event earlier hsplit he
    rw [hsplit] at emitted
    rcases emitted.split he with ⟨later',hold⟩ | hclosing
    -- a machine that goes on has not stopped, so an event from before is a request that was answered
    · rcases h hold he with ⟨_,closing⟩ | ⟨rfl,answered⟩
      · exact absurd enter closing.enter_ne_ready
      · exact .inr ⟨rfl,answered.does hd⟩
    · exact .inl hclosing

theorem Effect.inputClosed {newest newest' : List Event} (h : Effect newest m action newest' m')
    (hc : m.inputClosed = true) : m'.inputClosed = true := by
  cases h with
  | idle => exact hc
  | line => exact hc
  | endOfInput => rfl
  | ran _ closed _ => exact closed hc

/-- A machine whose input is closed asks for no line. -/
theorem Effect.readLine_split {newest newer older : List Event}
    (h : Effect newest m action (newer++.readLine::older) m') (hc : m.inputClosed = true) :
    ∃ newer', newest = newer'++.readLine::older := by
  have hclosed := h.inputClosed hc
  generalize hn : newer++.readLine::older = newest' at h
  cases h with
  | idle => exact ⟨newer,hn.symm⟩
  | line => exact ⟨newer,hn.symm⟩
  | endOfInput => exact ⟨newer,hn.symm⟩
  | ran _ _ emitted =>
    rw [← hn] at emitted
    rcases emitted.split id with hold | ⟨_,closing⟩
    · exact hold
    · cases closing with
      | readLine waits =>
        obtain ⟨_,_,_,ho⟩ := waits
        rw [hclosed] at ho
        cases ho

end Step

/-- The actions replace no program. -/
def SameProgram (actions : List Action) : Prop := ∀ image, .accepted (.loadProgram image) ∉ actions

theorem SameProgram.of_append {actions : List Action} {action : Action}
    (h : SameProgram (actions++[action])) :
    SameProgram actions ∧ ∀ image, action ≠ .accepted (.loadProgram image) := by
  constructor
  · exact fun image hmem => h image (List.mem_append_left _ hmem)
  · rintro image rfl
    exact h image (List.mem_append_right _ (List.mem_singleton_self _))

theorem Reaches.respects {start record : Record} {actions : List Action} {m : Machine}
    {event : Event} {older : List Event} (h : Reaches start actions record)
    (hm : start.session.machine = some m) (hs : start.newest = event::older)
    (he : ¬ event.IsPrint) (hp : SameProgram actions) :
    ∃ rest m', record.session.machine = some m' ∧ record.newest = rest++start.newest ∧
      Respects start actions record rest m' := by
  induction h with
  | start => exact ⟨[],m,hm,rfl,fun hsplit => by simp at hsplit⟩
  | does hreach hd ih =>
    obtain ⟨hp,hload⟩ := hp.of_append
    obtain ⟨rest,m',hm',hn,hrespects⟩ := ih hp
    obtain ⟨m'',hm'',heffect⟩ := hd.effect hm' hload
    -- no byte joins a print from before the load, since the event of the load lies between
    rw [hn,hs] at heffect
    obtain ⟨rest',hn',heffect'⟩ := heffect.of_append he
    rw [← hs] at hn'
    exact ⟨rest',m'',hm'',hn',hrespects.step hreach hn hd heffect'⟩

theorem Reaches.readLine_split {start record : Record} {actions : List Action} {m : Machine}
    (h : Reaches start actions record) (hm : start.session.machine = some m)
    (hc : m.inputClosed = true) (hp : SameProgram actions) :
    (∃ m', record.session.machine = some m' ∧ m'.inputClosed = true) ∧
    ∀ {newer older}, record.newest = newer++.readLine::older →
      ∃ newer', start.newest = newer'++.readLine::older := by
  induction h with
  | start => exact ⟨⟨m,hm,hc⟩,fun hsplit => ⟨_,hsplit⟩⟩
  | does _ hd ih =>
    obtain ⟨hp,hload⟩ := hp.of_append
    obtain ⟨⟨m',hm',hc'⟩,hold⟩ := ih hp
    obtain ⟨m'',hm'',heffect⟩ := hd.effect hm' hload
    refine ⟨⟨m'',hm'',heffect.inputClosed hc'⟩,?_⟩
    intro newer older hsplit
    rw [hsplit] at heffect
    obtain ⟨newer',hnewest⟩ := heffect.readLine_split hc'
    exact hold hnewest

/-- What a load leaves behind. -/
theorem Does.loaded {record loaded : Record} {image : List UInt8}
    (h : Does record (.accepted (.loadProgram image)) loaded) :
    ∃ program, loaded.session.machine = some (.ofProgram record.session.refuses program) ∧
      loaded.newest = .programLoaded (image.length / 4)::record.newest := by
  cases h with
  | @accepted session batches _ _ handle =>
    cases Session.accepts_of_handle handle with
    | @loadProgram _ program decode =>
      have hsize : program.size = image.length / 4 := by
        rw [← Image.encode_of_decode decode,Image.length_encode]
        omega
      refine ⟨program,rfl,?_⟩
      rw [Record.newest_mk,Record.newest_mk,← hsize]
      rfl

/-- The end of the input is no event, and it stays. -/
theorem Does.ended {record closed : Record} (h : Does record (.accepted .endOfInput) closed) :
    ∃ m, closed.session.machine = some m ∧ m.inputClosed = true ∧
      closed.newest = record.newest := by
  cases h with
  | accepted handle =>
    cases Session.accepts_of_handle handle with
    | @endOfInput m machine =>
      refine ⟨m.closeInput,rfl,rfl,?_⟩
      rw [Record.newest_mk,Record.newest_mk]

/-- An event behind the first of a program, as the newest first have it. -/
theorem rest_eq_of_split {first event : Event} {rest earlier later : List Event}
    (h : first::rest.reverse = earlier++event::later) (hne : event ≠ first) :
    ∃ older, earlier = first::older ∧ rest = later.reverse++event::older.reverse := by
  cases earlier with
  | nil =>
    cases h
    exact absurd rfl hne
  | cons other older =>
    obtain ⟨rfl,hrest⟩ := List.cons.inj h
    refine ⟨older,rfl,?_⟩
    rw [← List.reverse_reverse rest,hrest]
    simp

/-- The events of one program, next to the actions since it was loaded into `record`. -/
structure Orderly (record loaded : Record) (actions : List Action) (last : Record) (platters : ℕ)
    (events : List Event) : Prop where
  head : events.head? = some (.programLoaded platters)
  /-- Nothing follows a halt or a fault. -/
  final : ∀ {earlier event later}, events = earlier++event::later → event.IsFinal → later = []
  /-- The host has answered a request for a line before the next event. -/
  answered : ∀ {earlier later}, events = earlier++Event.readLine::later → later ≠ [] →
    Answered loaded actions last (record.events++(earlier++[Event.readLine]))
  /-- Every request for a line was there when the host ended the input. -/
  ended : ∀ {first later prior closed}, actions = first++Action.accepted .endOfInput::later →
    Reaches loaded first prior → Does prior (.accepted .endOfInput) closed →
    Reaches closed later last → ∀ {earlier newer}, events = earlier++Event.readLine::newer →
      ∃ newer', prior.events = record.events++(earlier++Event.readLine::newer')
  coalesced : ∀ batch ∈ last.batches++[last.session.drain.1], Coalesced batch
  /-- The program is at fault, and the event has the state that the machine is left in. -/
  fault : ∀ {fault snapshot}, .fault fault snapshot ∈ events →
    fault.Internal ∧ ∃ m, last.session.machine = some m ∧ m.snapshot = snapshot

/-- Whatever a host does with a session, the events from one load to the next are in order. -/
theorem session_orderly {refuses : UInt32 → Bool} {before actions : List Action}
    {image : List UInt8} {record loaded last : Record}
    (hbefore : Reaches ⟨{ refuses },[]⟩ before record)
    (hload : Does record (.accepted (.loadProgram image)) loaded)
    (hafter : Reaches loaded actions last) (hsame : SameProgram actions) :
    ∃ events, last.events = record.events++events ∧
      Orderly record loaded actions last (image.length / 4) events := by
  obtain ⟨program,hm,hn⟩ := hload.loaded
  obtain ⟨rest,m,hm',hn',hrespects⟩ := hafter.respects hm hn id hsame
  have hcoalesced := hafter.coalesced (hload.coalesced (hbefore.coalesced ⟨.nil,by simp⟩))
  have hevents : last.events =
      record.events++(.programLoaded (image.length / 4)::rest.reverse) := by
    rw [Record.events_of_newest hn',hn]
    simp [Record.newest]
  refine ⟨_,hevents,rfl,?_,?_,?_,?_,?_⟩
  · intro earlier event later hsplit hfinal
    obtain ⟨older,_,hrest⟩ := rest_eq_of_split hsplit (by rintro rfl; exact hfinal)
    rcases hrespects hrest hfinal.not_isPrint with ⟨hlater,_⟩ | ⟨rfl,_⟩
    · simpa using hlater
    · exact absurd hfinal id
  · intro earlier later hsplit hlater
    obtain ⟨older,rfl,hrest⟩ := rest_eq_of_split hsplit (by simp)
    rcases hrespects hrest id with ⟨hnone,_⟩ | ⟨_,hanswered⟩
    · exact absurd (by simpa using hnone) hlater
    · rw [hn] at hanswered
      simpa [Record.newest] using hanswered
  · intro first later prior closed hactions _ hclosed hlast earlier newer hsplit
    have hlater : SameProgram later := fun image hmem => hsame image (by simp [hactions, hmem])
    obtain ⟨m',hmclosed,hc,hprior⟩ := hclosed.ended
    obtain ⟨older,rfl,hrest⟩ := rest_eq_of_split hsplit (by simp)
    have hnewest : last.newest = newer.reverse++.readLine::(older.reverse++loaded.newest) := by
      rw [hn',hrest]
      simp
    obtain ⟨newer',hnewer⟩ := (hlast.readLine_split hmclosed hc hlater).2 hnewest
    rw [hprior] at hnewer
    refine ⟨newer'.reverse,?_⟩
    rw [Record.events_of_newest hnewer,hn]
    simp [Record.newest]
  · intro batch hmem
    rcases List.mem_append.mp hmem with hmem | hmem
    · exact hcoalesced.2 batch hmem
    · rw [List.mem_singleton.mp hmem]
      exact hcoalesced.1.reverse
  · intro fault snapshot hmem
    obtain ⟨earlier,later,hsplit⟩ := List.append_of_mem hmem
    obtain ⟨older,_,hrest⟩ := rest_eq_of_split hsplit (by simp)
    rcases hrespects hrest id with ⟨_,hclosing⟩ | ⟨hr,_⟩
    · cases hclosing with
      | fault _ internal => exact ⟨internal,m,hm',rfl⟩
    · cases hr

/-- The program writes a byte, reads one, writes it and halts. The host feeds it before it drains. -/
theorem session_orderly_greeting :
    let refuses : UInt32 → Bool := fun _ => false
    let program : Array UInt32 := #[0xd0000048,0xa0000000,0xb0000001,0xa0000001,0x70000000]
    let image := Image.encode program
    let actions := [.pumped (some 9),.accepted (.readLineDone [105]),.drained,.pumped (some 2)]
    let start : Record := ⟨{ refuses },[]⟩
    ∃ loaded last, Reaches start [] start ∧ Does start (.accepted (.loadProgram image)) loaded ∧
      Reaches loaded actions last ∧ SameProgram actions ∧
      last.events = [.programLoaded 5,.print #[72],.readLine,.print #[105],.halted] ∧
      ∃ events, last.events = start.events++events ∧
        Orderly start loaded actions last (image.length / 4) events := by
  intro refuses program image actions start
  have hdecode : Image.decode image = .ok program := by cbv
  have hload : Session.handle { refuses } (.loadProgram image) =
      (.ok (),⟨refuses,some (.ofProgram refuses program),⟨[.programLoaded 5],none⟩⟩) :=
    Session.handle_loadProgram_iff.mpr ⟨program,hdecode,rfl⟩
  have hfeed :
      (Session.pump ⟨refuses,some (.ofProgram refuses program),⟨[.programLoaded 5],none⟩⟩ 9).2.handle
        (.readLineDone [105]) =
          (.ok (),⟨refuses,some (((Machine.ofProgram refuses program).runFor 9
            (⟨[.programLoaded 5],none⟩ : EventQueue)).machine.pushInput [105]),
            ⟨[.readLine,.print #[72],.programLoaded 5],none⟩⟩) := by cbv
  have hafter : Reaches
      ⟨⟨refuses,some (.ofProgram refuses program),⟨[.programLoaded 5],none⟩⟩,[]⟩ actions _ :=
    (((Reaches.start.does (.pumped 9)).does (.accepted hfeed)).does .drained).does (.pumped 2)
  have hsame : SameProgram actions := by simp [SameProgram, actions]
  exact ⟨_,_,.start,.accepted hload,hafter,hsame,by cbv,
    session_orderly .start (.accepted hload) hafter hsame⟩

end Protocol
end UniversalMachine
