import Mathlib
import UniversalMachine.Proofs.InTurn
import UniversalMachine.Session.Registry

/-! Sessions in a registry do not notice each other. What a host hears of one of them, and the state that
it is in, are those of a session alone that was asked the same. -/
namespace UniversalMachine

namespace Session

/-- What a host asks of one session. -/
inductive Call where
  | handle (request : Request)
  | pump (budget : Option ℕ)
  | drain
  | status

/-- What it hears. -/
inductive Answer where
  | handled (result : Except Error Unit)
  | status (status : Status)
  | events (events : List Event)

/-- Pumps with a budget or without one; `none` if a pump without one needs more than `fuel`
instructions. -/
def pumpWithin? (session : Session) (fuel : ℕ) : Option ℕ → Option (Status × Session)
  | some budget => some (session.pump budget)
  | none => session.pumpUntilStop? fuel

def perform? (fuel : ℕ) (session : Session) : Call → Option (Answer × Session)
  | .handle request => some (.handled (session.handle request).1,(session.handle request).2)
  | .pump budget =>
    (session.pumpWithin? fuel budget).map fun (status,session) => (.status status,session)
  | .drain => some (.events session.drain.1,session.drain.2)
  | .status => some (.status session.status,session)

end Session

namespace Registry

/-- What a host asks of a registry. -/
inductive Operation where
  | openSession
  | close (id : ℕ)
  /-- Asks something of the session `id`. -/
  | call (id : ℕ) (call : Session.Call)
  | pumpAll (budget : Option ℕ)

/-- What it hears. A call on a session that is not open is not answered, unless it is a request. -/
inductive Reply where
  | opened (id : ℕ)
  | closed (session : Option Session)
  | answered (answer : Option Session.Answer)
  | pumpedAll (statuses : List (ℕ × Session.Status))

def perform? (fuel : ℕ) (registry : Registry) : Operation → Option (Reply × Registry)
  | .openSession => some (.opened registry.openSession.1,registry.openSession.2)
  | .close id => some (.closed (registry.close id).1,(registry.close id).2)
  | .call id (.handle request) =>
    some (.answered (some (.handled (registry.handle id request).1)),(registry.handle id request).2)
  | .call id call =>
    match registry.get? id with
    | none => some (.answered none,registry)
    | some session =>
      (session.perform? fuel call).map fun (answer,session) =>
        (.answered (some answer),registry.set id session)
  | .pumpAll (some budget) => some (.pumpedAll (registry.pumpAll budget).1,(registry.pumpAll budget).2)
  | .pumpAll none =>
    (registry.pumpAllUntilStop? fuel).map fun (statuses,registry) => (.pumpedAll statuses,registry)

/-- What an operation asks of the session `id`. -/
def Operation.callTo? (id : ℕ) : Operation → Option Session.Call
  | .call other asked => if other = id then some asked else none
  | .pumpAll budget => some (.pump budget)
  | _ => none

/-- What an operation asked of the session `id`, and what the host heard of it. -/
def exchangeWith? (id : ℕ) : Operation × Reply → Option (Session.Call × Session.Answer)
  | (.call other call,.answered (some answer)) => if other = id then some (call,answer) else none
  | (.pumpAll budget,.pumpedAll statuses) =>
    (statuses.lookup id).map fun status => (.pump budget,.status status)
  | _ => none

section Lookup
variable {γ δ : Type}

theorem lookup_cons (id key : ℕ) (value : γ) (entries : List (ℕ × γ)) :
    List.lookup id ((key,value)::entries) = if id = key then some value else entries.lookup id := by
  by_cases h : id = key
  · simp [h]
  · have hne : (id == key) = false := by simpa using h
    simp [List.lookup_cons, hne, h]

theorem lookup_zip_map (ids : List ℕ) (values : List γ) (f : γ → δ) (id : ℕ) :
    (ids.zip (values.map f)).lookup id = ((ids.zip values).lookup id).map f := by
  induction ids generalizing values with
  | nil => rfl
  | cons key ids ih =>
    cases values with
    | nil => rfl
    | cons value values =>
      rw [List.map_cons,List.zip_cons_cons,List.zip_cons_cons,lookup_cons,lookup_cons,ih]
      split <;> rfl

theorem lookup_eq_none {entries : List (ℕ × γ)} {id : ℕ} :
    entries.lookup id = none ↔ id ∉ entries.map Prod.fst := by
  rw [List.lookup_eq_none_iff]
  constructor
  · intro h hmem
    obtain ⟨entry,he,rfl⟩ := List.mem_map.mp hmem
    simpa using h entry he
  · intro h entry he
    rw [bne_iff_ne]
    rintro rfl
    exact h (List.mem_map_of_mem he)

end Lookup

theorem get?_eq_none_iff {registry : Registry} {id : ℕ} : registry.get? id = none ↔ id ∉ registry.ids :=
  lookup_eq_none

theorem sessions_set (registry : Registry) (id : ℕ) (session : Session) :
    (registry.set id session).sessions =
      registry.sessions.map fun entry => if entry.1 = id then (id,session) else entry := by
  change (registry.sessions.map Prod.fst).zip (registry.sessions.map _) = _
  rw [List.zip_map']
  refine List.map_congr_left fun entry _ => ?_
  by_cases h : entry.1 = id <;> simp [h]

theorem get?_set (registry : Registry) (id other : ℕ) (session : Session) :
    (registry.set id session).get? other =
      if other = id then (registry.get? id).map fun _ => session else registry.get? other := by
  unfold get?
  rw [sessions_set]
  induction registry.sessions with
  | nil => simp
  | cons entry sessions ih =>
    obtain ⟨key,current⟩ := entry
    rw [List.map_cons,lookup_cons,lookup_cons]
    by_cases hk : key = id
    · subst hk
      rw [if_pos rfl,lookup_cons,if_pos rfl,ih]
      by_cases ho : other = key <;> simp [ho]
    · have hi : ¬ id = key := fun hi => hk hi.symm
      rw [if_neg hk,lookup_cons,if_neg hi,ih]
      by_cases ho : other = key
      · simp [ho, hk]
      · simp [ho]

theorem get?_close (registry : Registry) (id other : ℕ) :
    (registry.close id).2.get? other = if other = id then none else registry.get? other := by
  unfold get? close
  dsimp only
  induction registry.sessions with
  | nil => simp
  | cons entry sessions ih =>
    obtain ⟨key,current⟩ := entry
    rw [lookup_cons,List.filter_cons]
    by_cases hk : key = id
    · subst hk
      by_cases ho : other = key
      · simpa [ho] using ih
      · simpa [ho] using ih
    · by_cases ho : other = key
      · simp [ho, hk]
      · simpa [lookup_cons, ho, hk] using ih

theorem ids_set (registry : Registry) (id : ℕ) (session : Session) :
    (registry.set id session).ids = registry.ids := by
  unfold ids
  rw [sessions_set,List.map_map]
  refine List.map_congr_left fun entry _ => ?_
  by_cases h : entry.1 = id <;> simp [h]

theorem get?_openSession (registry : Registry) (id : ℕ) :
    registry.openSession.2.get? id =
      (registry.get? id).or
        (if id = registry.nextId then some { refuses := registry.refuses } else none) := by
  unfold get? openSession
  rw [List.lookup_append,lookup_cons]
  rfl

/-- The sessions of a registry, and what pumping each of them once made of them. -/
def Pumped (fuel : ℕ) (budget : Option ℕ) :
    List (ℕ × Session) → List (Session.Status × Session) → Prop :=
  List.Forall₂ fun entry pumped => entry.2.pumpWithin? fuel budget = some pumped

section Pumped
variable {fuel : ℕ} {budget : Option ℕ}

theorem pumped_map (fuel budget : ℕ) (sessions : List (ℕ × Session)) :
    Pumped fuel (some budget) sessions (sessions.map fun entry => entry.2.pump budget) := by
  induction sessions with
  | nil => exact .nil
  | cons entry sessions ih => exact .cons rfl ih

theorem pumped_mapM {sessions : List (ℕ × Session)} {pumped : List (Session.Status × Session)}
    (h : (sessions.mapM fun entry => entry.2.pumpUntilStop? fuel) = some pumped) :
    Pumped fuel none sessions pumped := by
  induction sessions generalizing pumped with
  | nil =>
    cases h
    exact .nil
  | cons entry sessions ih =>
    simp only [List.mapM_cons, Option.bind_eq_bind, Option.bind_eq_some_iff, Option.pure_def,
      Option.some.injEq] at h
    obtain ⟨stopped,hstopped,rest,hrest,rfl⟩ := h
    exact .cons hstopped (ih hrest)

/-- Pumping all sessions, with a budget or without one, pumps each of them. -/
theorem pumped_of_perform? {registry registry' : Registry} {reply : Reply}
    (h : registry.perform? fuel (.pumpAll budget) = some (reply,registry')) :
    ∃ pumped, Pumped fuel budget registry.sessions pumped ∧
      reply = .pumpedAll (registry.ids.zip (pumped.map Prod.fst)) ∧
      registry' = registry.withSessions (pumped.map Prod.snd) := by
  cases budget with
  | some budget =>
    cases h
    exact ⟨_,pumped_map fuel budget registry.sessions,rfl,rfl⟩
  | none =>
    simp only [perform?, pumpAllUntilStop?, Option.bind_eq_bind, Option.map_eq_some_iff,
      Option.bind_eq_some_iff, Option.some.injEq] at h
    obtain ⟨_,⟨pumped,hpumped,rfl⟩,hreply⟩ := h
    cases hreply
    exact ⟨pumped,pumped_mapM hpumped,rfl,rfl⟩

theorem Pumped.map_fst_zip {registry : Registry} {pumped : List (Session.Status × Session)}
    (h : Pumped fuel budget registry.sessions pumped) {α : Type} (f : Session.Status × Session → α) :
    (registry.ids.zip (pumped.map f)).map Prod.fst = registry.ids := by
  refine List.map_fst_zip (le_of_eq ?_)
  rw [ids,List.length_map,List.length_map,h.length_eq]

theorem Pumped.lookup {sessions : List (ℕ × Session)} {pumped : List (Session.Status × Session)}
    (h : Pumped fuel budget sessions pumped) {id : ℕ} {session : Session}
    (hs : sessions.lookup id = some session) :
    ∃ stopped, session.pumpWithin? fuel budget = some stopped ∧
      ((sessions.map Prod.fst).zip pumped).lookup id = some stopped := by
  induction h with
  | nil => cases hs
  | @cons entry stopped _ _ hstopped _ ih =>
    obtain ⟨key,current⟩ := entry
    rw [lookup_cons] at hs
    rw [List.map_cons,List.zip_cons_cons,lookup_cons]
    split at hs
    · next hk =>
      obtain rfl := Option.some.inj hs
      exact ⟨stopped,hstopped,if_pos hk⟩
    · next hk =>
      rw [if_neg hk]
      exact ih hs

end Pumped

/-- What an operation does to the numbers of the open sessions. -/
inductive Renumbers (registry registry' : Registry) : Operation × Reply → Prop
  | opened (ids : registry'.ids = registry.ids++[registry.nextId])
      (next : registry'.nextId = registry.nextId+1) :
      Renumbers registry registry' (.openSession,.opened registry.nextId)
  | closed {id session} (ids : registry'.ids = registry.ids.filter (· != id))
      (next : registry'.nextId = registry.nextId) :
      Renumbers registry registry' (.close id,.closed session)
  | kept {operation reply} (ids : registry'.ids = registry.ids)
      (next : registry'.nextId = registry.nextId) (notOpen : operation ≠ .openSession)
      (notClose : ∀ id, operation ≠ .close id) :
      Renumbers registry registry' (operation,reply)

section Step
variable {fuel : ℕ} {registry registry' : Registry} {operation : Operation} {reply : Reply}

/-- A call that is answered by the session `id` changes that session alone. -/
theorem perform?_call {id : ℕ} {call : Session.Call} {session : Session}
    (h : registry.perform? fuel (.call id call) = some (reply,registry'))
    (hg : registry.get? id = some session) :
    ∃ answer session', session.perform? fuel call = some (answer,session') ∧
      reply = .answered (some answer) ∧ registry' = registry.set id session' := by
  cases call with
  | handle request =>
    simp only [perform?, Registry.handle, hg] at h
    cases h
    exact ⟨_,_,rfl,rfl,rfl⟩
  | _ =>
    simp only [perform?, hg, Option.map_eq_some_iff] at h
    obtain ⟨⟨answer,session'⟩,ha,hreply⟩ := h
    cases hreply
    exact ⟨answer,session',ha,rfl,rfl⟩

/-- A call on a session that is not open changes nothing. -/
theorem perform?_call_of_none {id : ℕ} {call : Session.Call}
    (h : registry.perform? fuel (.call id call) = some (reply,registry'))
    (hg : registry.get? id = none) :
    registry' = registry ∧ ∀ request, call = .handle request →
      reply = .answered (some (.handled (.error (.unknownSession id)))) := by
  cases call with
  | handle request =>
    simp only [perform?, Registry.handle, hg] at h
    cases h
    exact ⟨rfl,fun _ _ => rfl⟩
  | _ =>
    simp only [perform?, hg] at h
    cases h
    exact ⟨rfl,by simp⟩

theorem renumbers_of_perform? (h : registry.perform? fuel operation = some (reply,registry')) :
    Renumbers registry registry' (operation,reply) := by
  cases operation with
  | openSession =>
    cases h
    exact .opened (by simp [ids, openSession]) rfl
  | close id =>
    cases h
    exact .closed (by simp [ids, close, List.filter_map, Function.comp_def]) rfl
  | pumpAll budget =>
    obtain ⟨_,hpumped,rfl,rfl⟩ := pumped_of_perform? h
    exact .kept (hpumped.map_fst_zip Prod.snd) rfl (by simp) (by simp)
  | call id call =>
    cases hg : registry.get? id with
    | none =>
      obtain ⟨rfl,_⟩ := perform?_call_of_none h hg
      exact .kept rfl rfl (by simp) (by simp)
    | some session =>
      obtain ⟨_,session',_,_,rfl⟩ := perform?_call h hg
      exact .kept (registry.ids_set id session') rfl (by simp) (by simp)

/-- All sessions of a registry are on one host. -/
theorem perform?_refuses (h : registry.perform? fuel operation = some (reply,registry')) :
    registry'.refuses = registry.refuses := by
  cases operation with
  | openSession =>
    cases h
    rfl
  | close id =>
    cases h
    rfl
  | pumpAll budget =>
    obtain ⟨_,_,_,rfl⟩ := pumped_of_perform? h
    rfl
  | call id call =>
    cases hg : registry.get? id with
    | none =>
      obtain ⟨rfl,_⟩ := perform?_call_of_none h hg
      rfl
    | some session =>
      obtain ⟨_,_,_,_,rfl⟩ := perform?_call h hg
      rfl

/-- An operation does to the session `id` what it would do to it alone. -/
theorem perform?_isolated {id : ℕ} {session : Session}
    (h : registry.perform? fuel operation = some (reply,registry'))
    (hg : registry.get? id = some session) (hc : operation ≠ .close id) :
    ∃ session', registry'.get? id = some session' ∧
      inTurn? (Session.perform? fuel) session (operation.callTo? id).toList =
        some ((exchangeWith? id (operation,reply)).toList,session') := by
  cases operation with
  | openSession =>
    cases h
    exact ⟨session,by rw [get?_openSession,hg]; rfl,rfl⟩
  | close other =>
    cases h
    have hne : id ≠ other := fun hi => hc (by rw [hi])
    exact ⟨session,by rw [get?_close,if_neg hne,hg],rfl⟩
  | pumpAll budget =>
    obtain ⟨pumped,hpumped,rfl,rfl⟩ := pumped_of_perform? h
    obtain ⟨⟨status,session'⟩,hstopped,hlookup⟩ := hpumped.lookup hg
    have hpart {α : Type} (f : Session.Status × Session → α) :
        (registry.ids.zip (pumped.map f)).lookup id = some (f (status,session')) := by
      rw [lookup_zip_map,ids,hlookup]
      rfl
    refine ⟨session',hpart Prod.snd,?_⟩
    simp [Operation.callTo?, exchangeWith?, hpart, inTurn?, Session.perform?, hstopped]
  | call other call =>
    by_cases ho : other = id
    · subst ho
      obtain ⟨answer,session',ha,rfl,rfl⟩ := perform?_call h hg
      refine ⟨session',?_,by simp [Operation.callTo?, exchangeWith?, inTurn?, ha]⟩
      rw [get?_set,if_pos rfl,hg]
      rfl
    · have hx : exchangeWith? id (.call other call,reply) = none := by
        unfold exchangeWith?
        split
        · next heq =>
          cases heq
          exact if_neg ho
        · next heq => cases heq
        · rfl
      have hcall : Operation.callTo? id (.call other call) = none := if_neg ho
      rw [hx,hcall]
      refine ⟨session,?_,rfl⟩
      cases hother : registry.get? other with
      | none =>
        obtain ⟨rfl,_⟩ := perform?_call_of_none h hother
        exact hg
      | some current =>
        obtain ⟨_,session',_,_,rfl⟩ := perform?_call h hother
        rw [get?_set,if_neg fun hi => ho hi.symm,hg]

end Step

/-- The numbers that a host was given. -/
def openedIds (log : List (Operation × Reply)) : List ℕ :=
  log.filterMap fun
    | (.openSession,.opened id) => some id
    | _ => none

/-- The session `id` was opened, and not closed since. -/
def IsOpen (log : List (Operation × Reply)) (id : ℕ) : Prop :=
  ∃ before after, log = before++(Operation.openSession,Reply.opened id)::after ∧
    ∀ reply, (.close id,reply) ∉ after

theorem isOpen_append {log : List (Operation × Reply)} {entry : Operation × Reply} {id : ℕ} :
    IsOpen (log++[entry]) id ↔
      entry = (.openSession,.opened id) ∨
      (IsOpen log id ∧ ∀ reply, entry ≠ (.close id,reply)) := by
  constructor
  · rintro ⟨before,after,hlog,hafter⟩
    rcases List.eq_nil_or_concat after with rfl | ⟨after,last,rfl⟩
    · obtain ⟨_,hentry⟩ := List.append_inj' hlog rfl
      exact .inl (List.cons.inj hentry).1
    · rw [List.concat_eq_append] at hlog hafter
      rw [← List.cons_append,← List.append_assoc] at hlog
      obtain ⟨rfl,hentry⟩ := List.append_inj' hlog rfl
      obtain ⟨rfl,_⟩ := List.cons.inj hentry
      refine .inr ⟨⟨before,after,rfl,fun reply hmem => ?_⟩,?_⟩
      · exact hafter reply (List.mem_append_left _ hmem)
      · rintro reply rfl
        exact hafter reply (List.mem_append_right _ (List.mem_singleton_self _))
  · rintro (rfl | ⟨⟨before,after,rfl,hafter⟩,hentry⟩)
    · exact ⟨log,[],rfl,by simp⟩
    · refine ⟨before,after++[entry],by simp,fun reply hmem => ?_⟩
      rcases List.mem_append.mp hmem with hmem | hmem
      · exact hafter reply hmem
      · exact hentry reply (List.mem_singleton.mp hmem).symm

/-- The numbers of a registry, next to what was done to it. -/
structure Numbered (log : List (Operation × Reply)) (registry : Registry) : Prop where
  isOpen : ∀ id, id ∈ registry.ids ↔ IsOpen log id
  increasing : (openedIds log).Pairwise (· < ·)
  below : ∀ id ∈ openedIds log, id < registry.nextId

theorem Numbered.empty (refuses : UInt32 → Bool) : Numbered [] (.empty refuses) where
  isOpen := by simp [ids, Registry.empty, IsOpen]
  increasing := .nil
  below := by simp [openedIds]

theorem Numbered.step {log : List (Operation × Reply)} {registry registry' : Registry}
    {entry : Operation × Reply} (h : Numbered log registry) (hr : Renumbers registry registry' entry) :
    Numbered (log++[entry]) registry' := by
  obtain ⟨hopen,hopened,hopenedBelow⟩ := h
  cases hr with
  | opened ids next =>
    have hids : openedIds (log++[(.openSession,.opened registry.nextId)]) =
        openedIds log++[registry.nextId] := List.filterMap_append
    obtain ⟨hgiven,hgivenBelow⟩ := increasing_append hopened hopenedBelow
    refine ⟨?_,by rwa [hids],by rwa [hids,next]⟩
    intro id
    rw [isOpen_append,← hopen,ids]
    simp [or_comm, eq_comm]
  | @closed id session ids next =>
    have hids : openedIds (log++[(.close id,.closed session)]) = openedIds log := by
      simp [openedIds]
    refine ⟨fun other => ?_,by rwa [hids],by rwa [hids,next]⟩
    rw [isOpen_append,← hopen,ids,List.mem_filter,bne_iff_ne]
    constructor
    · rintro ⟨hmem,hne⟩
      refine .inr ⟨hmem,fun reply heq => ?_⟩
      cases heq
      exact hne rfl
    · rintro (heq | ⟨hmem,hne⟩)
      · cases heq
      · refine ⟨hmem,?_⟩
        rintro rfl
        exact hne _ rfl
  | @kept operation reply ids next notOpen notClose =>
    have hids : openedIds (log++[(operation,reply)]) = openedIds log := by
      cases operation with
      | openSession => exact absurd rfl notOpen
      | _ => simp [openedIds]
    refine ⟨?_,by rwa [hids],by rwa [hids,next]⟩
    intro id
    rw [isOpen_append,← hopen,ids]
    simp [notOpen, notClose]

/-- A number that was given up is never used again. -/
def GivenUp (id : ℕ) (registry : Registry) : Prop := id < registry.nextId ∧ id ∉ registry.ids

theorem GivenUp.step {id : ℕ} {registry registry' : Registry} {entry : Operation × Reply}
    (h : GivenUp id registry) (hr : Renumbers registry registry' entry) : GivenUp id registry' := by
  obtain ⟨hlt,hmem⟩ := h
  cases hr with
  | opened ids next =>
    refine ⟨by omega,?_⟩
    rw [ids]
    simp only [List.mem_append, List.mem_singleton, not_or]
    exact ⟨hmem,by omega⟩
  | closed ids next =>
    refine ⟨by omega,?_⟩
    rw [ids]
    exact fun hid => hmem (List.mem_filter.mp hid).1
  | kept ids next => exact ⟨by omega,by rwa [ids]⟩

section Run
variable {fuel : ℕ} {refuses : UInt32 → Bool} {operations : List Operation}
  {log : List (Operation × Reply)} {registry registry' : Registry}

theorem numbered_of_inTurn?
    (h : inTurn? (perform? fuel) (.empty refuses) operations = some (log,registry)) :
    Numbered log registry :=
  inTurn?_induction (.empty refuses) (fun hn hp => hn.step (renumbers_of_perform? hp)) h

theorem refuses_of_inTurn? (h : inTurn? (perform? fuel) registry operations = some (log,registry')) :
    registry'.refuses = registry.refuses :=
  inTurn?_induction (P := fun _ current => current.refuses = registry.refuses) rfl
    (fun hr hp => (perform?_refuses hp).trans hr) h

theorem GivenUp.inTurn? {id : ℕ} (hid : GivenUp id registry)
    (h : inTurn? (perform? fuel) registry operations = some (log,registry')) :
    GivenUp id registry' :=
  inTurn?_induction (P := fun _ => GivenUp id) hid
    (fun hg hp => hg.step (renumbers_of_perform? hp)) h

/-- The operations on a registry do to the session `id` what they would do to it alone. -/
theorem inTurn?_isolated {id : ℕ} {session : Session} (hg : registry.get? id = some session)
    (h : inTurn? (perform? fuel) registry operations = some (log,registry'))
    (hc : ∀ reply, (.close id,reply) ∉ log) :
    ∃ session', registry'.get? id = some session' ∧
      inTurn? (Session.perform? fuel) session (log.filterMap fun entry => entry.1.callTo? id) =
        some (log.filterMap (exchangeWith? id),session') := by
  revert hc
  refine inTurn?_induction (P := fun log registry' => (∀ reply, (.close id,reply) ∉ log) →
    ∃ session', registry'.get? id = some session' ∧
      inTurn? (Session.perform? fuel) session (log.filterMap fun entry => entry.1.callTo? id) =
        some (log.filterMap (exchangeWith? id),session')) ?_ ?_ h
  · exact fun _ => ⟨session,hg,rfl⟩
  · intro log mid operation reply next ih hp hc
    obtain ⟨current,hcurrent,hturn⟩ := ih fun reply hmem => hc reply (List.mem_append_left _ hmem)
    have hne : operation ≠ .close id := by
      rintro rfl
      exact hc reply (List.mem_append_right _ (List.mem_singleton_self _))
    obtain ⟨session',hsession',hnext⟩ := perform?_isolated hp hcurrent hne
    refine ⟨session',hsession',?_⟩
    have hsingle : ∀ {γ : Type} (f : Operation × Reply → Option γ),
        (log++[(operation,reply)]).filterMap f = log.filterMap f++(f (operation,reply)).toList := by
      intro γ f
      rw [List.filterMap_append]
      cases hf : f (operation,reply) <;> simp [hf]
    rw [hsingle,hsingle]
    exact inTurn?_append hturn hnext

end Run

/-- The sessions of a registry keep to themselves. -/
structure Isolated (fuel : ℕ) (refuses : UInt32 → Bool) (log : List (Operation × Reply))
    (registry : Registry) : Prop where
  /-- A session that is open is in the state of a session alone, and has answered like it. -/
  alone : ∀ {before id after}, log = before++(Operation.openSession,Reply.opened id)::after →
    (∀ reply, (.close id,reply) ∉ after) →
    ∃ session, registry.get? id = some session ∧
      inTurn? (Session.perform? fuel) { refuses } (after.filterMap fun entry => entry.1.callTo? id) =
        some (after.filterMap (exchangeWith? id),session)
  distinct : (openedIds log).Nodup
  /-- Pumping all sessions tells of the open ones, each once, in increasing order. -/
  pumpedAll : ∀ {before budget reply after}, log = before++(Operation.pumpAll budget,reply)::after →
    ∃ statuses, reply = .pumpedAll statuses ∧ (statuses.map Prod.fst).Pairwise (· < ·) ∧
      ∀ id, id ∈ statuses.map Prod.fst ↔ IsOpen before id
  closed : ∀ {first id middle session later request reply last},
    log = first++(Operation.openSession,Reply.opened id)::middle++(Operation.close id,session)::later++
      (Operation.call id (.handle request),reply)::last →
    reply = .answered (some (.handled (.error (.unknownSession id))))

/-- Whatever a host does with a registry, its sessions keep to themselves. -/
theorem sessions_isolated {fuel : ℕ} {refuses : UInt32 → Bool} {operations : List Operation}
    {log : List (Operation × Reply)} {registry : Registry}
    (h : inTurn? (perform? fuel) (.empty refuses) operations = some (log,registry)) :
    Isolated fuel refuses log registry := by
  refine ⟨?_,?_,?_,?_⟩
  · rintro before id after rfl hc
    obtain ⟨mid,next,_,_,hbefore,hopen,hafter⟩ := inTurn?_split h
    cases hopen
    refine inTurn?_isolated ?_ hafter hc
    have hfresh : mid.get? mid.nextId = none := by
      rw [get?_eq_none_iff]
      intro hmem
      exact absurd (mid.below _ hmem) (lt_irrefl _)
    have hrefuses : mid.refuses = refuses := refuses_of_inTurn? hbefore
    rw [get?_openSession,hrefuses]
    change (mid.get? mid.nextId).or _ = _
    rw [hfresh]
    exact if_pos rfl
  · exact (numbered_of_inTurn? h).increasing.imp fun hlt => hlt.ne
  · rintro before budget reply after rfl
    obtain ⟨mid,next,_,_,hbefore,hpump,_⟩ := inTurn?_split h
    obtain ⟨_,hpumped,rfl,_⟩ := pumped_of_perform? hpump
    refine ⟨_,rfl,?_,?_⟩
    · rw [hpumped.map_fst_zip]
      exact mid.increasing
    · intro id
      rw [hpumped.map_fst_zip]
      exact (numbered_of_inTurn? hbefore).isOpen id
  · rintro first id middle session later request reply last rfl
    obtain ⟨asked,_,_,_,hbefore,hhandle,_⟩ := inTurn?_split h
    obtain ⟨mid,next,_,_,hopened,hclose,hlater⟩ := inTurn?_split hbefore
    have hgiven : GivenUp id next := by
      have hlt := (numbered_of_inTurn? hopened).below id (by simp [openedIds])
      cases renumbers_of_perform? hclose with
      | closed ids hnext =>
        refine ⟨hnext ▸ hlt,?_⟩
        rw [ids]
        simp
      | kept _ _ _ notClose => exact absurd rfl (notClose id)
    have hnone : asked.get? id = none := get?_eq_none_iff.mpr (hgiven.inTurn? hlater).2
    exact (perform?_call_of_none hhandle hnone).2 request rfl

/-- The second session is closed before it has a program, and its number is not used again. The first
halts when all are pumped. -/
theorem sessions_isolated_closed :
    let refuses : UInt32 → Bool := fun _ => false
    let image := Image.encode #[0xd0000048,0xa0000000,0x70000000]
    let operations : List Operation :=
      [.openSession,.openSession,.call 0 (.handle (.loadProgram image)),.pumpAll (some 2),.close 1,
        .openSession,.call 1 (.handle .endOfInput),.pumpAll none,.call 0 .drain]
    ∃ log registry, inTurn? (perform? 9) (.empty refuses) operations = some (log,registry) ∧
      openedIds log = [0,1,2] ∧
      log.filterMap (exchangeWith? 0) =
        [(.handle (.loadProgram image),.handled (.ok ())),(.pump (some 2),.status .running),
          (.pump none,.status .halted),
          (.drain,.events [.programLoaded 3,.print #[72],.halted])] ∧
      Isolated 9 refuses log registry := by
  intro refuses image operations
  have hopened : (inTurn? (perform? 9) (.empty refuses) operations).map
      (fun done => openedIds done.1) = some [0,1,2] := by cbv
  have hexchanged : (inTurn? (perform? 9) (.empty refuses) operations).map
      (fun done => done.1.filterMap (exchangeWith? 0)) =
        some [(.handle (.loadProgram image),.handled (.ok ())),(.pump (some 2),.status .running),
          (.pump none,.status .halted),
          (.drain,.events [.programLoaded 3,.print #[72],.halted])] := by cbv
  obtain ⟨⟨log,registry⟩,hrun,hlog⟩ := Option.map_eq_some_iff.mp hopened
  rw [hrun] at hexchanged
  exact ⟨log,registry,hrun,hlog,Option.some.inj hexchanged,sessions_isolated hrun⟩

end Registry
end UniversalMachine
