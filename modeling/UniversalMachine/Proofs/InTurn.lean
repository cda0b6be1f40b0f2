import Mathlib

/-! Requests that are made one after the other, each with an answer, of something that may not come back from
one of them. -/
namespace UniversalMachine

variable {σ α β : Type} {perform? : σ → α → Option (β × σ)}

/-- Performs requests in turn, and notes each of them with its answer. -/
def inTurn? (perform? : σ → α → Option (β × σ)) (s : σ) : List α → Option (List (α × β) × σ)
  | [] => some ([],s)
  | a::as => do
    let (b,s) ← perform? s a
    let (log,s) ← inTurn? perform? s as
    return ((a,b)::log,s)

theorem inTurn?_cons (s : σ) (a : α) (as : List α) :
    inTurn? perform? s (a::as) = (perform? s a).bind fun done =>
      (inTurn? perform? done.2 as).map fun rest => ((a,done.1)::rest.1,rest.2) := by
  simp [inTurn?, Option.bind_eq_bind, Option.map_eq_bind]

theorem inTurn?_cons_iff {s s' : σ} {a : α} {as : List α} {log : List (α × β)} :
    inTurn? perform? s (a::as) = some (log,s') ↔
      ∃ b mid rest, perform? s a = some (b,mid) ∧ inTurn? perform? mid as = some (rest,s') ∧
        log = (a,b)::rest := by
  simp only [inTurn?, Option.bind_eq_bind, Option.bind_eq_some_iff, Option.pure_def,
    Option.some.injEq, Prod.mk.injEq, Prod.exists]
  constructor
  · rintro ⟨b,mid,hb,rest,s'',hrest,rfl,rfl⟩
    exact ⟨b,mid,rest,hb,hrest,rfl⟩
  · rintro ⟨b,mid,rest,hb,hrest,rfl⟩
    exact ⟨b,mid,hb,rest,s',hrest,rfl,rfl⟩

theorem inTurn?_singleton {s s' : σ} {a : α} {b : β} (h : perform? s a = some (b,s')) :
    inTurn? perform? s [a] = some ([(a,b)],s') :=
  inTurn?_cons_iff.mpr ⟨b,s',[],h,rfl,rfl⟩

theorem inTurn?_append {s mid s' : σ} {first later : List α} {log log' : List (α × β)}
    (h : inTurn? perform? s first = some (log,mid))
    (h' : inTurn? perform? mid later = some (log',s')) :
    inTurn? perform? s (first++later) = some (log++log',s') := by
  induction first generalizing s log with
  | nil =>
    cases h
    exact h'
  | cons a first ih =>
    obtain ⟨b,next,rest,hb,hrest,rfl⟩ := inTurn?_cons_iff.mp h
    exact inTurn?_cons_iff.mpr ⟨b,next,rest++log',hb,ih hrest,rfl⟩

/-- The states around one request of a log. -/
theorem inTurn?_split {s s' : σ} {as : List α} {before after : List (α × β)} {a : α} {b : β}
    (h : inTurn? perform? s as = some (before++(a,b)::after,s')) :
    ∃ mid next first later, inTurn? perform? s first = some (before,mid) ∧
      perform? mid a = some (b,next) ∧ inTurn? perform? next later = some (after,s') := by
  induction before generalizing s as with
  | nil =>
    cases as with
    | nil => cases h
    | cons a' as =>
      obtain ⟨b',next,rest,hb,hrest,hlog⟩ := inTurn?_cons_iff.mp h
      cases hlog
      exact ⟨s,next,[],as,rfl,hb,hrest⟩
  | cons entry before ih =>
    cases as with
    | nil => cases h
    | cons a' as =>
      obtain ⟨b',next,rest,hb,hrest,hlog⟩ := inTurn?_cons_iff.mp h
      cases hlog
      obtain ⟨mid,mid',first,later,hfirst,hlater⟩ := ih hrest
      exact ⟨mid,mid',a'::first,later,inTurn?_cons_iff.mpr ⟨b',next,before,hb,hfirst,rfl⟩,hlater⟩

/-- What holds of the start, and is kept by every request, holds at the end. -/
theorem inTurn?_induction {P : List (α × β) → σ → Prop} {s : σ} (hstart : P [] s)
    (hstep : ∀ {log mid a b next}, P log mid → perform? mid a = some (b,next) →
      P (log++[(a,b)]) next)
    {as : List α} {log : List (α × β)} {s' : σ} (h : inTurn? perform? s as = some (log,s')) :
    P log s' := by
  suffices hprior : ∀ {prior log s as}, P prior s → inTurn? perform? s as = some (log,s') →
      P (prior++log) s' from hprior hstart h
  intro prior log s as hp h
  induction as generalizing prior log s with
  | nil =>
    cases h
    rwa [List.append_nil]
  | cons a as ih =>
    obtain ⟨b,next,rest,hb,hrest,rfl⟩ := inTurn?_cons_iff.mp h
    have hnext := ih (hstep hp hb) hrest
    rwa [List.append_assoc] at hnext

/-- Related states that give the same answers stay related, and give the same answers in turn. -/
theorem inTurn?_rel {τ : Type} {other? : τ → α → Option (β × τ)} {R : σ → τ → Prop}
    (h : ∀ {s t}, R s t → ∀ a,
      Option.Rel (fun x y => x.1 = y.1 ∧ R x.2 y.2) (perform? s a) (other? t a))
    {s : σ} {t : τ} (hst : R s t) (as : List α) :
    Option.Rel (fun x y => x.1 = y.1 ∧ R x.2 y.2) (inTurn? perform? s as) (inTurn? other? t as) := by
  induction as generalizing s t with
  | nil => exact .some ⟨rfl,hst⟩
  | cons a as ih =>
    have hfirst := h hst a
    rw [inTurn?_cons,inTurn?_cons]
    generalize perform? s a = x at hfirst ⊢
    generalize other? t a = y at hfirst ⊢
    cases hfirst with
    | none => exact .none
    | @some x y hxy =>
      obtain ⟨hanswer,hnext⟩ := hxy
      have hlater := ih hnext
      simp only [Option.bind_some, hanswer]
      generalize inTurn? perform? x.2 as = u at hlater ⊢
      generalize inTurn? other? y.2 as = v at hlater ⊢
      cases hlater with
      | none => exact .none
      | @some u v huv =>
        obtain ⟨hlog,hend⟩ := huv
        simp only [Option.map_some, hlog]
        exact .some ⟨rfl,hend⟩

/-- Related results that show the same are the same to the eye, also when there are none. -/
theorem map_eq_of_rel {α β γ : Type} {R : α → β → Prop} {f : α → γ} {g : β → γ}
    (hR : ∀ {a b}, R a b → f a = g b) {x : Option α} {y : Option β} (h : Option.Rel R x y) :
    x.map f = y.map g := by
  cases h with
  | none => rfl
  | some hab => exact congrArg some (hR hab)

end UniversalMachine
