import Mathlib
import UniversalMachine.Proofs.Contact
import UniversalMachine.Proofs.Streams

/-! The calls on a sink that may fail. As long as no call has failed, the log holds the bytes of the
executed output instructions. The earliest failure is returned at once, or held back until the next
write, flush or halt; either way no run that met it comes back as a success. -/
namespace UniversalMachine.Device

/-- The failure that a call reports, if any. A write that was interrupted is tried again. -/
def Call.failure? : Call → Option Kind
  | .write _ .accepted => none
  | .write _ .nothingWritten => some .writeZero
  | .write _ (.failed kind) => if kind = .interrupted then none else some kind
  | .flush failure => failure

/-- A write that was interrupted is followed by another one of the same byte. -/
def Call.Retried (call next : Call) : Prop :=
  ∀ byte, call = .write byte (.failed .interrupted) → ∃ answer, next = .write byte answer

/-- A log in which nothing has failed, and the bytes that were accepted. -/
inductive Clean : List Call → List UInt8 → Prop
  | nil : Clean [] []
  | flush {calls bytes} (earlier : Clean calls bytes) : Clean (calls++[Call.flush none]) bytes
  | write {calls bytes} (earlier : Clean calls bytes) (byte : UInt8) (tries : ℕ) :
      Clean (calls++(List.replicate tries (Call.write byte (.failed .interrupted))++
        [Call.write byte .accepted])) (bytes++[byte])

namespace Clean

variable {calls : List Call} {bytes : List UInt8} (h : Clean calls bytes)
include h

theorem answers : ∀ call ∈ calls, call = .flush none ∨
    ∃ byte, call = .write byte .accepted ∨ call = .write byte (.failed .interrupted) := by
  induction h with
  | nil => simp
  | flush _ ih =>
    intro call hc
    rcases List.mem_append.mp hc with hc | hc
    · exact ih call hc
    · exact .inl (List.mem_singleton.mp hc)
  | write _ byte tries ih =>
    intro call hc
    rcases List.mem_append.mp hc with hc | hc
    · exact ih call hc
    · rcases List.mem_append.mp hc with hc | hc
      · exact .inr ⟨byte,.inr (List.eq_of_mem_replicate hc)⟩
      · exact .inr ⟨byte,.inl (List.mem_singleton.mp hc)⟩

theorem findSome?_eq_none : calls.findSome? Call.failure? = none := by
  rw [List.findSome?_eq_none_iff]
  intro call hc
  rcases h.answers call hc with rfl | ⟨byte,rfl | rfl⟩ <;> rfl

/-- The last call of the log, if there is one, is not left to be tried again. -/
theorem retried_last : ∀ call ∈ calls.getLast?, ∀ next, call.Retried next := by
  cases h with
  | nil => simp
  | flush => simp [Call.Retried]
  | write => simp [Call.Retried]

theorem retried : calls.IsChain Call.Retried := by
  induction h with
  | nil => simp
  | flush earlier ih =>
    rw [List.isChain_append]
    exact ⟨ih,by simp,fun call hc next _ => earlier.retried_last call hc next⟩
  | write earlier byte tries ih =>
    have hsame : Call.Retried (.write byte (.failed .interrupted))
        (.write byte (.failed .interrupted)) := fun _ h => ⟨_,by cases h; rfl⟩
    have hlast : Call.Retried (.write byte (.failed .interrupted)) (.write byte .accepted) :=
      fun _ h => ⟨_,by cases h; rfl⟩
    rw [List.isChain_append]
    refine ⟨ih,?_,fun call hc next _ => earlier.retried_last call hc next⟩
    rw [List.isChain_append]
    refine ⟨List.isChain_replicate_of_rel tries hsame,by simp,?_⟩
    intro call hc next hn
    rw [List.eq_of_mem_replicate (List.mem_of_getLast? hc)]
    obtain rfl : next = .write byte .accepted := by simpa using hn.symm
    exact hlast

end Clean

namespace ScriptedSink

/-- The calls so far, in order. -/
def log (sink : ScriptedSink) : List Call := sink.calls.toList

/-- The kind of the earliest failure. -/
def firstFailure? (sink : ScriptedSink) : Option Kind := sink.log.findSome? Call.failure?

theorem written_of_clean {sink : ScriptedSink} {bytes : List UInt8} (h : Clean sink.log bytes) :
    sink.written = bytes := by
  unfold written
  change sink.log.filterMap _ = bytes
  generalize sink.log = calls at h
  induction h with
  | nil => rfl
  | flush _ ih => simp [ih]
  | write _ byte tries ih => simp [ih]

/-- Attempts end with one that was not interrupted, and its answer is the result. -/
theorem attempt_spec (byte : UInt8) (writes : List WriteAnswer) (calls : Array Call) :
    ∃ tries answer, (attempt byte writes calls).2.2.toList = calls.toList++
        (List.replicate tries (Call.write byte (.failed .interrupted))++
          [Call.write byte answer]) ∧
      ((attempt byte writes calls).1 = .ok () ∧ answer = .accepted ∨
        ∃ error, (attempt byte writes calls).1 = .error error ∧
          Call.failure? (.write byte answer) = some error.kind) := by
  induction writes generalizing calls with
  | nil => exact ⟨0,.accepted,by simp [attempt],.inl ⟨rfl,rfl⟩⟩
  | cons answer rest ih =>
    cases answer with
    | accepted => exact ⟨0,.accepted,by simp [attempt],.inl ⟨rfl,rfl⟩⟩
    | nothingWritten => exact ⟨0,.nothingWritten,by simp [attempt],.inr ⟨wroteNothing,rfl,rfl⟩⟩
    | failed kind =>
      by_cases hk : kind = .interrupted
      · subst hk
        obtain ⟨tries,answer,hlog,hresult⟩ := ih (calls.push (.write byte (.failed .interrupted)))
        refine ⟨tries+1,answer,?_,hresult⟩
        simpa [attempt, List.replicate_succ] using hlog
      · refine ⟨0,.failed kind,by simp [attempt],.inr ⟨.ofKind kind,by simp [attempt],?_⟩⟩
        simp [Call.failure?, hk, Error.ofKind]

/-- A failure stays the earliest one. -/
theorem firstFailure?_of_append {sink sink' : ScriptedSink} {more : List Call} {kind : Kind}
    (hlog : sink'.log = sink.log++more) (h : sink.firstFailure? = some kind) :
    sink'.firstFailure? = some kind := by
  unfold firstFailure? at h ⊢
  rw [hlog,List.findSome?_append,h]
  rfl

theorem firstFailure?_of_clean {sink sink' : ScriptedSink} {bytes : List UInt8} {more : List Call}
    {kind : Kind} (h : Clean sink.log bytes) (hlog : sink'.log = sink.log++more)
    (hmore : more.findSome? Call.failure? = some kind) : sink'.firstFailure? = some kind := by
  unfold firstFailure?
  rw [hlog,List.findSome?_append,h.findSome?_eq_none,hmore]
  rfl

theorem put_spec {sink : ScriptedSink} {bytes : List UInt8} (h : Clean sink.log bytes)
    (byte : UInt8) :
    ((sink.put byte).1 = .ok () ∧ Clean (sink.put byte).2.log (bytes++[byte])) ∨
    ∃ error, (sink.put byte).1 = .error error ∧
      (sink.put byte).2.firstFailure? = some error.kind := by
  obtain ⟨tries,answer,hlog,hresult⟩ := attempt_spec byte sink.writes sink.calls
  have hput : (sink.put byte).2.log = sink.log++
      (List.replicate tries (Call.write byte (.failed .interrupted))++
        [Call.write byte answer]) := hlog
  rcases hresult with ⟨hok,rfl⟩ | ⟨error,herror,hkind⟩
  · left
    refine ⟨hok,?_⟩
    rw [hput]
    exact h.write byte tries
  · right
    have htries : (List.replicate tries (Call.write byte (.failed .interrupted))).findSome?
        Call.failure? = none := by
      rw [List.findSome?_eq_none_iff]
      intro call hc
      rw [List.eq_of_mem_replicate hc]
      rfl
    refine ⟨error,herror,firstFailure?_of_clean h hput ?_⟩
    rw [List.findSome?_append,htries,List.findSome?_singleton,hkind]
    rfl

theorem flush_spec (sink : ScriptedSink) :
    (sink.flush.1 = .ok () ∧ sink.flush.2.log = sink.log++[Call.flush none]) ∨
    ∃ error, sink.flush.1 = .error error ∧
      sink.flush.2.log = sink.log++[Call.flush (some error.kind)] := by
  unfold flush
  cases hf : sink.flushes with
  | nil => exact .inl ⟨rfl,by simp [log]⟩
  | cons answer flushes =>
    cases answer with
    | none => exact .inl ⟨rfl,by simp [log]⟩
    | some kind => exact .inr ⟨.ofKind kind,rfl,by simp [log, Error.ofKind]⟩

end ScriptedSink
end UniversalMachine.Device

namespace UniversalMachine.StreamConsole
open Device

/-- Either nothing has failed, and the sink has accepted `bytes`, or the earliest failure is held
back. -/
inductive Accounts (console : StreamConsole ScriptedSink) (bytes : List UInt8) : Prop
  | clean (held : console.held = none) (log : Clean console.sink.log bytes)
  | holds {error} (held : console.held = some error)
      (first : console.sink.firstFailure? = some error.kind)

variable {console : StreamConsole ScriptedSink} {bytes : List UInt8}

/-- The flush before a read may fail; then the failure is held back, unless one is held already. -/
theorem Accounts.readLine (h : console.Accounts bytes) : console.readLine.2.Accounts bytes := by
  have hsink : console.readLine.2.sink = console.sink.flush.2 := rfl
  rcases console.sink.flush_spec with ⟨hok,hlog⟩ | ⟨error,herror,hlog⟩
  · have hheld := readLine_held_of_ok hok
    cases h with
    | clean held log =>
      refine .clean (hheld.trans held) ?_
      rw [hsink,hlog]
      exact log.flush
    | holds held first =>
      exact .holds (hheld.trans held) (ScriptedSink.firstFailure?_of_append hlog first)
  · have hheld := readLine_held_of_error herror
    cases h with
    | clean held log =>
      rw [held] at hheld
      exact .holds hheld (ScriptedSink.firstFailure?_of_clean log hlog rfl)
    | holds held first =>
      rw [held] at hheld
      exact .holds hheld (ScriptedSink.firstFailure?_of_append hlog first)

/-- The answer of a call that reports failures: a success leaves a console as `P` says, and a failure is
the earliest one. -/
inductive Surfaces (P : StreamConsole ScriptedSink → Prop) :
    Except Error Unit × StreamConsole ScriptedSink → Prop
  | ok {next} (success : P next) : Surfaces P (.ok (),next)
  | error {error next} (first : next.sink.firstFailure? = some error.kind) :
      Surfaces P (.error error,next)

/-- A console that has just been flushed. -/
structure Flushed (bytes : List UInt8) (console : StreamConsole ScriptedSink) : Prop where
  held : console.held = none
  clean : Clean console.sink.log bytes
  last : console.sink.log.getLast? = some (.flush none)

theorem Accounts.flush (h : console.Accounts bytes) : Surfaces (Flushed bytes) console.flush := by
  cases h with
  | holds held first =>
    rw [flush_of_held held]
    exact .error first
  | clean held log =>
    rw [flush_of_none held]
    change Surfaces _ (console.sink.flush.1,{ console with sink := console.sink.flush.2 })
    rcases console.sink.flush_spec with ⟨hok,hlog⟩ | ⟨error,herror,hlog⟩
    · rw [hok]
      refine .ok ⟨held,?_,?_⟩
      · rw [hlog]
        exact log.flush
      · rw [hlog,List.getLast?_concat]
    · rw [herror]
      exact .error (ScriptedSink.firstFailure?_of_clean log hlog rfl)

theorem Accounts.writeByte (h : console.Accounts bytes) (byte : UInt8) :
    Surfaces (fun next => next.Accounts (bytes++[byte])) (console.writeByte byte) := by
  cases h with
  | holds held first =>
    rw [writeByte_of_held held]
    exact .error first
  | clean held log =>
    rcases ScriptedSink.put_spec log byte with ⟨hok,hclean⟩ | ⟨error,herror,hfirst⟩
    · have hput : Sink.put console.sink byte = (.ok (),(console.sink.put byte).2) :=
        Prod.ext hok rfl
      rw [writeByte_of_taken held hput]
      generalize (console.sink.put byte).2 = sink at hclean
      -- the byte is in; behind a newline comes a flush, which may still fail
      by_cases hn : byte = newline
      · rw [if_pos hn]
        change Surfaces _ (sink.flush.1,{ console with sink := sink.flush.2 })
        rcases sink.flush_spec with ⟨hok,hlog⟩ | ⟨error,herror,hlog⟩
        · rw [hok]
          refine .ok (.clean held ?_)
          rw [hlog]
          exact hclean.flush
        · rw [herror]
          exact .error (ScriptedSink.firstFailure?_of_clean hclean hlog rfl)
      · rw [if_neg hn]
        exact .ok (.clean held hclean)
    · have hput : Sink.put console.sink byte = (.error error,(console.sink.put byte).2) :=
        Prod.ext herror rfl
      rw [writeByte_of_refused held hput]
      exact .error hfirst

/-- The flush before the report of a fault comes after the earliest failure. -/
theorem firstFailure?_reportFault {kind : Kind}
    (h : console.sink.firstFailure? = some kind) (snapshot : Snapshot) :
    (console.reportFault snapshot).sink.firstFailure? = some kind := by
  change console.flush.2.sink.firstFailure? = some kind
  cases held : console.held with
  | some error =>
    rw [flush_of_held held]
    exact h
  | none =>
    rw [flush_of_none held]
    rcases console.sink.flush_spec with ⟨_,hlog⟩ | ⟨_,_,hlog⟩
    · exact ScriptedSink.firstFailure?_of_append hlog h
    · exact ScriptedSink.firstFailure?_of_append hlog h

end UniversalMachine.StreamConsole
