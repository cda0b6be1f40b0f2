import Mathlib
import UniversalMachine.Proofs.SinkLog

/-! A run that is reported as a success has written all of its output, and a fault of the output is
that of the earliest call that failed. -/
namespace UniversalMachine

namespace Machine

section Outputs
variable {κ : Type} [Console κ]

/-- The bytes of the output instructions that advancing completes. -/
def outputs (m : Machine) (budget : ℕ) (console : κ) : List UInt8 :=
  match budget with
  | 0 => []
  | budget+1 =>
    match m.step console with
    | (.next,m',console') => m.nextOutput?.toList++m'.tick.outputs budget console'
    | _ => []

/-- The bytes of the output instructions that a run completes. -/
def runOutputs (m : Machine) (budget : ℕ) (console : κ) : List UInt8 :=
  match m.enter with
  | .done _ => []
  | .ready m => m.outputs budget console

end Outputs

open Device

/-- What a run that came back says about the output of its console. -/
structure Run.Accounted (r : Run (StreamConsole ScriptedSink)) (bytes : List UInt8) : Prop where
  paused : r.result = .ok .paused → r.console.Accounts bytes
  halted : r.result = .ok .halted → r.console.Flushed bytes
  refused : ∀ kind, r.result = .error (.outputFailed kind) →
    r.console.sink.firstFailure? = some kind

section Stream
variable {m m' : Machine} {console console' : StreamConsole ScriptedSink} {bytes : List UInt8}

theorem accounts_of_next (h : console.Accounts bytes) (hc : m.Contact console .next console') :
    console'.Accounts (bytes++m.nextOutput?.toList) := by
  cases hc with
  | none silent => simpa [silent] using h
  | asked silent _ _ read _ _ =>
    have hread := h.readLine
    have hc' : console.readLine.2 = console' := congrArg Prod.snd read
    rw [hc'] at hread
    simpa [silent] using hread
  | @wrote byte _ output write =>
    have hwrite : console.writeByte byte = (.ok (),console') := write
    have hsurfaces := h.writeByte byte
    rw [hwrite] at hsurfaces
    cases hsurfaces with
    | ok success => simpa [output] using success

theorem accounted_of_halted (h : console.Accounts bytes)
    (hc : m.Contact console .halted console') :
    Run.Accounted ⟨.ok .halted,m',console'⟩ bytes := by
  refine ⟨by simp,fun _ => ?_,by simp⟩
  cases hc with
  | asked _ _ _ _ ends => simp at ends
  | halted _ halt =>
    have hflush : console.flush = (.ok (),console') := halt
    have hsurfaces := h.flush
    rw [hflush] at hsurfaces
    cases hsurfaces with
    | ok flushed => exact flushed

/-- A fault of the output is that of the earliest failure, also when an earlier call met it. -/
theorem accounted_of_fault {fault : Fault} (h : console.Accounts bytes)
    (hc : m.Contact console (.fault fault) console') :
    Run.Accounted (m'.stop fault console') bytes := by
  refine ⟨by simp [stop],by simp [stop],?_⟩
  intro kind hkind
  obtain rfl : fault = .outputFailed kind := by simpa [stop] using hkind
  -- the report of the fault flushes once more, behind the failure
  refine StreamConsole.firstFailure?_reportFault ?_ m'.snapshot
  generalize hfault : Fault.outputFailed kind = fault at hc
  cases hc with
  | fault internal => exact absurd hfault.symm (internal kind)
  | asked _ _ _ _ ends => simp at ends
  | @refused byte error _ _ write =>
    have hwrite : console.writeByte byte = (.error error,console') := write
    have hsurfaces := h.writeByte byte
    rw [hwrite] at hsurfaces
    cases hfault
    cases hsurfaces with
    | error first => exact first
  | @haltRefused error _ halt =>
    have hflush : console.flush = (.error error,console') := halt
    have hsurfaces := h.flush
    rw [hflush] at hsurfaces
    cases hfault
    cases hsurfaces with
    | error first => exact first

theorem advance_accounted (m : Machine) (h : console.Accounts bytes) (budget : ℕ) :
    (m.advance budget console).Accounted (bytes++m.outputs budget console) := by
  induction budget generalizing m console bytes with
  | zero => exact ⟨fun _ => by simpa [outputs, advance] using h,by simp [advance],by simp [advance]⟩
  | succ budget ih =>
    unfold advance outputs
    rcases hs : m.step console with ⟨ending,m',console'⟩
    have hc := contact_of_step hs
    cases ending with
    | next =>
      dsimp only
      rw [← List.append_assoc]
      exact ih m'.tick (accounts_of_next h hc)
    | halted => simpa using accounted_of_halted h hc
    | suspended => exact ⟨by simp,by simp,by simp⟩
    | fault fault => simpa using accounted_of_fault h hc

end Stream
end Machine

namespace Headless
open Device Machine

/-- The bytes of the output instructions that a headless run completes. -/
def outputs {σ : Type} [Sink σ] (m : Machine) (console : StreamConsole σ) : ℕ → List UInt8
  | 0 => []
  | fuel+1 =>
    let r := m.runFor slice console
    m.runOutputs slice console++
      match r.result,r.console.flush with
      | .ok .paused,(.ok _,console) => outputs r.machine console fuel
      | _,_ => []

/-- What a headless run says about the output of its console when it ends. -/
structure Result.Accounted (r : Result ScriptedSink) (bytes : List UInt8) : Prop where
  halted : r.ending = .halted → r.console.Flushed bytes
  refused : ∀ kind, r.ending = .faulted (.outputFailed kind) →
    r.console.sink.firstFailure? = some kind

section Stream
variable {m : Machine} {console : StreamConsole ScriptedSink} {bytes : List UInt8}

theorem runFor_accounted (h : console.Accounts bytes) (hr : m.state = .ready) (budget : ℕ) :
    (m.runFor budget console).Accounted (bytes++m.runOutputs budget console) := by
  have henter : m.enter = .ready m := by simp [enter, hr]
  unfold runFor runOutputs
  rw [henter]
  exact advance_accounted m h budget

theorem run?_accounted (h : console.Accounts bytes) (hr : m.state = .ready) {fuel : ℕ}
    {r : Result ScriptedSink} (hrun : run? m console fuel = some r) :
    r.Accounted (bytes++outputs m console fuel) := by
  induction fuel generalizing m console bytes with
  | zero => cases hrun
  | succ fuel ih =>
    have hrunFor := runFor_accounted h hr slice
    have htells := m.runFor_tells slice console
    unfold run? turn at hrun
    unfold outputs
    generalize m.runOutputs slice console = more at hrunFor ⊢
    generalize m.runFor slice console = x at hrunFor htells hrun ⊢
    obtain ⟨result,m',console'⟩ := x
    dsimp only at hrun htells ⊢
    cases htells with
    | halted =>
      obtain rfl := Option.some.inj hrun
      have hhalted := hrunFor.halted rfl
      exact ⟨fun _ => by simpa using hhalted,by simp⟩
    | awaitingInput =>
      obtain rfl := Option.some.inj hrun
      exact ⟨by simp,by simp⟩
    | fault =>
      obtain rfl := Option.some.inj hrun
      refine ⟨by simp,?_⟩
      intro kind hkind
      refine hrunFor.refused kind ?_
      simpa using hkind
    | paused hready =>
      have haccounts := hrunFor.paused rfl
      have hsurfaces := haccounts.flush
      dsimp only at hsurfaces hrun ⊢
      rcases hf : console'.flush with ⟨_ | _,console''⟩
      · simp only [hf] at hrun
        obtain rfl := Option.some.inj hrun
        exact ⟨by simp,by simp⟩
      · -- a flush that succeeds holds nothing back, so the next slice starts from a clean log
        rw [hf] at hsurfaces
        simp only [hf] at hrun ⊢
        rw [← List.append_assoc]
        cases hsurfaces with
        | ok flushed => exact ih (.clean flushed.held flushed.clean) hready hrun

/-- A headless run that is reported as a success had every flush succeed, and every write but those
that were interrupted and tried again. Its sink has accepted the bytes of the executed output
instructions, and the last call was a flush. A fault of the output has the kind of the earliest call
that failed. -/
theorem success_has_written {refuses : UInt32 → Bool} {program : Array UInt32} {source : Source}
    {writes : List WriteAnswer} {flushes : List (Option Kind)} {fuel : ℕ}
    {r : Result ScriptedSink}
    (h : run? (.ofProgram refuses program) { source, sink := { writes, flushes } } fuel = some r) :
    (r.ending.exitCode = 0 →
      (∀ failure, .flush failure ∈ r.console.sink.log → failure = none) ∧
      (∀ byte answer, .write byte answer ∈ r.console.sink.log →
        answer = .accepted ∨ answer = .failed .interrupted) ∧
      r.console.sink.log.IsChain Call.Retried ∧
      r.console.sink.written =
        outputs (.ofProgram refuses program) { source, sink := ({ writes, flushes } : ScriptedSink) }
          fuel ∧
      r.console.sink.log.getLast? = some (.flush none)) ∧
    ∀ kind, r.ending = .faulted (.outputFailed kind) → r.console.sink.firstFailure? = some kind := by
  have haccounts : StreamConsole.Accounts { source, sink := { writes, flushes } } [] :=
    .clean rfl .nil
  have haccounted := run?_accounted haccounts rfl h
  refine ⟨?_,haccounted.refused⟩
  intro hcode
  have hhalted : r.ending = .halted := by
    cases he : r.ending with
    | halted => rfl
    | faulted => simp [he, Ending.exitCode] at hcode
    | outputFailed => simp [he, Ending.exitCode] at hcode
    | stranded => simp [he, Ending.exitCode] at hcode
  obtain ⟨_,hclean,hlast⟩ := haccounted.halted hhalted
  refine ⟨?_,?_,hclean.retried,ScriptedSink.written_of_clean hclean,hlast⟩
  · intro failure hmem
    simpa using hclean.answers _ hmem
  · intro byte answer hmem
    rcases hclean.answers _ hmem with hf | ⟨_,hw | hw⟩
    · cases hf
    · exact .inl (Call.write.inj hw).2
    · exact .inr (Call.write.inj hw).2

/-- The program writes a byte, reads and halts. If the write is interrupted once, the run still
succeeds; if the flush before the read fails, the fault says so. -/
theorem success_has_written_prompt :
    let refuses : UInt32 → Bool := fun _ => false
    let program : Array UInt32 := #[0xd0000048,0xa0000000,0xb0000000,0x70000000]
    let source : Source := [.bytes [105,10]]
    let good : ScriptedSink := { writes := [.failed .interrupted] }
    let bad : ScriptedSink := { flushes := [some .brokenPipe,some .other] }
    (∃ r, run? (.ofProgram refuses program) { source, sink := good } 1 = some r ∧
      r.ending.exitCode = 0 ∧ r.console.sink.log.IsChain Call.Retried ∧
      r.console.sink.written = [72] ∧
      r.console.sink.written = outputs (.ofProgram refuses program) { source, sink := good } 1) ∧
    ∃ r, run? (.ofProgram refuses program) { source, sink := bad } 1 = some r ∧
      r.ending = .faulted (.outputFailed .brokenPipe) ∧
      r.console.sink.firstFailure? = some .brokenPipe := by
  intro refuses program source good bad
  have hserved : ((Machine.ofProgram refuses program).runFor 4
      ({ source, sink := good } : StreamConsole ScriptedSink)).result = .ok .halted := by cbv
  have hfailed : ((Machine.ofProgram refuses program).runFor 4
      ({ source, sink := bad } : StreamConsole ScriptedSink)).result =
        .error (.outputFailed .brokenPipe) := by cbv
  have hslice : 4 ≤ slice := by decide
  have hgood := run?_of_le_slice (by rw [hserved]; simp) hslice
  have hbad := run?_of_le_slice (by rw [hfailed]; simp) hslice
  rw [hserved] at hgood
  rw [hfailed] at hbad
  have h := success_has_written hgood
  obtain ⟨_,_,hretried,hwritten,_⟩ := h.1 rfl
  exact ⟨⟨_,hgood,rfl,hretried,by cbv,hwritten⟩,_,hbad,rfl,
    (success_has_written hbad).2 .brokenPipe rfl⟩

end Stream
end Headless
end UniversalMachine
