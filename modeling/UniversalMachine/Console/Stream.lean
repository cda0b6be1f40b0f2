import UniversalMachine.Console.Basic
import UniversalMachine.Device.Sink
import UniversalMachine.Device.Source

/-! A console between a source and a sink of bytes. Output is flushed at every newline, before
every line that is read, and at the halt. A flush that fails before a read is held back and
comes out of the next write or flush instead, so no failure is lost. -/
namespace UniversalMachine
open Device

structure StreamConsole (σ : Type) where
  source : Source
  sink : σ
  /-- The first failure that no call has returned yet. -/
  held : Option Error := none
  /-- What was reported about faults. -/
  diagnostics : String := ""
  deriving Repr

namespace StreamConsole

variable {σ : Type} [Sink σ]

def readLine (console : StreamConsole σ) : LineRead × StreamConsole σ :=
  let (flushed, sink) := Sink.flush console.sink
  let held := match flushed with
    | .ok _ => console.held
    | .error error => some (console.held.getD error)
  let (line, source) := console.source.readLine
  let answer := match line with
    | .ok [] | .error _ => .endOfInput
    | .ok bytes => .line bytes
  (answer, { console with source, sink, held })

def flush (console : StreamConsole σ) : Except Error Unit × StreamConsole σ :=
  match console.held with
  | some error => (.error error, { console with held := none })
  | none =>
    let (result, sink) := Sink.flush console.sink
    (result, { console with sink })

def writeByte (console : StreamConsole σ) (byte : UInt8) : Except Error Unit × StreamConsole σ :=
  match console.held with
  | some error => (.error error, { console with held := none })
  | none =>
    match Sink.put console.sink byte with
    | (.error error, sink) => (.error error, { console with sink })
    | (.ok _, sink) =>
      if byte = newline then
        let (result, sink) := Sink.flush sink
        (result, { console with sink })
      else (.ok (), { console with sink })

/-- The output goes out first, so that the report stands behind it. -/
def reportFault (console : StreamConsole σ) (snapshot : Snapshot) : StreamConsole σ :=
  let (result, console) := console.flush
  let failure := match result with
    | .ok _ => ""
    | .error error => s!"Output error: {error.text}\n"
  { console with diagnostics := console.diagnostics ++ failure ++ snapshot.text ++ "\n" }

instance : Console (StreamConsole σ) where
  readLine := readLine
  writeByte := writeByte
  announceHalt := flush
  flush := flush
  reportFault := reportFault

end StreamConsole
end UniversalMachine
