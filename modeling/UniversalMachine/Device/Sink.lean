import UniversalMachine.Device.Error

/-! Destinations of bytes, and a scripted one that records every call made on it. -/
namespace UniversalMachine.Device

/-- A destination of bytes. `put` hands over one byte, trying again while it is interrupted, and
`flush` pushes what is held back to its destination. -/
class Sink (σ : Type) where
  put : σ → UInt8 → Except Error Unit × σ
  flush : σ → Except Error Unit × σ

/-- The answer to one attempt to write a byte. -/
inductive WriteAnswer where
  | accepted
  | nothingWritten
  | failed (kind : Kind)
  deriving DecidableEq, Repr

/-- One call on a sink, with its answer; a flush that succeeds has no failure. -/
inductive Call where
  | write (byte : UInt8) (answer : WriteAnswer)
  | flush (failure : Option Kind)
  deriving DecidableEq, Repr

/-- A sink that gives the scripted answers in turn, and accepts everything once they are used up. -/
structure ScriptedSink where
  writes : List WriteAnswer := []
  flushes : List (Option Kind) := []
  calls : Array Call := #[]
  deriving Repr

namespace ScriptedSink

/-- A write that takes no byte at all. -/
def wroteNothing : Error := ⟨.writeZero,"failed to write whole buffer"⟩

/-- Attempts to write `byte` until an attempt is not interrupted. -/
def attempt (byte : UInt8) : List WriteAnswer → Array Call →
    Except Error Unit × List WriteAnswer × Array Call
  | [], calls => (.ok (), [], calls.push (.write byte .accepted))
  | answer :: rest, calls =>
    let calls := calls.push (.write byte answer)
    match answer with
    | .accepted => (.ok (), rest, calls)
    | .nothingWritten => (.error wroteNothing, rest, calls)
    | .failed .interrupted => attempt byte rest calls
    | .failed kind => (.error (.ofKind kind), rest, calls)

def put (sink : ScriptedSink) (byte : UInt8) : Except Error Unit × ScriptedSink :=
  let (result, writes, calls) := attempt byte sink.writes sink.calls
  (result, { sink with writes, calls })

def flush (sink : ScriptedSink) : Except Error Unit × ScriptedSink :=
  match sink.flushes with
  | [] => (.ok (), { sink with calls := sink.calls.push (.flush none) })
  | answer :: flushes =>
    let sink := { sink with flushes, calls := sink.calls.push (.flush answer) }
    match answer with
    | none => (.ok (), sink)
    | some kind => (.error (.ofKind kind), sink)

instance : Sink ScriptedSink := ⟨put,flush⟩

/-- The bytes that were accepted, in order. -/
def written (sink : ScriptedSink) : List UInt8 :=
  sink.calls.toList.filterMap fun
    | .write byte .accepted => some byte
    | _ => none

end ScriptedSink
end UniversalMachine.Device
