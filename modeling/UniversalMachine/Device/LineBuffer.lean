import UniversalMachine.Device.Sink
import UniversalMachine.Device.Source

/-! The standard output of a process: bytes are held back until a newline comes, the buffer is full
or a flush is asked for. -/
namespace UniversalMachine.Device

/-- The bytes that reached the system, the bytes held back, and how the system refuses bytes if it
does. -/
structure LineBuffer where
  refusal : Option Error := none
  buffer : Array UInt8 := #[]
  written : Array UInt8 := #[]
  deriving Repr

namespace LineBuffer

/-- The most bytes held back. -/
def capacity : Nat := 1024

/-- Every write fails for want of space. -/
def full : LineBuffer := { refusal := some ⟨.storageFull,"No space left on device (os error 28)"⟩ }

/-- Nobody reads what is written. -/
def closed : LineBuffer := { refusal := some ⟨.brokenPipe,"Broken pipe (os error 32)"⟩ }

/-- Hands the buffer over. Bytes that are refused stay in it. -/
def flush (sink : LineBuffer) : Except Error Unit × LineBuffer :=
  if sink.buffer.isEmpty then (.ok (), sink)
  else match sink.refusal with
    | some error => (.error error, sink)
    | none => (.ok (), { sink with buffer := #[], written := sink.written ++ sink.buffer })

/-- Holds a byte back, after making room for it. -/
def hold (sink : LineBuffer) (byte : UInt8) : Except Error Unit × LineBuffer :=
  let (result, sink) := if sink.buffer.size < capacity then (.ok (), sink) else sink.flush
  match result with
  | .error error => (.error error, sink)
  | .ok _ => (.ok (), { sink with buffer := sink.buffer.push byte })

/-- Hands a byte straight to the system. -/
def pass (sink : LineBuffer) (byte : UInt8) : Except Error Unit × LineBuffer :=
  match sink.refusal with
  | some error => (.error error, sink)
  | none => (.ok (), { sink with written := sink.written.push byte })

/-- A newline sends the line out, and any other byte is held back behind a line that is out. -/
def put (sink : LineBuffer) (byte : UInt8) : Except Error Unit × LineBuffer :=
  if byte = newline then
    if sink.buffer.isEmpty then sink.pass byte
    else match sink.hold byte with
      | (.error error, sink) => (.error error, sink)
      | (.ok _, sink) => sink.flush
  else
    let (result, sink) := if sink.buffer.back? = some newline then sink.flush else (.ok (), sink)
    match result with
    | .error error => (.error error, sink)
    | .ok _ => sink.hold byte

instance : Sink LineBuffer := ⟨put,flush⟩

/-- What has reached the system when the process ends, which flushes once more. -/
def finish (sink : LineBuffer) : List UInt8 := sink.flush.2.written.toList

end LineBuffer
end UniversalMachine.Device
