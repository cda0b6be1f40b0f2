import UniversalMachine.Device.Error

/-! A source of bytes that arrives in chunks, read a line at a time. -/
namespace UniversalMachine.Device

/-- One arrival at a source. An empty chunk of bytes is one end of file. -/
inductive Chunk where
  | bytes (data : List UInt8)
  | failure (kind : Kind)
  deriving DecidableEq, Repr

/-- The arrivals still to come. After the last one the source is at its end for ever. -/
abbrev Source := List Chunk

/-- The byte that ends a line. -/
def newline : UInt8 := 10

/-- The first line of `data`, newline included, and what follows it, if `data` holds a newline. -/
def splitLine? (data : List UInt8) : Option (List UInt8 × List UInt8) :=
  match data.dropWhile (· != newline) with
  | ending :: after => some (data.takeWhile (· != newline) ++ [ending], after)
  | [] => none

namespace Source

/-- Puts unread bytes back in front. -/
def unread (data : List UInt8) (source : Source) : Source :=
  if data.isEmpty then source else .bytes data :: source

/-- Reads on behind the bytes `gathered`: up to and with the next newline, or to the end of file.
Interrupted arrivals are skipped; any other failure loses what was gathered. -/
def readLineAfter (gathered : List UInt8) : Source → Except Error (List UInt8) × Source
  | [] => (.ok gathered, [])
  | .failure kind :: rest =>
    if kind = .interrupted then readLineAfter gathered rest else (.error (.ofKind kind), rest)
  | .bytes data :: rest =>
    if data.isEmpty then (.ok gathered, rest)
    else match splitLine? data with
      | some (line, after) => (.ok (gathered ++ line), unread after rest)
      | none => readLineAfter (gathered ++ data) rest

/-- Reads one line; no bytes at all mean the end of file. -/
def readLine (source : Source) : Except Error (List UInt8) × Source :=
  readLineAfter [] source

end Source

example : Source.readLine [.bytes [97], .failure .interrupted, .bytes [98,10,99]] =
    (.ok [97,98,10], [.bytes [99]]) := rfl

end UniversalMachine.Device
