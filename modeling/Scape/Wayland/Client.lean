import Mathlib.Data.List.Basic

/-!
# A client's socket

`ClientConnection` is an event source over a non-blocking socket. Every time the
loop finds the socket readable it reads until there is nothing more, and turns
each chunk into an event. The kernel's answers are an input here: a list of the
results the reads get, one after the other, over as many calls as they last.

An answer that is not in the list has not come yet, and a call that asks for it
has not returned.
-/

namespace Scape.Wayland

abbrev ClientId := Nat

inductive ClientEvent where
  | messageReceived (clientId : ClientId) (data : List UInt8)
  | disconnected (clientId : ClientId)
  deriving DecidableEq, Repr

/-- The kinds of an `io::Error`, as far as they are told apart. -/
inductive ErrorKind where
  | wouldBlock
  | interrupted
  | other
  deriving DecidableEq, Repr

/-- `calloop::PostAction` -/
inductive PostAction where
  | continue
  | reregister
  | disable
  | remove
  deriving DecidableEq, Repr

def bufferSize : Nat := 4096

/-- The bytes a successful read has put at the front of the buffer. -/
structure Chunk where
  bytes : List UInt8
  fits : bytes.length ≤ bufferSize

instance : DecidableEq Chunk := fun a b =>
  decidable_of_iff (a.bytes = b.bytes) ⟨fun h => by cases a; cases b; cases h; rfl,
    fun h => h ▸ rfl⟩

/-- What `stream.read` returns, with the bytes it has read. -/
abbrev ReadResult := Except ErrorKind Chunk

def endOfStream : ReadResult := .ok ⟨[], Nat.zero_le _⟩

abbrev Buffer := List UInt8

def emptyBuffer : Buffer := List.replicate bufferSize 0

/-- A read overwrites the front of the buffer and leaves the rest. -/
def Chunk.fill (chunk : Chunk) (buffer : Buffer) : Buffer :=
  chunk.bytes ++ buffer.drop chunk.bytes.length

/-- A call of one of the source's functions: the events it hands to the callback,
what it returns if it has returned, and the answers it has not asked for. -/
structure Call (α : Type) where
  events : List ClientEvent
  result : Option (Except ErrorKind α)
  unread : List ReadResult

def Call.emit {α : Type} (event : ClientEvent) (call : Call α) : Call α :=
  { call with events := event :: call.events }

variable (clientId : ClientId)

def readLoop (buffer : Buffer) : List ReadResult → Call Unit
  | [] => ⟨[], none, []⟩
  | .ok chunk :: rest =>
      let buffer := chunk.fill buffer
      let bytesRead := chunk.bytes.length
      if bytesRead = 0 then
        ⟨[.disconnected clientId], some (.ok ()), rest⟩
      else
        (readLoop buffer rest).emit (.messageReceived clientId (buffer.take bytesRead))
  | .error .wouldBlock :: rest => ⟨[], some (.ok ()), rest⟩
  | .error e :: rest => ⟨[], some (.error e), rest⟩

def readData : List ReadResult → Call Unit := readLoop clientId emptyBuffer

def processEvents (readable : Bool) (results : List ReadResult) : Call PostAction :=
  if readable then
    let call := readData clientId results
    { call with result := call.result.map (Except.map fun _ => .continue) }
  else
    ⟨[], some (.ok .continue), results⟩

/-- The calls the loop makes, with the readiness it has found each time. It calls
the source as long as this says to go on. -/
def poll : List Bool → List ReadResult → List ClientEvent × List ReadResult
  | [], results => ([], results)
  | readable :: polls, results =>
      let call := processEvents clientId readable results
      match call.result with
      | some (.ok .continue) =>
          let (events, unread) := poll polls call.unread
          (call.events ++ events, unread)
      | _ => (call.events, call.unread)

end Scape.Wayland
