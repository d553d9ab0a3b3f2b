import Refactoring.Rpc.Frame
import Refactoring.Rpc.Message
import Refactoring.Failure

/-!
# The connection to the server

Requests are numbered, and a request waits from the moment it is registered until a response with
its number arrives.  `receive` says what a message does: a response completes the request that
waits for it, a request of the server is answered, and everything else is passed over.  When the
stream ends or cannot be read on, `close` fails all that still wait.  Only a length that no body in
memory can have is more than a fault of the stream: the reader breaks down over it, and nothing is
done any more for the requests that wait.
-/

namespace Refactoring

/-- The numbers that are given out, the requests that wait, and the outcomes of others. -/
structure Connection where
  nextId : Nat
  waiting : List Nat
  completed : List (Nat × Except Failure Json)
  /-- Messages of the server are still taken in. -/
  isOpen : Bool

namespace Connection

/-- A connection on which nothing has happened. -/
def start : Connection := ⟨1, [], [], true⟩

/-- Gives out a number. -/
def allocate (c : Connection) : Nat × Connection := (c.nextId, { c with nextId := c.nextId + 1 })

/-- Lets a request wait. -/
def register (c : Connection) (id : Nat) : Connection :=
  { c with waiting := id :: c.waiting.filter (· ≠ id) }

/-- The outcome of a request, once it has one. -/
def outcome? (c : Connection) (id : Nat) : Option (Except Failure Json) := c.completed.lookup id

/-- Completes a request that waits; nothing happens for others. -/
def complete (c : Connection) (id : Nat) (outcome : Except Failure Json) : Connection :=
  if c.waiting.contains id then
    { c with waiting := c.waiting.filter (· ≠ id), completed := (id, outcome) :: c.completed }
  else c

/-- Takes in a message; the answer goes back to the server. -/
def receive (c : Connection) (content : String) : Connection × Option Json :=
  match Message.parse content with
  | .error _ => (c, none)
  | .ok m =>
    if m.isServerRequest then (c, some m.reply)
    else
      match m.answers? with
      | none => (c, none)
      | some id => (c.complete id (m.outcome.mapError .of), none)

/-- What becomes of requests that wait when the connection ends. -/
def lost : Failure := .of "Connection closed by language server"

/-- Takes in no more messages. -/
def close (c : Connection) : Connection where
  nextId := c.nextId
  waiting := []
  completed := c.waiting.map (·, .error lost) ++ c.completed
  isOpen := false

/-- The reader breaks down: no more messages are taken in, and what waits goes on waiting. -/
def breakDown (c : Connection) : Connection := { c with isOpen := false }

/-- The end of a connection whose stream cannot be read on. -/
def endBy (c : Connection) (fault : Frame.Fault) : Connection :=
  if fault = .bodyTooLarge then c.breakDown else c.close

/-- Takes in frames, at most `limit` of them, and gives the answers and the rest of the stream.  A
frame that has not arrived in full is waited for, unless `ended` says that nothing more will come.
A frame that cannot be read ends the connection. -/
def receiveAll (ended : Bool) :
    Nat → Frame.Stream → Connection → Connection × Frame.Stream × List Json
  | 0, stream, c => (c, stream, [])
  | limit + 1, stream, c =>
    if !c.isOpen || (!ended && Frame.missing stream ≠ 0) then (c, stream, [])
    else
      match Frame.read stream with
      | (.error fault, rest) => (c.endBy fault, rest, [])
      | (.ok content, rest) =>
        let (c, answer) := c.receive content
        let (c, rest, answers) := receiveAll ended limit rest c
        (c, rest, answer.toList ++ answers)

/-- Takes in what has arrived; `ended` says that nothing more will come.  Every frame takes at least
one byte, so the length of the stream is limit enough, with one more for its end. -/
def takeIn (c : Connection) (stream : Frame.Stream) (ended : Bool) :
    Connection × Frame.Stream × List Json :=
  receiveAll ended (stream.length + 1) stream c

end Connection
end Refactoring
