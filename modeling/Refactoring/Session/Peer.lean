import Refactoring.Rpc.Frame
import Refactoring.Json.Printer

/-!
# A scripted server

A server that follows a script, to try sessions out: it reads messages of the client, sends what the
script says and can close the connection.
-/

namespace Refactoring

/-- What a scripted server does next. -/
inductive Peer.Action where
  /-- Waits for messages and takes them down. -/
  | read (count : Nat)
  /-- Sends a message in a frame. -/
  | send (content : Json)
  /-- Sends bytes as they are. -/
  | raw (bytes : Frame.Stream)
  | close
  deriving Repr

/-- A scripted server on a connection. -/
structure Peer where
  script : List Peer.Action
  /-- Messages of the client that were not read yet. -/
  inbox : List Json
  /-- Messages of the client that were read. -/
  heard : List Json
  /-- Bytes that the client has not taken in yet. -/
  outbox : Frame.Stream
  closed : Bool

namespace Peer

/-- A server at the beginning of its script. -/
def start (script : List Action) : Peer := ⟨script, [], [], [], false⟩

/-- Goes through a script as far as the messages of the client allow. -/
def follow : List Action → Peer → Peer
  | [], p => { p with script := [] }
  | .read count :: rest, p =>
    let missing := count - p.inbox.length
    let p := { p with heard := p.heard ++ p.inbox.take count, inbox := p.inbox.drop count }
    if missing = 0 then follow rest p else { p with script := .read missing :: rest }
  | .send content :: rest, p =>
    follow rest { p with outbox := p.outbox ++ Frame.write content.compact }
  | .raw bytes :: rest, p => follow rest { p with outbox := p.outbox ++ bytes }
  | .close :: _, p => { p with script := [], closed := true }

/-- Goes on with the script. -/
def play (p : Peer) : Peer := follow p.script p

/-- Takes a message of the client, unless the connection is closed. -/
def accept (p : Peer) (content : Json) : Except String Peer :=
  if p.closed then .error "Broken pipe (os error 32)"
  else .ok { p with inbox := p.inbox ++ [content] }

/-- How many messages the script still reads, and how many other things it does. -/
def workLeft (p : Peer) : Nat :=
  p.script.foldl (fun work action =>
    match action with
    | .read count => work + count + 1
    | _ => work + 1) 0

end Peer
end Refactoring
