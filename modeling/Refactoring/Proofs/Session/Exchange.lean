import Refactoring.Session.Requests
import Refactoring.Session.Stage

/-!
# Exchanges

An exchange is a connection together with the callers who send requests over it at the same time.
Every caller runs `Session.send`, one call to the system per step; between any two of its steps
other callers may go on, a message may come in, and the connection may end, in good order or because
the reader of its messages breaks down.

`Exchange.Reached actions x` says that these actions, in this order, lead from a fresh connection to
`x`.  Nothing is assumed about the order: a caller may rest for as long as it likes, a write may
fail at any time, and messages are arbitrary texts.  Only the wait for a response is not cut short.
-/

namespace Refactoring

open Refactoring.Session (send)

/-! ## Callers -/

namespace Session

/-- What a caller has still to do when its request is written. -/
def afterWriting (id : Nat) (method : String) : Work (Except Failure Json) :=
  .ask (.await id method) .done

/-- What a caller has still to do when its request waits. -/
def afterRegistering (id : Nat) (method : String) (params : Json) : Work (Except Failure Json) :=
  .ask (.write (requestContent id method params)) fun
    | .ok () => afterWriting id method
    | .error reason => .done (.error reason)

/-- What a caller has still to do when it has its number. -/
def afterAllocating (id : Nat) (method : String) (params : Json) : Work (Except Failure Json) :=
  .ask (.register id) fun () => afterRegistering id method params

/-- A request takes its number first; only then it is registered, and only then written. -/
theorem run_send (method : String) (params : Json) :
    (send method params).run = .ask .allocate fun id => afterAllocating id method params := by
  change Program.ask SystemCall.allocate _ = _
  congr 1
  funext id
  change Program.ask (SystemCall.register id) _ = _
  unfold afterAllocating
  congr 1
  funext registered
  change Program.ask (SystemCall.write (requestContent id method params)) _ = _
  unfold afterRegistering
  congr 1
  funext written
  cases written with
  | ok done => rfl
  | error reason => rfl

/-- What a caller of `send` can have still to do. -/
inductive Underway : Work (Except Failure Json) → Prop where
  | fresh (method : String) (params : Json) : Underway (send method params).run
  | numbered (id : Nat) (method : String) (params : Json) :
      Underway (afterAllocating id method params)
  | registered (id : Nat) (method : String) (params : Json) :
      Underway (afterRegistering id method params)
  | written (id : Nat) (method : String) : Underway (afterWriting id method)
  | ended (result : Except Failure Json) : Underway (.done result)

/-- The number that a caller has but has not registered yet. -/
def unregistered? : Work (Except Failure Json) → Option Nat
  | .ask (.register id) _ => some id
  | _ => none

theorem unregistered?_send (method : String) (params : Json) :
    unregistered? (send method params).run = none := by
  rw [run_send]
  rfl

namespace Underway

theorem allocate_inv {next : Nat → Work (Except Failure Json)}
    (h : Underway (.ask .allocate next)) :
    ∃ method params, next = fun id => afterAllocating id method params := by
  generalize hw : (.ask .allocate next : Work (Except Failure Json)) = work at h
  cases h with
  | fresh method params =>
    rw [run_send] at hw
    cases hw
    exact ⟨method, params, rfl⟩
  | numbered | registered | written | ended => cases hw

theorem register_inv {id : Nat} {next : Unit → Work (Except Failure Json)}
    (h : Underway (.ask (.register id) next)) :
    ∃ method params, next = fun () => afterRegistering id method params := by
  generalize hw : (.ask (.register id) next : Work (Except Failure Json)) = work at h
  cases h with
  | numbered id method params =>
    cases hw
    exact ⟨method, params, rfl⟩
  | fresh => rw [run_send] at hw; cases hw
  | registered | written | ended => cases hw

theorem write_inv {content : Json} {next : Except Failure Unit → Work (Except Failure Json)}
    (h : Underway (.ask (.write content) next)) :
    ∃ id method params, content = requestContent id method params ∧
      next (.ok ()) = afterWriting id method ∧
      ∀ reason, next (.error reason) = .done (.error reason) := by
  generalize hw : (.ask (.write content) next : Work (Except Failure Json)) = work at h
  cases h with
  | registered id method params =>
    cases hw
    exact ⟨id, method, params, rfl, rfl, fun _ => rfl⟩
  | fresh => rw [run_send] at hw; cases hw
  | numbered | written | ended => cases hw

theorem await_inv {id : Nat} {method : String}
    {next : Except Failure Json → Work (Except Failure Json)}
    (h : Underway (.ask (.await id method) next)) : next = .done := by
  generalize hw : (.ask (.await id method) next : Work (Except Failure Json)) = work at h
  cases h with
  | written id method => cases hw; rfl
  | fresh => rw [run_send] at hw; cases hw
  | numbered | registered | ended => cases hw

end Underway

end Session

/-! ## Steps -/

/-- A call to the system with its reply. -/
abbrev SystemEvent : Type := Program.Event SystemCall SystemCall.Reply

namespace SystemEvent

/-- The number that a call gives out. -/
def handedOut? : SystemEvent → Option Nat
  | ⟨.allocate, id⟩ => some id
  | _ => none

/-- The number under which a call lets a request wait. -/
def registered? : SystemEvent → Option Nat
  | ⟨.register id, _⟩ => some id
  | _ => none

end SystemEvent

/-- What the calls of a sender do to the connection, and which replies they can get.  A response is
there when its request has an outcome; a write may succeed or fail. -/
inductive Connection.Replies (c : Connection) : SystemEvent → Connection → Prop where
  | allocate : c.Replies ⟨.allocate, c.allocate.1⟩ c.allocate.2
  | register (id : Nat) : c.Replies ⟨.register id, ()⟩ (c.register id)
  | write (content : Json) (reply : Except Failure Unit) : c.Replies ⟨.write content, reply⟩ c
  | await {id : Nat} {outcome : Except Failure Json} (method : String)
      (h : c.outcome? id = some outcome) : c.Replies ⟨.await id method, outcome⟩ c

namespace Connection.Replies

variable {c d : Connection} {event : SystemEvent}

/-- Calls let requests wait and end no wait. -/
theorem mem_waiting (h : c.Replies event d) {id : Nat} :
    id ∈ d.waiting ↔ event.registered? = some id ∨ id ∈ c.waiting := by
  cases h with
  | register k =>
    simp only [Connection.register, SystemEvent.registered?, Option.some.injEq, List.mem_cons,
      List.mem_filter, decide_eq_true_eq, ne_eq]
    by_cases hk : id = k
    · simp [hk]
    · simp [hk, Ne.symm hk]
  | allocate | write | await => simp [SystemEvent.registered?, Connection.allocate]

/-- Calls complete nothing. -/
theorem completed_eq (h : c.Replies event d) : d.completed = c.completed := by
  cases h <;> rfl

/-- A number that is not in use is put in front of those that wait. -/
theorem waiting_eq (h : c.Replies event d)
    (hn : ∀ id, event.registered? = some id → id ∉ c.waiting) :
    d.waiting = event.registered?.toList ++ c.waiting := by
  cases h with
  | register k =>
    have hk : k ∉ c.waiting := hn k rfl
    simp only [Connection.register, SystemEvent.registered?, Option.toList_some,
      List.singleton_append, List.cons.injEq, true_and, List.filter_eq_self, decide_eq_true_eq]
    rintro id hid rfl
    exact hk hid
  | allocate | write | await => rfl

end Connection.Replies

/-- A connection and the callers on it, each with what it has still to do. -/
structure Exchange where
  connection : Connection
  callers : List (Work (Except Failure Json))

namespace Exchange

/-- Nothing has been sent yet. -/
def start : Exchange := ⟨.start, []⟩

/-- What can happen next. -/
inductive Action where
  /-- Another caller begins to send a request. -/
  | enter (method : String) (params : Json)
  /-- The caller at this place makes a call and gets a reply. -/
  | call (place : Nat) (event : SystemEvent)
  /-- A message comes in. -/
  | receive (content : String)
  /-- The connection ends. -/
  | close
  /-- The reader of the messages breaks down. -/
  | breakDown

/-- The action that a fault of the stream brings about. -/
def Action.ofFault (fault : Frame.Fault) : Action :=
  if fault = .bodyTooLarge then .breakDown else .close

/-- One step of an exchange. -/
inductive Step : Exchange → Action → Exchange → Prop where
  | enter (x : Exchange) (method : String) (params : Json) :
      Step x (.enter method params) ⟨x.connection, x.callers ++ [(send method params).run]⟩
  | call {c d : Connection} {before after : List (Work (Except Failure Json))}
      {question : SystemCall} {next : question.Reply → Work (Except Failure Json)}
      {reply : question.Reply} (h : c.Replies ⟨question, reply⟩ d) :
      Step ⟨c, before ++ .ask question next :: after⟩ (.call before.length ⟨question, reply⟩)
        ⟨d, before ++ next reply :: after⟩
  | receive (x : Exchange) (content : String) (h : x.connection.isOpen = true) :
      Step x (.receive content) ⟨(x.connection.receive content).1, x.callers⟩
  | close (x : Exchange) (h : x.connection.isOpen = true) :
      Step x .close ⟨x.connection.close, x.callers⟩
  | breakDown (x : Exchange) (h : x.connection.isOpen = true) :
      Step x .breakDown ⟨x.connection.breakDown, x.callers⟩

/-- A stream that cannot be read on ends the connection in one of two ways. -/
theorem Step.ofFault (x : Exchange) (h : x.connection.isOpen = true) (fault : Frame.Fault) :
    Step x (.ofFault fault) ⟨x.connection.endBy fault, x.callers⟩ := by
  unfold Action.ofFault Connection.endBy
  split
  · exact .breakDown x h
  · exact .close x h

theorem Step.receive_eq {c d : Connection} {callers : List (Work (Except Failure Json))}
    {content : String} (h : c.isOpen = true) (hd : (c.receive content).1 = d) :
    Step ⟨c, callers⟩ (.receive content) ⟨d, callers⟩ := by
  subst hd
  exact .receive ⟨c, callers⟩ content h

/-- The actions that lead from the start to an exchange, in order. -/
inductive Reached : List Action → Exchange → Prop where
  | start : Reached [] .start
  | step {actions : List Action} {action : Action} {x y : Exchange} (h : Reached actions x)
      (hs : Step x action y) : Reached (actions ++ [action]) y

/-- The number that an action gives out. -/
def Action.handedOut? : Action → Option Nat
  | .call _ event => event.handedOut?
  | _ => none

/-- The number under which an action lets a request wait. -/
def Action.registered? : Action → Option Nat
  | .call _ event => event.registered?
  | _ => none

/-! ## The steps of the program

What the program does with its connection are steps of an exchange: the stage replies to the calls
of a sender as `Connection.Replies` says, and what it takes in from the stream are messages, one
after the other, and perhaps the end. -/

/-- The stage replies to a sender as the connection does. -/
theorem replies_reply (s : Stage) {call : SystemCall} (hb : s.isBlocked call = false)
    (hc : call = .allocate ∨ (∃ id, call = .register id) ∨ (∃ content, call = .write content) ∨
      ∃ id method, call = .await id method) :
    s.connection.Replies ⟨call, (s.reply call).1⟩ (s.reply call).2.connection := by
  rcases hc with rfl | ⟨id, rfl⟩ | ⟨content, rfl⟩ | ⟨id, method, rfl⟩
  · exact .allocate
  · exact .register id
  · simp only [Stage.reply]
    split
    · exact .write content _
    · exact .write content _
  · obtain ⟨outcome, ho⟩ : ∃ outcome, s.connection.outcome? id = some outcome := by
      rw [← Option.isSome_iff_exists]
      simpa [Stage.isBlocked] using hb
    simp only [Stage.reply, ho, Option.getD_some]
    exact .await method ho

/-- Taking in frames is a run of messages, and perhaps an end. -/
theorem reached_receiveAll (ended : Bool) (limit : Nat) (stream : Frame.Stream)
    {actions : List Action} {x : Exchange} (h : Reached actions x) :
    ∃ more, Reached (actions ++ more)
      ⟨(Connection.receiveAll ended limit stream x.connection).1, x.callers⟩ := by
  induction limit generalizing stream actions x with
  | zero => exact ⟨[], by simpa [Connection.receiveAll] using h⟩
  | succ limit ih =>
    unfold Connection.receiveAll
    split
    · exact ⟨[], by simpa using h⟩
    · rename_i hopen
      have hopen : x.connection.isOpen = true := by
        simp only [Bool.or_eq_true, not_or, Bool.not_eq_true, Bool.not_eq_false'] at hopen
        exact hopen.1
      split
      · rename_i fault rest hread
        exact ⟨[.ofFault fault], h.step (.ofFault x hopen fault)⟩
      · rename_i content rest hread
        obtain ⟨more, hmore⟩ := ih rest (h.step (.receive x content hopen))
        exact ⟨.receive content :: more, by simpa using hmore⟩

/-- Taking in what has arrived is a run of messages, and perhaps an end. -/
theorem reached_takeIn (stream : Frame.Stream) (ended : Bool) {actions : List Action}
    {x : Exchange} (h : Reached actions x) :
    ∃ more, Reached (actions ++ more)
      ⟨(x.connection.takeIn stream ended).1, x.callers⟩ :=
  reached_receiveAll ended (stream.length + 1) stream h

end Exchange
end Refactoring
