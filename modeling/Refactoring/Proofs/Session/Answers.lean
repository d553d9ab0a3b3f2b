import Refactoring.Proofs.Rpc.Arrival
import Refactoring.Proofs.Session.Ending

/-!
# Requests of the server are answered

A message with an id and a method is a request of the server, whatever kind of value its id is, and
`Message.Answer` says how it is to be answered.  While the client listens, its callers go on and the
stream comes in piece by piece; the answers are those to the requests among the frames that have
come in, one for each of them and in their order, and no file is touched for them.
-/

namespace Refactoring

/-! ## Requests and their answers -/

namespace Message

/-- A text is a request of the server: an object with an id, which can be any value, and with a
method that is not empty. -/
inductive Asks (content : String) (id : Json) (method : String) (params : Option Json) : Prop
  | mk {members : List (String × Json)} (hcontent : Json.ofText content = .ok (.object members))
      (hid : Json.member? members "id" = some id)
      (hmethod : Json.member? members "method" = some (.string method)) (hne : method ≠ "")
      (hparams : Json.member? members "params" = params)

/-- The number of items that the parameters of a request list. -/
def itemCount : Option Json → Nat
  | some (.object members) =>
    match Json.member? members "items" with
    | some (.array items) => items.length
    | _ => 0
  | _ => 0

/-- The methods that the client has an answer for. -/
def known : List String := ["workspace/applyEdit", "workspace/configuration"] ++ acknowledged

/-- An answer to a request of the server carries the id of the request, and a result or an error but
not both.  Edits are declined, there is no configuration, and unknown methods are an error. -/
structure Answer (id : Json) (method : String) (params : Option Json) (answer : Json) : Prop where
  id : answer.get? "id" = some id
  result_or_error : (answer.get? "result").isSome = !(answer.get? "error").isSome
  applyEdit : method = "workspace/applyEdit" →
    (answer.get? "result").bind (·.get? "applied") = some (.bool false)
  configuration : method = "workspace/configuration" →
    answer.get? "result" = some (.array (List.replicate (itemCount params) .null))
  acknowledged : method ∈ acknowledged → answer.get? "result" = some .null
  unknown : method ∉ known →
    (answer.get? "error").bind (·.get? "code") = some (.number (.int (-32601)))

/-- The answers to the requests among some texts, in order; there are no others. -/
inductive Answered : List String → List Json → Prop
  | nil : Answered [] []
  | asked {content : String} {id : Json} {method : String} {params : Option Json} {answer : Json}
      {contents : List String} {answers : List Json} (h : Asks content id method params)
      (hanswer : Answer id method params answer) (hrest : Answered contents answers) :
      Answered (content :: contents) (answer :: answers)
  | passed {content : String} {contents : List String} {answers : List Json}
      (h : ∀ id method params, ¬ Asks content id method params)
      (hrest : Answered contents answers) : Answered (content :: contents) answers

theorem Answered.append {contents later : List String} {answers others : List Json}
    (h : Answered contents answers) (hlater : Answered later others) :
    Answered (contents ++ later) (answers ++ others) := by
  induction h with
  | nil => exact hlater
  | asked h hanswer _ ih => exact .asked h hanswer ih
  | passed h _ ih => exact .passed h ih

theorem method_ofJson (members : List (String × Json)) : (ofJson (.object members)).method =
    ((Json.member? members "method").bind Json.string?).getD "" := rfl

/-- A message asks for an answer if it has an id and a method. -/
theorem asks_iff {content : String} {id : Json} {method : String} {params : Option Json} :
    Asks content id method params ↔ ∃ m, Message.parse content = .ok m ∧ m.id = some id ∧
      m.method = method ∧ method ≠ "" ∧ m.params = params := by
  constructor
  · rintro ⟨hcontent, hid, hmethod, hne, hparams⟩
    refine ⟨ofJson (.object _), by rw [Message.parse, hcontent]; rfl, hid, ?_, hne, hparams⟩
    rw [method_ofJson, hmethod]
    rfl
  · rintro ⟨m, hparse, hid, rfl, hne, rfl⟩
    cases hcontent : Json.ofText content with
    | error fault =>
      rw [Message.parse, hcontent] at hparse
      cases hparse
    | ok value =>
      rw [Message.parse, hcontent] at hparse
      cases hparse
      cases value with
      | object members =>
        refine ⟨hcontent, hid, ?_, hne, rfl⟩
        -- Only a text is a method, and no method at all counts as an empty one.
        rw [method_ofJson] at hne ⊢
        cases hmethod : Json.member? members "method" with
        | none =>
          rw [hmethod] at hne
          exact absurd rfl hne
        | some value =>
          rw [hmethod] at hne
          cases value with
          | string method => rfl
          | _ => exact absurd rfl hne
      | _ => cases hid

theorem length_items (params : Option Json) :
    (((params.bind (·.get? "items")).bind Json.array?).getD []).length = itemCount params := by
  unfold itemCount
  split
  · rename_i members
    rw [Option.bind_some, Json.get?]
    split
    · rename_i items hitems
      rw [hitems]
      rfl
    · rename_i hno
      cases hitems : Json.member? members "items" with
      | none => rfl
      | some value =>
        cases value with
        | array items => exact absurd hitems (hno items)
        | _ => rfl
  · rename_i hno
    cases params with
    | none => rfl
    | some value =>
      cases value with
      | object members => exact absurd rfl (hno members)
      | _ => rfl

/-- Every request gets its answer. -/
theorem answer_reply (m : Message) {id : Json} (hid : m.id = some id) :
    Answer id m.method m.params m.reply := by
  unfold Message.reply
  rw [hid]
  dsimp only [Option.getD_some]
  by_cases hedit : m.method = "workspace/applyEdit"
  · rw [if_pos hedit, hedit]
    exact ⟨rfl, rfl, fun _ => rfl, nofun, fun h => absurd h (by decide),
      fun h => absurd (by decide) h⟩
  · rw [if_neg hedit]
    by_cases hconfiguration : m.method = "workspace/configuration"
    · rw [if_pos hconfiguration, hconfiguration]
      refine ⟨rfl, rfl, nofun, fun _ => ?_, fun h => absurd h (by decide),
        fun h => absurd (by decide) h⟩
      rw [List.map_const', length_items]
      rfl
    · rw [if_neg hconfiguration]
      by_cases hknown : m.method ∈ Refactoring.acknowledged
      · rw [if_pos (by simpa using hknown)]
        exact ⟨rfl, rfl, fun h => absurd h hedit, fun h => absurd h hconfiguration, fun _ => rfl,
          fun h => absurd (List.mem_append_right _ hknown) h⟩
      · rw [if_neg (by simpa using hknown)]
        exact ⟨rfl, rfl, fun h => absurd h hedit, fun h => absurd h hconfiguration,
          fun h => absurd h hknown, fun _ => rfl⟩

end Message

/-! ## Messages that come in -/

namespace Connection

/-- A request is answered when it comes in, and nothing else is. -/
theorem answered_receive (c : Connection) (content : String) :
    Message.Answered [content] (c.receive content).2.toList := by
  by_cases hasks : ∃ id method params, Message.Asks content id method params
  · obtain ⟨id, method, params, hasks⟩ := hasks
    obtain ⟨m, hparse, hid, rfl, hne, rfl⟩ := Message.asks_iff.mp hasks
    have hreply : (c.receive content).2 = some m.reply := by
      rw [receive, hparse]
      simp [Message.isServerRequest, hid, hne]
    rw [hreply]
    exact .asked hasks (m.answer_reply hid) .nil
  · have hnothing : (c.receive content).2 = none := by
      unfold receive
      split
      · rfl
      · rename_i m hparse
        split
        · rename_i hrequest
          rw [Message.isServerRequest, Bool.and_eq_true, Option.isSome_iff_exists] at hrequest
          obtain ⟨⟨id, hid⟩, hne⟩ := hrequest
          exact absurd ⟨id, m.method, m.params,
            Message.asks_iff.mpr ⟨m, hparse, hid, rfl, by simpa using hne, rfl⟩⟩ hasks
        · split <;> rfl
    rw [hnothing]
    exact .passed (fun id method params h => hasks ⟨id, method, params, h⟩) .nil

variable {frames : List Frame.Stream} {contents : List String} {cut : Frame.Stream}

/-- The frames that have come in are taken in, and the beginning of another one stays. -/
theorem receiveAll_frames {c : Connection} (hopen : c.isOpen)
    (hframes : List.Forall₂ Frame.Holds frames contents) (hcut : Frame.missing cut ≠ 0)
    {limit : Nat} (hlimit : frames.length ≤ limit) :
    ∃ d answers, receiveAll false limit (frames.flatten ++ cut) c = (d, cut, answers) ∧ d.isOpen ∧
      Message.Answered contents answers := by
  induction hframes generalizing c limit with
  | nil =>
    refine ⟨c, [], ?_, hopen, .nil⟩
    cases limit with
    | zero => rfl
    | succ limit =>
      rw [List.flatten_nil, List.nil_append, receiveAll, if_pos (by simp [hcut])]
  | @cons frame content frames contents hframe _ ih =>
    obtain ⟨limit, rfl⟩ : ∃ n, limit = n + 1 := ⟨limit - 1, by simp at hlimit; omega⟩
    have hreceived : (c.receive content).1.isOpen := by rwa [isOpen_receive]
    obtain ⟨d, answers, hrest, hd, hanswers⟩ := ih hreceived (Nat.le_of_succ_le_succ hlimit)
    have hdecided := Frame.missing_append hframe.decided (frames.flatten ++ cut)
    refine ⟨d, (c.receive content).2.toList ++ answers, ?_, hd,
      (answered_receive c content).append hanswers⟩
    rw [List.flatten_cons, List.append_assoc, receiveAll, if_neg (by simp [hopen, hdecided]),
      hframe.read_append]
    dsimp only
    rw [hrest]

/-- What has arrived is taken in as far as it is made of frames. -/
theorem takeIn_frames {c : Connection} (hopen : c.isOpen)
    (hframes : List.Forall₂ Frame.Holds frames contents) (hcut : Frame.missing cut ≠ 0) :
    ∃ d answers, c.takeIn (frames.flatten ++ cut) false = (d, cut, answers) ∧ d.isOpen ∧
      Message.Answered contents answers := by
  have hlength := Frame.length_le_length_flatten hframes
  have hlimit : frames.length ≤ (frames.flatten ++ cut).length + 1 := by
    rw [List.length_append]
    omega
  obtain ⟨d, answers, htaken, hd, hanswers⟩ := receiveAll_frames hopen hframes hcut hlimit
  exact ⟨d, answers, htaken, hd, hanswers⟩

end Connection

/-! ## A client that listens -/

/-- A server sends more behind what it has sent. -/
theorem Peer.outbox_prefix_follow (script : List Action) (p : Peer) :
    p.outbox <+: (follow script p).outbox := by
  induction script generalizing p with
  | nil => exact List.prefix_rfl
  | cons action rest ih =>
    cases action with
    | read count =>
      rw [follow]
      dsimp only
      split
      · exact ih { p with heard := p.heard ++ p.inbox.take count, inbox := p.inbox.drop count }
      · exact List.prefix_rfl
    | send content =>
      rw [follow]
      exact (List.prefix_append _ _).trans (ih { p with outbox := _ })
    | raw bytes =>
      rw [follow]
      exact (List.prefix_append _ _).trans (ih { p with outbox := _ })
    | close => exact List.prefix_rfl

namespace Stage

/-- The bytes that come in when the client listens. -/
def arriving (s : Stage) : Frame.Stream := s.peer.play.outbox.drop s.peer.outbox.length

/-- What the client writes when it listens. -/
def written (s : Stage) : List Json := s.listen.peer.inbox.drop s.peer.play.inbox.length

/-- The client listens again and again, and its callers go on in between; the pieces of the stream
come in, and the answers are written.  The server reads what the client writes. -/
inductive Listened (start : Stage) : Stage → List Frame.Stream → List Json → Prop
  | start : Listened start start [] []
  | call {s : Stage} {pieces : List Frame.Stream} {answers : List Json}
      (h : Listened start s pieces answers) (call : SystemCall) :
      Listened start (s.reply call).2 pieces answers
  | listen {s : Stage} {pieces : List Frame.Stream} {answers : List Json}
      (h : Listened start s pieces answers) (hreads : s.peer.play.closed = false) :
      Listened start s.listen (pieces ++ [s.arriving]) (answers ++ s.written)

theorem outbox_play (s : Stage) : s.peer.play.outbox = s.peer.outbox ++ s.arriving :=
  List.prefix_iff_eq_append.mp (Peer.outbox_prefix_follow _ _) |>.symm

/-- The callers take nothing off the stream, and they do not end the connection. -/
theorem reply_keeps (s : Stage) (call : SystemCall) :
    (s.reply call).2.peer.outbox = s.peer.outbox ∧
      (s.reply call).2.connection.isOpen = s.connection.isOpen := by
  cases call with
  | write content =>
    rw [reply, Peer.accept]
    split
    · rename_i peer haccept
      split at haccept <;> cases haccept
      exact ⟨rfl, rfl⟩
    · exact ⟨rfl, rfl⟩
  | startServer config =>
    rw [reply, startServer]
    split
    · exact ⟨rfl, rfl⟩
    · split
      · exact ⟨rfl, rfl⟩
      · split <;> exact ⟨rfl, rfl⟩
  | choose | enter =>
    rw [reply, nextAnswer]
    split <;> exact ⟨rfl, rfl⟩
  | _ => exact ⟨rfl, rfl⟩

/-- What has arrived is taken in, and the answers are written to a server that reads. -/
theorem listen_eq {s : Stage} (hreads : s.peer.play.closed = false) {d : Connection}
    {rest : Frame.Stream} {answers : List Json}
    (h : s.connection.takeIn (s.peer.outbox ++ s.arriving) false = (d, rest, answers)) :
    s.listen.connection = d ∧ s.listen.peer.outbox = rest ∧ s.written = answers := by
  rw [← outbox_play] at h
  have hlisten : s.listen = { s with
      connection := d
      peer := { s.peer.play with outbox := rest, inbox := s.peer.play.inbox ++ answers } } := by
    rw [listen]
    simp only [hreads, h]
    rfl
  rw [written, hlisten]
  exact ⟨rfl, rfl, List.drop_left⟩

/-- The requests of the server are answered, one after the other, and nothing else is: whatever the
client has been doing, and wherever the stream was cut, the answers are those to the requests among
the frames that have come in, and the beginning of another frame is left to be completed.  No file is
touched by it. -/
theorem Listened.answered {start s : Stage} {pieces : List Frame.Stream} {answers : List Json}
    (h : Listened start s pieces answers) (hopen : start.connection.isOpen)
    (hfresh : start.peer.outbox = []) {frames : List Frame.Stream} {contents : List String}
    (hframes : List.Forall₂ Frame.Holds frames contents) {cut : Frame.Stream}
    (hcut : Frame.missing cut ≠ 0) (hpieces : pieces.flatten = frames.flatten ++ cut) :
    Message.Answered contents answers ∧ s.peer.outbox = cut ∧ s.connection.isOpen ∧
      s.listen.disk = s.disk := by
  suffices hanswered : Message.Answered contents answers ∧ s.peer.outbox = cut ∧
      s.connection.isOpen from ⟨hanswered.1, hanswered.2.1, hanswered.2.2, rfl⟩
  induction h generalizing frames contents cut with
  | start =>
    obtain ⟨hnone, rfl⟩ := List.append_eq_nil_iff.mp hpieces.symm
    have hlength := Frame.length_le_length_flatten hframes
    rw [hnone, List.length_nil, Nat.le_zero, List.length_eq_zero_iff] at hlength
    subst hlength
    cases hframes
    exact ⟨.nil, hfresh, hopen⟩
  | call h call ih =>
    rw [(reply_keeps _ call).1, (reply_keeps _ call).2]
    exact ih hframes hcut hpieces
  | @listen s pieces answers h hreads ih =>
    rw [List.flatten_append, List.flatten_singleton] at hpieces
    obtain ⟨k, cut', hp, hcut'⟩ := Frame.exists_cut hframes hcut ⟨_, hpieces⟩
    obtain ⟨hanswers, houtbox, hs⟩ := ih (List.forall₂_take k hframes) hcut' hp
    have hrest : s.peer.outbox ++ s.arriving = (frames.drop k).flatten ++ cut := by
      rw [houtbox]
      rw [hp, List.append_assoc] at hpieces
      refine List.append_cancel_left (hpieces.trans ?_)
      rw [← List.append_assoc, ← List.flatten_append, List.take_append_drop]
    obtain ⟨d, more, htaken, hd, hmore⟩ :=
      Connection.takeIn_frames hs (List.forall₂_drop k hframes) hcut
    obtain ⟨rfl, rfl, rfl⟩ := listen_eq hreads (hrest ▸ htaken)
    refine ⟨?_, rfl, hd⟩
    have hall := hanswers.append hmore
    rwa [List.take_append_drop] at hall

/-- Two requests, one under a text and one under `null`, with a text between them that is none. -/
def twoRequests : List String :=
  ["\x7b\"id\":\"1\",\"method\":\"workspace/configuration\",\"params\":\x7b\"items\":[0,1]\x7d\x7d",
    "\x7b", "\x7b\"id\":null,\"method\":\"window/showDocument\"\x7d"]

/-- A server that sends these bytes. -/
def sending (bytes : Frame.Stream) : Stage where
  disk := Disk.empty
  directory := []
  connection := .start
  installed := []
  executables := []
  peer := .start [.raw bytes]
  started := none
  user := none
  screen := []

theorem arriving_sending (bytes : Frame.Stream) : (sending bytes).arriving = bytes := rfl

theorem listened_sending (bytes : Frame.Stream) : Listened (sending bytes) (sending bytes).listen
    [(sending bytes).arriving] (sending bytes).written :=
  Listened.start.listen rfl

/-- Behind the two requests, the first byte of another frame has come in. -/
def requesting : Stage := sending ((twoRequests.map Frame.write).flatten ++ [67])

theorem Listened.answered_requesting :
    requesting.connection.isOpen ∧ requesting.peer.outbox = [] ∧
      Listened requesting requesting.listen [requesting.arriving] requesting.written ∧
      Message.Answered twoRequests requesting.written := by
  have hheard : Listened requesting requesting.listen [requesting.arriving] requesting.written :=
    listened_sending _
  have hframes : List.Forall₂ Frame.Holds (twoRequests.map Frame.write) twoRequests := by
    rw [List.forall₂_map_left_iff, List.forall₂_same]
    intro content hcontent
    have hshort : ∀ content ∈ twoRequests, (Utf8.encode content).length < 100 := by decide
    exact Frame.holds_write (Nat.le_trans (hshort content hcontent).le (by decide))
  have hcut : Frame.missing [67] ≠ 0 := by
    simp [Frame.missing_eq_zero_iff, Frame.headerArrived_cons, Frame.cutLine]
  have hpieces : [requesting.arriving].flatten = (twoRequests.map Frame.write).flatten ++ [67] :=
    List.flatten_singleton.trans (arriving_sending _)
  exact ⟨rfl, rfl, hheard, (Listened.answered hheard rfl rfl hframes hcut hpieces).1⟩

end Stage

end Refactoring
