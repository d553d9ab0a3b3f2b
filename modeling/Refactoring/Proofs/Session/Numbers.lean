import Refactoring.Proofs.Session.Exchange
import Refactoring.Proofs.Session.Response

/-!
# The numbers of requests

Every number that was given out is in one of three places: a caller has not registered it yet, a
request waits under it, or a request was completed under it.  No step loses or doubles one, so that
requests are told apart by their numbers and none is completed twice.  They are given out one after
the other from 1 on, so that a counter of 64 bits lasts for `2 ^ 64 - 1` requests.
-/

namespace Refactoring

namespace Connection

/-- The numbers under which requests wait or were completed. -/
def taken (c : Connection) : List Nat := c.waiting ++ c.completed.map Prod.fst

/-- Completing a request takes its number from those that wait to those that are completed. -/
theorem taken_complete {c : Connection} (hw : c.waiting.Nodup) (id : Nat)
    (outcome : Except Failure Json) : (c.complete id outcome).taken.Perm c.taken := by
  unfold complete
  split
  · rename_i h
    have hid : id ∈ c.waiting := by simpa using h
    have herase : c.waiting.filter (· ≠ id) = c.waiting.erase id := by
      rw [hw.erase_eq_filter id]
      exact List.filter_congr fun i _ => by by_cases hi : i = id <;> simp [hi]
    have hperm : c.waiting.Perm (id :: c.waiting.filter (· ≠ id)) := by
      rw [herase]
      exact List.perm_cons_erase hid
    exact List.perm_middle.trans (hperm.symm.append_right _)
  · exact .refl _

/-- A message only takes numbers from those that wait to those that are completed. -/
theorem taken_receive {c : Connection} (hw : c.waiting.Nodup) (content : String) :
    (c.receive content).1.taken.Perm c.taken := by
  by_cases h : ∃ id outcome, Message.Responds content id outcome
  · obtain ⟨id, outcome, h⟩ := h
    rw [receive_of_responds c h]
    exact taken_complete hw id outcome
  · simp only [not_exists] at h
    rw [receive_of_not_responds c h]

/-- At the end all numbers are those of completed requests. -/
theorem taken_close (c : Connection) : c.close.taken = c.taken := by
  simp [taken, close, Function.comp_def]

/-- Messages give out no numbers. -/
theorem nextId_receive (c : Connection) (content : String) :
    (c.receive content).1.nextId = c.nextId := by
  by_cases h : ∃ id outcome, Message.Responds content id outcome
  · obtain ⟨id, outcome, h⟩ := h
    rw [receive_of_responds c h]
    unfold complete
    split <;> rfl
  · simp only [not_exists] at h
    rw [receive_of_not_responds c h]

namespace Replies

variable {c d : Connection} {event : SystemEvent}

/-- A call puts the number that it registers among those that are taken. -/
theorem taken_eq (h : c.Replies event d)
    (hn : ∀ id, event.registered? = some id → id ∉ c.waiting) :
    d.taken = event.registered?.toList ++ c.taken := by
  simp [taken, h.waiting_eq hn, h.completed_eq]

/-- A call gives out the next number or none. -/
theorem exists_handedOut_eq (h : c.Replies event d) :
    ∃ n, d.nextId = c.nextId + n ∧ event.handedOut?.toList = List.range' c.nextId n := by
  cases h with
  | allocate => exact ⟨1, rfl, rfl⟩
  | register | write | await => exact ⟨0, rfl, rfl⟩

end Replies
end Connection

namespace Session

/-- The number that a caller has not registered yet is the one that its next call registers. -/
theorem unregistered?_ask (question : SystemCall)
    (next : question.Reply → Work (Except Failure Json)) (reply : question.Reply) :
    unregistered? (.ask question next) = SystemEvent.registered? ⟨question, reply⟩ := by
  cases question <;> rfl

namespace Underway

variable {question : SystemCall} {next : question.Reply → Work (Except Failure Json)}
  {reply : question.Reply} {c d : Connection}

/-- What remains for a caller is what a caller can have still to do. -/
theorem remaining (h : Underway (.ask question next)) (hr : c.Replies ⟨question, reply⟩ d) :
    Underway (next reply) := by
  cases hr with
  | allocate =>
    obtain ⟨method, params, rfl⟩ := h.allocate_inv
    exact .numbered _ method params
  | register id =>
    obtain ⟨method, params, rfl⟩ := h.register_inv
    exact .registered id method params
  | write content written =>
    obtain ⟨id, method, params, -, hok, herror⟩ := h.write_inv
    cases written with
    | ok done => rw [hok]; exact .written id method
    | error reason => rw [herror]; exact .ended _
  | await =>
    rw [h.await_inv]
    exact .ended _

/-- A caller that is given a number has still to register it. -/
theorem unregistered?_next (h : Underway (.ask question next))
    (hr : c.Replies ⟨question, reply⟩ d) :
    unregistered? (next reply) = SystemEvent.handedOut? ⟨question, reply⟩ := by
  cases hr with
  | allocate =>
    obtain ⟨method, params, rfl⟩ := h.allocate_inv
    rfl
  | register id =>
    obtain ⟨method, params, rfl⟩ := h.register_inv
    rfl
  | write content written =>
    obtain ⟨id, method, params, -, hok, herror⟩ := h.write_inv
    cases written with
    | ok done => rw [hok]; rfl
    | error reason => rw [herror]; rfl
  | await =>
    rw [h.await_inv]
    rfl

end Underway
end Session

namespace Exchange

/-- The numbers that were given out, by the places where they are. -/
def numbers (x : Exchange) : List Nat :=
  x.callers.filterMap Session.unregistered? ++ x.connection.taken

/-- The numbers with those of one caller set apart. -/
theorem numbers_middle (c : Connection) (before after : List (Work (Except Failure Json)))
    (work : Work (Except Failure Json)) :
    numbers ⟨c, before ++ work :: after⟩ =
      before.filterMap Session.unregistered? ++ ((Session.unregistered? work).toList ++
        after.filterMap Session.unregistered?) ++ c.taken := by
  cases h : Session.unregistered? work <;> simp [numbers, h]

/-- What the last action adds comes last. -/
theorem filterMap_snoc {β : Type} (f : Action → Option β) (actions : List Action)
    (action : Action) :
    (actions ++ [action]).filterMap f = actions.filterMap f ++ (f action).toList := by
  rw [List.filterMap_append]
  cases h : f action <;> simp [h]

/-- The numbers that actions give out, in order. -/
def handedOut (actions : List Action) : List Nat := actions.filterMap Action.handedOut?

@[simp] theorem handedOut_snoc (actions : List Action) (action : Action) :
    handedOut (actions ++ [action]) = handedOut actions ++ action.handedOut?.toList :=
  filterMap_snoc Action.handedOut? actions action

/-- What holds of the numbers of an exchange after some actions. -/
structure Numbered (actions : List Action) (x : Exchange) : Prop where
  /-- All callers run `send`. -/
  underway : ∀ work ∈ x.callers, Session.Underway work
  /-- The next number follows those that were given out. -/
  nextId : x.connection.nextId = (handedOut actions).length + 1
  /-- Numbers are given out in order, from one. -/
  inOrder : handedOut actions = List.range' 1 (handedOut actions).length
  /-- Each number that was given out is in one place. -/
  conserved : x.numbers.Perm (handedOut actions)

namespace Numbered

variable {actions : List Action} {x y : Exchange}

/-- No number is given out twice. -/
theorem nodup_handedOut (h : Numbered actions x) : (handedOut actions).Nodup := by
  rw [h.inOrder]
  exact List.nodup_range'

/-- No number is in two places. -/
theorem nodup (h : Numbered actions x) : x.numbers.Nodup :=
  h.conserved.nodup_iff.mpr h.nodup_handedOut

/-- No number that waits is that of a completed request, and none is there twice. -/
theorem nodup_taken (h : Numbered actions x) : x.connection.taken.Nodup :=
  (List.nodup_append.mp h.nodup).2.1

theorem nodup_waiting (h : Numbered actions x) : x.connection.waiting.Nodup :=
  (List.nodup_append.mp h.nodup_taken).1

/-- A number that a caller has not registered yet is not in use. -/
theorem not_mem_taken (h : Numbered actions x) {work : Work (Except Failure Json)}
    (hw : work ∈ x.callers) {id : Nat} (hid : Session.unregistered? work = some id) :
    id ∉ x.connection.taken := by
  intro htaken
  have hcaller : id ∈ x.callers.filterMap Session.unregistered? :=
    List.mem_filterMap.mpr ⟨work, hw, hid⟩
  exact (List.nodup_append.mp h.nodup).2.2 id hcaller id htaken rfl

theorem not_mem_waiting (h : Numbered actions x) {work : Work (Except Failure Json)}
    (hw : work ∈ x.callers) {id : Nat} (hid : Session.unregistered? work = some id) :
    id ∉ x.connection.waiting :=
  fun hmem => h.not_mem_taken hw hid (List.mem_append_left _ hmem)

/-- An action that gives out no number and keeps each number in some place. -/
theorem keep {action : Action} (h : Numbered actions x) (hout : action.handedOut? = none)
    (hunderway : ∀ work ∈ y.callers, Session.Underway work)
    (hnext : y.connection.nextId = x.connection.nextId) (hperm : y.numbers.Perm x.numbers) :
    Numbered (actions ++ [action]) y where
  underway := hunderway
  nextId := by simp [hout, hnext, h.nextId]
  inOrder := by simpa [hout] using h.inOrder
  conserved := by simpa [hout] using hperm.trans h.conserved

/-- A call takes the number that it registers from its caller, and gives it the number that is
handed out. -/
theorem call {c d : Connection} {before after : List (Work (Except Failure Json))}
    {question : SystemCall} {next : question.Reply → Work (Except Failure Json)}
    {reply : question.Reply} (h : Numbered actions ⟨c, before ++ .ask question next :: after⟩)
    (hr : c.Replies ⟨question, reply⟩ d) :
    Numbered (actions ++ [.call before.length ⟨question, reply⟩])
      ⟨d, before ++ next reply :: after⟩ := by
  have hu : Session.Underway (.ask question next) := h.underway _ (by simp)
  have hfresh : ∀ id, SystemEvent.registered? ⟨question, reply⟩ = some id → id ∉ c.waiting := by
    intro id hid
    rw [← Session.unregistered?_ask question next] at hid
    exact h.not_mem_waiting (by simp) hid
  obtain ⟨n, hnext, hout⟩ := hr.exists_handedOut_eq
  have hlength : c.nextId = (handedOut actions).length + 1 := h.nextId
  constructor
  · intro work hwork
    rcases List.mem_append.mp hwork with hb | ha
    · exact h.underway work (by simp [hb])
    · rcases List.mem_cons.mp ha with rfl | ha
      · exact hu.remaining hr
      · exact h.underway work (by simp [ha])
  · rw [handedOut_snoc, Action.handedOut?, hout]
    simp only [List.length_append, List.length_range']
    omega
  · rw [handedOut_snoc, Action.handedOut?, hout, hlength]
    calc handedOut actions ++ List.range' ((handedOut actions).length + 1) n
        = List.range' 1 (handedOut actions).length ++
            List.range' (1 + (handedOut actions).length) n := by
          rw [← h.inOrder, Nat.add_comm 1]
      _ = List.range' 1 ((handedOut actions).length + n) := List.range'_append_1
      _ = _ := by simp
  · have hperm := h.conserved
    rw [numbers_middle, Session.unregistered?_ask question next reply] at hperm
    rw [numbers_middle, hu.unregistered?_next hr, hr.taken_eq hfresh, handedOut_snoc,
      Action.handedOut?]
    rw [List.perm_iff_count] at hperm ⊢
    intro id
    have hcount := hperm id
    simp only [List.count_append] at hcount ⊢
    omega

/-- A step loses no number and doubles none. -/
theorem step {action : Action} (h : Numbered actions x) (hs : Step x action y) :
    Numbered (actions ++ [action]) y := by
  cases hs with
  | enter _ method params =>
    refine h.keep rfl ?_ rfl ?_
    · intro work hwork
      rcases List.mem_append.mp hwork with hw | hw
      · exact h.underway work hw
      · obtain rfl : work = (Session.send method params).run := by simpa using hw
        exact .fresh method params
    · simp [numbers, Session.unregistered?_send]
  | call hr => exact h.call hr
  | receive _ content =>
    refine h.keep rfl h.underway (Connection.nextId_receive _ content) ?_
    exact (Connection.taken_receive h.nodup_waiting content).append_left _
  | close =>
    refine h.keep rfl h.underway rfl ?_
    rw [numbers, Connection.taken_close]
    exact .refl _
  | breakDown => exact h.keep rfl h.underway rfl (.refl _)

end Numbered

/-- In every exchange each number that was given out is in one place. -/
theorem Reached.numbered {actions : List Action} {x : Exchange} (h : Reached actions x) :
    Numbered actions x := by
  induction h with
  | start =>
    exact {
      underway := by simp [Exchange.start]
      nextId := rfl
      inOrder := rfl
      conserved := .refl _ }
  | step _ hs ih => exact ih.step hs

end Exchange
end Refactoring
