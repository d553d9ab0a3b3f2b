import Refactoring.Proofs.Session.Ending

/-!
# Requests that are given up

A request is registered before it is written.  A caller whose request cannot be written returns with
the failure and leaves the request among those that wait, although no one will ever take its
response.  So what waits belongs to a caller that has not returned, or it was given up.
-/

namespace Refactoring

/-! ## Where registered numbers go -/

/-- The number of a request, from its content. -/
def requestNumber? (content : Json) : Option Nat := (content.get? "id").bind Json.natural?

@[simp] theorem requestNumber?_requestContent (id : Nat) (method : String) (params : Json) :
    requestNumber? (requestContent id method params) = some id := by
  simp [requestNumber?, requestContent, Json.get?, Json.member?, Json.ofNat, Json.natural?]

namespace SystemEvent

/-- The number of a request that could not be written. -/
def givenUp? : SystemEvent → Option Nat
  | ⟨.write content, .error _⟩ => requestNumber? content
  | _ => none

/-- The number of a request whose outcome has been taken. -/
def answered? : SystemEvent → Option Nat
  | ⟨.await id _, _⟩ => some id
  | _ => none

end SystemEvent

namespace Session

/-- The number under which a caller has registered a request that it has not returned from. -/
def held? : Work (Except Failure Json) → Option Nat
  | .ask (.write content) _ => requestNumber? content
  | .ask (.await id _) _ => some id
  | _ => none

theorem held?_send (method : String) (params : Json) : held? (send method params).run = none := by
  rw [run_send]
  rfl

/-- A call registers the number that its caller then holds; with a caller that returns, its number
is given up or answered. -/
theorem Underway.held?_next {c d : Connection} {question : SystemCall}
    {next : question.Reply → Work (Except Failure Json)} {reply : question.Reply}
    (h : Underway (.ask question next)) (hr : c.Replies ⟨question, reply⟩ d) :
    (held? (next reply)).toList ++ (SystemEvent.givenUp? ⟨question, reply⟩).toList ++
        (SystemEvent.answered? ⟨question, reply⟩).toList =
      (SystemEvent.registered? ⟨question, reply⟩).toList ++
        (held? (.ask question next)).toList := by
  cases hr with
  | allocate =>
    obtain ⟨method, params, rfl⟩ := h.allocate_inv
    rfl
  | register id =>
    obtain ⟨method, params, rfl⟩ := h.register_inv
    simp [afterRegistering, held?, SystemEvent.givenUp?, SystemEvent.answered?,
      SystemEvent.registered?]
  | write content written =>
    obtain ⟨id, method, params, rfl, hok, herror⟩ := h.write_inv
    cases written with
    | ok done =>
      rw [hok]
      simp [afterWriting, held?, SystemEvent.givenUp?, SystemEvent.answered?,
        SystemEvent.registered?]
    | error reason =>
      rw [herror]
      simp [held?, SystemEvent.givenUp?, SystemEvent.answered?, SystemEvent.registered?]
  | await =>
    rw [h.await_inv]
    rfl

end Session

namespace Exchange

variable {actions : List Action} {action : Action} {x y : Exchange}

/-- The numbers that callers hold. -/
def held (x : Exchange) : List Nat := x.callers.filterMap Session.held?

/-- The numbers that callers hold, with those of one caller set apart. -/
theorem held_middle (c : Connection) (before after : List (Work (Except Failure Json)))
    (work : Work (Except Failure Json)) :
    held ⟨c, before ++ work :: after⟩ =
      before.filterMap Session.held? ++ ((Session.held? work).toList ++
        after.filterMap Session.held?) := by
  cases h : Session.held? work <;> simp [held, h]

/-- The number that a caller gives up with an action. -/
def Action.givenUp? : Action → Option Nat
  | .call _ event => event.givenUp?
  | _ => none

/-- The number whose outcome a caller takes with an action. -/
def Action.answered? : Action → Option Nat
  | .call _ event => event.answered?
  | _ => none

/-- The numbers that actions register, in order. -/
def registered (actions : List Action) : List Nat := actions.filterMap Action.registered?

/-- The numbers that callers have given up. -/
def givenUp (actions : List Action) : List Nat := actions.filterMap Action.givenUp?

/-- The numbers whose outcomes have been taken. -/
def answered (actions : List Action) : List Nat := actions.filterMap Action.answered?

/-- Each number that was registered is held by a caller, has been given up or has been answered. -/
theorem Reached.perm_registered (h : Reached actions x) :
    (x.held ++ givenUp actions ++ answered actions).Perm (registered actions) := by
  induction h with
  | start => exact .refl _
  | @step actions action x y h hs ih =>
    rw [List.perm_iff_count] at ih ⊢
    intro id
    have hcount := ih id
    unfold givenUp answered registered at hcount ⊢
    rw [filterMap_snoc, filterMap_snoc, filterMap_snoc]
    simp only [List.count_append] at hcount ⊢
    cases hs with
    | enter _ method params =>
      have hheld :
          held ⟨x.connection, x.callers ++ [(Session.send method params).run]⟩ = x.held := by
        simp [held, Session.held?_send]
      rw [hheld]
      exact hcount
    | receive | close | breakDown => exact hcount
    | @call c d before after question next reply hr =>
      have hu : Session.Underway (.ask question next) := h.numbered.underway _ (by simp)
      have hnext := congrArg (List.count id) (hu.held?_next hr)
      rw [held_middle] at hcount ⊢
      simp only [List.count_append, Action.givenUp?, Action.answered?, Action.registered?]
        at hcount hnext ⊢
      omega

/-- An outcome that has been taken is there. -/
theorem Reached.mem_completed_of_answered (h : Reached actions x) {id : Nat}
    (hid : id ∈ answered actions) : id ∈ x.connection.completed.map Prod.fst := by
  induction h with
  | start => cases hid
  | @step actions action x y h hs ih =>
    rw [answered, filterMap_snoc] at hid
    rcases List.mem_append.mp hid with hearlier | hlast
    · obtain ⟨⟨_, outcome⟩, hmem, rfl⟩ := List.mem_map.mp (ih hearlier)
      exact List.mem_map_of_mem ((hs.mem_completed _ outcome).mpr (.inl hmem))
    · cases hs with
      | enter | receive | close | breakDown => cases hlast
      | call hr =>
        cases hr with
        | allocate | register | write => cases hlast
        | await method ho =>
          obtain rfl := List.mem_singleton.mp hlast
          exact Connection.exists_outcome?_iff.mp ⟨_, ho⟩

/-- **What waits.**  A number waits exactly if it has no outcome and its caller either holds it,
which is from its registration on until the caller returns, or has given it up.  So a request that
could not be written goes on to wait until a response to it comes in or the connection ends. -/
theorem Reached.mem_waiting_iff_held_or_givenUp (h : Reached actions x) (id : Nat) :
    id ∈ x.connection.waiting ↔
      (id ∈ x.held ∨ id ∈ givenUp actions) ∧ x.connection.outcome? id = none := by
  have hregistered : id ∈ x.connection.taken ↔ id ∈ registered actions := by
    rw [h.mem_taken, registered, List.mem_filterMap]
  rw [← h.perm_registered.mem_iff, List.mem_append, List.mem_append] at hregistered
  constructor
  · intro hwaiting
    have hnone := h.outcome?_eq_none hwaiting
    refine ⟨?_, hnone⟩
    rcases hregistered.mp (List.mem_append_left _ hwaiting) with hkept | hanswered
    · exact hkept
    · obtain ⟨outcome, ho⟩ :=
        Connection.exists_outcome?_iff.mpr (h.mem_completed_of_answered hanswered)
      rw [hnone] at ho
      cases ho
  · rintro ⟨hkept, hnone⟩
    rcases List.mem_append.mp (hregistered.mpr (.inl hkept)) with hwaiting | hcompleted
    · exact hwaiting
    · obtain ⟨outcome, ho⟩ := Connection.exists_outcome?_iff.mpr hcompleted
      rw [hnone] at ho
      cases ho

/-- A request is registered, but it cannot be written. -/
def writeFailed : List Action :=
  [.enter "shutdown" .null, .call 0 ⟨.allocate, (1 : Nat)⟩, .call 0 ⟨.register 1, ()⟩,
    .call 0 ⟨.write (requestContent 1 "shutdown" .null), Except.error (.of "Broken pipe")⟩]

/-- Not all that waits is held: the only caller has returned, and its request waits. -/
theorem not_forall_mem_held : ¬ ∀ actions x, Reached actions x →
    ∀ id ∈ x.connection.waiting, id ∈ x.held := by
  intro h
  have entered := Reached.start.step (.enter _ "shutdown" .null)
  simp only [Session.run_send] at entered
  have registered := (entered.step (@Step.call _ _ [] [] .allocate _ _ .allocate)).step
    (@Step.call _ _ [] [] (.register 1) _ () (.register 1))
  have failed : Reached writeFailed _ := registered.step
    (@Step.call _ _ [] [] (.write (requestContent 1 "shutdown" .null)) _
      (.error (.of "Broken pipe")) (.write _ _))
  cases h _ _ failed 1 (List.mem_cons_self ..)

end Exchange
end Refactoring
