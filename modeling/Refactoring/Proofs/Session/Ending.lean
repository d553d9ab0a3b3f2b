import Mathlib.Data.List.Induction
import Mathlib.Data.List.Nodup
import Refactoring.Proofs.Session.Completion

/-!
# After the end of a connection

When the connection ends, every request that waits is completed with an error, unless the reader of
the messages breaks down: then all of them go on waiting.  Nothing keeps a caller from registering a
request after that, and the server may still take it in; but no message comes in any more, so that
whatever waits after the end waits for good.
-/

namespace Refactoring

namespace Connection

/-- Messages do not end the connection. -/
theorem isOpen_receive (c : Connection) (content : String) :
    (c.receive content).1.isOpen = c.isOpen := by
  by_cases h : ∃ id outcome, Message.Responds content id outcome
  · obtain ⟨id, outcome, h⟩ := h
    rw [receive_of_responds c h]
    unfold complete
    split <;> rfl
  · simp only [not_exists] at h
    rw [receive_of_not_responds c h]

/-- Calls do not end the connection. -/
theorem Replies.isOpen_eq {c d : Connection} {event : SystemEvent} (h : c.Replies event d) :
    d.isOpen = c.isOpen := by
  cases h <;> rfl

/-- A request has an outcome once it is completed. -/
theorem exists_outcome?_iff {c : Connection} {id : Nat} :
    (∃ outcome, c.outcome? id = some outcome) ↔ id ∈ c.completed.map Prod.fst := by
  constructor
  · rintro ⟨outcome, h⟩
    obtain ⟨newer, older, hc, -⟩ := List.lookup_eq_some_iff.mp h
    rw [hc]
    simp
  · intro h
    cases ho : c.outcome? id with
    | some outcome => exact ⟨outcome, rfl⟩
    | none =>
      obtain ⟨⟨id, outcome⟩, hmem, rfl⟩ := List.mem_map.mp h
      simpa using List.lookup_eq_none_iff.mp ho _ hmem

end Connection

namespace Exchange

variable {actions before after : List Action} {action ending : Action} {x y : Exchange}

/-! ## Registrations -/

/-- The numbers that are taken are those under which a step has registered a request. -/
theorem Step.mem_taken (h : Numbered actions x) (hs : Step x action y) (id : Nat) :
    id ∈ y.connection.taken ↔ action.registered? = some id ∨ id ∈ x.connection.taken := by
  cases hs with
  | enter => simp [Action.registered?]
  | @call c d before after question next reply hr =>
    have hfresh : ∀ k, SystemEvent.registered? ⟨question, reply⟩ = some k → k ∉ c.waiting := by
      intro k hk
      rw [← Session.unregistered?_ask question next] at hk
      exact h.not_mem_waiting (by simp) hk
    simp [hr.taken_eq hfresh, Action.registered?]
  | receive _ content =>
    rw [(Connection.taken_receive h.nodup_waiting content).mem_iff]
    simp [Action.registered?]
  | close =>
    rw [Connection.taken_close]
    simp [Action.registered?]
  | breakDown => simp [Connection.breakDown, Connection.taken, Action.registered?]

theorem Reached.mem_taken (h : Reached actions x) (id : Nat) :
    id ∈ x.connection.taken ↔ ∃ action ∈ actions, action.registered? = some id := by
  induction h with
  | start => simp [Exchange.start, Connection.start, Connection.taken]
  | step h hs ih =>
    rw [hs.mem_taken h.numbered, ih]
    simp only [List.mem_append, List.mem_singleton, or_and_right, exists_or, exists_eq_left]
    exact or_comm

/-- No number is registered twice. -/
theorem Step.not_mem_taken (h : Numbered actions x) (hs : Step x action y) {id : Nat}
    (hid : action.registered? = some id) : id ∉ x.connection.taken := by
  cases hs with
  | @call c d before after question next reply hr =>
    have hcaller : Session.unregistered? (.ask question next) = some id := by
      rw [Session.unregistered?_ask question next reply]
      exact hid
    exact h.not_mem_taken (by simp) hcaller
  | enter | receive | close | breakDown => cases hid

/-! ## The end -/

/-- The actions after which no message is taken in. -/
inductive Action.Ends : Action → Prop where
  | close : Ends .close
  | breakDown : Ends .breakDown

/-- An exchange is reached by its last step from one that the other actions lead to. -/
theorem Reached.snoc_inv (h : Reached (actions ++ [action]) y) :
    ∃ x, Reached actions x ∧ Step x action y := by
  generalize hall : actions ++ [action] = all at h
  cases h with
  | start => simp at hall
  | step h hs =>
    obtain ⟨rfl, hlast⟩ := List.append_inj' hall rfl
    obtain rfl := List.singleton_inj.mp hlast
    exact ⟨_, h, hs⟩

/-- The connection is open as long as it has not been ended. -/
theorem Reached.isOpen_iff (h : Reached actions x) :
    x.connection.isOpen = true ↔ ∀ action ∈ actions, ¬ action.Ends := by
  induction h with
  | start => simp [Exchange.start, Connection.start]
  | step h hs ih =>
    simp only [List.forall_mem_append, List.forall_mem_singleton, ← ih]
    cases hs with
    | enter => exact (and_iff_left (by rintro ⟨⟩)).symm
    | call hr => rw [hr.isOpen_eq]; exact (and_iff_left (by rintro ⟨⟩)).symm
    | receive _ content => rw [Connection.isOpen_receive]; exact (and_iff_left (by rintro ⟨⟩)).symm
    | close => simp [Connection.close, Action.Ends.close]
    | breakDown => simp [Connection.breakDown, Action.Ends.breakDown]

/-- Nothing is settled after the end. -/
theorem Reached.not_settles_after_end (h : Reached (before ++ ending :: after) x)
    (hends : ending.Ends) : ∀ action ∈ after, ∀ id outcome, ¬ Settles id action outcome := by
  induction after using List.reverseRecOn generalizing x with
  | nil => simp
  | append_singleton after last ih =>
    rw [← List.cons_append, ← List.append_assoc] at h
    obtain ⟨w, hw, hs⟩ := h.snoc_inv
    have hended : ¬ w.connection.isOpen = true := by
      rw [hw.isOpen_iff]
      exact fun hopen => hopen ending (by simp) hends
    intro action haction
    rcases List.mem_append.mp haction with hbefore | hlast
    · exact ih hw action hbefore
    · obtain rfl := List.mem_singleton.mp hlast
      cases hs with
      | enter => exact fun _ _ => not_settles_enter
      | call => exact fun _ _ => not_settles_call
      | receive _ _ hopen => exact absurd hopen hended
      | close _ hopen => exact absurd hopen hended
      | breakDown _ hopen => exact absurd hopen hended

/-- A number that is registered after some actions has not been registered by one of them. -/
theorem Reached.not_registered_before (h : Reached (before ++ after) x) {id : Nat}
    (hafter : ∃ action ∈ after, action.registered? = some id) :
    ¬ ∃ action ∈ before, action.registered? = some id := by
  induction after using List.reverseRecOn generalizing x with
  | nil => simp at hafter
  | append_singleton after last ih =>
    rw [← List.append_assoc] at h
    obtain ⟨w, hw, hs⟩ := h.snoc_inv
    obtain ⟨action, haction, hid⟩ := hafter
    rcases List.mem_append.mp haction with hmem | hlast
    · exact ih hw ⟨action, hmem, hid⟩
    · obtain rfl := List.mem_singleton.mp hlast
      have hfresh := hs.not_mem_taken hw.numbered hid
      rw [hw.mem_taken] at hfresh
      rintro ⟨old, hold, hregistered⟩
      exact hfresh ⟨old, List.mem_append_left _ hold, hregistered⟩

/-- What waits at the end goes on waiting only if the reader of the messages breaks down. -/
theorem waits_ending (hends : ending.Ends) (id : Nat) :
    Waits id (before ++ [ending]) ↔ ending = .breakDown ∧ Waits id before := by
  rw [waits_snoc]
  cases hends with
  | close =>
    constructor
    · rintro (hregistered | ⟨-, hno⟩)
      · cases hregistered
      · exact absurd .close (hno (.error Connection.lost))
    · rintro ⟨hother, -⟩
      cases hother
  | breakDown => simp [Action.registered?, not_settles_breakDown]

/-- What waits after the end are the requests that were registered after it, and those that went on
waiting because the reader of the messages broke down. -/
theorem Reached.mem_waiting_after_end (h : Reached (before ++ ending :: after) x)
    (hends : ending.Ends) (id : Nat) :
    id ∈ x.connection.waiting ↔ (ending = .breakDown ∧ Waits id before) ∨
      ∃ action ∈ after, action.registered? = some id := by
  induction after using List.reverseRecOn generalizing x with
  | nil => simp [h.mem_waiting, waits_ending hends]
  | append_singleton after last ih =>
    have hsettles := h.not_settles_after_end hends last (by simp) id
    rw [← List.cons_append, ← List.append_assoc] at h
    obtain ⟨w, hw, hs⟩ := h.snoc_inv
    rw [hs.mem_waiting, ih hw, and_iff_left hsettles]
    simp only [List.mem_append, List.mem_singleton, or_and_right, exists_or, exists_eq_left]
    rw [or_comm, or_assoc]

/-- A request that waits has no outcome. -/
theorem Reached.outcome?_eq_none (h : Reached actions x) {id : Nat}
    (hid : id ∈ x.connection.waiting) : x.connection.outcome? id = none := by
  cases ho : x.connection.outcome? id with
  | none => rfl
  | some outcome =>
    have hcompleted := Connection.exists_outcome?_iff.mp ⟨outcome, ho⟩
    exact absurd rfl ((List.nodup_append.mp h.numbered.nodup_taken).2.2 id hid id hcompleted)

/-- A request has the outcome that it was completed with. -/
theorem Reached.outcome?_eq_some (h : Reached actions x) {id : Nat}
    {outcome : Except Failure Json} :
    x.connection.outcome? id = some outcome ↔ Completes id outcome actions := by
  rw [← h.mem_completed]
  constructor
  · intro ho
    obtain ⟨newer, older, hc, -⟩ := List.lookup_eq_some_iff.mp ho
    rw [hc]
    simp
  · intro hmem
    obtain ⟨other, ho⟩ := Connection.exists_outcome?_iff.mpr (List.mem_map_of_mem hmem)
    obtain ⟨newer, older, hc, -⟩ := List.lookup_eq_some_iff.mp ho
    have hother : (id, other) ∈ x.connection.completed := by
      rw [hc]
      simp
    have hnodup := (List.nodup_append.mp h.numbered.nodup_taken).2.1
    have heq := List.inj_on_of_nodup_map hnodup hother hmem rfl
    rw [ho, (Prod.mk.inj heq).2]

/-- A request that was registered waits or has an outcome. -/
theorem Reached.exists_outcome? (h : Reached actions x) {id : Nat}
    (hid : ∃ action ∈ actions, action.registered? = some id) (hno : id ∉ x.connection.waiting) :
    ∃ outcome, x.connection.outcome? id = some outcome := by
  have htaken := (h.mem_taken id).mpr hid
  exact Connection.exists_outcome?_iff.mpr ((List.mem_append.mp htaken).resolve_left hno)

/-- **Requests and the end of the connection.**  After the end every request that was registered
before has an outcome, which is an error if the request was waiting then; only if the reader of the
messages has broken down, those that were waiting go on waiting.  So do the requests that are
registered after the end, and whatever happens then, no caller ever gets a response to a request
that waits. -/
theorem waiting_after_end (h : Reached actions x) (hclosed : x.connection.isOpen = false) :
    ∃ before ending after, actions = before ++ ending :: after ∧ ending.Ends ∧
      (∀ id, (∃ action ∈ before, action.registered? = some id) →
        (id ∈ x.connection.waiting ↔ ending = .breakDown ∧ Waits id before) ∧
        (id ∉ x.connection.waiting → ∃ outcome, x.connection.outcome? id = some outcome ∧
          (Waits id before → outcome = .error Connection.lost))) ∧
      (∀ id, id ∈ x.connection.waiting ↔ (ending = .breakDown ∧ Waits id before) ∨
        ∃ action ∈ after, action.registered? = some id) ∧
      ∀ id ∈ x.connection.waiting, ∀ later y, Reached (actions ++ later) y →
        ∀ place method outcome z, ¬ Step y (.call place ⟨.await id method, outcome⟩) z := by
  obtain ⟨ending, hmem, hends⟩ : ∃ ending ∈ actions, ending.Ends := by
    by_contra hno
    have hopen := h.isOpen_iff.mpr fun action hmem hends => hno ⟨action, hmem, hends⟩
    rw [hclosed] at hopen
    cases hopen
  obtain ⟨before, after, rfl⟩ := List.append_of_mem hmem
  refine ⟨before, ending, after, rfl, hends, ?_, h.mem_waiting_after_end hends, ?_⟩
  · intro id hbefore
    have hiff : id ∈ x.connection.waiting ↔ ending = .breakDown ∧ Waits id before := by
      rw [h.mem_waiting_after_end hends, or_iff_left]
      rintro ⟨action, haction, hid⟩
      exact h.not_registered_before ⟨action, by simp [haction], hid⟩ hbefore
    refine ⟨hiff, fun hwaiting => ?_⟩
    obtain ⟨action, haction, hid⟩ := hbefore
    obtain ⟨outcome, ho⟩ := h.exists_outcome? ⟨action, by simp [haction], hid⟩ hwaiting
    refine ⟨outcome, ho, fun hwaits => ?_⟩
    cases hends with
    | close =>
      have hlost := h.outcome?_eq_some.mpr ⟨before, .close, after, rfl, hwaits, .close⟩
      exact Option.some.inj (ho.symm.trans hlost)
    | breakDown => exact absurd (hiff.mpr ⟨rfl, hwaits⟩) hwaiting
  · intro id hid later y hy place method outcome z hs
    rw [List.append_assoc, List.cons_append] at hy
    have hstill : id ∈ y.connection.waiting := by
      rw [hy.mem_waiting_after_end hends]
      refine ((h.mem_waiting_after_end hends id).mp hid).imp_right ?_
      rintro ⟨action, haction, hregistered⟩
      exact ⟨action, List.mem_append_left _ haction, hregistered⟩
    have hnone := hy.outcome?_eq_none hstill
    cases hs with
    | call hr =>
      cases hr with
      | await _ ho =>
        rw [hnone] at ho
        cases ho

/-! ## Requests that wait for good -/

/-- One request waits when the connection ends, and another one is registered and written after
that. -/
def sentAfterClose : List Action :=
  [.enter "java/move" .null, .call 0 ⟨.allocate, (1 : Nat)⟩, .call 0 ⟨.register 1, ()⟩, .close,
    .enter "shutdown" .null, .call 1 ⟨.allocate, (2 : Nat)⟩, .call 1 ⟨.register 2, ()⟩,
    .call 1 ⟨.write (requestContent 2 "shutdown" .null), Except.ok ()⟩]

theorem reached_sentAfterClose : ∃ x, Reached sentAfterClose x ∧ x.connection.isOpen = false ∧
    x.connection.waiting = [2] ∧ Session.afterWriting 2 "shutdown" ∈ x.callers := by
  have entered := Reached.start.step (.enter _ "java/move" .null)
  simp only [Session.run_send] at entered
  have registered := (entered.step (@Step.call _ _ [] [] .allocate _ _ .allocate)).step
    (@Step.call _ _ [] [] (.register 1) _ () (.register 1))
  have late := (registered.step (.close _ rfl)).step (.enter _ "shutdown" .null)
  simp only [Session.run_send] at late
  have written := ((late.step (@Step.call _ _ [_] [] .allocate _ _ .allocate)).step
    (@Step.call _ _ [_] [] (.register 2) _ () (.register 2))).step
    (@Step.call _ _ [_] [] (.write (requestContent 2 "shutdown" .null)) _ (.ok ()) (.write _ _))
  exact ⟨_, written, rfl, rfl, List.mem_cons_of_mem _ (List.mem_cons_self ..)⟩

/-- One request waits when the reader of the messages breaks down. -/
def brokenDown : List Action :=
  [.enter "java/move" .null, .call 0 ⟨.allocate, (1 : Nat)⟩, .call 0 ⟨.register 1, ()⟩, .breakDown]

theorem reached_brokenDown : ∃ x, Reached brokenDown x ∧ x.connection.isOpen = false ∧
    x.connection.waiting = [1] := by
  have entered := Reached.start.step (.enter _ "java/move" .null)
  simp only [Session.run_send] at entered
  have registered := (entered.step (@Step.call _ _ [] [] .allocate _ _ .allocate)).step
    (@Step.call _ _ [] [] (.register 1) _ () (.register 1))
  exact ⟨_, registered.step (.breakDown _ rfl), rfl, rfl⟩

theorem waiting_after_end_sentAfterClose :
    (∃ x, Reached sentAfterClose x ∧ x.connection.isOpen = false ∧ 2 ∈ x.connection.waiting ∧
      ∀ later y, Reached (sentAfterClose ++ later) y →
        ∀ place method outcome z, ¬ Step y (.call place ⟨.await 2 method, outcome⟩) z) ∧
    ∃ x, Reached brokenDown x ∧ x.connection.isOpen = false ∧ 1 ∈ x.connection.waiting ∧
      ∀ later y, Reached (brokenDown ++ later) y →
        ∀ place method outcome z, ¬ Step y (.call place ⟨.await 1 method, outcome⟩) z := by
  constructor
  · obtain ⟨x, hx, hclosed, hwaiting, -⟩ := reached_sentAfterClose
    obtain ⟨-, -, -, -, -, -, -, hnever⟩ := waiting_after_end hx hclosed
    have hmem : 2 ∈ x.connection.waiting := by simp [hwaiting]
    exact ⟨x, hx, hclosed, hmem, hnever 2 hmem⟩
  · obtain ⟨x, hx, hclosed, hwaiting⟩ := reached_brokenDown
    obtain ⟨-, -, -, -, -, -, -, hnever⟩ := waiting_after_end hx hclosed
    have hmem : 1 ∈ x.connection.waiting := by simp [hwaiting]
    exact ⟨x, hx, hclosed, hmem, hnever 1 hmem⟩

/-- Not in every exchange whose connection has ended nothing waits. -/
theorem not_forall_waiting_eq_nil : ¬ ∀ actions x, Reached actions x →
    x.connection.isOpen = false → x.connection.waiting = [] := by
  intro h
  obtain ⟨x, hx, hclosed, hwaiting, -⟩ := reached_sentAfterClose
  rw [h _ x hx hclosed] at hwaiting
  cases hwaiting

end Exchange
end Refactoring
