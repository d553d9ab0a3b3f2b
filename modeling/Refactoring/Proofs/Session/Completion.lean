import Mathlib.Data.List.Permutation
import Refactoring.Proofs.Session.Numbers

/-!
# Every request is completed by its own response

A request that waits is completed by the first message that responds to it, or by the end of the
connection, and by nothing else.  The history of an exchange therefore determines what waits and
what is completed; that nothing is completed twice follows from the numbers, each of which belongs
to a caller who has not registered it yet, to a request that waits, or to one that is completed.
-/

namespace Refactoring

namespace Exchange

/-! ## What a step does to a request

A request that waits is settled by its response, or by the end of the connection.  When the reader
of the messages breaks down, nothing is settled. -/

/-- An action settles the request of a number with an outcome. -/
inductive Settles (id : Nat) : Action → Except Failure Json → Prop where
  | response {content : String} {outcome : Except Failure Json}
      (h : Message.Responds content id outcome) : Settles id (.receive content) outcome
  | close : Settles id .close (.error Connection.lost)

theorem not_settles_enter {id : Nat} {method : String} {params : Json}
    {outcome : Except Failure Json} : ¬ Settles id (.enter method params) outcome := nofun

theorem not_settles_call {id place : Nat} {event : SystemEvent} {outcome : Except Failure Json} :
    ¬ Settles id (.call place event) outcome := nofun

theorem not_settles_breakDown {id : Nat} {outcome : Except Failure Json} :
    ¬ Settles id .breakDown outcome := nofun

/-- A step lets a request wait by registering it or by not settling it. -/
theorem Step.mem_waiting {x y : Exchange} {action : Action} (h : Step x action y) (id : Nat) :
    id ∈ y.connection.waiting ↔ action.registered? = some id ∨
      id ∈ x.connection.waiting ∧ ∀ outcome, ¬ Settles id action outcome := by
  cases h with
  | enter => simp [Action.registered?, not_settles_enter]
  | call hr => simp [hr.mem_waiting, Action.registered?, not_settles_call]
  | receive _ content =>
    simp only [Action.registered?, reduceCtorEq, false_or]
    by_cases hc : ∃ k outcome, Message.Responds content k outcome
    · obtain ⟨k, outcome, hk⟩ := hc
      rw [Connection.receive_of_responds _ hk, Connection.mem_waiting_complete]
      refine and_congr_right fun _ => ⟨?_, ?_⟩
      · rintro hne o ⟨ho⟩
        exact hne (ho.unique hk).1
      · rintro hno rfl
        exact hno outcome (.response hk)
    · simp only [not_exists] at hc
      rw [Connection.receive_of_not_responds _ hc]
      refine ⟨fun hi => ⟨hi, ?_⟩, And.left⟩
      rintro o ⟨ho⟩
      exact hc id o ho
  | close => simpa [Connection.close, Action.registered?] using fun _ => ⟨_, .close⟩
  | breakDown => simp [Connection.breakDown, Action.registered?, not_settles_breakDown]

/-- A step completes the requests that wait and that it settles. -/
theorem Step.mem_completed {x y : Exchange} {action : Action} (h : Step x action y) (id : Nat)
    (outcome : Except Failure Json) :
    (id, outcome) ∈ y.connection.completed ↔ (id, outcome) ∈ x.connection.completed ∨
      id ∈ x.connection.waiting ∧ Settles id action outcome := by
  cases h with
  | enter => simp [not_settles_enter]
  | call hr => simp [hr.completed_eq, not_settles_call]
  | receive _ content =>
    by_cases hc : ∃ k outcome, Message.Responds content k outcome
    · obtain ⟨k, o, hk⟩ := hc
      rw [Connection.receive_of_responds _ hk, Connection.mem_completed_complete]
      refine or_congr_right (and_congr_right fun _ => ⟨?_, ?_⟩)
      · rintro ⟨rfl, rfl⟩
        exact .response hk
      · rintro ⟨ho⟩
        exact ho.unique hk
    · simp only [not_exists] at hc
      rw [Connection.receive_of_not_responds _ hc]
      refine ⟨.inl, ?_⟩
      rintro (hi | ⟨_, ⟨ho⟩⟩)
      · exact hi
      · exact absurd ho (hc id outcome)
  | close =>
    simp only [Connection.close, List.mem_append, List.mem_map, Prod.mk.injEq]
    constructor
    · rintro (⟨k, hk, rfl, rfl⟩ | hi)
      · exact .inr ⟨hk, .close⟩
      · exact .inl hi
    · rintro (hi | ⟨hi, ⟨⟩⟩)
      · exact .inr hi
      · exact .inl ⟨id, hi, rfl, rfl⟩
  | breakDown => simp [Connection.breakDown, not_settles_breakDown]

/-! ## What the history says -/

/-- After these actions the request of a number waits: it has been registered, and nothing has
settled it since. -/
def Waits (id : Nat) (actions : List Action) : Prop :=
  ∃ before action after, actions = before ++ action :: after ∧ action.registered? = some id ∧
    ∀ a ∈ after, ∀ outcome, ¬ Settles id a outcome

/-- Among these actions is one that settles the request of a number while it waits, which is the
first one after its registration that can. -/
def Completes (id : Nat) (outcome : Except Failure Json) (actions : List Action) : Prop :=
  ∃ before action after, actions = before ++ action :: after ∧ Waits id before ∧
    Settles id action outcome

theorem waits_snoc {id : Nat} {actions : List Action} {action : Action} :
    Waits id (actions ++ [action]) ↔ action.registered? = some id ∨
      Waits id actions ∧ ∀ outcome, ¬ Settles id action outcome := by
  constructor
  · rintro ⟨before, a, after, heq, ha, hno⟩
    rcases List.eq_nil_or_concat after with rfl | ⟨after, b, rfl⟩
    · obtain ⟨rfl, rfl⟩ : actions = before ∧ action = a := by simpa using List.append_inj' heq rfl
      exact .inl ha
    · rw [List.concat_eq_append, ← List.cons_append, ← List.append_assoc] at heq
      obtain ⟨rfl, rfl⟩ : actions = before ++ a :: after ∧ action = b := by
        simpa using List.append_inj' heq rfl
      refine .inr ⟨⟨before, a, after, rfl, ha, fun c hc => hno c ?_⟩, hno action ?_⟩ <;> simp [*]
  · rintro (ha | ⟨⟨before, a, after, rfl, ha, hno⟩, hs⟩)
    · exact ⟨actions, action, [], rfl, ha, by simp⟩
    · refine ⟨before, a, after ++ [action], by simp, ha, ?_⟩
      intro b hb
      rcases List.mem_append.mp hb with hb | hb
      · exact hno b hb
      · obtain rfl : b = action := by simpa using hb
        exact hs

theorem completes_snoc {id : Nat} {outcome : Except Failure Json} {actions : List Action}
    {action : Action} : Completes id outcome (actions ++ [action]) ↔
      Completes id outcome actions ∨ Waits id actions ∧ Settles id action outcome := by
  constructor
  · rintro ⟨before, a, after, heq, hw, hs⟩
    rcases List.eq_nil_or_concat after with rfl | ⟨after, b, rfl⟩
    · obtain ⟨rfl, rfl⟩ : actions = before ∧ action = a := by simpa using List.append_inj' heq rfl
      exact .inr ⟨hw, hs⟩
    · rw [List.concat_eq_append, ← List.cons_append, ← List.append_assoc] at heq
      obtain ⟨rfl, rfl⟩ : actions = before ++ a :: after ∧ action = b := by
        simpa using List.append_inj' heq rfl
      exact .inl ⟨before, a, after, rfl, hw, hs⟩
  · rintro (⟨before, a, after, rfl, hw, hs⟩ | ⟨hw, hs⟩)
    · exact ⟨before, a, after ++ [action], by simp, hw, hs⟩
    · exact ⟨actions, action, [], rfl, hw, hs⟩

/-- A request waits if the history says so. -/
theorem Reached.mem_waiting {actions : List Action} {x : Exchange} (h : Reached actions x)
    (id : Nat) : id ∈ x.connection.waiting ↔ Waits id actions := by
  induction h with
  | start => simp [Exchange.start, Connection.start, Waits]
  | step _ hs ih => rw [hs.mem_waiting, waits_snoc, ih]

/-- A request is completed as the history says. -/
theorem Reached.mem_completed {actions : List Action} {x : Exchange} (h : Reached actions x)
    (id : Nat) (outcome : Except Failure Json) :
    (id, outcome) ∈ x.connection.completed ↔ Completes id outcome actions := by
  induction h with
  | start => simp [Exchange.start, Connection.start, Completes]
  | step h hs ih => rw [hs.mem_completed, completes_snoc, ih, h.mem_waiting]

/-- A request that is about to be written has been registered, so that no response to it can come
too early. -/
theorem Reached.registered_of_write {actions : List Action} {x : Exchange} (h : Reached actions x)
    {content : Json} {next : Except Failure Unit → Work (Except Failure Json)}
    (hw : .ask (.write content) next ∈ x.callers) :
    ∃ id method params, content = requestContent id method params ∧
      ∃ action ∈ actions, action.registered? = some id := by
  induction h with
  | start => simp [Exchange.start] at hw
  | @step actions action x y h hs ih =>
    -- A caller that was already about to write stays one.
    have old (hx : .ask (.write content) next ∈ x.callers) :
        ∃ id method params, content = requestContent id method params ∧
          ∃ a ∈ actions ++ [action], a.registered? = some id := by
      obtain ⟨id, method, params, hc, a, ha, hid⟩ := ih hx
      exact ⟨id, method, params, hc, a, by simp [ha], hid⟩
    cases hs with
    | enter _ method params =>
      rcases List.mem_append.mp hw with hw | hw
      · exact old hw
      · rw [List.mem_singleton, Session.run_send] at hw
        cases hw
    | receive | close | breakDown => exact old hw
    | @call c d before after question q reply hr =>
      have hu : Session.Underway (.ask question q) := h.numbered.underway _ (by simp)
      rcases List.mem_append.mp hw with hb | ha
      · exact old (by simp [hb])
      · rcases List.mem_cons.mp ha with hq | ha
        · cases hr with
          | register id =>
            obtain ⟨method, params, rfl⟩ := hu.register_inv
            cases hq
            exact ⟨id, method, params, rfl, _, List.mem_append_right _ (List.mem_singleton_self _),
              rfl⟩
          | allocate =>
            obtain ⟨method, params, rfl⟩ := hu.allocate_inv
            cases hq
          | write _ written =>
            obtain ⟨id, method, params, -, hok, herror⟩ := hu.write_inv
            cases written with
            | ok => rw [hok] at hq; cases hq
            | error => rw [herror] at hq; cases hq
          | await =>
            rw [hu.await_inv] at hq
            cases hq
        · exact old (by simp [ha])

/-- **Correlation of requests and responses.**  Whatever the order of steps, no number is given out
twice; what is written has been registered; no request is completed twice; a request is completed
with an outcome exactly if the first action after its registration that can settle it does so with
this outcome, and it waits as long as there is none; a caller gets the outcome of its request; a
message that responds to no request that waits changes nothing; and when the connection is closed,
every request that waits is completed with an error. -/
theorem requests_settled_once {actions : List Action} {x : Exchange} (h : Reached actions x) :
    (handedOut actions).Nodup ∧
    (∀ place content reply y, Step x (.call place ⟨.write content, reply⟩) y →
      ∃ id method params, content = requestContent id method params ∧
        ∃ action ∈ actions, action.registered? = some id) ∧
    (x.connection.waiting ++ x.connection.completed.map Prod.fst).Nodup ∧
    (∀ id outcome, (id, outcome) ∈ x.connection.completed ↔ Completes id outcome actions) ∧
    (∀ id, id ∈ x.connection.waiting ↔ Waits id actions) ∧
    (∀ place id method outcome y, Step x (.call place ⟨.await id method, outcome⟩) y →
      Completes id outcome actions) ∧
    (∀ content y, Step x (.receive content) y →
      (∀ id ∈ x.connection.waiting, ∀ outcome, ¬ Message.Responds content id outcome) → y = x) ∧
    ∀ y, Step x .close y → y.connection.waiting = [] ∧ y.connection.completed =
      x.connection.waiting.map (·, .error Connection.lost) ++ x.connection.completed := by
  refine ⟨h.numbered.nodup_handedOut, ?_, h.numbered.nodup_taken, h.mem_completed, h.mem_waiting,
    ?_, ?_, ?_⟩
  · intro place content reply y hs
    cases hs
    exact h.registered_of_write (List.mem_append_right _ (List.mem_cons_self ..))
  · intro place id method outcome y hs
    cases hs with
    | call hr =>
      cases hr with
      | await _ ho =>
        obtain ⟨newer, older, hc, -⟩ := List.lookup_eq_some_iff.mp ho
        exact (h.mem_completed id outcome).mp (by simp [hc])
  · intro content y hs hno
    cases hs with
    | receive _ _ hopen =>
      rw [Connection.receive_of_no_waiting hno]
  · intro y hs
    cases hs
    exact ⟨rfl, rfl⟩

/-- Two requests whose callers take turns: the caller who came first gets the second number, the
server asks something under the number of the other request before it responds to that one, and then
the connection ends. -/
def takingTurns : List Action :=
  [.enter "java/move" .null, .enter "java/searchSymbols" .null,
    .call 1 ⟨.allocate, (1 : Nat)⟩, .call 0 ⟨.allocate, (2 : Nat)⟩,
    .call 0 ⟨.register 2, ()⟩, .call 1 ⟨.register 1, ()⟩,
    .call 1 ⟨.write (requestContent 1 "java/searchSymbols" .null), Except.ok ()⟩,
    .receive (requestContent 1 "window/showDocument" .null).compact,
    .receive (resultContent (.ofNat 1) (.array [])).compact, .close]

theorem reached_takingTurns : ∃ x, Reached takingTurns x ∧
    x.connection.completed = [(2, .error Connection.lost), (1, .ok (.array []))] := by
  have entered := (Reached.start.step (.enter _ "java/move" .null)).step
    (.enter _ "java/searchSymbols" .null)
  simp only [Session.run_send] at entered
  have numbered := (entered.step (@Step.call _ _ [_] [] .allocate _ _ .allocate)).step
    (@Step.call _ _ [] [_] .allocate _ _ .allocate)
  have registered := (numbered.step (@Step.call _ _ [] [_] (.register 2) _ () (.register 2))).step
    (@Step.call _ _ [_] [] (.register 1) _ () (.register 1))
  have written := registered.step
    (@Step.call _ _ [_] [] (.write (requestContent 1 "java/searchSymbols" .null)) _ (.ok ())
      (.write _ _))
  -- The request of the server under the same number passes; the response does not.
  have passed := Connection.receive_of_method ⟨3, [1, 2], [], true⟩
    (m := ⟨some (.ofNat 1), "window/showDocument", some .null, none, none⟩)
    (show Message.parse (requestContent 1 "window/showDocument" .null).compact = _ by cbv)
    (by decide)
  have response : Message.Responds (resultContent (.ofNat 1) (.array [])).compact 1
      (.ok (.array [])) :=
    @Message.Responds.result _ _ ⟨some (.ofNat 1), "", none, some (.array []), none⟩ (by cbv)
      rfl rfl rfl
  have answered := Connection.receive_of_responds ⟨3, [1, 2], [], true⟩ response
  have settled := (written.step (.receive_eq rfl passed)).step (.receive_eq rfl answered)
  exact ⟨_, settled.step (.close _ rfl), rfl⟩

theorem requests_settled_once_takingTurns : ∃ x, Reached takingTurns x ∧
    (handedOut takingTurns).Nodup ∧ Completes 1 (.ok (.array [])) takingTurns ∧
    Completes 2 (.error Connection.lost) takingTurns := by
  obtain ⟨x, hx, hc⟩ := reached_takingTurns
  obtain ⟨hnodup, -, -, hcompleted, -⟩ := requests_settled_once hx
  exact ⟨x, hx, hnodup, (hcompleted _ _).mp (by simp [hc]), (hcompleted _ _).mp (by simp [hc])⟩

end Exchange
end Refactoring
