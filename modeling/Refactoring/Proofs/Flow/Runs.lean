import Refactoring.Flow.Client

/-!
# Runs of programs and flows

A run of one program after the other is a run of the first followed by a run of the second, and a
run of a flow ends early if its first part ends in a problem.  For each way in which flows are put
together it is told what their runs are.
-/

namespace Refactoring

/-! ## Programs -/

namespace Program

variable {Q : Type} {R : Q → Type} {α β : Type} {events : List (Event Q R)}

theorem runs_done {value result : α} :
    Runs (done value : Program Q R α) events result ↔ events = [] ∧ result = value := by
  constructor
  · intro h
    cases h
    exact ⟨rfl, rfl⟩
  · rintro ⟨rfl, rfl⟩
    exact .done result

theorem runs_ask {question : Q} {next : R question → Program Q R α} {result : α} :
    Runs (ask question next) events result ↔
      ∃ reply rest, events = ⟨question, reply⟩ :: rest ∧ Runs (next reply) rest result := by
  constructor
  · intro h
    cases h with
    | ask rest => exact ⟨_, _, rfl, rest⟩
  · rintro ⟨reply, rest, rfl, h⟩
    exact .ask h

theorem runs_request {question : Q} {reply : R question} :
    Runs (request question) events reply ↔ events = [⟨question, reply⟩] := by
  rw [request, runs_ask]
  constructor
  · rintro ⟨reply', rest, rfl, h⟩
    obtain ⟨rfl, rfl⟩ := runs_done.mp h
    rfl
  · rintro rfl
    exact ⟨reply, [], rfl, .done reply⟩

/-- A run of one program after the other is a run of the first and then one of the second. -/
theorem runs_bind {p : Program Q R α} {k : α → Program Q R β} {result : β} :
    Runs (p.bind k) events result ↔ ∃ before after value, events = before ++ after ∧
      Runs p before value ∧ Runs (k value) after result := by
  induction p generalizing events with
  | done value =>
    constructor
    · intro h
      exact ⟨[], events, value, rfl, .done value, h⟩
    · rintro ⟨before, after, value', rfl, hfirst, h⟩
      obtain ⟨rfl, rfl⟩ := runs_done.mp hfirst
      exact h
  | ask question next ih =>
    rw [ask_bind, runs_ask]
    constructor
    · rintro ⟨reply, rest, rfl, h⟩
      obtain ⟨before, after, value, rfl, hfirst, hrest⟩ := (ih reply).mp h
      exact ⟨⟨question, reply⟩ :: before, after, value, rfl, .ask hfirst, hrest⟩
    · rintro ⟨before, after, value, rfl, hfirst, h⟩
      obtain ⟨reply, rest, rfl, hrest⟩ := runs_ask.mp hfirst
      exact ⟨reply, rest ++ after, rfl, (ih reply).mpr ⟨rest, after, value, rfl, hrest, h⟩⟩

/-- Every program has a run if every question can be replied to. -/
theorem exists_runs (hreplies : ∀ question, Nonempty (R question)) (p : Program Q R α) :
    ∃ events result, Runs p events result := by
  induction p with
  | done value => exact ⟨[], value, .done value⟩
  | ask question next ih =>
    obtain ⟨reply⟩ := hreplies question
    obtain ⟨events, result, h⟩ := ih reply
    exact ⟨⟨question, reply⟩ :: events, result, .ask h⟩

end Program

/-! ## Flows -/

/-- A call with its reply. -/
abbrev CallEvent : Type := Program.Event Call Call.Reply

/-- Every call can be replied to. -/
theorem Call.nonempty_reply (call : Call) : Nonempty call.Reply := by
  cases call with
  | showError | showWarning => exact ⟨()⟩
  | formattingOptions | relativePath => exact ⟨none⟩
  | fileExists => exact ⟨false⟩
  | hosted => exact ⟨.ok .nothingToDo⟩
  | _ => exact ⟨.error (.of "failed")⟩

namespace Flow

variable {α β : Type} {events : List CallEvent}

/-- These calls, replied to in this way, lead a flow to this end. -/
def Runs (flow : Flow α) (events : List CallEvent) (result : Except Problem α) : Prop :=
  Program.Runs flow.run events result

theorem runs_pure {value : α} {result : Except Problem α} :
    Runs (pure value) events result ↔ events = [] ∧ result = .ok value :=
  Program.runs_done

theorem runs_throw {problem : Problem} {result : Except Problem α} :
    Runs (throw problem) events result ↔ events = [] ∧ result = .error problem :=
  Program.runs_done

/-- A value that is there already, or the problem that there is none. -/
theorem runs_mk_pure {value result : Except Problem α} :
    Runs (ExceptT.mk (pure value)) events result ↔ events = [] ∧ result = value :=
  Program.runs_done

/-- A flow after another either is not begun, or it goes on behind the first. -/
theorem runs_bind {flow : Flow α} {next : α → Flow β} {result : Except Problem β} :
    Runs (flow >>= next) events result ↔
      (∃ problem, Runs flow events (.error problem) ∧ result = .error problem) ∨
      ∃ before after value, events = before ++ after ∧
        Runs flow before (.ok value) ∧ Runs (next value) after result := by
  have hbind : (flow >>= next).run = flow.run.bind (ExceptT.bindCont next) := rfl
  rw [Runs, hbind, Program.runs_bind]
  constructor
  · rintro ⟨before, after, first, rfl, hfirst, hrest⟩
    cases first with
    | error problem =>
      obtain ⟨rfl, rfl⟩ := Program.runs_done.mp hrest
      exact .inl ⟨problem, by rwa [List.append_nil], rfl⟩
    | ok value => exact .inr ⟨before, after, value, rfl, hfirst, hrest⟩
  · rintro (⟨problem, hfirst, rfl⟩ | ⟨before, after, value, rfl, hfirst, hrest⟩)
    · exact ⟨events, [], .error problem, by simp, hfirst, .done _⟩
    · exact ⟨before, after, .ok value, rfl, hfirst, hrest⟩

/-- A flow after another has a value if both of them have one. -/
theorem runs_bind_ok {flow : Flow α} {next : α → Flow β} {value : β} :
    Runs (flow >>= next) events (.ok value) ↔ ∃ before after first, events = before ++ after ∧
      Runs flow before (.ok first) ∧ Runs (next first) after (.ok value) := by
  rw [runs_bind]
  constructor
  · rintro (⟨problem, -, hvalue⟩ | h)
    · cases hvalue
    · exact h
  · exact .inr

/-- A dialogue as a part of a flow. -/
theorem runs_lift {dialogue : Dialogue α} {result : Except Problem α} :
    Runs (liftM dialogue) events result ↔
      ∃ value, Program.Runs dialogue events value ∧ result = .ok value := by
  have hlift : (liftM dialogue : Flow α).run = dialogue.bind fun value => .done (.ok value) := rfl
  rw [Runs, hlift, Program.runs_bind]
  constructor
  · rintro ⟨before, after, value, rfl, h, hrest⟩
    obtain ⟨rfl, rfl⟩ := Program.runs_done.mp hrest
    exact ⟨value, by rwa [List.append_nil], rfl⟩
  · rintro ⟨value, h, rfl⟩
    exact ⟨events, [], value, by simp, h, .done _⟩

/-- A dialogue never ends a flow. -/
theorem runs_lift_bind {dialogue : Dialogue α} {next : α → Flow β} {result : Except Problem β} :
    Runs (liftM dialogue >>= next) events result ↔ ∃ before after value,
      events = before ++ after ∧ Program.Runs dialogue before value ∧
        Runs (next value) after result := by
  rw [runs_bind]
  constructor
  · rintro (⟨problem, h, -⟩ | ⟨before, after, value, rfl, h, hrest⟩)
    · obtain ⟨value, -, hvalue⟩ := runs_lift.mp h
      cases hvalue
    · obtain ⟨_, hfirst, hvalue⟩ := runs_lift.mp h
      cases hvalue
      exact ⟨before, after, value, rfl, hfirst, hrest⟩
  · rintro ⟨before, after, value, rfl, h, hrest⟩
    exact .inr ⟨before, after, value, rfl, runs_lift.mpr ⟨value, h, rfl⟩, hrest⟩

/-- A request with its failures turned into problems. -/
theorem runs_orElse {problem : Failure → Problem} {dialogue : Dialogue (Except Failure α)}
    {result : Except Problem α} : Runs (orElse problem dialogue) events result ↔
      ∃ reply, Program.Runs dialogue events reply ∧ result = reply.mapError problem := by
  have horElse : (orElse problem dialogue).run =
      dialogue.bind fun reply => .done (reply.mapError problem) := rfl
  rw [Runs, horElse, Program.runs_bind]
  constructor
  · rintro ⟨before, after, reply, rfl, h, hrest⟩
    obtain ⟨rfl, rfl⟩ := Program.runs_done.mp hrest
    exact ⟨reply, by rwa [List.append_nil], rfl⟩
  · rintro ⟨reply, h, rfl⟩
    exact ⟨events, [], reply, by simp, h, .done _⟩

/-- A reported problem is shown, and then it is the end. -/
theorem runs_report {problem : Problem} {result : Except Problem α} :
    Runs (report problem) events result ↔
      events = [⟨.showError problem.message, ()⟩] ∧ result = .error problem := by
  unfold report
  rw [runs_lift_bind]
  constructor
  · rintro ⟨before, after, reply, rfl, h, hrest⟩
    obtain rfl := Program.runs_request.mp h
    obtain ⟨rfl, rfl⟩ := runs_throw.mp hrest
    exact ⟨rfl, rfl⟩
  · rintro ⟨rfl, rfl⟩
    exact ⟨[⟨.showError problem.message, ()⟩], [], (), rfl, Program.runs_request.mpr rfl,
      runs_throw.mpr ⟨rfl, rfl⟩⟩

end Flow

/-! ## Choices -/

/-- A reply that chooses no row of a picker: the user has dismissed it, or the row is not there. -/
inductive Dismisses (items : List PickItem) : Except Failure (Option Nat) → Prop
  | none : Dismisses items (.ok none)
  | absent {i : Nat} (hi : items.length ≤ i) : Dismisses items (.ok (some i))

namespace Flow

section Choices

variable {α β : Type} {events : List CallEvent} (values : List α) (row : α → PickItem)
  (placeholder : String)

/-- The row that is chosen stands for the value in its place. -/
theorem choose_eq :
    choose values row placeholder =
      editor (ask (.pick (values.map row) placeholder)) >>= fun choice =>
        pure (choice.bind fun i => values[i]?) := by
  unfold choose pick
  rw [bind_assoc]
  congr 1
  funext choice
  rw [pure_bind]
  congr 1
  cases choice with
  | none => rfl
  | some i => by_cases h : i < values.length <;> simp [h]

/-- A flow with a choice goes on with what was chosen, unless the picker fails. -/
theorem runs_choose_bind {next : Option α → Flow β} {result : Except Problem β} :
    Runs (choose values row placeholder >>= next) events result ↔
      ∃ reply rest, events = ⟨.pick (values.map row) placeholder, reply⟩ :: rest ∧
        match reply with
        | .ok choice => Runs (next (choice.bind fun i => values[i]?)) rest result
        | .error failure => rest = [] ∧ result = .error (.editor failure) := by
  rw [choose_eq]
  constructor
  · intro h
    obtain ⟨reply, rest, rfl, hreply⟩ := Program.runs_ask.mp h
    refine ⟨reply, rest, rfl, ?_⟩
    cases reply with
    | ok choice => exact hreply
    | error failure => exact Program.runs_done.mp hreply
  · rintro ⟨reply, rest, rfl, h⟩
    cases reply with
    | ok choice => exact .ask h
    | error failure =>
      obtain ⟨rfl, rfl⟩ := h
      exact .ask (.done _)

/-- The picker fails, or no row is chosen, or the row of a value is. -/
theorem runs_choose_cases {next : Option α → Flow β} {result : Except Problem β}
    (h : Runs (choose values row placeholder >>= next) events result) :
    ∃ reply rest, events = ⟨.pick (values.map row) placeholder, reply⟩ :: rest ∧
      ((∃ failure, reply = .error failure ∧ rest = [] ∧ result = .error (.editor failure)) ∨
        (Dismisses (values.map row) reply ∧ Runs (next none) rest result) ∨
        ∃ i value, reply = .ok (some i) ∧ values[i]? = some value ∧
          Runs (next (some value)) rest result) := by
  obtain ⟨reply, rest, rfl, hreply⟩ := (runs_choose_bind values row placeholder).mp h
  refine ⟨reply, rest, rfl, ?_⟩
  rcases reply with failure | _ | i
  · exact .inl ⟨failure, rfl, hreply⟩
  · exact .inr (.inl ⟨.none, hreply⟩)
  · simp only [Option.bind_some] at hreply
    cases hvalue : values[i]? with
    | none =>
      rw [hvalue] at hreply
      exact .inr (.inl ⟨.absent (by simpa using hvalue), hreply⟩)
    | some value =>
      rw [hvalue] at hreply
      exact .inr (.inr ⟨i, value, rfl, hvalue, hreply⟩)

end Choices
end Flow

/-! ## Services -/

/-- What can be carried out without the commands of the host: a command that the host has not
registered itself, or one of the flows behind the commands. -/
inductive Service where
  | command (client : Client) (name : String) (arguments : List Json)
      (own : name ∉ client.hosted)
  | refactoring (name : String) (params : Json) (info : CommandInfo)
  | moveFiles (uris : List Uri)
  | moveInstanceMethod (selection : Selection) (info : CommandInfo)
  | moveStaticMember (selection : Selection) (info : CommandInfo)
  | moveType (selection : Selection) (info : CommandInfo)
  | moveTypeToPackage (selection : Selection) (info : CommandInfo)
  | moveTypeToClass (selection : Selection) (info : CommandInfo)
  | rename (position : RenamePosition)
  | carryOut (saving : Bool) (result : Option RefactoringResult)

/-- The flow of a service.  A rename has no end of its own and counts as applied. -/
def Service.flow : Service → Flow Outcome
  | .command client name arguments _ => client.execute name arguments
  | .refactoring name params info => applyRefactoring name params info
  | .moveFiles uris => Refactoring.moveFiles uris
  | .moveInstanceMethod selection info => Refactoring.moveInstanceMethod selection info
  | .moveStaticMember selection info => Refactoring.moveStaticMember selection info
  | .moveType selection info => Refactoring.moveType selection info
  | .moveTypeToPackage selection info => Refactoring.moveTypeToPackage selection info
  | .moveTypeToClass selection info => Refactoring.moveTypeToClass selection info
  | .rename position => do
    triggerRename position
    return .applied
  | .carryOut saving result => Refactoring.carryOut saving result

end Refactoring
