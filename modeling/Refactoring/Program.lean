/-!
# Programs that ask

A program ends with a value or asks a question and goes on with the reply; the type of a reply
depends on its question.  Whoever answers is not part of the program: `run` takes the answers from
a state, `answerWith` lets another program find them, and `Runs` says which questions and replies
lead to which value.  Writing down the questions and replies of a run gives such a list.
-/

namespace Refactoring

/-- A program that asks questions from `Q`, to which the replies are in `R`, and ends in `α`. -/
inductive Program (Q : Type) (R : Q → Type) (α : Type) : Type where
  | done (value : α)
  | ask (question : Q) (next : R question → Program Q R α)

namespace Program

variable {Q Q' : Type} {R : Q → Type} {R' : Q' → Type} {α β σ : Type}

/-- One program after the other. -/
def bind : Program Q R α → (α → Program Q R β) → Program Q R β
  | done value, k => k value
  | ask question next, k => ask question fun reply => (next reply).bind k

instance : Monad (Program Q R) where
  pure := done
  bind := bind

/-- The program that asks one question. -/
def request (question : Q) : Program Q R (R question) := ask question done

/-- Runs a program with the answers of a state. -/
def run (answer : (question : Q) → σ → R question × σ) : Program Q R α → σ → α × σ
  | done value, s => (value, s)
  | ask question next, s =>
    let (reply, s) := answer question s
    (next reply).run answer s

/-- Carries out a program in a monad that answers its questions. -/
def interpret {m : Type → Type} [Monad m] (answer : (question : Q) → m (R question)) :
    Program Q R α → m α
  | done value => pure value
  | ask question next => do (next (← answer question)).interpret answer

/-- The same program, with every question answered by another program. -/
def answerWith (answer : (question : Q) → Program Q' R' (R question)) :
    Program Q R α → Program Q' R' α
  | done value => done value
  | ask question next => (answer question).bind fun reply => (next reply).answerWith answer

/-- A question with its reply. -/
abbrev Event (Q : Type) (R : Q → Type) : Type := (question : Q) × R question

/-- These questions, replied to in this way, lead to this value. -/
inductive Runs : Program Q R α → List (Event Q R) → α → Prop
  | done (value : α) : Runs (done value) [] value
  | ask {question : Q} {next : R question → Program Q R α} {reply : R question}
      {events : List (Event Q R)} {value : α} (rest : Runs (next reply) events value) :
      Runs (ask question next) (⟨question, reply⟩ :: events) value

/-- Answers questions and writes down what was asked and replied. -/
def recorded (answer : (question : Q) → σ → R question × σ) (question : Q)
    (s : σ × List (Event Q R)) : R question × σ × List (Event Q R) :=
  let (reply, t) := answer question s.1
  (reply, t, s.2 ++ [⟨question, reply⟩])

@[simp] theorem pure_eq (value : α) : (pure value : Program Q R α) = done value := rfl

@[simp] theorem bind_eq (p : Program Q R α) (k : α → Program Q R β) : p >>= k = p.bind k := rfl

@[simp] theorem done_bind (value : α) (k : α → Program Q R β) : (done value).bind k = k value := rfl

@[simp] theorem ask_bind (question : Q) (next : R question → Program Q R α)
    (k : α → Program Q R β) :
    (ask question next).bind k = ask question fun reply => (next reply).bind k := rfl

/-- Nothing is added at the end. -/
theorem bind_done (p : Program Q R α) : p.bind done = p := by
  induction p with
  | done value => rfl
  | ask question next ih => exact congrArg (ask question) (funext ih)

/-- How programs are grouped does not matter. -/
theorem bind_assoc {γ : Type} (p : Program Q R α) (k : α → Program Q R β)
    (l : β → Program Q R γ) : (p.bind k).bind l = p.bind fun value => (k value).bind l := by
  induction p with
  | done value => rfl
  | ask question next ih => exact congrArg (ask question) (funext ih)

instance : LawfulMonad (Program Q R) :=
  LawfulMonad.mk' (Program Q R) bind_done (fun _ _ => rfl) bind_assoc

/-- Running one program after the other. -/
theorem run_bind (answer : (question : Q) → σ → R question × σ) (p : Program Q R α)
    (k : α → Program Q R β) (s : σ) :
    (p.bind k).run answer s = (k (p.run answer s).1).run answer (p.run answer s).2 := by
  induction p generalizing s with
  | done value => rfl
  | ask question next ih => exact ih _ _

/-- What is written down are the events that lead to the result. -/
theorem runs_run_recorded (answer : (question : Q) → σ → R question × σ) (p : Program Q R α)
    (s : σ) (log : List (Event Q R)) :
    ∃ events, (p.run (recorded answer) (s, log)).2.2 = log ++ events ∧
      Runs p events (p.run (recorded answer) (s, log)).1 := by
  induction p generalizing s log with
  | done value => exact ⟨[], by simp [run], .done value⟩
  | ask question next ih =>
    obtain ⟨events, hlog, hruns⟩ :=
      ih (answer question s).1 (answer question s).2 (log ++ [⟨question, (answer question s).1⟩])
    refine ⟨⟨question, (answer question s).1⟩ :: events, ?_, .ask hruns⟩
    rw [run, recorded, hlog, List.append_assoc]
    rfl

end Program
end Refactoring
