import Refactoring.Proofs.Except
import Refactoring.Session.Connection

/-!
# Responses

A message with a number and no method is the response to the request of that number;
`Message.Responds` says so for texts as they come in.  `Connection.receive` completes the request
that a text responds to, if it waits, and leaves the connection alone otherwise.
-/

namespace Refactoring

/-- The error of a response in words. -/
def Message.errorText (error : Json) : String :=
  match RpcError.decode error with
  | .ok rpc => rpc.text
  | .error _ => error.compact

/-- A text is a response to the request of a number: a message with this number and without a
method, or with an empty one.  The outcome is its error if it has one, and else its result. -/
inductive Message.Responds (content : String) (id : Nat) : Except Failure Json → Prop where
  | result {m : Message} (hp : Message.parse content = .ok m) (hm : m.method = "")
      (hid : m.id = some (.ofNat id)) (he : m.error = none) :
      Responds content id (.ok (m.result.getD .null))
  | error {m : Message} {error : Json} (hp : Message.parse content = .ok m) (hm : m.method = "")
      (hid : m.id = some (.ofNat id)) (he : m.error = some error) :
      Responds content id (.error (.of ("LSP Error: " ++ Message.errorText error)))

namespace Message

theorem responds_iff {content : String} {id : Nat} {outcome : Except Failure Json} :
    Responds content id outcome ↔ ∃ m, Message.parse content = .ok m ∧ m.method = "" ∧
      m.id = some (.ofNat id) ∧ outcome = m.outcome.mapError .of := by
  constructor
  · rintro (@⟨m, hp, hm, hid, he⟩ | @⟨m, error, hp, hm, hid, he⟩)
    · exact ⟨m, hp, hm, hid, by simp [Message.outcome, rpcError?, he]⟩
    · refine ⟨m, hp, hm, hid, ?_⟩
      cases hd : RpcError.decode error <;>
        simp [Message.outcome, rpcError?, errorText, he, hd, Except.toOption]
  · rintro ⟨m, hp, hm, hid, rfl⟩
    cases he : m.error with
    | none =>
      have := Responds.result hp hm hid he
      simpa [Message.outcome, rpcError?, he] using this
    | some error =>
      have := Responds.error hp hm hid he
      cases hd : RpcError.decode error <;>
        simpa [Message.outcome, rpcError?, errorText, he, hd, Except.toOption]
          using this

/-- A text is a response to one request at most, with one outcome. -/
theorem Responds.unique {content : String} {id id' : Nat} {outcome outcome' : Except Failure Json}
    (h : Responds content id outcome) (h' : Responds content id' outcome') :
    id = id' ∧ outcome = outcome' := by
  obtain ⟨m, hp, _, hid, rfl⟩ := responds_iff.mp h
  obtain ⟨m', hp', _, hid', rfl⟩ := responds_iff.mp h'
  obtain rfl : m = m' := by simpa using hp.symm.trans hp'
  have hids : Json.ofNat id = Json.ofNat id' := by simpa using hid.symm.trans hid'
  simp only [Json.ofNat, Json.number.injEq, Json.Number.int.injEq] at hids
  exact ⟨by omega, rfl⟩

theorem answers?_eq_some {m : Message} {id : Nat} (hs : m.isServerRequest = false) :
    m.answers? = some id ↔ m.id = some (.ofNat id) := by
  unfold Message.answers?
  simp only [hs, Bool.false_eq_true, if_false]
  cases m.id with
  | none => simp
  | some value =>
    simp only [Option.bind_some, Option.some.injEq]
    unfold Json.natural? Json.ofNat
    split
    · rename_i n
      simp only [Json.number.injEq, Json.Number.int.injEq]
      split
      · simp only [Option.some.injEq]
        omega
      · simp only [reduceCtorEq, false_iff]
        omega
    · rename_i hne
      simp only [reduceCtorEq, false_iff]
      exact fun h => hne _ h

end Message

namespace Connection

/-- A message completes the request that it responds to and does nothing else. -/
theorem receive_of_responds (c : Connection) {content : String} {id : Nat}
    {outcome : Except Failure Json} (h : Message.Responds content id outcome) :
    (c.receive content).1 = c.complete id outcome := by
  obtain ⟨m, hp, hm, hid, rfl⟩ := Message.responds_iff.mp h
  have hs : m.isServerRequest = false := by simp [Message.isServerRequest, hm]
  have ha : m.answers? = some id := (Message.answers?_eq_some hs).mpr hid
  simp [receive, hp, hs, ha]

/-- A text that is no response leaves the connection as it is. -/
theorem receive_of_not_responds (c : Connection) {content : String}
    (h : ∀ id outcome, ¬ Message.Responds content id outcome) : (c.receive content).1 = c := by
  unfold receive
  split
  · rfl
  · rename_i m hp
    split
    · rfl
    · rename_i hs
      split
      · rfl
      · rename_i id ha
        simp only [Bool.not_eq_true] at hs
        have hid := (Message.answers?_eq_some hs).mp ha
        have hm : m.method = "" := by simpa [Message.isServerRequest, hid] using hs
        exact absurd (Message.responds_iff.mpr ⟨m, hp, hm, hid, rfl⟩) (h id _)

/-- A message with a method, be it a request of the server or not, leaves the connection as it
is. -/
theorem receive_of_method (c : Connection) {content : String} {m : Message}
    (hp : Message.parse content = .ok m) (hm : m.method ≠ "") : (c.receive content).1 = c := by
  refine receive_of_not_responds c fun id outcome h => ?_
  obtain ⟨m', hp', hm', -⟩ := Message.responds_iff.mp h
  obtain rfl : m = m' := by simpa using hp.symm.trans hp'
  exact hm hm'

/-- A text that responds to no request that waits leaves the connection as it is. -/
theorem receive_of_no_waiting {c : Connection} {content : String}
    (h : ∀ id ∈ c.waiting, ∀ outcome, ¬ Message.Responds content id outcome) :
    (c.receive content).1 = c := by
  by_cases hr : ∃ id outcome, Message.Responds content id outcome
  · obtain ⟨id, outcome, hr⟩ := hr
    have hid : id ∉ c.waiting := fun hid => h id hid outcome hr
    rw [receive_of_responds c hr, complete, if_neg (by simpa using hid)]
  · simp only [not_exists] at hr
    exact receive_of_not_responds c hr

theorem mem_waiting_complete {c : Connection} {id i : Nat} {outcome : Except Failure Json} :
    i ∈ (c.complete id outcome).waiting ↔ i ∈ c.waiting ∧ i ≠ id := by
  unfold complete
  split
  · simp
  · rename_i h
    constructor
    · intro hi
      exact ⟨hi, fun e => h (by simpa [e] using hi)⟩
    · exact And.left

theorem mem_completed_complete {c : Connection} {id i : Nat} {outcome o : Except Failure Json} :
    (i, o) ∈ (c.complete id outcome).completed ↔
      (i, o) ∈ c.completed ∨ i ∈ c.waiting ∧ i = id ∧ o = outcome := by
  unfold complete
  split
  · rename_i h
    simp only [List.mem_cons, Prod.mk.injEq]
    constructor
    · rintro (⟨rfl, rfl⟩ | hi)
      · exact .inr ⟨by simpa using h, rfl, rfl⟩
      · exact .inl hi
    · rintro (hi | ⟨_, rfl, rfl⟩)
      · exact .inr hi
      · exact .inl ⟨rfl, rfl⟩
  · rename_i h
    simp only [List.contains_eq_mem, decide_eq_true_eq] at h
    constructor
    · exact .inl
    · rintro (hi | ⟨hi, rfl, _⟩)
      · exact hi
      · exact absurd hi h

end Connection

end Refactoring
