import Refactoring.Proofs.Flow.Courses
import Refactoring.Proofs.Flow.Inquiries
import Refactoring.Proofs.Flow.Moves

/-!
# Where edits come from

A run asks the server once at most what there is to choose from, and then commits it once at most.
What the editor is handed after that is the edit and the command that the server has returned, and
nothing is handed to it without such a reply.
-/

namespace Refactoring

open Refactoring.Flow (Runs)

/-! ## What is handed over -/

/-- The edits that the editor was handed, in order. -/
def editsHanded (events : List CallEvent) : List WorkspaceEdit :=
  events.filterMap fun event =>
    match event.1 with
    | .applyEdit edit => some edit
    | _ => none

/-- The commands that the editor was handed with their arguments, in order. -/
def commandsHanded (events : List CallEvent) : List (String × List Json) :=
  events.filterMap fun event =>
    match event.1 with
    | .runCommand name arguments => some (name, arguments)
    | _ => none

/-- A command as it is handed over; without arguments there are none. -/
def Command.handed (command : Command) : String × List Json :=
  (command.name, command.arguments.getD [])

/-- The editor is handed neither an edit nor a command. -/
def HandsNothing (events : List CallEvent) : Prop :=
  editsHanded events = [] ∧ commandsHanded events = []

section Lists

variable {events later : List CallEvent}

@[simp] theorem editsHanded_append :
    editsHanded (events ++ later) = editsHanded events ++ editsHanded later :=
  List.filterMap_append

@[simp] theorem commandsHanded_append :
    commandsHanded (events ++ later) = commandsHanded events ++ commandsHanded later :=
  List.filterMap_append

theorem mem_editsHanded {edit : WorkspaceEdit} :
    edit ∈ editsHanded events ↔ ∃ reply, (⟨.applyEdit edit, reply⟩ : CallEvent) ∈ events := by
  rw [editsHanded, List.mem_filterMap]
  constructor
  · rintro ⟨⟨call, reply⟩, hevent, hedit⟩
    cases call with
    | applyEdit other =>
      cases hedit
      exact ⟨reply, hevent⟩
    | _ => cases hedit
  · rintro ⟨reply, hevent⟩
    exact ⟨_, hevent, rfl⟩

theorem mem_commandsHanded {name : String} {arguments : List Json} :
    (name, arguments) ∈ commandsHanded events ↔
      ∃ reply, (⟨.runCommand name arguments, reply⟩ : CallEvent) ∈ events := by
  rw [commandsHanded, List.mem_filterMap]
  constructor
  · rintro ⟨⟨call, reply⟩, hevent, hcommand⟩
    cases call with
    | runCommand other others =>
      cases hcommand
      exact ⟨reply, hevent⟩
    | _ => cases hcommand
  · rintro ⟨reply, hevent⟩
    exact ⟨_, hevent, rfl⟩

theorem editsHanded_eq_nil (h : ∀ event ∈ events, event.1.role ≠ .changing) :
    editsHanded events = [] := by
  rw [List.eq_nil_iff_forall_not_mem]
  intro edit hedit
  obtain ⟨reply, hevent⟩ := mem_editsHanded.mp hedit
  exact h _ hevent rfl

theorem commandsHanded_eq_nil (h : ∀ event ∈ events, event.1.role ≠ .presenting) :
    commandsHanded events = [] := by
  rw [List.eq_nil_iff_forall_not_mem]
  rintro ⟨name, arguments⟩ hcommand
  obtain ⟨reply, hevent⟩ := mem_commandsHanded.mp hcommand
  exact h _ hevent rfl

/-- Only what is brought up in the host or changes documents is handed to the editor. -/
theorem handsNothing_of_role
    (h : ∀ event ∈ events, event.1.role ≠ .presenting ∧ event.1.role ≠ .changing) :
    HandsNothing events :=
  ⟨editsHanded_eq_nil fun event hevent => (h event hevent).2,
    commandsHanded_eq_nil fun event hevent => (h event hevent).1⟩

theorem Preliminary.handsNothing (h : Preliminary events) : HandsNothing events := by
  refine handsNothing_of_role fun event hevent => ?_
  rcases h event hevent with hrole | hrole
  all_goals
    rw [hrole]
    exact ⟨nofun, nofun⟩

theorem Preliminary.commitments_eq_nil (h : Preliminary events) : commitments events = [] := by
  refine Refactoring.commitments_eq_nil fun event hevent => ?_
  rcases h event hevent with hrole | hrole
  all_goals
    rw [hrole]
    nofun

theorem HandsNothing.append (h : HandsNothing events) (hlater : HandsNothing later) :
    HandsNothing (events ++ later) :=
  ⟨by rw [editsHanded_append, h.1, hlater.1]; rfl, by rw [commandsHanded_append, h.2, hlater.2]; rfl⟩

end Lists

/-! ## One reply -/

/-- The result that the server has returned in reply to a call, if it is no error message. -/
def returned? (event : CallEvent) : Option RefactoringResult :=
  (received? event).join.filter (·.errorMessage.isNone)

/-- Among these calls the server has returned a result of this kind. -/
def Returned (before : List CallEvent) (kind : RefactoringResult → Prop) : Prop :=
  ∃ event ∈ before, ∃ sent, returned? event = some sent ∧ kind sent

theorem role_of_returned? {event : CallEvent} {sent : RefactoringResult}
    (h : returned? event = some sent) : event.1.role = .committing := by
  by_contra hrole
  rw [returned?, received?_eq_none hrole] at h
  cases h

/-- What the editor is handed is what the server has returned: the edit, and the command unless
something went wrong before it. -/
structure HandsOver (sent : Option RefactoringResult) (events : List CallEvent) : Prop where
  edits : editsHanded events = (sent.bind (·.edit)).toList
  commands : commandsHanded events <+: ((sent.bind (·.command)).map Command.handed).toList

theorem HandsOver.length_edits_le {sent : Option RefactoringResult} {events : List CallEvent}
    (h : HandsOver sent events) : (editsHanded events).length ≤ 1 := by
  rw [h.edits]
  exact Option.length_toList_le

theorem HandsOver.length_commands_le {sent : Option RefactoringResult} {events : List CallEvent}
    (h : HandsOver sent events) : (commandsHanded events).length ≤ 1 :=
  Nat.le_trans h.commands.length_le Option.length_toList_le

theorem HandsOver.after {sent : Option RefactoringResult} {before after : List CallEvent}
    {event : CallEvent} (h : HandsOver sent after) (hbefore : Preliminary before)
    (hrole : event.1.role = .committing) : HandsOver sent (before ++ event :: after) := by
  have hnothing : HandsNothing (before ++ [event]) :=
    hbefore.handsNothing.append (handsNothing_of_role (by simp [hrole]))
  rw [← List.singleton_append, ← List.append_assoc]
  constructor
  · rw [editsHanded_append, hnothing.1]
    exact h.edits
  · rw [commandsHanded_append, hnothing.2]
    exact h.commands

/-- How the calls of a run are ordered: either the server is committed to nothing, or it is once,
and then the editor is handed what it has returned. -/
inductive Ordered : List CallEvent → Prop
  | uncommitted {events : List CallEvent} (h : Preliminary events) : Ordered events
  | committed {before after : List CallEvent} {event : CallEvent} (hbefore : Preliminary before)
      (hrole : event.1.role = .committing) (hafter : ∀ other ∈ after, other.1.concludes)
      (hhands : HandsOver (returned? event) after) : Ordered (before ++ event :: after)

theorem Ordered.after {passed events : List CallEvent} (h : Ordered events)
    (hpassed : Preliminary passed) : Ordered (passed ++ events) := by
  cases h with
  | uncommitted h => exact .uncommitted (List.forall_mem_append.mpr ⟨hpassed, h⟩)
  | committed hbefore hrole hafter hhands =>
    rw [← List.append_assoc]
    exact .committed (List.forall_mem_append.mpr ⟨hpassed, hbefore⟩) hrole hafter hhands

section Results

variable {saving : Bool} {edit : Option WorkspaceEdit} {command : Option Command}
  {events : List CallEvent}

theorem SaveAttempts.handsNothing {uris : List Uri} (h : SaveAttempts uris events) :
    HandsNothing events := by
  induction h with
  | done => exact ⟨rfl, rfl⟩
  | next hfirst _ ih =>
    refine HandsNothing.append ?_ ih
    cases hfirst <;> exact ⟨rfl, rfl⟩

theorem EditAccepted.handed (h : EditAccepted saving edit events) :
    editsHanded events = edit.toList ∧ commandsHanded events = [] := by
  cases h with
  | absent => exact ⟨rfl, rfl⟩
  | unsaved => exact ⟨rfl, rfl⟩
  | saved hsaves =>
    obtain ⟨hedits, hcommands⟩ := hsaves.handsNothing
    exact ⟨congrArg (_ :: ·) hedits, hcommands⟩

theorem EditRefused.handed {problem : Problem} (h : EditRefused edit events problem) :
    editsHanded events = edit.toList ∧ commandsHanded events = [] := by
  cases h <;> exact ⟨rfl, rfl⟩

theorem CommandRan.handed (h : CommandRan command events) :
    editsHanded events = [] ∧ commandsHanded events = (command.map Command.handed).toList := by
  cases h <;> exact ⟨rfl, rfl⟩

theorem CommandFailed.handed {failure : Failure} (h : CommandFailed command events failure) :
    editsHanded events = [] ∧ commandsHanded events = (command.map Command.handed).toList := by
  cases h
  exact ⟨rfl, rfl⟩

/-- The edit is handed over first, and the command last. -/
theorem HandsOver.append {sent : RefactoringResult} {edited ran : List CallEvent}
    (hedited : editsHanded edited = sent.edit.toList ∧ commandsHanded edited = [])
    (hran : editsHanded ran = [] ∧ commandsHanded ran = (sent.command.map Command.handed).toList) :
    HandsOver (some sent) (edited ++ ran) where
  edits := by
    rw [editsHanded_append, hedited.1, hran.1, List.append_nil]
    rfl
  commands := by
    rw [commandsHanded_append, hedited.2, hran.2, List.nil_append]
    exact List.prefix_rfl

/-- To carry out a result is to hand it to the editor. -/
theorem CarriesOut.handsOver {sent : Option RefactoringResult} {result : Except Problem Outcome}
    (h : CarriesOut saving sent events result) :
    HandsOver (sent.filter (·.errorMessage.isNone)) events := by
  cases h with
  | nothing => exact ⟨rfl, List.prefix_rfl⟩
  | refused hmessage =>
    rw [Option.filter_some, hmessage]
    exact ⟨rfl, List.prefix_rfl⟩
  | unedited hmessage hedit =>
    rw [Option.filter_some, hmessage]
    exact ⟨hedit.handed.1, hedit.handed.2 ▸ List.nil_prefix⟩
  | uncommanded hmessage hedit hfailed =>
    rw [Option.filter_some, hmessage]
    exact .append hedit.handed hfailed.handed
  | completed hmessage hedit hran =>
    rw [Option.filter_some, hmessage]
    exact .append hedit.handed hran.handed

theorem Course.ordered {result : Except Problem Outcome} (h : Course saving events result) :
    Ordered events := by
  cases h with
  | failed hevents => exact .uncommitted hevents
  | idle hevents => exact .uncommitted hevents
  | @dismissed asked items question reply hasked =>
    have hlast : Preliminary [⟨.pick items question, reply⟩] := preliminary_singleton (.inr rfl)
    exact .uncommitted (List.forall_mem_append.mpr ⟨preliminary_of_inquires hasked, hlast⟩)
  | lost hasked hrole hnone =>
    refine .committed hasked hrole (List.forall_mem_nil _) ?_
    rw [returned?, hnone]
    exact ⟨rfl, List.prefix_rfl⟩
  | received hreceives hcarries =>
    cases hreceives with
    | mk hearlier hsent =>
      rw [List.append_assoc]
      refine .committed hearlier ?_ hcarries.concludes ?_
      · by_contra hrole
        cases (received?_eq_none hrole).symm.trans hsent
      · rw [returned?, hsent]
        exact hcarries.handsOver

end Results

/-- A run of an errand for which the server is asked, if anyone is. -/
theorem Errand.Course.ordered {errand : Errand} {events : List CallEvent}
    {result : Except Problem Outcome} (h : errand.Course events result)
    (hasks : errand.asksServer ∨ ∃ value, errand = .ended value) : Ordered events := by
  cases h with
  | ended => exact .uncommitted (List.forall_mem_nil _)
  | requested _ hcourse => exact hcourse.ordered
  | branched _ hcourse => exact hcourse.ordered.after (preliminary_singleton (.inr rfl))
  | inactive hinactive =>
    have hasked : Preliminary [⟨.formattingOptions, none⟩] := preliminary_singleton (.inl rfl)
    cases hinactive with
    | edit => exact .uncommitted hasked
    | chosen => exact .uncommitted (List.forall_mem_cons.mpr ⟨.inr rfl, hasked⟩)
  | renamed => rcases hasks with hasks | ⟨value, hvalue⟩ <;> contradiction
  | given => rcases hasks with hasks | ⟨value, hvalue⟩ <;> contradiction

/-! ## Commands -/

theorem Errand.asksServer_ofExcept {α : Type} {value : Except Problem α} {errand : α → Errand}
    (h : ∀ value, (errand value).asksServer ∨ ∃ result, errand value = .ended result) :
    (ofExcept value errand).asksServer ∨ ∃ result, ofExcept value errand = .ended result := by
  cases value with
  | ok value => exact h value
  | error problem => exact .inr ⟨_, rfl⟩

theorem Errand.asksServer_ofRefactoring (name : String) (params : Json) (info : CommandInfo) :
    (ofRefactoring name params info).asksServer ∨
      ∃ result, ofRefactoring name params info = .ended result := by
  unfold ofRefactoring
  cases RefactoringKind.ofName? name with
  | none => exact .inr ⟨_, rfl⟩
  | some kind =>
    dsimp only
    split
    · exact asksServer_ofExcept fun _ => .inl rfl
    · exact asksServer_ofExcept fun _ => .inl (by cases kind <;> rfl)

/-- The errand for a command that is built in is a rename, or the server is asked for it, if
anyone is. -/
theorem Errand.ofCommand_cases (name : String) (arguments : List Json) :
    (name = renameCommand ∧ ∃ position, ofCommand name arguments = .rename position) ∨
      (ofCommand name arguments).asksServer ∨ ∃ result, ofCommand name arguments = .ended result := by
  unfold ofCommand
  split
  · rename_i hname
    unfold ofRename
    split
    · exact .inr (.inr ⟨_, rfl⟩)
    · exact .inl ⟨hname, _, rfl⟩
  · right
    split
    · unfold ofApply
      split
      · exact asksServer_ofExcept fun _ => asksServer_ofRefactoring _ _ _
      · exact .inr ⟨_, rfl⟩
    · exact .inr ⟨_, rfl⟩

/-! ## The order of a run -/

/-- Of two calls in a run one comes before the other, or they are the same. -/
theorem split_cases {before after front back : List CallEvent} {event other : CallEvent}
    (h : before ++ event :: after = front ++ other :: back) :
    (∃ rest, before = front ++ other :: rest) ∨ other = event ∨
      ∃ rest, front = before ++ event :: rest ∧ after = rest ++ other :: back := by
  rcases List.append_eq_append_iff.mp h with ⟨rest, rfl, hrest⟩ | ⟨rest, rfl, hrest⟩
  · cases rest with
    | nil => exact .inr (.inl (List.cons.inj hrest).1.symm)
    | cons first rest =>
      obtain ⟨rfl, rfl⟩ := List.cons.inj hrest
      exact .inr (.inr ⟨rest, rfl, rfl⟩)
  · cases rest with
    | nil => exact .inr (.inl (List.cons.inj hrest).1)
    | cons first rest =>
      obtain ⟨rfl, -⟩ := List.cons.inj hrest
      exact .inl ⟨rest, rfl⟩

namespace Ordered

variable {events front back : List CallEvent} {other : CallEvent}

theorem length_commitments_le (h : Ordered events) : (commitments events).length ≤ 1 := by
  cases h with
  | uncommitted h =>
    rw [h.commitments_eq_nil]
    exact Nat.zero_le 1
  | @committed before after event hbefore hrole hafter =>
    have hnone : commitments after = [] :=
      commitments_eq_nil fun other hother => (Call.concludes_role (hafter other hother)).1
    have hone : commitments [event] = [event.1] := by simp [commitments, hrole]
    rw [← List.singleton_append, commitments_append, commitments_append,
      hbefore.commitments_eq_nil, hnone, hone]
    exact Nat.le_refl 1

/-- The server is asked what there is to choose from before it is committed. -/
theorem commitments_before_query (h : Ordered events) (hevents : events = front ++ other :: back)
    (hother : other.1.isQuery) : commitments front = [] := by
  cases h with
  | uncommitted h =>
    subst hevents
    exact Preliminary.commitments_eq_nil (List.forall_mem_append.mp h).1
  | committed hbefore hrole hafter =>
    rcases split_cases hevents with ⟨rest, rfl⟩ | rfl | ⟨rest, rfl, rfl⟩
    · exact Preliminary.commitments_eq_nil (List.forall_mem_append.mp hbefore).1
    · obtain ⟨call, reply⟩ := other
      cases call with
      | moveDestinations | searchSymbols => cases hrole
      | _ => cases hother
    · have hconcludes := Call.not_isQuery_of_concludes (hafter other (by simp))
      cases hother.symm.trans hconcludes

/-- Whatever is handed to the editor comes behind the reply that it is from. -/
theorem exists_reply (h : Ordered events) (hevents : events = front ++ other :: back)
    (hother : other.1.role = .presenting ∨ other.1.role = .changing) :
    ∃ event ∈ front, HandsOver (returned? event) events := by
  have hnot {event : CallEvent} (hrole : event.1.role = .consulting ∨ event.1.role = .choosing ∨
      event.1.role = .committing) : event ≠ other := by
    rintro rfl
    rcases hother with hother | hother <;> simp [hother] at hrole
  cases h with
  | uncommitted h =>
    subst hevents
    have hrole := h other (by simp)
    exact absurd rfl (hnot (hrole.imp_right .inl))
  | @committed before after event hbefore hrole hafter hhands =>
    rcases split_cases hevents with ⟨rest, rfl⟩ | rfl | ⟨rest, rfl, rfl⟩
    · have hrole := hbefore other (by simp)
      exact absurd rfl (hnot (hrole.imp_right .inl))
    · exact absurd rfl (hnot (.inr (.inr hrole)))
    · exact ⟨event, by simp, hhands.after hbefore hrole⟩

theorem returned_edit (h : Ordered events) {edit : WorkspaceEdit} {reply : Except Failure Bool}
    (hevents : events = front ++ ⟨.applyEdit edit, reply⟩ :: back) :
    Returned front fun sent => sent.edit = some edit := by
  obtain ⟨event, hevent, hhands⟩ := h.exists_reply hevents (.inr rfl)
  have hedit : edit ∈ editsHanded events := mem_editsHanded.mpr ⟨reply, by simp [hevents]⟩
  rw [hhands.edits, Option.mem_toList, Option.bind_eq_some_iff] at hedit
  obtain ⟨sent, hsent, hedit⟩ := hedit
  exact ⟨event, hevent, sent, hsent, hedit⟩

theorem returned_command (h : Ordered events) {name : String} {arguments : List Json}
    {reply : Except Failure (Option Json)}
    (hevents : events = front ++ ⟨.runCommand name arguments, reply⟩ :: back) :
    Returned front fun sent => sent.command.map Command.handed = some (name, arguments) := by
  obtain ⟨event, hevent, hhands⟩ := h.exists_reply hevents (.inl rfl)
  have hcommand : (name, arguments) ∈ commandsHanded events :=
    mem_commandsHanded.mpr ⟨reply, by simp [hevents]⟩
  have hhanded := hhands.commands.subset hcommand
  rw [Option.mem_toList, Option.map_bind, Option.bind_eq_some_iff] at hhanded
  obtain ⟨sent, hsent, hhanded⟩ := hhanded
  exact ⟨event, hevent, sent, hsent, hhanded⟩

theorem exists_handsOver (h : Ordered events) : ∃ sent, HandsOver sent events := by
  cases h with
  | uncommitted h =>
    obtain ⟨hedits, hcommands⟩ := h.handsNothing
    exact ⟨none, hedits, hcommands ▸ List.nil_prefix⟩
  | committed hbefore hrole hafter hhands => exact ⟨_, hhands.after hbefore hrole⟩

/-- The edit of a reply is handed over as it is, and so is its command, if any. -/
theorem handsOver_of_mem (h : Ordered events) {event : CallEvent} (hevent : event ∈ events)
    {sent : RefactoringResult} (hsent : returned? event = some sent) :
    HandsOver (some sent) events := by
  have hrole := role_of_returned? hsent
  cases h with
  | uncommitted h => rcases h event hevent with hnot | hnot <;> cases hrole.symm.trans hnot
  | @committed before after first hbefore hfirst hafter hhands =>
    rcases List.mem_append.mp hevent with hmem | hmem
    · rcases hbefore event hmem with hnot | hnot <;> cases hrole.symm.trans hnot
    · rcases List.mem_cons.mp hmem with rfl | hmem
      · exact hsent ▸ hhands.after hbefore hfirst
      · exact absurd hrole (Call.concludes_role (hafter event hmem)).1

end Ordered

/-! ## Runs of commands -/

variable {client : Client} {name : String} {arguments : List Json} {events : List CallEvent}
  {result : Except Problem Outcome}

/-- A rename asks the server for nothing and hands no edit to the editor. -/
theorem presents_ofCommand (own : name ∉ client.hosted)
    (h : Runs (client.execute name arguments) events result) :
    (name = renameCommand ∧ ∀ event ∈ events, event.1.role = .presenting) ∨ Ordered events := by
  rw [← Errand.flow_ofCommand own] at h
  rcases Errand.ofCommand_cases name arguments with ⟨hname, position, hrename⟩ | hasks
  · rw [hrename] at h
    exact .inl ⟨hname, presents_rename position events result h⟩
  · exact .inr ((Errand.course h).ordered hasks)

/-- A run of a command that is built in asks once at most what there is to choose from, and only
before it commits the server, which it does once at most.  It hands the editor one edit at most, and
unless it is a rename one command at most.  Each of them comes behind the reply of the server that it
is from, a reply without an error message; and the edit of such a reply is always handed over. -/
theorem Client.execute_handsOver (own : name ∉ client.hosted)
    (h : Runs (client.execute name arguments) events result) :
    (queries events).length ≤ 1 ∧ (commitments events).length ≤ 1 ∧
      (∀ before query after, events = before ++ query :: after → query.1.isQuery →
        commitments before = []) ∧
      ((editsHanded events).length ≤ 1 ∧
        ∀ before edit reply after, events = before ++ ⟨.applyEdit edit, reply⟩ :: after →
          Returned before fun sent => sent.edit = some edit) ∧
      (name = applyCommand → (commandsHanded events).length ≤ 1 ∧
        ∀ before command values reply after,
          events = before ++ ⟨.runCommand command values, reply⟩ :: after →
          Returned before fun sent => sent.command.map Command.handed = some (command, values)) ∧
      ∀ event ∈ events, ∀ sent, returned? event = some sent →
        editsHanded events = sent.edit.toList := by
  have honce : (queries events).length ≤ 1 := by
    rw [← Errand.flow_ofCommand own] at h
    exact Errand.queriesOnce _ events result h
  rcases presents_ofCommand own h with ⟨rfl, hpresents⟩ | hordered
  · have hedits : editsHanded events = [] := editsHanded_eq_nil fun event hevent => by
      rw [hpresents event hevent]
      nofun
    have huncommitted {calls : List CallEvent} (hcalls : calls ⊆ events) : commitments calls = [] :=
      commitments_eq_nil fun event hevent => by
        rw [hpresents event (hcalls hevent)]
        nofun
    refine ⟨honce, ?_, ?_, ⟨?_, ?_⟩, fun hname => absurd hname (by decide), ?_⟩
    · rw [huncommitted (List.Subset.refl _)]
      exact Nat.zero_le 1
    · rintro before query after rfl -
      exact huncommitted (List.subset_append_left _ _)
    · rw [hedits]
      exact Nat.zero_le 1
    · rintro before edit reply after rfl
      cases hpresents ⟨.applyEdit edit, reply⟩ (by simp)
    · intro event hevent sent hsent
      cases (hpresents event hevent).symm.trans (role_of_returned? hsent)
  · obtain ⟨sent, hhands⟩ := hordered.exists_handsOver
    exact ⟨honce, hordered.length_commitments_le, fun _ _ _ => hordered.commitments_before_query,
      ⟨hhands.length_edits_le, fun _ _ _ _ => hordered.returned_edit⟩,
      fun _ => ⟨hhands.length_commands_le, fun _ _ _ _ _ => hordered.returned_command⟩,
      fun event hevent sent hsent => (hordered.handsOver_of_mem hevent hsent).edits⟩

/-- The arguments for a move of a file. -/
def moveFileA : List Json :=
  [.string "moveFile", .null, .object [("uri", .string "file:///A")]]

/-- The edit and the command that the editor is handed are from the reply in front of them. -/
theorem Client.execute_handsOver_moveFileA :
    Runs ((Client.mk []).execute applyCommand moveFileA) moveToPackage
        (.error (.editor (.of "failed"))) ∧
      (queries moveToPackage).length ≤ 1 ∧ (commitments moveToPackage).length ≤ 1 ∧
      Returned (moveToPackage.take 3) (fun sent => sent.edit = some renameAndEdit) ∧
      Returned (moveToPackage.take 7)
        fun sent => sent.command.map Command.handed = some ("command", []) := by
  have hruns : Runs ((Client.mk []).execute applyCommand moveFileA) moveToPackage
      (.error (.editor (.of "failed"))) := runs_moveToPackage
  obtain ⟨hqueries, hcommitments, -, ⟨-, hedit⟩, hcommand, -⟩ :=
    Client.execute_handsOver List.not_mem_nil hruns
  exact ⟨hruns, hqueries, hcommitments, hedit _ _ _ _ rfl, (hcommand rfl).2 _ _ _ _ _ rfl⟩

end Refactoring
