import Refactoring.Proofs.Flow.Requests

/-!
# Parts of moves

What the parts of a move come to when they do not end it: the destinations that fit, the places
that packages are shown with, the files that can move, and the one call that commits the server.
-/

namespace Refactoring

open Refactoring.Flow (Runs)

variable {events : List CallEvent}

/-! ## Commitments -/

/-- What the server has been committed to, in order. -/
def commitments (events : List CallEvent) : List Call :=
  (events.map (·.1)).filter (·.role = .committing)

@[simp] theorem commitments_append (events later : List CallEvent) :
    commitments (events ++ later) = commitments events ++ commitments later := by
  rw [commitments, List.map_append, List.filter_append]
  rfl

theorem commitments_eq_nil (h : ∀ event ∈ events, event.1.role ≠ .committing) :
    commitments events = [] := by
  rw [commitments, List.filter_eq_nil_iff]
  intro call hcall
  obtain ⟨event, hevent, rfl⟩ := List.mem_map.mp hcall
  simpa using h event hevent

theorem mem_commitments {event : CallEvent} (h : event ∈ events)
    (hrole : event.1.role = .committing) : event.1 ∈ commitments events :=
  List.mem_filter.mpr ⟨List.mem_map_of_mem h, by simpa using hrole⟩

theorem Call.Consults.not_committing {query : Option MoveRequest} {call : Call}
    (h : call.Consults query) : call.role ≠ .committing := by
  rw [h.role_eq]
  nofun

theorem Call.concludes_role {call : Call} (h : call.concludes) :
    call.role ≠ .committing ∧ call.role ≠ .choosing := by
  cases call with
  | showError | applyEdit | openDocument | saveDocument | runCommand => exact ⟨nofun, nofun⟩
  | _ => cases h

/-- A flow that asks for a result and carries it out commits the server once. -/
theorem commitments_server {call : Call} (hcall : call.role = .committing) {saving : Bool}
    {dialogue : Dialogue (Except Failure (Option RefactoringResult))}
    (hdialogue : ∀ events reply, Program.Runs dialogue events reply → events.map (·.1) = [call])
    {result : Except Problem Outcome}
    (h : Runs (Flow.server dialogue >>= carryOut saving) events result) :
    commitments events = [call] := by
  have hasked {before value} (hfirst : Runs (Flow.server dialogue) before value) :
      commitments before = [call] := by
    obtain ⟨reply, hreply, -⟩ := Flow.runs_orElse.mp hfirst
    rw [commitments, hdialogue before reply hreply]
    simp [hcall]
  rcases Flow.runs_bind.mp h with ⟨problem, hfirst, rfl⟩ | ⟨before, after, sent, rfl, hfirst, hrest⟩
  · exact hasked hfirst
  · rw [commitments_append, hasked hfirst, commitments_eq_nil, List.append_nil]
    exact fun event hevent => (Call.concludes_role (concludes_carryOut _ _ _ _ hrest event hevent)).1

theorem commitments_commit {saving : Bool} {request : MoveRequest}
    {result : Except Problem Outcome} (h : Runs (request.commit saving) events result) :
    commitments events = [.move request] := by
  refine commitments_server rfl (fun before reply hask => ?_) h
  obtain rfl := Program.runs_request.mp hask
  rfl

theorem commitments_edit {saving : Bool} {request : EditRequest} {result : Except Problem Outcome}
    (h : Runs (Flow.server (ask (.refactorEdit request)) >>= carryOut saving) events result) :
    commitments events = [.refactorEdit request] := by
  refine commitments_server rfl (fun before reply hask => ?_) h
  obtain rfl := Program.runs_request.mp hask
  rfl

/-! ## Destinations -/

/-- A flow that reports a problem before it goes on has no value. -/
theorem not_runs_report_bind {α β : Type} {problem : Problem} {next : α → Flow β} {value : β} :
    ¬ Runs (Flow.report problem >>= next) events (.ok value) := by
  intro h
  obtain ⟨before, after, _, rfl, hreport, -⟩ := Flow.runs_bind_ok.mp h
  cases (Flow.runs_report.mp hreport).2

theorem runs_orReport {whenEmpty : String} {offer : DestinationList} {found : List Destination}
    (h : Runs (offer.orReport whenEmpty) events (.ok found)) :
    found = offer.destinations ∧ found ≠ [] := by
  unfold DestinationList.orReport at h
  cases hmessage : offer.errorMessage with
  | some message =>
    rw [hmessage] at h
    exact absurd h not_runs_report_bind
  | none =>
    rw [hmessage] at h
    dsimp only at h
    split at h
    · exact absurd h not_runs_report_bind
    · rename_i hsome
      obtain ⟨-, hfound⟩ := Flow.runs_pure.mp h
      cases hfound
      exact ⟨rfl, by simpa using hsome⟩

/-- The values are what fits of an offer that the server has made. -/
theorem runs_offered {α : Type} {query : MoveRequest} {shape : Destination → Option α}
    {whenEmpty : String} {fitting : List α}
    (h : Runs (offered query shape whenEmpty) events (.ok fitting)) :
    ∃ offer, ⟨.moveDestinations query, .ok (some offer)⟩ ∈ events ∧
      fitting = offer.destinations.filterMap shape := by
  obtain ⟨asked, rest, reply, rfl, hask, hrest⟩ := Flow.runs_bind_ok.mp h
  obtain ⟨sent, hsent, hreply⟩ := Flow.runs_orElse.mp hask
  obtain rfl := Program.runs_request.mp hsent
  obtain ⟨reported, last, found, rfl, hfound, hlast⟩ := Flow.runs_bind_ok.mp hrest
  obtain ⟨rfl, hsome⟩ := runs_orReport hfound
  dsimp only at hlast
  split at hlast
  · exact absurd hlast not_runs_report_bind
  · obtain ⟨-, hfitting⟩ := Flow.runs_pure.mp hlast
    cases hfitting
    rcases sent with failure | _ | offer
    · cases hreply
    · cases hreply
      exact absurd rfl hsome
    · cases hreply
      exact ⟨offer, by simp, rfl⟩

/-! ## Places of packages -/

/-- What stands for where a package lies: its path in the workspace if the host has told it, else
its path, else its URI. -/
inductive PackageNode.PlacedAt (node : PackageNode) (events : List CallEvent) :
    Option String → Prop
  | told {uri : Uri} {relative : Option String} (huri : node.uri? = some uri)
      (htold : ⟨.relativePath uri, relative⟩ ∈ events) :
      PlacedAt node events ((relative.or node.path).or node.uri)
  | untold (huri : node.uri? = none) : PlacedAt node events (node.path.or node.uri)

theorem PackageNode.PlacedAt.mono {node : PackageNode} {later : List CallEvent}
    {place : Option String} (h : node.PlacedAt events place) (hsubset : events ⊆ later) :
    node.PlacedAt later place := by
  cases h with
  | told huri htold => exact .told huri (hsubset htold)
  | untold huri => exact .untold huri

theorem runs_shownPlace {node : PackageNode} {place : Option String}
    (h : Program.Runs node.shownPlace events place) : node.PlacedAt events place := by
  unfold PackageNode.shownPlace at h
  cases huri : node.uri? with
  | none =>
    rw [huri] at h
    obtain ⟨-, rfl⟩ := Program.runs_done.mp h
    exact .untold huri
  | some uri =>
    rw [huri] at h
    obtain ⟨relative, rest, rfl, hrest⟩ := Program.runs_ask.mp h
    obtain ⟨-, rfl⟩ := Program.runs_done.mp hrest
    exact .told huri (by simp)

/-- Each package has its place, and they stay in order. -/
theorem runs_withPlaces {nodes : List PackageNode} {places : List (PackageNode × Option String)}
    (h : Program.Runs (withPlaces nodes) events places) :
    places.map (·.1) = nodes ∧ ∀ entry ∈ places, entry.1.PlacedAt events entry.2 := by
  induction nodes generalizing events places with
  | nil =>
    obtain ⟨-, rfl⟩ := Program.runs_done.mp h
    exact ⟨rfl, List.forall_mem_nil _⟩
  | cons node rest ih =>
    obtain ⟨first, later, place, rfl, hfirst, hrest⟩ := Program.runs_bind.mp h
    obtain ⟨later, last, others, rfl, hlater, hlast⟩ := Program.runs_bind.mp hrest
    obtain ⟨rfl, rfl⟩ := Program.runs_done.mp hlast
    obtain ⟨hnodes, hplaces⟩ := ih hlater
    refine ⟨by rw [List.map_cons, hnodes], ?_⟩
    rw [List.forall_mem_cons]
    constructor
    · exact (runs_shownPlace hfirst).mono (by simp)
    · exact fun entry hentry => (hplaces entry hentry).mono (by simp)

/-! ## Files that are in the way -/

/-- These checks tell which resources can move into a directory: those whose name is free there. -/
inductive Sifted (directory : Disk.FilePath) : List Uri → List CallEvent → List Uri → Prop
  | done : Sifted directory [] [] []
  | unnamed {uri : Uri} {rest moving : List Uri} {checks : List CallEvent}
      (hname : uri.fileName? = none) (hrest : Sifted directory rest checks moving) :
      Sifted directory (uri :: rest) checks (uri :: moving)
  | taken {uri : Uri} {name : String} {rest moving : List Uri} {checks : List CallEvent}
      (hname : uri.fileName? = some name) (hrest : Sifted directory rest checks moving) :
      Sifted directory (uri :: rest)
        (⟨.fileExists (Disk.FilePath.join directory (Utf8.encode name)), true⟩ :: checks) moving
  | free {uri : Uri} {name : String} {rest moving : List Uri} {checks : List CallEvent}
      (hname : uri.fileName? = some name) (hrest : Sifted directory rest checks moving) :
      Sifted directory (uri :: rest)
        (⟨.fileExists (Disk.FilePath.join directory (Utf8.encode name)), false⟩ :: checks)
        (uri :: moving)

/-- The first resource is passed over if it has no name, and looked for by its name otherwise. -/
theorem runs_withoutDuplicates_cons {directory : Disk.FilePath} {uri : Uri} {rest : List Uri}
    {found : List String × List Uri}
    (h : Program.Runs (withoutDuplicates directory (uri :: rest)) events found) :
    ∃ later names others, Program.Runs (withoutDuplicates directory rest) later (names, others) ∧
      ((uri.fileName? = none ∧ events = later ∧ found = (names, uri :: others)) ∨
        ∃ name reply, uri.fileName? = some name ∧
          events = ⟨.fileExists (Disk.FilePath.join directory (Utf8.encode name)), reply⟩ :: later ∧
          found = if reply then (name :: names, others) else (names, uri :: others)) := by
  unfold withoutDuplicates at h
  cases hname : uri.fileName? with
  | none =>
    rw [hname] at h
    obtain ⟨none, later, taken, rfl, hnone, hrest⟩ := Program.runs_bind.mp h
    obtain ⟨rfl, rfl⟩ := Program.runs_done.mp hnone
    obtain ⟨later, last, ⟨names, others⟩, rfl, hlater, hlast⟩ := Program.runs_bind.mp hrest
    obtain ⟨rfl, rfl⟩ := Program.runs_done.mp hlast
    rw [List.append_nil]
    exact ⟨later, names, others, hlater, .inl ⟨rfl, rfl, rfl⟩⟩
  | some name =>
    rw [hname] at h
    obtain ⟨asked, rest', reply, rfl, hask, hreply⟩ := Program.runs_bind.mp h
    obtain rfl := Program.runs_request.mp hask
    obtain ⟨none, later, taken, rfl, htaken, hrest⟩ := Program.runs_bind.mp hreply
    obtain ⟨rfl, rfl⟩ := Program.runs_done.mp htaken
    obtain ⟨later, last, ⟨names, others⟩, rfl, hlater, hlast⟩ := Program.runs_bind.mp hrest
    obtain ⟨rfl, rfl⟩ := Program.runs_done.mp hlast
    rw [List.append_nil]
    refine ⟨later, names, others, hlater, .inr ⟨name, reply, rfl, rfl, ?_⟩⟩
    cases reply <;> rfl

theorem runs_withoutDuplicates {directory : Disk.FilePath} {uris : List Uri}
    {found : List String × List Uri}
    (h : Program.Runs (withoutDuplicates directory uris) events found) :
    Sifted directory uris events found.2 := by
  induction uris generalizing events found with
  | nil =>
    obtain ⟨rfl, rfl⟩ := Program.runs_done.mp h
    exact .done
  | cons uri rest ih =>
    obtain ⟨later, names, others, hlater, ⟨hname, rfl, rfl⟩ | ⟨name, reply, hname, rfl, rfl⟩⟩ :=
      runs_withoutDuplicates_cons h
    · exact .unnamed hname (ih hlater)
    · have hsifted : Sifted directory rest later others := ih hlater
      cases reply with
      | false => exact .free hname hsifted
      | true => exact .taken hname hsifted

/-- These checks tell which resources can move to a package.  Without a directory all of them
can. -/
inductive PackageNode.Admits (package : PackageNode) (uris : List Uri) :
    List CallEvent → List Uri → Prop
  | undirected (hdirectory : package.directory? = none) : Admits package uris [] uris
  | sifted {directory : Disk.FilePath} {checks : List CallEvent} {moving : List Uri}
      (hdirectory : package.directory? = some directory)
      (hsifted : Sifted directory uris checks moving) : Admits package uris checks moving

/-- The call that warns of names that are taken, if there are any. -/
def PackageNode.warningOf (package : PackageNode) (names : List String) : List CallEvent :=
  if names = [] then [] else [⟨.showWarning (duplicateWarning names package), ()⟩]

/-- A package that is not on disk takes all resources.  In the directory of a package they are
looked for, and a warning names those that are found. -/
theorem runs_movable?_cases {package : PackageNode} {uris : List Uri} {moving? : Option (List Uri)}
    (h : Program.Runs (movable? package uris) events moving?) :
    (package.directory? = none ∧ events = [] ∧ moving? = some uris) ∨
      ∃ directory checks names moving, package.directory? = some directory ∧
        Program.Runs (withoutDuplicates directory uris) checks (names, moving) ∧
        events = checks ++ package.warningOf names ∧
        moving? = if moving = [] then none else some moving := by
  unfold movable? at h
  cases hdirectory : package.directory? with
  | none =>
    rw [hdirectory] at h
    obtain ⟨rfl, rfl⟩ := Program.runs_done.mp h
    exact .inl ⟨rfl, rfl, rfl⟩
  | some directory =>
    rw [hdirectory] at h
    obtain ⟨checks, warned, ⟨names, moving⟩, rfl, hchecks, hrest⟩ := Program.runs_bind.mp h
    refine .inr ⟨directory, checks, names, moving, rfl, hchecks, ?_⟩
    rw [PackageNode.warningOf]
    simp only [← List.isEmpty_iff]
    cases names with
    | nil =>
      obtain ⟨rfl, rfl⟩ := Program.runs_done.mp hrest
      exact ⟨rfl, rfl⟩
    | cons name names =>
      obtain ⟨reply, last, rfl, hlast⟩ := Program.runs_ask.mp hrest
      obtain ⟨rfl, rfl⟩ := Program.runs_done.mp hlast
      exact ⟨rfl, rfl⟩

/-- The resources that a package admits are moved, if there are any. -/
theorem runs_movable? {package : PackageNode} {uris : List Uri} {moving? : Option (List Uri)}
    (h : Program.Runs (movable? package uris) events moving?) :
    ∃ checks moving, checks <+: events ∧ package.Admits uris checks moving ∧
      (moving? = some moving ∨ moving? = none ∧ moving = []) := by
  rcases runs_movable?_cases h with ⟨hdirectory, rfl, rfl⟩ |
    ⟨directory, checks, names, moving, hdirectory, hchecks, rfl, rfl⟩
  · exact ⟨[], uris, List.prefix_refl _, .undirected hdirectory, .inl rfl⟩
  · refine ⟨checks, moving, List.prefix_append _ _,
      .sifted hdirectory (runs_withoutDuplicates hchecks), ?_⟩
    by_cases hmoving : moving = []
    · exact .inr ⟨if_pos hmoving, hmoving⟩
    · exact .inl (if_neg hmoving)

/-- The move of files to a package: of those that the package admits, as the query for them. -/
def filesMove (moving : List Uri) (package : PackageNode) : MoveRequest :=
  ((filesQuery moving).withDestination (.package package)).updatingReferences

/-- What the package admits is moved, and if that is nothing, nothing is done. -/
theorem runs_moveTo {package : PackageNode} {uris : List Uri} {result : Except Problem Outcome}
    (h : Runs (do
      let some moving ← movable? package uris | return .nothingToDo
      (filesMove moving package).commit true) events result) :
    ∃ checks moving, checks <+: events ∧ package.Admits uris checks moving ∧
      (commitments events = [.move (filesMove moving package)] ∨
        moving = [] ∧ commitments events = [] ∧ result = .ok .nothingToDo) := by
  obtain ⟨seen, rest, moving?, rfl, hseen, hrest⟩ := Flow.runs_lift_bind.mp h
  have hnone : commitments seen = [] := commitments_eq_nil fun event hevent =>
    (consults_movable? none package uris _ _ hseen event hevent).not_committing
  obtain ⟨checks, moving, hchecks, hadmits, hmoving⟩ := runs_movable? hseen
  refine ⟨checks, moving, hchecks.trans (List.prefix_append _ _), hadmits, ?_⟩
  rw [commitments_append, hnone, List.nil_append]
  rcases hmoving with rfl | ⟨rfl, rfl⟩
  · exact .inl (commitments_commit hrest)
  · obtain ⟨rfl, rfl⟩ := Flow.runs_pure.mp hrest
    exact .inr ⟨rfl, rfl, rfl⟩

end Refactoring
