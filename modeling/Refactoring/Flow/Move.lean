import Refactoring.Flow.Apply

/-!
# Moves

Files, instance methods, static members and types move to a destination that the user chooses.  The
destinations come from the server, as an offer for the selection or as symbols of the workspace,
and the one that was chosen is sent back in the request for the move.
-/

namespace Refactoring

open Refactoring.Flow (report)

/-- What is shown when there is no package to move to. -/
def noPackages : String := "Cannot find available Java packages to move the selected files to."

/-- What is shown when there is no class to move a method to. -/
def noClassTargets : String :=
  "Cannot find possible class targets to move the selected method to."

/-- What is shown when there is no class to move a member to. -/
def noClasses : String := "Cannot find available Java classes to move the selected member to."

/-- The destinations of an offer.  An error message in it and an offer of nothing are reported. -/
def DestinationList.orReport (whenEmpty : String) (offer : DestinationList) :
    Flow (List Destination) := do
  if let some message := offer.errorMessage then report (.server message)
  if offer.destinations.isEmpty then report (.noDestinations whenEmpty)
  return offer.destinations

/-- The destinations of one shape that the server offers; that there is none is reported. -/
def offered {α : Type} (query : MoveRequest) (shape : Destination → Option α)
    (whenEmpty : String) : Flow (List α) := do
  let offer ← Flow.server (ask (.moveDestinations query))
  let destinations ← (offer.getD .empty).orReport whenEmpty
  let fitting := destinations.filterMap shape
  if fitting.isEmpty then report (.noDestinations whenEmpty)
  return fitting

/-- Requests a move and carries out the result. -/
def MoveRequest.commit (saving : Bool) (request : MoveRequest) : Flow Outcome := do
  let result ← Flow.server (ask (.move request))
  carryOut saving result

/-! ### Packages -/

/-- The package of a destination. -/
def Destination.package? : Destination → Option PackageNode
  | .package node => some node
  | _ => none

/-- The URI of a package. -/
def PackageNode.uri? (node : PackageNode) : Option Uri :=
  node.uri.bind fun text => (Uri.parse text).toOption

/-- Where a package lies on disk. -/
def PackageNode.directory? (node : PackageNode) : Option Disk.FilePath :=
  node.uri?.bind Uri.filePath?

/-- Where a package lies, as the picker shows it. -/
def PackageNode.shownPlace (node : PackageNode) : Dialogue (Option String) := do
  let relative ← match node.uri? with
    | some uri => ask (.relativePath uri)
    | none => pure none
  return (relative.or node.path).or node.uri

/-- The row of a package; the one that the files lie in is marked. -/
def PackageNode.row (node : PackageNode) (place : Option String) : PickItem :=
  ⟨(if node.isParentOfSelectedFile then "* " else "") ++ node.displayName, place, none⟩

/-- Packages with the places that the picker shows. -/
def withPlaces : List PackageNode → Dialogue (List (PackageNode × Option String))
  | [] => pure []
  | node :: rest => do
    let place ← node.shownPlace
    let others ← withPlaces rest
    return (node, place) :: others

/-- Lets the user choose one of the packages that the server offers. -/
def pickPackage (query : MoveRequest) (placeholder : String) : Flow (Option PackageNode) := do
  let packages ← offered query Destination.package? noPackages
  let places ← withPlaces packages
  let choice ← Flow.choose places (fun (node, place) => node.row place) placeholder
  return choice.map (·.1)

/-- Names in one text. -/
def commaJoined (names : List String) : String := ",".intercalate names

/-- The warning about files that stay where they are. -/
def duplicateWarning (names : List String) (package : PackageNode) : String :=
  s!"The files '{commaJoined names}' already exist in the package '{package.displayName}'. " ++
    "The move operation will ignore them."

/-- Divides resources into the names that a directory already has and the resources that remain. -/
def withoutDuplicates (directory : Disk.FilePath) : List Uri → Dialogue (List String × List Uri)
  | [] => pure ([], [])
  | uri :: rest => do
    let taken ← match uri.fileName? with
      | some name => do
        let found ← ask (.fileExists (Disk.FilePath.join directory (Utf8.encode name)))
        pure (if found then some name else none)
      | none => pure none
    let (names, others) ← withoutDuplicates directory rest
    return match taken with
      | some name => (name :: names, others)
      | none => (names, uri :: others)

/-- The resources that can move to a package, if any is left; a warning tells of the others.  A
package that is not on disk takes every resource. -/
def movable? (package : PackageNode) (uris : List Uri) : Dialogue (Option (List Uri)) := do
  match package.directory? with
  | none => return some uris
  | some directory =>
    let (names, rest) ← withoutDuplicates directory uris
    if !names.isEmpty then
      let _ ← ask (.showWarning (duplicateWarning names package))
    return if rest.isEmpty then none else some rest

/-- The query for a move of files. -/
def filesQuery (uris : List Uri) : MoveRequest := .query .moveResource (uris.map Uri.text) none

/-- What the user is asked when files move. -/
def filesPlaceholder : List Uri → String
  | [single] => s!"Choose the target package for {single.fileName?.getD single.text}."
  | uris => s!"Choose the target package for {uris.length} selected files."

/-- Moves files of one directory to another package and saves what that touches. -/
def moveFiles (uris : List Uri) : Flow Outcome := do
  if !Uri.haveCommonParent uris then report .differentDirectories
  let some package ← pickPackage (filesQuery uris) (filesPlaceholder uris) | return .cancelled
  let some moving ← movable? package uris | return .nothingToDo
  ((filesQuery moving).withDestination (.package package)).updatingReferences.commit true

/-- The query for a move of what is selected. -/
def selectionQuery (kind : MoveKind) (selection : Selection) : MoveRequest :=
  .query kind [selection.document.text] (some selection)

/-- Moves the selected type to another package and saves what that touches. -/
def moveTypeToPackage (selection : Selection) (info : CommandInfo) : Flow Outcome := do
  let query := selectionQuery .moveResource selection
  let placeholder := s!"Choose the target package for the type {info.displayName}."
  let some package ← pickPackage query placeholder | return .cancelled
  (query.withDestination (.package package)).updatingReferences.commit true

/-! ### Instance methods -/

/-- The field or parameter of a destination. -/
def Destination.classTarget? : Destination → Option ClassTarget
  | .classTarget target => some target
  | _ => none

/-- The row of a field or parameter. -/
def ClassTarget.row (target : ClassTarget) : PickItem :=
  ⟨s!"{target.typeName} {target.name}",
    some (if target.isField then "Field" else "Method Parameter"), none⟩

/-- Moves the selected method to the type of one of its fields or parameters. -/
def moveInstanceMethod (selection : Selection) (info : CommandInfo) : Flow Outcome := do
  let query := selectionQuery .moveInstanceMethod selection
  let targets ← offered query Destination.classTarget? noClassTargets
  let placeholder := s!"Select the new class for the instance method {info.displayName}."
  let some target ← Flow.choose targets ClassTarget.row placeholder | return .cancelled
  (query.withDestination (.classTarget target)).commit false

/-! ### Static members and types -/

/-- The kinds of symbols that can take a member: classes, interfaces and enumerations. -/
def memberHolders : List Int := [5, 11, 10]

/-- The name of a symbol with that of its container. -/
def Symbol.qualifiedName (symbol : Symbol) : String :=
  match symbol.container with
  | some container => if container = "" then symbol.name else s!"{container}.{symbol.name}"
  | none => symbol.name

/-- The row of a symbol. -/
def Symbol.row (symbol : Symbol) : PickItem := ⟨symbol.name, symbol.container, none⟩

/-- The search for all symbols of a project that have a source. -/
def allSymbols (project : Option String) : SymbolQuery := ⟨"*", project, none, some true⟩

/-- Whether a symbol can take a member and is not one of the names that are left out. -/
def Symbol.isCandidate (excluded : List String) (symbol : Symbol) : Bool :=
  memberHolders.contains symbol.kind && !excluded.contains symbol.qualifiedName

/-- Lets the user choose a class, interface or enumeration of the workspace. -/
def selectTargetClass (placeholder : String) (excluded : List String) (project : Option String) :
    Flow (Option Symbol) := do
  let symbols ← Flow.server (ask (.searchSymbols (allSymbols project)))
  let candidates := symbols.filter (Symbol.isCandidate excluded)
  if candidates.isEmpty then report (.noDestinations noClasses)
  Flow.choose candidates Symbol.row placeholder

/-- Where a member must not move: the type that it is in and, for a type, the type itself. -/
def CommandInfo.excludedTargets (info : CommandInfo) : List String :=
  match info.enclosingTypeName with
  | none => []
  | some enclosing =>
    if info.isType then [enclosing, s!"{enclosing}.{info.displayName}"] else [enclosing]

/-- The qualified name of a type that moves, if it has a name. -/
def CommandInfo.ownName? (info : CommandInfo) : Option String :=
  if info.displayName = "" then none
  else some (match info.enclosingTypeName with
    | some enclosing => s!"{enclosing}.{info.displayName}"
    | none => info.displayName)

/-- Moves the selected static member or type to another class. -/
def moveStaticMember (selection : Selection) (info : CommandInfo) : Flow Outcome := do
  let what := if info.isType then "type" else "static member"
  let placeholder := s!"Select the new class for the {what} {info.displayName}."
  let some target ← selectTargetClass placeholder info.excludedTargets info.projectName
    | return .cancelled
  ((selectionQuery .moveStaticMember selection).withDestination (.symbol target)).commit false

/-- Moves the selected type into another class, but not into itself. -/
def moveTypeToClass (selection : Selection) (info : CommandInfo) : Flow Outcome := do
  let placeholder := s!"Select the new class for the type {info.displayName}."
  let excluded := info.excludedTargets ++ info.ownName?.toList
  let some target ← selectTargetClass placeholder excluded info.projectName | return .cancelled
  ((selectionQuery .moveTypeToClass selection).withDestination (.symbol target)).commit false

end Refactoring
