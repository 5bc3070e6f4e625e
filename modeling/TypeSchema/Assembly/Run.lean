/-
**From a module to its registry.**

* `waitForServer`: the type checker is asked whether it is ready; if the answer takes longer than
  the settings say, or never comes, a line reports it;
* `registryByPosition`: every export of the module is looked up where it is declared, several at a
  time;
* `registryByListing`: an older type checker lists the exported types of the module itself, and the
  aliases among them are taken as they are;
* `assemble`: the one or the other, as the version says. A registry without entries is a failure.
-/

import TypeSchema.Assembly.Pool
import TypeSchema.Clock.Delay

namespace TypeSchema

/-- The line that says that the type checker is not ready yet. -/
def noticeLine (path : String) : String := s!"{path}: Waiting for flow to be ready..."

/-- Waits until the type checker is ready: since when it is, and whether it is. -/
def waitForServer (tool : Tool) (settings : Settings) (path : String) (now : Instant)
    (session : Session) : Instant × Except RunError String × Session :=
  let notice : Delay String := .schedule now settings.statusNoticeDelay.span? (noticeLine path)
  let (ready, result, session) := Command.status.ask tool settings.policy now session
  (ready, result, (notice.wait (settledAt? ready result)).value?.toList.foldl Session.say session)

/-- The registry of a module whose exports are looked up. -/
def registryByPosition (tool : Tool) (settings : Settings) (files : FileTree) (path : String)
    (now : Instant) (session : Session) : Except AssemblyError Registry × Session :=
  match files.read (Path.ofText path) with
  | .error error => (.error (.file error), session)
  | .ok text =>
    let declarations := Declarations.ofSource path text.toList
    Pool.run (.ofTool tool settings.policy) settings.concurrency (settings.maxReexportDepth + 3)
      (declarations.exports.map (declarations.finding files settings.maxReexportDepth)) now session

/-- What an alias comes to that is taken as it stands. -/
def Declarations.listedFinding (declarations : Declarations) (declaration : AliasDeclaration) :
    Except AssemblyError Finding := do
  let source := declarations.rightSide declaration
  let type ← (TypeNode.ofText source (some declarations.path)
    (positionAt declarations.source declaration.sideStart)).mapError .text
  let resolved : ResolvedType := ⟨declarations.path, String.ofList source, type⟩
  let statement := String.ofList (declarations.statement declaration)
  resolved.finding declaration.name
    (if statement.isEmpty then exportStatement declaration.name resolved.source else statement)

/-- Takes findings down until one fails. -/
def recordListed : List (Except AssemblyError Finding) → Registry → Session →
    Except AssemblyError Registry × Session
  | [], registry, session => (.ok registry, session)
  | .error error :: _, _, session => (.error error, session)
  | .ok finding :: rest, registry, session =>
    let session := finding.line?.toList.foldl Session.say session
    match registry.record finding with
    | .error error => (.error (.duplicate error), session)
    | .ok registry => recordListed rest registry session

/-- The exported aliases of a module, in order. -/
def Declarations.exportedAliases (declarations : Declarations) : List AliasDeclaration :=
  declarations.exports.filterMap fun
    | .declared declaration => some declaration
    | .specifier _ => none

/-- The registry of a listing of a module. -/
def registryOfListing (path text : String) (session : Session) :
    Except AssemblyError Registry × Session :=
  let declarations := Declarations.ofSource path text.toList
  recordListed (declarations.exportedAliases.map declarations.listedFinding) .empty session

/-- The registry of a module that the type checker lists. -/
def registryByListing (tool : Tool) (settings : Settings) (path : String) (now : Instant)
    (session : Session) : Except AssemblyError Registry × Session :=
  match (Command.flowFiles path).ask tool settings.policy now session with
  | (_, .error error, session) => (.error (.run error), session)
  | (_, .ok text, session) => registryOfListing path text session

/-- A registry with entries. -/
def nonempty (path : String) (registry : Registry) : Except AssemblyError Registry :=
  if registry.size = 0 then .error (.noTypes path) else .ok registry

/-- The registry of a module by a type checker that is ready. -/
def registryOf (tool : Tool) (settings : Settings) (files : FileTree) (path : String)
    (now : Instant) (session : Session) : Except AssemblyError Registry × Session :=
  match Command.version.ask tool settings.policy now session with
  | (_, .error error, session) => (.error (.run error), session)
  | (now, .ok version, session) =>
    match hasReached version settings.minPositionQueryVersion with
    | .error error => (.error (.version error), session)
    | .ok true => registryByPosition tool settings files path now session
    | .ok false => registryByListing tool settings path now session

/-- The registry of a module, with what happened on the way. -/
def assemble (tool : Tool) (settings : Settings) (files : FileTree) (entry : Path) :
    Except AssemblyError Registry × Session :=
  let path := entry.text
  let session : Session := ({} : Session).say s!"Processing {path}..."
  match waitForServer tool settings path 0 session with
  | (_, .error error, session) => (.error (.run error), session)
  | (ready, .ok _, session) =>
    let (result, session) := registryOf tool settings files path ready session
    (result.bind (nonempty path), session)

end TypeSchema
