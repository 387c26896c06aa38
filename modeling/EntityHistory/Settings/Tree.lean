/-
Trees of settings.

Settings come from several sources, each of which gives some of them as a tree of groups. Trees are merged:
a later source replaces what an earlier one says, but two groups become one. The settings themselves are read
off the merged tree, and each has to be of its type.
-/
import EntityHistory.Named
import EntityHistory.Settings.Basic

namespace EntityHistory

/-- A tree of settings. -/
inductive SettingTree where
  | text (s : String)
  | integer (n : Int)
  /-- A number that is not whole, which no setting is. -/
  | real
  | flag (b : Bool)
  | list (items : List SettingTree)
  | group (members : List (String × SettingTree))
deriving Repr, Inhabited

namespace SettingTree

/-- A tree under a path of groups. -/
def nest : List String → SettingTree → SettingTree
  | [], t => t
  | name :: path, t => .group [(name, nest path t)]

mutual

/-- Two trees in one; the second one prevails, but two groups become one. -/
def merge : SettingTree → SettingTree → SettingTree
  | .group members, .group others => .group (mergeMembers members others)
  | _, t => t

/-- The members of two groups in one. -/
def mergeMembers (members : List (String × SettingTree)) :
    List (String × SettingTree) → List (String × SettingTree)
  | [] => members
  | (name, t) :: others =>
    let merged := match Named.get? members name with
      | some present => merge present t
      | none => t
    mergeMembers (Named.insert name merged members) others

end

def text? : SettingTree → Option String
  | .text s => some s
  | _ => none

def flag? : SettingTree → Option Bool
  | .flag b => some b
  | _ => none

/-- A whole number below a bound. -/
def below? (bound : Nat) : SettingTree → Option Nat
  | .integer n => if 0 ≤ n ∧ n < bound then some n.toNat else none
  | _ => none

def port? (t : SettingTree) : Option UInt16 := (t.below? UInt16.size).map UInt16.ofNat

def word? (t : SettingTree) : Option UInt32 := (t.below? UInt32.size).map UInt32.ofNat

def long? (t : SettingTree) : Option UInt64 := (t.below? UInt64.size).map UInt64.ofNat

/-- The members of a group by name. A list stands for a group with some of the given names in their order. -/
def members? (names : List String) : SettingTree → Option (String → Option SettingTree)
  | .group members => some (Named.get? members)
  | .list items => some fun name => (names.idxOf? name).bind fun i => items[i]?
  | _ => none

/-- Reads a member, or takes what stands for a missing one. -/
def member? {α : Type} (members : String → Option SettingTree) (name : String) (missing : α)
    (read : SettingTree → Option α) : Option α :=
  match members name with
  | none => some missing
  | some t => read t

end SettingTree

open SettingTree

/-- A backend, by its name or by its number. -/
def Backend.ofTree? : SettingTree → Option Backend
  | .text name => Backend.ofName? name
  | .integer 0 => some .postgres
  | .integer 1 => some .memory
  | _ => none

def DatabaseSettings.ofTree? (t : SettingTree) : Option DatabaseSettings := do
  let members ← t.members? ["backend", "url", "min_connections", "max_connections",
    "connect_timeout_secs", "idle_timeout_secs"]
  pure {
    backend := (← member? members "backend" .postgres Backend.ofTree?)
    url := (← member? members "url" "" text?)
    minConnections := (← member? members "min_connections" 0 SettingTree.word?)
    maxConnections := (← member? members "max_connections" 0 SettingTree.word?)
    connectTimeout := (← member? members "connect_timeout_secs" 0 long?)
    idleTimeout := (← member? members "idle_timeout_secs" 0 long?) }

def DatabaseSettings.tree (s : DatabaseSettings) : SettingTree :=
  .group (Named.ofList [("backend", .text s.backend.name), ("url", .text s.url),
    ("min_connections", .integer s.minConnections.toNat),
    ("max_connections", .integer s.maxConnections.toNat),
    ("connect_timeout_secs", .integer s.connectTimeout.toNat),
    ("idle_timeout_secs", .integer s.idleTimeout.toNat)])

def ServerSettings.ofTree? (t : SettingTree) : Option ServerSettings := do
  let members ← t.members? ["host", "port"]
  pure {
    host := (← member? members "host" "" text?)
    port := (← member? members "port" 0 port?) }

def ServerSettings.tree (s : ServerSettings) : SettingTree :=
  .group (Named.ofList [("host", .text s.host), ("port", .integer s.port.toNat)])

def ContextSettings.ofTree? (t : SettingTree) : Option ContextSettings := do
  let members ← t.members? ["core_context_url", "capacity", "ttl_secs", "fetch_timeout_ms"]
  pure {
    coreContextUrl := (← member? members "core_context_url" "" text?)
    capacity := (← member? members "capacity" 0 long?)
    lifetime := (← member? members "ttl_secs" 0 long?)
    fetchTimeout := (← member? members "fetch_timeout_ms" 0 long?) }

def ContextSettings.tree (s : ContextSettings) : SettingTree :=
  .group (Named.ofList [("core_context_url", .text s.coreContextUrl),
    ("capacity", .integer s.capacity.toNat), ("ttl_secs", .integer s.lifetime.toNat),
    ("fetch_timeout_ms", .integer s.fetchTimeout.toNat)])

def QuerySettings.ofTree? (t : SettingTree) : Option QuerySettings := do
  let members ← t.members? ["result_ceiling", "default_page_size", "max_page_size", "inclusive_bounds"]
  pure {
    resultCeiling := (← member? members "result_ceiling" 0 SettingTree.word?)
    defaultPageSize := (← member? members "default_page_size" 0 SettingTree.word?)
    maxPageSize := (← member? members "max_page_size" 0 SettingTree.word?)
    inclusiveBounds := (← member? members "inclusive_bounds" false flag?) }

def QuerySettings.tree (s : QuerySettings) : SettingTree :=
  .group (Named.ofList [("result_ceiling", .integer s.resultCeiling.toNat),
    ("default_page_size", .integer s.defaultPageSize.toNat),
    ("max_page_size", .integer s.maxPageSize.toNat), ("inclusive_bounds", .flag s.inclusiveBounds)])

def LoggingSettings.ofTree? (t : SettingTree) : Option LoggingSettings := do
  let members ← t.members? ["level", "structured"]
  pure {
    level := (← member? members "level" "" text?)
    structured := (← member? members "structured" false flag?) }

def LoggingSettings.tree (s : LoggingSettings) : SettingTree :=
  .group (Named.ofList [("level", .text s.level), ("structured", .flag s.structured)])

namespace Settings

/-- The settings that a tree holds; what is missing is as for development. -/
def ofTree? (t : SettingTree) : Option Settings := do
  let members ← t.members? ["database", "server", "context", "query", "logging", "app_name",
    "environment"]
  pure {
    database := (← member? members "database" development.database DatabaseSettings.ofTree?)
    server := (← member? members "server" development.server ServerSettings.ofTree?)
    context := (← member? members "context" development.context ContextSettings.ofTree?)
    query := (← member? members "query" development.query QuerySettings.ofTree?)
    logging := (← member? members "logging" development.logging LoggingSettings.ofTree?)
    appName := (← member? members "app_name" development.appName text?)
    environment := (← member? members "environment" development.environment text?) }

/-- The tree that holds the settings. -/
def tree (s : Settings) : SettingTree :=
  .group (Named.ofList [("database", s.database.tree), ("server", s.server.tree),
    ("context", s.context.tree), ("query", s.query.tree), ("logging", s.logging.tree),
    ("app_name", .text s.appName), ("environment", .text s.environment)])

end Settings

end EntityHistory
