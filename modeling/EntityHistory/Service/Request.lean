/-
Requests.

A request for histories comes as parameters, all of them optional texts or numbers. Reading them in the
context that they name gives a request that is ready: what to ask of the repository, and how to render what
is found. Nothing is asked of the repository before all of this has succeeded.
-/
import EntityHistory.Context.Cache
import EntityHistory.Entity.Temporal
import EntityHistory.Query.Geo
import EntityHistory.Query.Reader
import EntityHistory.Query.Temporal
import EntityHistory.Service.Reconstruction
import EntityHistory.Settings.Basic

namespace EntityHistory

/-- The parameters of a request. -/
structure Parameters where
  /-- The identifiers of entities, between commas. -/
  id : Option String := none
  idPattern : Option String := none
  /-- The names of types, between commas. -/
  type : Option String := none
  /-- The names of attributes, between commas. -/
  attrs : Option String := none
  q : Option String := none
  georel : Option String := none
  geometry : Option String := none
  coordinates : Option String := none
  geoproperty : Option String := none
  timerel : Option String := none
  timeproperty : Option String := none
  time : Option String := none
  endTime : Option String := none
  lastN : Option UInt32 := none
  /-- The names of options, between commas. -/
  options : Option String := none
  pageSize : Option UInt32 := none
  pageAnchor : Option String := none
  count : Bool := false
  /-- The address of the context that the names are taken from. -/
  link : Option String := none
deriving DecidableEq, Repr, Inhabited

/-- A computation on a state that may end in a failure; the state is kept in either case. -/
abbrev Serving (σ : Type) := ExceptT Failure (StateM σ)

/-- An action whose errors are reported. -/
instance {σ : Type} : MonadLift (Action σ) (Serving σ) := ⟨fun action => action.adapt .reported⟩

/-- How requests are read. -/
structure RequestReader where
  settings : QuerySettings
  /-- The address of the context that comes after that of a request. -/
  coreContext : String
  /-- How context documents are loaded. -/
  load : String → Except ContextFault Json

/-- A request for the history of some entities, ready to be put to a repository. -/
structure Request where
  what : ReconstructionRequest
  context : Context
  /-- The addresses of the context, for the answer. -/
  urls : List String
  options : RenderOptions
deriving Repr

namespace Parameters

/-- The items of a list between commas, without those that are blank. -/
def items (raw : Option String) : List String :=
  ((Text.pieces ',' (raw.getD "").toList).map Text.trim).filterMap fun item =>
    if item = [] then none else some (String.ofList item)

/-- The full names of the items of a list. -/
def expandItems (context : Context) (raw : Option String) : Except ExpansionFault (List String) :=
  (items raw).mapM context.expand

/-- The addresses of the contexts: that of the request first, the core context last. -/
def contextUrls (p : Parameters) (coreContext : String) : List String :=
  match p.link with
  | none => [coreContext]
  | some link => if link = "" ∨ link = coreContext then [coreContext] else [link, coreContext]

def timeQuery (p : Parameters) (settings : QuerySettings) : Except Error TimeQuery :=
  TimeQuery.ofTexts p.timerel p.time p.endTime p.timeproperty settings.inclusiveBounds

/-- The size of the page that is asked for. -/
def size (p : Parameters) (settings : QuerySettings) : Except QueryFault UInt32 :=
  let size := p.pageSize.getD settings.defaultPageSize
  if size = 0 ∨ settings.maxPageSize < size then throw (.pageSize settings.maxPageSize.toNat)
  else pure size

/-- The geographic query; its three main parameters come together or not at all. -/
def geoQuery (p : Parameters) (context : Context) : Except Error (Option GeoQuery) :=
  match p.georel, p.geometry, p.coordinates with
  | none, none, none => pure none
  | some georel, some geometry, some coordinates =>
    some <$> GeoQuery.ofTexts georel geometry coordinates p.geoproperty context
  | _, _, _ => throw (.invalidQuery .incompleteGeoQuery)

/-- The query, if any, read in a context. -/
def term [PatternEngine] (p : Parameters) (context : Context) : Outcome (Option QueryTerm) :=
  p.q.mapM (QueryTerm.ofText context)

/-- How the answer is to be rendered. -/
def renderOptions (p : Parameters) (time : TimeQuery) : RenderOptions where
  onlyValues := (items p.options).contains "temporalValues"
  systemTimes := (items p.options).contains "sysAttrs"
  property := time.property

end Parameters

namespace RequestReader

variable (r : RequestReader)

/-- Reads a request for a page of histories. -/
def query [PatternEngine] (p : Parameters) : Serving Cache (IntervalQuery × Request) := do
  let time ← p.timeQuery r.settings
  let size ← p.size r.settings
  let urls := p.contextUrls r.coreContext
  let context ← Cache.resolveAll r.load urls
  let term ← p.term context
  let geo ← p.geoQuery context
  if (term.isSome || geo.isSome) && time.isUnbounded then
    throw (.reported (.invalidTimeRelation .filterWithoutTime))
  let types ← Parameters.expandItems context p.type
  let filter : EntityFilter := { ids := Parameters.items p.id, idPattern := p.idPattern, types }
  discard filter.pattern
  let attributeIds ← Parameters.expandItems context p.attrs
  let page : PageRequest := { anchor := p.pageAnchor, size := size.toNat, count := p.count }
  pure ({ filter, time, plan := Plan.build term geo, page := some page },
    { what := { time, attributeIds, lastN := p.lastN }
      context
      urls
      options := p.renderOptions time })

/-- Reads a request for the history of one entity. -/
def retrieval (p : Parameters) : Serving Cache Request := do
  let time ← p.timeQuery r.settings
  let urls := p.contextUrls r.coreContext
  let context ← Cache.resolveAll r.load urls
  let attributeIds ← Parameters.expandItems context p.attrs
  pure {
    what := { time, attributeIds, lastN := p.lastN }
    context
    urls
    options := p.renderOptions time }

end RequestReader

end EntityHistory
