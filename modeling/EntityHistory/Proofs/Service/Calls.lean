/-
The calls that the service makes.

The service reads a request with the cache alone before it turns to the repository. To see what it asks of the
repository, each operation notes its call before it is carried out; apart from that the service runs as before.
A repository that does not refuse requests itself is then not called for a request that is refused. And what it
is asked for the intervals of a page has been validated: a plan comes with a bounded time, the page has a size
that the settings allow, and the pattern for identifiers can be read.

* `Repository.Mirrors.reconstruct`: histories are put together alike over repositories that mirror each other;
* `RequestReader.isValidated_of_query`: what a request for a page asks for when it has been read;
* `Service.validates_before_calling`: what is called, and when nothing is.
-/
import EntityHistory.Proofs.Service.OneEntity
import EntityHistory.Store.Database

namespace EntityHistory

variable {σ τ α : Type}

/-! ### Specification -/

/-- A request is refused: its time, its query or its pages are wrong, a name is not expanded or a context is not
available. -/
def Error.isRefusal : Error → Bool
  | .invalidTimeRelation _ => true
  | .invalidQuery _ => true
  | .expansionFailure _ => true
  | .contextUnavailable _ => true
  | _ => false

/-- A call of an operation of a repository. -/
inductive Call where
  | findIntervals (q : IntervalQuery)
  | entityRecords (entityId : String)
  | instances (q : InstanceQuery)
  | subInstances (parentIds : List String)
  | creationTimes (entityId attributeId : String)
  | mostAttributes (entityIds : List String)

/-- The question for intervals that a call asks. -/
def Call.query? : Call → Option IntervalQuery
  | .findIntervals q => some q
  | _ => none

lemma Call.eq_findIntervals {call : Call} {q : IntervalQuery} (h : call.query? = some q) :
    call = .findIntervals q := by
  cases call <;> cases h
  rfl

/-- An operation that notes its call before it is carried out. -/
def Action.noting (call : Call) (action : Action σ α) : Action (σ × List Call) α := ExceptT.mk fun state =>
  let (result, store) := action.run.run state.1
  (result, (store, state.2 ++ [call]))

/-- A repository that notes its calls. -/
def Repository.noting (r : Repository σ) : Repository (σ × List Call) where
  findIntervals q := Action.noting (.findIntervals q) (r.findIntervals q)
  entityRecords entityId := Action.noting (.entityRecords entityId) (r.entityRecords entityId)
  instances q := Action.noting (.instances q) (r.instances q)
  subInstances parentIds := Action.noting (.subInstances parentIds) (r.subInstances parentIds)
  creationTimes entityId attributeId :=
    Action.noting (.creationTimes entityId attributeId) (r.creationTimes entityId attributeId)
  mostAttributes entityIds := Action.noting (.mostAttributes entityIds) (r.mostAttributes entityIds)

/-- Before the first call. -/
def Held.noting (held : Held σ) : Held (σ × List Call) := ⟨held.cache, (held.store, [])⟩

namespace Service

/-- The service with a repository that notes its calls. -/
def noting (s : Service σ) : Service (σ × List Call) := { s with repository := s.repository.noting }

/-- The calls that a computation of the service makes, run from what is held. -/
def callsOf (x : Serving (Held (σ × List Call)) α) (held : Held σ) : List Call :=
  (x.run.run held.noting).2.store.2

/-- A computation whose calls are noted ends as the computation without notes, and leaves the same held. -/
structure RunsAs (noted : Serving (Held (σ × List Call)) α) (x : Serving (Held σ) α) (held : Held σ) : Prop where
  result_eq : (noted.run.run held.noting).1 = (x.run.run held).1
  cache_eq : (noted.run.run held.noting).2.cache = (x.run.run held).2.cache
  store_eq : (noted.run.run held.noting).2.store.1 = (x.run.run held).2.store

end Service

/-- An action does not fail by refusing a request. -/
def Action.NeverRefuses (action : Action σ α) : Prop :=
  ∀ store e, (action.run.run store).1 = .error e → e.isRefusal = false

/-- A repository does not refuse requests itself, as far as the patterns that it is given can be read. -/
structure Repository.NeverRefuses [PatternEngine] (r : Repository σ) : Prop where
  findIntervals : ∀ q pattern, q.filter.pattern = .ok pattern → Action.NeverRefuses (r.findIntervals q)
  entityRecords : ∀ entityId, Action.NeverRefuses (r.entityRecords entityId)
  instances : ∀ q, Action.NeverRefuses (r.instances q)
  subInstances : ∀ parentIds, Action.NeverRefuses (r.subInstances parentIds)
  creationTimes : ∀ entityId attributeId, Action.NeverRefuses (r.creationTimes entityId attributeId)
  mostAttributes : ∀ entityIds, Action.NeverRefuses (r.mostAttributes entityIds)

/-- A question for the intervals of a page can be put to a repository: with a plan the time is bounded, the page
has a size that is allowed, and the pattern can be read. -/
structure IntervalQuery.IsValidated [PatternEngine] (settings : QuerySettings) (q : IntervalQuery) : Prop where
  isUnbounded_eq : q.plan.isSome = true → q.time.isUnbounded = false
  page : ∃ page, q.page = some page ∧ 1 ≤ page.size ∧ page.size ≤ settings.maxPageSize.toNat
  pattern : ∃ pattern, q.filter.pattern = .ok pattern

/-! ### Repositories that mirror each other -/

/-- The operations of two repositories that histories are put together with mirror each other. -/
structure Repository.Mirrors (rel : σ → τ → Prop) (fails : Error → Prop) (r : Repository σ) (r' : Repository τ) :
    Prop where
  entityRecords : ∀ entityId, EntityHistory.Mirrors rel fails (r.entityRecords entityId) (r'.entityRecords entityId)
  instances : ∀ q, EntityHistory.Mirrors rel fails (r.instances q) (r'.instances q)
  subInstances : ∀ parentIds, EntityHistory.Mirrors rel fails (r.subInstances parentIds) (r'.subInstances parentIds)
  creationTimes : ∀ entityId attributeId,
    EntityHistory.Mirrors rel fails (r.creationTimes entityId attributeId) (r'.creationTimes entityId attributeId)
  mostAttributes : ∀ entityIds,
    EntityHistory.Mirrors rel fails (r.mostAttributes entityIds) (r'.mostAttributes entityIds)

namespace Repository.Mirrors

open Reconstruction

variable {rel : σ → τ → Prop} {fails : Error → Prop} {r : Repository σ} {r' : Repository τ}

/-- The same is remembered beside related stores. -/
structure Remembering (rel : σ → τ → Prop) (r : Resolver σ) (r' : Resolver τ) : Prop where
  known_eq : r.known = r'.known
  store : rel r.store r'.store

lemma onStore {action : Action σ α} {action' : Action τ α} (h : EntityHistory.Mirrors rel fails action action') :
    EntityHistory.Mirrors (Remembering rel) fails (Resolver.onStore action) (Resolver.onStore action') := by
  rintro ⟨known, store⟩ ⟨_, store'⟩ ⟨rfl, hstore⟩
  obtain ⟨hresult, hstore', hfails⟩ := h store store' hstore
  exact ⟨hresult, ⟨rfl, hstore'⟩, hfails⟩

lemma runFrom {action : Action (Resolver σ) α} {action' : Action (Resolver τ) α}
    (h : EntityHistory.Mirrors (Remembering rel) fails action action') (known : Creations) :
    EntityHistory.Mirrors rel fails (Resolver.runFrom known action) (Resolver.runFrom known action') := by
  intro store store' hstore
  obtain ⟨hresult, ⟨hknown, hstore'⟩, hfails⟩ := h ⟨known, store⟩ ⟨known, store'⟩ ⟨rfl, hstore⟩
  refine ⟨?_, hstore', fun e he => hfails e (eq_error_of_map_eq_error he)⟩
  exact congrArg₂ (fun result known => Except.map (·, known) result) hresult hknown

lemma resolve (h : r.Mirrors rel fails r') (entityId attributeId : String) (t : Instant) :
    EntityHistory.Mirrors (Remembering rel) fails (Resolver.resolve r entityId attributeId t)
      (Resolver.resolve r' entityId attributeId t) := by
  rintro ⟨known, store⟩ ⟨_, store'⟩ ⟨rfl, hstore⟩
  rw [Resolver.run_resolve, Resolver.run_resolve]
  cases known.lookup (entityId, attributeId) with
  | some creations => exact mirrors_pure (creationAt creations t) _ _ ⟨rfl, hstore⟩
  | none =>
    obtain ⟨hsame, hstore', hfails⟩ := h.creationTimes entityId attributeId store store' hstore
    generalize (r.creationTimes entityId attributeId).run.run store = left at hsame hstore'
    generalize (r'.creationTimes entityId attributeId).run.run store' = right at hsame hstore' hfails
    obtain ⟨result, store⟩ := left
    obtain ⟨result', store'⟩ := right
    obtain rfl : result = result' := hsame
    cases result with
    | error e => exact mirrors_throw (hfails e rfl) _ _ ⟨rfl, hstore'⟩
    | ok creations => exact mirrors_pure (creationAt creations t) _ _ ⟨rfl, hstore'⟩

lemma ofInstances (h : r.Mirrors rel fails r') (attributeId : String) (subs : List SubInstance)
    (instances : List AttributeInstance) :
    EntityHistory.Mirrors (Remembering rel) fails (Reconstruction.ofInstances r attributeId subs instances)
      (Reconstruction.ofInstances r' attributeId subs instances) := by
  induction instances with
  | nil => exact mirrors_pure _
  | cons i rest ih =>
    exact (h.resolve i.entityId attributeId i.writtenAt).bind fun _ => ih.bind fun _ => mirrors_pure _

lemma ofAttributes (h : r.Mirrors rel fails r') (subs : List SubInstance)
    (groups : List (String × List AttributeInstance)) :
    EntityHistory.Mirrors (Remembering rel) fails (Reconstruction.ofAttributes r subs groups)
      (Reconstruction.ofAttributes r' subs groups) := by
  induction groups with
  | nil => exact mirrors_pure _
  | cons group rest ih =>
    exact (h.ofInstances group.1 subs group.2).bind fun _ => ih.bind fun _ => mirrors_pure _

lemma recordsOf (h : r.Mirrors rel fails r') (p : Progress) (entityId : String) :
    EntityHistory.Mirrors rel fails (Reconstruction.recordsOf r p entityId)
      (Reconstruction.recordsOf r' p entityId) := by
  rw [Reconstruction.recordsOf, Reconstruction.recordsOf]
  cases Named.get? p.records entityId with
  | some records => exact mirrors_pure _
  | none => exact (h.entityRecords entityId).bind fun _ => mirrors_pure _

lemma addInterval (h : r.Mirrors rel fails r') (now : Instant) (request : ReconstructionRequest)
    (budget : InstanceBudget) (p : Progress) (interval : EntityInterval) :
    EntityHistory.Mirrors (Remembering rel) fails (Reconstruction.addInterval r now request budget p interval)
      (Reconstruction.addInterval r' now request budget p interval) := by
  refine (onStore (h.instances _)).bind fun fetched =>
    Mirrors.ite ((mirrors_pure _).bind ?rest) ((onStore (h.subInstances _)).bind ?rest)
  exact fun subs => (onStore (h.recordsOf p interval.entityId)).bind fun found =>
    (h.ofAttributes subs _).bind fun _ => mirrors_pure _

/-- Over repositories that mirror each other histories are put together alike. -/
lemma reconstruct (h : r.Mirrors rel fails r') (ceiling : UInt32) (now : Instant) (intervals : List EntityInterval)
    (request : ReconstructionRequest) :
    EntityHistory.Mirrors rel fails (EntityHistory.reconstruct r ceiling now intervals request)
      (EntityHistory.reconstruct r' ceiling now intervals request) := by
  refine Mirrors.ite (mirrors_pure _) (Mirrors.ite ((h.mostAttributes _).bind ?rest) ((mirrors_pure _).bind ?rest))
  exact fun attributes =>
    (runFrom (EntityHistory.Mirrors.foldlM (h.addInterval now request _) _ intervals) []).bind fun _ => mirrors_pure _

end Repository.Mirrors

/-! ### Repositories that do not refuse -/

section NeverRefusing

variable {action : Action σ α}

/-- An action that does not refuse mirrors itself. -/
lemma neverRefuses_iff : action.NeverRefuses ↔ Mirrors Eq (fun e => e.isRefusal = false) action action := by
  constructor
  · rintro h store _ rfl
    exact ⟨rfl, rfl, h store⟩
  · intro h store
    exact (h store store rfl).2.2

lemma neverRefuses_pure (a : α) : Action.NeverRefuses (pure a : Action σ α) := by
  intro store e he
  cases he

lemma Action.NeverRefuses.bind {β : Type} {f : α → Action σ β} (h : action.NeverRefuses)
    (hf : ∀ a, (f a).NeverRefuses) : Action.NeverRefuses (action >>= f) :=
  neverRefuses_iff.2 ((neverRefuses_iff.1 h).bind fun a => neverRefuses_iff.1 (hf a))

/-- The log in memory only refuses patterns that cannot be read. -/
lemma Log.neverRefuses [PatternEngine] : Log.repository.NeverRefuses where
  findIntervals q pattern hpattern log e he := by
    obtain ⟨page, hpage⟩ : ∃ page, log.findIntervals q = .ok page := by
      rw [findIntervals, candidates, hpattern]
      cases q.page with
      | none => exact ⟨_, rfl⟩
      | some page => exact ⟨_, rfl⟩
    rw [gives_findIntervals hpage] at he
    cases he
  entityRecords _ _ _ he := by cases he
  instances _ _ _ he := by cases he
  subInstances _ _ _ he := by cases he
  creationTimes _ _ _ _ he := by cases he
  mostAttributes _ _ _ he := by cases he

namespace Database

variable {run : Sql.Statement → Action σ (List Row)}

lemma neverRefuses_reading (r : Except RecordFault α) : Action.NeverRefuses (reading r : Action σ α) := by
  intro store e he
  cases r with
  | ok a => cases he
  | error fault =>
    obtain rfl : Error.unreadableRecord fault = e := Except.error.inj he
    rfl

/-- The repository on a database refuses nothing, if the database does not. -/
lemma neverRefuses [PatternEngine] (h : ∀ statement, (run statement).NeverRefuses) : (repository run).NeverRefuses where
  findIntervals q _ _ := by
    have hanchor : ∀ statement, (findAnchor run statement).NeverRefuses
      | none => neverRefuses_pure none
      | some statement => (h statement).bind fun _ => neverRefuses_reading _
    have hcount : ∀ statement, (findCount run statement).NeverRefuses
      | none => neverRefuses_pure none
      | some statement => (h statement).bind fun _ => (neverRefuses_reading _).bind fun _ => neverRefuses_pure _
    exact (h _).bind fun _ => (neverRefuses_reading _).bind fun _ => (hanchor _).bind fun _ =>
      (hanchor _).bind fun _ => (hcount _).bind fun _ => neverRefuses_pure _
  entityRecords _ := (h _).bind fun _ => neverRefuses_reading _
  instances _ := (h _).bind fun _ => neverRefuses_reading _
  subInstances parentIds := by
    change Action.NeverRefuses (if parentIds = [] then _ else _)
    split
    · exact neverRefuses_pure []
    · exact (h _).bind fun _ => neverRefuses_reading _
  creationTimes _ _ := (h _).bind fun _ => neverRefuses_reading _
  mostAttributes entityIds := by
    change Action.NeverRefuses (if entityIds = [] then _ else _)
    split
    · exact neverRefuses_pure 0
    · exact (h _).bind fun _ => (neverRefuses_reading _).bind fun _ => neverRefuses_pure _

end Database

end NeverRefusing

/-! ### Noting calls -/

/-- The notes of the calls apart, what is held is the same, and the calls are acceptable. -/
structure Held.Notes (accepted : Call → Prop) (noted : Held (σ × List Call)) (held : Held σ) : Prop where
  cache_eq : noted.cache = held.cache
  store_eq : noted.store.1 = held.store
  accepted : ∀ call ∈ noted.store.2, accepted call

/-- The same of a store. -/
def NotesStore (accepted : Call → Prop) (noted : σ × List Call) (store : σ) : Prop :=
  noted.1 = store ∧ ∀ call ∈ noted.2, accepted call

section Noting

variable {accepted : Call → Prop} {call : Call} {action : Action σ α} {r : Repository σ}

lemma mirrors_noting (hcall : accepted call) (h : action.NeverRefuses) :
    Mirrors (NotesStore accepted) (fun e => e.isRefusal = false) (Action.noting call action) action := by
  rintro ⟨store, calls⟩ _ ⟨rfl, haccepted⟩
  refine ⟨rfl, ⟨rfl, fun call' hcall' => ?_⟩, h store⟩
  rcases List.mem_append.1 hcall' with hcall' | hcall'
  · exact haccepted call' hcall'
  · rwa [List.mem_singleton.1 hcall']

/-- Putting histories together, a repository that notes its calls mirrors the one without notes. -/
lemma Repository.mirrors_noting [PatternEngine] (h : r.NeverRefuses)
    (haccepted : ∀ call : Call, call.query? = none → accepted call) :
    r.noting.Mirrors (NotesStore accepted) (fun e => e.isRefusal = false) r where
  entityRecords _ := EntityHistory.mirrors_noting (haccepted _ rfl) (h.entityRecords _)
  instances _ := EntityHistory.mirrors_noting (haccepted _ rfl) (h.instances _)
  subInstances _ := EntityHistory.mirrors_noting (haccepted _ rfl) (h.subInstances _)
  creationTimes _ _ := EntityHistory.mirrors_noting (haccepted _ rfl) (h.creationTimes _ _)
  mostAttributes _ := EntityHistory.mirrors_noting (haccepted _ rfl) (h.mostAttributes _)

/-- A failure that is no refusal. -/
def Failure.IsNoRefusal (failure : Failure) : Prop := ∀ e, failure = .reported e → e.isRefusal = false

/-- What mirrors on the stores does so on what the service holds. -/
lemma Mirrors.onStore {noted : Action (σ × List Call) α}
    (h : Mirrors (NotesStore accepted) (fun e => e.isRefusal = false) noted action) :
    Mirrors (Held.Notes accepted) Failure.IsNoRefusal (Held.onStore noted) (Held.onStore action) := by
  rintro ⟨cache, store'⟩ ⟨_, store⟩ ⟨rfl, hstore, haccepted⟩
  obtain ⟨hresult, ⟨hstore', haccepted'⟩, hfails⟩ := h store' store ⟨hstore, haccepted⟩
  refine ⟨congrArg (Except.mapError Failure.reported) hresult, ⟨rfl, hstore', haccepted'⟩, ?_⟩
  rintro _ hfailure e rfl
  have hmap : (action.run.run store).1.mapError Failure.reported = .error (.reported e) := hfailure
  cases hrun : (action.run.run store).1 with
  | ok a =>
    rw [hrun] at hmap
    cases hmap
  | error e' =>
    rw [hrun] at hmap
    obtain rfl : e' = e := Failure.reported.inj (Except.error.inj hmap)
    exact hfails e' hrun

end Noting

/-! ### Requests that have been read -/

namespace RequestReader

variable {r : RequestReader} {p : Parameters} {q : IntervalQuery} {request : Request} {cache : Cache}

lemma eq_ok_of_run_liftM {x : Except QueryFault α} {a : α} {cache' : Cache}
    (h : (liftM x : Serving Cache α).run.run cache = (.ok a, cache')) : x = .ok a := by
  cases x with
  | error fault => cases h
  | ok a' => exact congrArg Except.ok (Except.ok.inj (Prod.ext_iff.1 h).1)

lemma exists_of_run_discard {x : Except QueryFault α} {u : PUnit} {cache' : Cache}
    (h : (discard (liftM x : Serving Cache α)).run.run cache = (.ok u, cache')) : ∃ a, x = .ok a := by
  cases x with
  | error fault => cases h
  | ok a => exact ⟨a, rfl⟩

/-- The size of a page is one that the settings allow. -/
lemma toNat_of_size {settings : QuerySettings} {size : UInt32} (h : p.size settings = .ok size) :
    1 ≤ size.toNat ∧ size.toNat ≤ settings.maxPageSize.toNat := by
  rw [Parameters.size] at h
  split at h
  case isTrue => cases h
  case isFalse hnot =>
    obtain ⟨hzero, hmost⟩ := not_or.1 hnot
    obtain rfl := Except.ok.inj h
    refine ⟨Nat.one_le_iff_ne_zero.2 fun hnat => hzero (UInt32.toNat_inj.1 hnat), ?_⟩
    exact UInt32.le_iff_toNat_le.1 (UInt32.not_lt.1 hmost)

/-- There is a plan only for a query or a geographic query. -/
lemma isSome_of_build {term : Option QueryTerm} {geo : Option GeoQuery} (h : (Plan.build term geo).isSome = true) :
    (term.isSome || geo.isSome) = true := by
  cases term with
  | none =>
    cases geo with
    | none => cases h
    | some g => rfl
  | some t => rfl

/-- What a request for a page asks for when it has been read is validated. -/
lemma isValidated_of_query [PatternEngine] (h : ((r.query p).run.run cache).1 = .ok (q, request)) :
    q.IsValidated r.settings := by
  rw [query] at h
  obtain ⟨time, cache, -, h⟩ := exists_of_run_bind h
  obtain ⟨size, cache, hsize, h⟩ := exists_of_run_bind h
  obtain ⟨context, cache, -, h⟩ := exists_of_run_bind h
  obtain ⟨term, cache, -, h⟩ := exists_of_run_bind h
  obtain ⟨geo, cache, -, h⟩ := exists_of_run_bind h
  dsimp only at h
  split at h
  case isTrue =>
    obtain ⟨_, _, hthrow, -⟩ := exists_of_run_bind h
    cases hthrow
  case isFalse hbounded =>
    obtain ⟨types, cache, -, h⟩ := exists_of_run_bind h
    obtain ⟨_, cache, hpattern, h⟩ := exists_of_run_bind h
    obtain ⟨attributeIds, cache, -, h⟩ := exists_of_run_bind h
    obtain ⟨rfl, -⟩ := Prod.mk.inj (Except.ok.inj h)
    refine ⟨fun hplan => ?_, ⟨_, rfl, toNat_of_size (eq_ok_of_run_liftM hsize)⟩, exists_of_run_discard hpattern⟩
    rw [isSome_of_build hplan, Bool.true_and] at hbounded
    exact Bool.eq_false_of_not_eq_true hbounded

end RequestReader

/-! ### The service -/

namespace Service

variable {β : Type} {accepted : Call → Prop} {read : Serving Cache β} {s : Service σ}

/-- A computation whose calls are noted runs as without notes, has not called anything if it ends with a refusal,
and only makes acceptable calls. -/
structure ValidatesFirst (accepted : Call → Prop) (noted : Serving (Held (σ × List Call)) α)
    (x : Serving (Held σ) α) (held : Held σ) : Prop where
  runsAs : RunsAs noted x held
  callsOf_eq_nil : ∀ e, e.isRefusal = true → (x.run.run held).1 = .error (.reported e) → callsOf noted held = []
  accepted : ∀ call ∈ callsOf noted held, accepted call

/-- What reads first, and then does not refuse and only makes acceptable calls, validates first. -/
lemma validatesFirst_bind {noted : β → Serving (Held (σ × List Call)) α} {x : β → Serving (Held σ) α}
    (h : ∀ cache b, (read.run.run cache).1 = .ok b →
      Mirrors (Held.Notes accepted) Failure.IsNoRefusal (noted b) (x b)) (held : Held σ) :
    ValidatesFirst accepted (Held.onCache read >>= noted) (Held.onCache read >>= x) held := by
  have hx : (Held.onCache read).run.run held =
      ((read.run.run held.cache).1, { held with cache := (read.run.run held.cache).2 }) := rfl
  have hnoted : (Held.onCache read).run.run held.noting =
      ((read.run.run held.cache).1, { held.noting with cache := (read.run.run held.cache).2 }) := rfl
  have hread := h held.cache
  generalize read.run.run held.cache = readResult at hx hnoted hread
  obtain ⟨result, cache⟩ := readResult
  cases result with
  | error failure =>
    -- nothing has been called
    have hplain : (Held.onCache read >>= x).run.run held = (.error failure, { held with cache }) := by
      rw [run_bind, hx]
    have hcalls : (Held.onCache read >>= noted).run.run held.noting =
        (.error failure, { held.noting with cache }) := by
      rw [run_bind, hnoted]
    refine ⟨⟨?_, ?_, ?_⟩, fun _ _ _ => ?_, ?_⟩
    · rw [hplain, hcalls]
    · rw [hplain, hcalls]
    · rw [hplain, hcalls]
      rfl
    · rw [callsOf, hcalls]
      rfl
    · rw [callsOf, hcalls]
      exact List.forall_mem_nil accepted
  | ok b =>
    have hplain : (Held.onCache read >>= x).run.run held = (x b).run.run { held with cache } := by
      rw [run_bind, hx]
    have hcalls : (Held.onCache read >>= noted).run.run held.noting =
        (noted b).run.run { held.noting with cache } := by
      rw [run_bind, hnoted]
    have hnotes : Held.Notes accepted { held.noting with cache } { held with cache } :=
      ⟨rfl, rfl, List.forall_mem_nil accepted⟩
    obtain ⟨hresult, ⟨hcache, hstore, haccepted⟩, hfails⟩ := hread b rfl _ _ hnotes
    refine ⟨⟨?_, ?_, ?_⟩, fun e hrefusal he => ?_, ?_⟩
    · rw [hplain, hcalls, hresult]
    · rw [hplain, hcalls, hcache]
    · rw [hplain, hcalls, hstore]
    · rw [hplain] at he
      rw [hfails _ he e rfl] at hrefusal
      cases hrefusal
    · rw [callsOf, hcalls]
      exact haccepted

/-- A call asks for intervals only with a question that is validated. -/
def Validated [PatternEngine] (settings : QuerySettings) (call : Call) : Prop :=
  ∀ q ∈ call.query?, q.IsValidated settings

lemma mirrors_reconstruct [PatternEngine] {accepted : Call → Prop} (h : s.repository.NeverRefuses)
    (haccepted : ∀ call : Call, call.query? = none → accepted call) (now : Instant)
    (intervals : List EntityInterval) (request : Request) :
    Mirrors (NotesStore accepted) (fun e => e.isRefusal = false) (s.noting.reconstruct now intervals request)
      (s.reconstruct now intervals request) :=
  (Repository.mirrors_noting h haccepted).reconstruct _ now intervals request.what

lemma validatesFirst_entities [PatternEngine] (h : s.repository.NeverRefuses) (now : Instant) (p : Parameters)
    (held : Held σ) :
    ValidatesFirst (Validated s.settings) (s.noting.entities now p) (s.entities now p) held := by
  refine validatesFirst_bind (fun cache b hread => ?_) held
  obtain ⟨q, request⟩ := b
  have hq : q.IsValidated s.settings := RequestReader.isValidated_of_query hread
  obtain ⟨pattern, hpattern⟩ := hq.pattern
  have hcall : Validated s.settings (.findIntervals q) := fun q' hq' => Option.some.inj hq' ▸ hq
  have hfind := (mirrors_noting hcall (h.findIntervals q pattern hpattern)).onStore
  refine hfind.bind fun page => ?_
  have haccepted : ∀ call : Call, call.query? = none → Validated s.settings call := fun call hnone q' hq' => by
    rw [hnone] at hq'
    cases hq'
  exact (mirrors_reconstruct h haccepted now page.intervals request).onStore.bind fun _ => mirrors_pure _

lemma isNoRefusal_notFound (cause : Missing) : Failure.IsNoRefusal (.reported (.notFound cause)) :=
  fun _ he => Failure.reported.inj he ▸ rfl

lemma validatesFirst_entity [PatternEngine] (h : s.repository.NeverRefuses) (now : Instant) (id : String)
    (p : Parameters) (held : Held σ) :
    ValidatesFirst (fun _ => True) (s.noting.entity now id p) (s.entity now id p) held := by
  refine validatesFirst_bind (fun cache request _ => ?_) held
  refine (mirrors_noting trivial (h.entityRecords id)).onStore.bind fun records => ?_
  refine Mirrors.ite ((mirrors_throw (isNoRefusal_notFound _)).bind ?rest) (?rest ())
  -- whether or not there is an error before, this is what follows
  intro _
  let q := wholeWindow id request.what.time
  have hfind : Mirrors (NotesStore fun _ => True) (fun e => e.isRefusal = false)
      (s.noting.repository.findIntervals q) (s.repository.findIntervals q) :=
    mirrors_noting trivial (h.findIntervals q none rfl)
  refine hfind.onStore.bind fun page => ?_
  refine (mirrors_reconstruct h (fun _ _ => trivial) now page.intervals request).onStore.bind fun found => ?_
  cases found.entities.find? fun e => e.id = id && 0 < e.instanceCount with
  | none => exact mirrors_throw (isNoRefusal_notFound _)
  | some e => exact mirrors_pure _

/-- **Requests are validated before anything is called.**  Whatever is held and whatever is asked for, over a
repository that does not refuse requests itself: noting the calls changes nothing; if a request for a page or for
the history of an entity is refused, no operation of the repository has been called; and for a page it has only
been asked for intervals with a question that is validated. -/
theorem validates_before_calling [PatternEngine] (s : Service σ) (h : s.repository.NeverRefuses) (now : Instant)
    (held : Held σ) (id : String) (p : Parameters) :
    RunsAs (s.noting.entities now p) (s.entities now p) held ∧
      RunsAs (s.noting.entity now id p) (s.entity now id p) held ∧
      (∀ e, e.isRefusal = true → ((s.entities now p).run.run held).1 = .error (.reported e) →
        callsOf (s.noting.entities now p) held = []) ∧
      (∀ e, e.isRefusal = true → ((s.entity now id p).run.run held).1 = .error (.reported e) →
        callsOf (s.noting.entity now id p) held = []) ∧
      ∀ q, .findIntervals q ∈ callsOf (s.noting.entities now p) held → q.IsValidated s.settings := by
  have hentities := validatesFirst_entities h now p held
  have hentity := validatesFirst_entity h now id p held
  exact ⟨hentities.runsAs, hentity.runsAs, hentities.callsOf_eq_nil, hentity.callsOf_eq_nil,
    fun q hq => hentities.accepted _ hq q rfl⟩

theorem validates_before_calling_unknownAttribute :
    let s := overLog emptyCore
    let held : Held Log := ⟨.empty 1 none, oneObservation⟩
    let refused : Parameters := { attrs := some "speed" }
    let filtered : Parameters :=
      { q := some "urn:speed==7", timerel := some "before", time := some "2020-01-01T00:00:00Z" }
    s.repository.NeverRefuses ∧
      ((s.entities (.ofSecond 9) refused).run.run held).1 =
        .error (.reported (.expansionFailure (.unknownName "speed"))) ∧
      callsOf (s.noting.entities (.ofSecond 9) refused) held = [] ∧
      callsOf (s.noting.entity (.ofSecond 9) "urn:a" refused) held = [] ∧
      ∃ q, .findIntervals q ∈ callsOf (s.noting.entities (.ofSecond 9) filtered) held ∧ q.plan.isSome = true ∧
        q.IsValidated emptyCore.settings := by
  intro s held refused filtered
  have h : s.repository.NeverRefuses := Log.neverRefuses
  obtain ⟨-, -, hentities, hentity, -⟩ := validates_before_calling s h (.ofSecond 9) held "urn:a" refused
  obtain ⟨-, -, -, -, hvalidated⟩ := validates_before_calling s h (.ofSecond 9) held "urn:a" filtered
  have hrefused : ((s.entities (.ofSecond 9) refused).run.run held).1 =
      .error (.reported (.expansionFailure (.unknownName "speed"))) :=
    eq_error_of_map_eq_error (f := fun _ => ()) (by decide +kernel)
  have hrefused' : ((s.entity (.ofSecond 9) "urn:a" refused).run.run held).1 =
      .error (.reported (.expansionFailure (.unknownName "speed"))) :=
    eq_error_of_map_eq_error (f := fun _ => ()) (by decide +kernel)
  have hcalled : ((callsOf (s.noting.entities (.ofSecond 9) filtered) held).any fun call =>
      call.query?.any fun q => q.plan.isSome) = true := by decide +kernel
  obtain ⟨call, hcall, hquery⟩ := List.any_eq_true.1 hcalled
  obtain ⟨q, hq, hplan⟩ := (Option.any_eq_true _ _).1 hquery
  obtain rfl := Call.eq_findIntervals hq
  exact ⟨h, hrefused, hentities _ rfl hrefused, hentity _ rfl hrefused', q, hcall, hplan, hvalidated q hcall⟩

end Service

end EntityHistory
