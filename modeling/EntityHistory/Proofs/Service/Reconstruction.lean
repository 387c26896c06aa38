/-
Reconstructing entities from the log in memory.

Over the log in memory a reconstruction always succeeds. Each interval gives a part of its entity, which has
under each attribute the first instances of the interval, up to the budget, each with the creation time that
the log has for it. What is remembered along the way always agrees with the log, so the parts do not depend
on each other; they are gathered under their entities, and the instances are put in order.

* `Reconstruction.gives_reconstruct`: what a reconstruction gives;
* `Reconstruction.listAt_part`: the instances that an interval gives for an attribute;
* `Reconstruction.listAt_histories`: the instances of an attribute in the result.
-/
import EntityHistory.Proofs.Entity.Creation
import EntityHistory.Proofs.Entity.Temporal
import EntityHistory.Proofs.Store.Memory
import EntityHistory.Service.Reconstruction

namespace EntityHistory

/-- A look-up finds the creation times remembered, or loads and remembers them, or fails and remembers nothing. -/
lemma Resolver.run_resolve {σ : Type} (repository : Repository σ) (entityId attributeId : String) (t : Instant)
    (known : Creations) (store : σ) :
    (resolve repository entityId attributeId t).run.run ⟨known, store⟩ =
      (match known.lookup (entityId, attributeId) with
      | some creations => (.ok (creationAt creations t), ⟨known, store⟩)
      | none =>
        match (repository.creationTimes entityId attributeId).run.run store with
        | (.ok creations, store) =>
          (.ok (creationAt creations t), ⟨((entityId, attributeId), creations) :: known, store⟩)
        | (.error e, store) => (.error e, ⟨known, store⟩)) := by
  have hget {α : Type} (f : Resolver σ → Action (Resolver σ) α) :
      (get >>= f).run.run ⟨known, store⟩ = (f ⟨known, store⟩).run.run ⟨known, store⟩ := rfl
  rw [resolve, hget]
  cases known.lookup (entityId, attributeId) with
  | some creations => rfl
  | none =>
    have hload : (onStore (repository.creationTimes entityId attributeId)).run.run ⟨known, store⟩ =
        (((repository.creationTimes entityId attributeId).run.run store).1,
          ⟨known, ((repository.creationTimes entityId attributeId).run.run store).2⟩) := rfl
    dsimp only
    rw [run_bind, hload]
    rcases (repository.creationTimes entityId attributeId).run.run store with ⟨_ | creations, store⟩ <;> rfl

namespace Reconstruction

open Named TemporalEntity

variable {log : Log} {now : Instant} {request : ReconstructionRequest} {budget : InstanceBudget}
  {interval : EntityInterval} {intervals : List EntityInterval} {p : Progress}

/-! ### The part of an interval -/

/-- The question for the instances of an interval. -/
def instanceQuery (request : ReconstructionRequest) (budget : InstanceBudget) (interval : EntityInterval) :
    InstanceQuery where
  interval := interval
  time := request.time
  attributeIds := request.attributeIds
  limit := budget.fetchLimit
  order := if request.lastN.isSome then .descending else .ascending

/-- The instances that are fetched for an interval. -/
def fetched (log : Log) (request : ReconstructionRequest) (budget : InstanceBudget)
    (interval : EntityInterval) : Named (List AttributeInstance) :=
  group (·.attributeId) (log.findInstances (instanceQuery request budget interval))

/-- The fetched instances within the budget. -/
def kept (log : Log) (request : ReconstructionRequest) (budget : InstanceBudget)
    (interval : EntityInterval) : Named (List AttributeInstance) :=
  mapValues (fun instances => instances.take budget.perAttribute) (fetched log request budget interval)

/-- The sub-instances of instances that are marked to have some. -/
def subsOf (log : Log) (instances : Named (List AttributeInstance)) : List SubInstance :=
  log.findSubInstances (((instances.flatMap (·.2)).filter (·.hasSubAttributes)).map (·.id))

/-- An instance of the log as part of a history. -/
def rebuilt (log : Log) (subs : List SubInstance) (attributeId : String) (i : AttributeInstance) :
    TemporalInstance :=
  ofInstance i (creationAt (creationTimesIn log.instances i.entityId attributeId) i.writtenAt) subs

/-- The instances of some attributes as parts of a history. -/
def rebuiltAll (log : Log) (instances : Named (List AttributeInstance)) : Named (List TemporalInstance) :=
  instances.map fun entry => (entry.1, entry.2.map (rebuilt log (subsOf log instances) entry.1))

/-- The part of its entity that an interval gives. -/
def part (log : Log) (now : Instant) (request : ReconstructionRequest) (budget : InstanceBudget)
    (interval : EntityInterval) : TemporalEntity :=
  { shell now (log.entityRecords interval.entityId) interval with
    attributes := rebuiltAll log (kept log request budget interval) }

/-- More instances of an attribute are fetched for an interval than the budget allows. -/
def exceeds (log : Log) (request : ReconstructionRequest) (budget : InstanceBudget)
    (interval : EntityInterval) : Bool :=
  (fetched log request budget interval).any fun entry => budget.isExceededBy entry.2.length

/-! ### What is remembered -/

/-- The creation times that are remembered are those of the log, and the log is kept. -/
structure Remembers (log : Log) (r : Resolver Log) : Prop where
  creations : ∀ entityId attributeId creations, r.known.lookup (entityId, attributeId) = some creations →
    creations = creationTimesIn log.instances entityId attributeId
  store : r.store = log

/-- The records that are remembered are those of the log. -/
structure Agrees (log : Log) (p : Progress) : Prop where
  sorted : Sorted p.records
  records : ∀ entityId records, get? p.records entityId = some records →
    records = log.entityRecords entityId

/-- What is remembered does not matter to an action of the log, nor does the action matter to it. -/
lemma ends_onStore {α : Type} {action : Action Log α} {a : α} (h : Gives action log a log) :
    Ends (Remembers log) (Resolver.onStore action) (pure a) := by
  rintro r ⟨hcreations, rfl⟩
  have hrun : (Resolver.onStore action).run.run r =
      ((action.run.run r.store).1, { r with store := (action.run.run r.store).2 }) := rfl
  rw [hrun, h]
  exact ⟨rfl, hcreations, rfl⟩

lemma exists_gives_runFrom {α : Type} {action : Action (Resolver Log) α} {a : α}
    (h : Ends (Remembers log) action (pure a)) : ∃ known, Gives (Resolver.runFrom [] action) log (a, known) log := by
  obtain ⟨hresult, -, hstore⟩ := h { store := log } ⟨by simp, rfl⟩
  exact ⟨_, Prod.ext (congrArg (Except.map _) hresult) hstore⟩

section Engine

variable [PatternEngine]

lemma ends_resolve (log : Log) (entityId attributeId : String) (t : Instant) :
    Ends (Remembers log) (Resolver.resolve Log.repository entityId attributeId t)
      (pure (creationAt (creationTimesIn log.instances entityId attributeId) t)) := by
  rintro ⟨known, store⟩ ⟨h, hstore⟩
  obtain rfl : store = log := hstore
  rw [Resolver.run_resolve]
  cases hlookup : known.lookup (entityId, attributeId) with
  | some creations =>
    rw [← h entityId attributeId creations hlookup]
    exact ⟨rfl, h, rfl⟩
  | none =>
    dsimp only
    rw [Log.gives_creationTimes entityId attributeId store]
    -- the answer of the log is remembered under the names that were asked for
    refine ⟨rfl, fun e a creations hlookup => ?_, rfl⟩
    rw [List.lookup_cons] at hlookup
    split at hlookup
    · rename_i heq
      obtain ⟨rfl, rfl⟩ : e = entityId ∧ a = attributeId := by simpa using heq
      exact (Option.some.inj hlookup).symm
    · exact h e a creations hlookup

lemma ends_ofInstances (log : Log) (attributeId : String) (subs : List SubInstance)
    (instances : List AttributeInstance) :
    Ends (Remembers log) (ofInstances Log.repository attributeId subs instances)
      (pure (instances.map (rebuilt log subs attributeId))) := by
  induction instances with
  | nil => exact ends_pure []
  | cons i rest ih =>
    exact (ends_resolve log i.entityId attributeId i.writtenAt).pure_bind (ih.pure_bind (ends_pure _))

lemma ends_ofAttributes (log : Log) (subs : List SubInstance) (instances : Named (List AttributeInstance)) :
    Ends (Remembers log) (ofAttributes Log.repository subs instances)
      (pure (instances.map fun entry => (entry.1, entry.2.map (rebuilt log subs entry.1)))) := by
  induction instances with
  | nil => exact ends_pure []
  | cons entry rest ih =>
    exact (ends_ofInstances log entry.1 subs entry.2).pure_bind (ih.pure_bind (ends_pure _))

lemma gives_recordsOf (h : Agrees log p) (entityId : String) :
    ∃ records, Gives (recordsOf Log.repository p entityId) log
      (log.entityRecords entityId, { p with records }) log ∧ Agrees log { p with records } := by
  rw [recordsOf]
  split
  · rename_i records hget
    rw [h.records entityId records hget]
    exact ⟨p.records, gives_pure _ log, h⟩
  · refine ⟨_, (Log.gives_entityRecords entityId log).bind (gives_pure _ log), h.sorted.insert, ?_⟩
    intro e records hget
    rw [get?_insert h.sorted] at hget
    split at hget
    · rename_i heq
      rw [heq]
      exact (Option.some.inj hget).symm
    · exact h.records e records hget

/-- Sub-instances are only fetched for instances that have some, but otherwise there would be none. -/
lemma ends_subsOf_bind {α : Type} {a : α} {instances : Named (List AttributeInstance)}
    {next : List SubInstance → Action (Resolver Log) α}
    (h : Ends (Remembers log) (next (subsOf log instances)) (pure a)) :
    Ends (Remembers log) (if (instances.flatMap (·.2)).filter (·.hasSubAttributes) = [] then pure [] >>= next
      else Resolver.onStore (Log.repository.subInstances
        (((instances.flatMap (·.2)).filter (·.hasSubAttributes)).map (·.id))) >>= next) (pure a) := by
  split
  · rename_i hnil
    rw [subsOf, hnil, List.map_nil, Log.findSubInstances_nil] at h
    exact (ends_pure []).pure_bind h
  · exact (ends_onStore (Log.gives_subInstances _ log)).pure_bind h

/-- An interval adds its part, and the records that are remembered still agree with the log. -/
lemma ends_addInterval (h : Agrees log p) (interval : EntityInterval) :
    ∃ p', Ends (Remembers log) (addInterval Log.repository now request budget p interval) (pure p') ∧
      Agrees log p' ∧ p'.entities = addPart p.entities (part log now request budget interval) ∧
      p'.limited = (p.limited || exceeds log request budget interval) := by
  obtain ⟨records, hrecords, h'⟩ := gives_recordsOf h interval.entityId
  refine ⟨{ p with
      records
      entities := addPart p.entities (part log now request budget interval)
      limited := p.limited || exceeds log request budget interval }, ?_, ⟨h'.sorted, h'.records⟩, rfl, rfl⟩
  rw [addInterval]
  -- instances, their sub-instances, the records of the entity, and then the creation times
  refine (ends_onStore (Log.gives_instances (instanceQuery request budget interval) log)).pure_bind ?_
  refine ends_subsOf_bind ?_
  refine (ends_onStore hrecords).pure_bind ?_
  refine (ends_ofAttributes log (subsOf log (kept log request budget interval)) _).pure_bind ?_
  exact ends_pure _

end Engine

/-! ### The result -/

/-- The entities of intervals. -/
def entityIds (intervals : List EntityInterval) : List String := nameSet (intervals.map (·.entityId))

/-- The number of attributes that the budget is computed with. -/
def attributeCount (log : Log) (request : ReconstructionRequest) (entityIds : List String) : Nat :=
  if request.attributeIds = [] then log.mostAttributes entityIds else request.attributeIds.length

/-- The budget of a reconstruction. -/
def budgetOf (log : Log) (ceiling : UInt32) (intervals : List EntityInterval)
    (request : ReconstructionRequest) : InstanceBudget :=
  EntityHistory.budget ceiling request.lastN (entityIds intervals).length
    (attributeCount log request (entityIds intervals))

/-- The histories that intervals give, with their instances in order. -/
def histories (log : Log) (now : Instant) (request : ReconstructionRequest) (budget : InstanceBudget)
    (intervals : List EntityInterval) : List TemporalEntity :=
  (gatherParts (intervals.map (part log now request budget))).map fun entry =>
    entry.2.sortInstances request.time.property

section Engine

variable [PatternEngine]

/-- Attributes are only counted in the log when the request names none. -/
lemma gives_attributeCount_bind {α : Type} {a : α} {entityIds : List String} {next : Nat → Action Log α}
    (h : Gives (next (attributeCount log request entityIds)) log a log) :
    Gives (if request.attributeIds = [] then Log.repository.mostAttributes entityIds >>= next
      else pure request.attributeIds.length >>= next) log a log := by
  rw [attributeCount] at h
  split
  · rename_i hnil
    rw [if_pos hnil] at h
    exact (Log.gives_mostAttributes entityIds log).bind h
  · rename_i hne
    rw [if_neg hne] at h
    exact (gives_pure _ log).bind h

lemma gives_intervals (log : Log) (now : Instant) (request : ReconstructionRequest)
    (budget : InstanceBudget) (limited : Bool) (intervals : List EntityInterval) :
    ∃ p known, Gives (Resolver.runFrom []
        (intervals.foldlM (addInterval Log.repository now request budget) { limited })) log (p, known) log ∧
      p.entities = gatherParts (intervals.map (part log now request budget)) ∧
      p.limited = (limited || intervals.any (exceeds log request budget)) := by
  have hstep : ∀ (done : List EntityInterval) (interval : EntityInterval) (p : Progress),
      (Agrees log p ∧ p.entities = gatherParts (done.map (part log now request budget)) ∧
        p.limited = (limited || done.any (exceeds log request budget))) →
      ∃ p', Ends (Remembers log) (addInterval Log.repository now request budget p interval) (pure p') ∧
        Agrees log p' ∧ p'.entities = gatherParts ((done ++ [interval]).map (part log now request budget)) ∧
        p'.limited = (limited || (done ++ [interval]).any (exceeds log request budget)) := by
    rintro done interval p ⟨h, hentities, hlimited⟩
    obtain ⟨p', hp', h', hentities', hlimited'⟩ := ends_addInterval h interval
    refine ⟨p', hp', h', ?_, ?_⟩
    · rw [hentities', hentities, gatherParts, gatherParts, List.map_append, List.foldl_append]
      rfl
    · rw [hlimited', hlimited, List.any_append, Bool.or_assoc]
      simp
  have hstart : Agrees log { limited } := ⟨List.Pairwise.nil, by simp [get?]⟩
  obtain ⟨p, hp, -, hentities, hlimited⟩ := exists_ends_foldlM hstep [] intervals ⟨hstart, rfl, by simp⟩
  obtain ⟨known, hrun⟩ := exists_gives_runFrom hp
  exact ⟨p, known, hrun, by simpa using hentities, by simpa using hlimited⟩

/-- Over the log in memory a reconstruction succeeds with the histories of the intervals. -/
theorem gives_reconstruct (log : Log) (ceiling : UInt32) (now : Instant) (intervals : List EntityInterval)
    (request : ReconstructionRequest) :
    Gives (reconstruct Log.repository ceiling now intervals request) log
      { entities := histories log now request (budgetOf log ceiling intervals request) intervals
        limited := intervals ≠ [] && ((budgetOf log ceiling intervals request).limited ||
          intervals.any (exceeds log request (budgetOf log ceiling intervals request))) } log := by
  by_cases hnil : intervals = []
  · rw [hnil]
    exact gives_pure _ log
  · have hids : nameSet (intervals.map (·.entityId)) ≠ [] := by
      rw [ne_eq, nameSet_eq_nil, List.map_eq_nil_iff]
      exact hnil
    obtain ⟨p, known, hp, hentities, hlimited⟩ := gives_intervals log now request
      (budgetOf log ceiling intervals request) (budgetOf log ceiling intervals request).limited intervals
    rw [reconstruct]
    simp only [hids, if_false]
    refine gives_attributeCount_bind (hp.bind ?_)
    rw [hentities, hlimited, decide_eq_true hnil, Bool.true_and]
    exact gives_pure _ log

end Engine

/-! ### The instances of the result -/

variable {attributeId e : String} {i : AttributeInstance} {entity : TemporalEntity} {t : Instant}

/-- A request asks for an instance within an interval. -/
def selects (request : ReconstructionRequest) (interval : EntityInterval) (i : AttributeInstance) : Bool :=
  i.entityId = interval.entityId &&
    (request.attributeIds = [] || request.attributeIds.contains i.attributeId) &&
    (i.time? request.time.property).any fun t => interval.contains t && request.time.accepts t

/-- The instances of an attribute that a request asks for within an interval. -/
def matching (log : Log) (request : ReconstructionRequest) (attributeId : String)
    (interval : EntityInterval) : List AttributeInstance :=
  log.instances.filter fun i => i.attributeId = attributeId && selects request interval i

/-- Those of them that the budget leaves, in the order in which they are fetched. -/
def taken (log : Log) (request : ReconstructionRequest) (budget : InstanceBudget) (attributeId : String)
    (interval : EntityInterval) : List AttributeInstance :=
  (Log.ordered (instanceQuery request budget interval) (matching log request attributeId interval)).take
    budget.perAttribute

lemma mem_of_mem_taken (h : i ∈ taken log request budget attributeId interval) :
    i ∈ matching log request attributeId interval :=
  (Log.ordered_perm _ _).mem_iff.1 (List.mem_of_mem_take h)

lemma length_taken : (taken log request budget attributeId interval).length =
    min budget.perAttribute (matching log request attributeId interval).length := by
  rw [taken, List.length_take, (Log.ordered_perm _ _).length_eq]

lemma listAt_kept (hfetch : budget.perAttribute ≤ budget.fetchLimit) :
    listAt (kept log request budget interval) attributeId = taken log request budget attributeId interval := by
  rw [kept, listAt_mapValues List.take_nil, fetched, Log.listAt_group_findInstances, Log.firstInstances_eq,
    List.take_take]
  exact congrArg (List.take · _) (Nat.min_eq_left hfetch)

lemma grouped_kept (hone : 1 ≤ budget.perAttribute) : Grouped (kept log request budget interval) :=
  (grouped_group _).mapValues fun instances hne => by
    rw [ne_eq, List.take_eq_nil_iff]
    rintro (hzero | hnil)
    · omega
    · exact hne hnil

lemma grouped_part (hone : 1 ≤ budget.perAttribute) :
    Grouped (part log now request budget interval).attributes := by
  refine (grouped_kept hone).map
    (g := fun name => List.map (rebuilt log (subsOf log (kept log request budget interval)) name))
    fun _ instances hne => ?_
  simpa using hne

lemma listAt_part (hfetch : budget.perAttribute ≤ budget.fetchLimit) :
    listAt (part log now request budget interval).attributes attributeId =
      (taken log request budget attributeId interval).map
        (rebuilt log (subsOf log (kept log request budget interval)) attributeId) := by
  have hmap : ∀ name, List.map (rebuilt log (subsOf log (kept log request budget interval)) name) [] = [] :=
    fun _ => List.map_nil
  rw [← listAt_kept hfetch]
  exact listAt_map hmap

/-- The intervals of an entity. -/
def ownIntervals (intervals : List EntityInterval) (e : String) : List EntityInterval :=
  intervals.filter fun interval => interval.entityId = e

/-- The instances of an attribute of an entity that a request asks for within some intervals. -/
def matchingAll (log : Log) (request : ReconstructionRequest) (intervals : List EntityInterval)
    (e attributeId : String) : List AttributeInstance :=
  log.instances.filter fun i =>
    i.attributeId = attributeId && (ownIntervals intervals e).any fun interval => selects request interval i

/-- Those of them that the budget leaves, interval by interval. -/
def takenAll (log : Log) (request : ReconstructionRequest) (budget : InstanceBudget)
    (intervals : List EntityInterval) (e attributeId : String) : List AttributeInstance :=
  (ownIntervals intervals e).flatMap (taken log request budget attributeId)

/-- The histories are those of the entities of the intervals. -/
lemma ids_histories : (histories log now request budget intervals).map (·.id) = entityIds intervals := by
  have hids : (intervals.map (part log now request budget)).map (·.id) = intervals.map (·.entityId) :=
    List.map_map
  have hnames : (histories log now request budget intervals).map (·.id) =
      names (gatherParts (intervals.map (part log now request budget))) := by
    rw [histories, List.map_map, names]
    refine List.map_congr_left fun entry hentry => ?_
    have hid : entry.2.id = entry.1 := id_of_mem_gatherParts hentry
    exact hid
  rw [hnames, names_gatherParts, hids, entityIds]

lemma exists_mem_histories (h : e ∈ entityIds intervals) :
    ∃ entity ∈ histories log now request budget intervals, entity.id = e := by
  rw [← ids_histories] at h
  exact List.mem_map.1 h

/-- Under each attribute a history has what the budget leaves of the instances of each interval, in order. -/
theorem listAt_histories (hone : 1 ≤ budget.perAttribute) (hfetch : budget.perAttribute ≤ budget.fetchLimit)
    (h : entity ∈ histories log now request budget intervals) : Grouped entity.attributes ∧
      ∀ attributeId, listAt entity.attributes attributeId = inOrder request.time.property
        ((ownIntervals intervals entity.id).flatMap fun interval =>
          (taken log request budget attributeId interval).map
            (rebuilt log (subsOf log (kept log request budget interval)) attributeId)) := by
  obtain ⟨⟨e, gathered⟩, hmem, rfl⟩ := List.mem_map.1 h
  have hparts : ∀ p ∈ intervals.map (part log now request budget), Grouped p.attributes := by
    intro p hp
    obtain ⟨interval, -, rfl⟩ := List.mem_map.1 hp
    exact grouped_part hone
  have hid : gathered.id = e := id_of_mem_gatherParts hmem
  obtain ⟨hgrouped, hlist⟩ := listAt_of_mem_gatherParts hparts hmem
  refine ⟨grouped_sortInstances hgrouped, fun attributeId => ?_⟩
  have hfilter : (intervals.map (part log now request budget)).filter (fun p => p.id = e) =
      (ownIntervals intervals e).map (part log now request budget) := List.filter_map
  rw [listAt_sortInstances, hlist, hfilter, List.flatMap_map, ← hid]
  simp only [listAt_part hfetch]
  rfl

end Reconstruction

end EntityHistory
