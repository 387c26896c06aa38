/-
Two ways to ask for one entity.

The history of an entity can be asked for by itself, or as a page of the histories with its identifier. Both
requests are read alike, and over the log in memory both are answered from the same intervals: none, or the whole
window. So the same history is put together, within the same budget, and rendered alike. But a history is only
given by itself if the entity exists at present and has instances that are asked for.

* `Service.Findings`: what is found for a page before it is rendered;
* `Log.exists_intervals_of_entity`: the intervals of one entity, on a page or not;
* `Service.exists_findings`: what both requests come to;
* `Service.entity_agrees_with_entities`: when the history is given, and that it is the one on the page.
-/
import EntityHistory.Proofs.Service.Reading
import EntityHistory.Proofs.Service.Reconstruction
import EntityHistory.Proofs.Store.Candidates
import EntityHistory.Service.Answer

namespace EntityHistory

variable {σ α : Type}

/-! ### Specification -/

namespace Service

/-- What is found for a page of histories: how it was asked for, the page of intervals and the histories. -/
structure Findings where
  query : IntervalQuery
  request : Request
  page : IntervalPage
  found : Reconstruction

/-- The page of histories, rendered. -/
def Findings.answer (f : Findings) : EntitiesAnswer where
  entities := f.found.entities.map (TemporalEntity.toJson f.request.options f.request.context f.request.urls)
  limited := f.found.limited
  nextAnchor := f.page.nextAnchor
  prevAnchor := f.page.prevAnchor
  totalEntities := f.page.totalEntities
  pageSize := (f.query.page.map PageRequest.size).getD 0

/-- Finds the histories of a page. -/
def findings [PatternEngine] (s : Service σ) (now : Instant) (p : Parameters) : Serving (Held σ) Findings := do
  let (query, request) ← Held.onCache (s.toRequestReader.query p)
  let page ← Held.onStore (s.repository.findIntervals query)
  let found ← Held.onStore (s.reconstruct now page.intervals request)
  pure { query, request, page, found }

/-- The answer to a request for a page is what is found for it, rendered. -/
lemma entities_eq [PatternEngine] (s : Service σ) (now : Instant) (p : Parameters) :
    s.entities now p = Findings.answer <$> s.findings now p := by
  rw [entities, findings]
  simp only [map_bind, map_pure]
  rfl

/-- The service over a log in memory. -/
def overLog [PatternEngine] (r : RequestReader) : Service Log := { r with repository := Log.repository }

end Service

/-! ### Computations of the service -/

/-- The log is kept, and the cache is consistent. -/
def Held.Keeps (load : String → Except ContextFault Json) (log : Log) (held : Held Log) : Prop :=
  Cache.Consistent load held.cache ∧ held.store = log

section Computations

variable {load : String → Except ContextFault Json} {log : Log} {a : α}

lemma Ends.onCache {x : Serving Cache α} {r : Outcome α} (h : Ends (Cache.Consistent load) x r) :
    Ends (Held.Keeps load log) (Held.onCache x) r := by
  rintro held ⟨hcache, hstore⟩
  obtain ⟨hr, hcache'⟩ := h held.cache hcache
  exact ⟨hr, hcache', hstore⟩

lemma Gives.onStore {action : Action Log α} (h : Gives action log a log) :
    Ends (Held.Keeps load log) (Held.onStore action) (pure a) := by
  rintro held ⟨hcache, rfl⟩
  have hrun : (Held.onStore action).run.run held =
      ((action.run.run held.store).1.mapError .reported, { held with store := (action.run.run held.store).2 }) := rfl
  rw [hrun, h]
  exact ⟨rfl, hcache, rfl⟩

end Computations

/-! ### The intervals of one entity -/

namespace Log

variable {log : Log} {id : String} {is : List EntityInterval} {size : Nat}

/-- A first page with room for all entities has all intervals. -/
lemma intervals_paginate (hsize : 1 ≤ size) (h : (pageIds is).length ≤ size) :
    (paginate is none size).intervals = EntityInterval.sort is := by
  rw [paginate_eq_pageAt hsize, positionOf_of_not_mem (by simp)]
  refine List.filter_eq_self.2 fun i hi => ?_
  rw [List.drop_zero, List.take_of_length_le h, List.contains_iff_mem, mem_pageIds]
  exact ⟨i, EntityInterval.mem_sort.1 hi, rfl⟩

/-- Of distinct names there is at most one if all of them are the same. -/
lemma length_le_one {names : List String} (hsorted : names.Pairwise (· < ·)) (h : ∀ name ∈ names, name = id) :
    names.length ≤ 1 := by
  match names, hsorted, h with
  | [], _, _ => exact Nat.zero_le 1
  | [_], _, _ => exact le_rfl
  | name :: next :: _, hsorted, h =>
    have hlt : name < next := (List.pairwise_cons.1 hsorted).1 next (by simp)
    exact absurd ((h name (by simp)).trans (h next (by simp)).symm) hlt.ne

/-- The answer to an interval query for a page, the entities not counted. -/
lemma findIntervals_page_eq_ok [PatternEngine] {filter : EntityFilter} {candidates : List String} {time : TimeQuery}
    {plan : Option Plan} {anchor : Option String} (h : log.candidates filter = .ok candidates) :
    log.findIntervals ⟨filter, time, plan, some ⟨anchor, size, false⟩⟩ =
      .ok { paginate (EntityInterval.normalize (log.intervals candidates time plan)) anchor size with
        totalEntities := none } := by
  rw [findIntervals, h]
  rfl

/-- The log has the same intervals for an entity whether they are asked for on a page or not. -/
theorem exists_intervals_of_entity [PatternEngine] (log : Log) (id : String) (time : TimeQuery) (hsize : 1 ≤ size) :
    ∃ page, log.findIntervals { Service.wholeWindow id time with page := some ⟨none, size, false⟩ } = .ok page ∧
      log.findIntervals (Service.wholeWindow id time) = .ok { intervals := page.intervals } ∧
      ∀ i ∈ page.intervals, i.entityId = id := by
  have hpattern : EntityFilter.pattern { ids := [id] } = .ok none := rfl
  obtain ⟨candidates, hcandidates, hsorted⟩ := exists_candidates log hpattern
  have hordered : (log.intervals candidates time none).Pairwise fun a b => a.entityId < b.entityId :=
    List.pairwise_map.2 hsorted
  have hentity : ∀ i ∈ log.intervals candidates time none, i.entityId = id := by
    intro i hi
    obtain ⟨e, he, rfl⟩ := List.mem_map.1 hi
    obtain ⟨r, -, -, haccepts⟩ := (mem_candidates_iff hpattern hcandidates).1 he
    simpa [EntityFilter.accepts] using haccepts
  -- so the page has room for all of them
  have hnames : ∀ name ∈ pageIds (log.intervals candidates time none), name = id := by
    intro name hname
    obtain ⟨i, hi, rfl⟩ := mem_pageIds.1 hname
    exact hentity i hi
  have hroom : (pageIds (log.intervals candidates time none)).length ≤ size :=
    (length_le_one (pairwise_pageIds _) hnames).trans hsize
  have hpage : (paginate (log.intervals candidates time none) none size).intervals =
      log.intervals candidates time none := (intervals_paginate hsize hroom).trans (sort_eq_self hordered)
  refine ⟨{ paginate (log.intervals candidates time none) none size with totalEntities := none }, ?_, ?_, ?_⟩
  · rw [Service.wholeWindow, findIntervals_page_eq_ok hcandidates, normalize_eq_self hordered]
  · rw [Service.wholeWindow, findIntervals_eq_ok hcandidates, normalize_eq_self hordered, hpage]
  · rw [hpage]
    exact hentity

end Log

/-! ### Answers over the log -/

namespace Reconstruction

variable {intervals : List EntityInterval} {id : String}

/-- From intervals of one entity at most one history is put together, which is its own. -/
lemma gives_reconstruct_of_entity [PatternEngine] (log : Log) (ceiling : UInt32) (now : Instant)
    (request : ReconstructionRequest) (h : ∀ i ∈ intervals, i.entityId = id) :
    ∃ found, Gives (reconstruct Log.repository ceiling now intervals request) log found log ∧
      (∀ e ∈ found.entities, e.id = id) ∧ found.entities.length ≤ 1 := by
  have hnames : ∀ name ∈ entityIds intervals, name = id := by
    intro name hname
    obtain ⟨i, hi, rfl⟩ := List.mem_map.1 (mem_nameSet.1 hname)
    exact h i hi
  refine ⟨_, gives_reconstruct log ceiling now intervals request, fun e he => ?_, ?_⟩
  · have hmem := List.mem_map_of_mem (f := (·.id)) he
    rw [ids_histories] at hmem
    exact hnames e.id hmem
  · rw [← List.length_map (·.id), ids_histories]
    exact Log.length_le_one (pairwise_nameSet _) hnames

end Reconstruction

namespace Service

variable {r : RequestReader} {log : Log} {now : Instant} {id : String} {p : HistoryParameters} {request : Request}

/-- The answer for one entity of which some histories have been found. -/
def answerOf (log : Log) (now : Instant) (id : String) (request : Request) (found : Reconstruction) :
    Outcome EntityAnswer :=
  if (stateAt (log.entityRecords id) now).isNone then throw (.reported (.notFound (.entity id)))
  else
    match found.entities.find? fun e => e.id = id && 0 < e.instanceCount with
    | none => throw (.reported (.notFound (.instances id)))
    | some e => pure ⟨e.toJson request.options request.context request.urls, found.limited⟩

/-- A request that cannot be read is not answered, in either way. -/
lemma ends_of_error [PatternEngine] {failure : Failure} (hsize : r.HasPageSize) (hid : Parameters.IsItem id)
    (h : r.retrievalDirectly p = throw failure) (log : Log) (now : Instant) :
    Ends (Held.Keeps r.load log) ((overLog r).entity now id p.toParameters) (throw failure) ∧
      Ends (Held.Keeps r.load log) ((overLog r).findings now (p.onPage id)) (throw failure) := by
  have hretrieval := r.ends_retrieval p
  have hquery := RequestReader.ends_query hsize hid p
  rw [h] at hretrieval hquery
  exact ⟨hretrieval.onCache.throw_bind _, hquery.onCache.throw_bind _⟩

/-- For a request that is read the same histories are found in both ways, at most one, that of the entity. -/
theorem exists_findings [PatternEngine] (hsize : r.HasPageSize) (hid : Parameters.IsItem id)
    (h : r.retrievalDirectly p = pure request) (log : Log) (now : Instant) :
    ∃ f : Findings, Ends (Held.Keeps r.load log) ((overLog r).findings now (p.onPage id)) (pure f) ∧
      Ends (Held.Keeps r.load log) ((overLog r).entity now id p.toParameters)
        (answerOf log now id request f.found) ∧
      f.request = request ∧ (∀ e ∈ f.found.entities, e.id = id) ∧ f.found.entities.length ≤ 1 := by
  have hone : 1 ≤ r.settings.defaultPageSize.toNat := UInt32.lt_iff_toNat_lt.1 hsize.1
  obtain ⟨page, hpage, hwhole, hintervals⟩ := log.exists_intervals_of_entity id request.what.time hone
  have hretrieval := r.ends_retrieval p
  have hquery := RequestReader.ends_query hsize hid p
  rw [h] at hretrieval hquery
  obtain ⟨found, hfound, hids, hlength⟩ := Reconstruction.gives_reconstruct_of_entity log
    r.settings.resultCeiling now request.what hintervals
  refine ⟨⟨r.pageQuery id request.what.time, request, page, found⟩, ?_, ?_, rfl, hids, hlength⟩
  · refine hquery.onCache.pure_bind ?_
    refine (Log.gives_findIntervals hpage).onStore.pure_bind ?_
    refine hfound.onStore.pure_bind ?_
    exact ends_pure _
  · refine hretrieval.onCache.pure_bind ?_
    refine (Log.gives_entityRecords id log).onStore.pure_bind ?_
    rw [answerOf]
    by_cases hnone : (stateAt (log.entityRecords id) now).isNone = true
    · simp only [hnone, if_true]
      exact (ends_throw _).throw_bind _
    · simp only [hnone]
      refine (Log.gives_findIntervals hwhole).onStore.pure_bind ?_
      refine hfound.onStore.pure_bind ?_
      rw [if_neg Bool.false_ne_true]
      cases found.entities.find? fun e => e.id = id && 0 < e.instanceCount with
      | none => exact ends_throw _
      | some e => exact ends_pure _

/-- An answer for the entity is given if it exists and the history that is found has instances. -/
lemma answerOf_eq_ok {found : Reconstruction} {answer : EntityAnswer} (hids : ∀ e ∈ found.entities, e.id = id)
    (hlength : found.entities.length ≤ 1) : answerOf log now id request found = .ok answer ↔
      (stateAt (log.entityRecords id) now).isSome ∧ ∃ e, found.entities = [e] ∧ 0 < e.instanceCount ∧
        answer = ⟨e.toJson request.options request.context request.urls, found.limited⟩ := by
  obtain ⟨entities, limited⟩ := found
  rw [answerOf]
  cases hstate : stateAt (log.entityRecords id) now with
  | none => simp [throw, throwThe, MonadExceptOf.throw]
  | some state =>
    match entities, hids, hlength with
    | [], _, _ => simp [throw, throwThe, MonadExceptOf.throw]
    | [e], hids, _ =>
      have hid : e.id = id := hids e (by simp)
      by_cases hcount : 0 < e.instanceCount
      · simp [hid, hcount, pure, Except.pure, eq_comm]
      · simp [hid, hcount, throw, throwThe, MonadExceptOf.throw]

/-- **Both ways agree.**  The history of an entity is given, whatever the log and the contexts are and however
the request is made, just when the entity exists at present and the page of the histories with its identifier is
given with one that has instances. Then the page has exactly this history, and the same is said of both about
what was left out. -/
theorem entity_agrees_with_entities [PatternEngine] (log : Log) (now : Instant) (hsize : r.HasPageSize)
    (hid : Parameters.IsItem id) (p : HistoryParameters) {c c' : Cache} (hc : Cache.Consistent r.load c)
    (hc' : Cache.Consistent r.load c') :
    let retrieved := (((overLog r).entity now id p.toParameters).run.run ⟨c, log⟩).1
    let found := (((overLog r).findings now (p.onPage id)).run.run ⟨c', log⟩).1
    let listed := (((overLog r).entities now (p.onPage id)).run.run ⟨c', log⟩).1
    listed = Findings.answer <$> found ∧
      ((∃ answer, retrieved = .ok answer) ↔ (stateAt (log.entityRecords id) now).isSome ∧
        ∃ f, found = .ok f ∧ ∃ e ∈ f.found.entities, 0 < e.instanceCount) ∧
      ∀ answer, retrieved = .ok answer →
        ∃ page, listed = .ok page ∧ page.entities = [answer.entity] ∧ page.limited = answer.limited := by
  intro retrieved found listed
  have hlisted : listed = Findings.answer <$> found := by
    have hrun := run_map Findings.answer ((overLog r).findings now (p.onPage id)) ⟨c', log⟩
    rwa [← entities_eq] at hrun
  refine ⟨hlisted, ?_⟩
  cases hread : r.retrievalDirectly p with
  | error failure =>
    obtain ⟨hentity, hfindings⟩ := ends_of_error hsize hid hread log now
    have hretrieved : retrieved = .error failure := (hentity ⟨c, log⟩ ⟨hc, rfl⟩).1
    have hfound : found = .error failure := (hfindings ⟨c', log⟩ ⟨hc', rfl⟩).1
    simp [hretrieved, hfound]
  | ok request =>
    obtain ⟨f, hfindings, hentity, rfl, hids, hlength⟩ := exists_findings hsize hid hread log now
    have hretrieved : retrieved = answerOf log now id f.request f.found := (hentity ⟨c, log⟩ ⟨hc, rfl⟩).1
    have hfound : found = .ok f := (hfindings ⟨c', log⟩ ⟨hc', rfl⟩).1
    rw [hretrieved]
    simp only [answerOf_eq_ok hids hlength]
    constructor
    · constructor
      · rintro ⟨answer, hexists, e, heq, hcount, rfl⟩
        exact ⟨hexists, f, hfound, e, by simp [heq], hcount⟩
      · rintro ⟨hexists, f', hf', e, he, hcount⟩
        obtain rfl : f = f' := Except.ok.inj (hfound.symm.trans hf')
        obtain ⟨e', heq⟩ := List.length_eq_one_iff.1 (le_antisymm hlength (List.length_pos_of_mem he))
        obtain rfl : e = e' := by simpa [heq] using he
        exact ⟨_, hexists, e, heq, hcount, rfl⟩
    · rintro answer ⟨-, e, heq, -, rfl⟩
      refine ⟨f.answer, by rw [hlisted, hfound]; rfl, ?_, rfl⟩
      rw [Findings.answer, heq]
      rfl

/-- A reader with an empty core context, for pages of at most ten. -/
def emptyCore : RequestReader where
  settings := { resultCeiling := 10, defaultPageSize := 5, maxPageSize := 10 }
  coreContext := "https://e.org/core.jsonld"
  load _ := .ok (.obj [("@context", .null)])

/-- A log with one observation of an entity. -/
def oneObservation : Log where
  records := [Log.creation "urn:a"]
  instances := [Log.observation "1" 5 7]

theorem entity_agrees_with_entities_oneObservation :
    ∃ answer page,
      (((overLog emptyCore).entity (.ofSecond 9) "urn:a" ({} : HistoryParameters).toParameters).run.run
        ⟨.empty 1 none, oneObservation⟩).1 = .ok answer ∧
      (((overLog emptyCore).entities (.ofSecond 9) (({} : HistoryParameters).onPage "urn:a")).run.run
        ⟨.empty 2 none, oneObservation⟩).1 = .ok page ∧
      page.entities = [answer.entity] ∧ page.limited = answer.limited := by
  have hsize : emptyCore.HasPageSize := ⟨by decide, by decide⟩
  have hid : Parameters.IsItem "urn:a" := ⟨by decide, by decide, by decide⟩
  obtain ⟨-, hgiven, hsame⟩ := entity_agrees_with_entities oneObservation (.ofSecond 9) hsize hid {}
    (Cache.consistent_empty emptyCore.load 1 none id) (Cache.consistent_empty emptyCore.load 2 none id)
  have hcounted : (fun f : Findings => f.found.entities.any fun e => 0 < e.instanceCount) <$>
      (((overLog emptyCore).findings (.ofSecond 9) (({} : HistoryParameters).onPage "urn:a")).run.run
        ⟨.empty 2 none, oneObservation⟩).1 = .ok true := by decide +kernel
  obtain ⟨f, hf, hany⟩ := exists_of_map_eq_ok hcounted
  obtain ⟨e, he, hcount⟩ := List.any_eq_true.1 hany
  obtain ⟨answer, hanswer⟩ := hgiven.2 ⟨by decide +kernel, f, hf, e, he, of_decide_eq_true hcount⟩
  obtain ⟨page, hpage, hentities, hlimited⟩ := hsame answer hanswer
  exact ⟨answer, page, hanswer, hpage, hentities, hlimited⟩

end Service

end EntityHistory
