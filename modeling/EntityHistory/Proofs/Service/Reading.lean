/-
Reading requests with a cache.

A request is read with a cache of contexts, but what it is read as does not depend on what the cache holds: it is
the same as when every document is fetched from outside. A request that names nothing but one entity, a time,
attributes, a number of instances, options and a context is read for a page just as for the history of the
entity: the page is the first one of those with this identifier.

* `RequestReader.ends_retrieval`: what a request for the history of one entity is read as;
* `RequestReader.ends_query`: what the request for a page with this entity is read as.
-/
import EntityHistory.Proofs.Context.Cache
import EntityHistory.Proofs.Text.Blank
import EntityHistory.Proofs.Text.Pieces
import EntityHistory.Service.Request

namespace EntityHistory

variable {σ α : Type} {inv : σ → Prop}

/-! ### Computations while a request is read -/

/-- A computation without a state ends in the same way whatever the state is. -/
lemma ends_liftM_outcome (r : Outcome α) : Ends inv (liftM r : Serving σ α) r := fun _ hs => ⟨rfl, hs⟩

lemma ends_liftM_error (r : Except Error α) : Ends inv (liftM r : Serving σ α) (liftM r : Outcome α) :=
  fun _ hs => ⟨rfl, hs⟩

lemma ends_liftM_queryFault (r : Except QueryFault α) : Ends inv (liftM r : Serving σ α) (liftM r : Outcome α) :=
  fun _ hs => ⟨rfl, hs⟩

lemma ends_liftM_expansionFault (r : Except ExpansionFault α) :
    Ends inv (liftM r : Serving σ α) (liftM r : Outcome α) :=
  fun _ hs => ⟨rfl, hs⟩

/-- The errors of an action are reported. -/
lemma Ends.liftM {x : Action σ α} {r : Except Error α} (h : Ends inv x r) :
    Ends inv (MonadLiftT.monadLift x : Serving σ α) (MonadLiftT.monadLift r : Outcome α) := by
  intro s hs
  obtain ⟨hr, hs'⟩ := h s hs
  have hrun : (MonadLiftT.monadLift x : Serving σ α).run.run s =
      ((x.run.run s).1.mapError .reported, (x.run.run s).2) := rfl
  rw [hrun, hr]
  exact ⟨rfl, hs'⟩

namespace Parameters

variable {id : String}

/-- A text that is the only item of the list that it makes. -/
structure IsItem (id : String) : Prop where
  ne_empty : id ≠ ""
  comma_not_mem : ',' ∉ id.toList
  trim_eq : Text.trim id.toList = id.toList

lemma items_eq_singleton (h : IsItem id) : items (some id) = [id] := by
  have hne : id.toList ≠ [] := fun hnil => h.ne_empty (String.toList_eq_nil_iff.1 hnil)
  rw [items, Option.getD_some, Text.pieces_of_not_mem h.comma_not_mem]
  simp [h.trim_eq, hne]

end Parameters

/-- What a request for the history of one entity may say. -/
structure HistoryParameters where
  attrs : Option String := none
  timerel : Option String := none
  timeproperty : Option String := none
  time : Option String := none
  endTime : Option String := none
  lastN : Option UInt32 := none
  options : Option String := none
  link : Option String := none
deriving DecidableEq, Repr

namespace HistoryParameters

/-- The parameters of the request for the history. -/
def toParameters (p : HistoryParameters) : Parameters where
  attrs := p.attrs
  timerel := p.timerel
  timeproperty := p.timeproperty
  time := p.time
  endTime := p.endTime
  lastN := p.lastN
  options := p.options
  link := p.link

/-- The parameters of a request for a page that asks the same of one entity. -/
def onPage (p : HistoryParameters) (id : String) : Parameters := { p.toParameters with id := some id }

end HistoryParameters

namespace RequestReader

variable {r : RequestReader} {id : String}

/-- What a request for the history of one entity is read as when every document is fetched from outside. -/
def retrievalDirectly (r : RequestReader) (p : HistoryParameters) : Outcome Request := do
  let time ← p.toParameters.timeQuery r.settings
  let urls := p.toParameters.contextUrls r.coreContext
  let context ← (gatherAll (Document.fetched r.load) urls : Except Error Context)
  let attributeIds ← Parameters.expandItems context p.attrs
  pure {
    what := { time, attributeIds, lastN := p.lastN }
    context
    urls
    options := p.toParameters.renderOptions time }

/-- A request is read as if every document were fetched from outside. -/
lemma ends_retrieval (r : RequestReader) (p : HistoryParameters) :
    Ends (Cache.Consistent r.load) (r.retrieval p.toParameters) (r.retrievalDirectly p) := by
  rw [retrieval, retrievalDirectly]
  refine (ends_liftM_error _).bind fun time => ?_
  refine (Cache.ends_resolveAll r.load _).liftM.bind fun context => ?_
  exact (ends_liftM_expansionFault _).bind fun attributeIds => ends_pure _

/-- The question for the intervals of one entity, on a page. -/
def pageQuery (r : RequestReader) (id : String) (time : TimeQuery) : IntervalQuery where
  filter := { ids := [id] }
  time := time
  plan := none
  page := some { anchor := none, size := r.settings.defaultPageSize.toNat, count := false }

/-- The settings have a size for the pages of requests that name none. -/
def HasPageSize (r : RequestReader) : Prop :=
  0 < r.settings.defaultPageSize ∧ r.settings.defaultPageSize ≤ r.settings.maxPageSize

lemma size_onPage (h : r.HasPageSize) (p : HistoryParameters) (id : String) :
    (p.onPage id).size r.settings = .ok r.settings.defaultPageSize := by
  have hnot : ¬ (r.settings.defaultPageSize = 0 ∨ r.settings.maxPageSize < r.settings.defaultPageSize) := by
    rintro (hzero | hlt)
    · rw [HasPageSize, hzero] at h
      exact absurd h.1 (by decide)
    · exact absurd hlt (UInt32.not_lt.2 h.2)
  exact if_neg hnot

/-- A request for a page that names one entity, and nothing that a request for its history could not say, is read
as the one for its history. -/
lemma ends_query [PatternEngine] (hsize : r.HasPageSize) (hid : Parameters.IsItem id) (p : HistoryParameters) :
    Ends (Cache.Consistent r.load) (r.query (p.onPage id))
      ((fun request => (r.pageQuery id request.what.time, request)) <$> r.retrievalDirectly p) := by
  rw [query, retrievalDirectly, size_onPage hsize]
  simp only [map_bind, map_pure]
  refine (ends_liftM_error _).bind fun time => ?_
  refine Ends.pure_bind (ends_liftM_queryFault _) ?_
  refine (Cache.ends_resolveAll r.load _).liftM.bind fun context => ?_
  -- there is no query and no geographic one, and no type is named
  refine Ends.pure_bind (ends_liftM_outcome _) ?_
  refine Ends.pure_bind (ends_liftM_error _) ?_
  refine Ends.pure_bind (ends_liftM_expansionFault _) ?_
  refine Ends.pure_bind ((ends_liftM_queryFault (pure none)).map fun _ => ()) ?_
  refine (ends_liftM_expansionFault _).bind fun attributeIds => ?_
  have hids : Parameters.items (p.onPage id).id = [id] := Parameters.items_eq_singleton hid
  rw [hids]
  exact ends_pure _

end RequestReader

end EntityHistory
