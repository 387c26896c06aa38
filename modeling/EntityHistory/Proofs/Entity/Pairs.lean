/-
Histories as pairs.

A history that gives only pairs of value and time has one type for all instances of an attribute, which is that
of the first instance. An instance without a value, such as one that tells of a removal, counts as one of a
property. So the type of the values is given just when the values are those of a property or the first instance
has one; a removal that comes first turns the values into those of a property, but every pair is there.

* `TemporalEntity.listsPairs_valuesJson`: the pairs that are given, with the type of the first instance;
* `TemporalEntity.listsPairs_valuesJson_iff`: when this type is that of the values.
-/
import Mathlib.Data.List.Forall2
import EntityHistory.Entity.Temporal
import EntityHistory.Proofs.Named

namespace EntityHistory.TemporalEntity

variable {property : TimeProperty} {instances : List TemporalInstance} {type type' : AttributeType} {j : Json}

/-! ### Specification -/

/-- The member for the pairs of an attribute. -/
def pairsMember : AttributeType → String
  | .relationship => "objects"
  | _ => "values"

/-- A JSON value is the pair of value and time of an instance. -/
def IsPair (property : TimeProperty) (i : TemporalInstance) (j : Json) : Prop :=
  ∃ value time, j = .arr [value, time] ∧
    (∀ v, i.value = some v → value = v.toJson) ∧ (i.value = none → value = nullValue) ∧
    (∀ t, i.time? property = some t → time = timeJson t) ∧ (i.time? property = none → time = .null)

/-- An object has the type of an attribute, the pairs of its instances in their order, and nothing else. -/
structure ListsPairs (type : AttributeType) (property : TimeProperty) (instances : List TemporalInstance)
    (j : Json) : Prop where
  hasType : j.get? "type" = some (.str type.name)
  hasPairs : ∃ pairs, j.get? (pairsMember type) = some (.arr pairs) ∧
    List.Forall₂ (IsPair property) instances pairs
  only : ∀ name value, j.get? name = some value → name = "type" ∨ name = pairsMember type

/-! ### What is given -/

/-- The type of the first instance. -/
def firstType (instances : List TemporalInstance) : AttributeType :=
  (instances.head?.map TemporalInstance.type).getD .property

lemma name_injective (h : type.name = type'.name) : type = type' := by
  cases type <;> cases type' <;> first | rfl | exact absurd h (by decide)

/-- The pair of value and time of an instance. -/
def pairJson (property : TimeProperty) (i : TemporalInstance) : Json :=
  .arr [(i.value.map AttributeValue.toJson).getD nullValue, ((i.time? property).map timeJson).getD .null]

lemma isPair_pairJson (property : TimeProperty) (i : TemporalInstance) : IsPair property i (pairJson property i) := by
  refine ⟨_, _, rfl, ?_, ?_, ?_, ?_⟩
  · rintro v hv
    rw [hv]
    rfl
  · rintro hv
    rw [hv]
    rfl
  · rintro t ht
    rw [ht]
    rfl
  · rintro ht
    rw [ht]
    rfl

lemma valuesJson_eq (property : TimeProperty) (instances : List TemporalInstance) :
    valuesJson property instances = .object [("type", .str (firstType instances).name),
      (pairsMember (firstType instances), .arr (instances.map (pairJson property)))] := by
  have hmember (type : AttributeType) :
      (if type = .relationship then "objects" else "values") = pairsMember type := by
    cases type <;> rfl
  rw [← hmember]
  rfl

lemma get?_valuesJson (property : TimeProperty) (instances : List TemporalInstance) (name : String) :
    (valuesJson property instances).get? name =
      if name = pairsMember (firstType instances) then some (.arr (instances.map (pairJson property)))
      else if name = "type" then some (.str (firstType instances).name)
      else none := by
  rw [valuesJson_eq, Json.object, Json.get?, Named.get?_ofList, ← List.singleton_append, Named.lastValue?_append,
    Named.lastValue?_singleton, Named.lastValue?_singleton]
  split
  · rfl
  · rw [Option.none_or]

/-- The pairs are given in any case, with the type of the first instance. -/
theorem listsPairs_valuesJson (property : TimeProperty) (instances : List TemporalInstance) :
    ListsPairs (firstType instances) property instances (valuesJson property instances) where
  hasType := by
    have hne : "type" ≠ pairsMember (firstType instances) := by
      cases firstType instances <;> decide
    rw [get?_valuesJson, if_neg hne, if_pos rfl]
  hasPairs := by
    refine ⟨instances.map (pairJson property), ?_, ?_⟩
    · rw [get?_valuesJson, if_pos rfl]
    · rw [List.forall₂_map_right_iff, List.forall₂_same]
      exact fun i _ => isPair_pairJson property i
  only := by
    intro name value h
    rw [get?_valuesJson] at h
    split at h
    case isTrue hpairs => exact Or.inr hpairs
    case isFalse =>
      split at h
      case isTrue htype => exact Or.inl htype
      case isFalse => cases h

lemma ListsPairs.type_eq (h : ListsPairs type property instances j) (h' : ListsPairs type' property instances j) :
    type = type' := by
  have heq := h.hasType
  rw [h'.hasType] at heq
  exact (name_injective (Json.str.inj (Option.some.inj heq))).symm

/-- The instances begin with one that has a value. -/
def BeginsWithValue (instances : List TemporalInstance) : Prop :=
  ∃ i, instances.head? = some i ∧ i.value.isSome

lemma BeginsWithValue.firstType_eq (h : BeginsWithValue instances)
    (htype : ∀ i ∈ instances, ∀ v, i.value = some v → v.type = type) : firstType instances = type := by
  obtain ⟨i, hhead, hvalue⟩ := h
  obtain ⟨v, hv⟩ := Option.isSome_iff_exists.1 hvalue
  rw [firstType, hhead, Option.map_some, Option.getD_some, TemporalInstance.type, hv]
  exact htype i (List.mem_of_head? hhead) v hv

/-- What begins without a value is taken for a property. -/
lemma firstType_eq_property (h : ¬ BeginsWithValue instances) : firstType instances = .property := by
  rw [firstType]
  cases hhead : instances.head? with
  | none => rfl
  | some i =>
    have hvalue : i.value = none := Option.not_isSome_iff_eq_none.1 fun hsome => h ⟨i, hhead, hsome⟩
    rw [Option.map_some, Option.getD_some, TemporalInstance.type, hvalue]
    rfl

/-- **When the pairs of an attribute have the type of its values.**  If all values of an attribute are of one
type, then its instances are given as pairs of this type just when it is that of a property or the first instance
has a value, wherever else values are missing. If not, they are given as pairs of a property. -/
theorem listsPairs_valuesJson_iff (property : TimeProperty) (instances : List TemporalInstance)
    (type : AttributeType) (htype : ∀ i ∈ instances, ∀ v, i.value = some v → v.type = type) :
    (ListsPairs type property instances (valuesJson property instances) ↔
        type = .property ∨ BeginsWithValue instances) ∧
      (¬ BeginsWithValue instances → ListsPairs .property property instances (valuesJson property instances)) := by
  have hlists := listsPairs_valuesJson property instances
  by_cases hbegins : BeginsWithValue instances
  · rw [hbegins.firstType_eq htype] at hlists
    exact ⟨iff_of_true hlists (Or.inr hbegins), fun hnot => absurd hbegins hnot⟩
  · rw [firstType_eq_property hbegins] at hlists
    refine ⟨⟨fun h => Or.inl (h.type_eq hlists), ?_⟩, fun _ => hlists⟩
    rintro (rfl | h)
    · exact hlists
    · exact absurd h hbegins

/-- An instance that refers to an owner at a second, or to none. -/
def owner? (id : String) (second : Int) (owner : Option String) : TemporalInstance where
  id := id
  value := owner.map .relationship
  observedAt := some (.ofSecond second)
  createdAt := none
  modifiedAt := none
  datasetId := none
  unitCode := none
  subAttributes := []

/-- An owner that is removed between two others. -/
def removedBetween : List TemporalInstance :=
  [owner? "i1" 1 (some "urn:b"), owner? "i2" 2 none, owner? "i3" 3 (some "urn:c")]

/-- Owners of which the first one is removed. -/
def removedFirst : List TemporalInstance := [owner? "i1" 1 none, owner? "i2" 2 (some "urn:b")]

lemma type_owner? {id : String} {second : Int} {owner : Option String} {v : AttributeValue}
    (h : (owner? id second owner).value = some v) : v.type = .relationship := by
  obtain ⟨name, -, rfl⟩ := Option.map_eq_some_iff.1 h
  rfl

lemma type_removedBetween : ∀ i ∈ removedBetween, ∀ v, i.value = some v → v.type = .relationship := by
  intro i hi v hv
  simp only [removedBetween, List.mem_cons, List.not_mem_nil, or_false] at hi
  rcases hi with rfl | rfl | rfl <;> exact type_owner? hv

/-- A removal between two values does no harm. -/
theorem listsPairs_valuesJson_removedBetween :
    (∀ i ∈ removedBetween, ∀ v, i.value = some v → v.type = .relationship) ∧
      ListsPairs .relationship .observedAt removedBetween (valuesJson .observedAt removedBetween) := by
  refine ⟨type_removedBetween, ?_⟩
  have hbegins : BeginsWithValue removedBetween := ⟨owner? "i1" 1 (some "urn:b"), rfl, rfl⟩
  exact (listsPairs_valuesJson_iff .observedAt removedBetween .relationship type_removedBetween).1.2 (Or.inr hbegins)

/-- After a removal that comes first, references are given as values of a property. -/
theorem exists_not_listsPairs_valuesJson :
    (∃ i ∈ removedFirst, i.value.isSome) ∧
      (∀ i ∈ removedFirst, ∀ v, i.value = some v → v.type = .relationship) ∧
      (valuesJson .observedAt removedFirst).get? "type" = some (.str "Property") ∧
      (valuesJson .observedAt removedFirst).get? "objects" = none ∧
      ¬ ListsPairs .relationship .observedAt removedFirst (valuesJson .observedAt removedFirst) := by
  have hobjects : (valuesJson .observedAt removedFirst).get? "objects" = none := by
    rw [get?_valuesJson]
    rfl
  refine ⟨⟨owner? "i2" 2 (some "urn:b"), by simp [removedFirst], rfl⟩, ?_, ?_, hobjects, fun h => ?_⟩
  · intro i hi v hv
    simp only [removedFirst, List.mem_cons, List.not_mem_nil, or_false] at hi
    rcases hi with rfl | rfl <;> exact type_owner? hv
  · rw [get?_valuesJson]
    rfl
  · obtain ⟨pairs, hpairs, -⟩ := h.hasPairs
    rw [show pairsMember .relationship = "objects" from rfl, hobjects] at hpairs
    cases hpairs

end EntityHistory.TemporalEntity
