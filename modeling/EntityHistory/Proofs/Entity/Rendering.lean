/-
What a rendered history tells.

The members of a rendered history are its envelope, which are the identifier, the type and the addresses of the
contexts, and one member for each attribute under the name to which the attribute is compacted. They are put
into one object one after the other, and a later one replaces an earlier one of the same name. So the object
tells the whole history just when no two attributes are compacted to one name and none to a name of the
envelope. No other choice of members would help: there are as many of them as there are different names.

* `TemporalEntity.get?_toJson`: where the members of a rendered history come from;
* `TemporalEntity.tells_toJson_iff`: when a rendered history tells the history.
-/
import Mathlib.Data.Finset.Card
import Mathlib.Data.Set.Function
import EntityHistory.Entity.Temporal
import EntityHistory.Proofs.Named

namespace EntityHistory.TemporalEntity

variable {options : RenderOptions} {context : Context} {urls : List String} {e : TemporalEntity}
  {name : String} {value : Json}

/-! ### Specification -/

/-- The names of the envelope. -/
def envelopeNames : List String := ["id", "type", "@context"]

/-- The rendered instances of an attribute. -/
def attributeJson (options : RenderOptions) (context : Context) (instances : List TemporalInstance) : Json :=
  if options.onlyValues then valuesJson options.property instances
  else .arr (TemporalInstance.listJson options context instances)

/-- An object tells the history of an entity: it has the envelope of the entity, and outside of the envelope a
member of its own for each attribute. -/
structure Tells (options : RenderOptions) (context : Context) (urls : List String) (e : TemporalEntity)
    (j : Json) : Prop where
  id : j.get? "id" = some (.str e.id)
  entityType : j.get? "type" = some (.str (context.compact e.entityType))
  urls : j.get? "@context" = some (contextJson urls)
  attributes : ∃ member : String → String, Set.InjOn member {name | name ∈ e.attributes.names} ∧
    ∀ entry ∈ e.attributes, member entry.1 ∉ envelopeNames ∧
      j.get? (member entry.1) = some (attributeJson options context entry.2)

/-- A context keeps the attributes of an entity apart: no two of them are compacted to one name, and none to a
name of the envelope. -/
structure KeptApart (context : Context) (e : TemporalEntity) : Prop where
  injOn : Set.InjOn context.compact {name | name ∈ e.attributes.names}
  not_mem : ∀ name ∈ e.attributes.names, context.compact name ∉ envelopeNames

/-! ### The members of a rendered history -/

/-- The members for the times that the system keeps. -/
def timeMembers (options : RenderOptions) (e : TemporalEntity) : List (String × Json) :=
  if options.systemTimes then
    (e.createdAt.map fun t => ("createdAt", timeJson t)).toList ++
      (e.modifiedAt.map fun t => ("modifiedAt", timeJson t)).toList
  else []

/-- The members for the attributes. -/
def attributeMembers (options : RenderOptions) (context : Context) (e : TemporalEntity) : List (String × Json) :=
  e.attributes.map fun entry => (context.compact entry.1, attributeJson options context entry.2)

lemma toJson_eq (options : RenderOptions) (context : Context) (urls : List String) (e : TemporalEntity) :
    e.toJson options context urls =
      .object ([("id", .str e.id), ("type", .str (context.compact e.entityType))] ++ timeMembers options e ++
        attributeMembers options context e ++ [("@context", contextJson urls)]) := rfl

/-- A member of a rendered history is the one for the addresses, or else that of the last attribute of this
name, or else a time of the system, or else it belongs to the envelope. -/
theorem get?_toJson (options : RenderOptions) (context : Context) (urls : List String) (e : TemporalEntity)
    (name : String) :
    (e.toJson options context urls).get? name =
      (Named.lastValue? [("@context", contextJson urls)] name).or
        ((Named.lastValue? (attributeMembers options context e) name).or
          ((Named.lastValue? (timeMembers options e) name).or
            (Named.lastValue? [("id", .str e.id), ("type", .str (context.compact e.entityType))] name))) := by
  rw [toJson_eq, Json.object, Json.get?, Named.get?_ofList, Named.lastValue?_append, Named.lastValue?_append,
    Named.lastValue?_append]

lemma mem_attributes_of_lastValue? (h : Named.lastValue? (attributeMembers options context e) name = some value) :
    ∃ entry ∈ e.attributes, context.compact entry.1 = name ∧ attributeJson options context entry.2 = value := by
  obtain ⟨entry, hentry, heq⟩ := List.mem_map.1 (Named.mem_of_lastValue? h)
  exact ⟨entry, hentry, (Prod.mk.inj heq).1, (Prod.mk.inj heq).2⟩

/-- Rendered instances are no text, but times, identifiers and types are. -/
lemma attributeJson_ne_str (options : RenderOptions) (context : Context) (instances : List TemporalInstance)
    (text : String) : attributeJson options context instances ≠ .str text := by
  rw [attributeJson]
  split
  · exact fun h => Json.noConfusion h
  · exact fun h => Json.noConfusion h

lemma mem_timeMembers {member : String × Json} (h : member ∈ timeMembers options e) :
    (member.1 = "createdAt" ∨ member.1 = "modifiedAt") ∧ ∃ text, member.2 = .str text := by
  rw [timeMembers] at h
  split at h
  · rcases List.mem_append.1 h with h | h
    · obtain ⟨t, -, rfl⟩ := Option.map_eq_some_iff.1 (Option.mem_toList.1 h)
      exact ⟨Or.inl rfl, _, rfl⟩
    · obtain ⟨t, -, rfl⟩ := Option.map_eq_some_iff.1 (Option.mem_toList.1 h)
      exact ⟨Or.inr rfl, _, rfl⟩
  · cases h

/-- Outside of the envelope rendered instances stand only under the name of an attribute. -/
lemma exists_compact_eq {instances : List TemporalInstance} (hname : name ∉ envelopeNames)
    (h : (e.toJson options context urls).get? name = some (attributeJson options context instances)) :
    ∃ other ∈ e.attributes.names, context.compact other = name := by
  simp only [envelopeNames, List.mem_cons, List.not_mem_nil, or_false, not_or] at hname
  obtain ⟨hid, htype, hurls⟩ := hname
  have hurls' : Named.lastValue? [("@context", contextJson urls)] name = none := by
    simpa [Named.lastValue?_eq_none_iff] using Ne.symm hurls
  have hrest : Named.lastValue? [("id", Json.str e.id), ("type", .str (context.compact e.entityType))] name =
      none := by
    simpa [Named.lastValue?_eq_none_iff] using ⟨Ne.symm hid, Ne.symm htype⟩
  rw [get?_toJson, hurls', hrest, Option.none_or, Option.or_none] at h
  cases hlast : Named.lastValue? (attributeMembers options context e) name with
  | some value =>
    obtain ⟨entry, hentry, hname, -⟩ := mem_attributes_of_lastValue? hlast
    exact ⟨entry.1, List.mem_map_of_mem hentry, hname⟩
  | none =>
    rw [hlast, Option.none_or] at h
    obtain ⟨text, htext⟩ := (mem_timeMembers (Named.mem_of_lastValue? h)).2
    exact absurd htext (attributeJson_ne_str options context instances text)

/-! ### Names that are kept apart -/

/-- If each of some names has a member of its own, and these are among the short forms of the names, then the
short forms are all different and none of them is left over. -/
lemma injOn_of_members {names : List String} {member short : String → String} {reserved : List String}
    (hinj : Set.InjOn member {name | name ∈ names})
    (hmember : ∀ name ∈ names, member name ∉ reserved ∧ ∃ other ∈ names, short other = member name) :
    Set.InjOn short {name | name ∈ names} ∧ ∀ name ∈ names, short name ∉ reserved := by
  have hcoe : (names.toFinset : Set String) = {name | name ∈ names} := by
    ext name
    simp
  rw [← hcoe] at hinj ⊢
  have hsubset : names.toFinset.image member ⊆ names.toFinset.image short := by
    intro name hname
    obtain ⟨name, hmem, rfl⟩ := Finset.mem_image.1 hname
    obtain ⟨other, hother, heq⟩ := (hmember name (List.mem_toFinset.1 hmem)).2
    exact Finset.mem_image.2 ⟨other, List.mem_toFinset.2 hother, heq⟩
  have hcard : (names.toFinset.image short).card ≤ (names.toFinset.image member).card := by
    rw [Finset.card_image_of_injOn hinj]
    exact Finset.card_image_le
  have heq := Finset.eq_of_subset_of_card_le hsubset hcard
  constructor
  · rw [← Finset.card_image_iff, ← heq, Finset.card_image_of_injOn hinj]
  · intro name hname
    have hshort : short name ∈ names.toFinset.image member := by
      rw [heq]
      exact Finset.mem_image_of_mem short (List.mem_toFinset.2 hname)
    obtain ⟨other, hother, hsame⟩ := Finset.mem_image.1 hshort
    rw [← hsame]
    exact (hmember other (List.mem_toFinset.1 hother)).1

/-- Attributes that are kept apart have the members of their names. -/
lemma KeptApart.get?_toJson (hapart : KeptApart context e) (hsorted : Named.Sorted e.attributes)
    (options : RenderOptions) (urls : List String) {entry : String × List TemporalInstance}
    (hentry : entry ∈ e.attributes) :
    (e.toJson options context urls).get? (context.compact entry.1) =
      some (attributeJson options context entry.2) := by
  have hname : entry.1 ∈ e.attributes.names := List.mem_map_of_mem hentry
  have hurls : Named.lastValue? [("@context", contextJson urls)] (context.compact entry.1) = none := by
    have hne := hapart.not_mem entry.1 hname
    simp only [envelopeNames, List.mem_cons, List.not_mem_nil, or_false, not_or] at hne
    simpa [Named.lastValue?_eq_none_iff] using Ne.symm hne.2.2
  have hlast : Named.lastValue? (attributeMembers options context e) (context.compact entry.1) =
      some (attributeJson options context entry.2) := by
    cases hlast : Named.lastValue? (attributeMembers options context e) (context.compact entry.1) with
    | none => exact absurd rfl (Named.lastValue?_eq_none_iff.1 hlast _ (List.mem_map_of_mem hentry))
    | some value =>
      obtain ⟨other, hother, hcompact, rfl⟩ := mem_attributes_of_lastValue? hlast
      -- the attribute of this name is the only one, and it has one list of instances
      have heq : other.1 = entry.1 := hapart.injOn (List.mem_map_of_mem hother) hname hcompact
      have hget := hsorted.get?_eq_some_iff.2 hother
      rw [heq, hsorted.get?_eq_some_iff.2 hentry] at hget
      rw [Option.some.inj hget]
  rw [TemporalEntity.get?_toJson, hurls, hlast]
  rfl

/-- Attributes that are kept apart leave the envelope as it is. -/
lemma KeptApart.lastValue?_eq_none (hapart : KeptApart context e) (hname : name ∈ envelopeNames) :
    Named.lastValue? (attributeMembers options context e) name = none := by
  rw [Named.lastValue?_eq_none_iff]
  intro member hmember heq
  obtain ⟨entry, hentry, rfl⟩ := List.mem_map.1 hmember
  rw [← heq] at hname
  exact hapart.not_mem entry.1 (List.mem_map_of_mem hentry) hname

lemma lastValue?_timeMembers (hname : name ∈ envelopeNames) :
    Named.lastValue? (timeMembers options e) name = none := by
  rw [Named.lastValue?_eq_none_iff]
  intro member hmember heq
  rw [← heq] at hname
  rcases (mem_timeMembers hmember).1 with htime | htime
  all_goals
    rw [htime] at hname
    exact absurd hname (by decide)

/-- **When a rendered history tells the history.**  The rendered history of an entity has the envelope of the
entity and a member of its own for each attribute, whatever the options, just when the context keeps the
attributes apart; and then the member of an attribute has the name to which the attribute is compacted. -/
theorem tells_toJson_iff (options : RenderOptions) (context : Context) (urls : List String) (e : TemporalEntity)
    (hsorted : Named.Sorted e.attributes) :
    (Tells options context urls e (e.toJson options context urls) ↔ KeptApart context e) ∧
      (KeptApart context e → ∀ entry ∈ e.attributes,
        (e.toJson options context urls).get? (context.compact entry.1) =
          some (attributeJson options context entry.2)) := by
  refine ⟨⟨fun htells => ?_, fun hapart => ?_⟩, fun hapart entry hentry => ?_⟩
  · obtain ⟨member, hinj, hmember⟩ := htells.attributes
    have hshort : ∀ name ∈ e.attributes.names,
        member name ∉ envelopeNames ∧ ∃ other ∈ e.attributes.names, context.compact other = member name := by
      intro name hname
      obtain ⟨entry, hentry, rfl⟩ := List.mem_map.1 hname
      obtain ⟨houtside, hget⟩ := hmember entry hentry
      exact ⟨houtside, exists_compact_eq houtside hget⟩
    exact ⟨(injOn_of_members hinj hshort).1, (injOn_of_members hinj hshort).2⟩
  · have henvelope {name : String} (hname : name ∈ envelopeNames) (hother : name ≠ "@context") :
        (e.toJson options context urls).get? name =
          Named.lastValue? [("id", .str e.id), ("type", .str (context.compact e.entityType))] name := by
      have hurls : Named.lastValue? [("@context", contextJson urls)] name = none := by
        simpa [Named.lastValue?_eq_none_iff] using Ne.symm hother
      rw [get?_toJson, hurls, hapart.lastValue?_eq_none hname, lastValue?_timeMembers hname]
      rfl
    refine ⟨henvelope (by decide) (by decide), henvelope (by decide) (by decide), ?_, context.compact,
      hapart.injOn, fun entry hentry => ⟨?_, hapart.get?_toJson hsorted options urls hentry⟩⟩
    · rw [get?_toJson]
      rfl
    · exact hapart.not_mem entry.1 (List.mem_map_of_mem hentry)
  · exact hapart.get?_toJson hsorted options urls hentry

/-- A document with a namespace and a term outside of it. -/
def speeds : Document where
  url := "https://e.org/c.jsonld"
  terms := [("gpsSpeed", "https://other.org/speed")]
  vocab := some "https://e.org/v/"

/-- An instance without a value. -/
def unknown (id : String) : TemporalInstance := ⟨id, none, none, none, none, none, none, []⟩

/-- A history of two attributes whose full names differ in the namespace only. -/
def twoSpeeds : TemporalEntity where
  id := "urn:a"
  entityType := "https://e.org/v/Car"
  attributes := [("https://e.org/v/speed", [unknown "i1"]), ("https://other.org/speed", [unknown "i2"])]

lemma sorted_twoSpeeds : Named.Sorted twoSpeeds.attributes := by
  refine List.pairwise_pair.2 ?_
  decide

lemma compact_speeds : (Context.ofDocuments [speeds]).compact "https://e.org/v/speed" = "speed" ∧
    (Context.ofDocuments [speeds]).compact "https://other.org/speed" = "gpsSpeed" :=
  ⟨rfl, rfl⟩

lemma keptApart_twoSpeeds : KeptApart (Context.ofDocuments [speeds]) twoSpeeds := by
  obtain ⟨hspeed, hgps⟩ := compact_speeds
  constructor
  · intro name hname other hother heq
    rcases List.mem_pair.1 hname with rfl | rfl <;> rcases List.mem_pair.1 hother with rfl | rfl
    · rfl
    · rw [hspeed, hgps] at heq
      exact absurd heq (by decide)
    · rw [hspeed, hgps] at heq
      exact absurd heq (by decide)
    · rfl
  · intro name hname
    rcases List.mem_pair.1 hname with rfl | rfl
    · rw [hspeed]
      decide
    · rw [hgps]
      decide

/-- A term of its own keeps the second attribute apart from the first one. -/
theorem tells_toJson_twoSpeeds :
    Named.Sorted twoSpeeds.attributes ∧
      Tells {} (Context.ofDocuments [speeds]) ["https://e.org/c.jsonld"] twoSpeeds
        (twoSpeeds.toJson {} (Context.ofDocuments [speeds]) ["https://e.org/c.jsonld"]) ∧
      (twoSpeeds.toJson {} (Context.ofDocuments [speeds]) ["https://e.org/c.jsonld"]).get? "gpsSpeed" =
        some (attributeJson {} (Context.ofDocuments [speeds]) [unknown "i2"]) := by
  obtain ⟨hiff, hmembers⟩ := tells_toJson_iff {} (Context.ofDocuments [speeds]) ["https://e.org/c.jsonld"]
    twoSpeeds sorted_twoSpeeds
  refine ⟨sorted_twoSpeeds, hiff.2 keptApart_twoSpeeds, ?_⟩
  rw [← compact_speeds.2]
  exact hmembers keptApart_twoSpeeds ("https://other.org/speed", [unknown "i2"]) (by simp [twoSpeeds])

/-- A history whose attribute is called as the identifier is. -/
def calledId : TemporalEntity where
  id := "urn:a"
  entityType := "https://e.org/v/Car"
  attributes := [("https://e.org/v/id", [unknown "i1"])]

/-- The attribute stands where the identifier should. -/
theorem exists_not_tells_toJson :
    Named.Sorted calledId.attributes ∧
      (calledId.toJson {} (Context.ofDocuments [speeds]) ["https://e.org/c.jsonld"]).get? "id" =
        some (attributeJson {} (Context.ofDocuments [speeds]) [unknown "i1"]) ∧
      ¬ Tells {} (Context.ofDocuments [speeds]) ["https://e.org/c.jsonld"] calledId
        (calledId.toJson {} (Context.ofDocuments [speeds]) ["https://e.org/c.jsonld"]) := by
  have hcompact : (Context.ofDocuments [speeds]).compact "https://e.org/v/id" = "id" := rfl
  have hmembers : attributeMembers {} (Context.ofDocuments [speeds]) calledId =
      [("id", attributeJson {} (Context.ofDocuments [speeds]) [unknown "i1"])] := by
    rw [← hcompact]
    rfl
  have hid : (calledId.toJson {} (Context.ofDocuments [speeds]) ["https://e.org/c.jsonld"]).get? "id" =
      some (attributeJson {} (Context.ofDocuments [speeds]) [unknown "i1"]) := by
    rw [get?_toJson, hmembers]
    rfl
  refine ⟨List.pairwise_singleton _ _, hid, fun htells => ?_⟩
  rw [htells.id] at hid
  exact attributeJson_ne_str _ _ _ _ (Option.some.inj hid).symm

end EntityHistory.TemporalEntity
