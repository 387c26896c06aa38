/-
A cache of context documents.

The cache has a slot for each address asked for, with the document once it has been fetched. A slot expires
a given time after it was made, and the next access replaces it by a new one. When the cache is full, the
oldest slot makes room for that of an address that has none. A fetch that fails leaves its slot empty. A clock
tells the time of each access; as long as nothing else is said, it goes on by one tick with each of them.
-/
import EntityHistory.Context.Gather

namespace EntityHistory

/-- The place of one address in the cache. -/
structure Slot where
  url : String
  document : Option Document
  /-- When the slot was made. -/
  since : Nat
deriving DecidableEq, Repr

/-- A cache of context documents. -/
structure Cache where
  capacity : Nat
  /-- How long a slot lives, in ticks; without it, for ever. -/
  lifetime : Option Nat
  /-- The time of each access. -/
  clock : Nat → Nat
  slots : List Slot := []
  /-- How often the cache has been accessed. -/
  accesses : Nat := 0
  /-- How often a document has been asked for from outside. -/
  fetches : Nat := 0

namespace Cache

/-- An empty cache, which has room for at least one slot. -/
def empty (capacity : Nat) (lifetime : Option Nat) (clock : Nat → Nat := id) : Cache :=
  { capacity := max capacity 1, lifetime, clock }

/-- The time of the last access. -/
def now (c : Cache) : Nat := c.clock c.accesses

/-- The cache at the time of the next access. -/
def atNext (c : Cache) : Cache := { c with accesses := c.accesses + 1 }

/-- The number of documents in the cache. -/
def size (c : Cache) : Nat := (c.slots.filter (·.document.isSome)).length

/-- Whether a slot has outlived its time. -/
def isExpired (c : Cache) (s : Slot) : Bool := c.lifetime.any fun lifetime => lifetime < c.now - s.since

/-- The slot of an address. -/
def slot? (c : Cache) (url : String) : Option Slot := c.slots.find? fun s => s.url = url

/-- The slot that is not expired of an address. -/
def liveSlot? (c : Cache) (url : String) : Option Slot :=
  (c.slot? url).filter fun s => !c.isExpired s

/-- The slots without that of one address. -/
def others (c : Cache) (url : String) : List Slot := c.slots.filter fun s => s.url ≠ url

/-- The oldest of the slots. -/
def oldest? (c : Cache) : Option Slot :=
  c.slots.foldl
    (fun best s =>
      match best with
      | none => some s
      | some best => if s.since < best.since then some s else some best)
    none

/-- The cache after the oldest slot has made room, if it has to. -/
def makeRoom (c : Cache) : Cache :=
  if c.slots.length < c.capacity then c
  else
    match c.oldest? with
    | none => c
    | some s => { c with slots := c.others s.url }

/-- The cache with a slot for an address: the live one, a new one in place of an expired one, or one for
which room is made. -/
def withSlot (c : Cache) (url : String) : Cache :=
  match c.slot? url with
  | some s =>
    if c.isExpired s then { c with slots := c.others url ++ [⟨url, none, c.now⟩] } else c
  | none =>
    let c := c.makeRoom
    { c with slots := c.slots ++ [⟨url, none, c.now⟩] }

/-- The cache with a document put into the slot of its address. -/
def fill (c : Cache) (url : String) (document : Document) : Cache :=
  { c with
    slots := c.slots.map fun s => if s.url = url then { s with document := some document } else s }

/-- The document at an address, from the cache or else from outside. -/
def resolve (load : String → Except ContextFault Json) (url : String) (c : Cache) :
    Except Error Document × Cache :=
  let c := c.atNext.withSlot url
  match (c.slot? url).bind Slot.document with
  | some document => (.ok document, c)
  | none =>
    let c := { c with fetches := c.fetches + 1 }
    match (load url).bind (Document.ofJson url) with
    | .ok document => (.ok document, c.fill url document)
    | .error fault => (.error (.contextUnavailable fault), c)

/-- The context of several addresses. -/
def resolveAll (load : String → Except ContextFault Json) (urls : List String) : Action Cache Context :=
  gatherAll (m := Action Cache) (fun url => resolve load url) urls

/-- The full name of a name in the context of several addresses. -/
def expand (load : String → Except ContextFault Json) (name : String) (urls : List String) :
    Action Cache String := do
  let context ← resolveAll load urls
  match context.expand name with
  | .ok iri => pure iri
  | .error fault => throw (.expansionFailure fault)

end Cache

end EntityHistory
