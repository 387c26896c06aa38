/-
Values under names.

A family of values, each under a name of its own, in the order of the names. The order is that of the code
points, which is also that of the names' bytes in UTF-8. Inserting a value replaces one of the same name.
-/
namespace EntityHistory

/-- Values under names, in the order of the names. -/
abbrev Named (α : Type) := List (String × α)

namespace Named

variable {α β : Type}

/-- The family with the value of one name computed anew from the value it has, if any. -/
def update (name : String) (f : Option α → α) : Named α → Named α
  | [] => [(name, f none)]
  | (name', value') :: rest =>
    if name < name' then (name, f none) :: (name', value') :: rest
    else if name = name' then (name, f (some value')) :: rest
    else (name', value') :: update name f rest

/-- The family with one more value; a value of that name is replaced. -/
def insert (name : String) (value : α) (values : Named α) : Named α := update name (fun _ => value) values

/-- The value of a name. -/
def get? (values : Named α) (name : String) : Option α :=
  match values with
  | [] => none
  | (name', value) :: rest => if name = name' then some value else get? rest name

/-- The family without the value of one name. -/
def erase (values : Named α) (name : String) : Named α := values.filter fun entry => entry.1 != name

/-- The values inserted one after the other. -/
def ofList (values : List (String × α)) : Named α :=
  values.foldl (fun family (name, value) => insert name value family) []

/-- The names in their order. -/
def names (values : Named α) : List String := values.map (·.1)

/-- The family with each value replaced by what a function makes of it. -/
def mapValues (f : α → β) (values : Named α) : Named β :=
  values.map fun (name, value) => (name, f value)

/-- The items of a list under the names that a function gives them, in the order of the list. -/
def group (key : α → String) (items : List α) : Named (List α) :=
  items.foldl (fun groups item => update (key item) (fun group => group.getD [] ++ [item]) groups) []

theorem get?_update (name name' : String) (f : Option α → α) (values : Named α)
    (h : values.Pairwise fun a b => a.1 < b.1) :
    get? (update name f values) name' =
      if name' = name then some (f (get? values name)) else get? values name' := by
  induction values with
  | nil => by_cases e : name' = name <;> simp [update, get?, e]
  | cons entry rest ih =>
    have hrest := ih (List.Pairwise.of_cons h)
    unfold update
    split
    · rename_i hlt
      have hne : name ≠ entry.1 := fun e => String.lt_irrefl _ (e ▸ hlt)
      have hnone : get? rest name = none := by
        have hall : ∀ b ∈ rest, name ≠ b.1 := fun b hb e =>
          String.lt_irrefl _ (e ▸ String.lt_trans hlt (List.rel_of_pairwise_cons h hb))
        clear ih hrest h
        induction rest with
        | nil => rfl
        | cons b rest ih =>
          simp only [get?, hall b (by simp), if_false]
          exact ih fun c hc => hall c (by simp [hc])
      by_cases e : name' = name
      · simp [get?, e, hne, hnone]
      · simp [get?, e]
    · split
      · rename_i heq
        by_cases e : name' = name
        · simp [get?, e, heq]
        · simp [get?, ← heq, e]
      · rename_i hne
        by_cases e : name' = entry.1
        · have : name' ≠ name := fun e' => hne (e'.symm.trans e)
          simp [get?, ← e, this]
        · simp only [get?, e, if_false, hne, hrest]

end Named

end EntityHistory
