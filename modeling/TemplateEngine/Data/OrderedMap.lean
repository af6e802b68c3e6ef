namespace TemplateEngine

universe u

/-- Values under distinct names. The index lists the names, the newest first. -/
inductive Fields (α : Type u) : List String → Type u
  | nil : Fields α []
  | snoc {names : List String} (older : Fields α names) (name : String) (fresh : name ∉ names)
      (value : α) : Fields α (name :: names)

namespace Fields

variable {α : Type u}

/-- The value under `name`. -/
def get? (name : String) {names : List String} : Fields α names → Option α
  | .nil => none
  | .snoc older key _ value => if name = key then some value else get? name older

/-- The fields with another value under `name`; nothing changes if there is no such name. -/
def set (name : String) (value : α) {names : List String} : Fields α names → Fields α names
  | .nil => .nil
  | .snoc older key fresh old =>
    if name = key then .snoc older key fresh value else .snoc (set name value older) key fresh old

/-- The names with their values, the newest first. -/
def newestFirst {names : List String} : Fields α names → List (String × α)
  | .nil => []
  | .snoc older name _ value => (name, value) :: newestFirst older

theorem get?_set (name other : String) (value : α) {names : List String} (fields : Fields α names) :
    (fields.set name value).get? other =
      if other = name ∧ name ∈ names then some value else fields.get? other := by
  induction fields with
  | nil => simp [set, get?]
  | snoc older key fresh old ih => grind [set, get?]

theorem get?_isSome {names : List String} (name : String) (fields : Fields α names) :
    (fields.get? name).isSome ↔ name ∈ names := by
  induction fields with
  | nil => simp [get?]
  | snoc older key fresh old ih => grind [get?]

theorem map_fst_newestFirst {names : List String} (fields : Fields α names) :
    fields.newestFirst.map Prod.fst = names := by
  induction fields with
  | nil => rfl
  | snoc older key fresh old ih => simp [newestFirst, ih]

end Fields

/-- A finite map from names, in the order in which the names were first inserted. -/
structure OrderedMap (α : Type u) where
  newestNames : List String
  fields : Fields α newestNames

namespace OrderedMap

variable {α : Type u}

def empty : OrderedMap α := ⟨[], .nil⟩

instance : Inhabited (OrderedMap α) := ⟨empty⟩

/-- The names, the oldest first. -/
def names (m : OrderedMap α) : List String := m.newestNames.reverse

/-- The names with their values, the oldest name first. -/
def toList (m : OrderedMap α) : List (String × α) := m.fields.newestFirst.reverse

/-- The value under `name`. -/
def get? (m : OrderedMap α) (name : String) : Option α := m.fields.get? name

/-- Whether there is a value under `name`. -/
def contains (m : OrderedMap α) (name : String) : Bool := m.newestNames.contains name

def size (m : OrderedMap α) : Nat := m.newestNames.length

def isEmpty (m : OrderedMap α) : Bool := m.newestNames.isEmpty

/-- Puts a value under `name`. A name that is already there keeps its place, a new one comes last. -/
def insert (m : OrderedMap α) (name : String) (value : α) : OrderedMap α :=
  if fresh : name ∉ m.newestNames then ⟨name :: m.newestNames, .snoc m.fields name fresh value⟩
  else ⟨m.newestNames, m.fields.set name value⟩

def ofList (pairs : List (String × α)) : OrderedMap α :=
  pairs.foldl (fun m pair => m.insert pair.1 pair.2) empty

theorem get?_insert (m : OrderedMap α) (name other : String) (value : α) :
    (m.insert name value).get? other = if other = name then some value else m.get? other := by
  unfold insert
  split
  next fresh => simp [get?, Fields.get?]
  next old =>
    have member : name ∈ m.newestNames := Decidable.not_not.1 old
    simp [get?, Fields.get?_set, member]

theorem names_insert (m : OrderedMap α) (name : String) (value : α) :
    (m.insert name value).names = if name ∈ m.names then m.names else m.names ++ [name] := by
  unfold insert names
  split
  next fresh => simp [fresh]
  next old =>
    have member : name ∈ m.newestNames := Decidable.not_not.1 old
    simp [member]

theorem get?_foldl_insert (pairs : List (String × α)) (m : OrderedMap α) (name : String) :
    (pairs.foldl (fun m pair => m.insert pair.1 pair.2) m).get? name =
      ((pairs.reverse.find? (fun pair => pair.1 == name)).map Prod.snd).or (m.get? name) := by
  induction pairs generalizing m with
  | nil => rfl
  | cons pair rest ih =>
    rw [List.foldl_cons, ih, get?_insert, List.reverse_cons, List.find?_append]
    cases rest.reverse.find? (fun pair => pair.1 == name) with
    | some found => rfl
    | none =>
      by_cases same : pair.1 = name
      · simp [same]
      · simp [same, Ne.symm same]

/-- Of several pairs with one name the last counts. -/
theorem get?_ofList (pairs : List (String × α)) (name : String) :
    (ofList pairs).get? name = (pairs.reverse.find? (fun pair => pair.1 == name)).map Prod.snd := by
  rw [ofList, get?_foldl_insert]
  exact Option.or_none

end OrderedMap

end TemplateEngine
