import TemplateEngine.Data.SortedMap
import TemplateEngine.Render.Error

namespace TemplateEngine

/-- The implementations of one delegate in one variant; those of packages in the order in which they were
added. -/
structure DelegateGroup (α : Type) where
  default : Option α
  packages : List (String × α)

structure DelegateTable (α : Type) where
  groups : SortedMap String (SortedMap String (DelegateGroup α))

namespace DelegateGroup

variable {α : Type}

def empty : DelegateGroup α := ⟨none, []⟩

/-- Whether there is an implementation for a package; the empty name stands for the default. -/
def has (group : DelegateGroup α) (package : String) : Bool :=
  if package.isEmpty then group.default.isSome else group.packages.any (fun entry => entry.1 == package)

/-- Adds an implementation for a package; the empty name stands for the default. -/
def add (group : DelegateGroup α) (package : String) (value : α) : DelegateGroup α :=
  if package.isEmpty then { group with default := some value }
  else { group with packages := group.packages ++ [(package, value)] }

def activePackages (group : DelegateGroup α) (active : NameSet) : List String :=
  (group.packages.filter (fun entry => active.contains entry.1)).map Prod.fst

/-- The first implementation of an active package. -/
def active? (group : DelegateGroup α) (active : NameSet) : Option α :=
  (group.packages.find? (fun entry => active.contains entry.1)).map Prod.snd

/-- All implementations, the default first. -/
def values (group : DelegateGroup α) : List α := group.default.toList ++ group.packages.map Prod.snd

end DelegateGroup

namespace DelegateTable

variable {α : Type}

def empty : DelegateTable α := ⟨SortedMap.empty⟩

instance : Inhabited (DelegateTable α) := ⟨empty⟩

def variants (table : DelegateTable α) (name : String) : SortedMap String (DelegateGroup α) :=
  (table.groups.get? name).getD SortedMap.empty

def group? (table : DelegateTable α) (name variant : String) : Option (DelegateGroup α) :=
  (table.variants name).get? variant

/-- Adds an implementation for a package; the empty package stands for the default. A second one for the
same delegate, variant and package is refused. -/
def add (table : DelegateTable α) (name package variant : String) (value : α) :
    Except ErrorKind (DelegateTable α) :=
  let group := (table.group? name variant).getD .empty
  if group.has package then .error (.duplicateDelegate name variant package)
  else
    let variants := (table.variants name).insert variant (group.add package value)
    .ok ⟨table.groups.insert name variants⟩

def isEmpty (table : DelegateTable α) : Bool := table.groups.isEmpty

def contains (table : DelegateTable α) (name : String) : Bool := table.groups.contains name

/-- All implementations of a delegate, variant by variant. -/
def implementations (table : DelegateTable α) (name : String) : List α :=
  (table.variants name).values.flatMap DelegateGroup.values

/-- The first delegate and variant that several active packages implement, and these packages. -/
def conflict? (table : DelegateTable α) (active : NameSet) : Option (String × String × List String) :=
  table.groups.toList.findSome? fun (name, variants) =>
    variants.toList.findSome? fun (variant, group) =>
      let packages := group.activePackages active
      if 1 < packages.length then some (name, variant, packages) else none

end DelegateTable

end TemplateEngine
