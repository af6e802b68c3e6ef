import TemplateEngine.Delegate.Table
import TemplateEngine.Template.Instruction
import TemplateEngine.Template.Metadata

namespace TemplateEngine

inductive TemplateBody
  | program (p : Program)
  /-- One piece of text in each step. -/
  | chunks (texts : List String)
  | empty

structure TemplateEntry where
  name : String
  metadata : TemplateMetadata
  body : TemplateBody

/-- All templates, and the delegate implementations among them. -/
structure Registry where
  templates : SortedMap String TemplateEntry
  delegates : DelegateTable TemplateEntry

namespace TemplateEntry

def inspect (entry : TemplateEntry) : String :=
  Text.shownStruct "TemplateEntry"
    [("name", Text.quoted entry.name), ("metadata", entry.metadata.inspect)] true

end TemplateEntry

namespace Registry

def empty : Registry := ⟨SortedMap.empty, .empty⟩

instance : Inhabited Registry := ⟨empty⟩

/-- Adds a template, as a delegate implementation first and then under its own name. -/
def add (registry : Registry) (entry : TemplateEntry) : Except ErrorKind Registry := do
  let delegates ← match entry.metadata.role with
    | none => .ok registry.delegates
    | some role => registry.delegates.add role.name role.package role.variant entry
  if registry.templates.contains entry.name then .error (.duplicateTemplate entry.name)
  else return ⟨registry.templates.insert entry.name entry, delegates⟩

/-- The registry of some templates. The first one that cannot be added decides the error. -/
def build (entries : List TemplateEntry) : Except ErrorKind Registry := entries.foldlM add empty

def lookup (registry : Registry) (name : String) : Except ErrorKind TemplateEntry :=
  (registry.templates.get? name).elim (.error (.unknownTemplate name)) .ok

def contains (registry : Registry) (name : String) : Bool := registry.templates.contains name

def size (registry : Registry) : Nat := registry.templates.size

def isEmpty (registry : Registry) : Bool := registry.templates.isEmpty

end Registry

end TemplateEngine
