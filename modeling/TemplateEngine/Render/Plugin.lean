import TemplateEngine.Data.SortedMap
import TemplateEngine.Render.Error
import TemplateEngine.Text.Html

namespace TemplateEngine

/-- A transformation of printed values. Its name starts with a bar. An error of a directive may carry frames
of its own, which stay in front of those that a render adds to it. -/
structure PrintDirective where
  name : String
  apply : CellStore → Value → List Value → Except RenderError Value
  /-- The room that is left for calls is known to the render alone. -/
  ignoresRoom : ∀ {σ value args e}, apply σ value args = .error e → e.kind ≠ .callsTooDeep

/-- A function that computes a printed value. Its errors are those of a directive. -/
structure PluginFunction where
  name : String
  call : CellStore → List Value → Except RenderError Value
  ignoresRoom : ∀ {σ args e}, call σ args = .error e → e.kind ≠ .callsTooDeep

abbrev DirectiveTable := SortedMap String PrintDirective

abbrev FunctionTable := SortedMap String PluginFunction

namespace PrintDirective

/-- Escapes text for HTML unless it is HTML already. -/
def escapeHtml : PrintDirective where
  name := "|escapeHtml"
  apply σ value _ :=
    if value.contentKind = some .html then .ok value
    else .ok (.sanitized ⟨Text.escapeHtml (σ.text value), .html⟩)
  ignoresRoom failed := by split at failed <;> cases failed

/-- Prints the value as it is. -/
def noAutoescape : PrintDirective := ⟨"|noAutoescape", fun _ value _ => .ok value, nofun⟩

/-- Prints the value as it is, where a directive is required. -/
def identity : PrintDirective := ⟨"|id", fun _ value _ => .ok value, nofun⟩

def inspect (directive : PrintDirective) : String :=
  Text.shownStruct "FnDirective" [("name", Text.quoted directive.name)] false

end PrintDirective

namespace PluginFunction

def inspect (function : PluginFunction) : String :=
  Text.shownStruct "FnFunction" [("name", Text.quoted function.name)] false

end PluginFunction

namespace DirectiveTable

/-- Adds a directive under its name, in place of one that has it already. -/
def register (table : DirectiveTable) (directive : PrintDirective) : DirectiveTable :=
  table.insert directive.name directive

def builtin : DirectiveTable :=
  [PrintDirective.escapeHtml, .noAutoescape, .identity].foldl register SortedMap.empty

def lookup (table : DirectiveTable) (name : String) : Except ErrorKind PrintDirective :=
  (table.get? name).elim (.error (.unknownDirective name)) .ok

end DirectiveTable

namespace FunctionTable

/-- Adds a function under its name, in place of one that has it already. -/
def register (table : FunctionTable) (function : PluginFunction) : FunctionTable :=
  table.insert function.name function

def lookup (table : FunctionTable) (name : String) : Except ErrorKind PluginFunction :=
  (table.get? name).elim (.error (.unknownFunction name)) .ok

end FunctionTable

end TemplateEngine
