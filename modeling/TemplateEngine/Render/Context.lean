import TemplateEngine.Delegate.View
import TemplateEngine.Message.Render
import TemplateEngine.Render.Instance
import TemplateEngine.Value.Convert

namespace TemplateEngine

abbrev Renaming := SortedMap String String

/-- Everything that a template may consult while it renders. -/
structure RenderContext where
  registry : Registry
  delegates : DelegateView TemplateEntry
  functions : FunctionTable
  directives : DirectiveTable
  converter : Converter
  cssNames : Option Renaming
  xidNames : Option Renaming
  bundle : MessageBundle
  defaultBundle : MessageBundle
  /-- How deeply template calls may nest. -/
  callDepth : Nat

structure ContextConfig where
  registry : Registry
  packages : NameSet
  functions : FunctionTable
  directives : DirectiveTable
  converter : Converter
  cssNames : Option Renaming
  xidNames : Option Renaming
  bundle : MessageBundle
  defaultBundle : MessageBundle

/-- The template that a delegate call goes to. Without an implementation its name is empty. -/
structure ResolvedCallee where
  template : Instance
  kind : Option ContentKind
  name : String

/-- How deeply template calls may nest where nothing else is said. -/
def standardCallDepth : Nat := 10000

namespace Renaming

/-- The new name; a name that is not renamed stays as it is. -/
def rename (names : Option Renaming) (name : String) : String :=
  (names.bind (fun known => known.get? name)).getD name

end Renaming

namespace ResolvedCallee

def inspect (callee : ResolvedCallee) : String :=
  Text.shownStruct "ResolvedCallee"
    [("name", Text.quoted callee.name),
     ("content_kind", Text.shownOption ContentKind.inspect callee.kind)] true

end ResolvedCallee

namespace ContextConfig

/-- A configuration with the standard directives and converter and nothing else. -/
def standard (registry : Registry) : ContextConfig where
  registry := registry
  packages := SortedMap.empty
  functions := SortedMap.empty
  directives := DirectiveTable.builtin
  converter := .json
  cssNames := none
  xidNames := none
  bundle := .empty
  defaultBundle := .empty

/-- The environment of a configuration, unless its packages make a delegate ambiguous. -/
def build (config : ContextConfig) : Except ErrorKind RenderContext :=
  (DelegateView.bind config.registry.delegates config.packages).map fun delegates =>
    { registry := config.registry
      delegates := delegates
      functions := config.functions
      directives := config.directives
      converter := config.converter
      cssNames := config.cssNames
      xidNames := config.xidNames
      bundle := config.bundle
      defaultBundle := config.defaultBundle
      callDepth := standardCallDepth }

end ContextConfig

namespace RenderContext

def packages (ctx : RenderContext) : NameSet := ctx.delegates.active

def create (ctx : RenderContext) (name : String) (params injected : Record) : Except ErrorKind Instance :=
  (ctx.registry.lookup name).map (fun entry => entry.start params injected)

/-- Starts the template that a delegate call goes to. Where there is none, an empty template stands in if
the call allows it. -/
def selectDelegate (ctx : RenderContext) (name variant : String) (allowEmpty : Bool)
    (params injected : Record) : Except ErrorKind ResolvedCallee :=
  match ctx.delegates.select? name variant with
  | some entry => .ok ⟨entry.start params injected, entry.metadata.kind, entry.name⟩
  | none =>
    if allowEmpty then .ok ⟨.empty, some .text, ""⟩ else .error (.noActiveDelegate name variant)

/-- The message of an identity in the active bundle, or else in the default bundle. -/
def message? (ctx : RenderContext) (id : MessageId) : Option Message :=
  (ctx.bundle.message? id).or (ctx.defaultBundle.message? id)

/-- The locale of the active bundle, or else of the default bundle. -/
def locale (ctx : RenderContext) : String :=
  (ctx.bundle.locale.or ctx.defaultBundle.locale).getD defaultLocale

def renameCss (ctx : RenderContext) (name : String) : String := Renaming.rename ctx.cssNames name

def renameXid (ctx : RenderContext) (name : String) : String := Renaming.rename ctx.xidNames name

/-- Looks up directives and applies them, one after the other. -/
def applyDirectives (ctx : RenderContext) (σ : CellStore) (names : List String) (value : Value) :
    Except RenderError Value :=
  names.foldlM
    (fun value name =>
      ((ctx.directives.lookup name).mapError .ofKind).bind (fun directive => directive.apply σ value []))
    value

def inspect (ctx : RenderContext) : String :=
  Text.shownStruct "RenderContext"
    [("templates", toString ctx.registry.size), ("active_delegate_packages", ctx.packages.inspect),
     ("locale", Text.quoted ctx.locale)] true

end RenderContext

end TemplateEngine
