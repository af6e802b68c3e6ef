import TemplateEngine.Engine.Options
import TemplateEngine.Render.Handle
import TemplateEngine.Render.Step
import TemplateEngine.Template.InjectedKeys

namespace TemplateEngine

/-- Templates, and the plugins that all renders share. -/
structure Engine where
  registry : Registry
  functions : FunctionTable
  directives : DirectiveTable
  converter : Converter
  defaultBundle : MessageBundle

structure Renderer where
  engine : Engine
  entry : TemplateEntry
  data : Record
  injected : Record
  packages : NameSet
  bundle : MessageBundle
  cssNames : Option Renaming
  xidNames : Option Renaming
  kind : ContentKind
  /-- Whether the kind was asked for, rather than being the one that strict templates are checked for. -/
  kindRequested : Bool

structure PreparedRender where
  entry : TemplateEntry
  data : Record
  injected : Record
  context : RenderContext
  kind : ContentKind
  kindRequested : Bool

/-- A render into a sink, in the environment it was started in. -/
structure SinkRender (S : Type) where
  context : RenderContext
  handle : Handle Instance S

/-- A render into a buffer, in the environment it was started in. -/
structure BufferedRender where
  context : RenderContext
  handle : BufferedHandle Instance

/-- Checks the declared kind of a template against the expected one. Text is expected of any template;
any other kind has to be the declared one. -/
def enforceKind (template : String) (expected : ContentKind) (declared : Option ContentKind) :
    Except ErrorKind Unit :=
  if expected = .text then .ok ()
  else
    match declared with
    | none => .error (.nonStrictTemplate template expected)
    | some actual =>
      if actual = expected then .ok () else .error (.kindMismatch template expected actual)

namespace Engine

/-- An engine with plugins besides the standard directives. Messages of the default bundle come from template
sources, so they follow the rules of the default locale. -/
def new (registry : Registry) (functions : List PluginFunction) (directives : List PrintDirective)
    (converter : Converter) (defaultBundle : MessageBundle) : Engine where
  registry := registry
  functions := functions.foldl FunctionTable.register SortedMap.empty
  directives := directives.foldl DirectiveTable.register DirectiveTable.builtin
  converter := converter
  defaultBundle := defaultBundle.withLocale defaultLocale

/-- A renderer for a template, without data. -/
def renderer (engine : Engine) (template : String) : Except ErrorKind Renderer :=
  (engine.registry.lookup template).map fun entry =>
    { engine := engine
      entry := entry
      data := OrderedMap.empty
      injected := OrderedMap.empty
      packages := SortedMap.empty
      bundle := .empty
      cssNames := none
      xidNames := none
      kind := .html
      kindRequested := false }

def inspect (engine : Engine) : String :=
  Text.shownStruct "SoySauce"
    [("templates", toString engine.registry.size), ("functions", toString engine.functions.size),
     ("print_directives", toString engine.directives.size)] true

end Engine

namespace Renderer

/-- Sets the parameters from host data. -/
def withData (r : Renderer) (data : Json) : Except ErrorKind Renderer :=
  ((r.engine.converter.convertRecord data).mapError .ofData).map fun record => { r with data := record }

/-- Sets the injected values from host data. -/
def withInjected (r : Renderer) (data : Json) : Except ErrorKind Renderer :=
  ((r.engine.converter.convertRecord data).mapError .ofData).map fun record =>
    { r with injected := record }

def withKind (r : Renderer) (kind : ContentKind) : Renderer :=
  { r with kind := kind, kindRequested := true }

def withOptions (r : Renderer) (o : RenderOptions) : Renderer :=
  { r with
    kind := o.kind.getD r.kind
    kindRequested := o.kind.isSome || r.kindRequested
    packages := o.packages.getD r.packages
    cssNames := o.cssNames.or r.cssNames
    xidNames := o.xidNames.or r.xidNames }

def contextConfig (r : Renderer) : ContextConfig where
  registry := r.engine.registry
  packages := r.packages
  functions := r.engine.functions
  directives := r.engine.directives
  converter := r.engine.converter
  cssNames := r.cssNames
  xidNames := r.xidNames
  bundle := r.bundle
  defaultBundle := r.engine.defaultBundle

/-- Freezes the configuration, unless its packages make a delegate ambiguous. -/
def prepare (r : Renderer) : Except ErrorKind PreparedRender :=
  r.contextConfig.build.map fun context =>
    { entry := r.entry
      data := r.data
      injected := r.injected
      context := context
      kind := r.kind
      kindRequested := r.kindRequested }

def inspect (r : Renderer) : String :=
  Text.shownStruct "Renderer"
    [("template", Text.quoted r.entry.name), ("active_packages", r.packages.inspect),
     ("expected_content_kind", r.kind.inspect)] true

end Renderer

namespace PreparedRender

/-- Checks the kind of the template where the caller asked for one or the template declares one. -/
def checkKind (p : PreparedRender) : Except ErrorKind Unit :=
  if p.kindRequested || p.entry.metadata.kind.isSome then
    enforceKind p.entry.name p.kind p.entry.metadata.kind
  else .ok ()

/-- Checks that the template declares a kind, and the expected one. -/
def checkStrict (p : PreparedRender) : Except ErrorKind Unit :=
  if p.entry.metadata.kind.isNone then .error (.strictRequired p.entry.name)
  else enforceKind p.entry.name p.kind p.entry.metadata.kind

def start {S : Type} [Sink S] (p : PreparedRender) (σ : CellStore) (sink : S) :
    Except RenderError (Handle Instance S) :=
  Handle.start (Instance.advance p.context σ) (p.entry.start p.data p.injected) sink

def render {S : Type} [Sink S] (p : PreparedRender) (σ : CellStore) (sink : S) :
    Except RenderError (SinkRender S) := do
  p.checkKind.mapError RenderError.ofKind
  let handle ← p.start σ sink
  return ⟨p.context, handle⟩

def renderText (p : PreparedRender) (σ : CellStore) : Except RenderError BufferedRender := do
  p.checkKind.mapError RenderError.ofKind
  let handle ← p.start σ OutputBuffer.empty
  return ⟨p.context, handle, none⟩

/-- Starts a render of a strict template into content of the expected kind. -/
def renderStrict (p : PreparedRender) (σ : CellStore) : Except RenderError BufferedRender := do
  p.checkStrict.mapError RenderError.ofKind
  let handle ← p.start σ OutputBuffer.empty
  return ⟨p.context, handle, some p.kind⟩

def inspect (p : PreparedRender) : String :=
  Text.shownStruct "PreparedRenderer"
    [("template", Text.quoted p.entry.name), ("context", p.context.inspect)] true

end PreparedRender

namespace SinkRender

variable {S : Type}

def resume [Sink S] (r : SinkRender S) (σ : CellStore) :
    Except RenderError (SinkRender S) × SinkRender S :=
  match r.handle.resume (Instance.advance r.context σ) with
  | (next, old) => (next.map (fun handle => { r with handle := handle }), { r with handle := old })

end SinkRender

namespace BufferedRender

def resume (r : BufferedRender) (σ : CellStore) : Except RenderError BufferedRender × BufferedRender :=
  match r.handle.resume (Instance.advance r.context σ) with
  | (next, old) => (next.map (fun handle => { r with handle := handle }), { r with handle := old })

end BufferedRender

end TemplateEngine
