import TemplateEngine.Render.Plugin

namespace TemplateEngine

namespace PrintDirective

def stockApply (name : String) (σ : CellStore) (value : Value) (args : List Value) :
    Except RenderError Value :=
  let text := σ.text value
  match name with
  | "|wrap" => .ok (.string ("w(" ++ text ++ ")"))
  | "|upper" => .ok (.string (text.map Char.toUpper))
  | "|len" => .ok (.integer (Int64.ofNat text.utf8ByteSize))
  | "|kind" => .ok (.string (value.contentKind.elim "none" ContentKind.name))
  | "|html" => .ok (.sanitized ⟨text, .html⟩)
  | "|js" => .ok (.sanitized ⟨text, .js⟩)
  | "|nargs" => .ok (.integer (Int64.ofNat args.length))
  | "|null" => .ok .null
  | "|escapeHtml" => .ok (.string ("custom:" ++ text))
  | _ => .error (.ofKind (.evaluation ("directive " ++ name ++ " on " ++ text)))

def stock (name : String) : PrintDirective where
  name := name
  apply := stockApply name
  ignoresRoom {σ value args e} failed := by
    unfold stockApply at failed
    split at failed <;> cases failed
    simp [RenderError.ofKind]

end PrintDirective

namespace PluginFunction

def stockCall (name : String) (σ : CellStore) (args : List Value) : Except RenderError Value :=
  match name with
  | "sum" => .ok (.integer ((args.filterMap Value.asInteger).foldl (· + ·) 0))
  | "count" => .ok (.integer (Int64.ofNat args.length))
  | "concat" => .ok (.string (String.join (args.map σ.text)))
  | "first" => .ok (args.head?.getD .null)
  | "list" => .ok (.list (args.map .ready))
  | "truthy" => .ok (.bool (args.all Value.truthy))
  | _ => .error (.ofKind (.evaluation ("function " ++ name ++ " with " ++ toString args.length ++ " args")))

def stock (name : String) : PluginFunction where
  name := name
  call := stockCall name
  ignoresRoom {σ args e} failed := by
    unfold stockCall at failed
    split at failed <;> cases failed
    simp [RenderError.ofKind]

end PluginFunction

end TemplateEngine
