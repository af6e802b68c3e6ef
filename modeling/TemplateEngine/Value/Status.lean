import TemplateEngine.Value.Inspect

namespace TemplateEngine

inductive Status
  /-- All output has been written. -/
  | done
  /-- The sink asked for a pause, and more output is to come. -/
  | limited
  /-- The value of a cell is needed and is not known yet. -/
  | detached (cell : CellId)
deriving DecidableEq, Inhabited

namespace Status

def awaited : Status → Option CellId
  | .detached c => some c
  | _ => none

/-- The status in words; an awaited cell is named by its label. -/
def text (σ : CellStore) : Status → String
  | .done => "DONE"
  | .limited => "LIMITED"
  | .detached c => "DETACH(" ++ σ.label c ++ ")"

def inspect (σ : CellStore) : Status → String
  | .done => "Done"
  | .limited => "Limited"
  | .detached c => Text.shownTagged "Detach" (σ.inspectHandle c)

end Status

end TemplateEngine
