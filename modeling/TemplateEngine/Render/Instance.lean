import TemplateEngine.Render.Escaped
import TemplateEngine.Template.Registry

namespace TemplateEngine

/-- A program that runs: the instructions that it has not completed yet, and what they read. -/
structure Activation where
  name : String
  todo : List Step
  params : Record
  injected : Record

/-- A template in the course of a render. -/
inductive Instance
  /-- Writes nothing. -/
  | empty
  /-- The pieces of text that are left. -/
  | chunks (rest : List String)
  /-- A program, and the callee in flight. Only calls look at the callee: it is that of the first instruction, if
  that one is a call that has started. -/
  | program (activation : Activation) (callee : Option Instance)
  /-- A template whose output passes through directives. -/
  | escaped (wrapper : Escaped Instance)

instance : Inhabited Instance := ⟨.empty⟩

namespace Step

/-- The callee in flight that a step goes on with. Steps that do not call do not look at it. -/
def inFlight (step : Step) (callee : Option Instance) : Option Instance :=
  if step.instruction.calls then callee else none

@[simp] theorem inFlight_none (step : Step) : step.inFlight none = none := by
  simp [inFlight]

theorem inFlight_of_calls {step : Step} (calls : step.instruction.calls = true) (callee : Option Instance) :
    step.inFlight callee = callee := if_pos calls

theorem inFlight_eq_some {step : Step} {slot : Option Instance} {callee : Instance} :
    step.inFlight slot = some callee ↔ step.instruction.calls = true ∧ slot = some callee := by
  simp [inFlight]

end Step

namespace TemplateEntry

def start (entry : TemplateEntry) (params injected : Record) : Instance :=
  match entry.body with
  | .program p => .program ⟨p.name, p.steps, params, injected⟩ none
  | .chunks texts => .chunks texts
  | .empty => .empty

end TemplateEntry

namespace Instance

/-- Passes the whole output of an instance through directives, as content of a kind if one is given. -/
def withEscapers (inner : Instance) (directives : List PrintDirective) (kind : Option ContentKind) :
    Instance := .escaped ⟨inner, directives, kind, .empty⟩

end Instance

end TemplateEngine
