import TemplateEngine.Render.Context

namespace TemplateEngine

/-- Why an instruction does nothing. -/
inductive Obstacle
  /-- It reads a value that is not known yet. -/
  | awaits (cell : CellId)
  | fails (e : RenderError)

/-- What an instruction does. -/
inductive Effect
  | write (text : String)
  /-- Writes the text of a message; a sink that refuses it is reported as a failure of the message. -/
  | writeMessage (text : String)
  /-- Writes nothing, without touching the sink. -/
  | silent
  /-- Starts a callee, which the instruction runs to its end. -/
  | enter (callee : Instance)

namespace Obstacle

/-- Something is wrong that no plugin has reported, so the error has no frames yet. -/
def ofKind (kind : ErrorKind) : Obstacle := .fails (.ofKind kind)

@[simp] theorem ofKind_ne_awaits (kind : ErrorKind) (c : CellId) : ofKind kind ≠ .awaits c := nofun

@[simp] theorem ofKind_eq_fails {kind : ErrorKind} {e : RenderError} : ofKind kind = .fails e ↔ .ofKind kind = e :=
  ⟨Obstacle.fails.inj, congrArg Obstacle.fails⟩

end Obstacle

namespace ValueRef

/-- The value of a reference, or why it cannot be read. -/
def read (σ : CellStore) (params injected : Record) (ref : ValueRef) : Except Obstacle Value :=
  let slot := ref.slot params injected
  match slot.awaits σ with
  | some c => .error (.awaits c)
  | none => (slot.resolve σ).mapError (fun e => .ofKind (.ofData e))

end ValueRef

namespace Value

/-- The value as a placeholder: an integer is a number, and anything else its text. -/
def toPlaceholder (σ : CellStore) : Value → PlaceholderValue
  | .integer n => .number n
  | value => .text (σ.text value)

/-- The value as the variant of a delegate call: null is no variant, and anything else its text. -/
def toVariant (σ : CellStore) : Value → String
  | .null => ""
  | value => σ.text value

end Value

namespace Effect

def writeValue (σ : CellStore) (value : Value) : Effect := .write (σ.text value)

def ofMessageText : Option String → Effect
  | none => .silent
  | some text => .writeMessage text

end Effect

namespace DelegateCall

/-- The instance that a delegate call starts. The variant is read first; then the implementation is chosen,
and last its directives are looked up. -/
def start (ctx : RenderContext) (σ : CellStore) (params injected : Record) (call : DelegateCall) :
    Except Obstacle Instance := do
  let variant ← call.variant.read σ params injected
  let passed := call.data.record params injected
  let resolved ← (ctx.selectDelegate call.callee (variant.toVariant σ) call.allowEmpty passed
    injected).mapError .ofKind
  if call.escapers.isEmpty then return resolved.template
  else
    let directives ← (call.escapers.mapM ctx.directives.lookup).mapError .ofKind
    return resolved.template.withEscapers directives resolved.kind

end DelegateCall

namespace Instruction

def chooseMessage (ctx : RenderContext) (id : MessageId) (fallback : Option Message) :
    Except ErrorKind Message :=
  ((ctx.message? id).or fallback).elim (.error (.missingMessage id)) .ok

/-- The values of placeholders; of two with one name the later counts. -/
def readPlaceholders (σ : CellStore) (params injected : Record) (values : List (String × ValueRef)) :
    Except Obstacle Placeholders :=
  (values.mapM fun entry =>
    (ValueRef.read σ params injected entry.2).map (fun value => (entry.1, value.toPlaceholder σ))).map
      SortedMap.ofList

/-- What an instruction does with the parameters and the injected values of its template. Values are read
in the order in which they are written down, so the first one that is missing is waited for. -/
def effect (ctx : RenderContext) (σ : CellStore) (params injected : Record) :
    Instruction → Except Obstacle Effect
  | .text s => .ok (.write s)
  | .print ref directives => do
    let value ← ref.read σ params injected
    let value ← (ctx.applyDirectives σ directives value).mapError .fails
    return .writeValue σ value
  | .printCall function args directives => do
    let values ← args.mapM (fun ref => ref.read σ params injected)
    let function ← (ctx.functions.lookup function).mapError .ofKind
    let value ← (function.call σ values).mapError .fails
    let value ← (ctx.applyDirectives σ directives value).mapError .fails
    return .writeValue σ value
  | .css name => .ok (.write (ctx.renameCss name))
  | .xid name => .ok (.write (ctx.renameXid name))
  | .call callee data =>
    ((ctx.create callee (data.record params injected) injected).map .enter).mapError .ofKind
  | .delegateCall target => (target.start ctx σ params injected).map .enter
  | .message id fallback values => do
    let values ← readPlaceholders σ params injected values
    let message ← (chooseMessage ctx id fallback).mapError .ofKind
    let text ← (message.text? values).mapError (fun e => .ofKind (.message e))
    return .ofMessageText text

/-- Only calls start a callee. -/
theorem calls_of_enter {ctx : RenderContext} {σ : CellStore} {params injected : Record} {instruction : Instruction}
    {callee : Instance} (entered : instruction.effect ctx σ params injected = .ok (.enter callee)) :
    instruction.calls = true := by
  cases instruction with
  | call | delegateCall => rfl
  | text | css | xid => simp [effect] at entered
  | print | printCall =>
    simp only [effect, bind, Except.bind, pure, Except.pure] at entered
    repeat' split at entered
    all_goals simp [Effect.writeValue] at entered
  | message =>
    simp only [effect, bind, Except.bind, pure, Except.pure, Effect.ofMessageText] at entered
    repeat' split at entered
    all_goals simp at entered

end Instruction

end TemplateEngine
