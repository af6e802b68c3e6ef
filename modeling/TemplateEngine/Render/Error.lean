import TemplateEngine.Message.Bundle
import TemplateEngine.Message.Error
import TemplateEngine.Value.Resolve

namespace TemplateEngine

structure SourcePosition where
  line : UInt32
  column : UInt32
deriving DecidableEq, Inhabited

/-- A template that an error passed through, and the place it was at. -/
structure TemplateFrame where
  template : String
  position : Option SourcePosition
deriving DecidableEq, Inhabited

/-- Why a render, or the preparation of one, failed. -/
inductive ErrorKind
  /-- The render was resumed before from the same handle. -/
  | alreadyResumed
  | alreadyDone
  /-- The output was asked for before the render was done. -/
  | notDone (status : String)
  | noActiveDelegate (name variant : String)
  /-- Several active packages implement one delegate. -/
  | conflictingDelegates (name variant : String) (packages : List String)
  | duplicateDelegate (name variant package : String)
  | duplicateTemplate (name : String)
  | nonStrictTemplate (template : String) (expected : ContentKind)
  | kindMismatch (template : String) (expected actual : ContentKind)
  /-- Sanitized content was asked of a template that declares no kind. -/
  | strictRequired (template : String)
  | unknownTemplate (name : String)
  | unknownDirective (name : String)
  | unknownFunction (name : String)
  /-- No bundle has the message, and the template brings none. -/
  | missingMessage (id : MessageId)
  | message (error : MessageError)
  | data (error : DataError)
  | sink (error : SinkError)
  /-- Render options that do not parse. -/
  | invalidOptions
  /-- A directive or a function refused its input. -/
  | evaluation (reason : String)
  /-- Calls nest more deeply than the context allows. -/
  | callsTooDeep
deriving DecidableEq, Inhabited

/-- A cause, with the templates that it passed through on its way out, the innermost first. -/
structure RenderError where
  kind : ErrorKind
  frames : List TemplateFrame
deriving DecidableEq, Inhabited

namespace TemplateFrame

/-- The template's name, followed by line and column where there are any. -/
def text (frame : TemplateFrame) : String :=
  match frame.position with
  | none => frame.template
  | some p => frame.template ++ ":" ++ toString p.line.toNat ++ ":" ++ toString p.column.toNat

end TemplateFrame

namespace ErrorKind

/-- An error of data; a sink that refused the text of a value is a failure of the sink. -/
def ofData : DataError → ErrorKind
  | .sink e => .sink e
  | e => .data e

def name : ErrorKind → String
  | .alreadyResumed => "AlreadyResumed"
  | .alreadyDone => "AlreadyDone"
  | .notDone _ => "NotDone"
  | .noActiveDelegate .. => "NoActiveDelegate"
  | .conflictingDelegates .. => "ConflictingDelegates"
  | .duplicateDelegate .. => "DuplicateDelegate"
  | .duplicateTemplate _ => "DuplicateTemplate"
  | .nonStrictTemplate .. => "NonStrictTemplate"
  | .kindMismatch .. => "ContentKindMismatch"
  | .strictRequired _ => "StrictRequired"
  | .unknownTemplate _ => "UnknownTemplate"
  | .unknownDirective _ => "UnknownPrintDirective"
  | .unknownFunction _ => "UnknownFunction"
  | .missingMessage _ => "MissingMessage"
  | .message e => "Message." ++ e.name
  | .data e => "Data." ++ e.name
  | .sink _ => "Io"
  | .invalidOptions => "Options"
  | .evaluation _ => "Evaluation"
  | .callsTooDeep => "CallsTooDeep"

def cause? : ErrorKind → Option SinkError
  | .sink e => some e
  | .message (.sink e) => some e
  | .data (.sink e) => some e
  | _ => none

def text : ErrorKind → String
  | .alreadyResumed => "continue_render() has already been called on this continuation"
  | .alreadyDone => "Render is already done; there is nothing to continue"
  | .notDone status => "Render is not done yet (last result: " ++ status ++ ")"
  | .noActiveDelegate name variant =>
    "Found no active impl for delegate call to '" ++ name ++ "' (variant '" ++ variant
      ++ "') and allowemptydefault was not set"
  | .conflictingDelegates name variant packages =>
    "For delegate template '" ++ name ++ "' (variant '" ++ variant
      ++ "'), found active implementations with equal priority in delegate packages "
      ++ Text.shownList (packages.map Text.quoted)
  | .duplicateDelegate name variant package =>
    "Found multiple deltemplates with the same name (" ++ name ++ "), variant ('" ++ variant
      ++ "') and package (" ++ package ++ ")"
  | .duplicateTemplate name => "Template registered more than once: " ++ name
  | .nonStrictTemplate template expected =>
    "Cannot render a non strict template '" ++ template ++ "' as '" ++ expected.name ++ "'"
  | .kindMismatch template expected actual =>
    "Expected template '" ++ template ++ "' to be kind=\"" ++ expected.name ++ "\" but was kind=\""
      ++ actual.name ++ "\""
  | .strictRequired template =>
    "Cannot render non strict template '" ++ template ++ "' as sanitized content"
  | .unknownTemplate name => "Unknown template: " ++ name
  | .unknownDirective name => "Unknown print directive: " ++ name
  | .unknownFunction name => "Unknown function: " ++ name
  | .missingMessage id => "No message with id " ++ toString id.toNat ++ " in any bundle"
  | .message e => e.text
  | .data e => e.text
  | .sink e => "I/O error: " ++ e.message
  | .invalidOptions => "Invalid render options"
  | .evaluation reason => "Evaluation error: " ++ reason
  | .callsTooDeep => "Template calls nest too deeply"

end ErrorKind

namespace RenderError

def ofKind (kind : ErrorKind) : RenderError := ⟨kind, []⟩

def withFrame (e : RenderError) (template : String) (position : Option SourcePosition) : RenderError :=
  { e with frames := e.frames ++ [⟨template, position⟩] }

/-- The error in words, with a line for every frame. -/
def text (e : RenderError) : String :=
  e.kind.text ++ String.join (e.frames.map (fun frame => "\n  at " ++ frame.text))

end RenderError

end TemplateEngine
