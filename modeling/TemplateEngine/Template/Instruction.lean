import TemplateEngine.Message.Bundle
import TemplateEngine.Render.Error

namespace TemplateEngine

/-- Where an instruction reads a value from. -/
inductive ValueRef
  /-- A constant. -/
  | literal (slot : Slot)
  /-- A parameter of the template; an absent one reads as null. -/
  | param (name : String)
  /-- An injected value; an absent one reads as null. -/
  | injected (name : String)

inductive CallData
  | none
  /-- The parameters of the caller. -/
  | all
  /-- Values by name, passed on without being read. -/
  | params (values : List (String × ValueRef))

/-- A call of whichever implementation of a delegate is active. -/
structure DelegateCall where
  callee : String
  /-- Read when the call starts; null is no variant. -/
  variant : ValueRef
  /-- Whether nothing is written when there is no implementation. -/
  allowEmpty : Bool
  data : CallData
  /-- The directives that the whole output of the callee passes through. -/
  escapers : List String

inductive Instruction
  | text (s : String)
  | print (value : ValueRef) (directives : List String)
  /-- Prints the result of a plugin function. -/
  | printCall (function : String) (args : List ValueRef) (directives : List String)
  /-- Writes a class name, renamed. -/
  | css (name : String)
  /-- Writes an identifier, renamed. -/
  | xid (name : String)
  | call (callee : String) (data : CallData)
  | delegateCall (call : DelegateCall)
  /-- Writes the message of an identity, or the fallback when no bundle has it. -/
  | message (id : MessageId) (fallback : Option Message) (values : List (String × ValueRef))

namespace Instruction

/-- Whether the instruction runs a callee. -/
def calls : Instruction → Bool
  | .call .. => true
  | .delegateCall _ => true
  | _ => false

end Instruction

structure Step where
  instruction : Instruction
  position : Option SourcePosition

structure Program where
  name : String
  steps : List Step

/-- A line of a program as it is written down: an instruction, or a place for those that follow. -/
inductive ProgramLine
  | position (p : SourcePosition)
  | instruction (i : Instruction)

namespace ValueRef

def slot (params injected : Record) : ValueRef → Slot
  | .literal slot => slot
  | .param name => Record.field params name
  | .injected name => Record.field injected name

end ValueRef

namespace CallData

/-- The parameters of the callee. Slots are handed on as they are, pending ones too. -/
def record (params injected : Record) : CallData → Record
  | .none => OrderedMap.empty
  | .all => params
  | .params values =>
    OrderedMap.ofList (values.map fun (name, value) => (name, value.slot params injected))

end CallData

namespace Program

/-- Gives every instruction the last place written down before it. -/
def place (position : Option SourcePosition) : List ProgramLine → List Step
  | [] => []
  | .position p :: rest => place (some p) rest
  | .instruction i :: rest => ⟨i, position⟩ :: place position rest

def ofLines (name : String) (lines : List ProgramLine) : Program := ⟨name, place .none lines⟩

end Program

end TemplateEngine
