import TemplateEngine.Proofs.Templates

namespace TemplateEngine

namespace ValueRef

/-- The reference in the caller for a reference in a callee: a parameter is the last reference that the call
lists under its name, or null. -/
def inline : CallData → ValueRef → ValueRef
  | .all, ref => ref
  | .none, .param _ => .literal .null
  | .params values, .param name =>
    ((values.reverse.find? (fun entry => entry.1 == name)).map Prod.snd).getD (.literal .null)
  | _, ref => ref

end ValueRef

namespace CallData

def inline (inner data : CallData) : CallData :=
  match inner with
  | .params values => .params (values.map fun entry => (entry.1, entry.2.inline data))
  | inner => inner

end CallData

namespace Instruction

/-- The instruction in the caller for an instruction of a callee. -/
def inline (data : CallData) : Instruction → Instruction
  | .print ref directives => .print (ref.inline data) directives
  | .printCall function args directives => .printCall function (args.map (ValueRef.inline data)) directives
  | .call callee inner => .call callee (inner.inline data)
  | .delegateCall target =>
    .delegateCall { target with variant := target.variant.inline data, data := target.data.inline data }
  | .message id fallback values => .message id fallback (values.map fun entry => (entry.1, entry.2.inline data))
  | instruction => instruction

theorem calls_inline (data : CallData) (instruction : Instruction) :
    (instruction.inline data).calls = instruction.calls := by
  cases instruction <;> rfl

/-- The instruction does not pass on all parameters of its template, unless these are all of the caller's. -/
def Inlinable (data : CallData) (instruction : Instruction) : Prop :=
  data = .all ∨ CallData.all ∉ instruction.passes

end Instruction

def Step.inline (data : CallData) (step : Step) : Step := { step with instruction := step.instruction.inline data }

variable {params injected : Record}

/-- A reference of the callee reads the slot that its reference in the caller reads. -/
theorem ValueRef.slot_inline (data : CallData) (ref : ValueRef) :
    (ref.inline data).slot params injected = ref.slot (data.record params injected) injected := by
  cases data with
  | all => rfl
  | none =>
    cases ref with
    | literal slot => rfl
    | injected name => rfl
    | param name => rfl
  | params values =>
    cases ref with
    | literal slot => rfl
    | injected name => rfl
    | param name =>
      have listed : (values.map fun entry => (entry.1, entry.2.slot params injected)).reverse.find?
          (fun pair => pair.1 == name) =
          (values.reverse.find? fun entry => entry.1 == name).map
            fun entry => (entry.1, entry.2.slot params injected) := by
        rw [← List.map_reverse, List.find?_map]
        rfl
      rw [slot, CallData.record, Record.field_eq, OrderedMap.get?_ofList, listed, inline]
      cases values.reverse.find? fun entry => entry.1 == name <;> rfl

theorem ValueRef.read_inline (σ : CellStore) (data : CallData) (ref : ValueRef) :
    (ref.inline data).read σ params injected = ref.read σ (data.record params injected) injected := by
  rw [read, read, slot_inline]

theorem CallData.record_inline {data inner : CallData} (inlinable : data = .all ∨ inner ≠ .all) :
    (inner.inline data).record params injected = inner.record (data.record params injected) injected := by
  cases inner with
  | none => rfl
  | all =>
    rcases inlinable with rfl | impossible
    · rfl
    · exact absurd rfl impossible
  | params values =>
    rw [inline, record, record, List.map_map]
    congr 1
    refine List.map_congr_left fun entry _ => ?_
    simp only [Function.comp_apply, ValueRef.slot_inline]

/-- In the caller an inlined instruction does what the instruction does in the callee. -/
theorem Instruction.effect_inline (ctx : RenderContext) (σ : CellStore) (params injected : Record) {data : CallData}
    {instruction : Instruction} (inlinable : instruction.Inlinable data) :
    (instruction.inline data).effect ctx σ params injected =
      instruction.effect ctx σ (data.record params injected) injected := by
  have passed {inner : CallData} (passes : inner ∈ instruction.passes) : data = .all ∨ inner ≠ .all := by
    rcases inlinable with all | direct
    · exact .inl all
    · refine .inr ?_
      rintro rfl
      exact direct passes
  cases instruction with
  | text s => rfl
  | css name => rfl
  | xid name => rfl
  | print ref directives => rw [inline, effect, effect, ValueRef.read_inline]
  | printCall function args directives =>
    simp only [inline, effect, List.mapM_map, Function.comp_def, ValueRef.read_inline]
  | call callee inner => rw [inline, effect, effect, CallData.record_inline (passed rfl)]
  | delegateCall target =>
    simp only [inline, effect, DelegateCall.start, ValueRef.read_inline, CallData.record_inline (passed rfl)]
  | message id fallback values =>
    simp only [inline, effect, readPlaceholders, List.mapM_map, Function.comp_def, ValueRef.read_inline]

end TemplateEngine
