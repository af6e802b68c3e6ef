import TemplateEngine.Proofs.Templates

namespace TemplateEngine

/-- All slots of a record have a property. -/
def Record.Each (q : Slot → Prop) (r : Record) : Prop := ∀ name slot, r.get? name = some slot → q slot

def ValueRef.Literal (q : Slot → Prop) : ValueRef → Prop
  | .literal slot => q slot
  | _ => True

def CallData.Literals (q : Slot → Prop) : CallData → Prop
  | .params values => ∀ entry ∈ values, entry.2.Literal q
  | _ => True

namespace Instruction

/-- The literals of an instruction have a property, those it reads and those it passes on. -/
structure Literals (q : Slot → Prop) (instruction : Instruction) : Prop where
  reads : ∀ ref ∈ instruction.reads, ref.Literal q
  passes : ∀ data ∈ instruction.passes, data.Literals q

end Instruction

/-- The slots of a program have a property: its parameters, its injected values and its literals. -/
structure Activation.Slots (q : Slot → Prop) (frame : Activation) : Prop where
  params : Record.Each q frame.params
  injected : Record.Each q frame.injected
  literals : ∀ step ∈ frame.todo, step.instruction.Literals q

def Parts.slots (q : Slot → Prop) : Parts := ⟨Activation.Slots q, fun _ => True⟩

namespace RenderContext

/-- All templates are programs, and their literals have a property. -/
def Programs (ctx : RenderContext) (q : Slot → Prop) : Prop :=
  ∀ entry, ctx.Offers entry →
    ∃ p : Program, entry.body = .program p ∧ ∀ step ∈ p.steps, step.instruction.Literals q

end RenderContext

variable {ctx : RenderContext} {σ : CellStore} {params injected : Record}

theorem Record.Each.empty (q : Slot → Prop) : Each q OrderedMap.empty := by
  intro name slot found
  cases found

section Inherited

variable {q : Slot → Prop} (null : q Slot.null)

include null in
theorem Record.Each.field {r : Record} (each : Each q r) (name : String) : q (Record.field r name) := by
  rw [Record.field_eq]
  cases found : r.get? name with
  | none => exact null
  | some slot => exact each name slot found

include null in
theorem ValueRef.Literal.slot {ref : ValueRef} (literal : ref.Literal q) (params' : Record.Each q params)
    (injected' : Record.Each q injected) : q (ref.slot params injected) := by
  cases ref with
  | literal slot => exact literal
  | param name => exact params'.field null name
  | injected name => exact injected'.field null name

include null in
theorem CallData.Literals.record {data : CallData} (literals : data.Literals q) (params' : Record.Each q params)
    (injected' : Record.Each q injected) : Record.Each q (data.record params injected) := by
  cases data with
  | none => exact .empty q
  | all => exact params'
  | params values =>
    intro name slot found
    rw [CallData.record, OrderedMap.get?_ofList] at found
    obtain ⟨pair, last, rfl⟩ := Option.map_eq_some_iff.mp found
    have listed := List.mem_reverse.mp (List.mem_of_find?_eq_some last)
    obtain ⟨entry, member, rfl⟩ := List.mem_map.mp listed
    exact (literals entry member).slot null params' injected'

include null in
/-- A property of slots that null has is handed down from every program to its callees. -/
theorem Activation.slots_hereditary (programs : ctx.Programs q) {d : PrintDirective → Prop}
    (directives : ∀ name directive, ctx.directives.lookup name = .ok directive → d directive) :
    Hereditary ctx σ ⟨Activation.Slots q, d⟩ := by
  refine Hereditary.of_start ?_ ?_ directives
  · intro frame first rest slots
    exact ⟨slots.params, slots.injected, fun step member => slots.literals step (List.mem_cons_of_mem _ member)⟩
  · intro frame first rest entry data slots calls passed
    obtain ⟨p, body, literals⟩ := programs entry calls.offers
    have handed := ((slots.literals first List.mem_cons_self).passes data passed).record null
      slots.params slots.injected
    simp only [TemplateEntry.start, body]
    exact .program ⟨handed, slots.injected, literals⟩

end Inherited

/-- A template on offer is made of programs from its start. -/
theorem TemplateEntry.start_madeOf {q : Slot → Prop} {d : PrintDirective → Prop} {entry : TemplateEntry}
    (programs : ctx.Programs q) (offered : ctx.Offers entry) (params' : Record.Each q params)
    (injected' : Record.Each q injected) :
    (entry.start params injected).MadeOf ⟨Activation.Slots q, d⟩ := by
  obtain ⟨p, body, literals⟩ := programs entry offered
  simp only [start, body]
  exact .program ⟨params', injected', literals⟩

/-- A greeting to a name that is not known when the render starts. -/
def greetingProgram : Program :=
  ⟨"greeting", [⟨.text "Dear ", none⟩, ⟨.print (.literal (.deferred ⟨0⟩)) [], none⟩]⟩

theorem greetingProgram_literals {q : Slot → Prop} (name : q (.deferred ⟨0⟩)) :
    ∀ step ∈ greetingProgram.steps, step.instruction.Literals q := by
  intro step member
  simp only [greetingProgram, List.mem_cons, List.not_mem_nil, or_false] at member
  rcases member with rfl | rfl
  · exact ⟨fun ref reads => (by cases reads), fun data passes => (by cases passes)⟩
  · refine ⟨fun ref reads => ?_, fun data passes => (by cases passes)⟩
    obtain rfl := List.mem_singleton.mp reads
    exact name

theorem programs_greeting {q : Slot → Prop} (name : q (.deferred ⟨0⟩)) (callDepth : Nat) :
    (RenderContext.ofPrograms [greetingProgram] callDepth).Programs q := by
  intro entry offered
  obtain ⟨p, member, body⟩ := RenderContext.offers_ofPrograms offered
  obtain rfl := List.mem_singleton.mp member
  exact ⟨_, body, greetingProgram_literals name⟩

end TemplateEngine
