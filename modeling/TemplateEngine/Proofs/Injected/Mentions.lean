import TemplateEngine.Proofs.CallGraph.Registry
import TemplateEngine.Proofs.Templates

namespace TemplateEngine

namespace DelegateView

variable {α : Type} {view : DelegateView α} {name variant : String} {a : α}

/-- The implementation that a call goes to is one of those of its delegate. -/
theorem mem_implementations_of_select? (selected : view.select? name variant = some a) :
    a ∈ view.table.implementations name := by
  have implements {variant : String} {group : DelegateGroup α} (found : view.table.group? name variant = some group)
      (member : a ∈ group.values) : a ∈ view.table.implementations name :=
    DelegateTable.mem_implementations.mpr ⟨group, SortedMap.mem_values_of_get? found, member⟩
  have ofActive {group : DelegateGroup α} (active : group.active? view.active = some a) : a ∈ group.values := by
    obtain ⟨entry, found, rfl⟩ := Option.map_eq_some_iff.mp active
    exact List.mem_append_right _ (List.mem_map_of_mem (List.mem_of_find?_eq_some found))
  have ofDefault {group : DelegateGroup α} (default : group.default = some a) : a ∈ group.values :=
    List.mem_append_left _ (Option.mem_toList.mpr default)
  simp only [select?, Option.or_eq_some_iff, Option.bind_eq_some_iff] at selected
  rcases selected with ⟨group, found, active⟩ |
    ⟨-, ⟨group, found, active⟩ | ⟨-, ⟨group, found, default⟩ | ⟨-, group, found, default⟩⟩⟩
  · exact implements found (ofActive active)
  · split at found
    · cases found
    · exact implements found (ofActive active)
  · exact implements found (ofDefault default)
  · split at found
    · cases found
    · exact implements found (ofDefault default)

end DelegateView

namespace CallData

/-- The references whose values are passed on. -/
def refs : CallData → List ValueRef
  | .params values => values.map Prod.snd
  | _ => []

variable {params injected other : Record}

theorem record_congr {data : CallData} (same : ∀ ref ∈ data.refs, ref.slot params injected = ref.slot params other) :
    data.record params injected = data.record params other := by
  cases data with
  | none | all => rfl
  | params values =>
    refine congrArg OrderedMap.ofList (List.map_congr_left fun entry member => ?_)
    exact congrArg (Prod.mk entry.1) (same entry.2 (List.mem_map_of_mem member))

end CallData

theorem ValueRef.read_congr {params injected other : Record} {ref : ValueRef} (σ : CellStore)
    (same : ref.slot params injected = ref.slot params other) :
    ref.read σ params injected = ref.read σ params other := by
  simp only [read, same]

namespace Instruction

/-- The references that an instruction holds. -/
def mentions (instruction : Instruction) : List ValueRef :=
  instruction.reads ++ instruction.passes.toList.flatMap CallData.refs

def callee? : Instruction → Option String
  | .call callee _ => some callee
  | _ => none

def delegate? : Instruction → Option String
  | .delegateCall target => some target.callee
  | _ => none

/-- Metadata that tell which injected values an instruction mentions and where its calls may go. -/
structure Declared (metadata : TemplateMetadata) (instruction : Instruction) : Prop where
  injected : ∀ key, ValueRef.injected key ∈ instruction.mentions → metadata.injectedKeys.contains key = true
  callee : ∀ name, instruction.callee? = some name → metadata.callees.contains name = true
  delegate : ∀ name, instruction.delegate? = some name → metadata.delegateCallees.contains name = true

variable {ctx : RenderContext} {σ : CellStore} {params injected other : Record}

theorem mapM_read_congr {refs : List ValueRef}
    (same : ∀ ref ∈ refs, ref.slot params injected = ref.slot params other) :
    refs.mapM (fun ref => ref.read σ params injected) = refs.mapM (fun ref => ref.read σ params other) := by
  induction refs with
  | nil => rfl
  | cons ref rest ih =>
    have first := ValueRef.read_congr σ (same ref List.mem_cons_self)
    rw [List.mapM_cons, List.mapM_cons, first, ih fun ref member => same ref (List.mem_cons_of_mem _ member)]

theorem readPlaceholders_congr {values : List (String × ValueRef)}
    (same : ∀ ref ∈ values.map Prod.snd, ref.slot params injected = ref.slot params other) :
    readPlaceholders σ params injected values = readPlaceholders σ params other values := by
  refine congrArg (Except.map SortedMap.ofList) ?_
  induction values with
  | nil => rfl
  | cons entry rest ih =>
    have first := ValueRef.read_congr σ (same entry.2 List.mem_cons_self)
    rw [List.mapM_cons, List.mapM_cons, first, ih fun ref member => same ref (List.mem_cons_of_mem _ member)]

/-- Instructions that call nothing do the same where they read the same. -/
theorem effect_congr {instruction : Instruction} (quiet : instruction.passes = none)
    (same : ∀ ref ∈ instruction.reads, ref.slot params injected = ref.slot params other) :
    instruction.effect ctx σ params injected = instruction.effect ctx σ params other := by
  cases instruction with
  | text | css | xid => rfl
  | print ref directives =>
    have read := ValueRef.read_congr σ (same ref (List.mem_singleton_self ref))
    simp only [effect, read]
  | printCall function args directives =>
    have read : args.mapM (fun ref => ref.read σ params injected) = args.mapM fun ref => ref.read σ params other :=
      mapM_read_congr same
    simp only [effect, read]
  | message id fallback values => simp only [effect, readPlaceholders_congr same]
  | call | delegateCall => cases quiet

end Instruction

/-- The metadata of a program declare every instruction of it. -/
def TemplateEntry.Truthful (entry : TemplateEntry) : Prop :=
  ∀ p, entry.body = .program p → ∀ step ∈ p.steps, step.instruction.Declared entry.metadata

namespace Program

def injectedKeys (p : Program) : List String :=
  (p.steps.flatMap fun step => step.instruction.mentions).filterMap fun
    | .injected key => some key
    | _ => none

/-- A program as a template, with the metadata that its instructions ask for. -/
def declaring (p : Program) (role : Option DelegateRole) : TemplateEntry where
  name := p.name
  metadata := {
    kind := none
    callees := NameSet.ofNames (p.steps.filterMap fun step => step.instruction.callee?)
    delegateCallees := NameSet.ofNames (p.steps.filterMap fun step => step.instruction.delegate?)
    injectedKeys := NameSet.ofNames p.injectedKeys
    role := role }
  body := .program p

theorem declaring_truthful (p : Program) (role : Option DelegateRole) : (p.declaring role).Truthful := by
  rintro _ ⟨⟩ step member
  refine ⟨fun key mentions => ?_, fun name calls => ?_, fun name calls => ?_⟩
  · exact NameSet.contains_ofNames.mpr (List.mem_filterMap.mpr
      ⟨.injected key, List.mem_flatMap.mpr ⟨step, member, mentions⟩, rfl⟩)
  · exact NameSet.contains_ofNames.mpr (List.mem_filterMap.mpr ⟨step, member, calls⟩)
  · exact NameSet.contains_ofNames.mpr (List.mem_filterMap.mpr ⟨step, member, calls⟩)

end Program

end TemplateEngine
