import Mathlib.Data.List.Forall2
import TemplateEngine.Proofs.Slots

namespace TemplateEngine

variable {R : Slot → Slot → Prop} {params injected params' injected' : Record}

/-- What is read under one name corresponds, whatever the name. -/
def Record.Corresponds (R : Slot → Slot → Prop) (r r' : Record) : Prop :=
  ∀ name, R (Record.field r name) (Record.field r' name)

/-- References to the same parameter or injected value, or to literals that correspond. -/
inductive ValueRef.Corresponds (R : Slot → Slot → Prop) : ValueRef → ValueRef → Prop
  | literal {slot slot'} (corresponds : R slot slot') : Corresponds R (.literal slot) (.literal slot')
  | param (name : String) : Corresponds R (.param name) (.param name)
  | injected (name : String) : Corresponds R (.injected name) (.injected name)

/-- References under names, in the same order. -/
def ValueRef.NamedCorrespond (R : Slot → Slot → Prop) (values values' : List (String × ValueRef)) : Prop :=
  List.Forall₂ (fun entry entry' => entry.1 = entry'.1 ∧ entry.2.Corresponds R entry'.2) values values'

inductive CallData.Corresponds (R : Slot → Slot → Prop) : CallData → CallData → Prop
  | none : Corresponds R .none .none
  | all : Corresponds R .all .all
  | params {values values'} (each : ValueRef.NamedCorrespond R values values') :
      Corresponds R (.params values) (.params values')

theorem ValueRef.Corresponds.slot {ref ref' : ValueRef} (refs : ref.Corresponds R ref')
    (given : Record.Corresponds R params params') (common : Record.Corresponds R injected injected') :
    R (ref.slot params injected) (ref'.slot params' injected') := by
  cases refs with
  | literal corresponds => exact corresponds
  | param name => exact given name
  | injected name => exact common name

theorem ValueRef.Corresponds.refl {q : Slot → Prop} (same : ∀ slot, q slot → R slot slot) {ref : ValueRef}
    (literal : ref.Literal q) : ref.Corresponds R ref := by
  cases ref with
  | literal slot => exact .literal (same slot literal)
  | param name => exact .param name
  | injected name => exact .injected name

theorem ValueRef.Corresponds.same (same : ∀ slot, R slot slot) (ref : ValueRef) : ref.Corresponds R ref :=
  .refl (fun slot (_ : True) => same slot) (by cases ref <;> trivial)

theorem CallData.Corresponds.refl {q : Slot → Prop} (same : ∀ slot, q slot → R slot slot) {data : CallData}
    (literals : data.Literals q) : data.Corresponds R data := by
  cases data with
  | none => exact .none
  | all => exact .all
  | params values =>
    refine .params (List.forall₂_same.mpr fun entry member => ⟨rfl, ?_⟩)
    exact .refl same (literals entry member)

/-- The last entries under a name correspond. -/
theorem Record.Corresponds.ofList (null : R .null .null) {entries entries' : List (String × Slot)}
    (each : List.Forall₂ (fun entry entry' => entry.1 = entry'.1 ∧ R entry.2 entry'.2) entries entries') :
    Record.Corresponds R (OrderedMap.ofList entries) (OrderedMap.ofList entries') := by
  intro name
  rw [Record.field_eq, Record.field_eq, OrderedMap.get?_ofList, OrderedMap.get?_ofList]
  have reversed := List.rel_reverse each
  generalize entries.reverse = entries, entries'.reverse = entries' at reversed
  induction reversed with
  | nil => exact null
  | @cons entry entry' rest rest' first later ih =>
    rw [List.find?_cons, List.find?_cons, ← first.1]
    cases entry.1 == name with
    | true => exact first.2
    | false => exact ih

theorem CallData.Corresponds.record {data data' : CallData} (corresponds : data.Corresponds R data')
    (null : R .null .null) (given : Record.Corresponds R params params')
    (common : Record.Corresponds R injected injected') :
    Record.Corresponds R (data.record params injected) (data'.record params' injected') := by
  cases corresponds with
  | none => exact fun name => null
  | all => exact given
  | params each =>
    refine .ofList null ?_
    rw [List.forall₂_map_left_iff, List.forall₂_map_right_iff]
    exact each.imp fun entry entry' same => ⟨same.1, same.2.slot given common⟩

end TemplateEngine
