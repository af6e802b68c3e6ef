import Mathlib.Logic.Relation
import TemplateEngine.Proofs.Equality.Records

namespace TemplateEngine

namespace Binary64

variable {x y z : Binary64}

theorem same_iff : x.same y = true ↔
    x.isNaN = false ∧ y.isNaN = false ∧ (x = y ∨ x.isZero = true ∧ y.isZero = true) := by
  have bits : x.bits = y.bits ↔ x = y := by
    cases x
    cases y
    simp
  simp [same, bits, and_assoc]

theorem same_self_iff : x.same x = true ↔ x.isNaN = false := by
  simp [same_iff]

theorem same_symm (equal : x.same y = true) : y.same x = true := by
  obtain ⟨left, right, bits⟩ := same_iff.mp equal
  exact same_iff.mpr ⟨right, left, bits.imp Eq.symm And.symm⟩

theorem same_trans (equal : x.same y = true) (equal' : y.same z = true) : x.same z = true := by
  obtain ⟨left, -, bits⟩ := same_iff.mp equal
  obtain ⟨-, right, bits'⟩ := same_iff.mp equal'
  refine same_iff.mpr ⟨left, right, ?_⟩
  rcases bits with rfl | ⟨zero, zero'⟩
  · exact bits'
  · rcases bits' with rfl | ⟨-, zero'⟩
    · exact .inr ⟨zero, zero'⟩
    · exact .inr ⟨zero, zero'⟩

end Binary64

/-- A value occurs in another one, or is that one itself. What cells hold does not occur in it. -/
inductive Value.OccursIn (v : Value) : Value → Prop
  | itself : OccursIn v v
  | item {items w} (member : .ready w ∈ items) (inside : OccursIn v w) : OccursIn v (.list items)
  | field {fields : Record} {name w} (found : fields.get? name = some (.ready w)) (inside : OccursIn v w) :
      OccursIn v (.record fields)

/-- The second value is the first one with the fields of one record in it in another order. -/
inductive Value.Reorders : Value → Value → Prop
  | fields {fields fields' : Record} (order : fields.toList.Perm fields'.toList) :
      Reorders (.record fields) (.record fields')
  | item {before after v w} (inside : Reorders v w) :
      Reorders (.list (before ++ .ready v :: after)) (.list (before ++ .ready w :: after))
  | field {fields : Record} {name v w} (found : fields.get? name = some (.ready v)) (inside : Reorders v w) :
      Reorders (.record fields) (.record (fields.insert name (.ready w)))

namespace Slot

/-- A value occurs in a slot. Nothing occurs in a cell. -/
def Contains (slot : Slot) (v : Value) : Prop := ∃ w, slot = .ready w ∧ v.OccursIn w

inductive Reorders : Slot → Slot → Prop
  | ready {v w} (values : v.Reorders w) : Reorders (.ready v) (.ready w)

variable {a b c : Slot}

theorem Equals.symm (equal : a.Equals b) : b.Equals a := by
  induction a using nested generalizing b with
  | deferred c =>
    obtain rfl := deferred_equals_iff.mp equal
    exact equal
  | plain v plain =>
    obtain rfl := (plain_equals_iff plain).mp equal
    exact equal
  | float x =>
    obtain ⟨y, rfl, same⟩ := float_equals_iff.mp equal
    exact float_equals_iff.mpr ⟨x, rfl, Binary64.same_symm same⟩
  | list items each =>
    obtain ⟨others, rfl, same⟩ := list_equals_iff.mp equal
    refine list_equals_iff.mpr ⟨items, rfl, ?_⟩
    clear equal
    induction same with
    | nil => exact .nil
    | cons first later ih =>
      obtain ⟨head, tail⟩ := List.forall_mem_cons.mp each
      exact .cons (head first) (ih tail)
  | record fields each =>
    obtain ⟨others, rfl, same⟩ := record_equals_iff.mp equal
    obtain ⟨names, same⟩ := OrderedMap.forall_rel_iff.mp same
    refine record_equals_iff.mpr ⟨fields, rfl, OrderedMap.forall_rel_iff.mpr ⟨fun name => (names name).symm, ?_⟩⟩
    intro name slot slot' found found'
    exact each name slot' found' (same name slot' slot found' found)

theorem Equals.trans (equal : a.Equals b) (equal' : b.Equals c) : a.Equals c := by
  induction a using nested generalizing b c with
  | deferred d =>
    obtain rfl := deferred_equals_iff.mp equal
    exact equal'
  | plain v plain =>
    obtain rfl := (plain_equals_iff plain).mp equal
    exact equal'
  | float x =>
    obtain ⟨y, rfl, same⟩ := float_equals_iff.mp equal
    obtain ⟨z, rfl, same'⟩ := float_equals_iff.mp equal'
    exact float_equals_iff.mpr ⟨z, rfl, Binary64.same_trans same same'⟩
  | list items each =>
    obtain ⟨others, rfl, same⟩ := list_equals_iff.mp equal
    obtain ⟨further, rfl, same'⟩ := list_equals_iff.mp equal'
    refine list_equals_iff.mpr ⟨further, rfl, ?_⟩
    clear equal equal'
    induction same generalizing further with
    | nil =>
      cases same'
      exact .nil
    | cons first later ih =>
      cases same' with
      | cons first' later' =>
        obtain ⟨head, tail⟩ := List.forall_mem_cons.mp each
        exact .cons (head first first') (ih tail _ later')
  | record fields each =>
    obtain ⟨others, rfl, same⟩ := record_equals_iff.mp equal
    obtain ⟨further, rfl, same'⟩ := record_equals_iff.mp equal'
    obtain ⟨names, same⟩ := OrderedMap.forall_rel_iff.mp same
    obtain ⟨names', same'⟩ := OrderedMap.forall_rel_iff.mp same'
    refine record_equals_iff.mpr ⟨further, rfl, OrderedMap.forall_rel_iff.mpr
      ⟨fun name => (names name).trans (names' name), fun name slot last found found' => ?_⟩⟩
    have present : (others.get? name).isSome := by rw [names' name, found', Option.isSome_some]
    obtain ⟨middle, known⟩ := Option.isSome_iff_exists.mp present
    exact each name slot found (same name slot middle found known) (same' name middle last known found')

/-- Where a slot equals itself every value that occurs in it does so too. -/
theorem Equals.of_occursIn {v w : Value} (inside : v.OccursIn w) (equal : (ready w).Equals (.ready w)) :
    (ready v).Equals (.ready v) := by
  induction inside with
  | itself => exact equal
  | item member inside ih =>
    obtain ⟨_, ⟨⟩, same⟩ := list_equals_iff.mp equal
    exact ih (List.forall₂_same.mp same _ member)
  | @field fields name u found inside ih =>
    obtain ⟨_, ⟨⟩, same⟩ := record_equals_iff.mp equal
    have here := same name
    rw [found] at here
    exact ih (Option.rel_some_some.mp here)

/-- A slot equals itself exactly if no NaN occurs in it. -/
theorem equals_self_iff : a.Equals a ↔ ∀ x, a.Contains (.float x) → x.isNaN = false := by
  constructor
  · rintro equal x ⟨w, rfl, inside⟩
    obtain ⟨_, ⟨⟩, same⟩ := float_equals_iff.mp (equal.of_occursIn inside)
    exact Binary64.same_self_iff.mp same
  · intro numeric
    induction a using nested with
    | deferred c => exact deferred_equals_iff.mpr rfl
    | plain v plain => exact (plain_equals_iff plain).mpr rfl
    | float x => exact float_equals_iff.mpr ⟨x, rfl, Binary64.same_self_iff.mpr (numeric x ⟨_, rfl, .itself⟩)⟩
    | list items each =>
      refine list_equals_iff.mpr ⟨items, rfl, List.forall₂_same.mpr fun slot member => each slot member ?_⟩
      rintro x ⟨w, rfl, inside⟩
      exact numeric x ⟨_, rfl, .item member inside⟩
    | record fields each =>
      refine record_equals_iff.mpr ⟨fields, rfl, OrderedMap.forall_rel_iff.mpr
        ⟨fun name => Iff.rfl, fun name slot slot' found found' => ?_⟩⟩
      rw [found] at found'
      obtain rfl := Option.some.inj found'
      refine each name slot found ?_
      rintro x ⟨w, rfl, inside⟩
      exact numeric x ⟨_, rfl, .field found inside⟩

theorem Equals.of_values_reorder {v w : Value} (reorders : v.Reorders w) (equal : (ready v).Equals (.ready v)) :
    (ready v).Equals (.ready w) := by
  induction reorders with
  | @fields fields fields' order =>
    obtain ⟨_, ⟨⟩, same⟩ := record_equals_iff.mp equal
    refine record_equals_iff.mpr ⟨fields', rfl, fun name => ?_⟩
    rw [← OrderedMap.get?_of_perm order name]
    exact same name
  | @item before after v w inside ih =>
    obtain ⟨_, ⟨⟩, same⟩ := list_equals_iff.mp equal
    refine list_equals_iff.mpr ⟨_, rfl, ?_⟩
    obtain ⟨front, rest⟩ := List.forall_mem_append.mp (List.forall₂_same.mp same)
    obtain ⟨here, back⟩ := List.forall_mem_cons.mp rest
    exact List.rel_append (List.forall₂_same.mpr front) (.cons (ih here) (List.forall₂_same.mpr back))
  | @field fields name v w found inside ih =>
    obtain ⟨_, ⟨⟩, same⟩ := record_equals_iff.mp equal
    refine record_equals_iff.mpr ⟨_, rfl, fun other => ?_⟩
    rw [OrderedMap.get?_insert]
    split
    next here =>
      have self := same other
      rw [here, found] at self ⊢
      exact .some (ih (Option.rel_some_some.mp self))
    next => exact same other

/-- Where a slot equals itself, it equals what it becomes when the fields in it are put into another order. -/
theorem Equals.of_reorders (equal : a.Equals a) (reorders : Relation.ReflTransGen Reorders a b) : a.Equals b := by
  induction reorders with
  | refl => exact equal
  | @tail b c earlier last ih =>
    cases last with
    | ready values => exact ih.trans (.of_values_reorder values (ih.symm.trans ih))

/-- Equality of slots is a partial equivalence. It holds of a slot and itself exactly if no NaN occurs in it, and then
of all slots that differ from it only in the order of the fields in it. A cell equals itself alone. -/
theorem equality_partial_equivalence (a b c : Slot) :
    (a.same b = true → b.same a = true) ∧ (a.same b = true → b.same c = true → a.same c = true) ∧
      (a.same a = true ↔ ∀ x, a.Contains (.float x) → x.isNaN = false) ∧
      (a.same a = true → Relation.ReflTransGen Reorders a b → a.same b = true) ∧
      ∀ cell, (a.same (.deferred cell) = true ↔ a = .deferred cell) ∧
        (Slot.same (.deferred cell) b = true ↔ b = .deferred cell) := by
  refine ⟨Equals.symm, Equals.trans, equals_self_iff, Equals.of_reorders, fun cell => ⟨?_, ?_⟩⟩
  · constructor
    · intro equal
      exact (deferred_equals_iff.mp (Equals.symm equal)).symm
    · rintro rfl
      exact deferred_equals_iff.mpr rfl
  · exact deferred_equals_iff.trans eq_comm

/-- A cart with lines of its own and a total. -/
def cart (line : Record) (total : Binary64) : Slot :=
  .ready (.record (OrderedMap.ofList
    [("lines", .ready (.list [.ready (.record line)])), ("total", .ready (.float total))]))

/-- Carts with a price that is not known yet. The order of the fields of a line does not matter, nor does the sign of a
zero, but no cart has a NaN for its total and equals itself. -/
theorem equality_partial_equivalence_cart :
    let line : Record := OrderedMap.ofList [("count", .ready (.integer 2)), ("price", .deferred ⟨0⟩)]
    let line' : Record := OrderedMap.ofList [("price", .deferred ⟨0⟩), ("count", .ready (.integer 2))]
    let zero : Binary64 := ⟨0⟩
    let nan : Binary64 := ⟨0x7ff8000000000000⟩
    (cart line zero).same (cart line' zero) = true ∧ (cart line' zero).same (cart line zero.negate) = true ∧
      (cart line zero).same (cart line zero.negate) = true ∧ ¬ (cart line nan).same (cart line nan) = true := by
  intro line line' zero nan
  have order : line.toList.Perm line'.toList := List.Perm.swap _ _ _
  have lines : (Value.list [.ready (.record line)]).Reorders (.list [.ready (.record line')]) :=
    @Value.Reorders.item [] [] _ _ (.fields order)
  have reorders : (cart line zero).Reorders (cart line' zero) :=
    .ready (@Value.Reorders.field _ "lines" _ _ rfl lines)
  obtain ⟨-, trans, -, reordered, -⟩ :=
    equality_partial_equivalence (cart line zero) (cart line' zero) (cart line zero.negate)
  obtain ⟨-, -, numeric, -, -⟩ := equality_partial_equivalence (cart line nan) .null .null
  have swapped := reordered (by decide +kernel) (.single reorders)
  have signed : (cart line' zero).same (cart line zero.negate) = true := by decide +kernel
  refine ⟨swapped, signed, trans swapped signed, fun equal => ?_⟩
  have inside : (cart line nan).Contains (.float nan) := ⟨_, rfl, @Value.OccursIn.field _ _ "total" _ rfl .itself⟩
  have isNumber := numeric.mp equal nan inside
  revert isNumber
  decide +kernel

end Slot

end TemplateEngine
