import Mathlib.Data.List.Forall2
import Mathlib.Data.List.Perm.Subperm
import TemplateEngine.Value.Equality

namespace TemplateEngine

universe u

namespace Fields

variable {α : Type u} {names : List String}

theorem nodup_names (fields : Fields α names) : names.Nodup := by
  induction fields with
  | nil => exact .nil
  | snoc older name fresh value ih => exact List.nodup_cons.mpr ⟨fresh, ih⟩

theorem get?_eq_some_iff {fields : Fields α names} {name : String} {value : α} :
    fields.get? name = some value ↔ (name, value) ∈ fields.newestFirst := by
  induction fields with
  | nil => simp [get?, newestFirst]
  | @snoc names older key fresh newest ih =>
    have outside (other : α) : (key, other) ∉ older.newestFirst := by
      intro member
      rw [← older.map_fst_newestFirst] at fresh
      exact fresh (List.mem_map_of_mem member)
    by_cases same : name = key
    · subst same
      simp [get?, newestFirst, outside, eq_comm]
    · simp [get?, newestFirst, same, ih]

theorem get?_newest {name : String} {older : Fields α names} {fresh : name ∉ names} {newest : α} :
    (snoc older name fresh newest).get? name = some newest := by
  rw [get?, if_pos rfl]

theorem get?_older {name key : String} {older : Fields α names} {fresh : key ∉ names} {newest value : α}
    (found : older.get? name = some value) : (snoc older key fresh newest).get? name = some value := by
  have apart : name ≠ key := by
    rintro rfl
    exact fresh ((older.get?_isSome name).mp (by rw [found, Option.isSome_some]))
  rw [get?, if_neg apart, found]

/-- Of two maps with the same names the second has a value wherever the first one has one. -/
theorem exists_get? {fields : Fields α names} {name : String} {value : α} (found : fields.get? name = some value)
    (others : Fields α names) : ∃ other, others.get? name = some other := by
  rw [← Option.isSome_iff_exists, get?_isSome, ← fields.get?_isSome, found, Option.isSome_some]

theorem sizeOf_lt [SizeOf α] {fields : Fields α names} {name : String} {value : α}
    (found : fields.get? name = some value) : sizeOf value < sizeOf fields := by
  induction fields with
  | nil => cases found
  | @snoc names older key fresh newest ih =>
    rw [get?] at found
    rw [snoc.sizeOf_spec]
    split at found
    · obtain rfl := Option.some.inj found
      omega
    · have smaller := ih found
      omega

end Fields

namespace OrderedMap

variable {α : Type u} {m n : OrderedMap α}

theorem get?_eq_some_iff {name : String} {value : α} : m.get? name = some value ↔ (name, value) ∈ m.toList := by
  rw [get?, Fields.get?_eq_some_iff, toList, List.mem_reverse]

theorem sizeOf_lt [SizeOf α] {name : String} {value : α} (found : m.get? name = some value) :
    sizeOf value < sizeOf m := by
  have smaller := Fields.sizeOf_lt found
  rw [mk.sizeOf_spec]
  omega

/-- The order of fields does not matter for what is found. -/
theorem get?_of_perm (perm : m.toList.Perm n.toList) (name : String) : m.get? name = n.get? name := by
  refine Option.ext fun value => ?_
  rw [get?_eq_some_iff, get?_eq_some_iff, perm.mem_iff]

theorem isSome_get?_iff {name : String} : (m.get? name).isSome ↔ name ∈ m.newestNames :=
  m.fields.get?_isSome name

theorem size_eq (same : ∀ name, (m.get? name).isSome ↔ (n.get? name).isSome) : m.size = n.size := by
  refine List.Perm.length_eq ((List.perm_ext_iff_of_nodup m.fields.nodup_names n.fields.nodup_names).mpr fun name => ?_)
  rw [← isSome_get?_iff, ← isSome_get?_iff, same]

/-- Of two maps of one size neither has a name of its own if one of them has none. -/
theorem isSome_of_size_eq (size : m.size = n.size)
    (within : ∀ name, (m.get? name).isSome → (n.get? name).isSome) {name : String} (found : (n.get? name).isSome) :
    (m.get? name).isSome := by
  have subset : m.newestNames ⊆ n.newestNames := fun name member =>
    isSome_get?_iff.mp (within name (isSome_get?_iff.mpr member))
  have perm := (m.fields.nodup_names.subperm subset).perm_of_length_le (Nat.le_of_eq size.symm)
  exact isSome_get?_iff.mpr (perm.mem_iff.mpr (isSome_get?_iff.mp found))

/-- Maps are related name by name if they have the same names, with related values. -/
theorem forall_rel_iff {r : α → α → Prop} :
    (∀ name, Option.Rel r (m.get? name) (n.get? name)) ↔ (∀ name, (m.get? name).isSome ↔ (n.get? name).isSome) ∧
      ∀ name value value', m.get? name = some value → n.get? name = some value' → r value value' := by
  refine ⟨fun related => ⟨fun name => ?_, fun name value value' found found' => ?_⟩, fun ⟨names, each⟩ name => ?_⟩
  · have here := related name
    generalize m.get? name = x, n.get? name = y at here ⊢
    cases here <;> simp
  · have here := related name
    rw [found, found'] at here
    exact Option.rel_some_some.mp here
  · have here := names name
    have equal := each name
    generalize m.get? name = x, n.get? name = y at here equal ⊢
    cases x with
    | none =>
      cases y with
      | none => exact .none
      | some value' => simp at here
    | some value =>
      cases y with
      | none => simp at here
      | some value' => exact .some (equal value value' rfl rfl)

/-- To relate maps name by name it is enough to look for the fields of one and to count those of the other. -/
theorem forall_rel_iff_size {r : α → α → Prop} :
    (∀ name, Option.Rel r (m.get? name) (n.get? name)) ↔ m.size = n.size ∧
      ∀ name value, m.get? name = some value → ∃ value', n.get? name = some value' ∧ r value value' := by
  rw [forall_rel_iff]
  constructor
  · rintro ⟨names, each⟩
    refine ⟨size_eq names, fun name value found => ?_⟩
    have present : (m.get? name).isSome := by rw [found, Option.isSome_some]
    obtain ⟨value', found'⟩ := Option.isSome_iff_exists.mp ((names name).mp present)
    exact ⟨value', found', each name value value' found found'⟩
  · rintro ⟨size, within⟩
    have covers (name : String) (present : (m.get? name).isSome) : (n.get? name).isSome := by
      obtain ⟨value, found⟩ := Option.isSome_iff_exists.mp present
      obtain ⟨value', found', -⟩ := within name value found
      rw [found', Option.isSome_some]
    refine ⟨fun name => ⟨covers name, isSome_of_size_eq size covers⟩, fun name value value' found found' => ?_⟩
    obtain ⟨other, known, related⟩ := within name value found
    rw [found'] at known
    obtain rfl := Option.some.inj known
    exact related

end OrderedMap

/-- The slots compare as equal. -/
def Slot.Equals (a b : Slot) : Prop := a.same b = true

/-- The records have equal slots under the same names. -/
def Record.Equals (a b : Record) : Prop := ∀ name, Option.Rel Slot.Equals (a.get? name) (b.get? name)

theorem sameItems_iff {items others : List Slot} :
    sameItems items others = true ↔ List.Forall₂ Slot.Equals items others := by
  induction items generalizing others with
  | nil => cases others <;> simp [sameItems]
  | cons item rest ih =>
    cases others with
    | nil => simp [sameItems]
    | cons other others => simp [sameItems, ih, Slot.Equals]

theorem fieldsWithin_iff {names : List String} {fields : Fields Slot names} {other : Record} :
    fieldsWithin fields other = true ↔
      ∀ name slot, fields.get? name = some slot → ∃ found, other.get? name = some found ∧ slot.Equals found := by
  induction fields with
  | nil => simp [fieldsWithin, Fields.get?]
  | @snoc names older key fresh newest ih =>
    have both : fieldsWithin (.snoc older key fresh newest) other = true ↔
        (∃ found, other.get? key = some found ∧ newest.Equals found) ∧ fieldsWithin older other = true := by
      rw [fieldsWithin, Bool.and_eq_true]
      cases other.get? key <;> simp [Slot.Equals]
    refine (both.trans (and_congr_right' ih)).trans ⟨?_, fun all => ?_⟩
    · rintro ⟨first, others⟩ name slot found
      rw [Fields.get?] at found
      split at found
      next same =>
        obtain rfl := Option.some.inj found
        exact same ▸ first
      next => exact others name slot found
    · exact ⟨all key newest Fields.get?_newest, fun name slot found => all name slot (Fields.get?_older found)⟩

theorem Value.same_record_iff {a b : Record} :
    (Value.record a).same (.record b) = true ↔ Record.Equals a b := by
  rw [Record.Equals, OrderedMap.forall_rel_iff_size, Value.same, Bool.and_eq_true, beq_iff_eq, recordWithin,
    fieldsWithin_iff]
  rfl

/-- Values without parts that are compared for being the same. -/
def Value.IsPlain : Value → Prop
  | .null | .bool _ | .integer _ | .string _ | .sanitized _ => True
  | .float _ | .list _ | .record _ => False

namespace Slot

/-- What holds of a slot if it holds of all slots within holds of every slot. Cells are not looked into. -/
@[elab_as_elim]
theorem nested {Q : Slot → Prop} (deferred : ∀ c, Q (.deferred c)) (plain : ∀ v : Value, v.IsPlain → Q (.ready v))
    (float : ∀ x, Q (.ready (.float x)))
    (list : ∀ items : List Slot, (∀ slot ∈ items, Q slot) → Q (.ready (.list items)))
    (record : ∀ fields : Record, (∀ name slot, fields.get? name = some slot → Q slot) → Q (.ready (.record fields)))
    (slot : Slot) : Q slot := by
  match slot with
  | .deferred c => exact deferred c
  | .ready .null | .ready (.bool _) | .ready (.integer _) | .ready (.string _) | .ready (.sanitized _) =>
    exact plain _ trivial
  | .ready (.float x) => exact float x
  | .ready (.list items) => exact list items fun slot member => slot.nested deferred plain float list record
  | .ready (.record fields) =>
    exact record fields fun name slot found => slot.nested deferred plain float list record
termination_by sizeOf slot
decreasing_by
  · have smaller := List.sizeOf_lt_of_mem member
    simp
    omega
  · have smaller := OrderedMap.sizeOf_lt found
    simp
    omega

variable {b : Slot}

/-- A cell equals itself alone. -/
theorem deferred_equals_iff {c : CellId} : (Slot.deferred c).Equals b ↔ .deferred c = b := by
  cases b <;> simp [Equals, Slot.same]

theorem plain_equals_iff {v : Value} (plain : v.IsPlain) : (Slot.ready v).Equals b ↔ .ready v = b := by
  cases b with
  | deferred c => simp [Equals, Slot.same]
  | ready w =>
    cases v with
    | float | list | record => cases plain
    | null | bool | integer | string | sanitized => cases w <;> simp [Equals, Slot.same, Value.same]

theorem float_equals_iff {x : Binary64} :
    (Slot.ready (.float x)).Equals b ↔ ∃ y, b = .ready (.float y) ∧ x.same y = true := by
  cases b with
  | deferred c => simp [Equals, Slot.same]
  | ready w => cases w <;> simp [Equals, Slot.same, Value.same]

theorem list_equals_iff {items : List Slot} :
    (Slot.ready (.list items)).Equals b ↔ ∃ others, b = .ready (.list others) ∧ List.Forall₂ Equals items others := by
  cases b with
  | deferred c => simp [Equals, Slot.same]
  | ready w =>
    rw [Equals, Slot.same]
    cases w with
    | list others => simp [Value.same, sameItems_iff]
    | _ => simp [Value.same]

theorem record_equals_iff {fields : Record} :
    (Slot.ready (.record fields)).Equals b ↔ ∃ others, b = .ready (.record others) ∧ fields.Equals others := by
  cases b with
  | deferred c => simp [Equals, Slot.same]
  | ready w =>
    rw [Equals, Slot.same]
    cases w with
    | record others => simp [Value.same_record_iff]
    | _ => simp [Value.same]

end Slot

end TemplateEngine
