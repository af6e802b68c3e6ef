import TemplateEngine.Proofs.Completed.Observations
import TemplateEngine.Proofs.Equality.Records

namespace TemplateEngine

universe u

theorem mem_itemCells {items : List Slot} {c : CellId} : c ∈ itemCells items ↔ ∃ slot ∈ items, c ∈ slot.cells := by
  induction items with
  | nil => simp [itemCells]
  | cons item rest ih => simp [itemCells, ih]

theorem itemTexts_eq_map (f : CellId → String) (items : List Slot) :
    itemTexts f items = items.map (Slot.textWith f) := by
  induction items with
  | nil => rfl
  | cons item rest ih => rw [itemTexts, ih, List.map_cons]

namespace Fields

variable {α : Type u} {names : List String} {fields fields' : Fields α names}

/-- Fields under the same names are the same if they have the same values. -/
theorem eq_of_get? (same : ∀ name value value', fields.get? name = some value → fields'.get? name = some value' →
    value = value') : fields = fields' := by
  induction fields with
  | nil =>
    cases fields'
    rfl
  | snoc older key fresh newest ih =>
    cases fields' with
    | snoc older' _ _ newest' =>
      obtain rfl := same key newest newest' get?_newest get?_newest
      obtain rfl := ih fun name value value' found found' =>
        same name value value' (get?_older found) (get?_older found')
      rfl

/-- A value may be chosen for each name. -/
theorem exists_related {r : α → α → Prop}
    (each : ∀ name value, fields.get? name = some value → ∃ value', r value value') :
    ∃ fields' : Fields α names, ∀ name value value', fields.get? name = some value → fields'.get? name = some value' →
      r value value' := by
  induction fields with
  | nil => exact ⟨.nil, fun name value value' found => by cases found⟩
  | snoc older key fresh newest ih =>
    obtain ⟨newest', related⟩ := each key newest get?_newest
    obtain ⟨older', others⟩ := ih fun name value found => each name value (get?_older found)
    refine ⟨.snoc older' key fresh newest', fun name value value' found found' => ?_⟩
    rw [get?] at found found'
    split at found
    next same =>
      rw [if_pos same] at found'
      obtain rfl := Option.some.inj found
      obtain rfl := Option.some.inj found'
      exact related
    next apart =>
      rw [if_neg apart] at found'
      exact others name value value' found found'

end Fields

theorem mem_fieldCells {names : List String} {fields : Fields Slot names} {c : CellId} :
    c ∈ fieldCells fields ↔ ∃ name slot, fields.get? name = some slot ∧ c ∈ slot.cells := by
  induction fields with
  | nil => simp [fieldCells, Fields.get?]
  | snoc older key fresh newest ih =>
    rw [fieldCells, List.mem_append, ih]
    constructor
    · rintro (member | ⟨name, slot, found, member⟩)
      · exact ⟨key, newest, Fields.get?_newest, member⟩
      · exact ⟨name, slot, Fields.get?_older found, member⟩
    · rintro ⟨name, slot, found, member⟩
      rw [Fields.get?] at found
      split at found
      · obtain rfl := Option.some.inj found
        exact .inl member
      · exact .inr ⟨name, slot, found, member⟩

/-- The texts of fields are the same if they are the same under each name. -/
theorem fieldTexts_eq {f g : CellId → String} {names : List String} {fields fields' : Fields Slot names}
    (each : ∀ name slot slot', fields.get? name = some slot → fields'.get? name = some slot' →
      slot.textWith f = slot'.textWith g) : fieldTexts f fields = fieldTexts g fields' := by
  induction fields with
  | nil =>
    cases fields'
    rfl
  | snoc older key fresh newest ih =>
    cases fields' with
    | snoc older' _ _ newest' =>
      have others := ih fun name slot slot' found found' =>
        each name slot slot' (Fields.get?_older found) (Fields.get?_older found')
      rw [fieldTexts, fieldTexts, each key newest newest' Fields.get?_newest Fields.get?_newest, others]

/-- There are no slots in the value. -/
def Value.IsFlat : Value → Prop
  | .list _ | .record _ => False
  | _ => True

/-- The second slot is the first one with the values of all completed cells in their places, at every depth. Cells that
are pending or have failed are left. -/
inductive Slot.Filled (σ : CellStore) : Slot → Slot → Prop
  | lacking {c} (lacking : ∀ v, σ.state c ≠ .completed v) : Filled σ (.deferred c) (.deferred c)
  | completed {c v slot'} (held : σ.state c = .completed v) (value : Filled σ (.ready v) slot') :
      Filled σ (.deferred c) slot'
  | flat {v} (flat : v.IsFlat) : Filled σ (.ready v) (.ready v)
  | list {items items' : List Slot} (length : items'.length = items.length)
      (each : ∀ (i : Nat) slot slot', items[i]? = some slot → items'[i]? = some slot' → Filled σ slot slot') :
      Filled σ (.ready (.list items)) (.ready (.list items'))
  | record {names} {fields fields' : Fields Slot names}
      (each : ∀ name slot slot', fields.get? name = some slot → fields'.get? name = some slot' →
        Filled σ slot slot') :
      Filled σ (.ready (.record ⟨names, fields⟩)) (.ready (.record ⟨names, fields'⟩))

namespace CellStore

variable {σ : CellStore} {c : CellId}

/-- A cell that contains itself would do so in the first step, or something that it holds would contain itself. -/
theorem grounded_of_holds (behind : ∀ d, σ.Holds c d → σ.Grounded d) : σ.Grounded c := by
  intro d leads cycle
  cases Relation.ReflTransGen.cases_head leads with
  | inl same =>
    subst same
    obtain ⟨e, holds, back⟩ := Relation.TransGen.head'_iff.mp cycle
    exact behind e holds c back cycle
  | inr further =>
    obtain ⟨e, holds, leads⟩ := further
    exact behind e holds d leads cycle

theorem grounded_of_not_completed (lacking : ∀ v, σ.state c ≠ .completed v) : σ.Grounded c :=
  grounded_of_holds fun _ ⟨v, held, _⟩ => absurd held (lacking v)

theorem grounded_of_completed {v : Value} (held : σ.state c = .completed v)
    (value : ∀ d ∈ v.cells, σ.Grounded d) : σ.Grounded c := by
  refine grounded_of_holds fun d holds => ?_
  obtain ⟨w, held', member⟩ := holds
  rw [held] at held'
  obtain rfl := CellState.completed.inj held'
  exact value d member

end CellStore

namespace Slot.Filled

variable {σ : CellStore} {p q p' : Slot} {v w : Value}

theorem exists_item {items items' : List Slot} (length : items'.length = items.length) {slot : Slot}
    (member : slot ∈ items) : ∃ (i : Nat) (slot' : Slot), items[i]? = some slot ∧ items'[i]? = some slot' := by
  obtain ⟨i, inside, rfl⟩ := List.mem_iff_getElem.mp member
  have inside' : i < items'.length := by omega
  exact ⟨i, items'[i], List.getElem?_eq_getElem inside, List.getElem?_eq_getElem inside'⟩

theorem unique (filled : p.Filled σ p') (filled' : p.Filled σ q) : q = p' := by
  induction filled generalizing q with
  | lacking lacking =>
    cases filled' with
    | lacking _ => rfl
    | completed held _ => exact absurd held (lacking _)
  | completed held _ ih =>
    cases filled' with
    | lacking lacking => exact absurd held (lacking _)
    | completed held' value' =>
      rw [held] at held'
      obtain rfl := CellState.completed.inj held'
      exact ih value'
  | flat flat =>
    cases filled' with
    | flat _ => rfl
    | list | record => exact flat.elim
  | @list items items' length each ih =>
    cases filled' with
    | flat flat => exact flat.elim
    | @list _ others length' each' =>
      have same : others = items' := by
        refine List.ext_getElem (length'.trans length.symm) fun i inside inside' => ?_
        have known : i < items.length := by omega
        exact ih i _ _ (List.getElem?_eq_getElem known) (List.getElem?_eq_getElem inside')
          (each' i _ _ (List.getElem?_eq_getElem known) (List.getElem?_eq_getElem inside))
      rw [same]
  | @record names fields fields' each ih =>
    cases filled' with
    | flat flat => exact flat.elim
    | @record _ _ others each' =>
      have same : others = fields' := by
        refine Fields.eq_of_get? fun name slot slot' found found' => ?_
        obtain ⟨first, known⟩ := Fields.exists_get? found fields
        exact ih name first slot' known found' (each' name first slot known found)
      rw [same]

/-- Where all completed cells can be replaced, nothing contains itself. -/
theorem grounded (filled : p.Filled σ p') : ∀ c ∈ p.cells, σ.Grounded c := by
  induction filled with
  | lacking lacking =>
    intro d member
    obtain rfl := List.mem_singleton.mp member
    exact CellStore.grounded_of_not_completed lacking
  | completed held _ ih =>
    intro d member
    obtain rfl := List.mem_singleton.mp member
    exact CellStore.grounded_of_completed held ih
  | @flat v flat =>
    intro d member
    cases v with
    | list | record => exact flat.elim
    | null | bool | integer | float | string | sanitized => cases member
  | list length each ih =>
    intro d member
    obtain ⟨slot, among, member⟩ := mem_itemCells.mp member
    obtain ⟨i, slot', known, known'⟩ := exists_item length among
    exact ih i slot slot' known known' d member
  | @record names fields fields' each ih =>
    intro d member
    obtain ⟨name, slot, found, member⟩ := mem_fieldCells.mp member
    obtain ⟨slot', found'⟩ := Fields.exists_get? found fields'
    exact ih name slot slot' found found' d member

/-- A slot can be filled if the values of its completed cells can. -/
theorem exists_of_cells (p : Slot) (values : ∀ c ∈ p.cells, ∀ v, σ.state c = .completed v →
    ∃ slot, (Slot.ready v).Filled σ slot) : ∃ p', p.Filled σ p' := by
  induction p using Slot.nested with
  | deferred c =>
    by_cases complete : ∃ v, σ.state c = .completed v
    · obtain ⟨v, held⟩ := complete
      obtain ⟨slot, value⟩ := values c (List.mem_singleton_self c) v held
      exact ⟨slot, .completed held value⟩
    · exact ⟨_, .lacking fun v held => complete ⟨v, held⟩⟩
  | plain v plain =>
    refine ⟨_, .flat ?_⟩
    cases v <;> trivial
  | float x => exact ⟨_, .flat trivial⟩
  | list items ih =>
    have each : ∀ slot ∈ items, ∃ slot', slot.Filled σ slot' := fun slot among =>
      ih slot among fun c member => values c (mem_itemCells.mpr ⟨slot, among, member⟩)
    choose! fill filled using each
    refine ⟨.ready (.list (items.map fill)), .list (List.length_map _) fun i slot slot' known known' => ?_⟩
    rw [List.getElem?_map, known] at known'
    obtain rfl := Option.some.inj known'
    exact filled slot (List.mem_of_getElem? known)
  | record fields ih =>
    obtain ⟨names, fields⟩ := fields
    have each : ∀ name slot, fields.get? name = some slot → ∃ slot', slot.Filled σ slot' := fun name slot found =>
      ih name slot found fun c member => values c (mem_fieldCells.mpr ⟨name, slot, found, member⟩)
    obtain ⟨fields', filled⟩ := Fields.exists_related each
    exact ⟨_, .record filled⟩

/-- What is in a cell can be filled if everything that it leads to can. The induction is on the number of cells that are
led through. -/
theorem exists_of_grounded {c : CellId} (grounded : σ.Grounded c) (held : σ.state c = .completed v) :
    ∃ slot, (Slot.ready v).Filled σ slot := by
  induction rank : σ.rank c using Nat.strong_induction_on generalizing c v with
  | _ n ih =>
    subst rank
    refine exists_of_cells _ fun d member u held' => ?_
    have holds : σ.Holds c d := ⟨v, held, member⟩
    exact ih _ (grounded.rank_lt holds held') (grounded.of_holds holds) held' rfl

/-- All completed cells can be replaced exactly if nothing contains itself. -/
theorem exists_iff : (∃ p', p.Filled σ p') ↔ ∀ c ∈ p.cells, σ.Grounded c := by
  refine ⟨fun ⟨p', filled⟩ => filled.grounded, fun grounded => ?_⟩
  exact exists_of_cells _ fun c member v held => exists_of_grounded (grounded c member) held

end Slot.Filled

end TemplateEngine
