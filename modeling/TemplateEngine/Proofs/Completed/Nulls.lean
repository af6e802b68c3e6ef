import TemplateEngine.Proofs.Completed.Filling

namespace TemplateEngine

namespace Slot

variable {σ : CellStore} {p p' : Slot} {v w : Value}

/-- There is no difference between the slots but in tests for null. What they resolve to looks the same, and so does
what printing them does to any sink. -/
structure SeenAs (σ : CellStore) (p p' : Slot) : Prop where
  status : p'.status σ = p.status σ
  resolve : (p'.resolve σ).map (Value.view σ) = (p.resolve σ).map (Value.view σ)
  render : ∀ (S : Type) [Sink S] (isLast : Bool) (s : S), p'.render σ isLast s = p.render σ isLast s

/-- All text is the same, since the texts of cells are those of their values. -/
theorem Filled.textWith (filled : p.Filled σ p') :
    p'.textWith (σ.cellText σ.size) = p.textWith (σ.cellText σ.size) := by
  induction filled with
  | lacking _ => rfl
  | @completed c v slot' held value ih =>
    have grounded := (Filled.completed held value).grounded c (List.mem_singleton_self c)
    rw [ih, Slot.textWith, Slot.textWith, grounded.cellText_completed held]
    rfl
  | flat _ => rfl
  | @list items items' length each ih =>
    have same : itemTexts (σ.cellText σ.size) items' = itemTexts (σ.cellText σ.size) items := by
      rw [itemTexts_eq_map, itemTexts_eq_map]
      refine List.ext_getElem (by simpa using length) fun i inside inside' => ?_
      rw [List.length_map] at inside inside'
      rw [List.getElem_map, List.getElem_map]
      exact ih i _ _ (List.getElem?_eq_getElem inside') (List.getElem?_eq_getElem inside)
    rw [Slot.textWith, Slot.textWith, Value.textWith, Value.textWith, same]
  | @record names fields fields' each ih =>
    have same : fieldTexts (σ.cellText σ.size) fields' = fieldTexts (σ.cellText σ.size) fields :=
      fieldTexts_eq fun name slot' slot found' found => ih name slot slot' found found'
    rw [Slot.textWith, Slot.textWith, Value.textWith, Value.textWith, recordTexts, recordTexts, same]

/-- The value of a slot looks like the value that it is filled with. -/
theorem Filled.view (filled : (Slot.ready v).Filled σ (.ready w)) : w.view σ = v.view σ := by
  have text : σ.text w = σ.text v := filled.textWith
  rw [Value.view, Value.view, text]
  cases filled <;> rfl

theorem Filled.null_iff (filled : (Slot.ready v).Filled σ (.ready w)) : w = .null ↔ v = .null := by
  cases filled with
  | flat _ => rfl
  | list | record => simp

theorem Filled.ready (filled : (Slot.ready v).Filled σ p') : ∃ w, p' = .ready w := by
  cases filled <;> exact ⟨_, rfl⟩

/-- A slot that has a value is filled with one, and any other slot is left. -/
theorem Filled.resolves (filled : p.Filled σ p') :
    (∃ v w, p.awaits σ = none ∧ p.resolve σ = .ok v ∧ p' = .ready w ∧ (Slot.ready v).Filled σ (.ready w)) ∨
      p' = p ∧ p.isNull = false ∧ ∃ e, p.resolve σ = .error e := by
  cases p with
  | ready v =>
    obtain ⟨w, rfl⟩ := filled.ready
    exact .inl ⟨v, w, rfl, rfl, rfl, filled⟩
  | deferred c =>
    cases filled with
    | lacking lacking =>
      refine .inr ⟨rfl, rfl, ?_⟩
      rw [Slot.resolve]
      cases state : σ.state c with
      | pending => exact ⟨_, rfl⟩
      | completed v => exact absurd state (lacking v)
      | failed message => exact ⟨_, rfl⟩
    | @completed _ v _ held value =>
      obtain ⟨w, rfl⟩ := value.ready
      refine .inl ⟨v, w, ?_, ?_, rfl, value⟩
      · rw [awaits, CellStore.isReady, held]
        rfl
      · rw [Slot.resolve, held]

theorem Filled.seenAs (filled : p.Filled σ p') : p.SeenAs σ p' := by
  rcases filled.resolves with ⟨v, w, known, resolved, rfl, value⟩ | ⟨rfl, -, -⟩
  · have view := value.view
    have text : σ.text w = σ.text v := congrArg ValueView.text view
    refine ⟨?_, ?_, fun S _ isLast s => ?_⟩
    · rw [status, status, known]
      rfl
    · rw [resolved, Slot.resolve, Except.map, Except.map, view]
    · have own : p.render σ isLast s = (Slot.ready v).render σ isLast s := by
        rw [Slot.render, known, resolved]
        rfl
      rw [own]
      simp only [Slot.render, awaits, Slot.resolve, text]
  · exact ⟨rfl, rfl, fun S _ isLast s => rfl⟩

theorem isNull_ready_iff : (Slot.ready v).isNull = true ↔ v = .null := by
  cases v <;> simp [isNull, Value.isNull]

/-- A test for null does not look into a cell. -/
theorem isNull_iff : p.isNull = true ↔ p.resolve σ = .ok .null ∧ ∀ c, p ≠ .deferred c := by
  cases p with
  | ready v => simp [isNull_ready_iff, Slot.resolve]
  | deferred c => simp [isNull]

/-- What is filled is null if its slot resolves to null. -/
theorem Filled.isNull_iff (filled : p.Filled σ p') : p'.isNull = true ↔ p.resolve σ = .ok .null := by
  rcases filled.resolves with ⟨v, w, -, resolved, rfl, value⟩ | ⟨rfl, other, e, failed⟩
  · rw [isNull_ready_iff, value.null_iff, resolved, Except.ok.injEq]
  · simp [other, failed]

end Slot

namespace Record

variable {σ : CellStore} {r r' : Record}

/-- A field is passed over exactly if it is missing, or null without a cell. -/
theorem present?_eq_none_iff {name : String} : present? r name = none ↔
    ∀ slot, r.get? name = some slot → slot.resolve σ = .ok .null ∧ ∀ c, slot ≠ .deferred c := by
  cases found : r.get? name with
  | none => simp [present?, found]
  | some slot => simp [present?, found, Option.filter, ← Slot.isNull_iff]

/-- In a filled record a field is passed over exactly if it is missing or resolves to null. -/
theorem present?_filled_eq_none_iff (filled : (Slot.ready (.record r)).Filled σ (.ready (.record r'))) {name : String} :
    present? r' name = none ↔ ∀ slot, r.get? name = some slot → slot.resolve σ = .ok .null := by
  cases filled with
  | flat flat => exact flat.elim
  | @record names fields fields' each =>
    simp only [present?, OrderedMap.get?]
    cases found : fields.get? name with
    | none =>
      have missing : fields'.get? name = none := by
        rw [← Option.not_isSome_iff_eq_none, Fields.get?_isSome, ← fields.get?_isSome, found]
        exact Bool.false_ne_true
      simp [missing]
    | some slot =>
      obtain ⟨slot', found'⟩ := Fields.exists_get? found fields'
      have null := (each name slot slot' found found').isNull_iff
      simp [found', Option.filter, ← null]

end Record

/-- Unless something in it contains itself, a slot can be filled in one way. It then looks the same, but a null that is
supplied for a cell is seen by tests for null only where the cell is replaced. -/
theorem Slot.filling_exact (σ : CellStore) (p : Slot) :
    ((∃ p', p.Filled σ p') ↔ ∀ c ∈ p.cells, σ.Grounded c) ∧
      (∀ p', p.Filled σ p' → (∀ q, p.Filled σ q → q = p') ∧ p.SeenAs σ p' ∧
        (p'.isNull = true ↔ p.resolve σ = .ok .null) ∧
        ∀ r r' : Record, p = .ready (.record r) → p' = .ready (.record r') → ∀ name,
          Record.present? r' name = none ↔ ∀ slot, r.get? name = some slot → slot.resolve σ = .ok .null) ∧
      (p.isNull = true ↔ p.resolve σ = .ok .null ∧ ∀ c, p ≠ .deferred c) ∧
      ∀ (r : Record) (name : String), Record.present? r name = none ↔
        ∀ slot, r.get? name = some slot → slot.resolve σ = .ok .null ∧ ∀ c, slot ≠ .deferred c := by
  refine ⟨Filled.exists_iff, fun p' filled => ⟨fun q => filled.unique, filled.seenAs, filled.isNull_iff, ?_⟩,
    isNull_iff, fun r name => Record.present?_eq_none_iff⟩
  rintro r r' rfl rfl name
  exact Record.present?_filled_eq_none_iff filled

/-- A null, a list with the null and with something pending, and the pending one. -/
def profileCells : CellStore :=
  ⟨[⟨"nick", .completed .null⟩, ⟨"tags", .completed (.list [.deferred ⟨0⟩, .deferred ⟨2⟩])⟩, ⟨"badge", .pending⟩]⟩

def profile (nick tags : Slot) : Record :=
  ⟨["tags", "nick"], .snoc (.snoc .nil "nick" (by simp) nick) "tags" (by simp) tags⟩

theorem profile_filled {σ : CellStore} {nick nick' tags tags' : Slot} (first : nick.Filled σ nick')
    (last : tags.Filled σ tags') : (Slot.ready (.record (profile nick tags))).Filled σ
      (.ready (.record (profile nick' tags'))) := by
  refine .record fun name slot slot' found found' => ?_
  simp only [Fields.get?] at found found'
  split_ifs at found found'
  · obtain rfl := Option.some.inj found
    obtain rfl := Option.some.inj found'
    exact last
  · obtain rfl := Option.some.inj found
    obtain rfl := Option.some.inj found'
    exact first

/-- A profile with cells and one without them look the same, and only in the latter the name is passed over. -/
theorem Slot.filling_exact_profile :
    let p := Slot.ready (.record (profile (.deferred ⟨0⟩) (.deferred ⟨1⟩)))
    let p' := Slot.ready (.record (profile .null (.ready (.list [.null, .deferred ⟨2⟩]))))
    p.Filled profileCells p' ∧ p.SeenAs profileCells p' ∧ profileCells.Grounded ⟨1⟩ ∧
      Record.present? (profile .null (.ready (.list [.null, .deferred ⟨2⟩]))) "nick" = none ∧
      Record.present? (profile (.deferred ⟨0⟩) (.deferred ⟨1⟩)) "nick" = some (.deferred ⟨0⟩) := by
  intro p p'
  have nick : (Slot.deferred ⟨0⟩).Filled profileCells .null := .completed rfl (.flat trivial)
  have badge : (Slot.deferred ⟨2⟩).Filled profileCells (.deferred ⟨2⟩) := .lacking fun v => nofun
  have tags : (Slot.deferred ⟨1⟩).Filled profileCells (.ready (.list [.null, .deferred ⟨2⟩])) := by
    refine .completed rfl (.list rfl fun i slot slot' found found' => ?_)
    match i with
    | 0 =>
      cases found
      cases found'
      exact nick
    | 1 =>
      cases found
      cases found'
      exact badge
    | i + 2 => cases found
  have filled : p.Filled profileCells p' := profile_filled nick tags
  obtain ⟨fillable, exact', -, -⟩ := Slot.filling_exact profileCells p
  obtain ⟨-, seen, -, present⟩ := exact' p' filled
  refine ⟨filled, seen, fillable.mp ⟨p', filled⟩ ⟨1⟩ (by decide), (present _ _ rfl rfl "nick").mpr ?_, rfl⟩
  intro slot found
  cases found
  rfl

/-- Null is supplied for a cell. The cell resolves to null, but it is not null, and a field with it is not passed
over. -/
theorem Slot.supplied_null_is_not_null :
    (Slot.deferred ⟨0⟩).resolve profileCells = .ok .null ∧
      (Slot.deferred ⟨0⟩).Filled profileCells .null ∧ Slot.null.isNull = true ∧ (Slot.deferred ⟨0⟩).isNull = false ∧
      Record.present? (profile (.deferred ⟨0⟩) .null) "nick" = some (.deferred ⟨0⟩) :=
  ⟨rfl, .completed rfl (.flat trivial), rfl, rfl, rfl⟩

end TemplateEngine
