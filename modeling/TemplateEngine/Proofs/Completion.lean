import TemplateEngine.Render.Effect

namespace TemplateEngine

section Except

variable {ε ε' α : Type} (f : ε → ε')

@[simp]
theorem mapError_ok (a : α) : (Except.ok a : Except ε α).mapError f = .ok a := rfl

@[simp]
theorem mapError_error (e : ε) : (Except.error e : Except ε α).mapError f = .error (f e) := rfl

theorem mapError_eq_ok {x : Except ε α} {a : α} : x.mapError f = .ok a ↔ x = .ok a := by
  cases x <;> simp

end Except

theorem exceptBind_eq_ok {ε α β : Type} {x : Except ε α} {f : α → Except ε β} {b : β} :
    x >>= f = .ok b ↔ ∃ a, x = .ok a ∧ f a = .ok b := by
  cases x <;> simp [bind, Except.bind]

theorem exceptMap_eq_ok {ε α β : Type} {x : Except ε α} {f : α → β} {b : β} :
    x.map f = .ok b ↔ ∃ a, x = .ok a ∧ f a = b := by
  cases x <;> simp [Except.map]

theorem exceptMap_eq_error {ε α β : Type} {x : Except ε α} {f : α → β} {e : ε} : x.map f = .error e ↔ x = .error e := by
  cases x <;> simp [Except.map]

inductive Completion
  | set (cell : CellId) (value : Value)
  | fail (cell : CellId) (message : String)

namespace CellStore

/-- The store after a completion; a cell that is complete stays as it is. -/
def apply (σ : CellStore) : Completion → CellStore
  | .set c value => (σ.set c value).2
  | .fail c message => (σ.fail c message).2

def applyAll (σ : CellStore) (completions : List Completion) : CellStore := completions.foldl apply σ

def pendingCells (σ : CellStore) : List CellId :=
  ((List.range σ.size).map CellId.mk).filter fun c => !σ.isReady c

/-- Of the second store it is known what is known of the first, and maybe more. -/
structure Precedes (σ later : CellStore) : Prop where
  size : later.size = σ.size
  label : ∀ c, later.label c = σ.label c
  state : ∀ c, σ.isReady c = true → later.state c = σ.state c

theorem Precedes.refl (σ : CellStore) : σ.Precedes σ := ⟨rfl, fun _ => rfl, fun _ _ => rfl⟩

theorem Precedes.ready {σ later : CellStore} (order : σ.Precedes later) {c : CellId}
    (ready : σ.isReady c = true) : later.isReady c = true := by
  rw [isReady, order.state c ready]
  exact ready

theorem Precedes.trans {σ middle later : CellStore} (first : σ.Precedes middle)
    (second : middle.Precedes later) : σ.Precedes later where
  size := second.size.trans first.size
  label c := (second.label c).trans (first.label c)
  state c ready := (second.state c (first.ready ready)).trans (first.state c ready)

theorem label_complete (σ : CellStore) (c d : CellId) (s : CellState) :
    (σ.complete c s).2.label d = σ.label d := by
  unfold complete
  split
  · simp only [label, List.getElem?_modify]
    split
    · cases σ.cells[d.index]? <;> rfl
    · cases σ.cells[d.index]? <;> rfl
  · rfl

theorem state_complete_eq (σ : CellStore) (c d : CellId) (s : CellState) :
    (σ.complete c s).2.state d =
      if d = c ∧ c.index < σ.size ∧ σ.isReady c = false then s else σ.state d := by
  by_cases same : d = c
  · subst same
    unfold complete
    split
    next fresh =>
      rw [if_pos ⟨rfl, fresh⟩]
      simp only [state, List.getElem?_modify, if_true]
      rw [List.getElem?_eq_getElem fresh.1]
      rfl
    next stale => rw [if_neg fun fresh => stale fresh.2]
  · rw [if_neg fun fresh => same fresh.1]
    exact state_complete_of_ne same s

theorem state_complete (σ : CellStore) (c d : CellId) (s : CellState) :
    (σ.complete c s).2.state d = s ∨ (σ.complete c s).2.state d = σ.state d := by
  rw [state_complete_eq]
  split
  · exact .inl rfl
  · exact .inr rfl

theorem precedes_complete (σ : CellStore) (c : CellId) (s : CellState) : σ.Precedes (σ.complete c s).2 where
  size := by
    unfold complete
    split
    · simp only [size, List.length_modify]
    · rfl
  label d := label_complete σ c d s
  state d ready := by
    by_cases same : d = c
    · subst same
      rw [complete_of_isReady ready]
    · exact state_complete_of_ne same s

theorem precedes_applyAll (σ : CellStore) (completions : List Completion) :
    σ.Precedes (σ.applyAll completions) := by
  induction completions generalizing σ with
  | nil => exact .refl σ
  | cons completion rest ih =>
    have first : σ.Precedes (σ.apply completion) := by
      cases completion <;> exact precedes_complete σ _ _
    exact first.trans (ih (σ.apply completion))

theorem Precedes.pending {σ later : CellStore} (order : σ.Precedes later) {c : CellId}
    (pending : later.isReady c = false) : σ.isReady c = false := by
  cases before : σ.isReady c with
  | false => rfl
  | true => exact absurd (order.ready before) (by simp [pending])

end CellStore

theorem Slot.awaits_eq_some {σ : CellStore} {slot : Slot} {c : CellId} :
    slot.awaits σ = some c ↔ slot = .deferred c ∧ σ.isReady c = false := by
  cases slot with
  | ready value => simp [awaits]
  | deferred d =>
    by_cases ready : σ.isReady d = true
    · simp only [awaits, ready, if_true, Slot.deferred.injEq]
      constructor
      · intro impossible
        cases impossible
      · rintro ⟨rfl, pending⟩
        simp [ready] at pending
    · simp only [awaits, ready, Slot.deferred.injEq]
      constructor
      · intro same
        cases same
        exact ⟨rfl, by simpa using ready⟩
      · rintro ⟨rfl, -⟩
        rfl

namespace ValueRef

variable {params injected : Record}

/-- A reference is read without obstacle, or waits for the cell it refers to, or fails with that cell. -/
theorem read_eq_awaits {σ : CellStore} {ref : ValueRef} {c : CellId} :
    ref.read σ params injected = .error (.awaits c) ↔ (ref.slot params injected).awaits σ = some c := by
  simp only [read]
  cases waiting : (ref.slot params injected).awaits σ with
  | some d => simp
  | none =>
    cases (ref.slot params injected).resolve σ <;> simp

theorem read_eq_ok {σ : CellStore} {ref : ValueRef} {value : Value} :
    ref.read σ params injected = .ok value ↔ (ref.slot params injected).resolve σ = .ok value := by
  simp only [read]
  cases waiting : (ref.slot params injected).awaits σ with
  | none => cases (ref.slot params injected).resolve σ <;> simp
  | some d =>
    obtain ⟨same, pending⟩ := Slot.awaits_eq_some.1 waiting
    have state : σ.state d = .pending := by
      simp only [CellStore.isReady] at pending
      cases found : σ.state d <;> simp_all [CellState.isReady]
    simp [same, Slot.resolve, state]

end ValueRef

theorem Slot.ready_of_settled {σ : CellStore} {c : CellId} (settled : (Slot.deferred c).awaits σ = none) :
    σ.isReady c = true := by
  cases ready : σ.isReady c with
  | true => rfl
  | false => simp [awaits, ready] at settled

/-- A slot that has been read once keeps its value. -/
theorem Slot.resolve_later {σ later : CellStore} (order : σ.Precedes later) {slot : Slot}
    (settled : slot.awaits σ = none) : slot.resolve later = slot.resolve σ := by
  cases slot with
  | ready value => rfl
  | deferred c =>
    simp only [resolve, order.state c (ready_of_settled settled), order.label c]

theorem Slot.awaits_later {σ later : CellStore} (order : σ.Precedes later) {slot : Slot}
    (settled : slot.awaits σ = none) : slot.awaits later = none := by
  cases slot with
  | ready value => rfl
  | deferred c => simp [awaits, order.ready (ready_of_settled settled)]

/-- Reading is stable: only a reference that waited may be read differently later. -/
theorem ValueRef.read_later {σ later : CellStore} (order : σ.Precedes later) {params injected : Record}
    {ref : ValueRef} (settled : (ref.slot params injected).awaits σ = none) :
    ref.read later params injected = ref.read σ params injected := by
  simp only [read, settled, Slot.awaits_later order settled, Slot.resolve_later order settled]

end TemplateEngine
