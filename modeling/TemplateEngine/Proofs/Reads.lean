import Mathlib.Data.List.Forall2
import TemplateEngine.Proofs.Completion

namespace TemplateEngine

theorem bind_pure_eq_error {α β ε : Type} {x : Except ε α} {g : α → β} {e : ε} :
    (x >>= fun a => pure (g a)) = .error e ↔ x = .error e := by
  cases x <;> simp [bind, Except.bind, pure, Except.pure]

/-- A traversal fails where its first failing element does. -/
theorem mapM_eq_error {α β ε : Type} {f : α → Except ε β} {e : ε} (xs : List α) :
    xs.mapM f = .error e ↔
      ∃ before x after, xs = before ++ x :: after ∧ (∀ y ∈ before, ∃ b, f y = .ok b) ∧ f x = .error e := by
  induction xs with
  | nil => simp [pure, Except.pure]
  | cons head rest ih =>
    rw [List.mapM_cons]
    cases first : f head with
    | error d =>
      simp only [bind, Except.bind, Except.error.injEq]
      constructor
      · rintro rfl
        exact ⟨[], head, rest, rfl, by simp, first⟩
      · rintro ⟨before, x, after, split, ok, failed⟩
        cases before with
        | nil =>
          obtain ⟨rfl, -⟩ := List.cons.inj split
          simpa [first] using failed
        | cons y before =>
          obtain ⟨rfl, -⟩ := List.cons.inj split
          obtain ⟨b, read⟩ := ok head List.mem_cons_self
          simp [first] at read
    | ok b =>
      refine Iff.trans bind_pure_eq_error (ih.trans ?_)
      constructor
      · rintro ⟨before, x, after, rfl, ok, failed⟩
        refine ⟨head :: before, x, after, rfl, fun y member => ?_, failed⟩
        rcases List.mem_cons.mp member with rfl | member
        · exact ⟨b, first⟩
        · exact ok y member
      · rintro ⟨before, x, after, split, ok, failed⟩
        cases before with
        | nil =>
          obtain ⟨rfl, -⟩ := List.cons.inj split
          simp [first] at failed
        | cons y before =>
          obtain ⟨rfl, rfl⟩ := List.cons.inj split
          exact ⟨before, x, after, rfl, fun z member => ok z (List.mem_cons_of_mem _ member), failed⟩

/-- A traversal succeeds where each of its elements does. -/
theorem mapM_eq_ok {α β ε : Type} {f : α → Except ε β} {xs : List α} {ys : List β} :
    xs.mapM f = .ok ys ↔ List.Forall₂ (fun x y => f x = .ok y) xs ys := by
  induction xs generalizing ys with
  | nil => cases ys <;> simp [pure, Except.pure]
  | cons head rest ih =>
    rw [List.mapM_cons, exceptBind_eq_ok]
    constructor
    · rintro ⟨b, first, traversed⟩
      obtain ⟨bs, others, rfl⟩ := exceptMap_eq_ok.mp traversed
      exact .cons first (ih.mp others)
    · rintro (_ | ⟨first, others⟩)
      exact ⟨_, first, exceptMap_eq_ok.mpr ⟨_, ih.mpr others, rfl⟩⟩

theorem exists_mapM_eq_ok {α β ε : Type} {f : α → Except ε β} {xs : List α} (each : ∀ x ∈ xs, ∃ b, f x = .ok b) :
    ∃ ys, xs.mapM f = .ok ys := by
  simp only [mapM_eq_ok]
  induction xs with
  | nil => exact ⟨[], .nil⟩
  | cons head rest ih =>
    obtain ⟨b, first⟩ := each head List.mem_cons_self
    obtain ⟨bs, others⟩ := ih fun x member => each x (List.mem_cons_of_mem head member)
    exact ⟨b :: bs, .cons first others⟩

theorem exists_of_mapM_eq_ok {α β ε : Type} {f : α → Except ε β} {xs : List α} {ys : List β}
    (traversed : xs.mapM f = .ok ys) : ∀ y ∈ ys, ∃ x ∈ xs, f x = .ok y := by
  have each := mapM_eq_ok.mp traversed
  clear traversed
  induction each with
  | nil => simp
  | cons first others ih =>
    intro y member
    rcases List.mem_cons.mp member with rfl | member
    · exact ⟨_, List.mem_cons_self, first⟩
    · obtain ⟨x, among, same⟩ := ih y member
      exact ⟨x, List.mem_cons_of_mem _ among, same⟩

/-- A computation fails, if it does, with an error that has a property. -/
def FailsOnly {ε α : Type} (p : ε → Prop) (x : Except ε α) : Prop := ∀ e, x = .error e → p e

namespace FailsOnly

variable {ε ε' α β : Type} {p : ε → Prop}

theorem ok (a : α) : FailsOnly p (.ok a) := by
  intro e failed
  cases failed

theorem bind {x : Except ε α} {f : α → Except ε β} (first : FailsOnly p x) (rest : ∀ a, FailsOnly p (f a)) :
    FailsOnly p (x >>= f) := by
  intro e failed
  cases x with
  | error d => exact first e (congrArg Except.error (Except.error.inj failed))
  | ok a => exact rest a e failed

theorem map {x : Except ε α} (first : FailsOnly p x) (f : α → β) : FailsOnly p (x.map f) := by
  intro e failed
  cases x with
  | error d => exact first e (congrArg Except.error (Except.error.inj failed))
  | ok a => cases failed

theorem mapError {f : ε' → ε} {x : Except ε' α} (each : ∀ e, x = .error e → p (f e)) : FailsOnly p (x.mapError f) := by
  intro e failed
  cases x with
  | error d =>
    cases failed
    exact each d rfl
  | ok a => cases failed

theorem mapM {f : α → Except ε β} (each : ∀ a, FailsOnly p (f a)) (xs : List α) : FailsOnly p (xs.mapM f) := by
  intro e failed
  obtain ⟨_, x, _, _, _, here⟩ := (mapM_eq_error xs).mp failed
  exact each x e here

theorem foldlM {f : β → α → Except ε β} (each : ∀ b a, FailsOnly p (f b a)) (xs : List α) (start : β) :
    FailsOnly p (xs.foldlM f start) := by
  induction xs generalizing start with
  | nil => exact .ok start
  | cons x xs ih =>
    rw [List.foldlM_cons]
    exact (each start x).bind ih

end FailsOnly

/-- A computation that fails, if it does, for another reason than a pending value. -/
abbrev NeverAwaits {α : Type} (x : Except Obstacle α) : Prop := FailsOnly (fun o => ∀ c, o ≠ .awaits c) x

/-- What follows the reading of values does not wait for anything. -/
theorem bind_eq_awaits {α β : Type} {x : Except Obstacle α} {f : α → Except Obstacle β} {c : CellId}
    (rest : ∀ a, NeverAwaits (f a)) : x >>= f = .error (.awaits c) ↔ x = .error (.awaits c) := by
  cases x with
  | error o => simp [Bind.bind, Except.bind]
  | ok a => exact iff_of_false (fun waits => rest a _ waits c rfl) (by simp)

namespace Instruction

/-- The references that an instruction reads by itself, in order. -/
def reads : Instruction → List ValueRef
  | .print ref _ => [ref]
  | .printCall _ args _ => args
  | .delegateCall target => [target.variant]
  | .message _ _ values => values.map Prod.snd
  | _ => []

/-- Reading some references in order comes to a halt at the first one whose cell is pending. -/
def Halts (σ : CellStore) (params injected : Record) (refs : List ValueRef) (c : CellId) : Prop :=
  ∃ before ref after, refs = before ++ ref :: after ∧
    (∀ earlier ∈ before, ∃ value, earlier.read σ params injected = .ok value) ∧
    (ref.slot params injected).awaits σ = some c

variable {ctx : RenderContext} {σ : CellStore} {params injected : Record}

theorem halts_singleton {ref : ValueRef} {c : CellId} :
    Halts σ params injected [ref] c ↔ (ref.slot params injected).awaits σ = some c := by
  constructor
  · rintro ⟨before, found, after, split, -, waiting⟩
    cases before with
    | nil =>
      obtain ⟨rfl, -⟩ := List.cons.inj split
      exact waiting
    | cons head before => simp at split
  · intro waiting
    exact ⟨[], ref, [], rfl, by simp, waiting⟩

theorem mapM_read_eq_awaits {refs : List ValueRef} {c : CellId} :
    refs.mapM (fun ref => ref.read σ params injected) = .error (.awaits c) ↔ Halts σ params injected refs c := by
  simp only [mapM_eq_error, Halts, ValueRef.read_eq_awaits]

theorem readPlaceholders_eq_awaits {values : List (String × ValueRef)} {c : CellId} :
    readPlaceholders σ params injected values = .error (.awaits c) ↔
      Halts σ params injected (values.map Prod.snd) c := by
  have refs : (values.mapM fun entry => (ValueRef.read σ params injected entry.2).map
        fun value => (entry.1, value.toPlaceholder σ)) = .error (.awaits c) ↔
      (values.map Prod.snd).mapM (fun ref => ref.read σ params injected) = .error (.awaits c) := by
    induction values with
    | nil => simp [pure, Except.pure]
    | cons entry rest ih =>
      simp only [List.mapM_cons, List.map_cons]
      cases ValueRef.read σ params injected entry.2 with
      | error o => simp [bind, Except.bind, Except.map]
      | ok value => exact bind_pure_eq_error.trans (ih.trans bind_pure_eq_error.symm)
  rw [← mapM_read_eq_awaits, ← refs, readPlaceholders]
  cases values.mapM fun entry => (ValueRef.read σ params injected entry.2).map
    fun value => (entry.1, value.toPlaceholder σ) <;> simp [Except.map]

/-- An instruction waits exactly where the reading of its own values comes to a halt. -/
theorem effect_eq_awaits {instruction : Instruction} {c : CellId} :
    instruction.effect ctx σ params injected = .error (.awaits c) ↔
      Halts σ params injected instruction.reads c := by
  have nothing : ¬ Halts σ params injected [] c := by
    rintro ⟨before, ref, after, split, -⟩
    simp at split
  cases instruction with
  | text s => simpa [effect, reads] using nothing
  | css name => simpa [effect, reads] using nothing
  | xid name => simpa [effect, reads] using nothing
  | call callee data =>
    have never : NeverAwaits ((ctx.create callee (data.record params injected) injected).map Effect.enter |>.mapError
        Obstacle.ofKind) := FailsOnly.mapError (by simp)
    exact iff_of_false (fun waits => never _ waits c rfl) nothing
  | print ref directives =>
    rw [effect, reads, halts_singleton, ← ValueRef.read_eq_awaits]
    exact bind_eq_awaits fun value => (FailsOnly.mapError (by simp)).bind fun _ => .ok _
  | printCall function args directives =>
    rw [effect, reads, ← mapM_read_eq_awaits]
    exact bind_eq_awaits fun values => (FailsOnly.mapError (by simp)).bind fun _ =>
      (FailsOnly.mapError (by simp)).bind fun _ => (FailsOnly.mapError (by simp)).bind fun _ => .ok _
  | delegateCall target =>
    have started : target.start ctx σ params injected = .error (.awaits c) ↔
        target.variant.read σ params injected = .error (.awaits c) := by
      refine bind_eq_awaits fun variant => (FailsOnly.mapError (by simp)).bind fun resolved => ?_
      by_cases plain : target.escapers.isEmpty = true
      · simp only [plain, if_true]
        exact .ok _
      · simp only [plain]
        exact (FailsOnly.mapError (by simp)).bind fun _ => .ok _
    rw [effect, reads, halts_singleton, ← ValueRef.read_eq_awaits, ← started]
    cases target.start ctx σ params injected <;> simp [Except.map]
  | message id fallback values =>
    rw [effect, reads, ← readPlaceholders_eq_awaits]
    exact bind_eq_awaits fun values => (FailsOnly.mapError (by simp)).bind fun message =>
      (FailsOnly.mapError (by simp)).bind fun _ => .ok _

/-- Where reading comes to a halt, the awaited cell is the first pending one among all the values read. -/
theorem Halts.first {refs : List ValueRef} {c : CellId} (halts : Halts σ params injected refs c) :
    refs.findSome? (fun ref => (ref.slot params injected).awaits σ) = some c := by
  obtain ⟨before, ref, after, rfl, read, waiting⟩ := halts
  have clear : before.findSome? (fun ref => (ref.slot params injected).awaits σ) = none := by
    rw [List.findSome?_eq_none_iff]
    intro earlier member
    obtain ⟨value, read⟩ := read earlier member
    cases awaited : (earlier.slot params injected).awaits σ with
    | none => rfl
    | some d => simp [ValueRef.read_eq_awaits.2 awaited] at read
  simp [List.findSome?_append, clear, waiting]

theorem Halts.pending {refs : List ValueRef} {c : CellId} (halts : Halts σ params injected refs c) :
    σ.isReady c = false := by
  obtain ⟨before, ref, after, -, -, waiting⟩ := halts
  exact (Slot.awaits_eq_some.1 waiting).2

/-- As long as the awaited cell is pending, reading comes to a halt at it again. -/
theorem Halts.later {later : CellStore} (order : σ.Precedes later) {refs : List ValueRef} {c : CellId}
    (halts : Halts σ params injected refs c) (pending : later.isReady c = false) :
    Halts later params injected refs c := by
  obtain ⟨before, ref, after, rfl, read, waiting⟩ := halts
  refine ⟨before, ref, after, rfl, fun earlier member => ?_, ?_⟩
  · obtain ⟨value, read⟩ := read earlier member
    refine ⟨value, ?_⟩
    rw [ValueRef.read_later order, read]
    cases awaited : (earlier.slot params injected).awaits σ with
    | none => rfl
    | some d => simp [ValueRef.read_eq_awaits.2 awaited] at read
  · exact Slot.awaits_eq_some.2 ⟨(Slot.awaits_eq_some.1 waiting).1, pending⟩

end Instruction

end TemplateEngine
