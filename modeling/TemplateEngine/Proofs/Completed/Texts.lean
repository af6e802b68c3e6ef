import Mathlib.Data.Finset.Card
import Mathlib.Logic.Relation
import TemplateEngine.Proofs.Completed.Unfolding

namespace TemplateEngine

namespace CellStore

variable {σ σ' base : CellStore}

/-- The value of one cell contains the other cell. -/
def Holds (σ : CellStore) (c d : CellId) : Prop := ∃ v, σ.state c = .completed v ∧ d ∈ v.cells

/-- No value contains itself, through whatever cells. -/
def Acyclic (σ : CellStore) : Prop := ∀ c, ¬ Relation.TransGen σ.Holds c c

theorem acyclic_of_lt (measure : CellId → Nat) (lower : ∀ c d, σ.Holds c d → measure d < measure c) : σ.Acyclic := by
  intro c cycle
  have leads {c d : CellId} (leads : Relation.TransGen σ.Holds c d) : measure d < measure c := by
    induction leads with
    | single holds => exact lower _ _ holds
    | tail _ holds ih => exact (lower _ _ holds).trans ih
  exact lt_irrefl _ (leads cycle)

/-- Nothing that a cell leads to contains itself. -/
def Grounded (σ : CellStore) (c : CellId) : Prop :=
  ∀ d, Relation.ReflTransGen σ.Holds c d → ¬ Relation.TransGen σ.Holds d d

theorem Acyclic.grounded (acyclic : σ.Acyclic) (c : CellId) : σ.Grounded c := fun d _ => acyclic d

theorem Grounded.of_holds {c d : CellId} (grounded : σ.Grounded c) (holds : σ.Holds c d) : σ.Grounded d :=
  fun e leads => grounded e (.head holds leads)

theorem lt_size_of_completed {c : CellId} {v : Value} (completed : σ.state c = .completed v) : c.index < σ.size := by
  by_contra outside
  rw [state, List.getElem?_eq_none (Nat.le_of_not_lt outside)] at completed
  cases completed

section Rank

open Classical in
/-- The cells of the store that a cell leads to. -/
noncomputable def behind (σ : CellStore) (c : CellId) : Finset Nat :=
  (Finset.range σ.size).filter fun i => Relation.TransGen σ.Holds c ⟨i⟩

theorem mem_behind {c d : CellId} : d.index ∈ σ.behind c ↔ d.index < σ.size ∧ Relation.TransGen σ.Holds c d := by
  simp only [behind, Finset.mem_filter, Finset.mem_range]

/-- A bound on the number of cells that a cell leads through. -/
noncomputable def rank (σ : CellStore) (c : CellId) : Nat := (σ.behind c).card

theorem Grounded.rank_lt {c d : CellId} (grounded : σ.Grounded c) (holds : σ.Holds c d) {v : Value}
    (completed : σ.state d = .completed v) : σ.rank d < σ.rank c := by
  refine Finset.card_lt_card ⟨fun i member => ?_, fun all => ?_⟩
  · obtain ⟨inside, leads⟩ := mem_behind (d := ⟨i⟩).mp member
    exact mem_behind (d := ⟨i⟩).mpr ⟨inside, .head holds leads⟩
  · have self := all (mem_behind.mpr ⟨lt_size_of_completed completed, .single holds⟩)
    exact grounded d (.single holds) (mem_behind.mp self).2

theorem Grounded.rank_lt_size {c : CellId} (grounded : σ.Grounded c) {v : Value}
    (completed : σ.state c = .completed v) :
    σ.rank c < σ.size := by
  rw [← Finset.card_range σ.size]
  have inside : σ.behind c ⊆ Finset.range σ.size := fun i member =>
    Finset.mem_range.mpr (mem_behind (d := ⟨i⟩).mp member).1
  refine Finset.card_lt_card ⟨inside, fun all => ?_⟩
  have self := all (Finset.mem_range.mpr (lt_size_of_completed completed))
  exact grounded c .refl (mem_behind.mp self).2

end Rank

theorem cellText_of_not_completed {c : CellId} (other : ∀ v, σ.state c ≠ .completed v) (n : Nat) :
    σ.cellText n c = "null" := by
  cases n with
  | zero => rfl
  | succ n =>
    rw [cellText]
    split
    next v completed => exact absurd completed (other v)
    · rfl

/-- Where nothing contains itself it does not matter through how many cells more a text might be followed. -/
theorem Grounded.cellText_eq {n m : Nat} {c : CellId} (grounded : σ.Grounded c)
    (enough : ∀ v, σ.state c = .completed v → σ.rank c < n ∧ σ.rank c < m) : σ.cellText n c = σ.cellText m c := by
  induction n generalizing m c with
  | zero =>
    have other : ∀ v, σ.state c ≠ .completed v := fun v completed => by simpa using (enough v completed).1
    rw [cellText_of_not_completed other, cellText_of_not_completed other]
  | succ n ih =>
    cases completed : σ.state c with
    | pending | failed =>
      rw [cellText_of_not_completed (by simp [completed]), cellText_of_not_completed (by simp [completed])]
    | completed v =>
      have within := enough v completed
      obtain ⟨m, rfl⟩ : ∃ k, m = k + 1 := ⟨m - 1, by omega⟩
      rw [cellText, cellText, completed]
      refine v.textWith_congr fun d member => ih (grounded.of_holds ⟨v, completed, member⟩) fun u held => ?_
      have less := grounded.rank_lt ⟨v, completed, member⟩ held
      omega

/-- The text of a completed cell is the text of its value. -/
theorem Grounded.cellText_completed {c : CellId} (grounded : σ.Grounded c) {v : Value}
    (completed : σ.state c = .completed v) : σ.cellText σ.size c = σ.text v := by
  have within := grounded.rank_lt_size completed
  obtain ⟨n, size⟩ : ∃ n, σ.size = n + 1 := ⟨σ.size - 1, by omega⟩
  rw [text, size, cellText, completed]
  refine v.textWith_congr fun d member => (grounded.of_holds ⟨v, completed, member⟩).cellText_eq fun u held => ?_
  have less := grounded.rank_lt ⟨v, completed, member⟩ held
  omega

end CellStore

section Cells

variable {base σ σ' : CellStore}

mutual

/-- Where a cell is replaced, the cells of its value come in its place. -/
theorem Value.Unfolds.cells {v w : Value} (unfolds : v.Unfolds base w)
    (order : base.Precedes σ) :
    ∀ d ∈ w.cells, ∃ c ∈ v.cells, Relation.ReflTransGen σ.Holds c d := by
  match unfolds with
  | .same v => exact fun d member => ⟨d, member, .refl⟩
  | .list each => exact each.cells order
  | .record each => exact each.cells order
termination_by structural unfolds

theorem Slot.Unfolds.cells {slot slot' : Slot} (unfolds : slot.Unfolds base slot')
    (order : base.Precedes σ) :
    ∀ d ∈ slot'.cells, ∃ c ∈ slot.cells, Relation.ReflTransGen σ.Holds c d := by
  match unfolds with
  | .deferred c => exact fun d member => ⟨d, member, .refl⟩
  | .ready values => exact values.cells order
  | .completed complete values =>
      intro d member
      obtain ⟨e, among, leads⟩ := values.cells order d member
      exact ⟨_, List.mem_singleton_self _, .head ⟨_, order.held complete, among⟩ leads⟩
termination_by structural unfolds

theorem UnfoldsItems.cells {items items' : List Slot} (each : UnfoldsItems base items items')
    (order : base.Precedes σ) :
    ∀ d ∈ itemCells items', ∃ c ∈ itemCells items, Relation.ReflTransGen σ.Holds c d := by
  match each with
  | .nil => simp [itemCells]
  | .cons first others =>
      intro d member
      rcases List.mem_append.mp member with member | member
      · obtain ⟨c, among, leads⟩ := first.cells order d member
        exact ⟨c, List.mem_append_left _ among, leads⟩
      · obtain ⟨c, among, leads⟩ := others.cells order d member
        exact ⟨c, List.mem_append_right _ among, leads⟩
termination_by structural each

theorem UnfoldsFields.cells {names : List String} {fields fields' : Fields Slot names}
    (each : UnfoldsFields base fields fields') (order : base.Precedes σ) :
    ∀ d ∈ fieldCells fields', ∃ c ∈ fieldCells fields, Relation.ReflTransGen σ.Holds c d := by
  match each with
  | .nil => simp [fieldCells]
  | .snoc others newest =>
      intro d member
      rcases List.mem_append.mp member with member | member
      · obtain ⟨c, among, leads⟩ := newest.cells order d member
        exact ⟨c, List.mem_append_left _ among, leads⟩
      · obtain ⟨c, among, leads⟩ := others.cells order d member
        exact ⟨c, List.mem_append_right _ among, leads⟩
termination_by structural each

end

/-- Replacing cells makes no value contain itself. -/
theorem CellStore.Unfolds.acyclic (stores : base.Unfolds σ σ') (acyclic : σ.Acyclic) : σ'.Acyclic := by
  have holds {c d : CellId} (holds' : σ'.Holds c d) : Relation.TransGen σ.Holds c d := by
    obtain ⟨w, completed', member⟩ := holds'
    have states := stores.state c
    rw [completed'] at states
    generalize completed : σ.state c = state at states
    cases states with
    | @completed v _ values =>
      obtain ⟨e, among, leads⟩ := values.cells stores.order d member
      exact .head' ⟨v, completed, among⟩ leads
  exact fun c cycle => acyclic c (Relation.TransGen.closed (fun _ _ => holds) c c cycle)

end Cells

section Texts

variable {base σ σ' : CellStore} {n : Nat}

/-- The completed ones among some cells lead through fewer cells than a bound says. -/
def CellStore.Below (σ : CellStore) (n : Nat) (cells : List CellId) : Prop :=
  ∀ c ∈ cells, ∀ v, σ.state c = .completed v → σ.rank c < n

theorem CellStore.Below.left {cells others : List CellId} (below : σ.Below n (cells ++ others)) : σ.Below n cells :=
  fun c member => below c (List.mem_append_left _ member)

theorem CellStore.Below.right {cells others : List CellId} (below : σ.Below n (cells ++ others)) : σ.Below n others :=
  fun c member => below c (List.mem_append_right _ member)

theorem CellStore.Acyclic.below (acyclic : σ.Acyclic) {c : CellId} {v : Value} (completed : σ.state c = .completed v)
    (within : σ.rank c ≤ n) : σ.Below n v.cells := by
  intro d member u held
  have less := (acyclic.grounded c).rank_lt ⟨v, completed, member⟩ held
  omega

/-- Completed cells that lead through fewer cells than a bound says have the same texts in both stores. -/
structure CellStore.AgreeBelow (base σ σ' : CellStore) (n : Nat) : Prop where
  stores : base.Unfolds σ σ'
  acyclic : σ.Acyclic
  texts : ∀ c v, σ.state c = .completed v → σ.rank c < n → σ.cellText σ.size c = σ'.cellText σ'.size c

theorem CellStore.AgreeBelow.cellText (agree : base.AgreeBelow σ σ' n) {cells : List CellId} (below : σ.Below n cells) :
    ∀ c ∈ cells, σ.cellText σ.size c = σ'.cellText σ'.size c := by
  intro c member
  by_cases complete : ∃ v, σ.state c = .completed v
  · obtain ⟨v, completed⟩ := complete
    exact agree.texts c v completed (below c member v completed)
  · have other : ∀ v, σ.state c ≠ .completed v := fun v completed => complete ⟨v, completed⟩
    have other' : ∀ w, σ'.state c ≠ .completed w := by
      intro w completed'
      have states := agree.stores.state c
      rw [completed'] at states
      generalize completed : σ.state c = state at states
      cases states
      exact other _ completed
    rw [cellText_of_not_completed other, cellText_of_not_completed other']

mutual

theorem Value.Unfolds.textBelow {v w : Value} (unfolds : v.Unfolds base w) (agree : base.AgreeBelow σ σ' n)
    (below : σ.Below n v.cells) : v.textWith (σ.cellText σ.size) = w.textWith (σ'.cellText σ'.size) := by
  match unfolds with
  | .same v => exact v.textWith_congr (agree.cellText below)
  | .list each => rw [Value.textWith, Value.textWith, each.textBelow agree below]
  | .record each => rw [Value.textWith, Value.textWith, recordTexts, recordTexts, each.textBelow agree below]
termination_by structural unfolds

theorem Slot.Unfolds.textBelow {slot slot' : Slot} (unfolds : slot.Unfolds base slot')
    (agree : base.AgreeBelow σ σ' n) (below : σ.Below n slot.cells) :
    slot.textWith (σ.cellText σ.size) = slot'.textWith (σ'.cellText σ'.size) := by
  match unfolds with
  | .deferred c => exact agree.cellText below c (List.mem_singleton_self c)
  | .ready values => exact values.textBelow agree below
  | .completed complete values =>
    have completed := agree.stores.order.held complete
    have within := below _ (List.mem_singleton_self _) _ completed
    rw [Slot.textWith, Slot.textWith, (agree.acyclic.grounded _).cellText_completed completed]
    exact values.textBelow agree (agree.acyclic.below completed within.le)
termination_by structural unfolds

theorem UnfoldsItems.textBelow {items items' : List Slot} (each : UnfoldsItems base items items')
    (agree : base.AgreeBelow σ σ' n) (below : σ.Below n (itemCells items)) :
    itemTexts (σ.cellText σ.size) items = itemTexts (σ'.cellText σ'.size) items' := by
  match each with
  | .nil => rfl
  | .cons first others =>
    rw [itemTexts, itemTexts, first.textBelow agree below.left, others.textBelow agree below.right]
termination_by structural each

theorem UnfoldsFields.textBelow {names : List String} {fields fields' : Fields Slot names}
    (each : UnfoldsFields base fields fields') (agree : base.AgreeBelow σ σ' n)
    (below : σ.Below n (fieldCells fields)) :
    fieldTexts (σ.cellText σ.size) fields = fieldTexts (σ'.cellText σ'.size) fields' := by
  match each with
  | .nil => rfl
  | .snoc others newest =>
    rw [fieldTexts, fieldTexts, newest.textBelow agree below.left, others.textBelow agree below.right]
termination_by structural each

end

/-- A completed cell has the same text in both stores. The induction is on the number of cells that it may lead
through. -/
theorem CellStore.Unfolds.agreeBelow (stores : base.Unfolds σ σ') (acyclic : σ.Acyclic) (n : Nat) :
    base.AgreeBelow σ σ' n := by
  induction n with
  | zero => exact ⟨stores, acyclic, fun c v _ within => by omega⟩
  | succ n ih =>
    refine ⟨stores, acyclic, fun c v completed within => ?_⟩
    have states := stores.state c
    rw [completed] at states
    generalize completed' : σ'.state c = state at states
    cases states with
    | completed values =>
      rw [(acyclic.grounded c).cellText_completed completed,
        ((stores.acyclic acyclic).grounded c).cellText_completed completed']
      exact values.textBelow ih (acyclic.below completed (by omega))

/-- Replacing completed cells does not change the text of a value. -/
theorem Value.Unfolds.text {v w : Value} (unfolds : v.Unfolds base w) (stores : base.Unfolds σ σ')
    (acyclic : σ.Acyclic) : σ'.text w = σ.text v :=
  (unfolds.textBelow (stores.agreeBelow acyclic σ.size) fun c _ _ completed =>
    (acyclic.grounded c).rank_lt_size completed).symm

end Texts

end TemplateEngine
