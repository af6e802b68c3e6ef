import Mathlib.Data.List.Nodup
import TemplateEngine.Delegate.View
import TemplateEngine.Proofs.CallGraph.Registry

namespace TemplateEngine

/-- An implementation of a delegate as it is added to a table. The empty package stands for the default. -/
structure Implementation (α : Type) where
  name : String
  package : String
  variant : String
  value : α

namespace Implementation

variable {α : Type}

/-- What a table takes only one implementation for. -/
def place (i : Implementation α) : String × String × String := (i.name, i.variant, i.package)

def Implements (i : Implementation α) (name variant : String) : Prop := i.name = name ∧ i.variant = variant

def IsDefault (i : Implementation α) : Prop := i.package = ""

/-- It belongs to an active package. A default does not, whatever packages are active. -/
def IsActive (i : Implementation α) (active : NameSet) : Prop := i.package ≠ "" ∧ active.contains i.package = true

instance (i : Implementation α) (name variant : String) : Decidable (i.Implements name variant) :=
  inferInstanceAs (Decidable (_ ∧ _))

instance (i : Implementation α) : Decidable i.IsDefault := inferInstanceAs (Decidable (_ = _))

instance (i : Implementation α) (active : NameSet) : Decidable (i.IsActive active) :=
  inferInstanceAs (Decidable (_ ∧ _))

theorem place_eq_iff {i j : Implementation α} :
    i.place = j.place ↔ i.Implements j.name j.variant ∧ i.package = j.package := by
  simp [place, Implements, and_assoc]

theorem Implements.place_eq {i j : Implementation α} {name variant : String} (implements : i.Implements name variant)
    (implements' : j.Implements name variant) (package : i.package = j.package) : i.place = j.place :=
  place_eq_iff.mpr ⟨by rwa [implements'.1, implements'.2], package⟩

end Implementation

namespace DelegateGroup

variable {α : Type} (group : DelegateGroup α) (i : Implementation α)

theorem default_add :
    (group.add i.package i.value).default = if i.IsDefault then some i.value else group.default := by
  by_cases default : i.package = "" <;> simp [add, Implementation.IsDefault, default]

theorem packages_add :
    (group.add i.package i.value).packages =
      if i.IsDefault then group.packages else group.packages ++ [(i.package, i.value)] := by
  by_cases default : i.package = "" <;> simp [add, Implementation.IsDefault, default]

end DelegateGroup

namespace DelegateTable

variable {α : Type}

/-- The implementations of a delegate in a variant. -/
def group (table : DelegateTable α) (name variant : String) : DelegateGroup α :=
  (table.group? name variant).getD .empty

def addTo (state : DelegateTable α × List (Implementation α)) (i : Implementation α) :
    DelegateTable α × List (Implementation α) :=
  match state.1.add i.name i.package i.variant i.value with
  | .ok next => (next, state.2 ++ [i])
  | .error _ => state

/-- Makes some additions to an empty table, and lists those that are not refused. -/
def addAll (additions : List (Implementation α)) : DelegateTable α × List (Implementation α) :=
  additions.foldl addTo (empty, [])

/-- A table with these implementations and no others, each group in the order in which they are listed. -/
structure Holds (table : DelegateTable α) (held : List (Implementation α)) : Prop where
  distinct : (held.map Implementation.place).Nodup
  default : ∀ name variant, (table.group name variant).default =
    (held.find? fun i => i.Implements name variant ∧ i.IsDefault).map Implementation.value
  packages : ∀ name variant, (table.group name variant).packages =
    (held.filter fun i => i.Implements name variant ∧ ¬ i.IsDefault).map fun i => (i.package, i.value)

variable {table next : DelegateTable α} {held : List (Implementation α)} {i : Implementation α}

theorem Holds.empty : Holds (DelegateTable.empty : DelegateTable α) [] where
  distinct := List.nodup_nil
  default _ _ := rfl
  packages _ _ := rfl

/-- A group has an implementation for a package exactly when the place is taken. -/
theorem Holds.has_iff (holds : table.Holds held) :
    (table.group i.name i.variant).has i.package = true ↔ ∃ j ∈ held, j.place = i.place := by
  simp only [Implementation.place_eq_iff]
  by_cases unpackaged : i.package = ""
  · have sought : (table.group i.name i.variant).has i.package = true ↔
        ∃ j ∈ held, j.Implements i.name i.variant ∧ j.IsDefault := by
      simp [DelegateGroup.has, unpackaged, holds.default]
    rw [sought, unpackaged]
    rfl
  · have sought : (table.group i.name i.variant).has i.package = true ↔
        ∃ j ∈ held, (j.Implements i.name i.variant ∧ ¬ j.IsDefault) ∧ j.package = i.package := by
      simp [DelegateGroup.has, unpackaged, holds.packages]
    rw [sought]
    refine exists_congr fun j => and_congr_right fun _ => ?_
    rw [and_right_comm]
    exact and_iff_left_of_imp fun found => fun default => unpackaged (found.2.symm.trans default)

/-- An addition goes to one group. -/
theorem group_add (added : table.add i.name i.package i.variant i.value = .ok next) (name variant : String) :
    next.group name variant =
      if i.Implements name variant then (table.group name variant).add i.package i.value
      else table.group name variant := by
  simp only [group, group?, variants_add added, Implementation.Implements]
  by_cases sameName : name = i.name
  · subst sameName
    by_cases sameVariant : variant = i.variant
    · subst sameVariant
      simp [SortedMap.get?_insert]
    · simp [SortedMap.get?_insert, sameVariant, Ne.symm sameVariant]
  · simp [sameName, Ne.symm sameName]

theorem add_eq (table : DelegateTable α) (i : Implementation α) :
    (∃ next, (table.group i.name i.variant).has i.package = false ∧
      table.add i.name i.package i.variant i.value = .ok next) ∨
      (table.group i.name i.variant).has i.package = true ∧
        table.add i.name i.package i.variant i.value = .error (.duplicateDelegate i.name i.variant i.package) := by
  have known : (table.group? i.name i.variant).getD .empty = table.group i.name i.variant := rfl
  simp only [DelegateTable.add, known]
  cases (table.group i.name i.variant).has i.package <;> simp

theorem Holds.add_eq_error_iff (holds : table.Holds held) {e : ErrorKind} :
    table.add i.name i.package i.variant i.value = .error e ↔
      (∃ j ∈ held, j.place = i.place) ∧ e = .duplicateDelegate i.name i.variant i.package := by
  rw [← holds.has_iff]
  rcases table.add_eq i with ⟨next, free, added⟩ | ⟨taken, refused⟩
  · simp [free, added]
  · simp [taken, refused, eq_comm]

theorem Holds.add (holds : table.Holds held) (added : table.add i.name i.package i.variant i.value = .ok next) :
    next.Holds (held ++ [i]) := by
  have free : ∀ j ∈ held, j.place ≠ i.place := by
    intro j member same
    have refused := holds.add_eq_error_iff.mpr ⟨⟨j, member, same⟩, rfl⟩
    rw [added] at refused
    cases refused
  refine ⟨?_, fun name variant => ?_, fun name variant => ?_⟩
  · rw [List.map_append, List.map_singleton, ← List.concat_eq_append]
    refine holds.distinct.concat fun taken => ?_
    obtain ⟨j, member, same⟩ := List.mem_map.mp taken
    exact free j member same
  · rw [group_add added, List.find?_append]
    by_cases here : i.Implements name variant
    · by_cases default : i.IsDefault
      · have none : (held.find? fun j => j.Implements name variant ∧ j.IsDefault) = none := by
          refine List.find?_eq_none.mpr fun j member => ?_
          simp only [decide_eq_true_eq]
          rintro ⟨implements, default'⟩
          exact free j member (implements.place_eq here (default'.trans default.symm))
        rw [none]
        simp [here, default, DelegateGroup.default_add]
      · simp [here, default, DelegateGroup.default_add, holds.default]
    · simp [here, holds.default]
  · rw [group_add added, List.filter_append, List.map_append, ← holds.packages]
    by_cases here : i.Implements name variant
    · by_cases default : i.IsDefault <;> simp [here, default, DelegateGroup.packages_add]
    · simp [here]

theorem addTo_holds {state : DelegateTable α × List (Implementation α)} (holds : state.1.Holds state.2)
    (i : Implementation α) : (addTo state i).1.Holds (addTo state i).2 := by
  unfold addTo
  split
  next next added => exact holds.add added
  next => exact holds

/-- However many additions are refused, a table holds the others. -/
theorem addAll_holds (additions : List (Implementation α)) : (addAll additions).1.Holds (addAll additions).2 := by
  have folded (additions : List (Implementation α)) (state : DelegateTable α × List (Implementation α))
      (holds : state.1.Holds state.2) : (additions.foldl addTo state).1.Holds (additions.foldl addTo state).2 := by
    induction additions generalizing state with
    | nil => exact holds
    | cons first rest ih => exact ih (addTo state first) (addTo_holds holds first)
  exact folded additions (.empty, []) .empty

/-- Additions for different places are all accepted. -/
theorem addAll_of_distinct {additions : List (Implementation α)}
    (distinct : (additions.map Implementation.place).Nodup) : (addAll additions).2 = additions := by
  have folded (additions : List (Implementation α)) (state : DelegateTable α × List (Implementation α))
      (holds : state.1.Holds state.2) (distinct : ((state.2 ++ additions).map Implementation.place).Nodup) :
      (additions.foldl addTo state).2 = state.2 ++ additions := by
    induction additions generalizing state with
    | nil => exact (List.append_nil _).symm
    | cons first rest ih =>
      have free : ∀ j ∈ state.2, j.place ≠ first.place := by
        rw [List.map_append] at distinct
        exact fun j member => (List.nodup_append.mp distinct).2.2 _ (List.mem_map_of_mem member) _ (by simp)
      have accepted : (addTo state first).2 = state.2 ++ [first] := by
        unfold addTo
        split
        next => rfl
        next e refused =>
          obtain ⟨⟨j, member, same⟩, -⟩ := holds.add_eq_error_iff.mp refused
          exact absurd same (free j member)
      rw [List.foldl_cons, ih _ (addTo_holds holds first) (by rw [accepted]; simpa using distinct), accepted]
      simp
  exact folded additions (.empty, []) .empty distinct

end DelegateTable

end TemplateEngine
