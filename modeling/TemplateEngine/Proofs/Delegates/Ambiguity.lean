import TemplateEngine.Proofs.Delegates.Additions
import TemplateEngine.Proofs.Delegates.ByteOrder

namespace TemplateEngine

namespace SortedMap

variable {κ α β : Type} [Ord κ] [Std.TransOrd κ] [Std.LawfulEqOrd κ] {m : SortedMap κ α} {f : κ × α → Option β}

theorem findSome?_eq_none_iff :
    m.toList.findSome? f = none ↔ ∀ key value, m.get? key = some value → f (key, value) = none := by
  simp [List.findSome?_eq_none_iff, get?_eq_some_iff]

/-- A search through a map ends at the least key at which there is something. -/
theorem findSome?_eq_some_iff {b : β} :
    m.toList.findSome? f = some b ↔ ∃ key value, m.get? key = some value ∧ f (key, value) = some b ∧
      ∀ other value', m.get? other = some value' → compare other key = .lt → f (other, value') = none := by
  simp only [List.findSome?_eq_some_iff, get?_eq_some_iff]
  constructor
  · rintro ⟨before, ⟨key, value⟩, after, split, found, nothing⟩
    refine ⟨key, value, by simp [split], found, fun other value' member below => ?_⟩
    have sorted := m.sorted
    rw [split] at sorted member
    rcases List.mem_append.mp member with earlier | later
    · exact nothing _ earlier
    · have above : compare key other = .gt := Std.OrientedCmp.gt_iff_lt.mpr below
      have ascending := (List.pairwise_append.mp sorted).2.1
      rcases List.mem_cons.mp later with same | later
      · obtain ⟨rfl, rfl⟩ := Prod.mk.inj same
        simp at below
      · rw [(List.pairwise_cons.mp ascending).1 _ later] at above
        cases above
  · rintro ⟨key, value, member, found, nothing⟩
    obtain ⟨before, after, split⟩ := List.append_of_mem member
    refine ⟨before, (key, value), after, split, found, fun ⟨other, value'⟩ earlier => ?_⟩
    have sorted := m.sorted
    rw [split] at sorted
    exact nothing other value' (by simp [split, earlier])
      ((List.pairwise_append.mp sorted).2.2 _ earlier _ List.mem_cons_self)

end SortedMap

namespace DelegateTable

variable {α : Type} {table : DelegateTable α} {active : NameSet}

/-- The active packages that implement a delegate in a variant, in the order in which they were added. -/
def rivals (table : DelegateTable α) (active : NameSet) (name variant : String) : List String :=
  (table.group name variant).activePackages active

theorem rivals_of_get? (active : NameSet) {name variant : String} {variants : SortedMap String (DelegateGroup α)}
    {group : DelegateGroup α} (known : table.groups.get? name = some variants)
    (known' : variants.get? variant = some group) :
    table.rivals active name variant = group.activePackages active := by
  simp [rivals, DelegateTable.group, group?, DelegateTable.variants, known, known']

/-- Where there are no implementations there are no rivals. -/
theorem exists_of_rivals {name variant : String} (rivals : 1 < (table.rivals active name variant).length) :
    ∃ variants group, table.groups.get? name = some variants ∧ variants.get? variant = some group := by
  have some : table.group? name variant ≠ none := by
    intro none
    simp [DelegateTable.rivals, group, none, DelegateGroup.activePackages, DelegateGroup.empty] at rivals
  simp only [group?, variants] at some
  cases known : table.groups.get? name with
  | none =>
    rw [known] at some
    exact absurd rfl some
  | some variants =>
    rw [known] at some
    obtain ⟨group, known'⟩ := Option.ne_none_iff_exists'.mp some
    exact ⟨variants, group, rfl, known'⟩

theorem conflict?_eq_none_iff :
    table.conflict? active = none ↔ ∀ name variant, ¬ 1 < (table.rivals active name variant).length := by
  simp only [conflict?, SortedMap.findSome?_eq_none_iff, ite_eq_right_iff, reduceCtorEq]
  constructor
  · intro all name variant rivals
    obtain ⟨variants, group, known, known'⟩ := exists_of_rivals rivals
    exact all name variants known variant group known' (rivals_of_get? active known known' ▸ rivals)
  · intro all name variants known variant group known' rivals
    exact all name variant (rivals_of_get? active known known' ▸ rivals)

/-- An ambiguity is reported for the least name with rivals, and for the least variant under that name. -/
theorem conflict?_eq_some_iff {name variant : String} {packages : List String} :
    table.conflict? active = some (name, variant, packages) ↔
      1 < packages.length ∧ packages = table.rivals active name variant ∧
        ∀ name' variant', (compare name' name = .lt ∨ name' = name ∧ compare variant' variant = .lt) →
          ¬ 1 < (table.rivals active name' variant').length := by
  simp only [conflict?, SortedMap.findSome?_eq_some_iff, SortedMap.findSome?_eq_none_iff, ite_eq_right_iff, reduceCtorEq]
  constructor
  · rintro ⟨name', variants, known, ⟨variant', group, known', found, first'⟩, first⟩
    split at found
    next several =>
      obtain ⟨rfl, rfl, rfl⟩ := Option.some.inj found
      refine ⟨several, (rivals_of_get? active known known').symm, fun name'' variant'' before rivals => ?_⟩
      obtain ⟨others, group', listed, listed'⟩ := exists_of_rivals rivals
      rw [rivals_of_get? active listed listed'] at rivals
      rcases before with below | ⟨rfl, below⟩
      · exact first name'' others listed below variant'' group' listed' rivals
      · obtain rfl := Option.some.inj (known.symm.trans listed)
        exact first' variant'' group' listed' below rivals
    next => cases found
  · rintro ⟨several, rfl, first⟩
    obtain ⟨variants, group, known, known'⟩ := exists_of_rivals several
    refine ⟨name, variants, known, ⟨variant, group, known', ?_, ?_⟩, ?_⟩
    · rw [rivals_of_get? active known known'] at several ⊢
      rw [if_pos several]
    · intro variant' group' listed' below rivals
      exact first name variant' (.inr ⟨rfl, below⟩) (rivals_of_get? active known listed' ▸ rivals)
    · intro name' others listed below variant' group' listed' rivals
      exact first name' variant' (.inl below) (rivals_of_get? active listed listed' ▸ rivals)

/-- Several active packages implement a delegate in one variant. -/
def Contested (held : List (Implementation α)) (active : NameSet) (name variant : String) : Prop :=
  ∃ i ∈ held, ∃ j ∈ held, (i.Implements name variant ∧ i.IsActive active) ∧
    (j.Implements name variant ∧ j.IsActive active) ∧ i.package ≠ j.package

/-- The packages of the active implementations, in the order in which they were added. -/
def activePackages (held : List (Implementation α)) (active : NameSet) (name variant : String) : List String :=
  (held.filter fun i => i.Implements name variant ∧ i.IsActive active).map Implementation.package

variable {held : List (Implementation α)}

/-- The implementations of active packages in a group are the active ones that the table holds. -/
theorem Holds.filter_packages (holds : table.Holds held) (name variant : String) :
    (table.group name variant).packages.filter (fun entry => active.contains entry.1) =
      (held.filter fun i => i.Implements name variant ∧ i.IsActive active).map fun i => (i.package, i.value) := by
  rw [holds.packages, List.filter_map, List.filter_filter]
  congr 1
  refine List.filter_congr fun i _ => ?_
  rw [Bool.eq_iff_iff, Bool.and_eq_true, decide_eq_true_eq, decide_eq_true_eq, and_comm, and_assoc]
  rfl

theorem Holds.rivals_eq (holds : table.Holds held) (name variant : String) :
    table.rivals active name variant = activePackages held active name variant := by
  rw [rivals, DelegateGroup.activePackages, holds.filter_packages, List.map_map]
  rfl

/-- Packages that implement a delegate in one variant differ, since each has a place of its own. -/
theorem Holds.contested_iff (holds : table.Holds held) {name variant : String} :
    1 < (activePackages held active name variant).length ↔ Contested held active name variant := by
  have member (i : Implementation α) : i ∈ held.filter (fun i => i.Implements name variant ∧ i.IsActive active) ↔
      i ∈ held ∧ i.Implements name variant ∧ i.IsActive active := by
    rw [List.mem_filter, decide_eq_true_eq]
  have distinct := (List.pairwise_map.mp holds.distinct).filter fun i => i.Implements name variant ∧ i.IsActive active
  rw [activePackages, List.length_map]
  generalize held.filter (fun i => i.Implements name variant ∧ i.IsActive active) = found at member distinct ⊢
  constructor
  · intro several
    match found, several with
    | i :: j :: rest, _ =>
      obtain ⟨known, rightI⟩ := (member i).mp (by simp)
      obtain ⟨known', rightJ⟩ := (member j).mp (by simp)
      have apart := (List.pairwise_cons.mp distinct).1 j (by simp)
      refine ⟨i, known, j, known', rightI, rightJ, fun same => apart ?_⟩
      refine Implementation.place_eq_iff.mpr ⟨?_, same⟩
      exact ⟨rightI.1.1.trans rightJ.1.1.symm, rightI.1.2.trans rightJ.1.2.symm⟩
  · rintro ⟨i, known, j, known', rightI, rightJ, apart⟩
    have first := (member i).mpr ⟨known, rightI⟩
    have second := (member j).mpr ⟨known', rightJ⟩
    match found with
    | [] => cases first
    | [k] =>
      obtain rfl := List.mem_singleton.mp first
      obtain rfl := List.mem_singleton.mp second
      exact absurd rfl apart
    | _ :: _ :: _ => simp

theorem Holds.conflict?_eq_none_iff (holds : table.Holds held) :
    table.conflict? active = none ↔ ∀ name variant, ¬ Contested held active name variant := by
  simp only [DelegateTable.conflict?_eq_none_iff, holds.rivals_eq, holds.contested_iff]

/-- Where packages are not in conflict at most one of them implements a delegate in a variant. -/
theorem Holds.active_unique (holds : table.Holds held) {name variant : String}
    (calm : ¬ Contested held active name variant) {i j : Implementation α} (known : i ∈ held) (known' : j ∈ held)
    (fits : i.Implements name variant ∧ i.IsActive active) (fits' : j.Implements name variant ∧ j.IsActive active) :
    i = j := by
  have same : i.package = j.package := by
    by_cases same : i.package = j.package
    · exact same
    · exact absurd ⟨i, known, j, known', fits, fits', same⟩ calm
  refine List.inj_on_of_nodup_map holds.distinct known known' (Implementation.place_eq_iff.mpr ⟨?_, same⟩)
  exact ⟨fits.1.1.trans fits'.1.1.symm, fits.1.2.trans fits'.1.2.symm⟩

theorem contested_congr {others : List (Implementation α)} (same : ∀ i, i ∈ others ↔ i ∈ held) {name variant : String} :
    Contested others active name variant ↔ Contested held active name variant := by
  simp only [Contested, same]

end DelegateTable

namespace DelegateView

variable {α : Type} {table : DelegateTable α} {active : NameSet}

theorem bind_eq_ok {view : DelegateView α} (bound : bind table active = .ok view) :
    view.table = table ∧ view.active = active ∧ table.conflict? active = none := by
  unfold bind at bound
  split at bound
  next calm =>
    obtain rfl := Except.ok.inj bound
    exact ⟨rfl, rfl, calm⟩
  next => cases bound

theorem exists_bind_iff : (∃ view, bind table active = .ok view) ↔ table.conflict? active = none := by
  refine ⟨fun ⟨view, bound⟩ => (bind_eq_ok bound).2.2, fun calm => ⟨⟨table, active, calm⟩, ?_⟩⟩
  unfold bind
  split
  next => rfl
  next conflict => simp [calm] at conflict

theorem bind_eq_error_iff {e : ErrorKind} :
    bind table active = .error e ↔ ∃ name variant packages,
      table.conflict? active = some (name, variant, packages) ∧ e = .conflictingDelegates name variant packages := by
  unfold bind
  split
  next calm => simp [calm]
  next name variant packages conflict =>
    simp only [conflict, Except.error.injEq, Option.some.injEq, Prod.mk.injEq]
    constructor
    · rintro rfl
      exact ⟨name, variant, packages, ⟨rfl, rfl, rfl⟩, rfl⟩
    · rintro ⟨_, _, _, ⟨rfl, rfl, rfl⟩, rfl⟩
      rfl

end DelegateView

end TemplateEngine
