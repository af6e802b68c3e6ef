import Mathlib.Data.List.Perm.Basic
import TemplateEngine.Proofs.CallGraph.Registry
import TemplateEngine.Proofs.Delegates.Registrations

namespace TemplateEngine

namespace SortedMap

variable {κ α : Type} [Ord κ] [Std.TransOrd κ] [Std.LawfulEqOrd κ] {m : SortedMap κ α}

theorem size_insert {key : κ} {value : α} (free : m.contains key = false) : (m.insert key value).size = m.size + 1 := by
  have fresh (entries : List (κ × α)) (free : lookupKey key entries = none) :
      (insertKey key value entries).length = entries.length + 1 := by
    induction entries with
    | nil => rfl
    | cons head rest ih =>
      obtain ⟨k, a⟩ := head
      simp only [lookupKey] at free
      simp only [insertKey]
      split at free
      · cases free
      next apart =>
        split
        next => rfl
        next same => exact absurd same apart
        next => rw [List.length_cons, ih free, List.length_cons]
  exact fresh m.toList (by simpa [contains, get?] using free)

end SortedMap

/-- What a template implements, if it is there for a delegate. -/
def TemplateEntry.implementation? (entry : TemplateEntry) : Option (Implementation TemplateEntry) :=
  entry.metadata.role.map fun role => ⟨role.name, role.package, role.variant, entry⟩

namespace Registry

variable {registry : Registry} {earlier entries : List TemplateEntry} {entry : TemplateEntry}

/-- The delegate implementations among some templates. -/
def implementing (entries : List TemplateEntry) : List (Implementation TemplateEntry) :=
  entries.filterMap TemplateEntry.implementation?

/-- No two templates have one name, and no two are there for the same delegate, package and variant. -/
structure Consistent (entries : List TemplateEntry) : Prop where
  names : (entries.map fun entry => entry.name).Nodup
  roles : (entries.filterMap fun entry => entry.metadata.role).Nodup

/-- Some earlier template is there for the same delegate, package and variant. -/
def RoleTaken (earlier : List TemplateEntry) (entry : TemplateEntry) (role : DelegateRole) : Prop :=
  entry.metadata.role = some role ∧ ∃ other ∈ earlier, other.metadata.role = some role

/-- Why a template cannot be added to earlier ones. What it implements is looked at before its name. -/
inductive Collides (earlier : List TemplateEntry) (entry : TemplateEntry) : ErrorKind → Prop
  | role {role} (taken : RoleTaken earlier entry role) :
      Collides earlier entry (.duplicateDelegate role.name role.variant role.package)
  | name (free : ∀ role, ¬ RoleTaken earlier entry role) (taken : ∃ other ∈ earlier, other.name = entry.name) :
      Collides earlier entry (.duplicateTemplate entry.name)

/-- A template collides with earlier ones that do not collide with each other. -/
def FirstCollision (entries : List TemplateEntry) (e : ErrorKind) : Prop :=
  ∃ earlier entry later, entries = earlier ++ entry :: later ∧ Consistent earlier ∧ Collides earlier entry e

/-- A registry of these templates and of no others. Both of its indexes lead to the same ones. -/
structure Stores (registry : Registry) (entries : List TemplateEntry) : Prop where
  consistent : Consistent entries
  lookup : ∀ name entry, registry.lookup name = .ok entry ↔ entry ∈ entries ∧ entry.name = name
  size : registry.size = entries.length
  holds : registry.delegates.Holds (implementing entries)
  tight : registry.delegates.Tight (implementing entries)

theorem mem_implementing {i : Implementation TemplateEntry} :
    i ∈ implementing entries ↔ i.value ∈ entries ∧ i.value.metadata.role = some ⟨i.name, i.package, i.variant⟩ := by
  obtain ⟨name, package, variant, entry⟩ := i
  simp only [implementing, TemplateEntry.implementation?, List.mem_filterMap, Option.map_eq_some_iff]
  constructor
  · rintro ⟨_, member, ⟨_, _, _⟩, implements, same⟩
    cases same
    exact ⟨member, implements⟩
  · rintro ⟨member, implements⟩
    exact ⟨entry, member, _, implements, rfl⟩

theorem taken_iff {role : DelegateRole} :
    (∃ i ∈ implementing earlier, i.place = (role.name, role.variant, role.package)) ↔
      ∃ other ∈ earlier, other.metadata.role = some role := by
  simp only [mem_implementing]
  constructor
  · rintro ⟨⟨_, _, _, other⟩, ⟨member, implements⟩, place⟩
    obtain ⟨rfl, rfl, rfl⟩ : _ = role.name ∧ _ = role.variant ∧ _ = role.package := by
      simpa [Implementation.place] using place
    exact ⟨other, member, implements⟩
  · rintro ⟨other, member, implements⟩
    exact ⟨⟨role.name, role.package, role.variant, other⟩, ⟨member, implements⟩, rfl⟩

theorem Collides.unique {e e' : ErrorKind} (collides : Collides earlier entry e)
    (collides' : Collides earlier entry e') : e = e' := by
  cases collides with
  | role taken =>
    cases collides' with
    | role taken' =>
      obtain rfl := Option.some.inj (taken.1.symm.trans taken'.1)
      rfl
    | name free _ => exact absurd taken (free _)
  | name free _ =>
    cases collides' with
    | role taken => exact absurd taken (free _)
    | name _ _ => rfl

theorem Collides.not_consistent {later : List TemplateEntry} {e : ErrorKind} (collides : Collides earlier entry e) :
    ¬ Consistent (earlier ++ entry :: later) := by
  rintro ⟨names, roles⟩
  cases collides with
  | role taken =>
    obtain ⟨implements, other, member, same⟩ := taken
    rw [List.filterMap_append] at roles
    exact List.disjoint_of_nodup_append roles (List.mem_filterMap.mpr ⟨other, member, same⟩)
      (List.mem_filterMap.mpr ⟨entry, List.mem_cons_self, implements⟩)
  | name free taken =>
    obtain ⟨other, member, same⟩ := taken
    rw [List.map_append] at names
    exact List.disjoint_of_nodup_append names (List.mem_map.mpr ⟨other, member, same⟩)
      (List.mem_map_of_mem List.mem_cons_self)

theorem Consistent.add (consistent : Consistent earlier) (free : ∀ role, ¬ RoleTaken earlier entry role)
    (unnamed : ∀ other ∈ earlier, other.name ≠ entry.name) : Consistent (earlier ++ [entry]) := by
  constructor
  · rw [List.map_append]
    refine List.nodup_append.mpr ⟨consistent.names, List.nodup_singleton _, ?_⟩
    simpa using unnamed
  · rw [List.filterMap_append]
    refine List.nodup_append.mpr ⟨consistent.roles, ?_, ?_⟩
    · cases implements : entry.metadata.role <;> simp [implements]
    · intro role taken role' own same
      obtain ⟨other, member, implements⟩ := List.mem_filterMap.mp taken
      obtain ⟨_, only, implements'⟩ := List.mem_filterMap.mp own
      obtain rfl := List.mem_singleton.mp only
      exact free role' ⟨implements', other, member, implements.trans (congrArg some same)⟩

theorem Stores.empty : Registry.empty.Stores [] where
  consistent := ⟨List.nodup_nil, List.nodup_nil⟩
  lookup name entry := by
    simp only [List.not_mem_nil, false_and, iff_false]
    rintro ⟨⟩
  size := rfl
  holds := .empty
  tight := .empty

theorem Stores.contains_iff (stores : registry.Stores entries) {name : String} :
    registry.contains name = true ↔ ∃ entry ∈ entries, entry.name = name := by
  simp only [← stores.lookup, lookup_eq_ok, contains, SortedMap.contains, Option.isSome_iff_exists]

/-- The delegates after a template was added, which are the same if it is there for none. -/
def withRole (delegates : DelegateTable TemplateEntry) (entry : TemplateEntry) :
    Except ErrorKind (DelegateTable TemplateEntry) :=
  entry.implementation?.elim (.ok delegates) fun i => delegates.add i.name i.package i.variant i.value

theorem add_eq (registry : Registry) (entry : TemplateEntry) :
    registry.add entry = (withRole registry.delegates entry).bind fun delegates =>
      if registry.contains entry.name then .error (.duplicateTemplate entry.name)
      else .ok ⟨registry.templates.insert entry.name entry, delegates⟩ := by
  rw [Registry.add, withRole, TemplateEntry.implementation?]
  cases entry.metadata.role <;> rfl

/-- What a template implements is put into the table, unless its place is taken. -/
theorem withRole_cases {delegates : DelegateTable TemplateEntry} (holds : delegates.Holds (implementing earlier))
    (tight : delegates.Tight (implementing earlier)) (entry : TemplateEntry) :
    (∃ role, RoleTaken earlier entry role ∧
        withRole delegates entry = .error (.duplicateDelegate role.name role.variant role.package)) ∨
      (∀ role, ¬ RoleTaken earlier entry role) ∧
        ∃ next, withRole delegates entry = .ok next ∧ next.Holds (implementing (earlier ++ [entry])) ∧
          next.Tight (implementing (earlier ++ [entry])) := by
  have listed : implementing (earlier ++ [entry]) = implementing earlier ++ entry.implementation?.toList := by
    rw [implementing, List.filterMap_append, implementing]
    cases implements : entry.implementation? <;> simp [implements]
  rw [listed, withRole, TemplateEntry.implementation?]
  cases implements : entry.metadata.role with
  | none =>
    refine .inr ⟨fun role taken => ?_, delegates, rfl, ?_, ?_⟩
    · rw [RoleTaken, implements] at taken
      cases taken.1
    · rwa [Option.map_none, Option.toList_none, List.append_nil]
    · rwa [Option.map_none, Option.toList_none, List.append_nil]
  | some role =>
    let i : Implementation TemplateEntry := ⟨role.name, role.package, role.variant, entry⟩
    rw [Option.map_some, Option.elim_some, Option.toList_some]
    cases added : delegates.add i.name i.package i.variant i.value with
    | error e =>
      obtain ⟨taken, rfl⟩ := holds.add_eq_error_iff.mp added
      exact .inl ⟨role, ⟨implements, taken_iff.mp taken⟩, rfl⟩
    | ok next =>
      refine .inr ⟨fun role' taken => ?_, next, rfl, holds.add added, tight.add added⟩
      obtain ⟨implements', taken⟩ := taken
      obtain rfl := Option.some.inj (implements.symm.trans implements')
      have refused := (holds.add_eq_error_iff (i := i)).mpr ⟨taken_iff.mpr taken, rfl⟩
      rw [added] at refused
      cases refused

/-- A template that collides with none is stored with the others, and any other is refused for its collision. -/
theorem Stores.add (stores : registry.Stores earlier) (entry : TemplateEntry) :
    (∃ e, registry.add entry = .error e ∧ Collides earlier entry e) ∨
      ∃ next, registry.add entry = .ok next ∧ next.Stores (earlier ++ [entry]) := by
  rcases withRole_cases stores.holds stores.tight entry with
    ⟨role, taken, refused⟩ | ⟨free, delegates, put, holds, tight⟩
  · refine .inl ⟨_, ?_, .role taken⟩
    rw [add_eq, refused]
    rfl
  have added : registry.add entry = if registry.contains entry.name then .error (.duplicateTemplate entry.name)
      else .ok ⟨registry.templates.insert entry.name entry, delegates⟩ := by
    rw [add_eq, put]
    rfl
  cases named : registry.contains entry.name with
  | true =>
    rw [named, if_pos rfl] at added
    exact .inl ⟨_, added, .name free (stores.contains_iff.mp named)⟩
  | false =>
    rw [named, if_neg Bool.false_ne_true] at added
    have unnamed : ∀ other ∈ earlier, other.name ≠ entry.name := by
      intro other member same
      have taken := stores.contains_iff.mpr ⟨other, member, same⟩
      rw [named] at taken
      cases taken
    refine .inr ⟨_, added, stores.consistent.add free unnamed, fun name other => ?_, ?_, holds, tight⟩
    · rw [lookup_add added, List.mem_append, List.mem_singleton]
      split
      next same =>
        subst same
        constructor
        · intro found
          obtain rfl := Except.ok.inj found
          exact ⟨.inr rfl, rfl⟩
        · rintro ⟨old | rfl, same⟩
          · exact absurd same (unnamed other old)
          · rfl
      next apart =>
        rw [stores.lookup]
        refine and_congr_left fun same => (or_iff_left ?_).symm
        rintro rfl
        exact apart same.symm
    · rw [Registry.size, SortedMap.size_insert named, List.length_append, List.length_singleton]
      exact congrArg (· + 1) stores.size

theorem build_snoc (earlier : List TemplateEntry) (entry : TemplateEntry) :
    build (earlier ++ [entry]) = (build earlier).bind fun registry => registry.add entry := by
  rw [build, List.foldlM_append, build]
  cases earlier.foldlM Registry.add Registry.empty with
  | error e => rfl
  | ok registry => exact bind_pure (registry.add entry)

/-- A registry is built of some templates, or the first collision among them is reported. -/
theorem build_cases (entries : List TemplateEntry) :
    (∃ e, build entries = .error e ∧ FirstCollision entries e) ∨
      ∃ registry, build entries = .ok registry ∧ registry.Stores entries := by
  induction entries using List.reverseRecOn with
  | nil => exact .inr ⟨_, rfl, .empty⟩
  | append_singleton earlier entry ih =>
    rw [build_snoc]
    rcases ih with ⟨e, refused, first⟩ | ⟨registry, built, stores⟩
    · obtain ⟨before, other, later, rfl, consistent, collides⟩ := first
      refine .inl ⟨e, by rw [refused]; rfl, before, other, later ++ [entry], ?_, consistent, collides⟩
      rw [List.append_assoc, List.cons_append]
    · rw [built]
      rcases stores.add entry with ⟨e, refused, collides⟩ | ⟨next, added, stores⟩
      · exact .inl ⟨e, refused, earlier, entry, [], rfl, stores.consistent, collides⟩
      · exact .inr ⟨next, added, stores⟩

theorem build_of_consistent (consistent : Consistent entries) :
    ∃ registry, build entries = .ok registry ∧ registry.Stores entries := by
  rcases build_cases entries with ⟨e, -, before, entry, later, rfl, -, collides⟩ | built
  · exact absurd consistent collides.not_consistent
  · exact built

theorem stores_of_build (built : build entries = .ok registry) : registry.Stores entries := by
  rcases build_cases entries with ⟨e, refused, -⟩ | ⟨registry', built', stores⟩
  · rw [built] at refused
    cases refused
  · rw [built] at built'
    obtain rfl := Except.ok.inj built'
    exact stores

theorem FirstCollision.build {e : ErrorKind} (first : FirstCollision entries e) : build entries = .error e := by
  obtain ⟨earlier, entry, later, rfl, consistent, collides⟩ := first
  obtain ⟨registry, built, stores⟩ := build_of_consistent consistent
  have refused : Registry.build (earlier ++ [entry]) = .error e := by
    rw [build_snoc, built]
    rcases stores.add entry with ⟨e', refused, collides'⟩ | ⟨next, -, stores'⟩
    · rw [collides.unique collides']
      exact refused
    · exact absurd stores'.consistent collides.not_consistent
  rw [Registry.build] at refused ⊢
  rw [List.append_cons, List.foldlM_append, refused]
  rfl

theorem build_eq_error_iff {e : ErrorKind} : build entries = .error e ↔ FirstCollision entries e := by
  refine ⟨fun refused => ?_, FirstCollision.build⟩
  rcases build_cases entries with ⟨e', refused', first⟩ | ⟨registry, built, -⟩
  · rw [refused] at refused'
    obtain rfl := Except.error.inj refused'
    exact first
  · rw [refused] at built
    cases built

/-- What is listed for a delegate are the templates that implement it, and each of them stands under its own name. -/
theorem Stores.mem_implementations (stores : registry.Stores entries) {delegate : String} :
    entry ∈ registry.delegates.implementations delegate ↔
      registry.lookup entry.name = .ok entry ∧ ∃ role, entry.metadata.role = some role ∧ role.name = delegate := by
  obtain ⟨order, perm, -, listed⟩ := stores.holds.exists_order stores.tight delegate
  simp only [listed, List.mem_map, perm.mem_iff, List.mem_filter, mem_implementing, decide_eq_true_eq,
    stores.lookup, and_true]
  constructor
  · rintro ⟨i, ⟨⟨member, implements⟩, named⟩, rfl⟩
    exact ⟨member, _, implements, named⟩
  · rintro ⟨member, role, implements, named⟩
    exact ⟨⟨role.name, role.package, role.variant, entry⟩, ⟨⟨member, implements⟩, named⟩, rfl⟩

end Registry

end TemplateEngine
