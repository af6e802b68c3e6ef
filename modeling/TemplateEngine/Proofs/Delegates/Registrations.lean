import Mathlib.Data.List.Induction
import TemplateEngine.Proofs.Delegates.Additions
import TemplateEngine.Proofs.Delegates.ByteOrder

namespace TemplateEngine

/-- What is stored as a group has something in it, and at most one implementation for each package. The default is none
for a package. -/
structure DelegateGroup.Sound {α : Type} (group : DelegateGroup α) : Prop where
  nonempty : group.values ≠ []
  distinct : (group.packages.map Prod.fst).Nodup
  named : "" ∉ group.packages.map Prod.fst

namespace DelegateTable

variable {α : Type} {table next : DelegateTable α} {held : List (Implementation α)} {i j : Implementation α}

def setGroup (table : DelegateTable α) (name variant : String) (group : DelegateGroup α) : DelegateTable α :=
  ⟨table.groups.insert name ((table.variants name).insert variant group)⟩

/-- Makes room for a delegate in a variant, unless there is room already. -/
def reserve (table : DelegateTable α) (name variant : String) : DelegateTable α :=
  table.setGroup name variant (table.group name variant)

/-- Adds an implementation in place. Room is made for it first, and the group that is there then tells whether it is
refused. -/
def register (table : DelegateTable α) (i : Implementation α) : Except ErrorKind Unit × DelegateTable α :=
  let reserved := table.reserve i.name i.variant
  let group := reserved.group i.name i.variant
  if group.has i.package then (.error (.duplicateDelegate i.name i.variant i.package), reserved)
  else (.ok (), reserved.setGroup i.name i.variant (group.add i.package i.value))

theorem variants_setGroup (table : DelegateTable α) (name variant other : String) (group : DelegateGroup α) :
    (table.setGroup name variant group).variants other =
      if other = name then (table.variants name).insert variant group else table.variants other := by
  by_cases same : other = name <;> simp [setGroup, variants, SortedMap.get?_insert, same]

theorem contains_setGroup {name variant other : String} {group : DelegateGroup α} :
    (table.setGroup name variant group).contains other = true ↔ other = name ∨ table.contains other = true :=
  SortedMap.contains_insert

theorem setGroup_setGroup (table : DelegateTable α) (name variant : String) (first last : DelegateGroup α) :
    (table.setGroup name variant first).setGroup name variant last = table.setGroup name variant last := by
  rw [setGroup, variants_setGroup, if_pos rfl, SortedMap.insert_insert, setGroup, SortedMap.insert_insert, setGroup]

theorem group_reserve (table : DelegateTable α) (name variant : String) :
    (table.reserve name variant).group name variant = table.group name variant := by
  simp [reserve, group, group?, variants_setGroup, SortedMap.get?_insert]

theorem add_eq_setGroup (table : DelegateTable α) (i : Implementation α) :
    table.add i.name i.package i.variant i.value =
      if (table.group i.name i.variant).has i.package then .error (.duplicateDelegate i.name i.variant i.package)
      else .ok (table.setGroup i.name i.variant ((table.group i.name i.variant).add i.package i.value)) :=
  rfl

theorem groups_get? {name variant : String} {stored : DelegateGroup α}
    (found : table.group? name variant = some stored) : table.groups.get? name = some (table.variants name) := by
  cases known : table.groups.get? name with
  | none =>
    rw [group?, DelegateTable.variants, known] at found
    cases found
  | some variants => rw [DelegateTable.variants, known, Option.getD_some]

/-- Where a group has something in it, it is stored, so no room is made. -/
theorem reserve_of_has {name variant package : String} (taken : (table.group name variant).has package = true) :
    table.reserve name variant = table := by
  cases found : table.group? name variant with
  | none => simp [DelegateTable.group, found, DelegateGroup.has, DelegateGroup.empty] at taken
  | some stored =>
    rw [reserve, setGroup, DelegateTable.group, found, Option.getD_some, SortedMap.insert_of_get? found,
      SortedMap.insert_of_get? (groups_get? found)]

/-- A registration in place has the result of an addition, and if that is refused the table is the same as before. -/
theorem register_eq (table : DelegateTable α) (i : Implementation α) :
    table.register i =
      match table.add i.name i.package i.variant i.value with
      | .ok next => (.ok (), next)
      | .error e => (.error e, table) := by
  rw [register, group_reserve, add_eq_setGroup]
  split
  next taken => rw [reserve_of_has taken]
  -- The group takes the place of the empty one, if there was no room before.
  next => rw [reserve, setGroup_setGroup]

def registerTo (state : DelegateTable α × List (Implementation α)) (i : Implementation α) :
    DelegateTable α × List (Implementation α) :=
  match state.1.register i with
  | (.ok _, next) => (next, state.2 ++ [i])
  | (.error _, next) => (next, state.2)

/-- Makes some registrations in a fresh table, whether or not they are refused, and lists those that are not. -/
def registerAll (history : List (Implementation α)) : DelegateTable α × List (Implementation α) :=
  history.foldl registerTo (empty, [])

theorem registerAll_eq (history : List (Implementation α)) : registerAll history = addAll history := by
  have same : registerTo (α := α) = addTo := by
    funext state i
    rw [registerTo, addTo, register_eq]
    cases state.1.add i.name i.package i.variant i.value <;> rfl
  rw [registerAll, same, addAll]

/-- There is an entry for a delegate, and for a variant of it, exactly if it has an implementation. -/
structure Tight (table : DelegateTable α) (held : List (Implementation α)) : Prop where
  name : ∀ name, table.contains name = true ↔ ∃ i ∈ held, i.name = name
  variant : ∀ name variant, (table.variants name).contains variant = true ↔ ∃ i ∈ held, i.Implements name variant

theorem Tight.empty : Tight (DelegateTable.empty : DelegateTable α) [] where
  name name := by
    simp only [List.not_mem_nil, false_and, exists_false, iff_false]
    exact Bool.false_ne_true
  variant name variant := by
    simp only [List.not_mem_nil, false_and, exists_false, iff_false]
    exact Bool.false_ne_true

theorem Tight.add (tight : table.Tight held) (added : table.add i.name i.package i.variant i.value = .ok next) :
    next.Tight (held ++ [i]) := by
  have listed (P : Implementation α → Prop) : (∃ j ∈ held ++ [i], P j) ↔ P i ∨ ∃ j ∈ held, P j := by
    simp [or_and_right, exists_or, or_comm]
  rw [add_eq_setGroup] at added
  split at added
  · cases added
  · obtain rfl := Except.ok.inj added
    refine ⟨fun name => ?_, fun name variant => ?_⟩
    · rw [listed, ← tight.name, contains_setGroup, eq_comm]
    · rw [listed, ← tight.variant, variants_setGroup, Implementation.Implements]
      split
      next same => rw [SortedMap.contains_insert, same, eq_self, true_and, eq_comm]
      next apart => rw [eq_false (Ne.symm apart), false_and, false_or]

/-- However many registrations are refused, the table holds the others, and has entries for nothing else. -/
theorem registerAll_holds (history : List (Implementation α)) :
    (registerAll history).1.Holds (registerAll history).2 ∧ (registerAll history).1.Tight (registerAll history).2 := by
  rw [registerAll_eq]
  refine ⟨addAll_holds history, ?_⟩
  induction history using List.reverseRecOn with
  | nil => exact .empty
  | append_singleton earlier i ih =>
    rw [addAll, List.foldl_append, List.foldl_cons, List.foldl_nil, ← addAll, addTo]
    split
    next next added => exact ih.add added
    next => exact ih

theorem Holds.eq_of_place (holds : table.Holds held) (known : i ∈ held) (known' : j ∈ held)
    (same : i.place = j.place) : i = j :=
  List.inj_on_of_nodup_map holds.distinct known known' same

/-- The order in which the implementations of a delegate are listed. Variants are in the order of their bytes, and in a
variant the default comes first and then the packages as they were registered. -/
inductive Precedes (held : List (Implementation α)) (i j : Implementation α) : Prop
  | variant (below : Text.utf8 i.variant < Text.utf8 j.variant)
  | default (same : i.variant = j.variant) (default : i.IsDefault) (package : ¬ j.IsDefault)
  | package (same : i.variant = j.variant) (package : ¬ i.IsDefault) (package' : ¬ j.IsDefault)
      (earlier : [i, j].Sublist held)

theorem Holds.not_precedes_self (holds : table.Holds held) : ¬ Precedes held i i := by
  rintro (below | ⟨-, default, package⟩ | ⟨-, -, -, earlier⟩)
  · exact List.lt_irrefl _ below
  · exact package default
  · have twice := List.Nodup.sublist earlier (List.Nodup.of_map _ holds.distinct)
    simp at twice

/-- The implementations of a delegate in a variant, in the order in which they are listed. -/
def listing (held : List (Implementation α)) (name variant : String) : List (Implementation α) :=
  (held.find? fun i => i.Implements name variant ∧ i.IsDefault).toList ++
    held.filter fun i => i.Implements name variant ∧ ¬ i.IsDefault

theorem Holds.mem_listing (holds : table.Holds held) {name variant : String} :
    i ∈ listing held name variant ↔ i ∈ held ∧ i.Implements name variant := by
  have first : held.find? (fun j => j.Implements name variant ∧ j.IsDefault) = some i ↔
      i ∈ held ∧ i.Implements name variant ∧ i.IsDefault := by
    refine ⟨fun found => ⟨List.mem_of_find?_eq_some found, by simpa using List.find?_some found⟩, ?_⟩
    rintro ⟨known, implements, default⟩
    cases found : held.find? fun j => j.Implements name variant ∧ j.IsDefault with
    | none => simpa [implements, default] using List.find?_eq_none.mp found i known
    | some j =>
      have implements' : j.Implements name variant ∧ j.IsDefault := by simpa using List.find?_some found
      have same := implements'.1.place_eq implements (implements'.2.trans default.symm)
      exact congrArg some (holds.eq_of_place (List.mem_of_find?_eq_some found) known same)
  rw [listing, List.mem_append, Option.mem_toList, first, List.mem_filter]
  by_cases default : i.IsDefault <;> simp [default]

theorem listing_pairwise (held : List (Implementation α)) (name variant : String) :
    (listing held name variant).Pairwise (Precedes held) := by
  have within {i : Implementation α} (member : i ∈ held.filter fun i => i.Implements name variant ∧ ¬ i.IsDefault) :
      i.variant = variant ∧ ¬ i.IsDefault := by
    have kept := (List.mem_filter.mp member).2
    simp only [decide_eq_true_eq] at kept
    exact ⟨kept.1.2, kept.2⟩
  refine List.pairwise_append.mpr ⟨?_, List.pairwise_iff_forall_sublist.mpr fun {i j} earlier => ?_,
    fun i first j later => ?_⟩
  · cases held.find? fun i => i.Implements name variant ∧ i.IsDefault <;> simp
  · have inI := within (earlier.subset (by simp : i ∈ [i, j]))
    have inJ := within (earlier.subset (by simp : j ∈ [i, j]))
    exact .package (inI.1.trans inJ.1.symm) inI.2 inJ.2 (earlier.trans List.filter_sublist)
  · have default : i.Implements name variant ∧ i.IsDefault := by
      simpa using List.find?_some (Option.mem_toList.mp first)
    exact .default (default.1.2.trans (within later).1.symm) default.2 (within later).2

theorem group_of_mem {name variant : String} {stored : DelegateGroup α}
    (member : (variant, stored) ∈ (table.variants name).toList) : table.group name variant = stored := by
  rw [DelegateTable.group, group?, SortedMap.get?_eq_some_iff.mpr member, Option.getD_some]

theorem Holds.values_eq (holds : table.Holds held) (name variant : String) :
    (table.group name variant).values = (listing held name variant).map Implementation.value := by
  rw [DelegateGroup.values, holds.default, holds.packages, listing, List.map_append, List.map_map, Option.toList_map]
  rfl

/-- What is stored is sound. -/
theorem Holds.sound (holds : table.Holds held) (tight : table.Tight held) {name variant : String}
    {stored : DelegateGroup α} (member : (variant, stored) ∈ (table.variants name).toList) : stored.Sound := by
  rw [← group_of_mem member]
  refine ⟨?_, ?_, ?_⟩
  · obtain ⟨i, known, implements⟩ := (tight.variant name variant).mp
      (SortedMap.contains_iff.mpr (List.mem_map_of_mem member))
    rw [holds.values_eq]
    exact List.ne_nil_of_mem (List.mem_map_of_mem (holds.mem_listing.mpr ⟨known, implements⟩))
  · rw [holds.packages, List.map_map]
    refine List.Nodup.map_on ?_ ((List.Nodup.of_map _ holds.distinct).filter _)
    intro i member j member' same
    simp only [List.mem_filter, decide_eq_true_eq] at member member'
    exact holds.eq_of_place member.1 member'.1 (member.2.1.place_eq member'.2.1 same)
  · rw [holds.packages, List.map_map]
    intro unnamed
    obtain ⟨i, member, default⟩ := List.mem_map.mp unnamed
    have kept := (List.mem_filter.mp member).2
    simp only [decide_eq_true_eq] at kept
    exact kept.2 default

/-- There is something in everything that is stored. -/
theorem Holds.stored (holds : table.Holds held) (tight : table.Tight held) {name : String}
    {variants : SortedMap String (DelegateGroup α)} (listed : (name, variants) ∈ table.groups.toList) :
    variants.toList ≠ [] ∧ ∀ variant group, (variant, group) ∈ variants.toList → group.Sound := by
  obtain rfl : table.variants name = variants := by
    rw [DelegateTable.variants, SortedMap.get?_eq_some_iff.mpr listed, Option.getD_some]
  refine ⟨?_, fun variant group member => holds.sound tight member⟩
  obtain ⟨i, known, named⟩ := (tight.name name).mp (SortedMap.contains_iff.mpr (List.mem_map_of_mem listed))
  obtain ⟨binding, member, -⟩ := List.mem_map.mp
    (SortedMap.contains_iff.mp ((tight.variant name i.variant).mpr ⟨i, known, named, rfl⟩))
  exact List.ne_nil_of_mem member

theorem Holds.implementations_eq (holds : table.Holds held) (name : String) :
    table.implementations name =
      ((table.variants name).keys.flatMap (listing held name)).map Implementation.value := by
  rw [implementations, SortedMap.values, SortedMap.keys, List.flatMap_map, List.flatMap_map, List.map_flatMap]
  refine List.flatMap_congr fun entry member => ?_
  have stored : table.group name entry.1 = entry.2 := group_of_mem member
  rw [← holds.values_eq, stored]

/-- All variants of a delegate are listed one after the other, so what is listed is in order, and it is everything that
implements the delegate. -/
theorem Holds.exists_order (holds : table.Holds held) (tight : table.Tight held) (name : String) :
    ∃ order : List (Implementation α), order.Perm (held.filter fun i => i.name = name) ∧
      order.Pairwise (Precedes held) ∧ table.implementations name = order.map Implementation.value := by
  have ordered : ((table.variants name).keys.flatMap (listing held name)).Pairwise (Precedes held) := by
    refine List.pairwise_flatMap.mpr ⟨fun variant _ => listing_pairwise held name variant, ?_⟩
    refine List.pairwise_map.mpr ((table.variants name).sorted.imp fun below i first j later => .variant ?_)
    rw [(holds.mem_listing.mp first).2.2, (holds.mem_listing.mp later).2.2]
    exact Text.compare_eq_lt_iff.mp below
  refine ⟨_, ?_, ordered, holds.implementations_eq name⟩
  refine (List.perm_ext_iff_of_nodup ?_ ((List.Nodup.of_map _ holds.distinct).filter _)).mpr fun i => ?_
  · -- Nothing precedes itself, so nothing is listed twice.
    refine ordered.imp ?_
    rintro i _ precedes rfl
    exact holds.not_precedes_self precedes
  · simp only [List.mem_flatMap, holds.mem_listing, List.mem_filter, decide_eq_true_eq, ← SortedMap.contains_iff]
    constructor
    · rintro ⟨variant, -, known, implements⟩
      exact ⟨known, implements.1⟩
    · rintro ⟨known, rfl⟩
      exact ⟨i.variant, (tight.variant _ _).mpr ⟨i, known, rfl, rfl⟩, known, rfl, rfl⟩

theorem Tight.isEmpty_iff (tight : table.Tight held) : table.isEmpty = true ↔ held = [] := by
  rw [isEmpty, SortedMap.isEmpty, List.isEmpty_iff, List.eq_nil_iff_forall_not_mem, List.eq_nil_iff_forall_not_mem]
  constructor
  · intro nothing i known
    obtain ⟨binding, listed, -⟩ := List.mem_map.mp
      (SortedMap.contains_iff.mp ((tight.name i.name).mpr ⟨i, known, rfl⟩))
    exact nothing binding listed
  · intro nothing binding listed
    obtain ⟨i, known, -⟩ := (tight.name binding.1).mp (SortedMap.contains_iff.mpr (List.mem_map_of_mem listed))
    exact nothing i known

/-- What a table is like after some registrations, if these were accepted and all others refused. -/
structure Registered (table : DelegateTable α) (accepted : List (Implementation α)) : Prop where
  added : ∀ i, table.add i.name i.package i.variant i.value = (table.register i).1.map fun _ => (table.register i).2
  refused : ∀ i e, (table.register i).1 = .error e ↔
    (∃ j ∈ accepted, j.place = i.place) ∧ e = .duplicateDelegate i.name i.variant i.package
  unchanged : ∀ i e, (table.register i).1 = .error e → (table.register i).2 = table
  stored : ∀ name variants, (name, variants) ∈ table.groups.toList →
    variants.toList ≠ [] ∧ ∀ variant group, (variant, group) ∈ variants.toList → group.Sound
  contains : ∀ name, table.contains name = true ↔ ∃ i ∈ accepted, i.name = name
  isEmpty : table.isEmpty = true ↔ accepted = []
  distinct : (accepted.map Implementation.place).Nodup
  implementations : ∀ name, ∃ order : List (Implementation α), order.Perm (accepted.filter fun i => i.name = name) ∧
    order.Pairwise (Precedes accepted) ∧ table.implementations name = order.map Implementation.value

/-- Whatever is registered, a table refuses exactly what it has accepted before, and is not changed by what it refuses.
It stores no empty groups, and lists everything that it has accepted, each once and in order. -/
theorem registerAll_registered (history : List (Implementation α)) :
    (registerAll history).1.Registered (registerAll history).2 := by
  obtain ⟨holds, tight⟩ := registerAll_holds history
  refine ⟨fun i => ?_, fun i e => ?_, fun i e refused => ?_, fun _ _ => holds.stored tight, tight.name,
    tight.isEmpty_iff, holds.distinct, holds.exists_order tight⟩
  · rw [register_eq]
    cases (registerAll history).1.add i.name i.package i.variant i.value <;> rfl
  · rw [← holds.add_eq_error_iff, register_eq]
    split <;> simp_all
  · rw [register_eq] at refused ⊢
    split at refused
    · cases refused
    · rfl

/-- The third is refused. The variant without a name is listed first, and in it the default. -/
example :
    let history := [⟨"card", "", "b", 1⟩, ⟨"card", "p", "", 2⟩, ⟨"card", "", "b", 3⟩, ⟨"card", "", "", 4⟩]
    (registerAll history).1.implementations "card" = [4, 2, 1] := by decide

end DelegateTable

end TemplateEngine
