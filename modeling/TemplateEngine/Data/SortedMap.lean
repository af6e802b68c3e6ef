namespace TemplateEngine

universe u v w

/-- The lookup that `SortedMap.get?` performs on its bindings. -/
def lookupKey {κ : Type u} {α : Type v} [Ord κ] (key : κ) : List (κ × α) → Option α
  | [] => none
  | (k, a) :: rest => if compare key k = .eq then some a else lookupKey key rest

/-- Binds `key` in an ascending list, replacing a binding of the same key. -/
def insertKey {κ : Type u} {α : Type v} [Ord κ] (key : κ) (value : α) : List (κ × α) → List (κ × α)
  | [] => [(key, value)]
  | (k, a) :: rest =>
    match compare key k with
    | .lt => (key, value) :: (k, a) :: rest
    | .eq => (key, value) :: rest
    | .gt => (k, a) :: insertKey key value rest

/-- A finite map whose bindings ascend strictly in their keys, so that maps with the same bindings are equal. -/
structure SortedMap (κ : Type u) (α : Type v) [Ord κ] where
  toList : List (κ × α)
  sorted : toList.Pairwise (fun a b => compare a.1 b.1 = .lt)
deriving DecidableEq

theorem mem_insertKey {κ : Type u} {α : Type v} [Ord κ] {key : κ} {value : α} {b : κ × α}
    {entries : List (κ × α)} (member : b ∈ insertKey key value entries) :
    b = (key, value) ∨ b ∈ entries := by
  induction entries with
  | nil => simpa [insertKey] using member
  | cons head rest ih =>
    obtain ⟨k, a⟩ := head
    simp only [insertKey] at member
    split at member <;> simp only [List.mem_cons] at member ⊢
    · exact member
    · exact member.imp_right Or.inr
    · rcases member with rfl | member
      · exact .inr (.inl rfl)
      · exact (ih member).imp_right Or.inr

theorem insertKey_sorted {κ : Type u} {α : Type v} [Ord κ] [Std.TransOrd κ] [Std.LawfulEqOrd κ]
    (key : κ) (value : α) {entries : List (κ × α)}
    (sorted : entries.Pairwise (fun a b => compare a.1 b.1 = .lt)) :
    (insertKey key value entries).Pairwise (fun a b => compare a.1 b.1 = .lt) := by
  induction entries with
  | nil => simp [insertKey]
  | cons head rest ih =>
    obtain ⟨k, a⟩ := head
    obtain ⟨first, tail⟩ := List.pairwise_cons.1 sorted
    simp only [insertKey]
    split
    next below =>
      refine List.pairwise_cons.2 ⟨fun b member => ?_, sorted⟩
      rcases List.mem_cons.1 member with rfl | member
      · exact below
      · exact Std.TransCmp.lt_trans below (first b member)
    next same =>
      obtain rfl := Std.LawfulEqCmp.eq_of_compare same
      exact List.pairwise_cons.2 ⟨first, tail⟩
    next above =>
      refine List.pairwise_cons.2 ⟨fun b member => ?_, ih tail⟩
      rcases mem_insertKey member with rfl | member
      · exact Std.OrientedCmp.gt_iff_lt.1 above
      · exact first b member

theorem lookupKey_insertKey {κ : Type u} {α : Type v} [Ord κ] [Std.TransOrd κ] [Std.LawfulEqOrd κ]
    (key other : κ) (value : α) (entries : List (κ × α)) :
    lookupKey other (insertKey key value entries) =
      if compare other key = .eq then some value else lookupKey other entries := by
  induction entries with
  | nil => rfl
  | cons head rest ih =>
    obtain ⟨k, a⟩ := head
    simp only [insertKey]
    split
    next => rfl
    next same =>
      obtain rfl := Std.LawfulEqCmp.eq_of_compare same
      simp only [lookupKey]
      split <;> rfl
    next above =>
      simp only [lookupKey, ih]
      split
      next same =>
        obtain rfl := Std.LawfulEqCmp.eq_of_compare same
        have apart : compare other key ≠ .eq := by
          rw [Std.OrientedOrd.eq_swap, above]
          simp
        simp [apart]
      next => rfl

/-- What is found in a list is bound there. -/
theorem mem_of_lookupKey {κ : Type u} {α : Type v} [Ord κ] [Std.LawfulEqOrd κ] {key : κ} {value : α}
    {entries : List (κ × α)} (found : lookupKey key entries = some value) : (key, value) ∈ entries := by
  induction entries with
  | nil => cases found
  | cons head rest ih =>
    obtain ⟨k, a⟩ := head
    simp only [lookupKey] at found
    split at found
    next same =>
      obtain rfl := Std.LawfulEqCmp.eq_of_compare same
      obtain rfl := Option.some.inj found
      exact List.mem_cons_self
    next => exact List.mem_cons_of_mem _ (ih found)

/-- In an ascending list every binding is found. -/
theorem lookupKey_of_mem {κ : Type u} {α : Type v} [Ord κ] [Std.TransOrd κ] [Std.LawfulEqOrd κ] {key : κ}
    {value : α} {entries : List (κ × α)} (sorted : entries.Pairwise (fun a b => compare a.1 b.1 = .lt))
    (member : (key, value) ∈ entries) : lookupKey key entries = some value := by
  induction entries with
  | nil => cases member
  | cons head rest ih =>
    obtain ⟨first, tail⟩ := List.pairwise_cons.1 sorted
    rcases List.mem_cons.1 member with rfl | member
    · simp [lookupKey]
    · have above : compare key head.1 = .gt := Std.OrientedCmp.gt_iff_lt.2 (first _ member)
      simp [lookupKey, above, ih tail member]

/-- Ascending lists with the same bindings are equal. -/
theorem eq_of_mem_iff {κ : Type u} {α : Type v} [Ord κ] [Std.TransOrd κ] {entries others : List (κ × α)}
    (sorted : entries.Pairwise (fun a b => compare a.1 b.1 = .lt))
    (sorted' : others.Pairwise (fun a b => compare a.1 b.1 = .lt))
    (same : ∀ binding, binding ∈ entries ↔ binding ∈ others) : entries = others := by
  have distinct {entries : List (κ × α)} (sorted : entries.Pairwise (fun a b => compare a.1 b.1 = .lt)) :
      entries.Nodup := by
    refine sorted.imp fun {a b} below equal => ?_
    have itself : compare b.1 b.1 = .eq := Std.ReflCmp.compare_self
    rw [equal, itself] at below
    cases below
  refine List.Perm.eq_of_pairwise (fun a b _ _ below above => ?_) sorted sorted'
    ((List.perm_ext_iff_of_nodup (distinct sorted) (distinct sorted')).2 same)
  rw [Std.OrientedCmp.gt_iff_lt.2 below] at above
  cases above

namespace SortedMap

variable {κ : Type u} {α : Type v} [Ord κ]

def empty : SortedMap κ α := ⟨[], .nil⟩

instance : Inhabited (SortedMap κ α) := ⟨empty⟩

/-- The value bound to `key`. -/
def get? (m : SortedMap κ α) (key : κ) : Option α := lookupKey key m.toList

/-- Whether `key` is bound. -/
def contains (m : SortedMap κ α) (key : κ) : Bool := (m.get? key).isSome

/-- The bound keys, ascending. -/
def keys (m : SortedMap κ α) : List κ := m.toList.map Prod.fst

/-- The bound values, in key order. -/
def values (m : SortedMap κ α) : List α := m.toList.map Prod.snd

def size (m : SortedMap κ α) : Nat := m.toList.length

def isEmpty (m : SortedMap κ α) : Bool := m.toList.isEmpty

variable [Std.TransOrd κ] [Std.LawfulEqOrd κ]

/-- Binds `key` to `value`, replacing an earlier binding. -/
def insert (m : SortedMap κ α) (key : κ) (value : α) : SortedMap κ α :=
  ⟨insertKey key value m.toList, insertKey_sorted key value m.sorted⟩

/-- Binds the pairs in order, so of two pairs with one key the later counts. -/
def ofList (pairs : List (κ × α)) : SortedMap κ α :=
  pairs.foldl (fun m pair => m.insert pair.1 pair.2) empty

/-- Applies `f` to every bound value. -/
def mapValues {β : Type w} (f : α → β) (m : SortedMap κ α) : SortedMap κ β :=
  ⟨m.toList.map (fun b => (b.1, f b.2)), by simpa [List.pairwise_map] using m.sorted⟩

/-- An inserted key is found, and the other keys keep their bindings. -/
theorem get?_insert (m : SortedMap κ α) (key other : κ) (value : α) :
    (m.insert key value).get? other = if compare other key = .eq then some value else m.get? other :=
  lookupKey_insertKey key other value m.toList

theorem get?_eq_some_iff {m : SortedMap κ α} {key : κ} {value : α} :
    m.get? key = some value ↔ (key, value) ∈ m.toList :=
  ⟨mem_of_lookupKey, lookupKey_of_mem m.sorted⟩

theorem contains_iff {m : SortedMap κ α} {key : κ} : m.contains key = true ↔ key ∈ m.keys := by
  simp [contains, Option.isSome_iff_exists, get?_eq_some_iff, keys]

theorem contains_insert {m : SortedMap κ α} {key other : κ} {value : α} :
    (m.insert key value).contains other = true ↔ other = key ∨ m.contains other = true := by
  rw [contains, get?_insert, contains]
  split
  next same => simp [Std.LawfulEqCmp.eq_of_compare same]
  next apart =>
    have distinct : other ≠ key := by
      rintro rfl
      exact apart Std.ReflCmp.compare_self
    simp [distinct]

/-- Maps are determined by what is found in them. -/
theorem eq_of_get? {m n : SortedMap κ α} (same : ∀ key, m.get? key = n.get? key) : m = n := by
  obtain ⟨entries, sorted⟩ := m
  obtain ⟨others, sorted'⟩ := n
  have equal : entries = others := by
    refine eq_of_mem_iff sorted sorted' fun ⟨key, value⟩ => ?_
    have found : get? ⟨entries, sorted⟩ key = some value ↔ (key, value) ∈ entries := get?_eq_some_iff
    rw [same, get?_eq_some_iff] at found
    exact found.symm
  subst equal
  rfl

theorem insert_insert (m : SortedMap κ α) (key : κ) (first last : α) :
    (m.insert key first).insert key last = m.insert key last := by
  refine eq_of_get? fun other => ?_
  simp only [get?_insert]
  split <;> rfl

theorem insert_of_get? {m : SortedMap κ α} {key : κ} {value : α} (found : m.get? key = some value) :
    m.insert key value = m := by
  refine eq_of_get? fun other => ?_
  rw [get?_insert]
  split
  next same => rw [Std.LawfulEqCmp.eq_of_compare same, found]
  next => rfl

/-- A value that is found in a map of pairs comes from a pair. -/
theorem mem_of_get?_ofList {pairs : List (κ × α)} {key : κ} {value : α} (found : (ofList pairs).get? key = some value) :
    (key, value) ∈ pairs := by
  have folded (pairs : List (κ × α)) (m : SortedMap κ α)
      (found : (pairs.foldl (fun m pair => m.insert pair.1 pair.2) m).get? key = some value) :
      (key, value) ∈ pairs ∨ m.get? key = some value := by
    induction pairs generalizing m with
    | nil => exact .inr found
    | cons pair rest ih =>
      rcases ih _ found with member | earlier
      · exact .inl (List.mem_cons_of_mem pair member)
      · rw [get?_insert] at earlier
        split at earlier
        next same =>
          obtain rfl := Std.LawfulEqCmp.eq_of_compare same
          obtain rfl := Option.some.inj earlier
          exact .inl List.mem_cons_self
        next => exact .inr earlier
  rcases folded pairs empty found with member | nothing
  · exact member
  · cases nothing

end SortedMap

/-- A finite set of names, listed in ascending order. -/
abbrev NameSet := SortedMap String Unit

namespace NameSet

def add (s : NameSet) (name : String) : NameSet := SortedMap.insert s name ()

def ofNames (names : List String) : NameSet := names.foldl add SortedMap.empty

def union (s t : NameSet) : NameSet := t.keys.foldl add s

theorem contains_add {s : NameSet} {name other : String} :
    (s.add name).contains other = true ↔ other = name ∨ s.contains other = true :=
  SortedMap.contains_insert

theorem contains_foldl_add {names : List String} {s : NameSet} {name : String} :
    (names.foldl add s).contains name = true ↔ s.contains name = true ∨ name ∈ names := by
  induction names generalizing s with
  | nil => simp
  | cons first rest ih => rw [List.foldl_cons, ih, contains_add, List.mem_cons]; grind

theorem contains_ofNames {names : List String} {name : String} :
    (ofNames names).contains name = true ↔ name ∈ names := by
  rw [ofNames, contains_foldl_add]
  exact or_iff_right Bool.false_ne_true

theorem contains_union {s t : NameSet} {name : String} :
    (s.union t).contains name = true ↔ s.contains name = true ∨ t.contains name = true := by
  rw [union, contains_foldl_add, SortedMap.contains_iff (m := t)]

/-- Sets are determined by the names in them. -/
theorem ext {s t : NameSet} (same : ∀ name, s.contains name = true ↔ t.contains name = true) : s = t := by
  refine SortedMap.eq_of_get? fun name => ?_
  have both := same name
  rw [SortedMap.contains, SortedMap.contains] at both
  revert both
  cases SortedMap.get? s name <;> cases SortedMap.get? t name <;> simp

end NameSet

end TemplateEngine
