import Mathlib.Logic.Relation
import TemplateEngine.Template.InjectedKeys

namespace TemplateEngine

namespace SortedMap

variable {κ α : Type} [Ord κ] [Std.TransOrd κ] [Std.LawfulEqOrd κ] {m : SortedMap κ α}

theorem mem_values_insert {key : κ} {value a : α} (member : a ∈ (m.insert key value).values) :
    a = value ∨ a ∈ m.values := by
  obtain ⟨binding, listed, rfl⟩ := List.mem_map.mp member
  rcases mem_insertKey listed with rfl | old
  · exact .inl rfl
  · exact .inr (List.mem_map_of_mem old)

theorem mem_values_of_get? {key : κ} {value : α} (found : m.get? key = some value) : value ∈ m.values :=
  List.mem_map_of_mem (get?_eq_some_iff.mp found)

end SortedMap

theorem DelegateGroup.mem_values_add {α : Type} {group : DelegateGroup α} {package : String} {value a : α}
    (member : a ∈ (group.add package value).values) : a = value ∨ a ∈ group.values := by
  simp only [add, values] at member ⊢
  split at member <;> grind

namespace DelegateTable

variable {α : Type} {table : DelegateTable α}

theorem mem_implementations {name : String} {a : α} :
    a ∈ table.implementations name ↔ ∃ group ∈ (table.variants name).values, a ∈ group.values := by
  simp [implementations]

theorem variants_add {next : DelegateTable α} {name package variant : String} {value : α}
    (added : table.add name package variant value = .ok next) (other : String) :
    next.variants other =
      if other = name then
        (table.variants name).insert variant (((table.group? name variant).getD .empty).add package value)
      else table.variants other := by
  simp only [add] at added
  split at added
  · cases added
  · obtain rfl := Except.ok.inj added
    by_cases same : other = name <;> simp [variants, SortedMap.get?_insert, same]

theorem mem_implementations_add {next : DelegateTable α} {name package variant other : String} {value a : α}
    (added : table.add name package variant value = .ok next) (member : a ∈ next.implementations other) :
    a = value ∨ a ∈ table.implementations other := by
  obtain ⟨group, listed, implements⟩ := mem_implementations.mp member
  rw [variants_add added other] at listed
  split at listed
  next same =>
    rcases SortedMap.mem_values_insert listed with rfl | old
    · refine (DelegateGroup.mem_values_add implements).imp_right fun old => ?_
      cases known : table.group? name variant with
      | none => simp [known, DelegateGroup.empty, DelegateGroup.values] at old
      | some group =>
        rw [known] at old
        exact mem_implementations.mpr ⟨group, same ▸ SortedMap.mem_values_of_get? known, old⟩
    · exact .inr (mem_implementations.mpr ⟨group, same ▸ old, implements⟩)
  next => exact .inr (mem_implementations.mpr ⟨group, listed, implements⟩)

end DelegateTable

namespace Registry

/-- Every template stands under its own name, and delegate implementations are templates of the registry. -/
structure Coherent (registry : Registry) : Prop where
  named : ∀ name entry, registry.lookup name = .ok entry → entry.name = name
  listed : ∀ delegate, ∀ entry ∈ registry.delegates.implementations delegate, registry.lookup entry.name = .ok entry

theorem lookup_eq_ok {registry : Registry} {name : String} {entry : TemplateEntry} :
    registry.lookup name = .ok entry ↔ registry.templates.get? name = some entry := by
  cases found : registry.templates.get? name <;> simp [lookup, found]

theorem lookup_eq_error {registry : Registry} {name : String} {e : ErrorKind} :
    registry.lookup name = .error e ↔ registry.contains name = false ∧ e = .unknownTemplate name := by
  cases found : registry.templates.get? name <;>
    simp [lookup, found, contains, SortedMap.contains, eq_comm]

theorem Coherent.empty : Registry.empty.Coherent where
  named name entry found := by cases found
  listed delegate entry member := by cases member

/-- An addition binds a free name, and whatever it makes a delegate implementation is the template added. -/
theorem add_eq_ok {registry next : Registry} {entry : TemplateEntry} (added : registry.add entry = .ok next) :
    registry.contains entry.name = false ∧ next.templates = registry.templates.insert entry.name entry ∧
      ∀ delegate, ∀ other ∈ next.delegates.implementations delegate,
        other = entry ∨ other ∈ registry.delegates.implementations delegate := by
  have named {delegates : DelegateTable TemplateEntry}
      (added : (if registry.templates.contains entry.name then .error (.duplicateTemplate entry.name)
        else return ⟨registry.templates.insert entry.name entry, delegates⟩ : Except ErrorKind Registry) = .ok next) :
      registry.contains entry.name = false ∧ next = ⟨registry.templates.insert entry.name entry, delegates⟩ := by
    split at added
    · cases added
    next free => exact ⟨by simpa [contains] using free, (Except.ok.inj added).symm⟩
  simp only [Registry.add] at added
  cases role : entry.metadata.role with
  | none =>
    simp only [role] at added
    obtain ⟨free, rfl⟩ := named added
    exact ⟨free, rfl, fun delegate other member => .inr member⟩
  | some role' =>
    simp only [role] at added
    cases table : registry.delegates.add role'.name role'.package role'.variant entry with
    | error e => simp [table, bind, Except.bind] at added
    | ok delegates =>
      simp only [table] at added
      obtain ⟨free, rfl⟩ := named added
      exact ⟨free, rfl, fun delegate other member => DelegateTable.mem_implementations_add table member⟩

theorem lookup_add {registry next : Registry} {entry : TemplateEntry} (added : registry.add entry = .ok next)
    (name : String) : next.lookup name = if name = entry.name then .ok entry else registry.lookup name := by
  rw [lookup, (add_eq_ok added).2.1, SortedMap.get?_insert]
  by_cases same : name = entry.name <;> simp [same, lookup]

theorem Coherent.add {registry next : Registry} {entry : TemplateEntry} (coherent : registry.Coherent)
    (added : registry.add entry = .ok next) : next.Coherent := by
  obtain ⟨free, -, implementations⟩ := add_eq_ok added
  refine ⟨fun name other found => ?_, fun delegate other member => ?_⟩
  · rw [lookup_add added] at found
    split at found
    next same =>
      obtain rfl := Except.ok.inj found
      exact same.symm
    next => exact coherent.named name other found
  · rw [lookup_add added]
    rcases implementations delegate other member with rfl | old
    · rw [if_pos rfl]
    · have known := coherent.listed delegate other old
      have apart : other.name ≠ entry.name := by
        intro same
        rw [same, lookup_eq_ok] at known
        simp [contains, SortedMap.contains, known] at free
      rw [if_neg apart, known]

/-- What every addition keeps holds of a registry that has been built. -/
theorem build_induction {p : Registry → Prop} {entries : List TemplateEntry} {registry : Registry}
    (built : build entries = .ok registry) (empty : p Registry.empty)
    (add : ∀ registry, ∀ entry ∈ entries, p registry → ∀ next, registry.add entry = .ok next → p next) :
    p registry := by
  have folded (pending : List TemplateEntry) (among : ∀ entry ∈ pending, entry ∈ entries) (start : Registry)
      (holds : p start) (built : pending.foldlM Registry.add start = .ok registry) : p registry := by
    induction pending generalizing start with
    | nil =>
      obtain rfl := Except.ok.inj built
      exact holds
    | cons first rest ih =>
      rw [List.foldlM_cons] at built
      cases added : start.add first with
      | error e => simp [added, bind, Except.bind] at built
      | ok next =>
        rw [added] at built
        exact ih (fun entry member => among entry (List.mem_cons_of_mem first member)) next
          (add start first (among first List.mem_cons_self) holds next added) built
  exact folded entries (fun _ member => member) Registry.empty empty built

theorem build_coherent {entries : List TemplateEntry} {registry : Registry} (built : build entries = .ok registry) :
    registry.Coherent :=
  build_induction built .empty fun _ _ _ coherent _ added => coherent.add added

theorem mem_of_build {entries : List TemplateEntry} {registry : Registry} (built : build entries = .ok registry)
    {name : String} {entry : TemplateEntry} (found : registry.lookup name = .ok entry) : entry ∈ entries := by
  refine build_induction (p := fun registry => ∀ name entry, registry.lookup name = .ok entry → entry ∈ entries)
    built (fun name entry found => by cases found) (fun registry first among known next added name entry found => ?_)
    name entry found
  rw [lookup_add added] at found
  split at found
  · obtain rfl := Except.ok.inj found
    exact among
  · exact known name entry found

/-- A template may call another one, by its name or as an implementation of a delegate. -/
inductive Calls (registry : Registry) (entry : TemplateEntry) : TemplateEntry → Prop
  | named {name callee} (calls : entry.metadata.callees.contains name = true)
      (found : registry.lookup name = .ok callee) : Calls registry entry callee
  | implementation {delegate callee} (calls : entry.metadata.delegateCallees.contains delegate = true)
      (implements : callee ∈ registry.delegates.implementations delegate) : Calls registry entry callee

/-- A template is called by another one, over any number of calls, or is that one itself. -/
def Reaches (registry : Registry) : TemplateEntry → TemplateEntry → Prop :=
  Relation.ReflTransGen registry.Calls

theorem Calls.registered {registry : Registry} (coherent : registry.Coherent) {entry callee : TemplateEntry}
    (calls : registry.Calls entry callee) : registry.lookup callee.name = .ok callee := by
  cases calls with
  | named calls found => rwa [coherent.named _ callee found]
  | implementation calls implements => exact coherent.listed _ callee implements

theorem Reaches.registered {registry : Registry} (coherent : registry.Coherent) {root callee : TemplateEntry}
    (reaches : registry.Reaches root callee) (registered : registry.lookup root.name = .ok root) :
    registry.lookup callee.name = .ok callee := by
  cases reaches with
  | refl => exact registered
  | tail _ calls => exact calls.registered coherent

/-- A template calls by a name under which there is nothing. -/
def Misses (registry : Registry) (entry : TemplateEntry) (name : String) : Prop :=
  entry.metadata.callees.contains name = true ∧ registry.contains name = false

/-- Whatever a template calls, over any number of calls, is there. -/
def Closed (registry : Registry) (entry : TemplateEntry) : Prop :=
  ∀ callee name, registry.Reaches entry callee → ¬ registry.Misses callee name

end Registry

end TemplateEngine
