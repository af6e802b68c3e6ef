import Mathlib.Algebra.Order.BigOperators.Group.List
import Mathlib.Algebra.Order.Group.Nat
import TemplateEngine.Proofs.CallGraph.Registry

namespace TemplateEngine

variable {registry : Registry}

namespace CallTarget

/-- A target that stands for a template of the registry, if for any. -/
def Sound (registry : Registry) (target : CallTarget) : Prop :=
  ∀ entry, target.resolve registry = .ok entry → registry.lookup entry.name = .ok entry

theorem sound_implementation {entry : TemplateEntry} (registered : registry.lookup entry.name = .ok entry) :
    (implementation entry).Sound registry := by
  intro other found
  obtain rfl := Except.ok.inj found
  exact registered

end CallTarget

namespace TemplateEntry

theorem mem_targets {entry : TemplateEntry} {target : CallTarget} :
    target ∈ entry.targets registry ↔
      (∃ name, entry.metadata.callees.contains name = true ∧ target = .named name) ∨
        ∃ delegate callee, entry.metadata.delegateCallees.contains delegate = true ∧
          callee ∈ registry.delegates.implementations delegate ∧ target = .implementation callee := by
  simp only [targets, List.mem_append, List.mem_map, List.mem_flatMap, SortedMap.contains_iff]
  constructor
  · rintro (⟨name, calls, rfl⟩ | ⟨delegate, calls, callee, implements, rfl⟩)
    · exact .inl ⟨name, calls, rfl⟩
    · exact .inr ⟨delegate, callee, calls, implements, rfl⟩
  · rintro (⟨name, calls, rfl⟩ | ⟨delegate, callee, calls, implements, rfl⟩)
    · exact .inl ⟨name, calls, rfl⟩
    · exact .inr ⟨delegate, calls, callee, implements, rfl⟩

theorem calls_iff {entry callee : TemplateEntry} :
    registry.Calls entry callee ↔
      ∃ target ∈ entry.targets registry, target.resolve registry = .ok callee := by
  constructor
  · intro calls
    cases calls with
    | @named name _ calls found => exact ⟨.named name, mem_targets.mpr (.inl ⟨name, calls, rfl⟩), found⟩
    | @implementation delegate _ calls implements =>
      exact ⟨.implementation callee, mem_targets.mpr (.inr ⟨delegate, callee, calls, implements, rfl⟩), rfl⟩
  · rintro ⟨target, member, found⟩
    rcases mem_targets.mp member with ⟨name, calls, rfl⟩ | ⟨delegate, other, calls, implements, rfl⟩
    · exact .named calls found
    · obtain rfl := Except.ok.inj found
      exact .implementation calls implements

theorem misses_of_target {entry : TemplateEntry} {target : CallTarget} {e : ErrorKind}
    (member : target ∈ entry.targets registry) (lacks : target.resolve registry = .error e) :
    ∃ name, registry.Misses entry name ∧ e = .unknownTemplate name := by
  rcases mem_targets.mp member with ⟨name, calls, rfl⟩ | ⟨delegate, other, calls, implements, rfl⟩
  · obtain ⟨absent, rfl⟩ := Registry.lookup_eq_error.mp lacks
    exact ⟨name, ⟨calls, absent⟩, rfl⟩
  · cases lacks

theorem target_of_misses {entry : TemplateEntry} {name : String} (misses : registry.Misses entry name) :
    ∃ target ∈ entry.targets registry, target.resolve registry = .error (.unknownTemplate name) :=
  ⟨.named name, mem_targets.mpr (.inl ⟨name, misses.1, rfl⟩), Registry.lookup_eq_error.mpr ⟨misses.2, rfl⟩⟩

theorem targets_sound (coherent : registry.Coherent) {entry : TemplateEntry} :
    ∀ target ∈ entry.targets registry, target.Sound registry := fun target member _ found =>
  (calls_iff.mpr ⟨target, member, found⟩).registered coherent

end TemplateEntry

namespace Registry

/-- How pending targets are followed to an answer, with the names visited and the keys collected so far. -/
inductive Walk (registry : Registry) (memo : KeyMemo) :
    List CallTarget → NameSet → NameSet → Except ErrorKind NameSet → Prop
  | ended {visited keys} : Walk registry memo [] visited keys (.ok keys)
  | missing {target pending visited keys e} (lacks : target.resolve registry = .error e) :
      Walk registry memo (target :: pending) visited keys (.error e)
  | again {target entry pending visited keys answer} (found : target.resolve registry = .ok entry)
      (old : visited.contains entry.name = true) (later : Walk registry memo pending visited keys answer) :
      Walk registry memo (target :: pending) visited keys answer
  | remembered {target entry known pending visited keys answer} (found : target.resolve registry = .ok entry)
      (new : visited.contains entry.name = false) (recalled : memo.get? entry.name = some known)
      (later : Walk registry memo pending (visited.add entry.name) (keys.union known) answer) :
      Walk registry memo (target :: pending) visited keys answer
  | entered {target entry pending visited keys answer} (found : target.resolve registry = .ok entry)
      (new : visited.contains entry.name = false) (unknown : memo.get? entry.name = none)
      (later : Walk registry memo (entry.targets registry ++ pending) (visited.add entry.name)
        (keys.union entry.metadata.injectedKeys) answer) :
      Walk registry memo (target :: pending) visited keys answer

/-- The number of calls in templates that have not been visited. -/
def openCalls (registry : Registry) (visited : NameSet) : Nat :=
  (registry.entries.flatMap fun entry =>
    if visited.contains entry.name then [] else entry.targets registry).length

theorem openCalls_empty (registry : Registry) : registry.openCalls SortedMap.empty = registry.callCount := rfl

/-- A template that is visited takes its calls with it. -/
theorem openCalls_add {visited : NameSet} {entry : TemplateEntry} (listed : entry ∈ registry.entries)
    (new : visited.contains entry.name = false) :
    registry.openCalls (visited.add entry.name) + (entry.targets registry).length ≤ registry.openCalls visited := by
  obtain ⟨before, after, split⟩ := List.append_of_mem listed
  have fewer (entries : List TemplateEntry) :
      (entries.flatMap fun other =>
        if (visited.add entry.name).contains other.name then [] else other.targets registry).length ≤
      (entries.flatMap fun other =>
        if visited.contains other.name then [] else other.targets registry).length := by
    rw [List.length_flatMap, List.length_flatMap]
    refine List.sum_le_sum fun other _ => ?_
    by_cases old : visited.contains other.name = true
    · rw [if_pos old, if_pos (NameSet.contains_add.mpr (.inr old))]
    · rw [if_neg old]
      split
      · exact Nat.zero_le _
      · exact le_rfl
  have visit : (visited.add entry.name).contains entry.name = true := NameSet.contains_add.mpr (.inl rfl)
  simp only [openCalls, split, List.flatMap_append, List.flatMap_cons, List.length_append, visit, new, if_true,
    Bool.false_eq_true, if_false, List.length_nil]
  have := fewer before
  have := fewer after
  omega

/-- With fuel for all pending targets and all calls of templates not visited yet, following calls walks to the
end. -/
theorem walk_followCalls (coherent : registry.Coherent) (memo : KeyMemo) {fuel : Nat} {pending : List CallTarget}
    {visited keys : NameSet} (sound : ∀ target ∈ pending, target.Sound registry)
    (enough : pending.length + registry.openCalls visited < fuel) :
    registry.Walk memo pending visited keys (registry.followCalls memo fuel pending visited keys) := by
  induction fuel generalizing pending visited keys with
  | zero => omega
  | succ fuel ih =>
    cases pending with
    | nil => exact .ended
    | cons target pending =>
      obtain ⟨first, others⟩ := List.forall_mem_cons.mp sound
      rw [List.length_cons] at enough
      cases found : target.resolve registry with
      | error e =>
        simp only [followCalls, found]
        exact .missing found
      | ok entry =>
        simp only [followCalls, found]
        split
        next old => exact .again found old (ih others (by omega))
        next new =>
          have new : visited.contains entry.name = false := by simpa using new
          have registered := first entry found
          have listed : entry ∈ registry.entries :=
            List.mem_append_left _ (SortedMap.mem_values_of_get? (lookup_eq_ok.mp registered))
          have fewer := openCalls_add listed new
          cases recalled : memo.get? entry.name with
          | some known =>
            exact .remembered found new recalled (ih others (by omega))
          | none =>
            -- The calls of the template become pending, and they are no longer open.
            have called : ∀ target ∈ entry.targets registry ++ pending, target.Sound registry :=
              List.forall_mem_append.mpr ⟨TemplateEntry.targets_sound coherent, others⟩
            refine .entered found new recalled (ih called ?_)
            rw [List.length_append]
            omega

end Registry

end TemplateEngine
