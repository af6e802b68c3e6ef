import TemplateEngine.Proofs.CallGraph.Queries
import TemplateEngine.Proofs.Delegates.Resolution
import TemplateEngine.Proofs.Registries.Admission

namespace TemplateEngine

namespace Registry

variable {registry other : Registry} {entries order : List TemplateEntry}

/-- Two registries find the same templates by their names, and list the same ones for each delegate. -/
structure FindsAs (registry other : Registry) : Prop where
  lookup : ∀ name, other.lookup name = registry.lookup name
  implementations : ∀ delegate entry,
    entry ∈ other.delegates.implementations delegate ↔ entry ∈ registry.delegates.implementations delegate

theorem FindsAs.symm (finds : registry.FindsAs other) : other.FindsAs registry where
  lookup name := (finds.lookup name).symm
  implementations delegate entry := (finds.implementations delegate entry).symm

theorem FindsAs.calls (finds : registry.FindsAs other) {caller callee : TemplateEntry}
    (calls : registry.Calls caller callee) : other.Calls caller callee := by
  cases calls with
  | named calls found => exact .named calls ((finds.lookup _).trans found)
  | implementation calls implements => exact .implementation calls ((finds.implementations _ _).mpr implements)

theorem FindsAs.reaches (finds : registry.FindsAs other) {root callee : TemplateEntry}
    (reaches : registry.Reaches root callee) : other.Reaches root callee :=
  Relation.ReflTransGen.mono (fun _ _ calls => finds.calls calls) _ _ reaches

theorem FindsAs.misses (finds : registry.FindsAs other) {caller : TemplateEntry} {name : String}
    (misses : registry.Misses caller name) : other.Misses caller name := by
  obtain ⟨calls, missing⟩ := misses
  have unknown := lookup_eq_error.mpr ⟨missing, rfl⟩
  rw [← finds.lookup] at unknown
  exact ⟨calls, (lookup_eq_error.mp unknown).1⟩

theorem FindsAs.reads (finds : registry.FindsAs other) {root : TemplateEntry} {key : String}
    (reads : registry.Reads root key) : other.Reads root key := by
  obtain ⟨callee, reaches, own⟩ := reads
  exact ⟨callee, finds.reaches reaches, own⟩

theorem FindsAs.answers (finds : registry.FindsAs other) {root : TemplateEntry} {answer : Except ErrorKind NameSet}
    (answers : registry.Answers root answer) : other.Answers root answer := by
  cases answer with
  | ok keys =>
    obtain ⟨closed, exact'⟩ := answers
    refine ⟨fun callee name reaches misses => ?_, fun key => (exact' key).trans ⟨finds.reads, finds.symm.reads⟩⟩
    exact closed callee name (finds.symm.reaches reaches) (finds.symm.misses misses)
  | error e =>
    obtain ⟨callee, name, reaches, misses, same⟩ := answers
    exact ⟨callee, name, finds.reaches reaches, finds.misses misses, same⟩

/-- Two answers are the same keys, or each of them names a template that is missing. -/
inductive AnswersAlike : Except ErrorKind NameSet → Except ErrorKind NameSet → Prop
  | keys (keys : NameSet) : AnswersAlike (.ok keys) (.ok keys)
  | missing (name name' : String) : AnswersAlike (.error (.unknownTemplate name)) (.error (.unknownTemplate name'))

theorem Answers.alike {root : TemplateEntry} {answer answer' : Except ErrorKind NameSet}
    (answers : registry.Answers root answer) (answers' : registry.Answers root answer') :
    AnswersAlike answer answer' := by
  cases answer with
  | ok keys =>
    rw [answers.eq_ok answers']
    exact .keys keys
  | error e =>
    cases answer' with
    | ok keys =>
      have same := answers'.eq_ok answers
      cases same
    | error e' =>
      obtain ⟨_, name, _, _, rfl⟩ := answers
      obtain ⟨_, name', _, _, rfl⟩ := answers'
      exact .missing name name'

/-- Questions are answered alike, whatever each of the registries has been asked before. -/
theorem FindsAs.injectedKeys (finds : registry.FindsAs other) (coherent : registry.Coherent)
    (coherent' : other.Coherent) (asked asked' : List String) (name : String) :
    AnswersAlike (registry.injectedKeys (registry.ask asked) name).1
      (other.injectedKeys (other.ask asked') name).1 := by
  have same := finds.lookup name
  cases found : registry.lookup name with
  | error e =>
    obtain ⟨-, rfl⟩ := lookup_eq_error.mp found
    rw [found] at same
    simp only [Registry.injectedKeys, found, same]
    exact .missing name name
  | ok entry =>
    rw [found] at same
    have answers := (answers_injectedKeys coherent (recalls_ask coherent asked) found).1
    have answers' := (answers_injectedKeys coherent' (recalls_ask coherent' asked') same).1
    exact answers.alike (finds.symm.answers answers')

theorem Consistent.perm (consistent : Consistent entries) (perm : order.Perm entries) : Consistent order where
  names := (perm.map _).nodup_iff.mpr consistent.names
  roles := (perm.filterMap _).nodup_iff.mpr consistent.roles

theorem Stores.findsAs (stores : registry.Stores entries) (stores' : other.Stores order) (perm : order.Perm entries) :
    registry.FindsAs other := by
  have lookup (name : String) : other.lookup name = registry.lookup name := by
    have same (entry : TemplateEntry) : other.lookup name = .ok entry ↔ registry.lookup name = .ok entry := by
      rw [stores'.lookup, stores.lookup, perm.mem_iff]
    cases found : registry.lookup name with
    | ok entry => exact (same entry).mpr found
    | error e =>
      cases found' : other.lookup name with
      | ok entry =>
        rw [(same entry).mp found'] at found
        cases found
      | error e' => rw [(lookup_eq_error.mp found).2, (lookup_eq_error.mp found').2]
  refine ⟨lookup, fun delegate entry => ?_⟩
  rw [stores'.mem_implementations, stores.mem_implementations, lookup]

/-- Two registries cannot be told apart by looking up templates, calling delegates or asking for injected values. -/
structure Like (registry other : Registry) : Prop where
  lookup : ∀ name, other.lookup name = registry.lookup name
  resolves : ∀ active, registry.delegates.ResolvesAs other.delegates active
  injectedKeys : ∀ asked asked' name, AnswersAlike (registry.injectedKeys (registry.ask asked) name).1
    (other.injectedKeys (other.ask asked') name).1

theorem Stores.like (stores : registry.Stores entries) (stores' : other.Stores order) (coherent : registry.Coherent)
    (coherent' : other.Coherent) (perm : order.Perm entries) : registry.Like other := by
  have finds := stores.findsAs stores' perm
  refine ⟨finds.lookup, fun active => ?_, finds.injectedKeys coherent coherent'⟩
  exact (stores.holds.resolves active).resolvesAs (stores'.holds.resolves active) (perm.filterMap _)

/-- A registry is built of templates exactly if they are consistent. It then holds these and nothing else, and is alike
in whichever order they come. Otherwise the first collision among them is reported. -/
theorem construction_exact (entries : List TemplateEntry) :
    ((∃ registry, build entries = .ok registry) ↔ Consistent entries) ∧
      (∀ registry, build entries = .ok registry → registry.Stores entries ∧ ∀ delegate entry,
        entry ∈ registry.delegates.implementations delegate ↔
          registry.lookup entry.name = .ok entry ∧ ∃ role, entry.metadata.role = some role ∧ role.name = delegate) ∧
      (∀ e, build entries = .error e ↔ FirstCollision entries e) ∧
      ∀ registry, build entries = .ok registry → ∀ order : List TemplateEntry, order.Perm entries →
        ∃ other, build order = .ok other ∧ registry.Like other := by
  refine ⟨⟨?_, fun consistent => ?_⟩, fun registry built => ?_, fun e => build_eq_error_iff, ?_⟩
  · rintro ⟨registry, built⟩
    exact (stores_of_build built).consistent
  · obtain ⟨registry, built, -⟩ := build_of_consistent consistent
    exact ⟨registry, built⟩
  · have stores := stores_of_build built
    exact ⟨stores, fun delegate entry => stores.mem_implementations⟩
  · intro registry built order perm
    have stores := stores_of_build built
    obtain ⟨other, built', stores'⟩ := build_of_consistent (stores.consistent.perm perm)
    exact ⟨other, built', stores.like stores' (build_coherent built) (build_coherent built') perm⟩

end Registry

/-- A second banner for the sale in winter. -/
def lateBanner : TemplateEntry :=
  ⟨"lateBanner", { (default : TemplateMetadata) with role := some ⟨"banner", "Sale", "winter"⟩ }, .empty⟩

/-- The pages of the site in two orders; then the banner comes too late, before a home page that does so as well. -/
theorem construction_exact_site :
    Registry.build (siteEntries ++ [lateBanner, ⟨"home", default, .empty⟩]) =
        .error (.duplicateDelegate "banner" "winter" "Sale") ∧
      ∃ registry other, Registry.build siteEntries = .ok registry ∧ Registry.build siteEntries.reverse = .ok other ∧
        registry.size = 5 ∧ other.lookup "menu" = registry.lookup "menu" ∧
        Registry.AnswersAlike (registry.injectedKeys (registry.ask []) "home").1
          (other.injectedKeys (other.ask ["draft", "menu"]) "home").1 := by
  obtain ⟨-, -, first, -⟩ := Registry.construction_exact (siteEntries ++ [lateBanner, ⟨"home", default, .empty⟩])
  obtain ⟨accepts, holds, -, orders⟩ := Registry.construction_exact siteEntries
  obtain ⟨registry, built⟩ := accepts.mpr ⟨by decide +kernel, by decide +kernel⟩
  obtain ⟨other, built', like⟩ := orders registry built siteEntries.reverse siteEntries.reverse_perm
  have taken : ∃ page ∈ siteEntries, page.metadata.role = some ⟨"banner", "Sale", "winter"⟩ := by decide +kernel
  have collides : Registry.Collides siteEntries lateBanner (.duplicateDelegate "banner" "winter" "Sale") :=
    .role ⟨rfl, taken⟩
  exact ⟨(first _).mpr ⟨siteEntries, _, _, rfl, accepts.mp ⟨registry, built⟩, collides⟩, registry, other, built, built',
    (holds registry built).1.size, like.lookup "menu", like.injectedKeys [] ["draft", "menu"] "home"⟩

end TemplateEngine
