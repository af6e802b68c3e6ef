import TemplateEngine.Proofs.CallGraph.Closure

namespace TemplateEngine

namespace Registry

variable {registry : Registry} {memo : KeyMemo}

/-- The first missing name that a walk meets. Templates with everything behind them are passed over; of the
others it is known by name which have been entered. -/
inductive Blames (registry : Registry) : List CallTarget → (String → Prop) → ErrorKind → Prop
  | missing {target pending entered e} (lacks : target.resolve registry = .error e) :
      Blames registry (target :: pending) entered e
  | closed {target entry pending entered e} (found : target.resolve registry = .ok entry)
      (closed : registry.Closed entry) (later : Blames registry pending entered e) :
      Blames registry (target :: pending) entered e
  | again {target entry pending entered e} (found : target.resolve registry = .ok entry)
      (lacking : ¬ registry.Closed entry) (old : entered entry.name) (later : Blames registry pending entered e) :
      Blames registry (target :: pending) entered e
  | enter {target entry pending entered e} (found : target.resolve registry = .ok entry)
      (lacking : ¬ registry.Closed entry) (new : ¬ entered entry.name)
      (later : Blames registry (entry.targets registry ++ pending)
        (fun name => name = entry.name ∨ entered name) e) :
      Blames registry (target :: pending) entered e

theorem Blames.unique {pending : List CallTarget} {entered : String → Prop} {e e' : ErrorKind}
    (blames : registry.Blames pending entered e) (blames' : registry.Blames pending entered e') : e = e' := by
  -- What the first target resolves to and whether it is entered decide the rule.
  induction blames <;> cases blames' <;> simp_all

/-- Calls of templates with everything behind them are not to blame. -/
theorem Blames.of_append {targets pending : List CallTarget} {entered : String → Prop} {e : ErrorKind}
    (blames : registry.Blames (targets ++ pending) entered e)
    (resolved : ∀ target ∈ targets, ∃ callee, target.resolve registry = .ok callee ∧ registry.Closed callee) :
    registry.Blames pending entered e := by
  induction targets with
  | nil => exact blames
  | cons first rest ih =>
    obtain ⟨⟨callee, found, closed⟩, others⟩ := List.forall_mem_cons.mp resolved
    cases blames <;> simp_all

/-- The names that are entered are those visited, for the templates that lack something behind them. -/
def Agrees (registry : Registry) (entered : String → Prop) (visited : NameSet) : Prop :=
  ∀ entry, registry.lookup entry.name = .ok entry → ¬ registry.Closed entry →
    (entered entry.name ↔ visited.contains entry.name = true)

theorem Agrees.visit_closed {entered : String → Prop} {visited : NameSet} {entry : TemplateEntry}
    (agrees : registry.Agrees entered visited) (registered : registry.lookup entry.name = .ok entry)
    (closed : registry.Closed entry) : registry.Agrees entered (visited.add entry.name) := by
  intro other known lacking
  have apart : other.name ≠ entry.name := fun same => by
    rw [same, registered] at known
    exact lacking (Except.ok.inj known ▸ closed)
  rw [agrees other known lacking, NameSet.contains_add, or_iff_right apart]

theorem Agrees.enter {entered : String → Prop} {visited : NameSet} (agrees : registry.Agrees entered visited)
    (entry : TemplateEntry) :
    registry.Agrees (fun name => name = entry.name ∨ entered name) (visited.add entry.name) := by
  intro other known lacking
  exact (or_congr_right (agrees other known lacking)).trans NameSet.contains_add.symm

/-- A walk that stops at a missing name stops at the first one. -/
theorem Walk.blames {pending : List CallTarget} {visited keys : NameSet} {e : ErrorKind} {entered : String → Prop}
    (walk : registry.Walk memo pending visited keys (.error e)) (coherent : registry.Coherent)
    (recalls : registry.Recalls memo) (sound : ∀ target ∈ pending, target.Sound registry)
    (agrees : registry.Agrees entered visited) : registry.Blames pending entered e := by
  generalize stopped : (Except.error e : Except ErrorKind NameSet) = answer at walk
  induction walk generalizing entered with
  | ended => cases stopped
  | missing lacks =>
    obtain rfl := Except.error.inj stopped
    exact .missing lacks
  | @again target entry pending visited keys answer found old later ih =>
    obtain ⟨first, others⟩ := List.forall_mem_cons.mp sound
    have later := ih others agrees stopped
    by_cases closed : registry.Closed entry
    · exact .closed found closed later
    · have registered := first entry found
      exact .again found closed ((agrees entry registered closed).mpr old) later
  | @remembered target entry known pending visited keys answer found new recalled later ih =>
    obtain ⟨first, others⟩ := List.forall_mem_cons.mp sound
    have registered := first entry found
    -- An answer is remembered only if everything behind the template exists.
    have closed := (recalls entry known registered recalled).1
    exact .closed found closed (ih others (agrees.visit_closed registered closed) stopped)
  | @entered target entry pending visited keys answer found new unknown later ih =>
    obtain ⟨first, others⟩ := List.forall_mem_cons.mp sound
    have registered := first entry found
    have sound : ∀ target ∈ entry.targets registry ++ pending, target.Sound registry :=
      List.forall_mem_append.mpr ⟨TemplateEntry.targets_sound coherent, others⟩
    by_cases closed : registry.Closed entry
    · have later := ih sound (agrees.visit_closed registered closed) stopped
      exact .closed found closed (later.of_append fun target member => closed.resolve member)
    · have fresh : ¬ entered entry.name := by
        rw [agrees entry registered closed, new]
        exact Bool.false_ne_true
      exact .enter found closed fresh (ih sound (agrees.enter entry) stopped)

/-- Two walks from one template come to the same answer, whatever either of them finds remembered. -/
theorem Walk.unique {memo' : KeyMemo} {root : TemplateEntry} {answer answer' : Except ErrorKind NameSet}
    (walk : registry.Walk memo [.implementation root] SortedMap.empty SortedMap.empty answer)
    (walk' : registry.Walk memo' [.implementation root] SortedMap.empty SortedMap.empty answer')
    (coherent : registry.Coherent) (recalls : registry.Recalls memo) (recalls' : registry.Recalls memo')
    (registered : registry.lookup root.name = .ok root) : answer = answer' := by
  have answers := walk.answers coherent recalls registered
  have answers' := walk'.answers coherent recalls' registered
  cases answer with
  | ok keys => exact (answers.eq_ok answers').symm
  | error e =>
    cases answer' with
    | ok keys' => exact answers'.eq_ok answers
    | error e' =>
      have sound := List.forall_mem_singleton.mpr (CallTarget.sound_implementation registered)
      have agrees : registry.Agrees (fun _ => False) SortedMap.empty := fun entry _ _ =>
        ⟨False.elim, fun old => by cases old⟩
      have blames := walk.blames coherent recalls sound agrees
      rw [blames.unique (walk'.blames coherent recalls' sound agrees)]

/-- With enough fuel the calls of a registered template are followed to the end. -/
theorem walk_root (coherent : registry.Coherent) (memo : KeyMemo) {root : TemplateEntry}
    (registered : registry.lookup root.name = .ok root) {fuel : Nat} (enough : registry.callCount + 2 ≤ fuel) :
    registry.Walk memo [.implementation root] SortedMap.empty SortedMap.empty
      (registry.followCalls memo fuel [.implementation root] SortedMap.empty SortedMap.empty) := by
  refine walk_followCalls coherent memo
    (List.forall_mem_singleton.mpr (CallTarget.sound_implementation registered)) ?_
  rw [openCalls_empty, List.length_singleton]
  omega

theorem Recalls.empty : registry.Recalls SortedMap.empty := fun entry known _ recalled => by cases recalled

/-- A question is answered right, and as if nothing had been asked before. -/
theorem answers_injectedKeys (coherent : registry.Coherent) (recalls : registry.Recalls memo) {name : String}
    {entry : TemplateEntry} (found : registry.lookup name = .ok entry) :
    registry.Answers entry (registry.injectedKeys memo name).1 ∧
      (registry.injectedKeys memo name).1 = (registry.injectedKeys SortedMap.empty name).1 := by
  obtain rfl := coherent.named name entry found
  have answer (memo : KeyMemo) (unknown : memo.get? entry.name = none) :
      (registry.injectedKeys memo entry.name).1 =
        registry.followCalls memo (registry.callCount + 2) [.implementation entry] SortedMap.empty SortedMap.empty := by
    simp only [injectedKeys, found, unknown]
    split <;> simp [*]
  have walk (memo : KeyMemo) := walk_root coherent memo found le_rfl
  have fresh := (walk SortedMap.empty).answers coherent .empty found
  rw [answer SortedMap.empty rfl]
  cases recalled : memo.get? entry.name with
  | none =>
    rw [answer memo recalled]
    exact ⟨(walk memo).answers coherent recalls found,
      (walk memo).unique (walk SortedMap.empty) coherent recalls .empty found⟩
  | some known =>
    have answers := recalls entry known found recalled
    have known : (registry.injectedKeys memo entry.name).1 = .ok known := by simp [injectedKeys, found, recalled]
    rw [known]
    exact ⟨answers, (answers.eq_ok fresh).symm⟩

theorem recalls_injectedKeys (coherent : registry.Coherent) (recalls : registry.Recalls memo) (name : String) :
    registry.Recalls (registry.injectedKeys memo name).2 := by
  cases found : registry.lookup name with
  | error e => simpa only [injectedKeys, found] using recalls
  | ok entry =>
    have answers := (answers_injectedKeys coherent recalls found).1
    obtain rfl := coherent.named name entry found
    simp only [injectedKeys, found] at answers ⊢
    cases recalled : memo.get? entry.name with
    | some known => exact recalls
    | none =>
      simp only [recalled] at answers ⊢
      cases walked : registry.followCalls memo (registry.callCount + 2) [.implementation entry] SortedMap.empty
          SortedMap.empty with
      | error e => exact recalls
      | ok keys =>
        rw [walked] at answers
        intro other known registered remembered
        rw [SortedMap.get?_insert] at remembered
        split at remembered
        next same =>
          rw [Std.LawfulEqCmp.eq_of_compare same, found] at registered
          obtain rfl := Except.ok.inj registered
          obtain rfl := Option.some.inj remembered
          exact answers
        next => exact recalls other known registered remembered

/-- The answers remembered after some questions. -/
def ask (registry : Registry) (names : List String) : KeyMemo :=
  names.foldl (fun memo name => (registry.injectedKeys memo name).2) SortedMap.empty

theorem recalls_ask (coherent : registry.Coherent) (names : List String) : registry.Recalls (registry.ask names) := by
  have folded (names : List String) (memo : KeyMemo) (recalls : registry.Recalls memo) :
      registry.Recalls (names.foldl (fun memo name => (registry.injectedKeys memo name).2) memo) := by
    induction names generalizing memo with
    | nil => exact recalls
    | cons first rest ih => exact ih _ (recalls_injectedKeys coherent recalls first)
  exact folded names SortedMap.empty .empty

/-- The injected values of a template are those of everything behind it, whatever has been asked before. They are
known when each template called there exists; otherwise a missing one is reported, the same as without any
question before. No search is cut short: more fuel finds nothing else. -/
theorem injectedKeys_reachable {entries : List TemplateEntry} (built : build entries = .ok registry)
    (names : List String) {name : String} {entry : TemplateEntry} (found : registry.lookup name = .ok entry) :
    let memo := registry.ask names
    let answer := (registry.injectedKeys memo name).1
    ((∀ callee missing, registry.Reaches entry callee → ¬ registry.Misses callee missing) →
        ∃ keys, answer = .ok keys ∧ ∀ key, keys.contains key = true ↔
          ∃ callee, registry.Reaches entry callee ∧ callee.metadata.injectedKeys.contains key = true) ∧
      (∀ callee missing, registry.Reaches entry callee → registry.Misses callee missing →
        ∃ callee missing, registry.Reaches entry callee ∧ registry.Misses callee missing ∧
          answer = .error (.unknownTemplate missing)) ∧
      answer = (registry.injectedKeys SortedMap.empty name).1 ∧
      ∀ fuel, registry.callCount + 2 ≤ fuel →
        registry.followCalls memo fuel [.implementation entry] SortedMap.empty SortedMap.empty =
          registry.followCalls memo (registry.callCount + 2) [.implementation entry] SortedMap.empty SortedMap.empty := by
  intro memo answer
  have coherent := build_coherent built
  have recalls : registry.Recalls memo := recalls_ask coherent names
  have registered : registry.lookup entry.name = .ok entry := by rwa [coherent.named name entry found]
  obtain ⟨answers, fresh⟩ := answers_injectedKeys coherent recalls found
  refine ⟨fun closed => ?_, fun callee missing reaches misses => ?_, fresh, fun fuel enough => ?_⟩
  · cases given : (registry.injectedKeys memo name).1 with
    | ok keys =>
      rw [given] at answers
      exact ⟨keys, given, answers.2⟩
    | error e =>
      rw [given] at answers
      obtain ⟨callee, missing, reaches, misses, -⟩ := answers
      exact absurd misses (closed callee missing reaches)
  · cases given : (registry.injectedKeys memo name).1 with
    | ok keys =>
      rw [given] at answers
      exact absurd misses (answers.1 callee missing reaches)
    | error e =>
      rw [given] at answers
      obtain ⟨callee, missing, reaches, misses, rfl⟩ := answers
      exact ⟨callee, missing, reaches, misses, given⟩
  · exact (walk_root coherent memo registered enough).unique (walk_root coherent memo registered le_rfl) coherent
      recalls recalls registered

end Registry

/-- A site whose pages call each other. What fills its banner calls a page again, and one page calls a template
that there is not. -/
def siteEntries : List TemplateEntry :=
  let page (name : String) (callees delegates keys : List String) (role : Option DelegateRole) : TemplateEntry :=
    ⟨name, ⟨none, NameSet.ofNames callees, NameSet.ofNames delegates, NameSet.ofNames keys, role⟩, .empty⟩
  [page "home" ["menu"] ["banner", "footer"] [] none, page "menu" ["home"] [] ["user"] none,
    page "plainBanner" ["home"] [] ["locale"] (some ⟨"banner", "", ""⟩),
    page "saleBanner" [] [] ["price"] (some ⟨"banner", "Sale", "winter"⟩),
    page "draft" ["home", "nowhere"] [] [] none]

/-- The pages of the site, asked about after questions for a page on the same cycle and for the broken one. -/
theorem injectedKeys_reachable_site :
    let registry := (Registry.build siteEntries).toOption.getD Registry.empty
    let memo := registry.ask ["plainBanner", "draft", "elsewhere"]
    let keys := NameSet.ofNames ["locale", "price", "user"]
    Registry.build siteEntries = .ok registry ∧
      (registry.injectedKeys memo "draft").1 = .error (.unknownTemplate "nowhere") ∧
      (registry.injectedKeys memo "home").1 = .ok keys ∧
      ∃ home, registry.lookup "home" = .ok home ∧ ∀ key, keys.contains key = true ↔ registry.Reads home key := by
  intro registry memo keys
  have built : Registry.build siteEntries = .ok registry := rfl
  have home : (registry.injectedKeys memo "home").1 = .ok keys := by decide +kernel
  obtain ⟨entry, found⟩ : ∃ entry, registry.lookup "home" = .ok entry := ⟨_, rfl⟩
  obtain ⟨known, missed, -, -⟩ := Registry.injectedKeys_reachable built ["plainBanner", "draft", "elsewhere"] found
  refine ⟨built, by decide +kernel, home, entry, found, ?_⟩
  by_cases closed : registry.Closed entry
  · obtain ⟨keys', answer, reads⟩ := known closed
    rw [home] at answer
    exact Except.ok.inj answer ▸ reads
  · simp only [Registry.Closed, not_forall, not_not] at closed
    obtain ⟨callee, missing, reaches, misses⟩ := closed
    obtain ⟨callee, missing, -, -, answer⟩ := missed callee missing reaches misses
    rw [home] at answer
    cases answer

end TemplateEngine
