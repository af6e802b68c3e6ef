import TemplateEngine.Proofs.CallGraph.Queries
import TemplateEngine.Proofs.Injected.Twins
import TemplateEngine.Proofs.Recorder

namespace TemplateEngine

variable {ctx : RenderContext}

namespace RenderState

variable {S : Type} [Sink S]

/-- All that is seen of a step: its result, with the frames of an error, and what it asks of the sink. -/
def transcript (ctx : RenderContext) (x : RenderState S) : Except RenderError Status × List SinkEvent :=
  ((x.result ctx).outcome, x.events ctx)

theorem transcript_twin {c : Confinement ctx} {a b : Instance} (twins : c.Twin a b) (σ : CellStore) (s : S) :
    transcript ctx ⟨σ, a, s⟩ = transcript ctx ⟨σ, b, s⟩ ∧
      c.SameResult (result ctx ⟨σ, a, s⟩) (result ctx ⟨σ, b, s⟩) := by
  have same : c.SameResult (watched ctx ⟨σ, a, s⟩) (watched ctx ⟨σ, b, s⟩) :=
    Confinement.step_sameResult twins (Recorder.watch s)
  rw [transcript, transcript, result_eq_watched, result_eq_watched, events, events, same.outcome, same.sink]
  exact ⟨rfl, rfl, same.template, rfl⟩

theorem run_twin {c : Confinement ctx} {a b : Instance} (twins : c.Twin a b) (σ : CellStore) (s : S)
    (rounds : List (Round S)) :
    (run ctx ⟨σ, a, s⟩ rounds).map (transcript ctx) = (run ctx ⟨σ, b, s⟩ rounds).map (transcript ctx) := by
  induction rounds generalizing a b σ s with
  | nil => rfl
  | cons round rounds ih =>
    obtain ⟨shown, same⟩ := transcript_twin twins (σ.applyAll round.completions) (round.relieve s)
    change transcript ctx (prepare ⟨σ, a, s⟩ round) = transcript ctx (prepare ⟨σ, b, s⟩ round) at shown
    change c.SameResult ((prepare ⟨σ, a, s⟩ round).result ctx) ((prepare ⟨σ, b, s⟩ round).result ctx) at same
    have resumable : ((prepare ⟨σ, a, s⟩ round).result ctx).resumable =
        ((prepare ⟨σ, b, s⟩ round).result ctx).resumable := by
      rw [StepResult.resumable, StepResult.resumable, same.outcome]
    have later := ih same.template (σ.applyAll round.completions) ((prepare ⟨σ, a, s⟩ round).result ctx).sink
    have other : (prepare ⟨σ, b, s⟩ round).resume ctx =
        ⟨σ.applyAll round.completions, ((prepare ⟨σ, b, s⟩ round).result ctx).template,
          ((prepare ⟨σ, a, s⟩ round).result ctx).sink⟩ := by
      rw [same.sink]
      rfl
    rw [run_cons, run_cons, List.map_cons, List.map_cons, shown, resumable]
    split
    · rw [other]
      exact congrArg _ later
    · rfl

end RenderState

theorem ContextConfig.build_bound {config : ContextConfig} (prepared : config.build = .ok ctx) :
    ctx.registry = config.registry ∧ ctx.delegates.table = ctx.registry.delegates := by
  have table {view : DelegateView TemplateEntry} {table : DelegateTable TemplateEntry} {active : NameSet}
      (bound : DelegateView.bind table active = .ok view) : view.table = table := by
    simp only [DelegateView.bind] at bound
    split at bound
    · cases bound
      rfl
    · cases bound
  cases bound : DelegateView.bind config.registry.delegates config.packages with
  | error e => simp [build, bound, Except.map] at prepared
  | ok view =>
    simp only [build, bound, Except.map, Except.ok.injEq] at prepared
    subst prepared
    exact ⟨rfl, table bound⟩

/-- The keys that a registry reports for a template bound what its renders may see of the injected values. If all
programs declare what they mention and call, then records that agree on these keys make the same renders, with the
same results, errors and their frames included, and the same requests of the sink. -/
theorem RenderContext.injectedKeys_confine {entries : List TemplateEntry}
    (built : Registry.build entries = .ok ctx.registry)
    (bound : ctx.delegates.table = ctx.registry.delegates)
    (truthful : ∀ name entry, ctx.registry.lookup name = .ok entry → entry.Truthful) (names : List String)
    {name : String} {entry : TemplateEntry} (found : ctx.registry.lookup name = .ok entry) {keys : NameSet}
    (answer : (ctx.registry.injectedKeys (ctx.registry.ask names) name).1 = .ok keys) {injected other : Record}
    (agree : ∀ key, keys.contains key = true → Record.field injected key = Record.field other key)
    (params : Record) (σ : CellStore) {S : Type} [Sink S] (s : S) (rounds : List (Round S)) :
    (RenderState.run ctx ⟨σ, entry.start params injected, s⟩ rounds).map (RenderState.transcript ctx) =
      (RenderState.run ctx ⟨σ, entry.start params other, s⟩ rounds).map (RenderState.transcript ctx) := by
  have coherent := Registry.build_coherent built
  obtain ⟨answers, -⟩ := Registry.answers_injectedKeys coherent (Registry.recalls_ask coherent names) found
  rw [answer] at answers
  have registered : ctx.registry.lookup entry.name = .ok entry := by rwa [coherent.named name entry found]
  let c : Confinement ctx := {
    root := entry
    injected := injected
    other := other
    bound := bound
    truthful := fun callee reaches => truthful callee.name callee (reaches.registered coherent registered)
    agree := fun key reads => agree key ((answers.2 key).mpr reads) }
  exact RenderState.run_twin (c.start_twin .refl params) σ s rounds

/-- A page with a banner. What stands in for the banner in summer calls the page again. -/
def pageEntries : List TemplateEntry :=
  [Program.declaring ⟨"page", [⟨.print (.injected "user") [], none⟩, ⟨.text ": ", none⟩,
      ⟨.delegateCall ⟨"banner", .injected "season", false, .params [("price", .injected "price")], []⟩, none⟩]⟩ none,
    Program.declaring ⟨"summerBanner", [⟨.call "page" .none, none⟩]⟩ (some ⟨"banner", "", "summer"⟩),
    Program.declaring ⟨"plainBanner", [⟨.print (.param "price") [], none⟩]⟩ (some ⟨"banner", "", ""⟩)]

/-- The page in winter, for two records that differ in a key that it does not declare. -/
theorem injectedKeys_confine_page :
    let registry := (Registry.build pageEntries).toOption.getD Registry.empty
    let keys := NameSet.ofNames ["user", "season", "price"]
    let shared : List (String × Slot) := [("user", .ready (.string "Ann")), ("season", .ready (.string "winter")),
      ("price", .deferred ⟨0⟩)]
    let injected : Record := OrderedMap.ofList (("token", .ready (.string "a")) :: shared)
    let other : Record := OrderedMap.ofList (shared ++ [("token", .ready (.string "b"))])
    let rounds : List (Round OutputBuffer) := [⟨[], id⟩, ⟨[.set ⟨0⟩ (.integer 3)], id⟩]
    let start (page : TemplateEntry) (injected : Record) : RenderState OutputBuffer :=
      ⟨⟨[⟨"price", .pending⟩]⟩, page.start .empty injected, .empty⟩
    ∃ ctx page, (ContextConfig.standard registry).build = .ok ctx ∧ registry.lookup "page" = .ok page ∧
      (registry.injectedKeys SortedMap.empty "page").1 = .ok keys ∧
      ((RenderState.run ctx (start page injected) rounds).map fun x =>
          ((x.result ctx).outcome.toOption, (x.result ctx).sink.text)) =
        [(some (.detached ⟨0⟩), "Ann: "), (some .done, "Ann: 3")] ∧
      (RenderState.run ctx (start page injected) rounds).map (RenderState.transcript ctx) =
        (RenderState.run ctx (start page other) rounds).map (RenderState.transcript ctx) := by
  intro registry keys shared injected other rounds start
  have built : Registry.build pageEntries = .ok registry := rfl
  have answer : (registry.injectedKeys SortedMap.empty "page").1 = .ok keys := by decide +kernel
  obtain ⟨ctx, page, prepared, found, seen⟩ : ∃ ctx page, (ContextConfig.standard registry).build = .ok ctx ∧
      registry.lookup "page" = .ok page ∧
      ((RenderState.run ctx (start page injected) rounds).map fun x =>
        ((x.result ctx).outcome.toOption, (x.result ctx).sink.text)) =
          [(some (.detached ⟨0⟩), "Ann: "), (some .done, "Ann: 3")] :=
    ⟨_, _, rfl, rfl, by decide +kernel⟩
  refine ⟨ctx, page, prepared, found, answer, seen, ?_⟩
  obtain ⟨same, bound⟩ := ContextConfig.build_bound prepared
  rw [show registry = ctx.registry from same.symm] at built answer found
  have truthful : ∀ name entry, ctx.registry.lookup name = .ok entry → entry.Truthful := by
    intro name entry found
    have among := Registry.mem_of_build built found
    simp only [pageEntries, List.mem_cons, List.not_mem_nil, or_false] at among
    rcases among with rfl | rfl | rfl <;> exact Program.declaring_truthful _ _
  have agree : ∀ key, keys.contains key = true → Record.field injected key = Record.field other key := by
    intro key member
    have among : key ∈ ["price", "season", "user"] := SortedMap.contains_iff.mp member
    simp only [List.mem_cons, List.not_mem_nil, or_false] at among
    rcases among with rfl | rfl | rfl <;> rfl
  exact ctx.injectedKeys_confine built bound truthful [] found answer agree _ _ _ rounds

end TemplateEngine
