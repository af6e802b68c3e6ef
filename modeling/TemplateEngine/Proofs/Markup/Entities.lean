import TemplateEngine.Proofs.Escaped.Nested
import TemplateEngine.Proofs.Markup.Escaping
import TemplateEngine.Proofs.Outcomes
import TemplateEngine.Proofs.Templates

namespace TemplateEngine

namespace Text

def entities : List (List Char) := ["&amp;".toList, "&lt;".toList, "&gt;".toList, "&quot;".toList, "&#39;".toList]

/-- Replaces entities from left to right, and leaves all else as it is. -/
def decode : List Char → List Char
  | '&' :: 'a' :: 'm' :: 'p' :: ';' :: rest => '&' :: decode rest
  | '&' :: 'l' :: 't' :: ';' :: rest => '<' :: decode rest
  | '&' :: 'g' :: 't' :: ';' :: rest => '>' :: decode rest
  | '&' :: 'q' :: 'u' :: 'o' :: 't' :: ';' :: rest => '"' :: decode rest
  | '&' :: '#' :: '3' :: '9' :: ';' :: rest => '\x27' :: decode rest
  | c :: rest => c :: decode rest
  | [] => []

def unescapeHtml (text : String) : String := String.ofList (decode text.toList)

theorem decode_cons {c : Char} (other : c ≠ '&') (rest : List Char) : decode (c :: rest) = c :: decode rest := by
  conv_lhs => unfold decode
  split <;> simp_all

/-- What is written for a character is read as that character, whatever follows. -/
theorem decode_htmlEntity (c : Char) (rest : List Char) : decode (htmlEntity c ++ rest) = c :: decode rest := by
  unfold htmlEntity
  split
  case h_6 other _ _ _ _ => exact decode_cons other rest
  all_goals rfl

theorem unescapeHtml_escapeHtml (s : String) : unescapeHtml (escapeHtml s) = s := by
  have decoded (cs : List Char) : decode (cs.flatMap htmlEntity) = cs := by
    induction cs with
    | nil => rfl
    | cons c cs ih => rw [List.flatMap_cons, decode_htmlEntity, ih]
  rw [unescapeHtml, escapeHtml, String.toList_ofList, decoded, String.ofList_toList]

/-- An ampersand that is written for a character is the first character of an entity. -/
theorem htmlEntity_split {c : Char} {before after : List Char} (split : htmlEntity c = before ++ '&' :: after) :
    before = [] ∧ htmlEntity c ∈ entities := by
  have later : '&' ∉ (htmlEntity c).tail := by
    unfold htmlEntity
    split <;> simp
  cases before with
  | cons d before =>
    rw [split] at later
    simp at later
  | nil =>
    refine ⟨rfl, ?_⟩
    unfold htmlEntity at split ⊢
    split at split <;> simp_all [entities]

/-- Every ampersand in an escaped text begins an entity. -/
theorem entity_of_ampersand {cs before after : List Char} (split : cs.flatMap htmlEntity = before ++ '&' :: after) :
    ∃ entity ∈ entities, entity <+: '&' :: after := by
  induction cs generalizing before with
  | nil => simp at split
  | cons c cs ih =>
    rw [List.flatMap_cons, List.append_eq_append_iff] at split
    -- The ampersand is written for a later character, or for this one.
    rcases split with ⟨middle, -, later⟩ | ⟨middle, here, later⟩
    · exact ih later
    · cases middle with
      | nil =>
        have all : cs.flatMap htmlEntity = [] ++ '&' :: after := later.symm
        exact ih all
      | cons d middle =>
        obtain ⟨rfl, rest⟩ := List.cons.inj later
        obtain ⟨rfl, listed⟩ := htmlEntity_split here
        exact ⟨_, listed, _, by rw [here, rest]; rfl⟩

/-- Nothing in an escaped text starts markup, and the text can be read back. -/
structure EscapedSafely (s : String) : Prop where
  plain : ∀ c ∈ (escapeHtml s).toList, c ≠ '<' ∧ c ≠ '>' ∧ c ≠ '"' ∧ c ≠ '\x27'
  ampersands : ∀ before after, (escapeHtml s).toList = before ++ '&' :: after →
    ∃ entity ∈ entities, entity <+: '&' :: after
  decoded : unescapeHtml (escapeHtml s) = s

theorem escapedSafely (s : String) : EscapedSafely s := by
  refine ⟨fun c member => ?_, fun before after split => ?_, unescapeHtml_escapeHtml s⟩
  · rw [escapeHtml, String.toList_ofList] at member
    obtain ⟨d, -, inside⟩ := List.mem_flatMap.mp member
    have unmarked := not_isMarkup_of_mem_htmlEntity inside
    simpa [isMarkup, and_assoc] using unmarked
  · rw [escapeHtml, String.toList_ofList] at split
    exact entity_of_ampersand split

end Text

namespace PrintDirective

/-- What the directive has escaped is HTML, which it leaves as it is, in whatever state the cells are by then. -/
theorem escapeHtml_apply (σ : CellStore) (value : Value) (args : List Value) :
    ∃ shown, escapeHtml.apply σ value args = .ok shown ∧ shown.contentKind = some .html ∧
      ∀ σ' args', escapeHtml.apply σ' shown args' = .ok shown := by
  have unchanged {shown : Value} (html : shown.contentKind = some .html) (σ' : CellStore) (args' : List Value) :
      escapeHtml.apply σ' shown args' = .ok shown := if_pos html
  by_cases html : value.contentKind = some .html
  · exact ⟨value, unchanged html σ args, html, unchanged html⟩
  · exact ⟨.sanitized ⟨Text.escapeHtml (σ.text value), .html⟩, if_neg html, rfl, unchanged rfl⟩

theorem escapeHtml_twice (σ : CellStore) (value : Value) :
    (escapeHtml.apply σ value [] >>= fun shown => escapeHtml.apply σ shown []) = escapeHtml.apply σ value [] := by
  obtain ⟨shown, applied, -, unchanged⟩ := escapeHtml_apply σ value []
  rw [applied]
  exact unchanged σ []

theorem applyAll_twice (σ : CellStore) (directives : List PrintDirective) (value : Value) :
    applyAll σ (directives ++ [escapeHtml, escapeHtml]) value = applyAll σ (directives ++ [escapeHtml]) value := by
  rw [applyAll, applyAll, List.foldlM_append, List.foldlM_append]
  refine bind_congr fun shown => ?_
  simpa [bind_assoc] using escapeHtml_twice σ shown

end PrintDirective

/-- Whatever stands under the name of the directive that escapes for HTML is that directive. -/
def DirectiveTable.EscapesHtml (table : DirectiveTable) : Prop :=
  ∀ directive, table.lookup "|escapeHtml" = .ok directive → directive = .escapeHtml

namespace Escaped

variable {τ S : Type} [Sink S] {σ : CellStore} {w : Escaped τ}

def Escapes (w : Escaped τ) : Prop := [PrintDirective.escapeHtml] <:+ w.directives

/-- The wrapper with its output escaped once more. -/
def again (w : Escaped τ) : Escaped τ := { w with directives := w.directives ++ [.escapeHtml] }

theorem Escapes.output_again (escapes : w.Escapes) (kind : Option ContentKind) (text : String) :
    output σ (w.directives ++ [.escapeHtml]) kind text = output σ w.directives kind text := by
  obtain ⟨front, last⟩ := escapes
  rw [output, output, ← last, List.append_assoc]
  exact PrintDirective.applyAll_twice σ front _

/-- A template whose output is escaped twice takes the same step as one whose output is escaped once. -/
theorem Escapes.step_again (escapes : w.Escapes) (inner : τ → OutputBuffer → StepResult τ OutputBuffer) (s : S) :
    w.again.step σ inner s =
      ⟨(w.step σ inner s).outcome, (w.step σ inner s).template.again, (w.step σ inner s).sink⟩ := by
  by_cases done : (inner w.inner w.buffer).outcome = .ok .done
  · rw [step_done (w := w.again) done, step_done done]
    simp only [again, escapes.output_again]
    split
    next => rfl
    next value gives => split <;> rfl
  · rw [step_unfinished (w := w.again) done, step_unfinished done]
    rfl

theorem Escapes.step (escapes : w.Escapes) (inner : τ → OutputBuffer → StepResult τ OutputBuffer) (s : S) :
    (w.step σ inner s).template.Escapes := by
  by_cases done : (inner w.inner w.buffer).outcome = .ok .done
  · rw [step_done done]
    simp only
    split
    next => exact escapes
    next value gives => split <;> exact escapes
  · rw [step_unfinished done]
    exact escapes

/-- Nothing that is seen of a template tells whether its output is escaped once or twice. -/
theorem Escapes.run_again (b : Behaviour τ) (escapes : w.Escapes) (s : S) (visits : List (Visit S)) :
    (behaviour b).run w.again s visits = (behaviour b).run w s visits := by
  induction visits generalizing w s with
  | nil => rfl
  | cons visit visits ih =>
    have kept : ((behaviour b).step visit.store w (visit.relieve s)).template.Escapes :=
      escapes.step (b.step visit.store) (visit.relieve s)
    have step {T : Type} [Sink T] (t : T) : (behaviour b).step visit.store w.again t =
        ⟨((behaviour b).step visit.store w t).outcome, ((behaviour b).step visit.store w t).template.again,
          ((behaviour b).step visit.store w t).sink⟩ := escapes.step_again (b.step visit.store) t
    simp only [Behaviour.run, Behaviour.report, step, ih kept]
    rfl

end Escaped

namespace RenderContext

variable {ctx : RenderContext} {σ : CellStore}

theorem applyDirectives_twice (standard : ctx.directives.EscapesHtml) (names : List String) (value : Value) :
    ctx.applyDirectives σ (names ++ ["|escapeHtml", "|escapeHtml"]) value =
      ctx.applyDirectives σ (names ++ ["|escapeHtml"]) value := by
  rw [applyDirectives, applyDirectives, List.foldlM_append, List.foldlM_append]
  refine bind_congr fun shown => ?_
  cases found : ctx.directives.lookup "|escapeHtml" with
  | error e => simp [found, Except.bind, bind]
  | ok directive =>
    obtain rfl := standard directive found
    simpa [found, Except.bind] using PrintDirective.escapeHtml_twice σ shown

theorem mapM_lookup_twice (standard : ctx.directives.EscapesHtml) (names : List String) :
    SameOutcome (fun once twice => ∃ directives : List PrintDirective,
        once = directives ++ [.escapeHtml] ∧ twice = directives ++ [.escapeHtml, .escapeHtml])
      ((names ++ ["|escapeHtml"]).mapM ctx.directives.lookup)
      ((names ++ ["|escapeHtml", "|escapeHtml"]).mapM ctx.directives.lookup) := by
  rw [List.mapM_append, List.mapM_append]
  refine (SameOutcome.refl _).bind fun directives _ same => ?_
  subst same
  cases found : ctx.directives.lookup "|escapeHtml" with
  | error e =>
    simp only [List.mapM_cons, found]
    exact .error e
  | ok directive =>
    obtain rfl := standard directive found
    simp only [List.mapM_cons, List.mapM_nil, found]
    exact .ok ⟨directives, rfl, rfl⟩

/-- A delegate call whose output is escaped twice starts if it does with its output escaped once, and then the same is
seen of it. -/
theorem start_twice (standard : ctx.directives.EscapesHtml) (params injected : Record) (call : DelegateCall)
    (names : List String) :
    SameOutcome
      (fun once twice => ∀ depth {S : Type} [Sink S] (s : S) (visits : List (Visit S)),
        (Instance.behaviour ctx (depth + 1)).run twice s visits = (Instance.behaviour ctx (depth + 1)).run once s visits)
      ({ call with escapers := names ++ ["|escapeHtml"] }.start ctx σ params injected)
      ({ call with escapers := names ++ ["|escapeHtml", "|escapeHtml"] }.start ctx σ params injected) := by
  rw [DelegateCall.start, DelegateCall.start]
  refine (SameOutcome.refl _).bind fun variant _ same => ?_
  subst same
  refine (SameOutcome.refl _).bind fun resolved _ same => ?_
  subst same
  rw [if_neg (by simp), if_neg (by simp)]
  refine ((mapM_lookup_twice standard names).mapError _).bind ?_
  rintro _ _ ⟨directives, rfl, rfl⟩
  refine .ok fun depth S _ s visits => ?_
  have escapes : Escaped.Escapes ⟨resolved.template, directives ++ [.escapeHtml], resolved.kind, .empty⟩ :=
    ⟨directives, rfl⟩
  have same := escapes.run_again (Instance.behaviour ctx depth) s visits
  rw [Escaped.again, List.append_assoc] at same
  exact (Escaped.run_instance ctx depth _ s visits).trans (same.trans (Escaped.run_instance ctx depth _ s visits).symm)

/-- Escaping twice prints what escaping once prints, wherever directives stand: in a print, behind a function, and
behind a delegate. -/
structure EscapesOnce (ctx : RenderContext) : Prop where
  print : ∀ σ params injected ref names,
    (Instruction.print ref (names ++ ["|escapeHtml", "|escapeHtml"])).effect ctx σ params injected =
      (Instruction.print ref (names ++ ["|escapeHtml"])).effect ctx σ params injected
  printCall : ∀ σ params injected function args names,
    (Instruction.printCall function args (names ++ ["|escapeHtml", "|escapeHtml"])).effect ctx σ params injected =
      (Instruction.printCall function args (names ++ ["|escapeHtml"])).effect ctx σ params injected
  delegate : ∀ σ params injected (call : DelegateCall) names,
    SameOutcome
      (fun once twice => ∀ depth {S : Type} [Sink S] (s : S) (visits : List (Visit S)),
        (Instance.behaviour ctx (depth + 1)).run twice s visits = (Instance.behaviour ctx (depth + 1)).run once s visits)
      ({ call with escapers := names ++ ["|escapeHtml"] }.start ctx σ params injected)
      ({ call with escapers := names ++ ["|escapeHtml", "|escapeHtml"] }.start ctx σ params injected)

theorem escapesOnce (standard : ctx.directives.EscapesHtml) : ctx.EscapesOnce := by
  refine ⟨fun σ params injected ref names => ?_, fun σ params injected function args names => ?_,
    fun σ => start_twice standard⟩
  · simp only [Instruction.effect, applyDirectives_twice standard]
  · simp only [Instruction.effect, applyDirectives_twice standard]

/-- Escaping leaves nothing in a text that starts markup and nothing that cannot be read back, may be done piecewise,
and what the directive has escaped is HTML, which it never escapes again. -/
theorem escaping_reversible_and_idempotent (ctx : RenderContext) (standard : ctx.directives.EscapesHtml) :
    (∀ s, Text.EscapedSafely s) ∧ Function.Injective Text.escapeHtml ∧
      (∀ s t, Text.escapeHtml (s ++ t) = Text.escapeHtml s ++ Text.escapeHtml t) ∧
      (∀ σ value args, ∃ shown, PrintDirective.escapeHtml.apply σ value args = .ok shown ∧
        shown.contentKind = some .html ∧
        ∀ σ' args', PrintDirective.escapeHtml.apply σ' shown args' = .ok shown) ∧
      ctx.EscapesOnce := by
  refine ⟨Text.escapedSafely, ?_, Text.escapeHtml_append, PrintDirective.escapeHtml_apply, escapesOnce standard⟩
  exact Function.LeftInverse.injective Text.unescapeHtml_escapeHtml

/-- A text that looks escaped already, with the directives that are there from the start. -/
theorem escaping_reversible_and_idempotent_lookalike :
    let ctx := ofPrograms [] 3
    Text.escapeHtml "&lt;b>" = "&amp;lt;b&gt;" ∧ Text.unescapeHtml "&amp;lt;b&gt;" = "&lt;b>" ∧
      ctx.applyDirectives .empty ["|escapeHtml"] (.string "&lt;b>") = .ok (.sanitized ⟨"&amp;lt;b&gt;", .html⟩) ∧
      ctx.EscapesOnce := by
  intro ctx
  have standard : ctx.directives.EscapesHtml := fun directive found => (Except.ok.inj found).symm
  obtain ⟨safely, -, -, -, once⟩ := ctx.escaping_reversible_and_idempotent standard
  exact ⟨by decide, (safely "&lt;b>").decoded, rfl, once⟩

end RenderContext

end TemplateEngine
