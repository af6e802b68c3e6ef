import TemplateEngine.Engine.Basic
import TemplateEngine.Proofs.Completion
import TemplateEngine.Proofs.Messages.Bundles
import TemplateEngine.Proofs.Messages.Choices

namespace TemplateEngine

namespace MessagePart

variable {locale locale' : String} {values : Placeholders}

theorem pluralText_congr (same : pluralCategory locale = pluralCategory locale') (name : String) (offset : Int64)
    (cases : List (PluralLabel × List MessagePart)) :
    pluralText locale values name offset cases = pluralText locale' values name offset cases := by
  simp only [pluralText, pluralCase?, same]

theorem selectParts_congr {parts : List MessagePart}
    (each : ∀ part ∈ parts, selectPart locale values part = selectPart locale' values part) :
    selectParts locale values parts = selectParts locale' values parts := by
  induction parts with
  | nil => rfl
  | cons part rest ih =>
    obtain ⟨first, others⟩ := List.forall_mem_cons.mp each
    rw [selectParts, selectParts, first, ih others]

theorem selectPart_congr (same : pluralCategory locale = pluralCategory locale') (part : MessagePart) :
    selectPart locale values part = selectPart locale' values part := by
  induction part using bySelects with
  | text | placeholder | remainder => rfl
  | plural name offset cases => exact pluralText_congr same name offset cases
  | select name cases ih =>
    rw [selectPart_select, selectPart_select]
    refine congrArg (Except.bind _) (funext fun value => ?_)
    cases chosen : selectCase? cases value with
    | none => rfl
    | some parts =>
      obtain ⟨entry, among, rfl⟩ := mem_of_selectCase? chosen
      exact selectParts_congr (ih entry among)

end MessagePart

namespace Message

/-- The text of a message under the rules of a locale, whatever its own. -/
def textUnder (m : Message) (locale : String) (values : Placeholders) : Except MessageError (Option String) :=
  (m.withLocale locale).text? values

/-- Of a locale nothing but its plural rules counts. -/
theorem textUnder_congr {locale locale' : String} (same : pluralCategory locale = pluralCategory locale')
    (m : Message) (values : Placeholders) : m.textUnder locale values = m.textUnder locale' values := by
  simp only [textUnder, text?, withLocale, Option.getD_some, MessagePart.pluralText_congr same,
    MessagePart.selectPart_congr same]

/-- What an instruction does that renders a message under a locale. -/
def effectUnder (m : Message) (locale : String) (values : Placeholders) : Except Obstacle Effect :=
  ((m.textUnder locale values).mapError fun e => .ofKind (.message e)).map .ofMessageText

theorem effectUnder_own (m : Message) (values : Placeholders) : m.effectUnder (m.locale.getD defaultLocale) values =
    ((m.text? values).mapError fun e => .ofKind (.message e)).map .ofMessageText := rfl

theorem effectUnder_locale (m : Message) (own : Option String) (locale : String) :
    { m with locale := own }.effectUnder locale = m.effectUnder locale := rfl

end Message

namespace RenderContext

/-- An instruction that asks for the message of an identity reads its placeholders and then has this outcome. -/
def Renders (ctx : RenderContext) (id : MessageId) (fallback : Option Message)
    (outcome : Placeholders → Except Obstacle Effect) : Prop :=
  ∀ σ params injected refs, (Instruction.message id fallback refs).effect ctx σ params injected =
    (Instruction.readPlaceholders σ params injected refs).bind outcome

/-- Each message is rendered under the locale that is meant for it. One of the requested bundle goes before one of the
default bundle, which is always in the default locale, and this before a fallback. -/
structure ResolvesMessages (ctx : RenderContext) (requested common : BundleHistory) : Prop where
  ofRequested : ∀ id m, requested.last? id = some m → ∀ fallback,
    ctx.Renders id fallback (m.effectUnder ((requested.effective m).getD defaultLocale))
  ofCommon : ∀ id m, requested.last? id = none → common.last? id = some m → ∀ fallback,
    ctx.Renders id fallback (m.effectUnder defaultLocale)
  ofFallback : ∀ id m, requested.last? id = none → common.last? id = none →
    ctx.Renders id (some m) (m.effectUnder (m.locale.getD defaultLocale))
  missing : ∀ id, requested.last? id = none → common.last? id = none →
    ctx.Renders id none fun _ => .error (.ofKind (.missingMessage id))
  /-- A requested bundle without the message does not count. -/
  unaffected : ∀ (other : BundleHistory) id fallback, requested.last? id = none → other.last? id = none →
    ∀ outcome, ctx.Renders id fallback outcome ↔ { ctx with bundle := other.bundle }.Renders id fallback outcome

variable {ctx : RenderContext} {id : MessageId} {fallback : Option Message} {requested common : BundleHistory}

theorem renders_of_chosen {m : Message} (chosen : (ctx.message? id).or fallback = some m) :
    ctx.Renders id fallback (m.effectUnder (m.locale.getD defaultLocale)) := by
  intro σ params injected refs
  simp only [Instruction.effect, Instruction.chooseMessage, chosen, Option.elim_some]
  cases Instruction.readPlaceholders σ params injected refs with
  | error e => rfl
  | ok values =>
    show ((m.text? values).mapError fun e => Obstacle.ofKind (.message e)).bind _ = m.effectUnder _ values
    rw [m.effectUnder_own]
    cases m.text? values <;> rfl

theorem renders_of_none (nothing : (ctx.message? id).or fallback = none) :
    ctx.Renders id fallback fun _ => .error (.ofKind (.missingMessage id)) := by
  intro σ params injected refs
  simp only [Instruction.effect, Instruction.chooseMessage, nothing, Option.elim_none]
  rfl

/-- What is found in a bundle is rendered under the locale that it has there. -/
theorem renders_of_last {history : BundleHistory} {m : Message} (last : history.last? id = some m)
    (found : ctx.message? id = history.bundle.message? id) :
    ctx.Renders id fallback (m.effectUnder ((history.effective m).getD defaultLocale)) := by
  have chosen : (ctx.message? id).or fallback = some { m with locale := history.effective m } := by
    rw [found, history.message?_bundle, last, Option.map_some, Option.some_or]
  have renders := renders_of_chosen chosen
  rwa [m.effectUnder_locale] at renders

theorem resolvesMessages (active : ctx.bundle = requested.bundle)
    (default : ctx.defaultBundle = common.bundle.withLocale defaultLocale) :
    ctx.ResolvesMessages requested common := by
  have lookup (id : MessageId) : ctx.message? id =
      (requested.bundle.message? id).or ((common.retag defaultLocale).bundle.message? id) := by
    rw [message?, active, default, common.bundle_retag]
  have lacking {history : BundleHistory} {id : MessageId} (nothing : history.last? id = none) :
      history.bundle.message? id = none := by
    rw [history.message?_bundle, nothing, Option.map_none]
  have nowhere {id : MessageId} (nothing : requested.last? id = none) (nothing' : common.last? id = none) :
      ctx.message? id = none := by
    have retagged : (common.retag defaultLocale).last? id = none := nothing'
    rw [lookup, lacking nothing, lacking retagged, Option.none_or]
  refine ⟨fun id m last fallback => ?_, fun id m nothing last fallback => ?_, fun id m nothing nothing' => ?_,
    fun id nothing nothing' => ?_, fun other id fallback nothing nothing' outcome => ?_⟩
  · refine renders_of_last last ?_
    rw [lookup, requested.message?_bundle, last, Option.map_some, Option.some_or]
  · have retagged : (common.retag defaultLocale).last? id = some m := last
    have found : ctx.message? id = (common.retag defaultLocale).bundle.message? id := by
      rw [lookup, lacking nothing, Option.none_or]
    have renders : ctx.Renders id fallback _ := renders_of_last retagged found
    rwa [common.effective_retag] at renders
  · refine renders_of_chosen ?_
    rw [nowhere nothing nothing', Option.none_or]
  · refine renders_of_none ?_
    rw [nowhere nothing nothing', Option.none_or]
  · have same : { ctx with bundle := other.bundle }.message? id = ctx.message? id := by
      rw [message?, message?, active, lacking nothing, lacking nothing']
    simp only [Renders, Instruction.effect, Instruction.chooseMessage, same]

end RenderContext

/-- A bundle has the last message given under each identity. A message of the requested bundle is rendered in the last
locale that this is put under, or else its own, or else that of the bundle; one of the default bundle in the default
locale; and a fallback in its own. Where there is no locale, the default one is meant. -/
theorem BundleHistory.messages_under_locales (requested common : BundleHistory) :
    requested.Lists ∧
      (∀ (m : Message) (values : Placeholders) (locale locale' : String),
        pluralCategory locale = pluralCategory locale' → m.textUnder locale values = m.textUnder locale' values) ∧
      ∀ (registry : Registry) (functions : List PluginFunction) (directives : List PrintDirective)
        (converter : Converter) (renderer : Renderer) (prepared : PreparedRender),
        renderer.engine = Engine.new registry functions directives converter common.bundle →
        renderer.bundle = requested.bundle → renderer.prepare = .ok prepared →
        prepared.context.ResolvesMessages requested common := by
  refine ⟨requested.lists, fun m values locale locale' same => Message.textUnder_congr same m values, ?_⟩
  intro registry functions directives converter renderer prepared engine active built
  obtain ⟨context, configured, rfl⟩ := exceptMap_eq_ok.mp built
  obtain ⟨delegates, -, rfl⟩ := exceptMap_eq_ok.mp configured
  refine RenderContext.resolvesMessages active ?_
  show renderer.engine.defaultBundle = _
  rw [engine]
  rfl

/-- Letters in French, where none is one, and in English, where it is not. -/
def letters (id : MessageId) (locale : Option String) : Message :=
  ⟨id, locale, [.plural "n" 0 [(.category .one, [.text "letter"]), (.category .other, [.text "letters"])]]⟩

/-- The requested bundle is French, and the default bundle is put under French as well. -/
def mailbox : Renderer where
  engine := Engine.new .empty [] [] .json (BundleHistory.mk none [letters 2 none] ["fr"]).bundle
  entry := ⟨"mailbox", default, .empty⟩
  data := OrderedMap.empty
  injected := OrderedMap.empty
  packages := SortedMap.empty
  bundle := (BundleHistory.mk (some "fr") [letters 1 (some "en"), letters 1 none] []).bundle
  cssNames := none
  xidNames := none
  kind := .html
  kindRequested := false

/-- No letters: in the French bundle, in the default bundle, in a French fallback, and with no message at all. -/
theorem messages_under_locales_mailbox :
    ∃ prepared, mailbox.prepare = .ok prepared ∧
      let effect (id : MessageId) (fallback : Option Message) := (Instruction.message id fallback
        [("n", .param "n")]).effect prepared.context .empty (.ofList [("n", .ready (.integer 0))]) .empty
      effect 1 none = .ok (.writeMessage "letter") ∧ effect 2 none = .ok (.writeMessage "letters") ∧
        effect 3 (some (letters 3 (some "fr"))) = .ok (.writeMessage "letter") ∧
        effect 3 none = .error (.ofKind (.missingMessage 3)) := by
  obtain ⟨prepared, built⟩ : ∃ prepared, mailbox.prepare = .ok prepared := ⟨_, rfl⟩
  obtain ⟨-, -, resolves⟩ := BundleHistory.messages_under_locales
    (.mk (some "fr") [letters 1 (some "en"), letters 1 none] []) (.mk none [letters 2 none] ["fr"])
  have resolved := resolves .empty [] [] .json mailbox prepared rfl rfl built
  refine ⟨prepared, built, ?_, ?_, ?_, ?_⟩
  · exact (resolved.ofRequested 1 (letters 1 none) rfl none _ _ _ _).trans rfl
  · exact (resolved.ofCommon 2 (letters 2 none) rfl rfl none _ _ _ _).trans rfl
  · exact (resolved.ofFallback 3 (letters 3 (some "fr")) rfl rfl _ _ _ _).trans rfl
  · exact (resolved.missing 3 rfl rfl _ _ _ _).trans rfl

end TemplateEngine
