import TemplateEngine.Proofs.Completes
import TemplateEngine.Proofs.Markup.Guarded

namespace TemplateEngine

/-- Whenever the two slots can be read, what they hold is trusted with the same markup. -/
def Slot.SameMarkup (stores stores' : CellStore → Prop) (slot slot' : Slot) : Prop :=
  ∀ σ σ', stores σ → stores' σ' → ∀ value value', slot.resolve σ = .ok value → slot'.resolve σ' = .ok value' →
    value.trustedMarkup = value'.trustedMarkup

theorem Slot.SameMarkup.literal {stores stores' : CellStore → Prop} (value : Value) :
    SameMarkup stores stores' (.ready value) (.ready value) := by
  rintro σ σ' - - _ _ ⟨⟩ ⟨⟩
  rfl

variable {ctx ctx' : RenderContext} {root : TemplateEntry} {stores stores' : CellStore → Prop} {σ σ' : CellStore}
variable {params injected params' injected' : Record}

theorem RenderContext.Escapes.applied_markup (escapes : ctx.Escapes) {value shown : Value}
    (applied : ctx.applyDirectives σ ["|escapeHtml"] value = .ok shown) :
    Text.markup (σ.text shown) = value.trustedMarkup := by
  refine PrintDirective.escapeHtml_markup ?_
  simpa [applyDirectives, escapes.builtin, Except.bind] using applied

/-- What a guarded instruction prints has the same markup in both renders. -/
theorem Instruction.Guarded.prints_markup {instruction : Instruction} (guarded : instruction.Guarded)
    (outline : ctx.SameOutline ctx') (escapes : ctx.Escapes) (escapes' : ctx'.Escapes) (among : stores σ)
    (among' : stores' σ') (given : Record.Corresponds (Slot.SameMarkup stores stores') params params')
    (common : Record.Corresponds (Slot.SameMarkup stores stores') injected injected') {text text' : String}
    (prints : instruction.Prints ctx σ params injected text)
    (prints' : instruction.Prints ctx' σ' params' injected' text') : Text.markup text = Text.markup text' := by
  cases guarded with
  | text s =>
    cases prints
    cases prints'
    rfl
  | css name =>
    cases prints
    cases prints'
    rw [RenderContext.renameCss, RenderContext.renameCss, outline.cssNames]
  | xid name =>
    cases prints
    cases prints'
    rw [RenderContext.renameXid, RenderContext.renameXid, outline.xidNames]
  | @print ref literal =>
    cases prints with
    | @print _ _ value shown read applied =>
      cases prints' with
      | @print _ _ value' shown' read' applied' =>
        have slots : Slot.SameMarkup stores stores' (ref.slot params injected) (ref.slot params' injected') := by
          refine (ValueRef.Corresponds.refl ?_ literal).slot given common
          rintro _ ⟨value, rfl⟩
          exact .literal value
        rw [escapes.applied_markup applied, escapes'.applied_markup applied']
        exact slots σ σ' among among' value value' (ValueRef.read_eq_ok.mp read) (ValueRef.read_eq_ok.mp read')
  | printCall function args =>
    cases prints with
    | printCall read known called applied =>
      cases prints' with
      | printCall read' known' called' applied' =>
        rw [escapes.applied_markup applied, escapes'.applied_markup applied',
          Value.trustedMarkup_eq_nil (escapes.functions _ _ known _ _ _ called),
          Value.trustedMarkup_eq_nil (escapes'.functions _ _ known' _ _ _ called')]
  | call | delegateCall => cases prints

/-- What prints does not call. -/
theorem Instruction.Prints.passes_eq_none {instruction : Instruction} {text : String}
    (prints : instruction.Prints ctx σ params injected text) : instruction.passes = none := by
  cases prints <;> rfl

/-- Programs that are akin are at the same instruction, and stay akin behind it. -/
theorem Activation.Akin.behind {safe : Step → Prop} {R : Slot → Slot → Prop} {frame frame' : Activation}
    (frames : frame.Akin safe R frame') {first first' : Step} {rest rest' : List Step}
    (todo : frame.todo = first :: rest) (todo' : frame'.todo = first' :: rest') :
    first' = first ∧ safe first ∧ Activation.Akin safe R { frame with todo := rest } { frame' with todo := rest' } := by
  obtain ⟨rfl, rfl⟩ := List.cons.inj (todo'.symm.trans (frames.todo.trans todo))
  exact ⟨rfl, frames.safe _ (by simp [todo]), rfl, fun step member => frames.safe step (by simp [todo, member]),
    frames.params, frames.injected⟩

namespace Instance

theorem Akin.ended {safe : Step → Prop} {R : Slot → Slot → Prop} {template template' : Instance}
    (akin : template.Akin safe R template') : template.Ended ↔ template'.Ended := by
  have programs {frame frame' : Activation} (frames : Activation.Akin safe R frame frame') {callee callee'} :
      Ended (.program frame callee) ↔ Ended (.program frame' callee') := by
    constructor
    · rintro (_ | nothing)
      exact .program (frames.todo.trans nothing)
    · rintro (_ | nothing)
      exact .program (frames.todo.symm.trans nothing)
  cases akin with
  | empty => exact Iff.rfl
  | program frames => exact programs frames
  | calling frames => exact programs frames
  | escaped inside markup => exact ⟨nofun, nofun⟩

/-- What is akin to a program with no callee in flight is such a program itself. -/
theorem Akin.of_idle {safe : Step → Prop} {R : Slot → Slot → Prop} {frame : Activation} {slot : Option Instance}
    {template' : Instance} (akin : Akin safe R (.program frame slot) template') {first : Step} {rest : List Step}
    (todo : frame.todo = first :: rest) (idle : first.inFlight slot = none) :
    slot = none ∧ ∃ frame', template' = .program frame' none ∧ frame.Akin safe R frame' := by
  cases akin with
  | program frames => exact ⟨rfl, _, rfl, frames⟩
  | calling _ head calls =>
    obtain ⟨rfl, rfl⟩ := List.cons.inj (head.symm.trans todo)
    exact absurd idle (not_idle calls)

/-- What the instructions write has the same markup in both renders, and they leave the templates akin. -/
theorem Move.akin (outline : ctx.SameOutline ctx') (escapes : ctx.Escapes) (escapes' : ctx'.Escapes)
    (guarded : root.GuardedThroughout ctx.registry ctx.delegates)
    (fixed : root.FixedVariants ctx.registry ctx.delegates) (among : stores σ) (among' : stores' σ')
    {depth depth' : Nat} {template next template' next' : Instance} {done done' : List Finished}
    (move : template.Move ctx σ depth done next) (move' : template'.Move ctx' σ' depth' done' next')
    (akin : template.Akin (Step.Safe ctx.registry ctx.delegates root) (Slot.SameMarkup stores stores') template') :
    Text.markup (Finished.total done) = Text.markup (Finished.total done') ∧
      next.Akin (Step.Safe ctx.registry ctx.delegates root) (Slot.SameMarkup stores stores') next' := by
  induction move generalizing depth' template' next' done' with
  | print todo idle prints =>
    obtain ⟨rfl, frame', rfl, frames⟩ := akin.of_idle todo idle
    cases move' with
    | print todo' idle' prints' =>
      obtain ⟨rfl, safe, behind⟩ := frames.behind todo todo'
      have same := safe.guarded.prints_markup outline escapes escapes' among among' frames.params frames.injected
        prints prints'
      exact ⟨by simpa [Finished.total, Finished.text] using same, .program behind⟩
    | enter todo' idle' starts' =>
      obtain ⟨rfl, -, -⟩ := frames.behind todo todo'
      exact absurd starts' (Instruction.effect_ne_enter prints.passes_eq_none _)
  | enter todo idle starts =>
    obtain ⟨rfl, frame', rfl, frames⟩ := akin.of_idle todo idle
    cases move' with
    | print todo' idle' prints' =>
      obtain ⟨rfl, -, -⟩ := frames.behind todo todo'
      exact absurd starts (Instruction.effect_ne_enter prints'.passes_eq_none _)
    | enter todo' idle' starts' =>
      obtain ⟨rfl, safe, -⟩ := frames.behind todo todo'
      exact ⟨rfl, .calling frames todo (Instruction.calls_of_enter starts) (Instruction.enter_akin outline escapes
        guarded fixed .literal safe frames.params frames.injected starts starts')⟩
  | inside todo calls move ih =>
    cases akin with
    | calling frames head calls' inside =>
      cases move' with
      | print todo' idle' | enter todo' idle' =>
        obtain ⟨rfl, -, -⟩ := frames.behind todo todo'
        exact absurd idle' (not_idle calls)
      | inside todo' _ move' =>
        obtain ⟨same, next⟩ := ih move' inside
        exact ⟨same, .calling frames head calls' next⟩
      | leave todo' _ ended' => exact absurd move (inside.ended.mpr ended').not_move
  | leave todo calls ended =>
    cases akin with
    | calling frames _ _ inside =>
      cases move' with
      | print todo' idle' | enter todo' idle' =>
        obtain ⟨rfl, -, -⟩ := frames.behind todo todo'
        exact absurd idle' (not_idle calls)
      | inside todo' _ move' => exact absurd move' (inside.ended.mp ended).not_move
      | leave todo' _ ended' => exact ⟨rfl, .program (frames.behind todo todo').2.2⟩
  | collect move ih =>
    cases akin with
    | escaped inside markup =>
      cases move' with
      | collect move' =>
        obtain ⟨same, next⟩ := ih move' inside
        refine ⟨rfl, .escaped next fun html => ?_⟩
        rw [Text.markup_append, Text.markup_append, markup html, same]
      | deliver ended' passes' => exact absurd move (inside.ended.mpr ended').not_move
  | @deliver _ value _ ended passes =>
    cases akin with
    | @escaped _ _ kind _ _ inside markup =>
      cases move' with
      | collect move' => exact absurd move' (inside.ended.mp ended).not_move
      | @deliver _ value' _ ended' passes' =>
        have same : Text.markup (σ.text value) = Text.markup (σ'.text value') := by
          rw [Escaped.output_markup passes, Escaped.output_markup passes']
          by_cases html : kind = some .html
          · rw [if_pos html, if_pos html, markup html]
          · rw [if_neg html, if_neg html]
        exact ⟨by simpa [Finished.total, Finished.text] using same, .empty⟩

/-- Two renders that are both complete in the end have written the same markup. -/
theorem Completes.markup (outline : ctx.SameOutline ctx') (escapes : ctx.Escapes) (escapes' : ctx'.Escapes)
    (guarded : root.GuardedThroughout ctx.registry ctx.delegates)
    (fixed : root.FixedVariants ctx.registry ctx.delegates) {depth depth' : Nat} {template template' : Instance}
    {done done' : List Finished} (completes : template.Completes ctx stores depth done)
    (completes' : template'.Completes ctx' stores' depth' done')
    (akin : template.Akin (Step.Safe ctx.registry ctx.delegates root) (Slot.SameMarkup stores stores') template') :
    Text.markup (Finished.total done) = Text.markup (Finished.total done') := by
  induction completes generalizing template' done' with
  | ended ended =>
    cases completes' with
    | ended => rfl
    | move _ move' => exact absurd move' (akin.ended.mp ended).not_move
  | move among move later ih =>
    cases completes' with
    | ended ended' => exact absurd move (akin.ended.mpr ended').not_move
    | move among' move' later' =>
      obtain ⟨same, next⟩ := move.akin outline escapes escapes' guarded fixed among among' move' akin
      rw [Finished.total_append, Finished.total_append, Text.markup_append, Text.markup_append, same, ih later' next]

end Instance

/-- What the slot holds, now or once it is supplied, is not content of kind HTML. Inside it there may be anything. -/
def Slot.Plain (σ : CellStore) (slot : Slot) : Prop :=
  ∀ value, slot.resolve σ = .ok value → value.contentKind ≠ some .html

theorem Slot.plain_null (σ : CellStore) : Slot.null.Plain σ := by
  rintro _ ⟨⟩ html
  cases html

theorem Record.Each.sameMarkup {r r' : Record} (plain : ∀ σ, stores σ → Record.Each (Slot.Plain σ) r)
    (plain' : ∀ σ, stores' σ → Record.Each (Slot.Plain σ) r') :
    Record.Corresponds (Slot.SameMarkup stores stores') r r' := by
  intro name σ σ' among among' value value' read read'
  rw [Value.trustedMarkup_eq_nil ((plain σ among).field (Slot.plain_null σ) name value read),
    Value.trustedMarkup_eq_nil ((plain' σ' among').field (Slot.plain_null σ') name value' read')]

/-- Data that are printed only through the directive that escapes for HTML add no markup to the output. Two renders of
a template, in environments with the same active packages and renamed names, with any parameters, injected values,
stores, sinks and rounds, write the same angle brackets and quotes if both are complete in the end. -/
theorem RenderContext.escaped_data_adds_no_markup (outline : ctx.SameOutline ctx') (escapes : ctx.Escapes)
    (escapes' : ctx'.Escapes) (guarded : root.GuardedThroughout ctx.registry ctx.delegates)
    (fixed : root.FixedVariants ctx.registry ctx.delegates) {S S' : Type} [Sink S] [Sink S'] (store store' : CellStore)
    (sink : S) (sink' : S') (rounds : List (Round S)) (rounds' : List (Round S')) :
    let run := RenderState.run ctx ⟨store, root.start params injected, sink⟩ rounds
    let run' := RenderState.run ctx' ⟨store', root.start params' injected', sink'⟩ rounds'
    (∀ x ∈ run, Record.Each (Slot.Plain x.store) params ∧ Record.Each (Slot.Plain x.store) injected) →
      (∀ x ∈ run', Record.Each (Slot.Plain x.store) params' ∧ Record.Each (Slot.Plain x.store) injected') →
        RenderState.Completed ctx run → RenderState.Completed ctx' run' →
          Text.markup (RenderState.written ctx run) = Text.markup (RenderState.written ctx' run') := by
  intro run run' plain plain' completed completed'
  have guarded' : root.GuardedThroughout ctx'.registry ctx'.delegates := by
    rw [outline.registry, outline.delegates]
    exact guarded
  have fixed' : root.FixedVariants ctx'.registry ctx'.delegates := by
    rw [outline.registry, outline.delegates]
    exact fixed
  let stores : CellStore → Prop := fun σ => ∃ x ∈ run, x.store = σ
  have among : ∀ x ∈ run, stores x.store := fun x member => ⟨x, member, rfl⟩
  let stores' : CellStore → Prop := fun σ => ∃ x ∈ run', x.store = σ
  have among' : ∀ x ∈ run', stores' x.store := fun x member => ⟨x, member, rfl⟩
  obtain ⟨done, completes, written⟩ :=
    completed.completes (fun _ => escapes.hereditary guarded fixed) among (guarded.start_madeOf fixed params injected)
  obtain ⟨done', completes', written'⟩ :=
    completed'.completes (fun _ => escapes'.hereditary guarded' fixed') among'
      (guarded'.start_madeOf fixed' params' injected')
  rw [written, written']
  refine completes.markup outline escapes escapes' guarded fixed completes'
    (TemplateEntry.start_akin guarded fixed .root ?_ ?_)
  · exact Record.Each.sameMarkup (by rintro _ ⟨x, member, rfl⟩; exact (plain x member).1)
      (by rintro _ ⟨x, member, rfl⟩; exact (plain' x member).1)
  · exact Record.Each.sameMarkup (by rintro _ ⟨x, member, rfl⟩; exact (plain x member).2)
      (by rintro _ ⟨x, member, rfl⟩; exact (plain' x member).2)

/-- A delegate that writes a name as HTML. -/
def badge : TemplateEntry :=
  ⟨"badge", ⟨some .html, .empty, .empty, .empty, none⟩, .program ⟨"badge",
    [⟨.text "<b>", none⟩, ⟨.print (.param "name") ["|escapeHtml"], none⟩, ⟨.text "</b>", none⟩]⟩⟩

/-- Its variant for a list with a cell in it that is pending. -/
def waitingBadge : TemplateEntry := ⟨"waitingBadge", default, .program ⟨"waitingBadge", [⟨.text "...", none⟩]⟩⟩

/-- A page with the badge of a variant, escaped for HTML. -/
def badgePage (variant : Value) : TemplateEntry :=
  let call : DelegateCall := ⟨"badge", .literal (.ready variant), false, .all, ["|escapeHtml"]⟩
  ⟨"page", default, .program ⟨"page", [⟨.text "<p>", none⟩, ⟨.delegateCall call, none⟩, ⟨.text "</p>", none⟩]⟩⟩

def badgeContext : RenderContext :=
  let table : Except ErrorKind (DelegateTable TemplateEntry) := do
    (← DelegateTable.empty.add "badge" "" "" badge).add "badge" "" "[null]" waitingBadge
  { RenderContext.ofPrograms [] 3 with delegates := ⟨table.toOption.getD .empty, SortedMap.empty, rfl⟩ }

theorem badgeContext_escapes : badgeContext.Escapes := ⟨rfl, by rintro name function (_ | _)⟩

theorem badgePage_leadsTo {variant : Value} {entry : TemplateEntry}
    (leads : (badgePage variant).LeadsTo badgeContext.registry badgeContext.delegates entry) :
    entry = badgePage variant ∨ entry = badge ∨ entry = waitingBadge := by
  induction leads with
  | root => exact .inl rfl
  | further leads body among calls ih =>
    rcases ih with rfl | rfl | rfl
    · cases body
      simp only [List.mem_cons, List.not_mem_nil, or_false] at among
      rcases among with rfl | rfl | rfl
      · cases calls
      · cases calls with
        | delegate literal selected =>
          have member := DelegateView.mem_implementations_of_select? selected
          have both : badgeContext.delegates.table.implementations "badge" = [badge, waitingBadge] := rfl
          exact .inr (by simpa [both] using member)
      · cases calls
    · cases body
      simp only [List.mem_cons, List.not_mem_nil, or_false] at among
      rcases among with rfl | rfl | rfl <;> cases calls
    · cases body
      obtain rfl := List.mem_singleton.mp among
      cases calls

theorem badgePage_guarded (variant : Value) :
    (badgePage variant).GuardedThroughout badgeContext.registry badgeContext.delegates := by
  intro entry leads
  rcases badgePage_leadsTo leads with rfl | rfl | rfl
  · refine ⟨_, rfl, ?_⟩
    simp only [List.mem_cons, List.not_mem_nil, or_false]
    rintro step (rfl | rfl | rfl)
    · exact .text _
    · exact .delegateCall rfl trivial (.inr rfl)
    · exact .text _
  · refine ⟨_, rfl, ?_⟩
    simp only [List.mem_cons, List.not_mem_nil, or_false]
    rintro step (rfl | rfl | rfl)
    · exact .text _
    · exact .print trivial
    · exact .text _
  · refine ⟨_, rfl, fun step member => ?_⟩
    obtain rfl := List.mem_singleton.mp member
    exact .text _

theorem badgePage_fixed {variant : Value} (closed : variant.cells = []) :
    (badgePage variant).FixedVariants badgeContext.registry badgeContext.delegates := by
  intro entry leads
  rcases badgePage_leadsTo leads with rfl | rfl | rfl
  · rintro p ⟨⟩
    simp only [List.mem_cons, List.not_mem_nil, or_false]
    rintro step (rfl | rfl | rfl)
    · trivial
    · rintro _ ⟨⟩
      exact closed
    · trivial
  · rintro p ⟨⟩
    simp only [List.mem_cons, List.not_mem_nil, or_false]
    rintro step (rfl | rfl | rfl) <;> trivial
  · rintro p ⟨⟩ step member
    obtain rfl := List.mem_singleton.mp member
    trivial

/-- A name that is known from the start, and one with markup in it that is supplied later on. -/
theorem escaped_data_adds_no_markup_badge :
    let run := RenderState.run badgeContext
      ⟨.empty, (badgePage .null).start (OrderedMap.ofList [("name", .ready (.string "Ann"))]) .empty,
        OutputBuffer.empty⟩ [⟨[], id⟩]
    let run' := RenderState.run badgeContext
      ⟨⟨[⟨"name", .pending⟩]⟩, (badgePage .null).start (OrderedMap.ofList [("name", .deferred ⟨0⟩)]) .empty,
        OutputBuffer.empty⟩ [⟨[], id⟩, ⟨[.set ⟨0⟩ (.string "<i>")], id⟩]
    RenderState.written badgeContext run = "<p><b>Ann</b></p>" ∧
      RenderState.written badgeContext run' = "<p><b>&lt;i&gt;</b></p>" ∧
        Text.markup (RenderState.written badgeContext run) = Text.markup (RenderState.written badgeContext run') := by
  intro run run'
  have one {σ : CellStore} {slot : Slot} (plain : slot.Plain σ) :
      Record.Each (Slot.Plain σ) (OrderedMap.ofList [("name", slot)]) ∧ Record.Each (Slot.Plain σ) .empty := by
    refine ⟨fun name other found => ?_, .empty _⟩
    rw [OrderedMap.get?_ofList] at found
    obtain ⟨entry, last, rfl⟩ := Option.map_eq_some_iff.mp found
    obtain rfl : entry = ("name", slot) := by simpa using List.mem_of_find?_eq_some last
    exact plain
  have stores : run'.map RenderState.store =
      [⟨[⟨"name", .pending⟩]⟩, ⟨[⟨"name", .completed (.string "<i>")⟩]⟩] := rfl
  refine ⟨by decide, by decide, ?_⟩
  refine badgeContext.escaped_data_adds_no_markup ⟨rfl, rfl, rfl, rfl, rfl⟩ badgeContext_escapes badgeContext_escapes
    (badgePage_guarded .null) (badgePage_fixed rfl) _ _ _ _ _ _ (fun x member => one ?_) (fun x member => one ?_)
    ⟨_, List.mem_cons_self, rfl⟩ ⟨_, List.mem_cons_of_mem _ List.mem_cons_self, rfl⟩
  · rintro _ ⟨⟩ html
    cases html
  · have among := List.mem_map_of_mem (f := RenderState.store) member
    rw [stores] at among
    simp only [List.mem_cons, List.not_mem_nil, or_false] at among
    rintro value read html
    rcases among with store | store <;> rw [store] at read <;> cases read
    cases html

/-- A list with a cell in it is a literal that has a value from the start, but its text changes when the cell is
completed. As a variant it selects another template then, so renders of one guarded page without any data write
different markup. -/
theorem completed_variant_changes_markup :
    let page := badgePage (.list [.deferred ⟨0⟩])
    let start : RenderState OutputBuffer := ⟨⟨[⟨"size", .pending⟩]⟩, page.start .empty .empty, .empty⟩
    let run := start.run badgeContext [⟨[], id⟩]
    let run' := start.run badgeContext [⟨[.set ⟨0⟩ (.string "big")], id⟩]
    badgeContext.Escapes ∧ page.GuardedThroughout badgeContext.registry badgeContext.delegates ∧
      RenderState.Completed badgeContext run ∧ RenderState.Completed badgeContext run' ∧
      RenderState.written badgeContext run = "<p>...</p>" ∧
      RenderState.written badgeContext run' = "<p><b>null</b></p>" ∧
      Text.markup (RenderState.written badgeContext run) ≠ Text.markup (RenderState.written badgeContext run') :=
  ⟨badgeContext_escapes, badgePage_guarded _, ⟨_, List.mem_cons_self, rfl⟩, ⟨_, List.mem_cons_self, rfl⟩,
    by decide, by decide, by decide⟩

end TemplateEngine
