import TemplateEngine.Proofs.Pure
import TemplateEngine.Proofs.Slots

namespace TemplateEngine

/-- Later comes out what came out before, unless a cell was awaited then. -/
def Agrees {α : Type} (before after : Except Obstacle α) : Prop :=
  (∃ c, before = .error (.awaits c)) ∨ after = before

namespace Agrees

variable {α β : Type}

theorem bind {x y : Except Obstacle α} {f g : α → Except Obstacle β} (first : Agrees x y)
    (rest : ∀ a, x = .ok a → Agrees (f a) (g a)) : Agrees (x >>= f) (y >>= g) := by
  rcases first with ⟨c, rfl⟩ | rfl
  · exact .inl ⟨c, rfl⟩
  · cases y with
    | error o => exact .inr rfl
    | ok a => exact rest a rfl

theorem map {x y : Except Obstacle α} {f g : α → β} (first : Agrees x y)
    (rest : ∀ a, x = .ok a → g a = f a) : Agrees (x.map f) (y.map g) := by
  rcases first with ⟨c, rfl⟩ | rfl
  · exact .inl ⟨c, rfl⟩
  · cases y with
    | error o => exact .inr rfl
    | ok a => exact .inr (congrArg Except.ok (rest a rfl))

theorem mapM {f g : α → Except Obstacle β} {xs : List α} (each : ∀ x ∈ xs, Agrees (f x) (g x)) :
    Agrees (xs.mapM f) (xs.mapM g) := by
  induction xs with
  | nil => exact .inr rfl
  | cons x rest ih =>
    rw [List.mapM_cons, List.mapM_cons]
    have others := ih fun y member => each y (List.mem_cons_of_mem x member)
    exact (each x List.mem_cons_self).bind fun b _ => others.bind fun bs _ => .inr rfl

end Agrees

variable {ctx : RenderContext} {base σ later : CellStore} {params injected : Record}

theorem ValueRef.read_agrees (order : σ.Precedes later) (ref : ValueRef) :
    Agrees (ref.read σ params injected) (ref.read later params injected) := by
  cases waiting : (ref.slot params injected).awaits σ with
  | some c => exact .inl ⟨c, read_eq_awaits.2 waiting⟩
  | none => exact .inr (read_later order waiting)

/-- Whatever can be read is settled, cells that are completed with a value included. -/
theorem ValueRef.read_settled (extended : base.Extends σ) {ref : ValueRef} {v : Value}
    (settled : (ref.slot params injected).Settled base) (read : ref.read σ params injected = .ok v) :
    v.Settled base := by
  have resolved := read_eq_ok.1 read
  cases slot : ref.slot params injected with
  | ready w =>
    rw [slot] at resolved settled
    cases resolved
    exact settled
  | deferred c =>
    rw [slot] at resolved
    simp only [Slot.resolve] at resolved
    cases state : σ.state c with
    | pending => simp [state] at resolved
    | failed message => simp [state] at resolved
    | completed w =>
      simp only [state, Except.ok.injEq] at resolved
      subst resolved
      exact extended.held c w state

/-- A chain of transformations, each of which depends on its value alone. -/
theorem foldlM_settled {α : Type} {f g : Value → α → Except RenderError Value} {xs : List α}
    (each : ∀ x ∈ xs, ∀ v : Value, v.Settled base → f v x = g v x ∧ ∀ w, g v x = .ok w → w.Settled base)
    {v : Value} (settled : v.Settled base) :
    xs.foldlM f v = xs.foldlM g v ∧ ∀ w, xs.foldlM g v = .ok w → w.Settled base := by
  induction xs generalizing v with
  | nil =>
    refine ⟨rfl, ?_⟩
    rintro w ⟨⟩
    exact settled
  | cons x rest ih =>
    obtain ⟨same, kept⟩ := each x List.mem_cons_self v settled
    rw [List.foldlM_cons, List.foldlM_cons, same]
    cases first : g v x with
    | error e => exact ⟨rfl, fun w impossible => by cases impossible⟩
    | ok w => exact ih (fun y member => each y (List.mem_cons_of_mem x member)) (kept w first)

theorem RenderContext.Pure.applyDirectives (pure : ctx.Pure) (extended : base.Extends σ) (names : List String)
    {v : Value} (settled : v.Settled base) :
    ctx.applyDirectives σ names v = ctx.applyDirectives base names v ∧
      ∀ w, ctx.applyDirectives base names v = .ok w → w.Settled base := by
  refine foldlM_settled (fun name _ v settled => ?_) settled
  cases found : ctx.directives.lookup name with
  | error e => exact ⟨rfl, fun w impossible => by cases impossible⟩
  | ok directive => exact pure.directives name directive found base σ extended v settled

theorem PrintDirective.applyAll_settled {directives : List PrintDirective}
    (pure : ∀ directive ∈ directives, directive.Pure) (extended : base.Extends σ) {v : Value}
    (settled : v.Settled base) :
    applyAll σ directives v = applyAll base directives v ∧
      ∀ w, applyAll base directives v = .ok w → w.Settled base :=
  foldlM_settled (fun directive member v settled => pure directive member base σ extended v settled) settled

namespace Instruction

theorem print_settled (pure : ctx.Pure) (extended : base.Extends σ) (names : List String) {v : Value}
    (settled : v.Settled base) :
    ((ctx.applyDirectives σ names v).mapError Obstacle.fails >>= fun w =>
        return Effect.writeValue σ w) =
      ((ctx.applyDirectives base names v).mapError Obstacle.fails >>= fun w =>
        return Effect.writeValue base w) := by
  obtain ⟨same, kept⟩ := pure.applyDirectives extended names settled
  rw [same]
  cases applied : ctx.applyDirectives base names v with
  | error e => rfl
  | ok w =>
    simp only [mapError_ok, bind, Except.bind, Effect.writeValue, extended.text (kept w applied)]

theorem printCall_settled (pure : ctx.Pure) (extended : base.Extends σ) (function : String) (names : List String)
    {args : List Value} (settled : ∀ v ∈ args, v.Settled base) :
    ((ctx.functions.lookup function).mapError Obstacle.ofKind >>= fun function =>
        (function.call σ args).mapError Obstacle.fails >>= fun v =>
          (ctx.applyDirectives σ names v).mapError Obstacle.fails >>= fun w =>
            return Effect.writeValue σ w) =
      ((ctx.functions.lookup function).mapError Obstacle.ofKind >>= fun function =>
        (function.call base args).mapError Obstacle.fails >>= fun v =>
          (ctx.applyDirectives base names v).mapError Obstacle.fails >>= fun w =>
            return Effect.writeValue base w) := by
  cases found : ctx.functions.lookup function with
  | error e => rfl
  | ok known =>
    obtain ⟨same, kept⟩ := pure.functions function known found base σ extended args settled
    cases called : known.call base args with
    | error e =>
      rw [called] at same
      simp only [mapError_ok, mapError_error, bind, Except.bind, same, called]
    | ok v =>
      rw [called] at same
      have printed := print_settled pure extended names (kept v called)
      simpa only [mapError_ok, mapError_error, bind, Except.bind, same, called] using printed

theorem toVariant_settled (extended : base.Extends σ) {v : Value} (settled : v.Settled base) :
    v.toVariant σ = v.toVariant base := by
  cases v with
  | null => rfl
  | bool | integer | float | string | list | record | sanitized => exact extended.text settled

theorem toPlaceholder_settled (extended : base.Extends σ) {v : Value} (settled : v.Settled base) :
    v.toPlaceholder σ = v.toPlaceholder base := by
  cases v with
  | integer n => rfl
  | null | bool | float | string | list | record | sanitized =>
    exact congrArg PlaceholderValue.text (extended.text settled)

/-- An instruction that does not await a cell has the same effect in all later stores. -/
theorem effect_agrees (pure : ctx.Pure) (early : base.Extends σ) (late : base.Extends later)
    (order : σ.Precedes later) {instruction : Instruction}
    (reads : ∀ ref ∈ instruction.reads, (ref.slot params injected).Settled base) :
    Agrees (instruction.effect ctx σ params injected) (instruction.effect ctx later params injected) := by
  cases instruction with
  | text s => exact .inr rfl
  | css name => exact .inr rfl
  | xid name => exact .inr rfl
  | call callee data => exact .inr rfl
  | print ref names =>
    refine (ref.read_agrees order).bind fun v read => .inr ?_
    have settled := ref.read_settled early (reads ref (List.mem_singleton_self ref)) read
    exact (print_settled pure late names settled).trans (print_settled pure early names settled).symm
  | printCall function args names =>
    refine (Agrees.mapM fun ref _ => ref.read_agrees order).bind fun values read => .inr ?_
    have settled : ∀ v ∈ values, v.Settled base := by
      intro v member
      obtain ⟨ref, among, read⟩ := exists_of_mapM_eq_ok read v member
      exact ref.read_settled early (reads ref among) read
    exact (printCall_settled pure late function names settled).trans
      (printCall_settled pure early function names settled).symm
  | delegateCall target =>
    refine Agrees.map ?_ fun _ _ => rfl
    refine (target.variant.read_agrees order).bind fun v read => .inr ?_
    have settled := target.variant.read_settled early (reads _ (List.mem_singleton_self _)) read
    rw [toVariant_settled late settled, toVariant_settled early settled]
  | message id fallback values =>
    refine Agrees.bind ?_ fun _ _ => .inr rfl
    refine Agrees.map (Agrees.mapM fun entry member => ?_) fun _ _ => rfl
    refine (entry.2.read_agrees order).map fun v read => ?_
    have settled := entry.2.read_settled early (reads _ (List.mem_map_of_mem member)) read
    rw [toPlaceholder_settled late settled, toPlaceholder_settled early settled]

end Instruction

def Parts.settled (base : CellStore) : Parts := ⟨Activation.Slots (Slot.Settled base), PrintDirective.Pure⟩

/-- Later a template does the same next, unless it awaited a cell; then it does what is next where it stopped. -/
def Turn.Agrees (ctx : RenderContext) (later : CellStore) (depth : Nat) : Turn → Turn → Prop
  | .await _ stopped, after => after = stopped.turn ctx later depth
  | before, after => after = before

variable {depth : Nat}

theorem Activation.relay_agrees {frame : Activation} {first : Step} (calls : first.instruction.calls = true)
    {rest : List Step} {before after : Turn} (agrees : before.Agrees ctx later depth after) :
    (frame.relay first rest before).Agrees ctx later (depth + 1) (frame.relay first rest after) := by
  cases before with
  | await c stopped =>
    obtain rfl : after = stopped.turn ctx later depth := agrees
    exact (turn_inFlight ctx later _ _ rest (Step.inFlight_of_calls calls (some stopped))).symm
  | fail e stopped =>
    obtain rfl : after = .fail e stopped := agrees
    rfl
  | act output pace next =>
    obtain rfl : after = .act output pace next := agrees
    cases pace <;> rfl

namespace Escaped

theorem deliver_settled {w : Escaped Instance} (pure : ∀ directive ∈ w.directives, directive.Pure)
    (extended : base.Extends σ) : w.deliver σ = w.deliver base := by
  have finished : { w with buffer := w.buffer.take.2 }.finish σ w.buffer.take.1 =
      { w with buffer := w.buffer.take.2 }.finish base w.buffer.take.1 := by
    simp only [finish]
    have settled : (w.kind.elim (.string w.buffer.take.1) fun kind =>
        .sanitized ⟨w.buffer.take.1, kind⟩ : Value).Settled base := by
      refine Value.settled_of_cells_eq_nil ?_
      cases w.kind <;> rfl
    obtain ⟨same, kept⟩ := PrintDirective.applyAll_settled pure extended settled
    rw [same]
    cases applied : PrintDirective.applyAll base w.directives (w.kind.elim (.string w.buffer.take.1)
      fun kind => .sanitized ⟨w.buffer.take.1, kind⟩) with
    | error e => rfl
    | ok v => exact congrArg Except.ok (extended.text (kept v applied))
  rw [deliver, deliver, finished]

theorem turn_agrees {w : Escaped Instance} (pure : ∀ directive ∈ w.directives, directive.Pure)
    (early : base.Extends σ) (late : base.Extends later) {before after : Turn}
    (agrees : before.Agrees ctx later depth after) :
    (w.turn σ before).Agrees ctx later (depth + 1) (w.turn later after) := by
  cases before with
  | await c stopped =>
    obtain rfl : after = stopped.turn ctx later depth := agrees
    have anyInner (turn : Turn) : ({ w with inner := stopped } : Escaped Instance).turn later turn =
        w.turn later turn := by
      cases turn with
      | await c inner => rfl
      | fail e inner => rfl
      | act output pace next => cases pace <;> rfl
    exact (anyInner _).symm
  | fail e stopped =>
    obtain rfl : after = .fail e stopped := agrees
    rfl
  | act output pace next =>
    obtain rfl : after = .act output pace next := agrees
    cases pace with
    | asking | onward | resting => rfl
    | finished =>
      have same {σ : CellStore} (extended : base.Extends σ) :
          (w.collect output next).deliver σ = (w.collect output next).deliver base :=
        deliver_settled pure extended
      simp only [turn, same early, same late]
      simp only [deliver]
      split <;> rfl

end Escaped

namespace Instance

/-- Turns are stable: completing cells changes only the turn of a template that awaits one. -/
theorem turn_agrees (pure : ctx.Pure) (programs : ctx.Programs (Slot.Settled base))
    (early : base.Extends σ) (late : base.Extends later) (order : σ.Precedes later) {template : Instance}
    (made : template.MadeOf (.settled base)) :
    (template.turn ctx σ depth).Agrees ctx later depth (template.turn ctx later depth) := by
  have null : Slot.Settled base Slot.null := Value.settled_of_cells_eq_nil rfl
  have hereditary : Hereditary ctx σ (.settled base) :=
    Activation.slots_hereditary null programs pure.directives
  induction depth generalizing template with
  | zero => rfl
  | succ depth ih =>
    cases template with
    | empty => rfl
    | chunks texts => cases made
    | escaped w =>
      cases made with
      | escaped directives inside => exact Escaped.turn_agrees directives early late (ih inside)
    | program frame slot =>
      obtain ⟨name, todo, params, injected⟩ := frame
      cases todo with
      | nil => rfl
      | cons first rest =>
        have holds := made.frame
        simp only [turn]
        cases running : first.inFlight slot with
        | some callee =>
          obtain ⟨calls, rfl⟩ := Step.inFlight_eq_some.mp running
          rw [Activation.turn_inFlight ctx σ _ _ rest running, Activation.turn_inFlight ctx later _ _ rest running]
          exact Activation.relay_agrees calls (ih made.callee)
        | none =>
          have reads : ∀ ref ∈ first.instruction.reads, (ref.slot params injected).Settled base := by
            intro ref member
            have literal := (holds.literals first List.mem_cons_self).reads ref member
            exact literal.slot null holds.params holds.injected
          have effects := Instruction.effect_agrees pure early late order reads
          simp only [Activation.turn, running]
          cases effect : first.instruction.effect ctx σ params injected with
          | error obstacle =>
            cases obstacle with
            | awaits c => simp only [Turn.Agrees, turn, Activation.turn, running]
            | fails e =>
              rw [effect] at effects
              rcases effects with ⟨c, impossible⟩ | same
              · cases impossible
              · rw [same]
                rfl
          | ok effect' =>
            rw [effect] at effects
            rcases effects with ⟨c, impossible⟩ | same
            · cases impossible
            · rw [same]
              cases effect' with
              | write text => rfl
              | writeMessage text => rfl
              | silent => rfl
              | enter callee =>
                have entered : callee.MadeOf (.settled base) :=
                  @Hereditary.enter _ _ _ hereditary ⟨name, first :: rest, params, injected⟩ first rest callee
                    holds effect
                exact Activation.relay_agrees (Instruction.calls_of_enter effect) (ih entered)

end Instance

end TemplateEngine
