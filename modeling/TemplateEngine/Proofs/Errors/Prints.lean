import TemplateEngine.Proofs.Templates

namespace TemplateEngine

namespace Effect

/-- The complete output of an effect. An effect that starts a callee has none of its own. -/
def printed : Effect → Option String
  | .write text | .writeMessage text => some text
  | .silent => some ""
  | .enter _ => none

/-- The output is that of a message. -/
def isMessage : Effect → Bool
  | .writeMessage _ | .silent => true
  | .write _ | .enter _ => false

end Effect

namespace Instruction

variable {ctx : RenderContext} {σ : CellStore} {params injected : Record}

def isMessage : Instruction → Bool
  | .message .. => true
  | _ => false

/-- An instruction prints a text: all it reads is known, all it looks up is there, and nothing that it applies
refuses its input. A message without parts prints nothing. -/
inductive Prints (ctx : RenderContext) (σ : CellStore) (params injected : Record) : Instruction → String → Prop
  | text {s} : Prints ctx σ params injected (.text s) s
  | css {name} : Prints ctx σ params injected (.css name) (ctx.renameCss name)
  | xid {name} : Prints ctx σ params injected (.xid name) (ctx.renameXid name)
  | print {ref directives value shown} (read : ref.read σ params injected = .ok value)
      (applied : ctx.applyDirectives σ directives value = .ok shown) :
      Prints ctx σ params injected (.print ref directives) (σ.text shown)
  | printCall {name args directives values function value shown}
      (read : args.mapM (fun ref => ref.read σ params injected) = .ok values)
      (known : ctx.functions.lookup name = .ok function) (called : function.call σ values = .ok value)
      (applied : ctx.applyDirectives σ directives value = .ok shown) :
      Prints ctx σ params injected (.printCall name args directives) (σ.text shown)
  | message {id fallback refs values message text} (read : readPlaceholders σ params injected refs = .ok values)
      (chosen : chooseMessage ctx id fallback = .ok message) (rendered : message.text? values = .ok text) :
      Prints ctx σ params injected (.message id fallback refs) (text.getD "")

theorem Prints.effect {instruction : Instruction} {text : String}
    (prints : instruction.Prints ctx σ params injected text) :
    ∃ effect, instruction.effect ctx σ params injected = .ok effect ∧ effect.printed = some text := by
  cases prints with
  | text | css | xid => exact ⟨_, rfl, rfl⟩
  | @print ref directives value shown read applied =>
    refine ⟨.writeValue σ shown, ?_, rfl⟩
    simp [Instruction.effect, read, applied, bind, Except.bind, pure, Except.pure]
  | @printCall name args directives values function value shown read known called applied =>
    refine ⟨.writeValue σ shown, ?_, rfl⟩
    simp [Instruction.effect, read, known, called, applied, bind, Except.bind, pure, Except.pure]
  | @message id fallback refs values message text read chosen rendered =>
    refine ⟨.ofMessageText text, ?_, ?_⟩
    · simp [Instruction.effect, read, chosen, rendered, bind, Except.bind, pure, Except.pure]
    · cases text <;> rfl

/-- An instruction that can be executed prints a text or starts a callee, and only the text of a message is handed
over as such. -/
theorem prints_of_effect {instruction : Instruction} {effect : Effect} {text : String}
    (worked : instruction.effect ctx σ params injected = .ok effect) (printed : effect.printed = some text) :
    instruction.Prints ctx σ params injected text ∧ effect.isMessage = instruction.isMessage := by
  cases instruction with
  | text s =>
    cases worked
    cases printed
    exact ⟨.text, rfl⟩
  | css name =>
    cases worked
    cases printed
    exact ⟨.css, rfl⟩
  | xid name =>
    cases worked
    cases printed
    exact ⟨.xid, rfl⟩
  | print ref directives =>
    obtain ⟨value, read, worked⟩ := exceptBind_eq_ok.mp worked
    obtain ⟨shown, applied, worked⟩ := exceptBind_eq_ok.mp worked
    cases worked
    cases printed
    exact ⟨.print read ((mapError_eq_ok _).mp applied), rfl⟩
  | printCall name args directives =>
    obtain ⟨values, read, worked⟩ := exceptBind_eq_ok.mp worked
    obtain ⟨function, known, worked⟩ := exceptBind_eq_ok.mp worked
    obtain ⟨value, called, worked⟩ := exceptBind_eq_ok.mp worked
    obtain ⟨shown, applied, worked⟩ := exceptBind_eq_ok.mp worked
    cases worked
    cases printed
    exact ⟨.printCall read ((mapError_eq_ok _).mp known) ((mapError_eq_ok _).mp called) ((mapError_eq_ok _).mp applied),
      rfl⟩
  | message id fallback refs =>
    obtain ⟨values, read, worked⟩ := exceptBind_eq_ok.mp worked
    obtain ⟨message, chosen, worked⟩ := exceptBind_eq_ok.mp worked
    obtain ⟨rendered?, rendered, worked⟩ := exceptBind_eq_ok.mp worked
    have prints := Prints.message read ((mapError_eq_ok _).mp chosen) ((mapError_eq_ok _).mp rendered)
    cases worked
    cases rendered? with
    | none | some shown =>
      cases printed
      exact ⟨prints, rfl⟩
  | call | delegateCall =>
    obtain ⟨started, rfl⟩ := effect_eq_enter (by simp [passes]) worked
    cases printed

end Instruction

end TemplateEngine
