import TemplateEngine.Proofs.Room
import TemplateEngine.Proofs.Slots

namespace TemplateEngine

/-- The templates that a render of one of them may come to. -/
inductive RenderContext.Reaches (ctx : RenderContext) (root : TemplateEntry) : TemplateEntry → Prop
  | root : Reaches ctx root root
  | further {caller callee : TemplateEntry} {p : Program} {step : Step} (reaches : Reaches ctx root caller)
      (body : caller.body = .program p) (among : step ∈ p.steps) (calls : step.instruction.MayCall ctx callee) :
      Reaches ctx root callee

/-- All templates that a render may come to are programs, and their literals have a property. -/
def RenderContext.ReachesOnly (ctx : RenderContext) (q : Slot → Prop) (root : TemplateEntry) : Prop :=
  ∀ entry, ctx.Reaches root entry →
    ∃ p : Program, entry.body = .program p ∧ ∀ step ∈ p.steps, step.instruction.Literals q

/-- All templates that a render may come to are programs. -/
def RenderContext.ReachesPrograms (ctx : RenderContext) (root : TemplateEntry) : Prop :=
  ∀ entry, ctx.Reaches root entry → ∃ p : Program, entry.body = .program p

/-- A program among those that a render may come to, with slots that have a property. -/
structure Activation.Reached (ctx : RenderContext) (q : Slot → Prop) (root : TemplateEntry) (frame : Activation) :
    Prop where
  slots : frame.Slots q
  calls : ∀ step ∈ frame.todo, ∀ callee, step.instruction.MayCall ctx callee → ctx.Reaches root callee

def Parts.reached (ctx : RenderContext) (q : Slot → Prop) (root : TemplateEntry) : Parts :=
  ⟨Activation.Reached ctx q root, fun _ => True⟩

section Reached

variable {ctx : RenderContext} {σ : CellStore} {q : Slot → Prop} {root : TemplateEntry} {params injected : Record}

theorem RenderContext.Reaches.of_withRoom {room : Nat} {entry : TemplateEntry}
    (reaches : (ctx.withRoom room).Reaches root entry) : ctx.Reaches root entry := by
  induction reaches with
  | root => exact .root
  | further _ body among calls ih => exact ih.further body among calls.of_withRoom

theorem RenderContext.ReachesOnly.withRoom (only : ctx.ReachesOnly q root) (room : Nat) :
    (ctx.withRoom room).ReachesOnly q root :=
  fun entry reaches => only entry reaches.of_withRoom

theorem RenderContext.ReachesPrograms.withRoom (programs : ctx.ReachesPrograms root) (room : Nat) :
    (ctx.withRoom room).ReachesPrograms root :=
  fun entry reaches => programs entry reaches.of_withRoom

theorem RenderContext.Reaches.start_madeOf (only : ctx.ReachesOnly q root) {entry : TemplateEntry}
    (reaches : ctx.Reaches root entry) (params' : Record.Each q params) (injected' : Record.Each q injected) :
    (entry.start params injected).MadeOf (.reached ctx q root) := by
  obtain ⟨p, body, literals⟩ := only entry reaches
  simp only [TemplateEntry.start, body]
  exact .program ⟨⟨params', injected', literals⟩, fun step member callee calls => reaches.further body member calls⟩

theorem RenderContext.ReachesOnly.hereditary (null : q Slot.null) (only : ctx.ReachesOnly q root) :
    Hereditary ctx σ (.reached ctx q root) := by
  refine Hereditary.of_start ?_ ?_ fun _ _ _ => trivial
  · rintro frame first rest ⟨slots, calls⟩
    exact ⟨⟨slots.params, slots.injected, fun step member => slots.literals step (List.mem_cons_of_mem first member)⟩,
      fun step member => calls step (List.mem_cons_of_mem first member)⟩
  · rintro frame first rest entry data ⟨slots, calls⟩ called passed
    have handed := ((slots.literals first List.mem_cons_self).passes data passed).record null
      slots.params slots.injected
    exact (calls first List.mem_cons_self entry called).start_madeOf only handed slots.injected

/-- A property of the literals of all programs of an engine is one of those that a render comes to. -/
theorem RenderContext.Programs.reachesOnly (programs : ctx.Programs q) (offered : ctx.Offers root) :
    ctx.ReachesOnly q root := by
  intro entry reaches
  cases reaches with
  | root => exact programs root offered
  | further _ _ _ calls => exact programs entry calls.offers

/-- Nothing is asked of the slots. -/
theorem RenderContext.ReachesPrograms.reachesOnly (programs : ctx.ReachesPrograms root) :
    ctx.ReachesOnly (fun _ => True) root := by
  intro entry reaches
  obtain ⟨p, body⟩ := programs entry reaches
  have any (ref : ValueRef) : ref.Literal fun _ => True := by cases ref <;> trivial
  refine ⟨p, body, fun step _ => ⟨fun ref _ => any ref, fun data _ => ?_⟩⟩
  cases data with
  | params values => exact fun entry _ => any entry.2
  | all | none => trivial

theorem RenderContext.OnlyPrograms.reachesPrograms (programs : ctx.OnlyPrograms) {p : Program}
    (body : root.body = .program p) : ctx.ReachesPrograms root := by
  intro entry reaches
  cases reaches with
  | root => exact ⟨p, body⟩
  | further _ _ _ calls => exact programs entry calls.offers

end Reached

end TemplateEngine
