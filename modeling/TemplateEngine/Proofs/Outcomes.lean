import Mathlib.Data.List.Forall2

namespace TemplateEngine

/-- Results that fail for the same reason, or are values that are related. -/
inductive SameOutcome {ε α α' : Type} (r : α → α' → Prop) : Except ε α → Except ε α' → Prop
  | error (e : ε) : SameOutcome r (.error e) (.error e)
  | ok {a a'} (related : r a a') : SameOutcome r (.ok a) (.ok a')

variable {ε ε' α α' β β' : Type} {r : α → α' → Prop} {q : β → β' → Prop} {x : Except ε α} {x' : Except ε α'}

theorem SameOutcome.mapError (same : SameOutcome r x x') (f : ε → ε') :
    SameOutcome r (x.mapError f) (x'.mapError f) := by
  cases same with
  | error e => exact .error (f e)
  | ok related => exact .ok related

theorem SameOutcome.bind (same : SameOutcome r x x') {f : α → Except ε β} {f' : α' → Except ε β'}
    (later : ∀ a a', r a a' → SameOutcome q (f a) (f' a')) : SameOutcome q (x >>= f) (x' >>= f') := by
  cases same with
  | error e => exact .error e
  | ok related => exact later _ _ related

theorem SameOutcome.map (same : SameOutcome r x x') {f : α → β} {f' : α' → β'}
    (later : ∀ a a', r a a' → q (f a) (f' a')) : SameOutcome q (x.map f) (x'.map f') := by
  cases same with
  | error e => exact .error e
  | ok related => exact .ok (later _ _ related)

theorem SameOutcome.refl (x : Except ε α) : SameOutcome Eq x x := by
  cases x with
  | error e => exact .error e
  | ok a => exact .ok rfl

theorem SameOutcome.toOption_map (same : SameOutcome r x x') {f : α → β} {f' : α' → β}
    (alike : ∀ a a', r a a' → f' a' = f a) : x'.toOption.map f' = x.toOption.map f := by
  cases same with
  | error e => rfl
  | ok related => exact congrArg some (alike _ _ related)

theorem SameOutcome.mapM {xs : List α} {xs' : List α'} (each : List.Forall₂ r xs xs') {f : α → Except ε β}
    {f' : α' → Except ε β'} (later : ∀ a a', r a a' → SameOutcome q (f a) (f' a')) :
    SameOutcome (List.Forall₂ q) (xs.mapM f) (xs'.mapM f') := by
  induction each with
  | nil => exact .ok .nil
  | cons first _ ih =>
    rw [List.mapM_cons, List.mapM_cons]
    exact (later _ _ first).bind fun b b' head => ih.bind fun bs bs' rest => .ok (.cons head rest)

end TemplateEngine
