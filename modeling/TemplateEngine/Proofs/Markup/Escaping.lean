import TemplateEngine.Proofs.Errors.Moves

namespace TemplateEngine

namespace Text

def isMarkup (c : Char) : Bool := c == '<' || c == '>' || c == '"' || c == '\x27'

/-- The angle brackets and quotes of a text, in their order. -/
def markup (s : String) : List Char := s.toList.filter isMarkup

theorem markup_append (s t : String) : markup (s ++ t) = markup s ++ markup t := by
  rw [markup, String.toList_append, List.filter_append]
  rfl

/-- No entity has markup in it, and what is not written as an entity is none. -/
theorem not_isMarkup_of_mem_htmlEntity {c d : Char} (member : d ∈ htmlEntity c) : isMarkup d = false := by
  unfold htmlEntity at member
  split at member
  case h_6 =>
    obtain rfl := List.mem_singleton.mp member
    simp_all [isMarkup]
  all_goals
    have plain := List.all_eq_true.mp (by decide : List.all _ (fun d => !isMarkup d) = true) d member
    simpa using plain

theorem markup_escapeHtml (s : String) : markup (escapeHtml s) = [] := by
  rw [markup, escapeHtml, String.toList_ofList, List.filter_eq_nil_iff]
  intro d member
  obtain ⟨c, -, inside⟩ := List.mem_flatMap.mp member
  simp [not_isMarkup_of_mem_htmlEntity inside]

end Text

/-- The markup that a value is trusted with, as HTML. -/
def Value.trustedMarkup : Value → List Char
  | .sanitized ⟨text, .html⟩ => Text.markup text
  | _ => []

theorem Value.trustedMarkup_eq_nil {value : Value} (other : value.contentKind ≠ some .html) :
    value.trustedMarkup = [] := by
  unfold trustedMarkup
  split
  · exact absurd rfl other
  · rfl

/-- Escaping lets through the markup that a value is trusted with, and no other. -/
theorem PrintDirective.escapeHtml_markup {σ : CellStore} {value shown : Value}
    (applied : PrintDirective.escapeHtml.apply σ value [] = .ok shown) :
    Text.markup (σ.text shown) = value.trustedMarkup := by
  simp only [escapeHtml] at applied
  split at applied
  next html =>
    cases applied
    cases value with
    | sanitized content =>
      obtain ⟨text, kind⟩ := content
      obtain rfl : kind = .html := Option.some.inj html
      rfl
    | null | bool | integer | float | string | list | record => cases html
  next other =>
    cases applied
    rw [Value.trustedMarkup_eq_nil other]
    exact Text.markup_escapeHtml _

/-- What is written behind the directive comes out with its markup as content of kind HTML, else without any. -/
theorem Escaped.output_markup {σ : CellStore} {kind : Option ContentKind} {text : String} {value : Value}
    (passes : output σ [.escapeHtml] kind text = .ok value) :
    Text.markup (σ.text value) = if kind = some .html then Text.markup text else [] := by
  have applied : PrintDirective.escapeHtml.apply σ
      (kind.elim (.string text) fun kind => .sanitized ⟨text, kind⟩) [] = .ok value := by
    simpa [output, PrintDirective.applyAll] using passes
  rw [PrintDirective.escapeHtml_markup applied]
  rcases kind with _ | (_ | _ | _ | _ | _ | _) <;> rfl

end TemplateEngine
