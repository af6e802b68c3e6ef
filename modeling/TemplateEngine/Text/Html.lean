namespace TemplateEngine.Text

def htmlEntity (c : Char) : List Char :=
  match c with
  | '&' => "&amp;".toList
  | '<' => "&lt;".toList
  | '>' => "&gt;".toList
  | '"' => "&quot;".toList
  | '\x27' => "&#39;".toList
  | _ => [c]

def escapeHtml (text : String) : String :=
  String.ofList (text.toList.flatMap htmlEntity)

/-- Escaping works character by character, so it may be done piecewise. -/
theorem escapeHtml_append (s t : String) : escapeHtml (s ++ t) = escapeHtml s ++ escapeHtml t := by
  simp [escapeHtml]

end TemplateEngine.Text
