import TemplateEngine.Text.Quoted

namespace TemplateEngine

/-- The declared classification of a text. Templates without one are not strict, which is written as
`none` wherever it matters. -/
inductive ContentKind
  | html
  | js
  | css
  | uri
  | trustedResourceUri
  | attributes
  | text
deriving DecidableEq, Inhabited

namespace ContentKind

/-- All kinds, in the order in which they are tried when one is parsed. -/
def all : List ContentKind := [html, js, css, uri, trustedResourceUri, attributes, text]

/-- The upper-case name, used in diagnostics and in options. -/
def name : ContentKind → String
  | html => "HTML"
  | js => "JS"
  | css => "CSS"
  | uri => "URI"
  | trustedResourceUri => "TRUSTED_RESOURCE_URI"
  | attributes => "ATTRIBUTES"
  | text => "TEXT"

def attributeValue : ContentKind → String
  | html => "html"
  | js => "js"
  | css => "css"
  | uri => "uri"
  | trustedResourceUri => "trusted_resource_uri"
  | attributes => "attributes"
  | text => "text"

/-- The name by which the kind is shown inside structured diagnostics. -/
def inspect : ContentKind → String
  | html => "Html"
  | js => "Js"
  | css => "Css"
  | uri => "Uri"
  | trustedResourceUri => "TrustedResourceUri"
  | attributes => "Attributes"
  | text => "Text"

def ofName? (s : String) : Option ContentKind := all.find? (fun kind => kind.name = s)

def parse? (s : String) : Option ContentKind :=
  all.find? (fun kind => kind.name = s || kind.attributeValue = s)

theorem ofName?_name (kind : ContentKind) : ofName? kind.name = some kind := by
  cases kind <;> rfl

end ContentKind

/-- Text that is known to be safe as content of a kind. -/
structure SanitizedContent where
  content : String
  kind : ContentKind
deriving DecidableEq, Inhabited

namespace SanitizedContent

def inspect (c : SanitizedContent) : String :=
  Text.shownStruct "SanitizedContent" [("content", Text.quoted c.content), ("kind", c.kind.inspect)] false

end SanitizedContent

end TemplateEngine
