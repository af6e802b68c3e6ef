import TemplateEngine.Data.SortedMap
import TemplateEngine.Message.Part

namespace TemplateEngine

abbrev MessageId := UInt64

structure Message where
  id : MessageId
  locale : Option String
  parts : List MessagePart

/-- The messages of one locale, one for each identity. -/
structure MessageBundle where
  locale : Option String
  messages : SortedMap MessageId Message

namespace Message

def hasChoice (m : Message) : Bool := m.parts.any MessagePart.isChoice

def withLocale (m : Message) (locale : String) : Message := { m with locale := some locale }

def same (m n : Message) : Bool :=
  m.id == n.id && m.locale == n.locale && MessagePart.sameParts m.parts n.parts

end Message

namespace MessageBundle

def empty : MessageBundle := ⟨none, SortedMap.empty⟩

instance : Inhabited MessageBundle := ⟨empty⟩

/-- A bundle of messages. A message without a locale takes that of the bundle, and of two messages with one
identity the later counts. -/
def ofMessages (locale : Option String) (messages : List Message) : MessageBundle :=
  ⟨locale, SortedMap.ofList (messages.map fun m => (m.id, { m with locale := m.locale.or locale }))⟩

def message? (bundle : MessageBundle) (id : MessageId) : Option Message := bundle.messages.get? id

/-- The bundle with all its messages under the rules of another locale. -/
def withLocale (bundle : MessageBundle) (locale : String) : MessageBundle :=
  ⟨some locale, bundle.messages.mapValues (fun m => m.withLocale locale)⟩

/-- The messages, in ascending order of their identities. -/
def toList (bundle : MessageBundle) : List Message := bundle.messages.values

def sameMessages : List Message → List Message → Bool
  | [], [] => true
  | m :: ms, n :: ns => m.same n && sameMessages ms ns
  | _, _ => false

def same (a b : MessageBundle) : Bool := a.locale == b.locale && sameMessages a.toList b.toList

end MessageBundle

end TemplateEngine
