import TemplateEngine.Data.SortedMap
import TemplateEngine.Value.ContentKind

namespace TemplateEngine

structure DelegateRole where
  name : String
  /-- Empty for the default implementation. -/
  package : String
  /-- Empty for an implementation without a variant. -/
  variant : String
deriving DecidableEq, Inhabited

structure TemplateMetadata where
  /-- The declared kind of its output; none for a template that is not strict. -/
  kind : Option ContentKind
  /-- The templates that it calls. -/
  callees : NameSet
  /-- The delegates that it calls. -/
  delegateCallees : NameSet
  /-- The injected values that it reads itself. -/
  injectedKeys : NameSet
  role : Option DelegateRole
deriving DecidableEq, Inhabited

namespace DelegateRole

def isDefault (role : DelegateRole) : Bool := role.package.isEmpty

def inspect (role : DelegateRole) : String :=
  Text.shownStruct "DelTemplateMetadata"
    [("name", Text.quoted role.name), ("package", Text.quoted role.package),
     ("variant", Text.quoted role.variant)] false

end DelegateRole

namespace NameSet

def inspect (s : NameSet) : String := Text.shownSet (s.keys.map Text.quoted)

end NameSet

namespace TemplateMetadata

def inspect (m : TemplateMetadata) : String :=
  Text.shownStruct "TemplateMetadata"
    [("content_kind", Text.shownOption ContentKind.inspect m.kind), ("callees", m.callees.inspect),
     ("del_callees", m.delegateCallees.inspect), ("injected_params", m.injectedKeys.inspect),
     ("deltemplate", Text.shownOption DelegateRole.inspect m.role)] false

end TemplateMetadata

end TemplateEngine
