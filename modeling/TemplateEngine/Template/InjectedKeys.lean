import TemplateEngine.Template.Registry

namespace TemplateEngine

/-- A template to be followed: one that is called by name, or a delegate implementation. -/
inductive CallTarget
  | named (name : String)
  | implementation (entry : TemplateEntry)

/-- The remembered answers, by template name. -/
abbrev KeyMemo := SortedMap String NameSet

namespace CallTarget

def resolve (registry : Registry) : CallTarget → Except ErrorKind TemplateEntry
  | .named name => registry.lookup name
  | .implementation entry => .ok entry

end CallTarget

namespace TemplateEntry

/-- The templates that a template may call, the basic calls first. -/
def targets (registry : Registry) (entry : TemplateEntry) : List CallTarget :=
  entry.metadata.callees.keys.map .named ++
    entry.metadata.delegateCallees.keys.flatMap
      (fun name => (registry.delegates.implementations name).map .implementation)

end TemplateEntry

namespace Registry

/-- Every template of the registry; a delegate implementation is listed under its delegate once more. -/
def entries (registry : Registry) : List TemplateEntry :=
  registry.templates.values ++ registry.delegates.groups.keys.flatMap registry.delegates.implementations

/-- The number of calls that all templates may make. No template is followed twice, so this many targets are
pending at most besides the first one. -/
def callCount (registry : Registry) : Nat :=
  (registry.entries.flatMap (·.targets registry)).length

/-- Follows pending targets depth first and collects the keys that are read; in a template with a remembered
answer the answer counts for all that lies behind it. -/
def followCalls (registry : Registry) (memo : KeyMemo) :
    (fuel : Nat) → List CallTarget → (visited keys : NameSet) → Except ErrorKind NameSet
  | 0, _, _, keys => .ok keys
  | _ + 1, [], _, keys => .ok keys
  | fuel + 1, target :: pending, visited, keys =>
    match target.resolve registry with
    | .error e => .error e
    | .ok entry =>
      if visited.contains entry.name then followCalls registry memo fuel pending visited keys
      else
        let seen := visited.add entry.name
        match memo.get? entry.name with
        | some known => followCalls registry memo fuel pending seen (keys.union known)
        | none =>
          followCalls registry memo fuel (entry.targets registry ++ pending) seen
            (keys.union entry.metadata.injectedKeys)

/-- The injected values that a template may read, itself or through the templates that it calls, and the answers
remembered afterwards. Every implementation of a delegate counts, since which one runs is known only in a render. A
called template that is not registered makes the question unanswerable. -/
def injectedKeys (registry : Registry) (memo : KeyMemo) (name : String) :
    Except ErrorKind NameSet × KeyMemo :=
  match registry.lookup name with
  | .error e => (.error e, memo)
  | .ok entry =>
    match memo.get? name with
    | some known => (.ok known, memo)
    | none =>
      match followCalls registry memo (registry.callCount + 2) [.implementation entry]
          SortedMap.empty SortedMap.empty with
      | .error e => (.error e, memo)
      | .ok keys => (.ok keys, memo.insert name keys)

end Registry

end TemplateEngine
