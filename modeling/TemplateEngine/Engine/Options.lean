import TemplateEngine.Json.Reader
import TemplateEngine.Json.Writer
import TemplateEngine.Value.ContentKind

namespace TemplateEngine

/-- Settings of a render. An absent one leaves the setting alone, and in JSON null is the same as absent. -/
structure RenderOptions where
  kind : Option ContentKind
  packages : Option NameSet
  cssNames : Option (SortedMap String String)
  xidNames : Option (SortedMap String String)
deriving DecidableEq, Inhabited

/-- The fields of options, in the order of their places. -/
inductive OptionField
  | kind
  | packages
  | cssNames
  | xidNames
deriving DecidableEq, Inhabited

namespace OptionField

/-- All fields, in the order of their places. -/
def all : List OptionField := [kind, packages, cssNames, xidNames]

def name : OptionField → String
  | kind => "expectedContentKind"
  | packages => "activeDelegatePackages"
  | cssNames => "cssRenamingMap"
  | xidNames => "xidRenamingMap"

def ofName? (name : String) : Option OptionField := all.find? (fun field => field.name = name)

end OptionField

namespace RenderOptions

def absent : RenderOptions := ⟨none, none, none, none⟩

/-- The options as a JSON value; absent fields are left out. -/
def toJson (o : RenderOptions) : Json :=
  let names (names : SortedMap String String) : Json :=
    .object (OrderedMap.ofList (names.toList.map fun (key, value) => (key, .string value)))
  let fields : List (Option (OptionField × Json)) :=
    [o.kind.map fun kind => (.kind, .string kind.name),
     o.packages.map fun packages => (.packages, .array (packages.keys.map .string)),
     o.cssNames.map fun css => (.cssNames, names css),
     o.xidNames.map fun xid => (.xidNames, names xid)]
  .object (OrderedMap.ofList ((fields.filterMap id).map fun (field, value) => (field.name, value)))

def toText (o : RenderOptions) : String := o.toJson.write

/-- Absent for null, and what `read` makes of anything else. -/
def optional {J α : Type} (isNull : J → Bool) (read : J → Option α) (j : J) : Option (Option α) :=
  if isNull j then some none else (read j).map some

/-- Reads the value of a field into options, given the readers for the three forms of values. -/
def readField {J : Type} (isNull : J → Bool) (kind : J → Option ContentKind)
    (packages : J → Option NameSet) (names : J → Option (SortedMap String String))
    (o : RenderOptions) (field : OptionField) (j : J) : Option RenderOptions :=
  match field with
  | .kind => (optional isNull kind j).map fun kind => { o with kind := kind }
  | .packages => (optional isNull packages j).map fun packages => { o with packages := packages }
  | .cssNames => (optional isNull names j).map fun names => { o with cssNames := names }
  | .xidNames => (optional isNull names j).map fun names => { o with xidNames := names }

/-- Reads fields by their places; there may be fewer than there are fields, but not more. -/
def readPlaces {J : Type} (read : RenderOptions → OptionField → J → Option RenderOptions) :
    RenderOptions → List OptionField → List J → Option RenderOptions
  | o, _, [] => some o
  | _, [], _ :: _ => none
  | o, field :: fields, j :: rest => (read o field j).bind (fun o => readPlaces read o fields rest)

def isNullJson : Json → Bool
  | .null => true
  | _ => false

def stringOfJson? : Json → Option String
  | .string s => some s
  | _ => none

/-- A kind: its name, or an object that has null under the name and nothing else. -/
def kindOfJson? : Json → Option ContentKind
  | .string name => ContentKind.ofName? name
  | .object members =>
    match members.toList with
    | [(name, .null)] => ContentKind.ofName? name
    | _ => none
  | _ => none

def packagesOfJson? : Json → Option NameSet
  | .array items => (items.mapM stringOfJson?).map NameSet.ofNames
  | _ => none

def namesOfJson? : Json → Option (SortedMap String String)
  | .object members =>
    (members.toList.mapM fun member => (stringOfJson? member.2).map (fun s => (member.1, s))).map
      SortedMap.ofList
  | _ => none

def fieldOfJson? : RenderOptions → OptionField → Json → Option RenderOptions :=
  readField isNullJson kindOfJson? packagesOfJson? namesOfJson?

def ofJson? : Json → Option RenderOptions
  | .object members =>
    members.toList.foldlM
      (fun o member => (OptionField.ofName? member.1).elim (some o) (fieldOfJson? o · member.2)) absent
  | .array items => readPlaces fieldOfJson? absent OptionField.all items
  | _ => none

def isNullSyntax : JsonSyntax → Bool
  | .null => true
  | _ => false

def stringOfSyntax? : JsonSyntax → Option String
  | .string content => JsonChar.text? content
  | _ => none

/-- A kind: its name, or an object that has null under the name and nothing else. -/
def kindOfSyntax? : JsonSyntax → Option ContentKind
  | .string name => (JsonChar.text? name).bind ContentKind.ofName?
  | .object [(name, .null)] => (JsonChar.text? name).bind ContentKind.ofName?
  | _ => none

def packagesOfSyntax? : JsonSyntax → Option NameSet
  | .array items => (items.mapM stringOfSyntax?).map NameSet.ofNames
  | _ => none

/-- New names by old names; of two members with one name the later counts. -/
def namesOfSyntax? : JsonSyntax → Option (SortedMap String String)
  | .object members =>
    (members.mapM fun member =>
      (JsonChar.text? member.1).bind fun name => (stringOfSyntax? member.2).map (fun s => (name, s))).map
        SortedMap.ofList
  | _ => none

def fieldOfSyntax? : RenderOptions → OptionField → JsonSyntax → Option RenderOptions :=
  readField isNullSyntax kindOfSyntax? packagesOfSyntax? namesOfSyntax?

/-- Reads the members of an object; the names of all of them have to be texts, and `seen` are the fields
that may not come again. -/
def membersOfSyntax? (o : RenderOptions) (seen : List OptionField) :
    List (List JsonChar × JsonSyntax) → Option RenderOptions
  | [] => some o
  | (name, value) :: rest => do
    let name ← JsonChar.text? name
    match OptionField.ofName? name with
    | none => membersOfSyntax? o seen rest
    | some field =>
      if field ∈ seen then none
      else
        let o ← fieldOfSyntax? o field value
        membersOfSyntax? o (field :: seen) rest

def ofText? (text : String) : Option RenderOptions :=
  match JsonSyntax.parse? text with
  | some (.object members) => membersOfSyntax? absent [] members
  | some (.array items) => readPlaces fieldOfSyntax? absent OptionField.all items
  | _ => none

end RenderOptions

end TemplateEngine
