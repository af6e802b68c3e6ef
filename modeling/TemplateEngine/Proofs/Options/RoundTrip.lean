import Mathlib.Data.List.Nodup
import TemplateEngine.Engine.Options
import TemplateEngine.Proofs.Options.JsonTexts

namespace TemplateEngine

namespace OrderedMap

variable {α : Type}

theorem toList_insert {m : OrderedMap α} {name : String} (fresh : name ∉ m.names) (value : α) :
    (m.insert name value).toList = m.toList ++ [(name, value)] := by
  have new : name ∉ m.newestNames := fun old => fresh (List.mem_reverse.mpr old)
  rw [insert, dif_pos new, toList, Fields.newestFirst, List.reverse_cons, toList]

theorem toList_ofList {pairs : List (String × α)} (distinct : (pairs.map Prod.fst).Nodup) :
    (ofList pairs).toList = pairs := by
  have folded (pairs : List (String × α)) (m : OrderedMap α) (distinct : (m.names ++ pairs.map Prod.fst).Nodup) :
      (pairs.foldl (fun m pair => m.insert pair.1 pair.2) m).toList = m.toList ++ pairs := by
    induction pairs generalizing m with
    | nil => simp
    | cons pair rest ih =>
      have fresh : pair.1 ∉ m.names := fun old =>
        (List.nodup_append.mp distinct).2.2 _ old _ List.mem_cons_self rfl
      have names : (m.insert pair.1 pair.2).names = m.names ++ [pair.1] := by rw [names_insert, if_neg fresh]
      rw [List.foldl_cons, ih, toList_insert fresh, List.append_assoc, List.singleton_append]
      rwa [names, List.append_assoc, List.singleton_append]
  exact folded pairs empty distinct

end OrderedMap

namespace SortedMap

variable {κ α : Type} [Ord κ] [Std.TransOrd κ] [Std.LawfulEqOrd κ]

omit [Std.TransOrd κ] in
theorem nodup_keys (m : SortedMap κ α) : m.keys.Nodup := by
  rw [keys, List.nodup_iff_pairwise_ne, List.pairwise_map]
  refine m.sorted.imp fun {a b} below same => ?_
  have itself : compare b.1 b.1 = .eq := Std.ReflCmp.compare_self
  rw [same, itself] at below
  cases below

theorem ofList_toList (m : SortedMap κ α) : ofList m.toList = m := by
  have folded (pairs : List (κ × α)) (m : SortedMap κ α) (distinct : (pairs.map Prod.fst).Nodup) (key : κ) :
      (pairs.foldl (fun m pair => m.insert pair.1 pair.2) m).get? key = (lookupKey key pairs).or (m.get? key) := by
    induction pairs generalizing m with
    | nil => rfl
    | cons pair rest ih =>
      obtain ⟨first, others⟩ := List.nodup_cons.mp distinct
      rw [List.foldl_cons, ih _ others, get?_insert, lookupKey]
      split
      next same =>
        obtain rfl := Std.LawfulEqCmp.eq_of_compare same
        have absent : lookupKey pair.1 rest = none := Option.eq_none_iff_forall_ne_some.mpr fun value found =>
          first (List.mem_map.mpr ⟨(pair.1, value), mem_of_lookupKey found, rfl⟩)
        rw [absent, Option.none_or, Option.some_or]
      next => rfl
  refine eq_of_get? fun key => ?_
  rw [ofList, folded m.toList empty m.nodup_keys]
  exact Option.or_none

end SortedMap

theorem NameSet.ofNames_keys (s : NameSet) : ofNames s.keys = s :=
  ext fun _ => contains_ofNames.trans SortedMap.contains_iff.symm

namespace RenderOptions

/-- What a present field of options sets. -/
inductive Setting
  | kind (kind : ContentKind)
  | packages (packages : NameSet)
  | cssNames (names : SortedMap String String)
  | xidNames (names : SortedMap String String)

def namesJson (names : SortedMap String String) : Json :=
  .object (OrderedMap.ofList (names.toList.map fun entry => (entry.1, .string entry.2)))

def namesTree (names : SortedMap String String) : JsonSyntax :=
  .object (names.toList.map fun entry => (JsonChar.ofText entry.1, .string (JsonChar.ofText entry.2)))

namespace Setting

def field : Setting → OptionField
  | kind _ => .kind
  | packages _ => .packages
  | cssNames _ => .cssNames
  | xidNames _ => .xidNames

def json : Setting → Json
  | kind k => .string k.name
  | packages p => .array (p.keys.map .string)
  | cssNames names => namesJson names
  | xidNames names => namesJson names

/-- The setting as it is taken apart from a written text. -/
def tree : Setting → JsonSyntax
  | kind k => .string (JsonChar.ofText k.name)
  | packages p => .array (p.keys.map fun name => .string (JsonChar.ofText name))
  | cssNames names => namesTree names
  | xidNames names => namesTree names

def apply (o : RenderOptions) : Setting → RenderOptions
  | kind k => { o with kind := some k }
  | packages p => { o with packages := some p }
  | cssNames names => { o with cssNames := some names }
  | xidNames names => { o with xidNames := some names }

/-- The member of an object that the setting is written as. -/
def member (s : Setting) : String × Json := (s.field.name, s.json)

end Setting

/-- The settings of options, in the order of the places of their fields. -/
def settings (o : RenderOptions) : List Setting :=
  [o.kind.map .kind, o.packages.map .packages, o.cssNames.map .cssNames, o.xidNames.map .xidNames].filterMap id

theorem toJson_eq (o : RenderOptions) : o.toJson = .object (OrderedMap.ofList (o.settings.map Setting.member)) := by
  obtain ⟨kind, packages, css, xid⟩ := o
  cases kind <;> cases packages <;> cases css <;> cases xid <;> rfl

theorem foldl_settings (o : RenderOptions) : o.settings.foldl Setting.apply absent = o := by
  obtain ⟨kind, packages, css, xid⟩ := o
  cases kind <;> cases packages <;> cases css <;> cases xid <;> rfl

/-- No field is set twice. -/
theorem nodup_settings (o : RenderOptions) : (o.settings.map Setting.field).Nodup := by
  obtain ⟨kind, packages, css, xid⟩ := o
  cases kind <;> cases packages <;> cases css <;> cases xid <;> exact of_decide_eq_true rfl

/-- What is written item by item is read item by item. -/
theorem mapM_map_some {α β : Type} (write : α → β) (read : β → Option α) (each : ∀ a, read (write a) = some a)
    (items : List α) : (items.map write).mapM read = some items := by
  induction items with
  | nil => rfl
  | cons a rest ih => rw [List.map_cons, List.mapM_cons, each, ih]; rfl

theorem toList_namesJson (names : SortedMap String String) :
    (OrderedMap.ofList (names.toList.map fun entry => (entry.1, Json.string entry.2))).toList =
      names.toList.map fun entry => (entry.1, .string entry.2) := by
  refine OrderedMap.toList_ofList ?_
  rw [List.map_map]
  exact names.nodup_keys

theorem namesOfJson?_namesJson (names : SortedMap String String) : namesOfJson? (namesJson names) = some names := by
  have read := mapM_map_some (fun entry : String × String => (entry.1, Json.string entry.2))
    (fun member => (stringOfJson? member.2).map fun s => (member.1, s)) (fun _ => rfl) names.toList
  rw [namesJson, namesOfJson?, toList_namesJson, read, Option.map_some, SortedMap.ofList_toList]

theorem packagesOfJson?_keys (packages : NameSet) :
    packagesOfJson? (.array (packages.keys.map .string)) = some packages := by
  have read := mapM_map_some Json.string stringOfJson? (fun _ => rfl) packages.keys
  rw [packagesOfJson?, read, Option.map_some, NameSet.ofNames_keys]

theorem namesOfSyntax?_namesTree (names : SortedMap String String) :
    namesOfSyntax? (namesTree names) = some names := by
  rw [namesTree, namesOfSyntax?, mapM_map_some, Option.map_some, SortedMap.ofList_toList]
  intro entry
  rw [stringOfSyntax?, JsonChar.text?_ofText, JsonChar.text?_ofText]
  rfl

theorem packagesOfSyntax?_keys (packages : NameSet) :
    packagesOfSyntax? (.array (packages.keys.map fun name => .string (JsonChar.ofText name))) = some packages := by
  have read := mapM_map_some (fun name => JsonSyntax.string (JsonChar.ofText name)) stringOfSyntax?
    JsonChar.text?_ofText packages.keys
  rw [packagesOfSyntax?, read, Option.map_some, NameSet.ofNames_keys]

/-- A setting is read back wherever the readers for the three forms of values read its value back. -/
theorem readField_setting {J : Type} {isNull : J → Bool} {kind : J → Option ContentKind}
    {packages : J → Option NameSet} {names : J → Option (SortedMap String String)} {value : Setting → J}
    (given : ∀ s, isNull (value s) = false) (readKind : ∀ k, kind (value (.kind k)) = some k)
    (readPackages : ∀ p, packages (value (.packages p)) = some p)
    (readCss : ∀ m, names (value (.cssNames m)) = some m) (readXid : ∀ m, names (value (.xidNames m)) = some m)
    (o : RenderOptions) (s : Setting) :
    readField isNull kind packages names o s.field (value s) = some (s.apply o) := by
  cases s with
  | kind k => simp [readField, Setting.field, optional, given, readKind, Setting.apply]
  | packages p => simp [readField, Setting.field, optional, given, readPackages, Setting.apply]
  | cssNames m => simp [readField, Setting.field, optional, given, readCss, Setting.apply]
  | xidNames m => simp [readField, Setting.field, optional, given, readXid, Setting.apply]

theorem fieldOfJson?_setting (o : RenderOptions) (s : Setting) : fieldOfJson? o s.field s.json = some (s.apply o) :=
  readField_setting (fun s => by cases s <;> rfl) ContentKind.ofName?_name packagesOfJson?_keys
    namesOfJson?_namesJson namesOfJson?_namesJson o s

theorem fieldOfSyntax?_setting (o : RenderOptions) (s : Setting) :
    fieldOfSyntax? o s.field s.tree = some (s.apply o) := by
  have readKind (k : ContentKind) : kindOfSyntax? (Setting.kind k).tree = some k := by
    rw [Setting.tree, kindOfSyntax?, JsonChar.text?_ofText, Option.bind_some, ContentKind.ofName?_name]
  exact readField_setting (fun s => by cases s <;> rfl) readKind packagesOfSyntax?_keys namesOfSyntax?_namesTree
    namesOfSyntax?_namesTree o s

theorem writtenAs_setting (s : Setting) : s.tree.WrittenAs s.json.write.toList := by
  have names (names : SortedMap String String) : (namesTree names).WrittenAs (namesJson names).write.toList :=
    JsonSyntax.writtenAs_write_object (toList_namesJson names) fun entry _ => JsonSyntax.writtenAs_string entry.2
  cases s with
  | kind k => exact JsonSyntax.writtenAs_string k.name
  | packages p => exact JsonSyntax.writtenAs_write_array fun name _ => JsonSyntax.writtenAs_string name
  | cssNames m => exact names m
  | xidNames m => exact names m

theorem ofName?_name (field : OptionField) : OptionField.ofName? field.name = some field := by
  cases field <;> rfl

/-- Settings of distinct fields are made in any order. -/
theorem foldl_perm {o : RenderOptions} {ss : List Setting} (perm : ss.Perm o.settings) :
    ss.foldl Setting.apply absent = o := by
  refine (List.Perm.foldl_eq' perm (fun s listed t listed' o' => ?_) absent).trans o.foldl_settings
  have apart : s.field = t.field → s = t :=
    List.inj_on_of_nodup_map o.nodup_settings (perm.subset listed) (perm.subset listed')
  cases s <;> cases t <;> first | rfl | rw [apart rfl]

theorem foldlM_settings (ss : List Setting) (o : RenderOptions) :
    (ss.map Setting.member).foldlM
      (fun o member => (OptionField.ofName? member.1).elim (some o) (fieldOfJson? o · member.2)) o =
      some (ss.foldl Setting.apply o) := by
  induction ss generalizing o with
  | nil => rfl
  | cons s rest ih =>
    rw [List.map_cons, List.foldlM_cons, Setting.member, ofName?_name, Option.elim_some, fieldOfJson?_setting,
      List.foldl_cons, ← ih]
    rfl

theorem membersOfSyntax?_settings {ss : List Setting} (distinct : (ss.map Setting.field).Nodup)
    {seen : List OptionField} (unseen : ∀ s ∈ ss, s.field ∉ seen) (o : RenderOptions) :
    membersOfSyntax? o seen (ss.map fun s => (JsonChar.ofText s.field.name, s.tree)) =
      some (ss.foldl Setting.apply o) := by
  induction ss generalizing o seen with
  | nil => rfl
  | cons s rest ih =>
    obtain ⟨first, others⟩ := List.nodup_cons.mp distinct
    have later : ∀ t ∈ rest, t.field ∉ s.field :: seen := fun t listed old =>
      (List.mem_cons.mp old).elim (fun same => first (same ▸ List.mem_map_of_mem listed))
        (unseen t (List.mem_cons_of_mem s listed))
    simp only [List.map_cons, membersOfSyntax?, JsonChar.text?_ofText, ofName?_name, Option.bind_some,
      unseen s List.mem_cons_self, if_false, fieldOfSyntax?_setting, ih others later, List.foldl_cons, bind]

/-- A permutation of images is the image of a permutation. -/
theorem exists_map_of_perm {α β : Type} {f : α → β} {l : List β} {xs : List α} (perm : l.Perm (xs.map f)) :
    ∃ ys : List α, ys.Perm xs ∧ l = ys.map f := by
  generalize images : xs.map f = m at perm
  induction perm generalizing xs with
  | nil => exact ⟨[], by rw [List.map_eq_nil_iff.mp images], rfl⟩
  | cons b perm ih =>
    obtain ⟨a, rest, rfl, rfl, others⟩ := List.map_eq_cons_iff.mp images
    obtain ⟨ys, perm', rfl⟩ := ih others
    exact ⟨a :: ys, perm'.cons a, rfl⟩
  | swap b c l =>
    obtain ⟨a, rest, rfl, rfl, others⟩ := List.map_eq_cons_iff.mp images
    obtain ⟨a', rest', rfl, rfl, rfl⟩ := List.map_eq_cons_iff.mp others
    exact ⟨a' :: a :: rest', .swap a a' rest', rfl⟩
  | trans first second ih ih' =>
    obtain ⟨ys, perm, same⟩ := ih' images
    obtain ⟨zs, perm', rfl⟩ := ih same.symm
    exact ⟨zs, perm'.trans perm, rfl⟩

theorem ofJson?_members {o : RenderOptions} {members : OrderedMap Json} {ss : List Setting} (perm : ss.Perm o.settings)
    (listed : members.toList = ss.map Setting.member) : ofJson? (.object members) = some o := by
  rw [ofJson?, listed, foldlM_settings, foldl_perm perm]

theorem ofText?_members {o : RenderOptions} {members : OrderedMap Json} {ss : List Setting} (perm : ss.Perm o.settings)
    (listed : members.toList = ss.map Setting.member) : ofText? (Json.object members).write = some o := by
  have written := JsonSyntax.writtenAs_write_object listed fun s _ => writtenAs_setting s
  have distinct : (ss.map Setting.field).Nodup := (perm.map Setting.field).nodup_iff.mpr o.nodup_settings
  rw [ofText?, JsonSyntax.parse?_of_writtenAs written]
  have read : membersOfSyntax? absent [] _ = _ :=
    membersOfSyntax?_settings distinct (fun _ _ => List.not_mem_nil) absent
  rwa [foldl_perm perm] at read

/-- The written form of options has a member for each of their settings. -/
theorem exists_members (o : RenderOptions) : ∃ members, o.toJson = .object members ∧
    members.toList = o.settings.map Setting.member := by
  refine ⟨_, o.toJson_eq, OrderedMap.toList_ofList ?_⟩
  have names : ((o.settings.map Setting.field).map OptionField.name).Nodup :=
    o.nodup_settings.map fun f g same => Option.some.inj (by rw [← ofName?_name f, ← ofName?_name g, same])
  rwa [List.map_map] at names ⊢

/-- Options are read back from their members in whatever order, as a value and as a text. -/
theorem read_members (o : RenderOptions) : ∃ fields, o.toJson = .object fields ∧
    ∀ members : OrderedMap Json, members.toList.Perm fields.toList →
      ofJson? (.object members) = some o ∧ ofText? (Json.object members).write = some o := by
  obtain ⟨fields, written, listed⟩ := o.exists_members
  refine ⟨fields, written, fun members perm => ?_⟩
  rw [listed] at perm
  obtain ⟨ss, perm', listed'⟩ := exists_map_of_perm perm
  exact ⟨ofJson?_members perm' listed', ofText?_members perm' listed'⟩

end RenderOptions

end TemplateEngine
