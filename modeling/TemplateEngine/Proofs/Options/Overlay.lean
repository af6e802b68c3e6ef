import TemplateEngine.Engine.Basic
import TemplateEngine.Proofs.Completion
import TemplateEngine.Proofs.Delegates.Ambiguity
import TemplateEngine.Proofs.Options.RoundTrip

namespace TemplateEngine

namespace DelegateView

variable {α : Type}

/-- The implementation of a delegate that belongs to no package, in the variant or else without one. -/
def default? (table : DelegateTable α) (name variant : String) : Option α :=
  ((table.group? name variant).bind DelegateGroup.default).or
    (if variant.isEmpty then none else (table.group? name "").bind DelegateGroup.default)

/-- Without active packages a table is never ambiguous. -/
theorem exists_bind_empty (table : DelegateTable α) : ∃ view, bind table SortedMap.empty = .ok view := by
  refine exists_bind_iff.mpr (DelegateTable.conflict?_eq_none_iff.mpr fun name variant => ?_)
  have inactive (packages : List (String × α)) :
      packages.filter (fun entry => SortedMap.contains (SortedMap.empty : NameSet) entry.1) = [] :=
    List.filter_eq_nil_iff.mpr fun _ _ active => by cases active
  rw [DelegateTable.rivals, DelegateGroup.activePackages, inactive]
  exact Nat.not_lt_zero 1

/-- Without active packages all calls go to defaults. -/
theorem select?_of_empty {view : DelegateView α} (none : view.active = SortedMap.empty) (name variant : String) :
    view.select? name variant = default? view.table name variant := by
  have inactive (group : DelegateGroup α) : group.active? view.active = .none := by
    have nowhere : group.packages.find? (fun entry => view.active.contains entry.1) = .none :=
      List.find?_eq_none.mpr fun _ _ active => by rw [none] at active; cases active
    rw [DelegateGroup.active?, nowhere, Option.map_none]
  have inactive' (group : Option (DelegateGroup α)) : (group.bind fun g => g.active? view.active) = .none := by
    cases group with
    | none => rfl
    | some group => exact inactive group
  simp only [select?, default?, inactive', Option.none_or]
  split <;> rfl

end DelegateView

namespace RenderOptions

/-- The last value of a field that is present. -/
def last? {α : Type} (field : RenderOptions → Option α) (os : List RenderOptions) : Option α :=
  (os.filterMap field).getLast?

/-- Options applied one after the other, as one: each field is taken from the last of them in which it is present. -/
def overlay (os : List RenderOptions) : RenderOptions where
  kind := last? kind os
  packages := last? packages os
  cssNames := last? cssNames os
  xidNames := last? xidNames os

theorem last?_cons {α : Type} (field : RenderOptions → Option α) (o : RenderOptions) (os : List RenderOptions) :
    last? field (o :: os) = (last? field os).or (field o) := by
  rw [last?, last?]
  cases present : field o with
  | none => rw [List.filterMap_cons_none present, Option.or_none]
  | some value => rw [List.filterMap_cons_some present, List.getLast?_cons]; cases (os.filterMap field).getLast? <;> rfl

end RenderOptions

namespace RenderOptions

/-- Options are read back from what is written for them, as a text and as a value, with their members in any order. -/
structure ReadBack (o : RenderOptions) : Prop where
  text : ofText? o.toText = some o
  value : ofJson? o.toJson = some o
  members : ∃ fields, o.toJson = .object fields ∧ ∀ members : OrderedMap Json, members.toList.Perm fields.toList →
    ofJson? (.object members) = some o ∧ ofText? (Json.object members).write = some o

theorem readBack (o : RenderOptions) : o.ReadBack := by
  obtain ⟨fields, written, read⟩ := o.read_members
  have both := read fields (.refl _)
  refine ⟨?_, ?_, fields, written, read⟩
  · rw [toText, written]
    exact both.2
  · rw [written]
    exact both.1

end RenderOptions

namespace Renderer

open RenderOptions (last? overlay)

/-- What a render is prepared from if options have been applied to a renderer: each setting is the last that is
present, or else the one of the renderer, and nothing else has changed. -/
structure PreparedWith (r : Renderer) (os : List RenderOptions) (p : PreparedRender) : Prop where
  kind : p.kind = (last? RenderOptions.kind os).getD r.kind
  kindRequested : p.kindRequested = ((last? RenderOptions.kind os).isSome || r.kindRequested)
  packages : p.context.packages = (last? RenderOptions.packages os).getD r.packages
  cssNames : p.context.cssNames = (last? RenderOptions.cssNames os).or r.cssNames
  xidNames : p.context.xidNames = (last? RenderOptions.xidNames os).or r.xidNames
  template : p.entry = r.entry ∧ p.data = r.data ∧ p.injected = r.injected
  templates : p.context.registry = r.engine.registry ∧ p.context.delegates.table = r.engine.registry.delegates
  plugins : p.context.functions = r.engine.functions ∧ p.context.directives = r.engine.directives ∧
    p.context.converter = r.engine.converter
  bundles : p.context.bundle = r.bundle ∧ p.context.defaultBundle = r.engine.defaultBundle

/-- Options that are applied one after the other, as one. -/
structure Overlaid (r : Renderer) (os : List RenderOptions) : Prop where
  prepare : (os.foldl withOptions r).prepare = (r.withOptions (overlay os)).prepare
  settings : ∀ p, (os.foldl withOptions r).prepare = .ok p → r.PreparedWith os p
  /-- If the last package list that is present is empty then no package is active. -/
  cleared : last? RenderOptions.packages os = some SortedMap.empty → ∃ p, (os.foldl withOptions r).prepare = .ok p ∧
    p.context.packages = SortedMap.empty ∧ ∀ name variant,
      p.context.delegates.select? name variant = DelegateView.default? r.engine.registry.delegates name variant

/-- Options that are applied one after the other do what one does that has the last value of every field. -/
theorem foldl_withOptions (r : Renderer) (os : List RenderOptions) :
    os.foldl withOptions r = r.withOptions (overlay os) := by
  induction os generalizing r with
  | nil => rfl
  | cons o os ih =>
    rw [List.foldl_cons, ih]
    simp only [withOptions, overlay, RenderOptions.last?_cons]
    cases last? RenderOptions.kind os <;> cases last? RenderOptions.packages os <;>
      simp [Option.or_assoc]

/-- A renderer is prepared unless its packages are in conflict, and then with what is configured. -/
theorem prepare_eq (r : Renderer) :
    r.prepare = (DelegateView.bind r.engine.registry.delegates r.packages).map fun view =>
      ⟨r.entry, r.data, r.injected,
        ⟨r.engine.registry, view, r.engine.functions, r.engine.directives, r.engine.converter, r.cssNames, r.xidNames,
          r.bundle, r.engine.defaultBundle, standardCallDepth⟩, r.kind, r.kindRequested⟩ := by
  rw [prepare, ContextConfig.build, contextConfig]
  cases DelegateView.bind r.engine.registry.delegates r.packages <;> rfl

theorem preparedWith {r : Renderer} {os : List RenderOptions} {p : PreparedRender}
    (prepared : (r.withOptions (overlay os)).prepare = .ok p) : r.PreparedWith os p := by
  rw [prepare_eq] at prepared
  obtain ⟨view, bound, rfl⟩ := exceptMap_eq_ok.mp prepared
  obtain ⟨table, active, -⟩ := DelegateView.bind_eq_ok bound
  exact ⟨rfl, rfl, active, rfl, rfl, ⟨rfl, rfl, rfl⟩, ⟨rfl, table⟩, ⟨rfl, rfl, rfl⟩, ⟨rfl, rfl⟩⟩

theorem overlaid (r : Renderer) (os : List RenderOptions) : r.Overlaid os := by
  have same := r.foldl_withOptions os
  refine ⟨by rw [same], fun p prepared => preparedWith (same ▸ prepared), fun cleared => ?_⟩
  obtain ⟨view, bound⟩ := DelegateView.exists_bind_empty r.engine.registry.delegates
  obtain ⟨table, active, -⟩ := DelegateView.bind_eq_ok bound
  have packages : (r.withOptions (overlay os)).packages = SortedMap.empty := by
    rw [withOptions, overlay, cleared]
    rfl
  have bound' : DelegateView.bind (r.withOptions (overlay os)).engine.registry.delegates SortedMap.empty = .ok view :=
    bound
  rw [same, prepare_eq, packages, bound']
  exact ⟨_, rfl, active, fun name variant => by rw [DelegateView.select?_of_empty active, table]⟩

/-- Options are read back from what is written for them, whatever strings they hold and whichever of their fields are
present. A renderer to which options are applied one after the other is prepared as if one had been applied, which has
every field from the last of them in which it is present. -/
theorem options_read_back_and_overlay (o : RenderOptions) (r : Renderer) (os : List RenderOptions) :
    o.ReadBack ∧ r.Overlaid os :=
  ⟨o.readBack, r.overlaid os⟩

/-- A page footer, and another one for times of a sale. -/
def footerEntries : List TemplateEntry :=
  [⟨"plainFooter", { (default : TemplateMetadata) with role := some ⟨"footer", "", ""⟩ }, .chunks ["imprint"]⟩,
    ⟨"saleFooter", { (default : TemplateMetadata) with role := some ⟨"footer", "sale", ""⟩ }, .chunks ["banner"]⟩]

/-- A renderer with a package is given another kind, then an empty package list, and then options without either: the
package is not active any more and the kind is the one that was asked for. The options with the list are read back from
a text that has their members the other way round. -/
theorem options_read_back_and_overlay_footer :
    let registry := (Registry.build footerEntries).toOption.getD Registry.empty
    let r : Renderer :=
      ⟨⟨registry, SortedMap.empty, DirectiveTable.builtin, .json, .empty⟩, ⟨"page", default, .empty⟩, .empty, .empty,
        NameSet.ofNames ["sale"], .empty, none, none, .html, false⟩
    let o : RenderOptions := ⟨none, some SortedMap.empty, some (SortedMap.ofList [("a\"b", "\n")]), none⟩
    let os := [⟨some .text, none, none, none⟩, o, RenderOptions.absent]
    let footer (p : PreparedRender) := (p.context.delegates.select? "footer" "").map TemplateEntry.name
    let text := "\x7b\"cssRenamingMap\":\x7b\"a\\\"b\":\"\\n\"\x7d,\"activeDelegatePackages\":[]\x7d"
    RenderOptions.ofText? text = some o ∧
      r.prepare.toOption.map footer = some (some "saleFooter") ∧
      ∃ p, (os.foldl Renderer.withOptions r).prepare = .ok p ∧ p.kind = .text ∧ p.kindRequested = true ∧
        footer p = some "plainFooter" := by
  intro registry r o os footer text
  obtain ⟨read, overlaid⟩ := options_read_back_and_overlay o r os
  obtain ⟨fields, written, read⟩ := read.members
  let packages : String × Json := ("activeDelegatePackages", .array [])
  let names : String × Json := ("cssRenamingMap", .object (OrderedMap.ofList [("a\"b", .string "\n")]))
  have listed : fields.toList = [packages, names] := by cases written; rfl
  let members := OrderedMap.ofList [names, packages]
  have writes : (Json.object members).write = text := by decide +kernel
  have swapped : members.toList.Perm fields.toList := listed ▸ .swap packages names []
  obtain ⟨p, prepared, -, defaults⟩ := overlaid.cleared (by decide +kernel)
  have settings := overlaid.settings p prepared
  exact ⟨writes ▸ (read members swapped).2, by decide +kernel, p, prepared, settings.kind, settings.kindRequested,
    (congrArg (Option.map TemplateEntry.name) (defaults "footer" "")).trans (by decide +kernel)⟩

end Renderer

end TemplateEngine
