import Mathlib.Logic.Relation
import TemplateEngine.Proofs.Messages.WellFormed

namespace TemplateEngine

namespace Placeholders

/-- Two maps have the same values for some names; a name without a value in one of them has none in the other. -/
def Agrees (values values' : Placeholders) (names : List String) : Prop :=
  ∀ name ∈ names, values'.get? name = values.get? name

variable {values values' : Placeholders} {name : String}

theorem agrees_append {names others : List String} :
    values.Agrees values' (names ++ others) ↔ values.Agrees values' names ∧ values.Agrees values' others :=
  List.forall_mem_append

theorem agrees_cons {names : List String} :
    values.Agrees values' (name :: names) ↔ values'.get? name = values.get? name ∧ values.Agrees values' names :=
  List.forall_mem_cons

/-- Maps that differ in one name only agree on all names without it. -/
theorem agrees_of_notMem {names : List String}
    (elsewhere : ∀ other, other ≠ name → values'.get? other = values.get? other) (notMem : name ∉ names) :
    values.Agrees values' names := by
  intro other among
  exact elsewhere other fun same => notMem (same ▸ among)

theorem placeholder_congr (same : values'.get? name = values.get? name) :
    values'.placeholder name = values.placeholder name := by
  rw [placeholder, placeholder, same]

theorem selector_congr (same : values'.get? name = values.get? name) :
    values'.selector name = values.selector name := by
  rw [selector, selector, same]

theorem count_congr (same : values'.get? name = values.get? name) : values'.count name = values.count name := by
  rw [count, count, same]

end Placeholders

/-- A value for this name is missing. -/
def MessageError.Lacks (name : String) : MessageError → Prop
  | .missingPlaceholder missing | .missingSelect missing | .missingPlural missing => missing = name
  | _ => False

namespace MessagePart

variable {locale : String} {values values' : Placeholders} {name : String}

def placeholders : MessagePart → List String
  | .placeholder name => [name]
  | _ => []

/-- What parts look up one after the other, until one of them fails. -/
def lookupsUntil (text : MessagePart → Except MessageError String) (lookups : MessagePart → List String) :
    List MessagePart → List String
  | [] => []
  | part :: rest =>
    lookups part ++
      match text part with
      | .error _ => []
      | .ok _ => lookupsUntil text lookups rest

def pluralLookups (locale : String) (values : Placeholders) (name : String) (offset : Int64)
    (cases : List (PluralLabel × List MessagePart)) : List String :=
  name ::
    match values.count name with
    | .error _ => []
    | .ok count =>
      match difference? count offset with
      | none => []
      | some left =>
        match pluralCase? locale cases count left with
        | none => []
        | some parts => lookupsUntil (pluralPart values left) placeholders parts

mutual

/-- What a part looks up in a select case, or as a select that a message starts with. -/
def selectLookups (locale : String) (values : Placeholders) : MessagePart → List String
  | .text _ => []
  | .placeholder name => [name]
  | .plural name offset cases => pluralLookups locale values name offset cases
  | .select name cases =>
    name ::
      match values.selector name with
      | .error _ => []
      | .ok value => ((exactLookups locale values value cases).or (defaultLookups locale values cases)).getD []
  | .remainder => []

def caseLookups (locale : String) (values : Placeholders) : List MessagePart → List String
  | [] => []
  | part :: rest =>
    selectLookups locale values part ++
      match selectPart locale values part with
      | .error _ => []
      | .ok _ => caseLookups locale values rest

def exactLookups (locale : String) (values : Placeholders) (label : String) :
    List (Option String × List MessagePart) → Option (List String)
  | [] => none
  | (some l, parts) :: rest =>
    if l = label then some (caseLookups locale values parts) else exactLookups locale values label rest
  | (none, _) :: rest => exactLookups locale values label rest

def defaultLookups (locale : String) (values : Placeholders) :
    List (Option String × List MessagePart) → Option (List String)
  | [] => none
  | (none, parts) :: _ => some (caseLookups locale values parts)
  | (some _, _) :: rest => defaultLookups locale values rest

end

theorem caseLookups_eq (parts : List MessagePart) :
    caseLookups locale values parts = lookupsUntil (selectPart locale values) (selectLookups locale values) parts := by
  induction parts with
  | nil => rfl
  | cons part rest ih => rw [caseLookups, lookupsUntil, ih]

theorem exactLookups_eq (label : String) (cases : List (Option String × List MessagePart)) :
    exactLookups locale values label cases = (caseOf? (· == some label) cases).map (caseLookups locale values) := by
  induction cases with
  | nil => rfl
  | cons entry rest ih =>
    match entry with
    | (none, parts) => simpa [exactLookups, caseOf?] using ih
    | (some l, parts) =>
      by_cases same : l = label
      · simp [exactLookups, caseOf?, same]
      · simpa [exactLookups, caseOf?, same] using ih

theorem defaultLookups_eq (cases : List (Option String × List MessagePart)) :
    defaultLookups locale values cases = (caseOf? (· == none) cases).map (caseLookups locale values) := by
  induction cases with
  | nil => rfl
  | cons entry rest ih =>
    match entry with
    | (none, parts) => simp [defaultLookups, caseOf?]
    | (some l, parts) => simpa [defaultLookups, caseOf?] using ih

/-- A select looks up its variable and then what its chosen case does. -/
theorem selectLookups_select (name : String) (cases : List (Option String × List MessagePart)) :
    selectLookups locale values (.select name cases) =
      name ::
        match values.selector name with
        | .error _ => []
        | .ok value => ((selectCase? cases value).map (caseLookups locale values)).getD [] := by
  rw [selectLookups]
  cases values.selector name with
  | error e => rfl
  | ok value => simp only [exactLookups_eq, defaultLookups_eq, selectCase?, Option.map_or]

section OneByOne

variable {text text' : MessagePart → Except MessageError String} {lookups lookups' : MessagePart → List String}
  {parts : List MessagePart}

/-- Where every part depends on what it looks up, so do the parts together: a part is only reached when those before
it have a text, and then they have the same. -/
theorem lookupsUntil_agree
    (each : ∀ part ∈ parts, values.Agrees values' (lookups part) →
      text' part = text part ∧ lookups' part = lookups part)
    (agrees : values.Agrees values' (lookupsUntil text lookups parts)) :
    parts.mapM text' = parts.mapM text ∧ lookupsUntil text' lookups' parts = lookupsUntil text lookups parts := by
  induction parts with
  | nil => exact ⟨rfl, rfl⟩
  | cons part rest ih =>
    rw [lookupsUntil, Placeholders.agrees_append] at agrees
    obtain ⟨here, later⟩ := agrees
    obtain ⟨same, alike⟩ := each part List.mem_cons_self here
    rw [List.mapM_cons, List.mapM_cons, lookupsUntil, lookupsUntil, same, alike]
    cases rendered : text part with
    | error e => exact ⟨rfl, rfl⟩
    | ok head =>
      rw [rendered] at later
      obtain ⟨others, tail⟩ := ih (fun other among => each other (List.mem_cons_of_mem part among)) later
      exact ⟨by rw [others], by simp only [tail]⟩

/-- The parts fail for want of a name that one of them looks up: those before it do as they would do with the name. -/
theorem lookupsUntil_lacks (elsewhere : ∀ other, other ≠ name → values'.get? other = values.get? other)
    (each : ∀ part ∈ parts, values.Agrees values' (lookups part) → text' part = text part)
    (needed : ∀ part ∈ parts, name ∈ lookups part → ∃ e, text' part = .error e ∧ e.Lacks name)
    (among : name ∈ lookupsUntil text lookups parts) : ∃ e, parts.mapM text' = .error e ∧ e.Lacks name := by
  induction parts with
  | nil => cases among
  | cons part rest ih =>
    rw [lookupsUntil] at among
    rw [List.mapM_cons]
    by_cases here : name ∈ lookups part
    · obtain ⟨e, failed, lacks⟩ := needed part List.mem_cons_self here
      exact ⟨e, by rw [failed]; rfl, lacks⟩
    · have same := each part List.mem_cons_self (Placeholders.agrees_of_notMem elsewhere here)
      rw [same]
      rcases List.mem_append.mp among with first | later
      · exact absurd first here
      · cases rendered : text part with
        | error e => simp [rendered] at later
        | ok head =>
          rw [rendered] at later
          obtain ⟨e, failed, lacks⟩ := ih (fun other member => each other (List.mem_cons_of_mem part member))
            (fun other member => needed other (List.mem_cons_of_mem part member)) later
          exact ⟨e, by rw [failed]; rfl, lacks⟩

end OneByOne

section InPlace

/-- Parts that look up nothing but a placeholder, each in its own place. -/
theorem pluralPart_agree (left : Int64) (part : MessagePart) (agrees : values.Agrees values' part.placeholders) :
    pluralPart values' left part = pluralPart values left part := by
  cases part with
  | placeholder name => exact Placeholders.placeholder_congr (agrees name List.mem_cons_self)
  | text | remainder | plural | select => rfl

theorem flatPart_agree (part : MessagePart) (agrees : values.Agrees values' part.placeholders) :
    flatPart values' part = flatPart values part := by
  cases part with
  | placeholder name => exact Placeholders.placeholder_congr (agrees name List.mem_cons_self)
  | text | remainder | plural | select => rfl

theorem mem_placeholders {part : MessagePart} : name ∈ part.placeholders ↔ part = .placeholder name := by
  cases part <;> simp [placeholders, eq_comm]

theorem placeholder_lacks (missing : values'.get? name = none) :
    ∃ e, values'.placeholder name = .error e ∧ e.Lacks name :=
  ⟨.missingPlaceholder name, by rw [Placeholders.placeholder, missing], rfl⟩

theorem pluralPart_lacks (missing : values'.get? name = none) (left : Int64) (part : MessagePart)
    (among : name ∈ part.placeholders) : ∃ e, pluralPart values' left part = .error e ∧ e.Lacks name := by
  obtain rfl := mem_placeholders.mp among
  exact placeholder_lacks missing

theorem flatPart_lacks (missing : values'.get? name = none) (part : MessagePart) (among : name ∈ part.placeholders) :
    ∃ e, flatPart values' part = .error e ∧ e.Lacks name := by
  obtain rfl := mem_placeholders.mp among
  exact placeholder_lacks missing

end InPlace

theorem pluralText_agree (name : String) (offset : Int64) (cases : List (PluralLabel × List MessagePart))
    (agrees : values.Agrees values' (pluralLookups locale values name offset cases)) :
    pluralText locale values' name offset cases = pluralText locale values name offset cases ∧
      pluralLookups locale values' name offset cases = pluralLookups locale values name offset cases := by
  rw [pluralLookups, Placeholders.agrees_cons] at agrees
  obtain ⟨same, later⟩ := agrees
  rw [pluralText, pluralText, pluralLookups, pluralLookups, Placeholders.count_congr same]
  cases counting : values.count name with
  | error e => exact ⟨rfl, rfl⟩
  | ok count =>
    simp only [counting, bind, Except.bind] at later ⊢
    cases near : difference? count offset with
    | none => exact ⟨rfl, rfl⟩
    | some left =>
      simp only [near] at later ⊢
      cases chosen : pluralCase? locale cases count left with
      | none => exact ⟨rfl, rfl⟩
      | some parts =>
        simp only [chosen] at later ⊢
        obtain ⟨texts, lookups⟩ :=
          lookupsUntil_agree (fun part _ agrees => ⟨pluralPart_agree left part agrees, rfl⟩) later
        rw [texts, lookups]
        exact ⟨rfl, rfl⟩

theorem count_lacks (missing : values'.get? name = none) : ∃ e, values'.count name = .error e ∧ e.Lacks name :=
  ⟨.missingPlural name, by rw [Placeholders.count, missing], rfl⟩

theorem selector_lacks (missing : values'.get? name = none) : ∃ e, values'.selector name = .error e ∧ e.Lacks name :=
  ⟨.missingSelect name, by rw [Placeholders.selector, missing], rfl⟩

theorem pluralText_lacks (elsewhere : ∀ other, other ≠ name → values'.get? other = values.get? other)
    (missing : values'.get? name = none) {own : String} {offset : Int64}
    {cases : List (PluralLabel × List MessagePart)} (among : name ∈ pluralLookups locale values own offset cases) :
    ∃ e, pluralText locale values' own offset cases = .error e ∧ e.Lacks name := by
  rw [pluralText]
  by_cases same : own = name
  · subst same
    obtain ⟨e, failed, lacks⟩ := count_lacks missing
    exact ⟨e, by rw [failed]; rfl, lacks⟩
  · rw [pluralLookups, List.mem_cons] at among
    have later := among.resolve_left (Ne.symm same)
    rw [Placeholders.count_congr (elsewhere own same)]
    cases counting : values.count own with
    | error e => simp [counting] at later
    | ok count =>
      simp only [counting, bind, Except.bind] at later ⊢
      cases near : difference? count offset with
      | none => simp [near] at later
      | some left =>
        simp only [near] at later ⊢
        cases chosen : pluralCase? locale cases count left with
        | none => simp [chosen] at later
        | some parts =>
          simp only [chosen] at later ⊢
          obtain ⟨e, failed, lacks⟩ := lookupsUntil_lacks elsewhere (fun part _ => pluralPart_agree left part)
            (fun part _ => pluralPart_lacks missing left part) later
          exact ⟨e, by rw [failed], lacks⟩

theorem selectPart_agree (part : MessagePart) (agrees : values.Agrees values' (selectLookups locale values part)) :
    selectPart locale values' part = selectPart locale values part ∧
      selectLookups locale values' part = selectLookups locale values part := by
  induction part using bySelects with
  | text | remainder => exact ⟨rfl, rfl⟩
  | placeholder name => exact ⟨Placeholders.placeholder_congr (agrees name List.mem_cons_self), rfl⟩
  | plural name offset cases => exact pluralText_agree name offset cases agrees
  | select name cases ih =>
    rw [selectLookups_select, Placeholders.agrees_cons] at agrees
    obtain ⟨same, later⟩ := agrees
    rw [selectPart_select, selectPart_select, selectLookups_select, selectLookups_select,
      Placeholders.selector_congr same]
    cases selected : values.selector name with
    | error e => exact ⟨rfl, rfl⟩
    | ok value =>
      simp only [selected, bind, Except.bind] at later ⊢
      cases chosen : selectCase? cases value with
      | none => exact ⟨rfl, rfl⟩
      | some parts =>
        obtain ⟨entry, among, rfl⟩ := mem_of_selectCase? chosen
        simp only [chosen, Option.map_some, Option.getD_some, caseLookups_eq, selectParts_eq] at later ⊢
        obtain ⟨texts, lookups⟩ := lookupsUntil_agree (ih entry among) later
        exact ⟨by rw [texts], by rw [lookups]⟩

theorem selectPart_lacks (elsewhere : ∀ other, other ≠ name → values'.get? other = values.get? other)
    (missing : values'.get? name = none) (part : MessagePart) (among : name ∈ selectLookups locale values part) :
    ∃ e, selectPart locale values' part = .error e ∧ e.Lacks name := by
  induction part using bySelects with
  | text | remainder => simp [selectLookups] at among
  | placeholder own =>
    obtain rfl := List.mem_singleton.mp among
    exact placeholder_lacks missing
  | plural own offset cases => exact pluralText_lacks elsewhere missing among
  | select own cases ih =>
    rw [selectPart_select]
    by_cases same : own = name
    · subst same
      obtain ⟨e, failed, lacks⟩ := selector_lacks missing
      exact ⟨e, by rw [failed]; rfl, lacks⟩
    · rw [selectLookups_select, List.mem_cons] at among
      have later := among.resolve_left (Ne.symm same)
      rw [Placeholders.selector_congr (elsewhere own same)]
      cases selected : values.selector own with
      | error e => simp [selected] at later
      | ok value =>
        simp only [selected, bind, Except.bind] at later ⊢
        cases chosen : selectCase? cases value with
        | none => simp [chosen] at later
        | some parts =>
          obtain ⟨entry, member, rfl⟩ := mem_of_selectCase? chosen
          simp only [chosen, Option.map_some, Option.getD_some, caseLookups_eq, selectParts_eq] at later ⊢
          obtain ⟨e, failed, lacks⟩ := lookupsUntil_lacks elsewhere
            (fun part _ agrees => (selectPart_agree part agrees).1) (ih entry member) later
          exact ⟨e, by rw [failed]; rfl, lacks⟩

end MessagePart

namespace Message

open MessagePart

variable {m m' : Message} {values values' : Placeholders}

/-- The names that a message looks up, one after the other; the last of them is the one that it fails for, if it fails
for a value. -/
def lookups (m : Message) (values : Placeholders) : List String :=
  let locale := m.locale.getD defaultLocale
  match m.parts with
  | [] => []
  | .plural name offset cases :: _ => pluralLookups locale values name offset cases
  | .select name cases :: _ => selectLookups locale values (.select name cases)
  | parts => lookupsUntil (flatPart values) placeholders parts

theorem text?_agree (agrees : values.Agrees values' (m.lookups values)) :
    m.text? values' = m.text? values ∧ m.lookups values' = m.lookups values := by
  obtain ⟨id, locale, parts⟩ := m
  have flat (agrees : values.Agrees values' (lookupsUntil (flatPart values) placeholders parts)) :=
    lookupsUntil_agree (fun part _ agrees => ⟨flatPart_agree part agrees, rfl⟩) agrees
  cases parts with
  | nil => exact ⟨rfl, rfl⟩
  | cons first rest =>
    cases first with
    | plural name offset cases =>
      obtain ⟨text, lookups⟩ := pluralText_agree name offset cases agrees
      exact ⟨congrArg (Except.map some) text, lookups⟩
    | select name cases =>
      obtain ⟨text, lookups⟩ := selectPart_agree (.select name cases) agrees
      exact ⟨congrArg (Except.map some) text, lookups⟩
    | text | placeholder | remainder =>
      obtain ⟨texts, lookups⟩ := flat agrees
      exact ⟨congrArg (Except.map fun texts => some (String.join texts)) texts, lookups⟩

theorem text?_lacks {name : String} (elsewhere : ∀ other, other ≠ name → values'.get? other = values.get? other)
    (missing : values'.get? name = none) (among : name ∈ m.lookups values) :
    ∃ e, m.text? values' = .error e ∧ e.Lacks name := by
  obtain ⟨id, locale, parts⟩ := m
  have flat (among : name ∈ lookupsUntil (flatPart values) placeholders parts) :=
    lookupsUntil_lacks elsewhere (fun part _ => flatPart_agree part) (fun part _ => flatPart_lacks missing part) among
  cases parts with
  | nil => cases among
  | cons first rest =>
    cases first with
    | plural own offset cases =>
      obtain ⟨e, failed, lacks⟩ := pluralText_lacks elsewhere missing among
      exact ⟨e, congrArg (Except.map some) failed, lacks⟩
    | select own cases =>
      obtain ⟨e, failed, lacks⟩ := selectPart_lacks elsewhere missing (.select own cases) among
      exact ⟨e, congrArg (Except.map some) failed, lacks⟩
    | text | placeholder | remainder =>
      obtain ⟨e, failed, lacks⟩ := flat among
      exact ⟨e, congrArg (Except.map fun texts => some (String.join texts)) failed, lacks⟩

theorem text?_unselected
    (replaced : Relation.ReflTransGen (Replaces (Unselected (m.locale.getD defaultLocale) values)) m m') :
    m'.text? values = m.text? values := by
  have kept : m'.text? values = m.text? values ∧ m'.locale = m.locale := by
    induction replaced with
    | refl => exact ⟨rfl, rfl⟩
    | @tail before after _ last ih =>
      obtain ⟨text, locale⟩ := ih
      rw [← locale] at last
      have same : after.locale = before.locale := by
        obtain ⟨-⟩ := last
        rfl
      exact ⟨(last.text? Unselected.stands).trans text, same.trans locale⟩
  exact kept.1

/-- A message asks its sink at most once, to take its whole text, and for nothing when it fails for another reason.
Its outcome depends on the values of the names that it looks up and on no others, whatever the sink and whatever stands
in the cases that these values do not choose; and without a value for any one of these names it fails for want of it. -/
theorem render_depends_on_lookups (m : Message) (values : Placeholders) {S : Type} [Sink S] (s : S) :
    let watched := m.render values (Recorder.watch s)
    m.render values s = (watched.1, watched.2.sink) ∧ Asked (m.text? values) watched.2.log watched.1 ∧
      (∀ values', values.Agrees values' (m.lookups values) →
        m.text? values' = m.text? values ∧ m.lookups values' = m.lookups values ∧
          m.render values' s = m.render values s) ∧
      (∀ m', Relation.ReflTransGen (Replaces (Unselected (m.locale.getD defaultLocale) values)) m m' →
        m'.text? values = m.text? values ∧ m'.render values s = m.render values s) ∧
      ∀ name ∈ m.lookups values, ∀ values' : Placeholders,
        (∀ other, other ≠ name → values'.get? other = values.get? other) → values'.get? name = none →
          ∃ e, m.render values' s = (.error e, s) ∧ e.Lacks name := by
  refine ⟨render_watch m values s, asked_render m values s, ?_, ?_, ?_⟩
  · intro values' agrees
    obtain ⟨text, lookups⟩ := text?_agree agrees
    exact ⟨text, lookups, by rw [Message.render, Message.render, text]⟩
  · intro m' replaced
    have text := text?_unselected replaced
    exact ⟨text, by rw [Message.render, Message.render, text]⟩
  · intro name among values' elsewhere missing
    obtain ⟨e, failed, lacks⟩ := text?_lacks elsewhere missing among
    exact ⟨e, by rw [Message.render, failed], lacks⟩

/-- A stranger is not asked for the number of guests, nor does it matter what would be said to Ann; but without a name
for the host, there is no invitation at all. -/
theorem render_depends_on_lookups_stranger :
    let guests : Placeholders := SortedMap.ofList [("guests", .text "three")]
    let stranger : Placeholders := guests.insert "host" (.text "Bob")
    let counted : Placeholders := SortedMap.ofList [("host", .text "Bob"), ("guests", .number 3)]
    let short : Message := ⟨7, some "pl", [.select "host" [(some "Ann", [.remainder]), (none, [.text "everybody"])],
      .remainder]⟩
    invitation.lookups stranger = ["host"] ∧
      invitation.render counted OutputBuffer.empty = invitation.render stranger OutputBuffer.empty ∧
      short.text? stranger = invitation.text? stranger ∧
      ∃ e, invitation.render guests OutputBuffer.empty = (.error e, OutputBuffer.empty) ∧ e.Lacks "host" := by
  intro guests stranger counted short
  have lookups : invitation.lookups stranger = ["host"] := by decide +kernel
  have agrees : stranger.Agrees counted (invitation.lookups stranger) := by
    simp only [lookups, Placeholders.Agrees, List.forall_mem_singleton]
    decide
  have replaced : Replaces (Unselected "pl" stranger) invitation short := by
    refine @Replaces.part _ _ _ [] _ _ _ (.here (.select fun value selected => ?_))
    have bob : stranger.get? "host" = some (.text "Bob") := by decide
    obtain rfl : "Bob" = value := by simpa [Placeholders.selector, bob] using selected
    rfl
  have among : "host" ∈ invitation.lookups stranger := by simp [lookups]
  have elsewhere (other : String) (differs : other ≠ "host") : guests.get? other = stranger.get? other := by
    rw [SortedMap.get?_insert]
    simp [differs]
  obtain ⟨-, -, same, unselected, needed⟩ := render_depends_on_lookups invitation stranger OutputBuffer.empty
  exact ⟨lookups, (same counted agrees).2.2, (unselected short (.single replaced)).1,
    needed "host" among guests elsewhere (by decide)⟩

end Message

end TemplateEngine
