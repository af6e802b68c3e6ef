import TemplateEngine.Message.Render
import TemplateEngine.Proofs.Recorder

namespace TemplateEngine.MessagePart

variable {locale : String} {values : Placeholders} {L : Type}

/-- The parts of the first case whose label passes a test. -/
def caseOf? (test : L → Bool) (cases : List (L × List MessagePart)) : Option (List MessagePart) :=
  (cases.find? (fun entry => test entry.1)).map Prod.snd

/-- The parts of the case of a select: an exact label comes first, and then the case without one. -/
def selectCase? (cases : List (Option String × List MessagePart)) (value : String) : Option (List MessagePart) :=
  (caseOf? (· == some value) cases).or (caseOf? (· == none) cases)

theorem pluralCase?_eq (cases : List (PluralLabel × List MessagePart)) (count left : Int64) :
    pluralCase? locale cases count left =
      (caseOf? (PluralLabel.isExactly count) cases).or
        ((caseOf? (· == .category (pluralCategory locale left.toInt)) cases).or
          (caseOf? PluralLabel.isOther cases)) := rfl

/-- A case that is chosen is one of the cases. -/
theorem mem_of_caseOf? {test : L → Bool} {cases : List (L × List MessagePart)} {parts : List MessagePart}
    (chosen : caseOf? test cases = some parts) : ∃ entry ∈ cases, entry.2 = parts := by
  obtain ⟨entry, found, rfl⟩ := Option.map_eq_some_iff.mp chosen
  exact ⟨entry, List.mem_of_find?_eq_some found, rfl⟩

theorem caseOf?_eq_none_iff {test : L → Bool} {cases : List (L × List MessagePart)} :
    caseOf? test cases = none ↔ ∀ label parts, (label, parts) ∈ cases → test label = false := by
  simp [caseOf?]

theorem mem_of_selectCase? {cases : List (Option String × List MessagePart)} {value : String} {parts : List MessagePart}
    (chosen : selectCase? cases value = some parts) : ∃ entry ∈ cases, entry.2 = parts := by
  rcases Option.or_eq_some_iff.mp chosen with exact' | ⟨-, default⟩
  · exact mem_of_caseOf? exact'
  · exact mem_of_caseOf? default

/-- Whatever the value, the case without a label is there to fall back on. -/
theorem selectCase?_ne_none {cases : List (Option String × List MessagePart)} {others : List MessagePart}
    (other : (none, others) ∈ cases) (value : String) : selectCase? cases value ≠ none := by
  intro nothing
  have unlabelled : caseOf? (· == none) cases = none := (Option.or_eq_none_iff.mp nothing).2
  cases caseOf?_eq_none_iff.mp unlabelled _ _ other

theorem mem_of_pluralCase? {cases : List (PluralLabel × List MessagePart)} {count left : Int64}
    {parts : List MessagePart} (chosen : pluralCase? locale cases count left = some parts) :
    ∃ entry ∈ cases, entry.2 = parts := by
  rw [pluralCase?_eq, Option.or_eq_some_iff, Option.or_eq_some_iff] at chosen
  rcases chosen with exact' | ⟨-, category | ⟨-, other⟩⟩
  · exact mem_of_caseOf? exact'
  · exact mem_of_caseOf? category
  · exact mem_of_caseOf? other

/-- Whatever the count and the category, the case for all other counts is there to fall back on. -/
theorem pluralCase?_ne_none {cases : List (PluralLabel × List MessagePart)} {others : List MessagePart}
    (other : (.category .other, others) ∈ cases) (count left : Int64) :
    pluralCase? locale cases count left ≠ none := by
  intro nothing
  rw [pluralCase?_eq, Option.or_eq_none_iff, Option.or_eq_none_iff] at nothing
  cases caseOf?_eq_none_iff.mp nothing.2.2 _ _ other

theorem exactCase_eq (label : String) (cases : List (Option String × List MessagePart)) :
    exactCase locale values label cases = (caseOf? (· == some label) cases).map (selectParts locale values) := by
  induction cases with
  | nil => rfl
  | cons entry rest ih =>
    match entry with
    | (none, parts) => simpa [exactCase, caseOf?] using ih
    | (some l, parts) =>
      by_cases same : l = label
      · simp [exactCase, caseOf?, same]
      · simpa [exactCase, caseOf?, same] using ih

theorem defaultCase_eq (cases : List (Option String × List MessagePart)) :
    defaultCase locale values cases = (caseOf? (· == none) cases).map (selectParts locale values) := by
  induction cases with
  | nil => rfl
  | cons entry rest ih =>
    match entry with
    | (none, parts) => simp [defaultCase, caseOf?]
    | (some l, parts) => simpa [defaultCase, caseOf?] using ih

/-- A select reads its variable, chooses a case, and is the text of that case. -/
theorem selectPart_select (name : String) (cases : List (Option String × List MessagePart)) :
    selectPart locale values (.select name cases) = (do
      let value ← values.selector name
      match selectCase? cases value with
      | none => .error (.noSelectCase name value)
      | some parts => selectParts locale values parts) := by
  rw [selectPart]
  cases values.selector name with
  | error e => rfl
  | ok value =>
    simp only [bind, Except.bind, exactCase_eq, defaultCase_eq, selectCase?, ← Option.map_or]
    cases (caseOf? (· == some value) cases).or (caseOf? (· == none) cases) <;> rfl

theorem selectParts_eq (parts : List MessagePart) :
    selectParts locale values parts = (parts.mapM (selectPart locale values)).map String.join := by
  induction parts with
  | nil => rfl
  | cons part rest ih =>
    rw [selectParts, List.mapM_cons, ih]
    cases selectPart locale values part with
    | error e => rfl
    | ok head =>
      cases rest.mapM (selectPart locale values) with
      | error e => rfl
      | ok texts => exact congrArg Except.ok (String.join_cons ..).symm

/-- Parts can be taken up by their depth: only a select has parts within its cases that may be selects again. -/
theorem bySelects {p : MessagePart → Prop} (text : ∀ s, p (.text s)) (placeholder : ∀ name, p (.placeholder name))
    (remainder : p .remainder) (plural : ∀ name offset cases, p (.plural name offset cases))
    (select : ∀ name cases, (∀ entry ∈ cases, ∀ part ∈ entry.2, p part) → p (.select name cases)) : ∀ part, p part
  | .text s => text s
  | .placeholder name => placeholder name
  | .remainder => remainder
  | .plural name offset cases => plural name offset cases
  | .select name cases =>
    select name cases fun entry _ part _ => bySelects text placeholder remainder plural select part
termination_by part => sizeOf part
decreasing_by
  rename_i among member
  have outer := List.sizeOf_lt_of_mem among
  have inner := List.sizeOf_lt_of_mem member
  rw [MessagePart.select.sizeOf_spec]
  obtain ⟨label, parts⟩ := entry
  rw [Prod.mk.sizeOf_spec] at outer
  simp only at inner
  omega

/-- Parts are taken one by one, so a part may be replaced by one that fares the same. -/
theorem mapM_replace {α : Type} {f : MessagePart → Except MessageError α} {a b : MessagePart} (same : f b = f a)
    (before after : List MessagePart) : (before ++ b :: after).mapM f = (before ++ a :: after).mapM f := by
  rw [List.mapM_append, List.mapM_append, List.mapM_cons, List.mapM_cons, same]

/-- Of several contents for one case, either that case is chosen whatever its content, or the content does not
matter. -/
def Settles (choice : List MessagePart → Option (List MessagePart)) : Prop :=
  (∀ parts, choice parts = some parts) ∨ ∃ other, ∀ parts, choice parts = other

theorem Settles.or {first second : List MessagePart → Option (List MessagePart)} (here : Settles first)
    (there : Settles second) : Settles fun parts => (first parts).or (second parts) := by
  rcases here with here | ⟨_ | other, fixed⟩
  · exact .inl fun parts => by simp [here parts]
  · simpa only [fixed, Option.none_or] using there
  · exact .inr ⟨some other, fun parts => by simp [fixed parts]⟩

theorem settles_caseOf? (test : L → Bool) (front back : List (L × List MessagePart)) (label : L) :
    Settles fun parts => caseOf? test (front ++ (label, parts) :: back) := by
  simp only [caseOf?, List.find?_append, List.find?_cons]
  cases front.find? fun entry => test entry.1 with
  | some entry => exact .inr ⟨some entry.2, fun parts => rfl⟩
  | none =>
    cases test label with
    | true => exact .inl fun parts => rfl
    | false => exact .inr ⟨caseOf? test back, fun parts => rfl⟩

/-- Somewhere within a part, or as the whole of it, another part is put in place of one. -/
inductive Replaces (r : MessagePart → MessagePart → Prop) : MessagePart → MessagePart → Prop
  | here {a b} (related : r a b) : Replaces r a b
  | plural {name offset front label before a b after back} (inside : Replaces r a b) :
      Replaces r (.plural name offset (front ++ (label, before ++ a :: after) :: back))
        (.plural name offset (front ++ (label, before ++ b :: after) :: back))
  | select {name front label before a b after back} (inside : Replaces r a b) :
      Replaces r (.select name (front ++ (label, before ++ a :: after) :: back))
        (.select name (front ++ (label, before ++ b :: after) :: back))

/-- Two choices of the same form with the same text. -/
structure Stands (locale : String) (values : Placeholders) (a b : MessagePart) : Prop where
  form : b.form = a.form
  choice : a.isChoice = true
  text : selectPart locale values b = selectPart locale values a

namespace Stands

variable {a b : MessagePart}

theorem pluralPart (stands : a.Stands locale values b) (left : Int64) :
    MessagePart.pluralPart values left b = MessagePart.pluralPart values left a := by
  obtain ⟨form, choice, -⟩ := stands
  cases a <;> cases choice <;> cases b <;> cases form <;> rfl

theorem flatPart (stands : a.Stands locale values b) :
    MessagePart.flatPart values b = MessagePart.flatPart values a := by
  obtain ⟨form, choice, -⟩ := stands
  cases a <;> cases choice <;> cases b <;> cases form <;> rfl

end Stands

/-- A choice with other cases, where the values choose the same case among them, or none. -/
inductive Unselected (locale : String) (values : Placeholders) : MessagePart → MessagePart → Prop
  | plural {name offset cases cases'}
      (same : ∀ count left, values.count name = .ok count → difference? count offset = some left →
        pluralCase? locale cases' count left = pluralCase? locale cases count left) :
      Unselected locale values (.plural name offset cases) (.plural name offset cases')
  | select {name cases cases'}
      (same : ∀ value, values.selector name = .ok value → selectCase? cases' value = selectCase? cases value) :
      Unselected locale values (.select name cases) (.select name cases')

theorem Unselected.stands {a b : MessagePart} (unselected : Unselected locale values a b) :
    a.Stands locale values b := by
  cases unselected with
  | @plural name offset cases cases' same =>
    refine ⟨rfl, rfl, ?_⟩
    simp only [selectPart, pluralText]
    cases counting : values.count name with
    | error e => rfl
    | ok count =>
      simp only [bind, Except.bind]
      cases near : difference? count offset with
      | none => rfl
      | some left => simp only [same count left counting near]
  | @select name cases cases' same =>
    refine ⟨rfl, rfl, ?_⟩
    rw [selectPart_select, selectPart_select]
    cases selected : values.selector name with
    | error e => rfl
    | ok value => simp only [bind, Except.bind, same value selected]

/-- A part that stands for another can be put in its place at any depth. -/
theorem Replaces.stands {r : MessagePart → MessagePart → Prop}
    (stands : ∀ {a b : MessagePart}, r a b → a.Stands locale values b) {a b : MessagePart} (replaces : a.Replaces r b) :
    a.Stands locale values b := by
  induction replaces with
  | here related => exact stands related
  | @plural name offset front label before a b after back inside ih =>
    refine ⟨rfl, rfl, ?_⟩
    rw [selectPart, selectPart, pluralText, pluralText]
    cases values.count name with
    | error e => rfl
    | ok count =>
      simp only [bind, Except.bind]
      cases difference? count offset with
      | none => rfl
      | some left =>
        have settles : Settles fun parts => pluralCase? locale (front ++ (label, parts) :: back) count left := by
          simp only [pluralCase?_eq]
          exact (settles_caseOf? _ front back label).or
            ((settles_caseOf? _ front back label).or (settles_caseOf? _ front back label))
        rcases settles with chosen | ⟨other, fixed⟩
        · simp only [chosen, mapM_replace (ih.pluralPart left)]
        · simp only [fixed]
  | @select name front label before a b after back inside ih =>
    refine ⟨rfl, rfl, ?_⟩
    rw [selectPart_select, selectPart_select]
    cases values.selector name with
    | error e => rfl
    | ok value =>
      simp only [bind, Except.bind]
      have settles : Settles fun parts => selectCase? (front ++ (label, parts) :: back) value :=
        (settles_caseOf? _ front back label).or (settles_caseOf? _ front back label)
      rcases settles with chosen | ⟨other, fixed⟩
      · simp only [chosen, selectParts_eq, mapM_replace ih.text]
      · simp only [fixed]

end TemplateEngine.MessagePart

namespace TemplateEngine.Message

open MessagePart

/-- Somewhere within a message, another part is put in place of one. -/
inductive Replaces (r : MessagePart → MessagePart → Prop) : Message → Message → Prop
  | part {id locale before a b after} (inside : MessagePart.Replaces r a b) :
      Replaces r ⟨id, locale, before ++ a :: after⟩ ⟨id, locale, before ++ b :: after⟩

theorem Replaces.text? {r : MessagePart → MessagePart → Prop} {values : Placeholders} {m m' : Message}
    (replaces : m.Replaces r m')
    (stands : ∀ {a b : MessagePart}, r a b → a.Stands (m.locale.getD defaultLocale) values b) :
    m'.text? values = m.text? values := by
  obtain ⟨inside⟩ := replaces
  rename_i id locale before a b after
  have here : a.Stands (locale.getD defaultLocale) values b := inside.stands stands
  have flat : (before ++ b :: after).mapM (flatPart values) = (before ++ a :: after).mapM (flatPart values) :=
    mapM_replace here.flatPart before after
  cases before with
  | cons first before =>
    cases first with
    | plural | select => rfl
    | text | placeholder | remainder => exact congrArg (Except.map fun texts => some (String.join texts)) flat
  | nil =>
    obtain ⟨form, choice, text⟩ := here
    cases a with
    | text | placeholder | remainder => cases choice
    | plural name offset cases =>
      cases b with
      | text | placeholder | remainder | select => cases form
      | plural name' offset' cases' =>
        rw [selectPart, selectPart] at text
        exact congrArg (Except.map some) text
    | select name cases =>
      cases b with
      | text | placeholder | remainder | plural => cases form
      | select name' cases' => exact congrArg (Except.map some) text

/-- What a message with a given text asks of its sink, and what comes of it: the sink is to take the whole text at once.
A message without parts asks for nothing, and neither does one that has no text. -/
inductive Asked : Except MessageError (Option String) → List SinkEvent → Except MessageError Unit → Prop
  | failed (e : MessageError) : Asked (.error e) [] (.error e)
  | empty : Asked (.ok none) [] (.ok ())
  | written (text : String) : Asked (.ok (some text)) [.append text (.ok ())] (.ok ())
  | refused (text : String) (reason : SinkError) :
      Asked (.ok (some text)) [.append text (.error reason)] (.error (.sink reason))

/-- A message appends its own text and nothing else. -/
theorem asked_render (m : Message) (values : Placeholders) {S : Type} [Sink S] (s : S) :
    Asked (m.text? values) (m.render values (Recorder.watch s)).2.log (m.render values (Recorder.watch s)).1 := by
  rw [Message.render]
  cases m.text? values with
  | error e => exact .failed e
  | ok text =>
    cases text with
    | none => exact .empty
    | some text =>
      simp only [Sink.append, Recorder.watch, List.nil_append]
      cases (Sink.append text s).1 with
      | error reason => exact .refused text reason
      | ok taken => exact .written text

/-- Watching does not change how a message is rendered. -/
theorem render_watch (m : Message) (values : Placeholders) {S : Type} [Sink S] (s : S) :
    m.render values s = ((m.render values (Recorder.watch s)).1, (m.render values (Recorder.watch s)).2.sink) := by
  rw [Message.render, Message.render]
  cases m.text? values with
  | error e => rfl
  | ok text => cases text <;> rfl

/-- A message that is rendered has no parts, or has appended its text. -/
theorem Asked.of_ok {text? : Except MessageError (Option String)} {log : List SinkEvent}
    (asked : Asked text? log (.ok ())) :
    text? = .ok none ∧ log = [] ∨ ∃ text, text? = .ok (some text) ∧ log = [.append text (.ok ())] := by
  cases asked with
  | empty => exact .inl ⟨rfl, rfl⟩
  | written text => exact .inr ⟨text, rfl, rfl⟩

end TemplateEngine.Message
