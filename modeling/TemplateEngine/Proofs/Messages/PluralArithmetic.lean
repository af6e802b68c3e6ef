import TemplateEngine.Proofs.Messages.CaseOrder
import TemplateEngine.Proofs.Messages.Lookups
import TemplateEngine.Proofs.Messages.PluralRules

namespace TemplateEngine

namespace MessagePart

/-- A number that sixty-four bits hold. -/
def InRange (d : Int) : Prop := Int64.minValue.toInt ≤ d ∧ d ≤ Int64.maxValue.toInt

instance (d : Int) : Decidable (InRange d) := inferInstanceAs (Decidable (_ ∧ _))

/-- The parts of the first case with a label of this sort. -/
def FirstCase (sort : PluralLabel → Prop) (cases : List (PluralLabel × List MessagePart)) (parts : List MessagePart) :
    Prop :=
  ∃ front label back, cases = front ++ (label, parts) :: back ∧ sort label ∧ ∀ entry ∈ front, ¬ sort entry.1

def NoCase (sort : PluralLabel → Prop) (cases : List (PluralLabel × List MessagePart)) : Prop :=
  ∀ entry ∈ cases, ¬ sort entry.1

/-- The label of the number itself. -/
def Numbered (count : Int) (label : PluralLabel) : Prop := ∃ n, label = .exactly n ∧ (n.toNat : Int) = count

/-- The case of a plural, by whole numbers: the one of the number itself, or else that of the category of what is left
of it, or else the one for all other numbers. -/
inductive Chooses (locale : String) (cases : List (PluralLabel × List MessagePart)) (count left : Int) :
    Option (List MessagePart) → Prop
  | numbered {parts} (first : FirstCase (Numbered count) cases parts) : Chooses locale cases count left (some parts)
  | category {parts} (unnumbered : NoCase (Numbered count) cases)
      (first : FirstCase (· = .category (pluralCategory locale left)) cases parts) :
      Chooses locale cases count left (some parts)
  | other {parts} (unnumbered : NoCase (Numbered count) cases)
      (uncategorized : NoCase (· = .category (pluralCategory locale left)) cases)
      (first : FirstCase (· = .category .other) cases parts) : Chooses locale cases count left (some parts)
  | nothing (unnumbered : NoCase (Numbered count) cases)
      (uncategorized : NoCase (· = .category (pluralCategory locale left)) cases)
      (incomplete : NoCase (· = .category .other) cases) : Chooses locale cases count left none

/-- What a part of a case is printed as, with what is left of the number. -/
inductive Shows (values : Placeholders) (left : Int) : MessagePart → String → Prop
  | text (s : String) : Shows values left (.text s) s
  | placeholder {name value} (known : values.get? name = some value) :
      Shows values left (.placeholder name) value.toText
  | remainder : Shows values left .remainder (toString left)

/-- Rendering a part comes to another one: to the part itself, or over the case that a select chooses, once the parts
before it have their texts. -/
inductive ReachedFrom (locale : String) (values : Placeholders) (target : MessagePart) : MessagePart → Prop
  | here : ReachedFrom locale values target target
  | inside {name cases value before part after texts} (selected : values.selector name = .ok value)
      (chosen : selectCase? cases value = some (before ++ part :: after))
      (rendered : before.mapM (selectPart locale values) = .ok texts)
      (reached : ReachedFrom locale values target part) :
      ReachedFrom locale values target (.select name cases)

variable {locale : String} {values : Placeholders} {name : String} {value offset left : Int64}
  {cases : List (PluralLabel × List MessagePart)} {target part : MessagePart} {e : MessageError}

theorem difference?_eq_some {a b : Int64} (inRange : InRange (a.toInt - b.toInt)) :
    difference? a b = some (a - b) ∧ (a - b).toInt = a.toInt - b.toInt := by
  have bounds : Int64.minValue.toInt = -9223372036854775808 ∧ Int64.maxValue.toInt = 9223372036854775807 :=
    ⟨rfl, rfl⟩
  have exact' : (a - b).toInt = a.toInt - b.toInt := by
    obtain ⟨least, greatest⟩ := inRange
    rw [Int64.toInt_sub, Int.bmod_eq_of_le] <;> omega
  have word : Int64.ofInt (a.toInt - b.toInt) = a - b := by rw [← exact', Int64.ofInt_toInt]
  refine ⟨?_, exact'⟩
  simp only [difference?, word]
  exact if_pos inRange

section Cases

variable {sort : PluralLabel → Prop} {test : PluralLabel → Bool} {parts : List MessagePart}

theorem caseOf?_eq_some (tests : ∀ label, test label = true ↔ sort label) :
    caseOf? test cases = some parts ↔ FirstCase sort cases parts := by
  rw [caseOf?, Option.map_eq_some_iff]
  simp only [List.find?_eq_some_iff_append, FirstCase, ← tests, Bool.not_eq_true', Bool.not_eq_true]
  constructor
  · rintro ⟨⟨label, parts⟩, ⟨right, front, back, split, wrong⟩, rfl⟩
    exact ⟨front, label, back, split, right, wrong⟩
  · rintro ⟨front, label, back, split, right, wrong⟩
    exact ⟨(label, parts), ⟨right, front, back, split, wrong⟩, rfl⟩

theorem caseOf?_eq_none (tests : ∀ label, test label = true ↔ sort label) :
    caseOf? test cases = none ↔ NoCase sort cases := by
  simp [caseOf?, NoCase, ← tests]

/-- The case is found by words of sixty-four bits as it is by whole numbers. -/
theorem pluralCase?_eq_iff {count left : Int64} {chosen : Option (List MessagePart)} :
    pluralCase? locale cases count left = chosen ↔ Chooses locale cases count.toInt left.toInt chosen := by
  have numbered (label : PluralLabel) : PluralLabel.isExactly count label = true ↔ Numbered count.toInt label :=
    isExactly_iff
  have category (label : PluralLabel) : (label == .category (pluralCategory locale left.toInt)) = true ↔
      label = .category (pluralCategory locale left.toInt) := beq_iff_eq
  have other (label : PluralLabel) : PluralLabel.isOther label = true ↔ label = .category .other := beq_iff_eq
  rw [pluralCase?_eq]
  constructor
  · rintro rfl
    cases first : caseOf? (PluralLabel.isExactly count) cases with
    | some parts => exact .numbered ((caseOf?_eq_some numbered).mp first)
    | none =>
      have unnumbered := (caseOf?_eq_none numbered).mp first
      cases second : caseOf? (· == .category (pluralCategory locale left.toInt)) cases with
      | some parts => exact .category unnumbered ((caseOf?_eq_some category).mp second)
      | none =>
        have uncategorized := (caseOf?_eq_none category).mp second
        cases third : caseOf? PluralLabel.isOther cases with
        | some parts => exact .other unnumbered uncategorized ((caseOf?_eq_some other).mp third)
        | none => exact .nothing unnumbered uncategorized ((caseOf?_eq_none other).mp third)
  · rintro (first | ⟨unnumbered, first⟩ | ⟨unnumbered, uncategorized, first⟩ | ⟨unnumbered, uncategorized, incomplete⟩)
    · rw [(caseOf?_eq_some numbered).mpr first, Option.some_or]
    · rw [(caseOf?_eq_none numbered).mpr unnumbered, (caseOf?_eq_some category).mpr first, Option.none_or,
        Option.some_or]
    · rw [(caseOf?_eq_none numbered).mpr unnumbered, (caseOf?_eq_none category).mpr uncategorized,
        (caseOf?_eq_some other).mpr first, Option.none_or, Option.none_or]
    · rw [(caseOf?_eq_none numbered).mpr unnumbered, (caseOf?_eq_none category).mpr uncategorized,
        (caseOf?_eq_none other).mpr incomplete, Option.none_or, Option.none_or]

end Cases

theorem pluralPart_eq_ok {text : String} :
    pluralPart values left part = .ok text ↔ Shows values left.toInt part text := by
  constructor
  · intro printed
    cases part with
    | text s =>
      cases printed
      exact .text _
    | remainder =>
      cases printed
      exact .remainder
    | plural | select => cases printed
    | placeholder name =>
      rw [pluralPart, Placeholders.placeholder] at printed
      split at printed
      next value known =>
        cases printed
        exact .placeholder known
      next => cases printed
  · rintro (s | known | _)
    · rfl
    · rw [pluralPart, Placeholders.placeholder, known]
    · rfl

theorem mapM_pluralPart_eq_ok {parts : List MessagePart} {texts : List String} :
    parts.mapM (pluralPart values left) = .ok texts ↔ List.Forall₂ (Shows values left.toInt) parts texts := by
  have same : Shows values left.toInt = fun part text => pluralPart values left part = .ok text := by
    ext part text
    exact pluralPart_eq_ok.symm
  rw [mapM_eq_ok, same]

/-- A plural has a text exactly if it has a case whose parts all have one. -/
theorem pluralText_eq_ok (counted : values.count name = .ok value) (near : difference? value offset = some left)
    {own : String} : pluralText locale values name offset cases = .ok own ↔
      ∃ parts texts, Chooses locale cases value.toInt left.toInt (some parts) ∧
        List.Forall₂ (Shows values left.toInt) parts texts ∧ own = String.join texts := by
  simp only [← pluralCase?_eq_iff, ← mapM_pluralPart_eq_ok]
  cases chosen : pluralCase? locale cases value left with
  | none => simp [pluralText, counted, near, chosen, bind, Except.bind]
  | some parts =>
    rw [pluralText_eq counted near chosen, exceptMap_eq_ok]
    simp [eq_comm]

section OutOfRange

/-- Looking up a variable never fails for what its value is, other than for its type. -/
theorem placeholder_ne_outOfRange {own : String} :
    values.placeholder own ≠ .error (.pluralOutOfRange name value offset) := by
  rw [Placeholders.placeholder]
  split <;> simp

theorem selector_ne_outOfRange {own : String} :
    values.selector own ≠ .error (.pluralOutOfRange name value offset) := by
  rw [Placeholders.selector]
  split <;> simp

theorem count_ne_outOfRange {own : String} : values.count own ≠ .error (.pluralOutOfRange name value offset) := by
  rw [Placeholders.count]
  split <;> simp

theorem pluralPart_ne_outOfRange : pluralPart values left part ≠ .error (.pluralOutOfRange name value offset) := by
  cases part with
  | text | remainder | plural | select => simp [pluralPart]
  | placeholder own => exact placeholder_ne_outOfRange

theorem flatPart_ne_outOfRange : flatPart values part ≠ .error (.pluralOutOfRange name value offset) := by
  cases part with
  | text | remainder | plural | select => simp [flatPart]
  | placeholder own => exact placeholder_ne_outOfRange

/-- A plural is out of range exactly if its own number and offset are too far apart. -/
theorem pluralText_eq_outOfRange {own : String} {away : Int64} :
    pluralText locale values own away cases = .error (.pluralOutOfRange name value offset) ↔
      own = name ∧ away = offset ∧ values.count name = .ok value ∧ difference? value offset = none := by
  rw [pluralText]
  constructor
  · intro failed
    cases counted : values.count own with
    | error e =>
      simp only [counted, bind, Except.bind, Except.error.injEq] at failed
      exact absurd (failed ▸ counted) count_ne_outOfRange
    | ok n =>
      simp only [counted, bind, Except.bind] at failed
      split at failed
      next far =>
        cases failed
        exact ⟨rfl, rfl, counted, far⟩
      next left near =>
        split at failed
        next => cases failed
        next parts chosen =>
          obtain ⟨before, part, after, -, -, broken⟩ := (mapM_eq_error parts).mp (bind_pure_eq_error.mp failed)
          exact absurd broken pluralPart_ne_outOfRange
  · rintro ⟨rfl, rfl, counted, far⟩
    simp only [counted, far, bind, Except.bind]

end OutOfRange

/-- The text of a select, as far as the part that rendering comes to. -/
theorem selectPart_inside {name value : String} {cases : List (Option String × List MessagePart)}
    {before after : List MessagePart} {texts : List String} (selected : values.selector name = .ok value)
    (chosen : selectCase? cases value = some (before ++ part :: after))
    (rendered : before.mapM (selectPart locale values) = .ok texts) :
    selectPart locale values (.select name cases) = (do
      let text ← selectPart locale values part
      let others ← after.mapM (selectPart locale values)
      return String.join texts ++ text ++ String.join others) := by
  rw [selectPart_select, selected]
  simp only [bind, Except.bind, chosen]
  rw [selectParts_eq, List.mapM_append, rendered, List.mapM_cons]
  cases selectPart locale values part with
  | error e => rfl
  | ok text =>
    cases after.mapM (selectPart locale values) with
    | error e => rfl
    | ok others =>
      refine congrArg Except.ok ?_
      rw [String.join_append, String.join_cons, String.append_assoc]

/-- A part that is reached and has no text leaves none to the whole either. -/
theorem ReachedFrom.fails (reached : target.ReachedFrom locale values part)
    (failed : selectPart locale values target = .error e) : selectPart locale values part = .error e := by
  induction reached with
  | here => exact failed
  | inside selected chosen rendered _ ih =>
    rw [selectPart_inside selected chosen rendered, ih]
    rfl

/-- The text of a part that is reached stands as it is within the text of the whole. -/
theorem ReachedFrom.within (reached : target.ReachedFrom locale values part) {own text : String}
    (printed : selectPart locale values target = .ok own) (whole : selectPart locale values part = .ok text) :
    ∃ before after, text = before ++ own ++ after := by
  induction reached generalizing text with
  | here =>
    obtain rfl := Except.ok.inj (printed.symm.trans whole)
    exact ⟨"", "", by simp⟩
  | inside selected chosen rendered _ ih =>
    rw [selectPart_inside selected chosen rendered] at whole
    obtain ⟨inner, here, others⟩ := exceptBind_eq_ok.mp whole
    obtain ⟨texts, -, rfl⟩ := exceptMap_eq_ok.mp others
    obtain ⟨before, after, rfl⟩ := ih here
    exact ⟨_ ++ before, after ++ _, by simp only [String.append_assoc]; rfl⟩

/-- Whatever is out of range is a plural that is reached. -/
theorem exists_reachedFrom (failed : selectPart locale values part = .error (.pluralOutOfRange name value offset)) :
    ∃ cases, ReachedFrom locale values (.plural name offset cases) part ∧ values.count name = .ok value ∧
      difference? value offset = none := by
  induction part using bySelects with
  | text s => simp [selectPart] at failed
  | remainder => simp [selectPart] at failed
  | placeholder own => exact absurd (by simpa only [selectPart] using failed) placeholder_ne_outOfRange
  | plural own away cases =>
    rw [selectPart] at failed
    obtain ⟨rfl, rfl, counted, far⟩ := pluralText_eq_outOfRange.mp failed
    exact ⟨cases, .here, counted, far⟩
  | select own cases ih =>
    rw [selectPart_select] at failed
    cases selected : values.selector own with
    | error e =>
      simp only [selected, bind, Except.bind, Except.error.injEq] at failed
      exact absurd (failed ▸ selected) selector_ne_outOfRange
    | ok label =>
      simp only [selected, bind, Except.bind] at failed
      split at failed
      next => cases failed
      next parts chosen =>
        rw [selectParts_eq] at failed
        obtain ⟨before, part, after, rfl, earlier, broken⟩ := (mapM_eq_error parts).mp (bind_pure_eq_error.mp failed)
        obtain ⟨entry, among, split⟩ := mem_of_selectCase? chosen
        obtain ⟨cases', reached, out⟩ := ih entry among part (by simp [split]) broken
        -- All parts before the one that fails have texts, so rendering does come to it.
        obtain ⟨texts, rendered⟩ := exists_mapM_eq_ok earlier
        exact ⟨cases', .inside selected chosen rendered reached, out⟩

end MessagePart

namespace Message

open MessagePart

variable {m : Message} {values : Placeholders} {name : String} {value offset : Int64}
  {cases : List (PluralLabel × List MessagePart)}

/-- Rendering a message comes to a part: a message that starts with a choice is that choice alone. -/
def ComesTo (m : Message) (values : Placeholders) (target : MessagePart) : Prop :=
  ∃ first rest, m.parts = first :: rest ∧ target.ReachedFrom (m.locale.getD defaultLocale) values first

theorem text?_of_choice {first : MessagePart} {rest : List MessagePart} (parts : m.parts = first :: rest)
    (choice : first.isChoice = true) :
    m.text? values = (selectPart (m.locale.getD defaultLocale) values first).map some := by
  rw [text?, parts]
  cases first with
  | text | placeholder | remainder => cases choice
  | plural name offset cases => rw [selectPart]
  | select name cases => rfl

theorem ComesTo.choice (comes : m.ComesTo values (.plural name offset cases)) :
    ∃ first, MessagePart.ReachedFrom (m.locale.getD defaultLocale) values (.plural name offset cases) first ∧
      m.text? values = (selectPart (m.locale.getD defaultLocale) values first).map some := by
  obtain ⟨first, rest, parts, reached⟩ := comes
  refine ⟨first, reached, text?_of_choice parts ?_⟩
  cases reached <;> rfl

/-- A message is out of range exactly if a plural is that rendering comes to. -/
theorem text?_eq_outOfRange : m.text? values = .error (.pluralOutOfRange name value offset) ↔
    ∃ cases, m.ComesTo values (.plural name offset cases) ∧ values.count name = .ok value ∧
      difference? value offset = none := by
  constructor
  · intro failed
    obtain ⟨id, locale, parts⟩ := m
    have flat (failed : (parts.mapM (flatPart values)).map (fun texts => some (String.join texts)) =
        .error (.pluralOutOfRange name value offset)) : False := by
      obtain ⟨_, _, _, -, -, broken⟩ := (mapM_eq_error parts).mp (bind_pure_eq_error.mp failed)
      exact flatPart_ne_outOfRange broken
    cases parts with
    | nil => cases failed
    | cons first rest =>
      have choice (isChoice : first.isChoice = true) : ∃ cases,
          ComesTo ⟨id, locale, first :: rest⟩ values (.plural name offset cases) ∧ values.count name = .ok value ∧
            difference? value offset = none := by
        rw [text?_of_choice rfl isChoice] at failed
        obtain ⟨cases, reached, out⟩ := exists_reachedFrom (bind_pure_eq_error.mp failed)
        exact ⟨cases, ⟨first, rest, rfl, reached⟩, out⟩
      cases first with
      | plural | select => exact choice rfl
      | text | placeholder | remainder => exact (flat failed).elim
  · rintro ⟨cases, comes, counted, far⟩
    obtain ⟨first, reached, text⟩ := comes.choice
    have failed : selectPart (m.locale.getD defaultLocale) values (.plural name offset cases) =
        .error (.pluralOutOfRange name value offset) := by
      rw [selectPart]
      exact pluralText_eq_outOfRange.mpr ⟨rfl, rfl, counted, far⟩
    rw [text, reached.fails failed]
    rfl

theorem render_eq_outOfRange {S : Type} [Sink S] {s : S} :
    (m.render values s).1 = .error (.pluralOutOfRange name value offset) ↔
      m.text? values = .error (.pluralOutOfRange name value offset) := by
  rw [Message.render]
  cases m.text? values with
  | error e => simp
  | ok text =>
    cases text with
    | none => simp
    | some text =>
      simp only
      cases (Sink.append text s).1 <;> simp

/-- A plural that rendering comes to with this number counts exactly. -/
structure CountsExactly (m : Message) (values : Placeholders) (name : String) (value offset : Int64)
    (cases : List (PluralLabel × List MessagePart)) : Prop where
  /-- The difference of the words is that of the numbers, and so is its absolute value. -/
  difference : difference? value offset = some (value - offset) ∧
    (value - offset).toInt = value.toInt - offset.toInt ∧
    (value - offset).abs.toUInt64.toNat = (value.toInt - offset.toInt).natAbs
  text : ∀ own, pluralText (m.locale.getD defaultLocale) values name offset cases = .ok own ↔
    ∃ parts texts, Chooses (m.locale.getD defaultLocale) cases value.toInt (value.toInt - offset.toInt) (some parts) ∧
      List.Forall₂ (Shows values (value.toInt - offset.toInt)) parts texts ∧ own = String.join texts
  caseless : Chooses (m.locale.getD defaultLocale) cases value.toInt (value.toInt - offset.toInt) none →
    pluralText (m.locale.getD defaultLocale) values name offset cases = .error (.noPluralCase name value)
  /-- Without a text of the plural the message has none, and otherwise the text of the plural stands within it. -/
  fails : ∀ e, pluralText (m.locale.getD defaultLocale) values name offset cases = .error e → m.text? values = .error e
  within : ∀ own text, pluralText (m.locale.getD defaultLocale) values name offset cases = .ok own →
    m.text? values = .ok text → ∃ before after, text = some (before ++ own ++ after)

theorem ComesTo.countsExactly (comes : m.ComesTo values (.plural name offset cases))
    (counted : values.count name = .ok value) (inRange : InRange (value.toInt - offset.toInt)) :
    m.CountsExactly values name value offset cases := by
  obtain ⟨near, exact'⟩ := difference?_eq_some inRange
  obtain ⟨first, reached, whole⟩ := comes.choice
  have own : selectPart (m.locale.getD defaultLocale) values (.plural name offset cases) =
      pluralText (m.locale.getD defaultLocale) values name offset cases := by rw [selectPart]
  refine ⟨⟨near, exact', by rw [toNat_abs, exact']⟩, fun text => ?_, fun caseless => ?_, fun e failed => ?_,
    fun text all printed rendered => ?_⟩
  · rw [← exact']
    exact pluralText_eq_ok counted near
  · rw [← exact', ← pluralCase?_eq_iff] at caseless
    simp only [pluralText, counted, near, caseless, bind, Except.bind]
  · rw [whole, reached.fails (own.trans failed)]
    rfl
  · rw [whole] at rendered
    obtain ⟨inner, here, rfl⟩ := exceptMap_eq_ok.mp rendered
    obtain ⟨before, after, rfl⟩ := reached.within (own.trans printed) here
    exact ⟨before, after, rfl⟩

/-- Where the sink takes the text of a message, the text of a plural that rendering comes to is appended within it. -/
theorem ComesTo.appends (comes : m.ComesTo values (.plural name offset cases)) {S : Type} [Sink S] {s : S}
    (rendered : (m.render values (Recorder.watch s)).1 = .ok ()) :
    ∃ own before after, pluralText (m.locale.getD defaultLocale) values name offset cases = .ok own ∧
      (m.render values (Recorder.watch s)).2.log = [.append (before ++ own ++ after) (.ok ())] := by
  obtain ⟨first, reached, whole⟩ := comes.choice
  have plural : selectPart (m.locale.getD defaultLocale) values (.plural name offset cases) =
      pluralText (m.locale.getD defaultLocale) values name offset cases := by rw [selectPart]
  have asked := asked_render m values s
  rw [rendered, whole] at asked
  rcases asked.of_ok with ⟨nothing, -⟩ | ⟨all, something, log⟩
  · obtain ⟨_, -, ⟨⟩⟩ := exceptMap_eq_ok.mp nothing
  obtain ⟨all, text, ⟨⟩⟩ := exceptMap_eq_ok.mp something
  cases printed : pluralText (m.locale.getD defaultLocale) values name offset cases with
  | error e => cases text.symm.trans (reached.fails (plural.trans printed))
  | ok own =>
    obtain ⟨before, after, rfl⟩ := reached.within (plural.trans printed) text
    exact ⟨own, before, after, rfl, log⟩

/-- Whatever the number and the offset of a plural are that rendering comes to: if sixty-four bits do not hold their
difference the message fails for it and the sink is left as it is. Otherwise the plural counts exactly, and a message
that is rendered has appended the parts of the case of the difference, each of them as it is shown with the difference,
between what stands before and after the plural. -/
theorem plural_arithmetic_exact (m : Message) (values : Placeholders) {S : Type} [Sink S] (s : S) :
    (∀ name value offset,
      ((m.render values s).1 = .error (.pluralOutOfRange name value offset) ↔
        ∃ cases, m.ComesTo values (.plural name offset cases) ∧ values.get? name = some (.number value) ∧
          ¬ InRange (value.toInt - offset.toInt)) ∧
      ((m.render values s).1 = .error (.pluralOutOfRange name value offset) → (m.render values s).2 = s)) ∧
    ∀ name offset cases value, m.ComesTo values (.plural name offset cases) →
      values.get? name = some (.number value) → InRange (value.toInt - offset.toInt) →
        m.CountsExactly values name value offset cases ∧
          let watched := m.render values (Recorder.watch s)
          m.render values s = (watched.1, watched.2.sink) ∧ Asked (m.text? values) watched.2.log watched.1 ∧
            (watched.1 = .ok () → ∃ parts texts before after,
              Chooses (m.locale.getD defaultLocale) cases value.toInt (value.toInt - offset.toInt) (some parts) ∧
                List.Forall₂ (Shows values (value.toInt - offset.toInt)) parts texts ∧
                watched.2.log = [.append (before ++ String.join texts ++ after) (.ok ())]) := by
  refine ⟨fun name value offset => ⟨?_, fun failed => ?_⟩, fun name offset cases value comes known inRange => ?_⟩
  · simp only [render_eq_outOfRange, text?_eq_outOfRange, count_eq_ok, difference?_eq_none, InRange]
  · rw [Message.render, render_eq_outOfRange.mp failed]
  · have exactly := comes.countsExactly (count_eq_ok.mpr known) inRange
    refine ⟨exactly, render_watch m values s, asked_render m values s, fun rendered => ?_⟩
    obtain ⟨own, before, after, printed, log⟩ := comes.appends rendered
    obtain ⟨parts, texts, chooses, shows, rfl⟩ := (exactly.text own).mp printed
    exact ⟨parts, texts, before, after, chooses, shows, log⟩

def ledgerCases : List (PluralLabel × List MessagePart) :=
  [(.exactly 0, [.text "nothing"]), (.category .other, [.text "much"]), (.category .few, [.remainder, .text " coins"])]

/-- What is left of a sum after the fee of one coin. -/
def ledger : Message :=
  ⟨9, some "ar", [.select "owner" [(none, [.text "Left: ", .plural "sum" 1 ledgerCases])]]⟩

/-- The fee makes the least sum out of range, and the one above it the least sum, which ends in 08 and is appended in
full. -/
theorem plural_arithmetic_exact_ledger :
    let account (sum : Int64) : Placeholders := SortedMap.ofList [("owner", .text "Ann"), ("sum", .number sum)]
    (ledger.render (account Int64.minValue) OutputBuffer.empty).1 =
        .error (.pluralOutOfRange "sum" Int64.minValue 1) ∧
      MessagePart.pluralText "ar" (account (Int64.minValue + 1)) "sum" 1 ledgerCases =
        .ok "-9223372036854775808 coins" ∧
      ∃ parts texts before after,
        Chooses "ar" ledgerCases (Int64.minValue + 1).toInt Int64.minValue.toInt (some parts) ∧
        List.Forall₂ (Shows (account (Int64.minValue + 1)) Int64.minValue.toInt) parts texts ∧
        (ledger.render (account (Int64.minValue + 1)) (Recorder.watch OutputBuffer.empty)).2.log =
          [.append (before ++ String.join texts ++ after) (.ok ())] := by
  intro account
  have owner (sum : Int64) : (account sum).selector "owner" = .ok "Ann" := by
    simp [account, Placeholders.selector, SortedMap.ofList, SortedMap.get?_insert]
  have comes (sum : Int64) : ledger.ComesTo (account sum) (.plural "sum" 1 ledgerCases) :=
    ⟨_, [], rfl, @ReachedFrom.inside _ _ _ "owner" _ "Ann" [.text "Left: "] _ [] ["Left: "] (owner sum) rfl rfl .here⟩
  have known (sum : Int64) : (account sum).get? "sum" = some (.number sum) := by
    simp [account, SortedMap.ofList, SortedMap.get?_insert]
  have few : Chooses "ar" ledgerCases (Int64.minValue + 1).toInt Int64.minValue.toInt
      (some [.remainder, .text " coins"]) := by
    rw [← pluralCase?_eq_iff]
    rfl
  obtain ⟨failing, -⟩ := plural_arithmetic_exact ledger (account Int64.minValue) OutputBuffer.empty
  obtain ⟨-, counting⟩ := plural_arithmetic_exact ledger (account (Int64.minValue + 1)) OutputBuffer.empty
  obtain ⟨exactly, -, -, appends⟩ := counting _ _ _ _ (comes _) (known _) (by decide)
  refine ⟨(failing _ _ _).1.mpr ⟨_, comes _, known _, by decide⟩, ?_, appends (by decide +kernel)⟩
  exact (exactly.text _).mpr ⟨_, _, few, .cons .remainder (.cons (.text _) .nil), by decide +kernel⟩

end Message

end TemplateEngine
