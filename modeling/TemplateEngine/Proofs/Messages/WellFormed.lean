import TemplateEngine.Proofs.Messages.Choices
import TemplateEngine.Proofs.Reads
import TemplateEngine.Sink.Buffer

namespace TemplateEngine

namespace MessagePart

/-- A part that has a text in a message without choices. -/
inductive Flat : MessagePart → Prop
  | text (s : String) : Flat (.text s)
  | placeholder (name : String) : Flat (.placeholder name)

/-- A part that has a text in a plural case. -/
inductive Counted : MessagePart → Prop
  | flat {part : MessagePart} (flat : part.Flat) : Counted part
  | remainder : Counted .remainder

/-- A part that has a text in a select case. -/
inductive WellFormed : MessagePart → Prop
  | flat {part : MessagePart} (flat : part.Flat) : WellFormed part
  | plural {name offset cases} {others : List MessagePart} (other : (.category .other, others) ∈ cases)
      (counted : ∀ entry ∈ cases, ∀ part ∈ entry.2, part.Counted) : WellFormed (.plural name offset cases)
  | select {name cases} {others : List MessagePart} (other : (none, others) ∈ cases)
      (parts : ∀ entry ∈ cases, ∀ part ∈ entry.2, WellFormed part) : WellFormed (.select name cases)

/-- The cases of a choice, without their labels. -/
def contents : MessagePart → List (List MessagePart)
  | .plural _ _ cases => cases.map Prod.snd
  | .select _ cases => cases.map Prod.snd
  | _ => []

/-- A part occurs somewhere in a list of parts. -/
inductive Within (part : MessagePart) : List MessagePart → Prop
  | here {parts} (member : part ∈ parts) : Within part parts
  | inside {choice parts chosen} (member : choice ∈ parts) (among : chosen ∈ choice.contents)
      (within : Within part chosen) : Within part parts

theorem Within.mono {part : MessagePart} {parts others : List MessagePart} (within : part.Within parts)
    (among : ∀ inner ∈ parts, inner ∈ others) : part.Within others := by
  cases within with
  | here member => exact .here (among _ member)
  | inside member chosen within => exact .inside (among _ member) chosen within

theorem not_within_nil {part : MessagePart} : ¬ part.Within [] := by
  rintro (member | ⟨member⟩) <;> cases member

theorem forall_within_cons {p : MessagePart → Prop} {first : MessagePart} {rest : List MessagePart} :
    (∀ part : MessagePart, part.Within (first :: rest) → p part) ↔
      p first ∧ (∀ chosen ∈ first.contents, ∀ part : MessagePart, part.Within chosen → p part) ∧
        ∀ part : MessagePart, part.Within rest → p part := by
  constructor
  · intro all
    exact ⟨all first (.here List.mem_cons_self),
      fun chosen among part within => all part (.inside List.mem_cons_self among within),
      fun part within => all part (within.mono fun inner member => List.mem_cons_of_mem first member)⟩
  · rintro ⟨head, inner, tail⟩ part within
    cases within with
    | here member =>
      rcases List.mem_cons.mp member with rfl | member
      · exact head
      · exact tail part (.here member)
    | inside member among within =>
      rcases List.mem_cons.mp member with rfl | member
      · exact inner _ among part within
      · exact tail part (.inside member among within)

/-- The variable of a part has a value of the type that the part asks for; a number is near enough to the offset. -/
def Fed (values : Placeholders) : MessagePart → Prop
  | .placeholder name => ∃ value, values.get? name = some value
  | .select name _ => ∃ s, values.get? name = some (.text s)
  | .plural name offset _ => ∃ n : Int64, values.get? name = some (.number n) ∧
      Int64.minValue.toInt ≤ n.toInt - offset.toInt ∧ n.toInt - offset.toInt ≤ Int64.maxValue.toInt
  | .text _ | .remainder => True

end MessagePart

/-- An error that puts the blame on the message. -/
def MessageError.OfForm : MessageError → Prop
  | .unexpectedPart .. | .noSelectCase .. | .noPluralCase .. => True
  | _ => False

namespace Message

/-- A message that starts with a choice is that choice alone, so that what follows the choice does not matter. -/
inductive WellFormed (m : Message) : Prop
  | flat (parts : ∀ part ∈ m.parts, part.Flat)
  | choice {first rest} (parts : m.parts = first :: rest) (isChoice : first.isChoice) (wellFormed : first.WellFormed)

def Supplied (m : Message) (values : Placeholders) : Prop :=
  ∀ part : MessagePart, part.Within m.parts → part.Fed values

end Message

variable {locale : String} {values : Placeholders} {e : MessageError}

namespace MessagePart

/-- Some part among these is why a message fails: the value of its variable is missing or of the wrong type, or out of
range. -/
def Blamed (values : Placeholders) (parts : List MessagePart) (e : MessageError) : Prop :=
  ∃ part : MessagePart, part.Within parts ∧ ¬ part.Fed values ∧ ¬ e.OfForm

theorem Blamed.mono {parts others : List MessagePart} (blamed : Blamed values parts e)
    (among : ∀ part ∈ parts, part ∈ others) : Blamed values others e := by
  obtain ⟨part, within, unfed, form⟩ := blamed
  exact ⟨part, within.mono among, unfed, form⟩

theorem Blamed.inside {choice : MessagePart} {chosen : List MessagePart} (among : chosen ∈ choice.contents)
    (blamed : Blamed values chosen e) : Blamed values [choice] e := by
  obtain ⟨part, within, unfed, form⟩ := blamed
  exact ⟨part, .inside List.mem_cons_self among within, unfed, form⟩

theorem blamed_placeholder {name : String} (failed : values.placeholder name = .error e) :
    Blamed values [.placeholder name] e := by
  rw [Placeholders.placeholder] at failed
  split at failed
  · cases failed
  next missing =>
    cases failed
    exact ⟨_, .here List.mem_cons_self, by simp [Fed, missing], id⟩

theorem Flat.blamed {part : MessagePart} (flat : part.Flat) (failed : flatPart values part = .error e) :
    Blamed values [part] e := by
  cases flat with
  | text s => cases failed
  | placeholder name => exact blamed_placeholder failed

theorem Counted.blamed {part : MessagePart} (counted : part.Counted) {left : Int64}
    (failed : pluralPart values left part = .error e) : Blamed values [part] e := by
  cases counted with
  | remainder => cases failed
  | flat flat =>
    cases flat with
    | text s => cases failed
    | placeholder name => exact blamed_placeholder failed

theorem blamed_selector {name : String} (cases : List (Option String × List MessagePart))
    (failed : values.selector name = .error e) : Blamed values [.select name cases] e := by
  refine ⟨_, .here List.mem_cons_self, ?_⟩
  rw [Placeholders.selector] at failed
  split at failed
  · cases failed
  next number =>
    cases failed
    exact ⟨by simp [Fed, number], id⟩
  next missing =>
    cases failed
    exact ⟨by simp [Fed, missing], id⟩

theorem blamed_count {name : String} (offset : Int64) (cases : List (PluralLabel × List MessagePart))
    (failed : values.count name = .error e) : Blamed values [.plural name offset cases] e := by
  refine ⟨_, .here List.mem_cons_self, ?_⟩
  rw [Placeholders.count] at failed
  split at failed
  · cases failed
  next text =>
    cases failed
    exact ⟨by simp [Fed, text], id⟩
  next missing =>
    cases failed
    exact ⟨by simp [Fed, missing], id⟩

theorem count_eq_ok {name : String} {n : Int64} : values.count name = .ok n ↔ values.get? name = some (.number n) := by
  rw [Placeholders.count]
  split <;> simp_all

theorem difference?_eq_none {a b : Int64} : difference? a b = none ↔
    ¬ (Int64.minValue.toInt ≤ a.toInt - b.toInt ∧ a.toInt - b.toInt ≤ Int64.maxValue.toInt) := by
  simp [difference?]

theorem blamed_pluralText {name : String} {offset : Int64} {cases : List (PluralLabel × List MessagePart)}
    {others : List MessagePart} (other : (.category .other, others) ∈ cases)
    (counted : ∀ entry ∈ cases, ∀ part ∈ entry.2, part.Counted)
    (failed : pluralText locale values name offset cases = .error e) :
    Blamed values [.plural name offset cases] e := by
  rw [pluralText] at failed
  cases counting : values.count name with
  | error e' =>
    simp only [counting, bind, Except.bind, Except.error.injEq] at failed
    exact failed ▸ blamed_count offset cases counting
  | ok n =>
    simp only [counting, bind, Except.bind] at failed
    split at failed
    next far =>
      cases failed
      refine ⟨_, .here List.mem_cons_self, ?_, id⟩
      rintro ⟨n', found, near⟩
      obtain rfl : n = n' := by simpa [count_eq_ok.mp counting] using found
      exact difference?_eq_none.mp far near
    next left near =>
      split at failed
      next nothing => exact absurd nothing (pluralCase?_ne_none other n left)
      next parts chosen =>
        obtain ⟨entry, among, rfl⟩ := mem_of_pluralCase? chosen
        have traversal : entry.2.mapM (pluralPart values left) = .error e := bind_pure_eq_error.mp failed
        obtain ⟨before, part, after, split, -, broken⟩ := (mapM_eq_error entry.2).mp traversal
        have member : part ∈ entry.2 := by simp [split]
        refine .inside (List.mem_map_of_mem among) (((counted entry among part member).blamed broken).mono ?_)
        simpa using member

/-- A well-formed part of a select case fails only for values that it lacks. The induction is on how it is formed. -/
theorem WellFormed.blamed {part : MessagePart} (wellFormed : part.WellFormed)
    (failed : selectPart locale values part = .error e) : Blamed values [part] e := by
  induction wellFormed with
  | flat flat =>
    cases flat with
    | text s => simp [selectPart] at failed
    | placeholder name => exact blamed_placeholder (by simpa only [selectPart] using failed)
  | plural other counted => exact blamed_pluralText other counted (by simpa only [selectPart] using failed)
  | @select name cases others other parts ih =>
    rw [selectPart_select] at failed
    cases selecting : values.selector name with
    | error e' =>
      simp only [selecting, bind, Except.bind, Except.error.injEq] at failed
      exact failed ▸ blamed_selector cases selecting
    | ok value =>
      simp only [selecting, bind, Except.bind] at failed
      split at failed
      next nothing => exact absurd nothing (selectCase?_ne_none other value)
      next chosen =>
        obtain ⟨entry, among, rfl⟩ := mem_of_selectCase? chosen
        rw [selectParts_eq] at failed
        obtain ⟨before, part, after, split, -, broken⟩ := (mapM_eq_error entry.2).mp (bind_pure_eq_error.mp failed)
        have member : part ∈ entry.2 := by simp [split]
        refine .inside (List.mem_map_of_mem among) ((ih entry among part member broken).mono ?_)
        simpa using member

end MessagePart

namespace Message

open MessagePart

/-- A message of texts and placeholders is the list of their texts. -/
theorem text?_of_flat {m : Message} (parts : ∀ part ∈ m.parts, part.Flat) (some' : m.parts ≠ []) :
    m.text? values = (m.parts.mapM (flatPart values)).map fun texts => some (String.join texts) := by
  obtain ⟨id, own, all⟩ := m
  cases all with
  | nil => exact absurd rfl some'
  | cons first rest => cases parts first List.mem_cons_self <;> rfl

theorem WellFormed.blamed {m : Message} (wellFormed : m.WellFormed) (failed : m.text? values = .error e) :
    Blamed values m.parts e := by
  cases wellFormed with
  | flat parts =>
    by_cases nothing : m.parts = []
    · simp [text?, nothing] at failed
    · rw [text?_of_flat parts nothing] at failed
      obtain ⟨before, part, after, split, -, broken⟩ := (mapM_eq_error m.parts).mp (bind_pure_eq_error.mp failed)
      have member : part ∈ m.parts := by simp [split]
      exact ((parts part member).blamed broken).mono (by simpa using member)
  | @choice first rest parts isChoice wellFormed =>
    have blamed : Blamed values [first] e := by
      rw [text?, parts] at failed
      cases wellFormed with
      | flat flat => cases flat <;> cases isChoice
      | plural other counted => exact blamed_pluralText other counted (bind_pure_eq_error.mp failed)
      | select other inner => exact (MessagePart.WellFormed.select other inner).blamed (bind_pure_eq_error.mp failed)
    exact blamed.mono (by simp [parts])

end Message

/-- A well-formed message is rendered whenever its variables have values of the right types and the sink takes its
text, and no values at all make it fail for its form. -/
theorem Message.wellFormed_renders {m : Message} (wellFormed : m.WellFormed) (values : Placeholders) {S : Type}
    [Sink S] (s : S) :
    (m.Supplied values → (∀ text, (Sink.append text s).1 = .ok ()) → (m.render values s).1 = .ok ()) ∧
      ∀ e, (m.render values s).1 = .error e → ¬ e.OfForm := by
  rw [Message.render]
  cases rendered : m.text? values with
  | error e =>
    obtain ⟨part, within, unfed, form⟩ := wellFormed.blamed rendered
    refine ⟨fun supplied => absurd (supplied part within) unfed, ?_⟩
    rintro _ ⟨⟩
    exact form
  | ok text =>
    cases text with
    | none => exact ⟨fun _ _ => rfl, by simp⟩
    | some text =>
      simp only
      constructor
      · intro _ takes
        rw [takes text]
        rfl
      · intro e failed
        cases answer : (Sink.append text s).1 with
        | ok taken => simp [answer] at failed
        | error reason =>
          rw [answer] at failed
          cases failed
          exact fun form => form

/-- An invitation, to which a stray part does no harm behind the choice. -/
def invitation : Message :=
  ⟨7, some "pl", [.select "host" [(some "Ann", [.text "Ann and ", .plural "guests" 1
    [(.exactly 0, [.text "nobody"]), (.category .other, [.remainder, .text " friends of ", .placeholder "host"])]]),
      (none, [.text "everybody"])], .remainder]⟩

/-- The variable of the select is a placeholder too. -/
theorem wellFormed_renders_invitation :
    let values : Placeholders := SortedMap.ofList [("host", .text "Ann"), ("guests", .number 3)]
    invitation.WellFormed ∧ invitation.Supplied values ∧
      (invitation.render values OutputBuffer.empty).1 = .ok () := by
  intro values
  have wellFormed : invitation.WellFormed := by
    have flat : MessagePart.Flat (.text "nobody") ∧ MessagePart.Flat (.text " friends of ") ∧
        MessagePart.Flat (.placeholder "host") := ⟨.text _, .text _, .placeholder _⟩
    have guests : MessagePart.WellFormed (.plural "guests" 1 [(.exactly 0, [.text "nobody"]),
        (.category .other, [.remainder, .text " friends of ", .placeholder "host"])]) :=
      .plural (List.mem_cons_of_mem _ List.mem_cons_self)
        (by simp [MessagePart.Counted.remainder, MessagePart.Counted.flat, flat])
    have plain : MessagePart.WellFormed (.text "Ann and ") ∧ MessagePart.WellFormed (.text "everybody") :=
      ⟨.flat (.text _), .flat (.text _)⟩
    exact .choice rfl rfl (.select (List.mem_cons_of_mem _ List.mem_cons_self) (by simp [guests, plain]))
  have supplied : invitation.Supplied values := by
    have text (s : String) : MessagePart.Fed values (.text s) := trivial
    have remainder : MessagePart.Fed values .remainder := trivial
    have host : MessagePart.Fed values (.placeholder "host") := ⟨.text "Ann", by decide⟩
    have choice (cases : List (Option String × List MessagePart)) : MessagePart.Fed values (.select "host" cases) :=
      ⟨"Ann", by decide⟩
    have guests (cases : List (PluralLabel × List MessagePart)) : MessagePart.Fed values (.plural "guests" 1 cases) :=
      ⟨3, by decide, by decide, by decide⟩
    simp [Message.Supplied, invitation, MessagePart.forall_within_cons, MessagePart.not_within_nil,
      MessagePart.contents, text, remainder, host, choice, guests]
  exact ⟨wellFormed, supplied,
    (Message.wellFormed_renders wellFormed values OutputBuffer.empty).1 supplied fun _ => rfl⟩

end TemplateEngine
