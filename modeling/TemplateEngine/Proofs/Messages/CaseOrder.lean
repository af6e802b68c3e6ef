import Mathlib.Data.List.Nodup
import Mathlib.Logic.Relation
import TemplateEngine.Proofs.Messages.WellFormed

namespace TemplateEngine

namespace MessagePart

variable {locale : String} {values : Placeholders} {L : Type}

/-- The labels of the cases of a choice differ from each other. -/
def Labelled : MessagePart → Prop
  | .plural _ _ cases => (cases.map Prod.fst).Nodup
  | .select _ cases => (cases.map Prod.fst).Nodup
  | _ => True

/-- A choice with the same cases in another order. -/
inductive Reorders : MessagePart → MessagePart → Prop
  | plural {name offset cases cases'} (order : cases.Perm cases') :
      Reorders (.plural name offset cases) (.plural name offset cases')
  | select {name cases cases'} (order : cases.Perm cases') : Reorders (.select name cases) (.select name cases')

/-- At most one label passes a test. -/
def Single (test : L → Bool) : Prop := ∀ a b, test a = true → test b = true → a = b

theorem single_beq [BEq L] [LawfulBEq L] (label : L) : Single (· == label) := by
  intro a b first second
  exact (eq_of_beq first).trans (eq_of_beq second).symm

theorem isExactly_iff {count : Int64} {label : PluralLabel} :
    label.isExactly count = true ↔ ∃ n, label = .exactly n ∧ (n.toNat : Int) = count.toInt := by
  cases label <;> simp [PluralLabel.isExactly]

theorem single_isExactly (count : Int64) : Single (PluralLabel.isExactly count) := by
  intro a b first second
  obtain ⟨m, rfl, same⟩ := isExactly_iff.mp first
  obtain ⟨n, rfl, same'⟩ := isExactly_iff.mp second
  exact congrArg PluralLabel.exactly (UInt32.toNat.inj (Int.ofNat.inj (same.trans same'.symm)))

/-- Of cases with different labels, the one that passes is chosen wherever it stands. -/
theorem caseOf?_eq_some_iff {test : L → Bool} (single : Single test) {cases : List (L × List MessagePart)}
    (distinct : (cases.map Prod.fst).Nodup) {parts : List MessagePart} :
    caseOf? test cases = some parts ↔ ∃ label, test label = true ∧ (label, parts) ∈ cases := by
  constructor
  · intro chosen
    obtain ⟨entry, found, rfl⟩ := Option.map_eq_some_iff.mp chosen
    have passes := List.find?_some found
    exact ⟨entry.1, passes, List.mem_of_find?_eq_some found⟩
  · rintro ⟨label, passes, member⟩
    cases chosen : caseOf? test cases with
    | none =>
      rw [caseOf?, Option.map_eq_none_iff, List.find?_eq_none] at chosen
      exact absurd passes (chosen _ member)
    | some others =>
      obtain ⟨entry, found, rfl⟩ := Option.map_eq_some_iff.mp chosen
      have chosen := List.find?_some found
      have same : label = entry.1 := single _ _ passes chosen
      have entries := List.inj_on_of_nodup_map distinct member (List.mem_of_find?_eq_some found) same
      rw [← entries]

theorem caseOf?_perm {test : L → Bool} (single : Single test) {cases cases' : List (L × List MessagePart)}
    (distinct : (cases.map Prod.fst).Nodup) (order : cases.Perm cases') : caseOf? test cases' = caseOf? test cases := by
  have distinct' : (cases'.map Prod.fst).Nodup := (order.map Prod.fst).nodup_iff.mp distinct
  ext parts
  rw [caseOf?_eq_some_iff single distinct, caseOf?_eq_some_iff single distinct']
  simp only [order.mem_iff]

theorem pluralCase?_perm {cases cases' : List (PluralLabel × List MessagePart)}
    (distinct : (cases.map Prod.fst).Nodup) (order : cases.Perm cases') (count left : Int64) :
    pluralCase? locale cases' count left = pluralCase? locale cases count left := by
  have other : caseOf? PluralLabel.isOther cases' = caseOf? PluralLabel.isOther cases :=
    caseOf?_perm (single_beq (.category .other)) distinct order
  rw [pluralCase?_eq, pluralCase?_eq, caseOf?_perm (single_isExactly count) distinct order,
    caseOf?_perm (single_beq _) distinct order, other]

theorem selectCase?_perm {cases cases' : List (Option String × List MessagePart)}
    (distinct : (cases.map Prod.fst).Nodup) (order : cases.Perm cases') (value : String) :
    selectCase? cases' value = selectCase? cases value := by
  rw [selectCase?, selectCase?, caseOf?_perm (single_beq _) distinct order,
    caseOf?_perm (single_beq _) distinct order]

/-- In another order the same cases are chosen. -/
theorem Reorders.unselected {a b : MessagePart} (labelled : a.Labelled) (reorders : a.Reorders b) :
    a.Unselected locale values b := by
  cases reorders with
  | plural order => exact .plural fun count left _ _ => pluralCase?_perm labelled order count left
  | select order => exact .select fun value _ => selectCase?_perm labelled order value

theorem forall_within_append {p : MessagePart → Prop} {parts others : List MessagePart} :
    (∀ part : MessagePart, part.Within (parts ++ others) → p part) ↔
      (∀ part : MessagePart, part.Within parts → p part) ∧ ∀ part : MessagePart, part.Within others → p part := by
  induction parts with
  | nil => simp [not_within_nil]
  | cons first rest ih => simp only [List.cons_append, forall_within_cons, ih, and_assoc]

/-- The parts of a list are those before one of them, those within it, and those after it. -/
theorem forall_within_middle {p : MessagePart → Prop} {before after : List MessagePart} {a : MessagePart} :
    (∀ part : MessagePart, part.Within (before ++ a :: after) → p part) ↔
      (∀ part : MessagePart, part.Within before → p part) ∧ (∀ part : MessagePart, part.Within [a] → p part) ∧
        ∀ part : MessagePart, part.Within after → p part := by
  rw [forall_within_append, ← List.singleton_append, forall_within_append]

/-- What holds of all parts within a choice holds of the choice, and of the parts within its cases. -/
theorem forall_within_singleton {p : MessagePart → Prop} {a : MessagePart} :
    (∀ part : MessagePart, part.Within [a] → p part) ↔
      p a ∧ ∀ chosen ∈ a.contents, ∀ part : MessagePart, part.Within chosen → p part := by
  simp [forall_within_cons, not_within_nil]

/-- The contents of a case are replaced among those of all cases. -/
theorem forall_mem_replace {p : List MessagePart → Prop} {front back : List (L × List MessagePart)} {label : L}
    {parts others : List MessagePart}
    (each : ∀ chosen ∈ (front ++ (label, parts) :: back).map Prod.snd, p chosen) (other : p parts → p others) :
    ∀ chosen ∈ (front ++ (label, others) :: back).map Prod.snd, p chosen := by
  simp only [List.map_append, List.map_cons, List.forall_mem_append, List.forall_mem_cons] at each ⊢
  exact ⟨each.1, other each.2.1, each.2.2⟩

theorem mem_map_middle (front back : List (L × List MessagePart)) (label : L) (parts : List MessagePart) :
    parts ∈ (front ++ (label, parts) :: back).map Prod.snd :=
  List.mem_map_of_mem (a := (label, parts)) (List.mem_append_right front List.mem_cons_self)

theorem Replaces.labelled {a b : MessagePart} (replaces : a.Replaces Reorders b)
    (labelled : ∀ part : MessagePart, part.Within [a] → part.Labelled) :
    ∀ part : MessagePart, part.Within [b] → part.Labelled := by
  induction replaces with
  | here reorders =>
    rw [forall_within_singleton] at labelled ⊢
    cases reorders with
    | plural order | select order =>
      refine ⟨(order.map Prod.fst).nodup_iff.mp labelled.1, fun chosen among => labelled.2 chosen ?_⟩
      exact (order.map Prod.snd).mem_iff.mpr among
  | plural inside ih | select inside ih =>
    rw [forall_within_singleton] at labelled ⊢
    refine ⟨by simpa [Labelled] using labelled.1, forall_mem_replace labelled.2 fun inner => ?_⟩
    rw [forall_within_middle] at inner ⊢
    exact ⟨inner.1, ih inner.2.1, inner.2.2⟩

/-- Where a part is replaced, it has whatever all parts have. -/
theorem Replaces.among {r : MessagePart → MessagePart → Prop} {p : MessagePart → Prop} {a b : MessagePart}
    (replaces : a.Replaces r b) (each : ∀ part : MessagePart, part.Within [a] → p part) :
    a.Replaces (fun x y => p x ∧ r x y) b := by
  induction replaces with
  | here related => exact .here ⟨(forall_within_singleton.mp each).1, related⟩
  | plural inside ih =>
    have inner := (forall_within_singleton.mp each).2 _ (mem_map_middle _ _ _ _)
    exact .plural (ih (forall_within_middle.mp inner).2.1)
  | select inside ih =>
    have inner := (forall_within_singleton.mp each).2 _ (mem_map_middle _ _ _ _)
    exact .select (ih (forall_within_middle.mp inner).2.1)

/-- An exact label comes before a category, a category before the case for all other counts, and a label before the
case without one, wherever they stand. -/
def Prefers (locale : String) (values : Placeholders) : MessagePart → Prop
  | .plural name offset cases => ∀ count left, values.count name = .ok count → difference? count offset = some left →
      (∀ n parts, (.exactly n, parts) ∈ cases → (n.toNat : Int) = count.toInt →
        pluralText locale values name offset cases = (parts.mapM (pluralPart values left)).map String.join) ∧
      ((∀ n parts, (.exactly n, parts) ∈ cases → (n.toNat : Int) ≠ count.toInt) →
        ∀ parts, (.category (pluralCategory locale left.toInt), parts) ∈ cases →
          pluralText locale values name offset cases = (parts.mapM (pluralPart values left)).map String.join)
  | .select name cases => ∀ value, values.selector name = .ok value → ∀ parts, (some value, parts) ∈ cases →
      selectPart locale values (.select name cases) = (parts.mapM (selectPart locale values)).map String.join
  | _ => True

/-- A plural is the text of the case that it chooses. -/
theorem pluralText_eq {name : String} {offset count left : Int64} {cases : List (PluralLabel × List MessagePart)}
    {parts : List MessagePart} (counted : values.count name = .ok count) (near : difference? count offset = some left)
    (chosen : pluralCase? locale cases count left = some parts) :
    pluralText locale values name offset cases = (parts.mapM (pluralPart values left)).map String.join := by
  simp only [pluralText, counted, near, chosen, bind, Except.bind]
  cases parts.mapM (pluralPart values left) <;> rfl

theorem Labelled.prefers {part : MessagePart} (labelled : part.Labelled) : part.Prefers locale values := by
  cases part with
  | text | placeholder | remainder => trivial
  | plural name offset cases =>
    intro count left counted near
    refine ⟨fun n parts member same => pluralText_eq counted near ?_,
      fun none' parts member => pluralText_eq counted near ?_⟩
    · have exact' : caseOf? (PluralLabel.isExactly count) cases = some parts :=
        (caseOf?_eq_some_iff (single_isExactly count) labelled).mpr ⟨_, isExactly_iff.mpr ⟨n, rfl, same⟩, member⟩
      rw [pluralCase?_eq, exact', Option.some_or]
    · have exact' : caseOf? (PluralLabel.isExactly count) cases = none := by
        rw [caseOf?_eq_none_iff]
        intro label others among
        refine Bool.eq_false_iff.mpr fun passes => ?_
        obtain ⟨n, rfl, same⟩ := isExactly_iff.mp passes
        exact none' n others among same
      have category : caseOf? (· == .category (pluralCategory locale left.toInt)) cases = some parts :=
        (caseOf?_eq_some_iff (single_beq _) labelled).mpr ⟨_, beq_self_eq_true _, member⟩
      rw [pluralCase?_eq, exact', category, Option.none_or, Option.some_or]
  | select name cases =>
    intro value selected parts member
    have exact' : caseOf? (· == some value) cases = some parts :=
      (caseOf?_eq_some_iff (single_beq _) labelled).mpr ⟨_, beq_self_eq_true _, member⟩
    rw [selectPart_select, selected, ← selectParts_eq]
    simp only [selectCase?, exact', Option.some_or, bind, Except.bind]

end MessagePart

namespace Message

open MessagePart

/-- The labels of every choice in a message differ from each other. -/
def Labelled (m : Message) : Prop := ∀ part : MessagePart, part.Within m.parts → part.Labelled

/-- A message with the cases of one of its choices in another order. -/
abbrev Reorders : Message → Message → Prop := Replaces MessagePart.Reorders

theorem Reorders.labelled {m m' : Message} (reorders : m.Reorders m') (labelled : m.Labelled) : m'.Labelled := by
  obtain ⟨inside⟩ := reorders
  rw [Labelled, forall_within_middle] at labelled ⊢
  exact ⟨labelled.1, inside.labelled labelled.2.1, labelled.2.2⟩

theorem Reorders.text? {m m' : Message} (reorders : m.Reorders m') (labelled : m.Labelled) (values : Placeholders) :
    m'.text? values = m.text? values := by
  obtain ⟨inside⟩ := reorders
  have among := inside.among (forall_within_middle.mp labelled).2.1
  exact Replaces.text? (.part among) fun related => (related.2.unselected related.1).stands

/-- A message whose choices have different labels is rendered alike with the cases of any of its choices in any other
order, whatever the values and the sink: it appends the same text. Of the labels that fit, the most exact one is chosen
wherever it stands. -/
theorem case_order_irrelevant {m m' : Message} (labelled : m.Labelled)
    (reordered : Relation.ReflTransGen Reorders m m') (values : Placeholders) :
    m'.text? values = m.text? values ∧
      (∀ {S : Type} [Sink S] (s : S), m'.render values s = m.render values s ∧
        let watched := m'.render values (Recorder.watch s)
        m'.render values s = (watched.1, watched.2.sink) ∧ Asked (m.text? values) watched.2.log watched.1) ∧
      ∀ part : MessagePart, part.Within m.parts → part.Prefers (m.locale.getD defaultLocale) values := by
  have kept : m'.text? values = m.text? values ∧ m'.Labelled := by
    induction reordered with
    | refl => exact ⟨rfl, labelled⟩
    | tail _ last ih => exact ⟨(last.text? ih.2 values).trans ih.1, last.labelled ih.2⟩
  refine ⟨kept.1, fun s => ⟨?_, render_watch m' values s, ?_⟩, fun part within => (labelled part within).prefers⟩
  · rw [Message.render, Message.render, kept.1]
  · rw [← kept.1]
    exact asked_render m' values s

/-- The cases of the invitation for those who come with the host. -/
def guestCases : List (PluralLabel × List MessagePart) :=
  [(.exactly 0, [.text "nobody"]), (.category .other, [.remainder, .text " friends of ", .placeholder "host"])]

def hostCase (guests : List (PluralLabel × List MessagePart)) : Option String × List MessagePart :=
  (some "Ann", [.text "Ann and ", .plural "guests" 1 guests])

def otherCase : Option String × List MessagePart := (none, [.text "everybody"])

/-- The invitation with the cases of both of its choices turned round. -/
def turnedInvitation : Message :=
  ⟨7, some "pl", [.select "host" [otherCase, hostCase guestCases.reverse], .remainder]⟩

/-- The plural is turned round within the case of the select, and the select after it. -/
theorem case_order_irrelevant_invitation :
    let values : Placeholders := SortedMap.ofList [("host", .text "Ann"), ("guests", .number 0)]
    invitation.Labelled ∧ Relation.ReflTransGen Reorders invitation turnedInvitation ∧
      turnedInvitation.text? values = invitation.text? values ∧
      turnedInvitation.text? values = .ok (some "Ann and nobody") := by
  intro values
  have labelled : invitation.Labelled := by
    simp [Message.Labelled, invitation, forall_within_cons, not_within_nil, contents, MessagePart.Labelled]
  have reordered : Relation.ReflTransGen Reorders invitation turnedInvitation := by
    have guests : MessagePart.Reorders (.plural "guests" 1 guestCases) (.plural "guests" 1 guestCases.reverse) :=
      .plural (.swap ..)
    have inner : MessagePart.Replaces MessagePart.Reorders
        (.select "host" [hostCase guestCases, otherCase]) (.select "host" [hostCase guestCases.reverse, otherCase]) :=
      @MessagePart.Replaces.select _ _ [] _ [.text "Ann and "] _ _ _ _ (.here guests)
    have first : Reorders invitation
        ⟨7, some "pl", [.select "host" [hostCase guestCases.reverse, otherCase], .remainder]⟩ :=
      @Replaces.part _ _ _ [] _ _ _ inner
    have second : Reorders ⟨7, some "pl", [.select "host" [hostCase guestCases.reverse, otherCase], .remainder]⟩
        turnedInvitation :=
      @Replaces.part _ _ _ [] _ _ _ (.here (.select (.swap ..)))
    exact .tail (.single first) second
  exact ⟨labelled, reordered, (case_order_irrelevant labelled reordered values).1, by decide +kernel⟩

end Message

end TemplateEngine
