import TemplateEngine.Message.Error
import TemplateEngine.Proofs.Messages.PluralRules

namespace TemplateEngine

theorem PluralCategory.toLower_name (c : PluralCategory) : c.name.toList.map Char.toLower = c.name.toList := by
  cases c <;> decide

/-- The category of a text is the one whose name it is, up to the case of its letters. -/
theorem PluralCategory.parse?_eq_some_iff {s : String} {c : PluralCategory} :
    parse? s = some c ↔ List.Forall₂ Text.SameLetter s.toList c.name.toList := by
  rw [Text.forall₂_sameLetter_iff, toLower_name]
  constructor
  · intro found
    have named := List.find?_some (show List.find? _ _ = some c from found)
    exact (of_decide_eq_true named).symm
  · intro named
    have own := parse?_name c
    rwa [parse?, toLower_name, ← named] at own

namespace PluralLabel

/-- Digits without the zeros in front, of which the last one stays if there is nothing else. -/
def unpadded : List Char → List Char
  | '0' :: digit :: rest => unpadded (digit :: rest)
  | digits => digits

/-- The ways to write a label, each with the canonical text of the label. -/
inductive Spells : List Char → PluralLabel → List Char → Prop
  | count {sign digits : List Char} (plus : sign = [] ∨ sign = ['+']) (given : digits ≠ [])
      (decimal : ∀ c ∈ digits, c.isDigit = true) (small : Nat.ofDigitChars 10 digits 0 ≤ 4294967295) :
      Spells ('=' :: (sign ++ digits)) (.exactly (UInt32.ofNat (Nat.ofDigitChars 10 digits 0)))
        ('=' :: unpadded digits)
  | category {letters : List Char} {c : PluralCategory} (named : List.Forall₂ Text.SameLetter letters c.name.toList) :
      Spells letters (.category c) (letters.map Char.toLower)

theorem digit_value {c : Char} (decimal : c.isDigit = true) :
    c.toNat - '0'.toNat < 10 ∧ Nat.digitChar (c.toNat - '0'.toNat) = c := by
  obtain ⟨low, high⟩ := Char.isDigit_iff_toNat.mp decimal
  have bounds : '0'.toNat = 48 ∧ '9'.toNat = 57 := ⟨rfl, rfl⟩
  rw [bounds.1] at low ⊢
  rw [bounds.2] at high
  have small : c.toNat - 48 < 10 := by omega
  refine ⟨small, Char.toNat_inj.mp ?_⟩
  rw [Nat.toNat_digitChar_of_lt_ten small]
  omega

/-- Digits behind those of a positive number are printed as they are. -/
theorem toDigits_ofDigitChars_positive {digits : List Char} (decimal : ∀ c ∈ digits, c.isDigit = true) {n : Nat}
    (positive : 0 < n) : Nat.toDigits 10 (Nat.ofDigitChars 10 digits n) = Nat.toDigits 10 n ++ digits := by
  induction digits generalizing n with
  | nil => simp
  | cons c rest ih =>
    obtain ⟨small, same⟩ := digit_value (decimal c List.mem_cons_self)
    have further := ih (fun d member => decimal d (List.mem_cons_of_mem c member))
      (n := 10 * n + (c.toNat - '0'.toNat)) (by omega)
    rw [Nat.ofDigitChars_cons, further, ← Nat.toDigits_append_toDigits (by decide) positive small,
      Nat.toDigits_of_lt_base small, same, List.append_assoc, List.singleton_append]

/-- A number is printed with the digits that it was written with, less the zeros in front. -/
theorem toDigits_ofDigitChars {digits : List Char} (given : digits ≠ [])
    (decimal : ∀ c ∈ digits, c.isDigit = true) :
    Nat.toDigits 10 (Nat.ofDigitChars 10 digits 0) = unpadded digits := by
  fun_induction unpadded digits with
  | case1 digit rest ih =>
    exact ih (by simp) fun c member => decimal c (List.mem_cons_of_mem _ member)
  | case2 digits significant =>
    cases digits with
    | nil => exact absurd rfl given
    | cons c rest =>
      obtain ⟨small, same⟩ := digit_value (decimal c List.mem_cons_self)
      have alone : Nat.toDigits 10 (c.toNat - '0'.toNat) = [c] := by rw [Nat.toDigits_of_lt_base small, same]
      rw [Nat.ofDigitChars_cons, Nat.mul_zero, Nat.zero_add]
      cases rest with
      | nil => rw [Nat.ofDigitChars_nil, alone]
      | cons d rest =>
        have positive : 0 < c.toNat - '0'.toNat := by
          by_contra zero
          rw [Nat.eq_zero_of_not_pos zero] at same
          exact significant d rest (by rw [← same]; rfl)
        rw [toDigits_ofDigitChars_positive (fun d member => decimal d (List.mem_cons_of_mem c member)) positive, alone,
          List.singleton_append]

theorem number?_eq_some_iff {digits : List Char} {n : UInt32} :
    number? digits = some n ↔ digits ≠ [] ∧ (∀ c ∈ digits, c.isDigit = true) ∧
      Nat.ofDigitChars 10 digits 0 ≤ 4294967295 ∧ n = UInt32.ofNat (Nat.ofDigitChars 10 digits 0) := by
  have value : digits.foldl (fun n c => n * 10 + (c.toNat - '0'.toNat)) 0 = Nat.ofDigitChars 10 digits 0 := by
    simp only [Nat.ofDigitChars_eq_foldl, Nat.mul_comm]
  have size : UInt32.size = 4294967296 := rfl
  simp only [number?, value, size]
  by_cases number : (digits.isEmpty || !digits.all Char.isDigit) = true
  · rw [if_pos number]
    constructor
    · intro nothing
      cases nothing
    · rintro ⟨given, decimal, -⟩
      obtain ⟨c, member, other⟩ : ∃ c ∈ digits, c.isDigit = false := by simpa [given] using number
      rw [decimal c member] at other
      cases other
  · obtain ⟨given, decimal⟩ : digits ≠ [] ∧ ∀ c ∈ digits, c.isDigit = true := by simpa using number
    rw [if_neg number]
    constructor
    · intro found
      obtain ⟨small, same⟩ := Option.ite_none_right_eq_some.mp found
      exact ⟨given, decimal, Nat.le_of_lt_succ small, (Option.some.inj same).symm⟩
    · rintro ⟨-, -, small, rfl⟩
      rw [if_pos (Nat.lt_succ_of_le small)]

/-- A category has no name that starts with an equals sign. -/
theorem not_sameLetter_equals {letters : List Char} {c : PluralCategory} :
    ¬ List.Forall₂ Text.SameLetter ('=' :: letters) c.name.toList := by
  have lower : Char.toLower '=' ∉ c.name.toList.map Char.toLower := by cases c <;> decide
  intro named
  rw [Text.forall₂_sameLetter_iff] at named
  exact lower (named ▸ List.mem_cons_self)

theorem Spells.parse?_eq {s : String} {letters canonical : List Char} {label : PluralLabel}
    (spells : Spells letters label canonical) (written : s.toList = letters) : parse? s = some label := by
  cases spells with
  | category named =>
    rw [← written] at named
    rw [parse?]
    split
    next digits equals => exact absurd (equals ▸ named) not_sameLetter_equals
    next digits _ equals => exact absurd (equals ▸ named) not_sameLetter_equals
    next => rw [PluralCategory.parse?_eq_some_iff.mpr named, Option.map_some]
  | @count sign digits plus given decimal small =>
    have number := number?_eq_some_iff.mpr ⟨given, decimal, small, rfl⟩
    rcases plus with rfl | rfl
    · have unsigned : ∀ rest, digits ≠ '+' :: rest := by
        rintro rest rfl
        exact absurd (decimal '+' List.mem_cons_self) (by decide)
      rw [parse?, written]
      split
      next rest equals => exact absurd (List.cons.inj equals).2 (unsigned rest)
      next rest _ equals =>
        rw [← (List.cons.inj equals).2, List.nil_append, number, Option.map_some]
      next other => exact absurd rfl (other _)
    · rw [parse?, written]
      simp only [List.cons_append, List.nil_append, number, Option.map_some]

theorem exists_spells {s : String} {label : PluralLabel} (read : parse? s = some label) :
    ∃ canonical, Spells s.toList label canonical := by
  rw [parse?] at read
  split at read
  next digits written =>
    obtain ⟨n, number, rfl⟩ := Option.map_eq_some_iff.mp read
    obtain ⟨given, decimal, small, rfl⟩ := number?_eq_some_iff.mp number
    exact ⟨_, written ▸ Spells.count (.inr rfl) given decimal small⟩
  next digits _ written =>
    obtain ⟨n, number, rfl⟩ := Option.map_eq_some_iff.mp read
    obtain ⟨given, decimal, small, rfl⟩ := number?_eq_some_iff.mp number
    exact ⟨_, written ▸ Spells.count (.inl rfl) given decimal small⟩
  next =>
    obtain ⟨c, named, rfl⟩ := Option.map_eq_some_iff.mp read
    exact ⟨_, .category (PluralCategory.parse?_eq_some_iff.mp named)⟩

theorem parse?_eq_some_iff {s : String} {label : PluralLabel} :
    parse? s = some label ↔ ∃ canonical, Spells s.toList label canonical :=
  ⟨exists_spells, fun ⟨_, spells⟩ => spells.parse?_eq rfl⟩

theorem text_exactly (n : UInt32) : (exactly n).text.toList = '=' :: Nat.toDigits 10 n.toNat := by
  rw [text, String.toList_append, Nat.toString_eq_repr, Nat.toList_repr]
  rfl

/-- A label is printed as the canonical text of whatever it was written as. -/
theorem Spells.text_eq {letters canonical : List Char} {label : PluralLabel}
    (spells : Spells letters label canonical) : label.text = String.ofList canonical := by
  rw [← String.toList_inj, String.toList_ofList]
  cases spells with
  | @category letters c named =>
    rw [Text.forall₂_sameLetter_iff.mp named, c.toLower_name]
    rfl
  | count plus given decimal small =>
    rw [text_exactly, UInt32.toNat_ofNat_of_lt' (Nat.lt_succ_of_le small), toDigits_ofDigitChars given decimal]

/-- The text of a label stands for the label. -/
theorem exists_spells_text (label : PluralLabel) : ∃ canonical, Spells label.text.toList label canonical := by
  cases label with
  | category c => exact ⟨_, .category (Text.forall₂_sameLetter_iff.mpr rfl)⟩
  | exactly n =>
    have decimal : ∀ c ∈ Nat.toDigits 10 n.toNat, c.isDigit = true := fun c =>
      Nat.isDigit_of_mem_toDigits (by decide) (by decide)
    have value : Nat.ofDigitChars 10 (Nat.toDigits 10 n.toNat) 0 = n.toNat := Nat.ofDigitChars_ten_toDigits
    have small : Nat.ofDigitChars 10 (Nat.toDigits 10 n.toNat) 0 ≤ 4294967295 := by
      rw [value]
      exact Nat.le_of_lt_succ n.toNat_lt
    have spells := Spells.count (.inl rfl) Nat.toDigits_ne_nil decimal small
    rw [value, UInt32.ofNat_toNat, List.nil_append, ← text_exactly] at spells
    exact ⟨_, spells⟩

theorem read_eq_ok_iff {s : String} {label : PluralLabel} :
    read s = .ok label ↔ ∃ canonical, Spells s.toList label canonical := by
  rw [← parse?_eq_some_iff, read]
  cases parse? s <;> simp

theorem read_eq_error_iff {s : String} {e : MessageError} :
    read s = .error e ↔ e = .invalidLabel s ∧ ¬ ∃ label canonical, Spells s.toList label canonical := by
  simp only [← parse?_eq_some_iff, read]
  cases parse? s <;> simp [eq_comm]

/-- Exactly the texts that spell a label are read, and any other text is refused with an error that carries it. Labels
are read back from their own texts, which are therefore different for different labels, and a label that was read is
printed as the canonical text of what was read. -/
theorem labels_exact :
    (∀ (s : String) (label : PluralLabel), read s = .ok label ↔ ∃ canonical, Spells s.toList label canonical) ∧
    (∀ (s : String) (e : MessageError), read s = .error e ↔
      e = .invalidLabel s ∧ ¬ ∃ label canonical, Spells s.toList label canonical) ∧
    (∀ label, read label.text = .ok label) ∧ Function.Injective text ∧
    ∀ (s : String) (label : PluralLabel) (canonical : List Char), Spells s.toList label canonical →
      label.text = String.ofList canonical := by
  have back (label : PluralLabel) : read label.text = .ok label := read_eq_ok_iff.mpr (exists_spells_text label)
  refine ⟨fun s label => read_eq_ok_iff, fun s e => read_eq_error_iff, back, ?_,
    fun s label canonical => Spells.text_eq⟩
  intro label label' same
  have read' := back label
  rw [same, back label'] at read'
  exact (Except.ok.inj read').symm

/-- A count with a plus sign and zeros in front, which are not printed. -/
theorem labels_exact_padded :
    Spells "=+007".toList (.exactly 7) "=7".toList ∧ read "=+007" = .ok (.exactly 7) ∧ (exactly 7).text = "=7" := by
  have spells : Spells "=+007".toList (.exactly 7) "=7".toList :=
    @Spells.count ['+'] ['0', '0', '7'] (.inr rfl) (by simp) (by simp) (by decide)
  exact ⟨spells, (labels_exact.1 _ _).mpr ⟨_, spells⟩, labels_exact.2.2.2.2 _ _ _ spells⟩

end PluralLabel

end TemplateEngine
