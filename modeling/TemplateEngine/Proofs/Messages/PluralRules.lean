import Mathlib.Data.List.Forall2
import TemplateEngine.Message.Plural

namespace TemplateEngine

/-- The same character, or the same ASCII letter in the other case. -/
def Text.SameLetter (c d : Char) : Prop :=
  c = d ∨ (∃ k < 26, c.toNat = 'A'.toNat + k ∧ d.toNat = 'a'.toNat + k) ∨
    ∃ k < 26, c.toNat = 'a'.toNat + k ∧ d.toNat = 'A'.toNat + k

theorem Text.toNat_toLower (c : Char) :
    c.toLower.toNat = if 'A'.toNat ≤ c.toNat ∧ c.toNat ≤ 'Z'.toNat then c.toNat + 32 else c.toNat := by
  have upper : (c.val ≥ 'A'.val ∧ c.val ≤ 'Z'.val) ↔ ('A'.toNat ≤ c.toNat ∧ c.toNat ≤ 'Z'.toNat) := Iff.rfl
  by_cases is : c.val ≥ 'A'.val ∧ c.val ≤ 'Z'.val
  · have lowered : c.toLower.val = c.val + 32 := congrArg Char.val (dif_pos is)
    have top : c.val.toNat ≤ 90 := is.2
    have room : c.val.toNat + 32 < UInt32.size := by rw [UInt32.size]; omega
    rw [if_pos (upper.mp is), ← Char.toNat_val, ← Char.toNat_val, lowered, UInt32.toNat_add]
    exact Nat.mod_eq_of_lt room
  · have same : c.toLower = c := dif_neg is
    rw [if_neg (mt upper.mpr is), same]

/-- Letters are the same exactly if they are written alike in lower case. -/
theorem Text.sameLetter_iff {c d : Char} : SameLetter c d ↔ c.toLower = d.toLower := by
  rw [← Char.toNat_inj, toNat_toLower, toNat_toLower, SameLetter, ← Char.toNat_inj]
  have bounds : 'A'.toNat = 65 ∧ 'Z'.toNat = 90 ∧ 'a'.toNat = 97 := ⟨rfl, rfl, rfl⟩
  simp only [bounds]
  constructor
  · rintro (same | ⟨k, small, upper, lower⟩ | ⟨k, small, lower, upper⟩) <;> split_ifs <;> omega
  · split_ifs with upper upper'
    · omega
    · exact fun same => .inr (.inl ⟨c.toNat - 65, by omega, by omega, by omega⟩)
    · exact fun same => .inr (.inr ⟨d.toNat - 65, by omega, by omega, by omega⟩)
    · exact .inl

theorem Text.forall₂_sameLetter_iff {cs ds : List Char} :
    List.Forall₂ SameLetter cs ds ↔ cs.map Char.toLower = ds.map Char.toLower := by
  have same : SameLetter = fun c d => c.toLower = d.toLower := by
    ext c d
    exact sameLetter_iff
  rw [← List.forall₂_eq_eq_eq, List.forall₂_map_left_iff, List.forall₂_map_right_iff, same]

namespace PluralFamily

/-- A locale starts with the name of its language, in letters of either case. What follows, after a hyphen or an
underscore, says where and how the language is spoken. -/
def LocaleOf (language locale : String) : Prop :=
  ∃ stem region : List Char, locale.toList = stem ++ region ∧ (∀ c ∈ stem, c ≠ '-' ∧ c ≠ '_') ∧
    (∀ c ∈ region.head?, c = '-' ∨ c = '_') ∧ List.Forall₂ Text.SameLetter stem language.toList

def Lists (family : PluralFamily) (language : String) : Prop := ∃ names, (family, names) ∈ languages ∧ language ∈ names

/-- The family that a locale belongs to. A language that no family lists belongs with English. -/
inductive FamilyOf (locale : String) : PluralFamily → Prop
  | listed {family language} (lists : family.Lists language) (speaks : LocaleOf language locale) :
      FamilyOf locale family
  | unlisted (nowhere : ∀ family language, Lists family language → ¬ LocaleOf language locale) :
      FamilyOf locale .english

/-- Numbers that end in one of the numbers from `low` to `high`, written with the digits that are below `unit`. -/
def EndsIn (unit low high n : Nat) : Prop := ∃ front tail, n = unit * front + tail ∧ low ≤ tail ∧ tail ≤ high

theorem endsIn_iff {unit low high n : Nat} (below : high < unit) :
    EndsIn unit low high n ↔ low ≤ n % unit ∧ n % unit ≤ high := by
  constructor
  · rintro ⟨front, tail, rfl, lower, upper⟩
    rw [Nat.mul_add_mod, Nat.mod_eq_of_lt (by omega)]
    exact ⟨lower, upper⟩
  · rintro ⟨lower, upper⟩
    exact ⟨n / unit, n % unit, (Nat.div_add_mod n unit).symm, lower, upper⟩

/-- Numbers that end in 1, but not in 11. -/
def EndsInOne (n : Nat) : Prop := EndsIn 10 1 1 n ∧ ¬ EndsIn 100 11 11 n

/-- Numbers that end in 2 to 4, but not in 12 to 14. -/
def EndsInFew (n : Nat) : Prop := EndsIn 10 2 4 n ∧ ¬ EndsIn 100 12 14 n

theorem endsInOne_iff {n : Nat} : EndsInOne n ↔ n % 10 = 1 ∧ n % 100 ≠ 11 := by
  rw [EndsInOne, endsIn_iff (by decide), endsIn_iff (by decide)]
  omega

theorem endsInFew_iff {n : Nat} :
    EndsInFew n ↔ 2 ≤ n % 10 ∧ n % 10 ≤ 4 ∧ ¬ (12 ≤ n % 100 ∧ n % 100 ≤ 14) := by
  rw [EndsInFew, endsIn_iff (by decide), endsIn_iff (by decide), and_assoc]

/-- The rules of the families, for every category but that of all other numbers. -/
inductive Rule (n : Nat) : PluralFamily → PluralCategory → Prop
  | englishOne (is : n = 1) : Rule n .english .one
  | frenchOne (is : n = 0 ∨ n = 1) : Rule n .french .one
  | eastSlavicOne (is : EndsInOne n) : Rule n .eastSlavic .one
  | eastSlavicFew (is : EndsInFew n) : Rule n .eastSlavic .few
  | southSlavicOne (is : EndsInOne n) : Rule n .southSlavic .one
  | southSlavicFew (is : EndsInFew n) : Rule n .southSlavic .few
  | polishOne (is : n = 1) : Rule n .polish .one
  | polishFew (is : EndsInFew n) : Rule n .polish .few
  | czechOne (is : n = 1) : Rule n .czech .one
  | czechFew (is : 2 ≤ n ∧ n ≤ 4) : Rule n .czech .few
  | hebrewOne (is : n = 1) : Rule n .hebrew .one
  | hebrewTwo (is : n = 2) : Rule n .hebrew .two
  | arabicZero (is : n = 0) : Rule n .arabic .zero
  | arabicOne (is : n = 1) : Rule n .arabic .one
  | arabicTwo (is : n = 2) : Rule n .arabic .two
  | arabicFew (is : EndsIn 100 3 10 n) : Rule n .arabic .few
  | arabicMany (is : EndsIn 100 11 99 n) : Rule n .arabic .many

/-- The category of the numbers that no rule of a family is about. -/
def rest : PluralFamily → PluralCategory
  | .eastSlavic | .polish => .many
  | _ => .other

/-- The rule of a category applies to a number: its own, or that for all other numbers. -/
def Applies (family : PluralFamily) (c : PluralCategory) (n : Nat) : Prop :=
  Rule n family c ∨ c = family.rest ∧ ∀ c', ¬ Rule n family c'

variable {family : PluralFamily} {c : PluralCategory} {n : Nat}

theorem Rule.category (rule : Rule n family c) : family.category n = c := by
  cases rule with
  | eastSlavicOne is | southSlavicOne is => simp [PluralFamily.category, endsInOne_iff.mp is]
  | eastSlavicFew is | southSlavicFew is | polishFew is =>
    have few := endsInFew_iff.mp is
    have several : n ≠ 1 ∧ n % 10 ≠ 1 := by omega
    simp [PluralFamily.category, few, several]
  | frenchOne is =>
    have small : n ≤ 1 := by omega
    simp [PluralFamily.category, small]
  | czechFew is =>
    have several : n ≠ 1 := by omega
    simp [PluralFamily.category, is, several]
  | arabicFew is =>
    have few := (endsIn_iff (by decide)).mp is
    have several : n ≠ 0 ∧ n ≠ 1 ∧ n ≠ 2 := by omega
    simp [PluralFamily.category, few, several]
  | arabicMany is =>
    have many := (endsIn_iff (by decide)).mp is
    have several : n ≠ 0 ∧ n ≠ 1 ∧ n ≠ 2 ∧ ¬ n % 100 ≤ 10 := by omega
    simp [PluralFamily.category, many, several]
  | englishOne is | polishOne is | czechOne is | hebrewOne is | hebrewTwo is | arabicZero is | arabicOne is
  | arabicTwo is => simp [PluralFamily.category, is]

theorem category_eq_rest (unruled : ∀ c, ¬ Rule n family c) : family.category n = family.rest := by
  cases family with
  | invariable => rfl
  | english =>
    have one : n ≠ 1 := fun is => unruled _ (.englishOne is)
    simp [PluralFamily.category, rest, one]
  | french =>
    have one : ¬ (n = 0 ∨ n = 1) := fun is => unruled _ (.frenchOne is)
    have large : ¬ n ≤ 1 := by omega
    simp [PluralFamily.category, rest, large]
  | eastSlavic =>
    have one := mt endsInOne_iff.mpr fun is => unruled _ (.eastSlavicOne is)
    have few := mt endsInFew_iff.mpr fun is => unruled _ (.eastSlavicFew is)
    simp only [PluralFamily.category, rest, one, few, if_false]
  | southSlavic =>
    have one := mt endsInOne_iff.mpr fun is => unruled _ (.southSlavicOne is)
    have few := mt endsInFew_iff.mpr fun is => unruled _ (.southSlavicFew is)
    simp only [PluralFamily.category, rest, one, few, if_false]
  | polish =>
    have one : n ≠ 1 := fun is => unruled _ (.polishOne is)
    have few := mt endsInFew_iff.mpr fun is => unruled _ (.polishFew is)
    simp only [PluralFamily.category, rest, one, few, if_false]
  | czech =>
    have one : n ≠ 1 := fun is => unruled _ (.czechOne is)
    have few : ¬ (2 ≤ n ∧ n ≤ 4) := fun is => unruled _ (.czechFew is)
    simp only [PluralFamily.category, rest, one, few, if_false]
  | hebrew =>
    have one : n ≠ 1 := fun is => unruled _ (.hebrewOne is)
    have two : n ≠ 2 := fun is => unruled _ (.hebrewTwo is)
    simp only [PluralFamily.category, rest, one, two, if_false]
  | arabic =>
    have zero : n ≠ 0 := fun is => unruled _ (.arabicZero is)
    have one : n ≠ 1 := fun is => unruled _ (.arabicOne is)
    have two : n ≠ 2 := fun is => unruled _ (.arabicTwo is)
    have few := mt (endsIn_iff (by decide)).mpr fun is => unruled _ (.arabicFew is)
    have many := mt (endsIn_iff (by decide)).mpr fun is => unruled _ (.arabicMany is)
    have below : ¬ 11 ≤ n % 100 := by omega
    simp only [PluralFamily.category, rest, zero, one, two, few, below, if_false]

/-- A family gives every number the category whose rule applies to it, and no other rule applies. -/
theorem category_eq_iff : family.category n = c ↔ family.Applies c n := by
  constructor
  · rintro rfl
    by_cases ruled : ∃ c, Rule n family c
    · obtain ⟨c, rule⟩ := ruled
      exact .inl (by rwa [rule.category])
    · have unruled : ∀ c, ¬ Rule n family c := fun c rule => ruled ⟨c, rule⟩
      exact .inr ⟨category_eq_rest unruled, unruled⟩
  · rintro (rule | ⟨rfl, unruled⟩)
    · exact rule.category
    · exact category_eq_rest unruled

/-- From five on, only the last two digits matter. -/
theorem category_congr {m n : Nat} (large : 5 ≤ m) (large' : 5 ≤ n) (tail : m % 100 = n % 100) :
    family.category m = family.category n := by
  -- The tests for single numbers are all for numbers below five.
  have units : m % 10 = n % 10 := by omega
  have above : m ≠ 0 ∧ m ≠ 1 ∧ m ≠ 2 ∧ ¬ m ≤ 1 ∧ ¬ m ≤ 4 := by omega
  have above' : n ≠ 0 ∧ n ≠ 1 ∧ n ≠ 2 ∧ ¬ n ≤ 1 ∧ ¬ n ≤ 4 := by omega
  cases family <;> simp only [PluralFamily.category, units, tail, above, above', and_false, if_false]

/-- The language of a locale is the one that it starts with, in lower case. -/
theorem localeOf_iff {language locale : String} :
    LocaleOf language locale ↔ PluralFamily.language locale = String.ofList (language.toList.map Char.toLower) := by
  have plain (c : Char) : (c != '-' && c != '_') = true ↔ c ≠ '-' ∧ c ≠ '_' := by simp
  rw [PluralFamily.language, String.ofList_inj]
  constructor
  · rintro ⟨stem, region, split, named, bounded, same⟩
    have ended : region.takeWhile (fun c => c != '-' && c != '_') = [] := by
      cases region with
      | nil => rfl
      | cons c region => rcases bounded c rfl with rfl | rfl <;> rfl
    rw [split, List.takeWhile_append_of_pos fun c member => (plain c).mpr (named c member), ended, List.append_nil]
    exact Text.forall₂_sameLetter_iff.mp same
  · intro same
    refine ⟨_, _, List.takeWhile_append_dropWhile.symm, fun c member => (plain c).mp ?_,
      fun c first => ?_, Text.forall₂_sameLetter_iff.mpr same⟩
    · exact List.all_eq_true.mp List.all_takeWhile c member
    have stops := List.head?_dropWhile_not (fun c => c != '-' && c != '_') locale.toList
    rw [Option.mem_def.mp first] at stops
    by_contra other
    simp_all

theorem ofLanguage_of_lists {language : String} (lists : family.Lists language) : ofLanguage language = family := by
  have table : ∀ entry ∈ languages, ∀ name ∈ entry.2, ofLanguage name = entry.1 := by decide
  obtain ⟨names, entry, member⟩ := lists
  exact table _ entry _ member

/-- The names in the table are in lower case already. -/
theorem lower_of_lists {language : String} (lists : family.Lists language) :
    String.ofList (language.toList.map Char.toLower) = language := by
  have table : ∀ entry ∈ languages, ∀ name ∈ entry.2, String.ofList (name.toList.map Char.toLower) = name := by decide
  obtain ⟨names, entry, member⟩ := lists
  exact table _ entry _ member

theorem ofLanguage_unlisted {language : String} (unlisted : ∀ family, ¬ Lists family language) :
    ofLanguage language = .english := by
  have nothing : languages.find? (fun entry => entry.2.contains language) = none := by
    refine List.find?_eq_none.mpr fun entry among listed => unlisted entry.1 ⟨entry.2, among, ?_⟩
    simpa using listed
  rw [ofLanguage, nothing]
  rfl

/-- Every locale belongs to one family, under which its language is looked up. -/
theorem familyOf_iff {locale : String} : FamilyOf locale family ↔ ofLanguage (language locale) = family := by
  have found {family : PluralFamily} {language : String} (lists : family.Lists language)
      (speaks : LocaleOf language locale) : ofLanguage (PluralFamily.language locale) = family := by
    rw [localeOf_iff.mp speaks, lower_of_lists lists, ofLanguage_of_lists lists]
  constructor
  · rintro (⟨lists, speaks⟩ | nowhere)
    · exact found lists speaks
    · refine ofLanguage_unlisted fun family lists => nowhere family _ lists ?_
      rw [localeOf_iff, lower_of_lists lists]
  · rintro rfl
    by_cases listed : ∃ family, Lists family (PluralFamily.language locale)
    · obtain ⟨family, lists⟩ := listed
      rw [ofLanguage_of_lists lists]
      exact .listed lists (by rw [localeOf_iff, lower_of_lists lists])
    · rw [ofLanguage_unlisted fun family lists => listed ⟨family, lists⟩]
      refine .unlisted fun family language lists speaks => listed ⟨family, ?_⟩
      rwa [localeOf_iff.mp speaks, lower_of_lists lists]

/-- What the plural categories of a locale depend on. -/
structure Categorizes (locale : String) : Prop where
  /-- Where and how a language is spoken does not matter, nor in which letters it is named. -/
  language : ∀ language locale', LocaleOf language locale → LocaleOf language locale' →
    ∀ value, pluralCategory locale' value = pluralCategory locale value
  unlisted : (∀ family language, Lists family language → ¬ LocaleOf language locale) →
    ∀ value, pluralCategory locale value = pluralCategory "en" value
  magnitude : ∀ a b : Int, a.natAbs = b.natAbs → pluralCategory locale a = pluralCategory locale b
  tail : ∀ a b : Int, 5 ≤ a.natAbs → 5 ≤ b.natAbs → a.natAbs % 100 = b.natAbs % 100 →
    pluralCategory locale a = pluralCategory locale b
  family : ∃! family, FamilyOf locale family
  /-- The rule of one category applies, and of no other. -/
  rule : ∀ family, FamilyOf locale family → ∀ value : Int, ∀ c,
    family.Applies c value.natAbs ↔ c = pluralCategory locale value
  /-- For a number of sixty-four bits, sixty-four bits hold the absolute value too. -/
  word : ∀ family, FamilyOf locale family → ∀ value : Int64,
    pluralCategory locale value.toInt = family.category value.abs.toUInt64.toNat

theorem pluralCategory_eq {locale : String} (belongs : FamilyOf locale family) (value : Int) :
    pluralCategory locale value = family.category value.natAbs := by
  rw [pluralCategory, familyOf_iff.mp belongs]

end PluralFamily

/-- The absolute value of the least number is out of reach as a signed number only. -/
theorem toNat_abs (n : Int64) : n.abs.toUInt64.toNat = n.toInt.natAbs := by
  show n.toBitVec.abs.toNat = n.toBitVec.toInt.natAbs
  rw [BitVec.toNat_abs, BitVec.toInt_eq_msb_cond]
  have below := n.toBitVec.isLt
  split <;> omega

open PluralFamily in
/-- The plural category of a number is a matter of the language that the locale starts with and of the size of the
number, and from five on of its last two digits only. -/
theorem pluralCategory_by_language_and_size (locale : String) : Categorizes locale := by
  refine ⟨fun language locale' speaks speaks' value => ?_, fun nowhere value => ?_, fun a b same => ?_,
    fun a b large large' tail => category_congr large large' tail, ?_, fun family belongs value c => ?_,
    fun family belongs value => ?_⟩
  · rw [pluralCategory, pluralCategory, localeOf_iff.mp speaks, localeOf_iff.mp speaks']
  · have english : FamilyOf "en" .english := familyOf_iff.mpr (by decide)
    rw [pluralCategory_eq (.unlisted nowhere), pluralCategory_eq english]
  · rw [pluralCategory, pluralCategory, same]
  · exact ⟨_, familyOf_iff.mpr rfl, fun family belongs => (familyOf_iff.mp belongs).symm⟩
  · rw [pluralCategory_eq belongs, ← category_eq_iff, eq_comm]
  · rw [pluralCategory_eq belongs, toNat_abs]

open PluralFamily in
/-- The least number of all ends in 08. -/
theorem pluralCategory_of_least :
    pluralCategory "PT_br" 0 = pluralCategory "pt" 0 ∧ pluralCategory "RU" (-121) = pluralCategory "RU" 1021 ∧
      pluralCategory "ar-EG" Int64.minValue.toInt = .few := by
  have portuguese : LocaleOf "pt" "pt" ∧ LocaleOf "pt" "PT_br" := ⟨localeOf_iff.mpr rfl, localeOf_iff.mpr rfl⟩
  have arabic : FamilyOf "ar-EG" .arabic := familyOf_iff.mpr (by decide)
  have few : PluralFamily.arabic.Applies .few Int64.minValue.toInt.natAbs :=
    .inl (.arabicFew ⟨92233720368547758, 8, rfl, by decide, by decide⟩)
  exact ⟨(pluralCategory_by_language_and_size "pt").language "pt" "PT_br" portuguese.1 portuguese.2 0,
    (pluralCategory_by_language_and_size "RU").tail (-121) 1021 (by decide) (by decide) rfl,
    (((pluralCategory_by_language_and_size "ar-EG").rule .arabic arabic _ _).mp few).symm⟩

end TemplateEngine
