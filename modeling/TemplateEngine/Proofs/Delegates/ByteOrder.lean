import Mathlib.Tactic.SplitIfs

namespace TemplateEngine

namespace Text

/-- The bytes of a text. -/
def utf8 (s : String) : List UInt8 := s.toUTF8.data.toList

theorem utf8_eq_flatMap (s : String) : utf8 s = s.toList.flatMap String.utf8EncodeChar := by
  have encoded : s.toUTF8 = s.toList.utf8Encode := by
    rw [String.toUTF8_eq_toByteArray, ← String.toByteArray_ofList, String.ofList_toList]
  rw [utf8, encoded, List.utf8Encode, List.data_toByteArray]

/-- The bytes of two characters differ before either of them ends, and the first difference decides as the
characters do. -/
theorem utf8EncodeChar_lt {c d : Char} (below : c < d) (x y : List UInt8) :
    String.utf8EncodeChar c ++ x < String.utf8EncodeChar d ++ y := by
  have order : c.val.toNat < d.val.toNat := below
  have bound : d.val.toNat < 1114112 := by rcases d.valid with low | high <;> omega
  simp only [String.utf8EncodeChar]
  generalize c.val.toNat = m at order ⊢
  generalize d.val.toNat = n at order bound ⊢
  have byte (k : Nat) (small : k < 256) : (UInt8.ofNat k).toNat = k := by
    rw [UInt8.toNat_ofNat', Nat.mod_eq_of_lt small]
  by_cases wide : 65535 < m
  · -- Both have four bytes: six bits in each but the first, so the comparison goes through digits of base 64.
    have digits {a b : Nat} (below : a < b) : a / 64 < b / 64 ∨ a / 64 = b / 64 ∧ a % 64 < b % 64 := by omega
    simp (disch := omega) only [if_neg, List.cons_append, List.nil_append, List.cons_lt_cons_iff,
      UInt8.lt_iff_toNat_lt, ← UInt8.toNat_inj, byte]
    rcases digits order with higher | last
    · rcases digits higher with highest | third <;> omega
    · omega
  · split_ifs <;> simp (disch := omega) only [List.cons_append, List.nil_append, List.cons_lt_cons_iff,
      UInt8.lt_iff_toNat_lt, ← UInt8.toNat_inj, byte] <;> omega

theorem utf8_lt_utf8 {s t : String} (below : s < t) : utf8 s < utf8 t := by
  rw [utf8_eq_flatMap, utf8_eq_flatMap]
  rw [String.lt_iff] at below
  generalize s.toList = cs at below ⊢
  generalize t.toList = ds at below ⊢
  induction below with
  | @nil d ds =>
    have : 0 < (String.utf8EncodeChar d).length := by rw [String.length_utf8EncodeChar]; exact d.utf8Size_pos
    obtain ⟨b, bs, same⟩ := List.exists_cons_of_length_pos this
    simp [same]
  | cons _ ih =>
    rw [List.flatMap_cons, List.flatMap_cons]
    exact List.append_left_lt ih
  | rel first =>
    rw [List.flatMap_cons, List.flatMap_cons]
    exact utf8EncodeChar_lt first _ _

theorem lt_iff_compare_eq_lt {s t : String} : compare s t = .lt ↔ s < t := by
  rw [show compare s t = compareOfLessAndEq s t from rfl, compareOfLessAndEq]
  split_ifs <;> simp [*]

/-- Texts are in order exactly if their bytes are. -/
theorem compare_eq_lt_iff {s t : String} : compare s t = .lt ↔ utf8 s < utf8 t := by
  refine ⟨fun below => utf8_lt_utf8 (lt_iff_compare_eq_lt.mp below), fun below => ?_⟩
  cases order : compare s t with
  | lt => rfl
  | eq =>
    obtain rfl := Std.LawfulEqCmp.eq_of_compare order
    exact absurd below (List.lt_irrefl _)
  | gt =>
    have above := utf8_lt_utf8 (lt_iff_compare_eq_lt.mp (Std.OrientedCmp.gt_iff_lt.mp order))
    exact absurd below (List.lt_asymm above)

end Text
end TemplateEngine
