import Mathlib.Tactic.SplitIfs
import TemplateEngine.Json.Reader
import TemplateEngine.Json.Writer

namespace TemplateEngine

namespace JsonChar

/-- The element of a quoted string that a character is written as: controls without an escape of their own go by their
numbers. -/
def ofChar (c : Char) : JsonChar :=
  if c.toNat < 32 ∧ c ∉ ['\x08', '\x0c', '\n', '\r', '\t'] then .escaped c.toNat else .plain c

def ofText (s : String) : List JsonChar := s.toList.map ofChar

theorem decode?_map_ofChar (cs : List Char) : decode? (cs.map ofChar) = some cs := by
  induction cs with
  | nil => rfl
  | cons c rest ih =>
    rw [List.map_cons, ofChar]
    split
    next control =>
      have high : ¬ (0xd800 ≤ c.toNat ∧ c.toNat < 0xdc00) := by omega
      have low : ¬ (0xdc00 ≤ c.toNat ∧ c.toNat < 0xe000) := by omega
      rw [decode?.eq_def]
      simp only [high, low, if_false, ih, Char.ofNat_toNat, Option.map_some]
    next => rw [decode?, ih]; rfl

theorem text?_ofText (s : String) : text? (ofText s) = some s := by
  rw [text?, ofText, decode?_map_ofChar, Option.map_some, String.ofList_toList]

end JsonChar

namespace Json

theorem length_le_flatMap_writeChar (cs : List Char) : cs.length ≤ (cs.flatMap writeChar).length := by
  induction cs with
  | nil => exact Nat.le_refl 0
  | cons c cs ih =>
    have some : 1 ≤ (writeChar c).length := by
      rw [writeChar]
      split_ifs <;> simp
    rw [List.flatMap_cons, List.length_append, List.length_cons]
    omega

theorem toList_writeString (s : String) :
    (writeString s).toList = '"' :: (s.toList.flatMap writeChar ++ ['"']) := String.toList_ofList

theorem writeItems_eq (items : List Json) : writeItems items = items.map write := by
  induction items with
  | nil => rfl
  | cons item rest ih => rw [writeItems, ih, List.map_cons]

theorem writeMembers_eq (members : OrderedMap Json) :
    (writeMembers members).reverse =
      members.toList.map fun member => writeString member.1 ++ ":" ++ member.2.write := by
  have fields {names : List String} (fields : Fields Json names) :
      writeFields fields =
        fields.newestFirst.map fun member => writeString member.1 ++ ":" ++ member.2.write := by
    induction fields with
    | nil => rfl
    | snoc older name fresh value ih => rw [writeFields, ih, Fields.newestFirst, List.map_cons]
  cases members
  rw [OrderedMap.toList, List.map_reverse, writeMembers, fields]

end Json

namespace JsonSyntax

theorem hexDigit?_digitChar {d : Nat} (small : d < 16) : hexDigit? (Nat.digitChar d) = some d := by
  revert d
  decide

/-- A written character is taken as one element, whatever follows it. -/
theorem string?_writeChar (c : Char) (fuel : Nat) (rest : List Char) :
    string? (fuel + 1) (Json.writeChar c ++ rest) =
      (string? fuel rest).map fun found => (JsonChar.ofChar c :: found.1, found.2) := by
  have escape {element : JsonChar} {code : List Char} (read : escape? (code ++ rest) = some (element, rest)) :
      string? (fuel + 1) ('\\' :: (code ++ rest)) =
        (string? fuel rest).map fun found => (element :: found.1, found.2) := by
    rw [string?, read, Option.map_eq_bind]
    rfl
  have short {d letter : Char} (same : c = d) (other : ¬ (d.toNat < 32 ∧ d ∉ ['\x08', '\x0c', '\n', '\r', '\t']))
      (read : escape? (letter :: rest) = some (.plain d, rest)) : string? (fuel + 1) ('\\' :: letter :: rest) =
        (string? fuel rest).map fun found => (JsonChar.ofChar c :: found.1, found.2) := by
    have element : JsonChar.ofChar d = .plain d := if_neg other
    rw [same, element]
    exact @escape _ [letter] read
  rw [Json.writeChar]
  split_ifs with quote backslash backspace feed newline return' tab control
  · exact short quote (by decide) rfl
  · exact short backslash (by decide) rfl
  · exact short backspace (by decide) rfl
  · exact short feed (by decide) rfl
  · exact short newline (by decide) rfl
  · exact short return' (by decide) rfl
  · exact short tab (by decide) rfl
  · have element : JsonChar.ofChar c = .escaped c.toNat :=
      if_pos ⟨control, by simp [backspace, feed, newline, return', tab]⟩
    have zero : hexDigit? '0' = some 0 := rfl
    have high : hexDigit? (Nat.digitChar (c.toNat / 16)) = some (c.toNat / 16) := hexDigit?_digitChar (by omega)
    have low : hexDigit? (Nat.digitChar (c.toNat % 16)) = some (c.toNat % 16) := hexDigit?_digitChar (by omega)
    have value : ((0 * 16 + 0) * 16 + c.toNat / 16) * 16 + c.toNat % 16 = c.toNat := by omega
    rw [element]
    refine @escape _ ['u', '0', '0', _, _] ?_
    simp only [List.cons_append, List.nil_append, escape?, zero, high, low, bind, Option.bind, value]
    rfl
  · have element : JsonChar.ofChar c = .plain c := if_neg fun both => control both.1
    rw [element, List.singleton_append, string?, if_neg control, Option.map_eq_bind]
    · rfl
    · exact quote
    · exact backslash

/-- A written string is taken up to the quote that closes it. -/
theorem string?_write (cs : List Char) {fuel : Nat} (room : cs.length < fuel) (rest : List Char) :
    string? fuel (cs.flatMap Json.writeChar ++ '"' :: rest) = some (cs.map JsonChar.ofChar, rest) := by
  induction cs generalizing fuel with
  | nil =>
    obtain ⟨fuel, rfl⟩ := Nat.exists_eq_add_one_of_ne_zero (Nat.ne_of_gt room)
    rfl
  | cons c cs ih =>
    obtain ⟨fuel, rfl⟩ := Nat.exists_eq_add_one_of_ne_zero (Nat.ne_of_gt (Nat.zero_lt_of_lt room))
    rw [List.flatMap_cons, List.append_assoc, string?_writeChar, ih (Nat.lt_of_succ_lt_succ room)]
    rfl

/-- A text that is taken apart as a tree, wherever it stands. -/
structure WrittenAs (tree : JsonSyntax) (cs : List Char) : Prop where
  starts : ∃ c rest, cs = c :: rest ∧ isBlank c = false ∧ c ≠ ']'
  read : ∀ {fuel : Nat}, 2 * cs.length ≤ fuel → ∀ rest, value? fuel (cs ++ rest) = some (tree, rest)

theorem skipBlanks_cons {c : Char} (dark : isBlank c = false) (cs : List Char) : skipBlanks (c :: cs) = c :: cs := by
  rw [skipBlanks, List.dropWhile_cons, dark]
  rfl

theorem writtenAs_string (s : String) : (string (JsonChar.ofText s)).WrittenAs (Json.writeString s).toList := by
  rw [Json.toList_writeString]
  refine ⟨⟨_, _, rfl, by decide, by decide⟩, fun {fuel} room rest => ?_⟩
  obtain ⟨fuel, rfl⟩ : ∃ n, fuel = n + 1 := Nat.exists_eq_add_one_of_ne_zero (by simp at room; omega)
  have short : s.toList.length < (s.toList.flatMap Json.writeChar ++ '"' :: rest).length + 1 := by
    have longer := Json.length_le_flatMap_writeChar s.toList
    rw [List.length_append]
    omega
  have body := string?_write s.toList short rest
  simp only [List.cons_append, List.append_assoc, List.nil_append, value?, skipBlanks_cons (c := '"') (by decide), body,
    Option.map_some]
  rfl

section Containers

variable {α : Type} {tree : α → JsonSyntax} {text : α → List Char} {xs : List α}

/-- Items, one after the other with commas in between, are taken up to the bracket that closes them. -/
theorem items?_write (each : ∀ x ∈ xs, (tree x).WrittenAs (text x)) (given : xs ≠ []) (fuel : Nat)
    (room : 2 * ([','].intercalate (xs.map text)).length < fuel) (rest : List Char) :
    items? fuel ([','].intercalate (xs.map text) ++ ']' :: rest) = some (xs.map tree, rest) := by
  induction xs generalizing fuel with
  | nil => exact absurd rfl given
  | cons x xs ih =>
    obtain ⟨fuel, rfl⟩ := Nat.exists_eq_add_one_of_ne_zero (Nat.ne_of_gt (Nat.zero_lt_of_lt room))
    have first := each x List.mem_cons_self
    cases xs with
    | nil =>
      rw [List.map_singleton, List.intercalate_singleton] at room ⊢
      rw [items?, first.read (Nat.le_of_lt_succ room)]
      simp only [skipBlanks_cons (c := ']') (by decide), List.map_singleton]
    | cons y ys =>
      have others := ih (fun z member => each z (List.mem_cons_of_mem x member)) (by simp) fuel
      rw [List.map_cons, List.map_cons, List.intercalate_cons_cons, ← List.map_cons] at room ⊢
      simp only [List.length_append, List.length_singleton] at room
      simp only [List.append_assoc, List.cons_append, List.nil_append]
      rw [items?, first.read (by omega)]
      simp only [skipBlanks_cons (c := ',') (by decide)]
      rw [others (by omega)]
      rfl

theorem starts_intercalate {head : List Char} (starts : ∃ c rest, head = c :: rest ∧ isBlank c = false ∧ c ≠ ']')
    (texts : List (List Char)) :
    ∃ c rest, [','].intercalate (head :: texts) = c :: rest ∧ isBlank c = false ∧ c ≠ ']' := by
  obtain ⟨c, rest, rfl, dark, other⟩ := starts
  cases texts with
  | nil => exact ⟨c, rest, List.intercalate_singleton, dark, other⟩
  | cons next texts => exact ⟨c, _, List.intercalate_cons_cons, dark, other⟩

theorem writtenAs_array (each : ∀ x ∈ xs, (tree x).WrittenAs (text x)) :
    (array (xs.map tree)).WrittenAs ('[' :: ([','].intercalate (xs.map text) ++ [']'])) := by
  refine ⟨⟨_, _, rfl, by decide, by decide⟩, fun {fuel} room rest => ?_⟩
  obtain ⟨fuel, rfl⟩ : ∃ n, fuel = n + 1 := Nat.exists_eq_add_one_of_ne_zero (by simp at room; omega)
  simp only [List.length_cons, List.length_append, List.length_nil] at room
  simp only [List.cons_append, List.append_assoc, List.nil_append, value?, skipBlanks_cons (c := '[') (by decide)]
  cases xs with
  | nil => rfl
  | cons x xs =>
    obtain ⟨c, tail, begins, dark, other⟩ := starts_intercalate (each x List.mem_cons_self).starts (xs.map text)
    have items := items?_write each (by simp) fuel (by omega) rest
    rw [List.map_cons, begins, List.cons_append] at items ⊢
    rw [skipBlanks_cons dark]
    split
    next closing => exact absurd (List.cons.inj closing).1 other
    next => rw [items, Option.map_some]

variable {name : α → String}

/-- A member of an object as it is written. -/
def memberText (name : α → String) (text : α → List Char) (x : α) : List Char :=
  (Json.writeString (name x)).toList ++ ':' :: text x

/-- The name of a member is taken up to its closing quote, and then the value behind the colon. -/
theorem members?_memberText {x : α} (value : (tree x).WrittenAs (text x)) (fuel : Nat)
    (room : 2 * (memberText name text x).length ≤ fuel) (rest : List Char) :
    members? (fuel + 1) (memberText name text x ++ rest) =
      match skipBlanks rest with
      | ',' :: rest =>
        (members? fuel rest).map fun found => ((JsonChar.ofText (name x), tree x) :: found.1, found.2)
      | '\x7d' :: rest => some ([(JsonChar.ofText (name x), tree x)], rest)
      | _ => none := by
  simp only [memberText, Json.toList_writeString, List.length_append, List.length_cons, List.length_nil] at room
  have short : (name x).toList.length <
      ((name x).toList.flatMap Json.writeChar ++ '"' :: ':' :: (text x ++ rest)).length + 1 := by
    have longer := Json.length_le_flatMap_writeChar (name x).toList
    rw [List.length_append]
    omega
  have quoted := string?_write (name x).toList short (':' :: (text x ++ rest))
  have read : value? fuel (text x ++ rest) = some (tree x, rest) := value.read (by omega) rest
  simp only [memberText, Json.toList_writeString, List.cons_append, List.append_assoc, List.nil_append, members?,
    skipBlanks_cons (c := '"') (by decide), quoted, skipBlanks_cons (c := ':') (by decide), read]
  rfl

theorem members?_write (each : ∀ x ∈ xs, (tree x).WrittenAs (text x)) (given : xs ≠ []) (fuel : Nat)
    (room : 2 * ([','].intercalate (xs.map (memberText name text))).length < fuel) (rest : List Char) :
    members? fuel ([','].intercalate (xs.map (memberText name text)) ++ '\x7d' :: rest) =
      some (xs.map fun x => (JsonChar.ofText (name x), tree x), rest) := by
  induction xs generalizing fuel with
  | nil => exact absurd rfl given
  | cons x xs ih =>
    obtain ⟨fuel, rfl⟩ := Nat.exists_eq_add_one_of_ne_zero (Nat.ne_of_gt (Nat.zero_lt_of_lt room))
    have first := each x List.mem_cons_self
    cases xs with
    | nil =>
      rw [List.map_singleton, List.intercalate_singleton] at room ⊢
      rw [members?_memberText first fuel (Nat.le_of_lt_succ room)]
      simp only [skipBlanks_cons (c := '\x7d') (by decide), List.map_singleton]
    | cons y ys =>
      have others := ih (fun z member => each z (List.mem_cons_of_mem x member)) (by simp) fuel
      rw [List.map_cons, List.map_cons, List.intercalate_cons_cons, ← List.map_cons] at room ⊢
      simp only [List.length_append, List.length_singleton] at room
      simp only [List.append_assoc, List.cons_append, List.nil_append]
      rw [members?_memberText first fuel (by omega)]
      simp only [skipBlanks_cons (c := ',') (by decide)]
      rw [others (by omega)]
      rfl

theorem writtenAs_object (each : ∀ x ∈ xs, (tree x).WrittenAs (text x)) :
    (object (xs.map fun x => (JsonChar.ofText (name x), tree x))).WrittenAs
      ('\x7b' :: ([','].intercalate (xs.map (memberText name text)) ++ ['\x7d'])) := by
  refine ⟨⟨_, _, rfl, by decide, by decide⟩, fun {fuel} room rest => ?_⟩
  obtain ⟨fuel, rfl⟩ : ∃ n, fuel = n + 1 := Nat.exists_eq_add_one_of_ne_zero (by simp at room; omega)
  simp only [List.length_cons, List.length_append, List.length_nil] at room
  simp only [List.cons_append, List.append_assoc, List.nil_append, value?, skipBlanks_cons (c := '\x7b') (by decide)]
  cases xs with
  | nil => rfl
  | cons x xs =>
    obtain ⟨head, opens⟩ : ∃ head, memberText name text x = '"' :: head :=
      ⟨_, congrArg (· ++ ':' :: text x) (Json.toList_writeString (name x))⟩
    obtain ⟨tail, begins⟩ : ∃ tail, [','].intercalate (memberText name text x :: xs.map (memberText name text)) =
        '"' :: tail := by
      cases xs <;> simp [opens]
    have members := @members?_write _ _ _ _ name each (by simp) fuel (by omega) rest
    rw [List.map_cons, begins, List.cons_append] at members ⊢
    rw [skipBlanks_cons (by decide)]
    split
    next closing => simp at closing
    next => rw [members, Option.map_some]

end Containers

section Values

variable {α : Type} {tree : α → JsonSyntax} {value : α → Json} {xs : List α}

theorem writtenAs_write_array (each : ∀ x ∈ xs, (tree x).WrittenAs (value x).write.toList) :
    (array (xs.map tree)).WrittenAs (Json.array (xs.map value)).write.toList := by
  have written : (Json.array (xs.map value)).write.toList =
      '[' :: ([','].intercalate (xs.map fun x => (value x).write.toList) ++ [']']) := by
    simp [Json.write, Json.writeItems_eq, String.toList_intercalate, Function.comp_def]
  rw [written]
  exact writtenAs_array each

theorem writtenAs_write_object {name : α → String} {members : OrderedMap Json}
    (listed : members.toList = xs.map fun x => (name x, value x))
    (each : ∀ x ∈ xs, (tree x).WrittenAs (value x).write.toList) :
    (object (xs.map fun x => (JsonChar.ofText (name x), tree x))).WrittenAs (Json.object members).write.toList := by
  have written : (Json.object members).write.toList =
      '\x7b' :: ([','].intercalate (xs.map (memberText name fun x => (value x).write.toList)) ++ ['\x7d']) := by
    simp [Json.write, Json.writeMembers_eq, listed, String.toList_intercalate, Function.comp_def]
    rfl
  rw [written]
  exact writtenAs_object each

end Values

theorem parse?_of_writtenAs {tree : JsonSyntax} {s : String} (written : tree.WrittenAs s.toList) :
    parse? s = some tree := by
  have read : value? (2 * s.toList.length + 2) (s.toList ++ []) = some (tree, []) := written.read (by omega) []
  rw [List.append_nil] at read
  simp only [parse?, read]
  rfl

end JsonSyntax

end TemplateEngine
