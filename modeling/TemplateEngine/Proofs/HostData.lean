import TemplateEngine.Proofs.Conversion
import TemplateEngine.Proofs.Settled

namespace TemplateEngine

namespace Binary64

/-- The value of a number that is not negative and at least as great as the integer significands are. -/
def whole (x : Binary64) : Nat := x.significand <<< (x.scale - 1075)

theorem whole_eq {x : Binary64} {e : Nat} (field : x.exponentField = e + 1075) :
    x.whole = (1 <<< 52 + x.fraction) <<< e := by
  have normal : x.significand = 1 <<< 52 + x.fraction := by
    rw [significand, field]
    exact if_neg (Nat.succ_ne_zero _)
  have scale : x.scale - 1075 = e := by rw [scale, field]; omega
  show x.significand <<< (x.scale - 1075) = _
  rw [normal, scale]

/-- A quotient is rounded by no more than a half. -/
theorem roundHalfEven_near (num : Nat) {den : Nat} (positive : 0 < den) :
    2 * (den * roundHalfEven num den) ≤ 2 * num + den ∧ 2 * num ≤ 2 * (den * roundHalfEven num den) + den := by
  have division := Nat.div_add_mod num den
  have below := Nat.mod_lt num positive
  rw [roundHalfEven]
  split
  next up =>
    rw [Nat.mul_add, Nat.mul_one]
    simp only [Bool.or_eq_true, decide_eq_true_eq, Bool.and_eq_true, beq_iff_eq] at up
    omega
  next down =>
    simp only [Bool.or_eq_true, decide_eq_true_eq, Bool.and_eq_true, beq_iff_eq, not_or] at down
    omega

theorem bits_ofNat {n : Nat} (above : 1 <<< 63 ≤ n) (small : n < UInt64.size) :
    (ofNat n).bits.toNat = 1085 <<< 52 + roundHalfEven n 2048 := by
  have size : UInt64.size = 18446744073709551616 := rfl
  have half : 1 <<< 63 = 9223372036854775808 := rfl
  rw [half] at above
  rw [size] at small
  have log : n.log2 = 63 := (Nat.log2_eq_iff (by omega)).mpr ⟨by omega, by omega⟩
  have log_one : Nat.log2 1 = 0 := by decide
  have scale : scaleOfRatio n 1 = 1086 := by simp [scaleOfRatio, log, log_one, above]
  have near := roundHalfEven_near n (show 0 < 2048 by decide)
  have nonzero : n ≠ 0 := by omega
  have powers : 2047 <<< 52 = 9218868437227405312 ∧ 1085 <<< 52 = 4886405595696988160 ∧ 1 <<< 11 = 2048 :=
    ⟨rfl, rfl, rfl⟩
  obtain ⟨top, base, unit⟩ := powers
  have inside : ¬ 2047 <<< 52 ≤ 1085 <<< 52 + roundHalfEven n 2048 := by rw [top, base]; omega
  have rounded : ofNat n = ⟨(1085 <<< 52 + roundHalfEven n 2048).toUInt64⟩ := by
    simp only [ofNat, ofRatio, nonzero, if_false, scale, Nat.shiftLeft_zero, Nat.reduceSub, unit, inside]
  rw [rounded, Nat.toUInt64, UInt64.toNat_ofNat_of_lt']
  rw [size, base]
  omega

/-- An integer of sixty-four bits with the highest bit set becomes a float that is near. -/
theorem ofNat_near {n : Nat} (above : 1 <<< 63 ≤ n) (small : n < UInt64.size) :
    (ofNat n).isFinite = true ∧ (ofNat n).isNegative = false ∧ 1075 ≤ (ofNat n).scale ∧
      n ≤ (ofNat n).whole + 1024 ∧ (ofNat n).whole ≤ n + 1024 := by
  have bits := bits_ofNat above small
  have near := roundHalfEven_near n (show 0 < 2048 by decide)
  have size : UInt64.size = 18446744073709551616 := rfl
  have half : 1 <<< 63 = 9223372036854775808 := rfl
  have base : 1085 <<< 52 = 4886405595696988160 := rfl
  have powers : 1 <<< 52 = 4503599627370496 ∧ 1 <<< 11 = 2048 := ⟨rfl, rfl⟩
  rw [half] at above
  rw [size] at small
  rw [base] at bits
  have field : (ofNat n).exponentField = (ofNat n).bits.toNat / 4503599627370496 % 2048 := by
    rw [exponentField, Nat.shiftRight_eq_div_pow, powers.2]
  have fraction : (ofNat n).fraction = (ofNat n).bits.toNat % 4503599627370496 := by
    rw [Binary64.fraction, powers.1]
  generalize roundHalfEven n 2048 = sum at near bits
  rw [bits] at field fraction
  have shown : (ofNat n).exponentField = 1086 ∧ (ofNat n).fraction + 4503599627370496 = sum ∨
      (ofNat n).exponentField = 1087 ∧ (ofNat n).fraction = 0 ∧ sum = 9007199254740992 := by omega
  have positive : (ofNat n).isNegative = false := by
    rw [isNegative, bits, half]
    exact decide_eq_false (by omega)
  rcases shown with ⟨f, g⟩ | ⟨f, g, rfl⟩
  · have value := whole_eq (e := 11) f
    have scale : (ofNat n).scale = 1086 := by rw [scale, f]; rfl
    rw [powers.1, Nat.shiftLeft_eq] at value
    exact ⟨by rw [isFinite, f]; rfl, positive, by omega, by omega, by omega⟩
  · have value := whole_eq (e := 12) f
    have scale : (ofNat n).scale = 1087 := by rw [scale, f]; rfl
    rw [powers.1, Nat.shiftLeft_eq] at value
    exact ⟨by rw [isFinite, f]; rfl, positive, by omega, by omega, by omega⟩

end Binary64

/-- The number as it is converted: an integer beyond the range of values is a float. -/
def JsonNumber.rounded : JsonNumber → JsonNumber
  | .integer n => .integer n
  | .large n above => .float (Binary64.ofNat n.toNat) (Binary64.ofNat_near above n.toNat_lt).1
  | .float x finite => .float x finite

mutual

/-- The numbers in a JSON value, at all depths. -/
def Json.numbers : Json → List JsonNumber
  | .number n => [n]
  | .array items => itemNumbers items
  | .object members => memberNumbers members
  | _ => []

def itemNumbers : List Json → List JsonNumber
  | [] => []
  | item :: rest => item.numbers ++ itemNumbers rest

def memberNumbers : OrderedMap Json → List JsonNumber
  | ⟨_, fields⟩ => fieldNumbers fields

def fieldNumbers {names : List String} : Fields Json names → List JsonNumber
  | .nil => []
  | .snoc older _ _ value => value.numbers ++ fieldNumbers older

end

mutual

/-- The data as they are converted: all their numbers are rounded. -/
def Json.rounded : Json → Json
  | .number n => .number n.rounded
  | .array items => .array (roundedItems items)
  | .object members => .object (roundedMembers members)
  | .null => .null
  | .bool b => .bool b
  | .string s => .string s

def roundedItems : List Json → List Json
  | [] => []
  | item :: rest => item.rounded :: roundedItems rest

def roundedMembers : OrderedMap Json → OrderedMap Json
  | ⟨_, fields⟩ => ⟨_, roundedFields fields⟩

def roundedFields {names : List String} : Fields Json names → Fields Json names
  | .nil => .nil
  | .snoc older name fresh value => .snoc (roundedFields older) name fresh value.rounded

end

mutual

/-- The JSON value of the same shape. There is none for cells, for content of a kind, and for floats that are not
finite. -/
def Value.toJson? : Value → Option Json
  | .null => some .null
  | .bool b => some (.bool b)
  | .integer n => some (.number (.integer n))
  | .float x => (JsonNumber.ofBinary64? x).map .number
  | .string s => some (.string s)
  | .list items => (slotsToItems? items).map .array
  | .record fields => (slotsToMembers? fields).map .object
  | .sanitized _ => none

def Slot.toJson? : Slot → Option Json
  | .ready value => value.toJson?
  | .deferred _ => none

def slotsToItems? : List Slot → Option (List Json)
  | [] => some []
  | slot :: rest => slot.toJson?.bind fun item => (slotsToItems? rest).map fun items => item :: items

def slotsToMembers? : OrderedMap Slot → Option (OrderedMap Json)
  | ⟨_, fields⟩ => (slotsToFields? fields).map fun members => ⟨_, members⟩

def slotsToFields? {names : List String} : Fields Slot names → Option (Fields Json names)
  | .nil => some .nil
  | .snoc older name fresh slot =>
    (slotsToFields? older).bind fun older => slot.toJson?.map fun value => .snoc older name fresh value

end

theorem JsonNumber.toJson?_toValue (n : JsonNumber) : n.toValue.toJson? = some (.number n.rounded) := by
  cases n with
  | integer n => rfl
  | large n above =>
    have finite := (Binary64.ofNat_near above n.toNat_lt).1
    simp only [toValue, Value.toJson?, ofBinary64?, finite, dite_true, Option.map_some, rounded]
  | float x finite => simp only [toValue, Value.toJson?, ofBinary64?, finite, dite_true, Option.map_some, rounded]

mutual

/-- What is read back from converted data are the rounded data. -/
theorem Json.toJson?_toValue (j : Json) : j.toValue.toJson? = some j.rounded := by
  cases j with
  | null | bool | string => rfl
  | number n => exact n.toJson?_toValue
  | array items => rw [Json.toValue, Value.toJson?, slotsToItems?_itemsToSlots, Option.map_some, Json.rounded]
  | object members => rw [Json.toValue, Value.toJson?, slotsToMembers?_membersToSlots, Option.map_some, Json.rounded]

theorem slotsToItems?_itemsToSlots (items : List Json) :
    slotsToItems? (itemsToSlots items) = some (roundedItems items) := by
  cases items with
  | nil => rfl
  | cons item rest =>
    have first : (Slot.ready item.toValue).toJson? = some item.rounded := item.toJson?_toValue
    rw [itemsToSlots, slotsToItems?, first, slotsToItems?_itemsToSlots rest]
    rfl

theorem slotsToMembers?_membersToSlots (members : OrderedMap Json) :
    slotsToMembers? (membersToSlots members) = some (roundedMembers members) := by
  cases members with
  | mk names fields =>
    rw [membersToSlots, slotsToMembers?, slotsToFields?_fieldsToSlots fields]
    rfl

theorem slotsToFields?_fieldsToSlots {names : List String} (fields : Fields Json names) :
    slotsToFields? (fieldsToSlots fields) = some (roundedFields fields) := by
  cases fields with
  | nil => rfl
  | snoc older name fresh value =>
    have newest : (Slot.ready value.toValue).toJson? = some value.rounded := value.toJson?_toValue
    rw [fieldsToSlots, slotsToFields?, slotsToFields?_fieldsToSlots older, newest]
    rfl

end

theorem JsonNumber.rounded_eq {n : JsonNumber} (small : ∀ m above, n ≠ .large m above) : n.rounded = n := by
  cases n with
  | integer n => rfl
  | large n above => exact absurd rfl (small n above)
  | float x finite => rfl

mutual

/-- Data without integers beyond the range of values are not changed. -/
theorem Json.rounded_eq (j : Json) (small : ∀ n above, .large n above ∉ j.numbers) : j.rounded = j := by
  cases j with
  | null | bool | string => rfl
  | number n =>
    have within : ∀ m above, n ≠ .large m above := fun m above same => small m above (same ▸ List.mem_singleton_self n)
    rw [Json.rounded, JsonNumber.rounded_eq within]
  | array items => rw [Json.rounded, roundedItems_eq items small]
  | object members => rw [Json.rounded, roundedMembers_eq members small]

theorem roundedItems_eq (items : List Json) (small : ∀ n above, .large n above ∉ itemNumbers items) :
    roundedItems items = items := by
  cases items with
  | nil => rfl
  | cons item rest =>
    have first := item.rounded_eq fun n above member => small n above (List.mem_append_left _ member)
    have others := roundedItems_eq rest fun n above member => small n above (List.mem_append_right _ member)
    rw [roundedItems, first, others]

theorem roundedMembers_eq (members : OrderedMap Json) (small : ∀ n above, .large n above ∉ memberNumbers members) :
    roundedMembers members = members := by
  cases members with
  | mk names fields => rw [roundedMembers, roundedFields_eq fields small]

theorem roundedFields_eq {names : List String} (fields : Fields Json names)
    (small : ∀ n above, .large n above ∉ fieldNumbers fields) : roundedFields fields = fields := by
  cases fields with
  | nil => rfl
  | snoc older name fresh value =>
    have newest := value.rounded_eq fun n above member => small n above (List.mem_append_left _ member)
    have others := roundedFields_eq older fun n above member => small n above (List.mem_append_right _ member)
    rw [roundedFields, newest, others]

end

mutual

/-- A value that can be read back is what the data convert to that are read. -/
theorem Value.toValue_of_toJson? (v : Value) {j : Json} (read : v.toJson? = some j) : j.toValue = v := by
  cases v with
  | null | bool | integer | string => cases read; rfl
  | sanitized => cases read
  | float x =>
    obtain ⟨n, number, rfl⟩ := Option.map_eq_some_iff.mp read
    rw [JsonNumber.ofBinary64?] at number
    split at number
    · cases number; rfl
    · cases number
  | list items =>
    obtain ⟨items', found, rfl⟩ := Option.map_eq_some_iff.mp read
    rw [Json.toValue, itemsToSlots_of_slotsToItems? items found]
  | record fields =>
    obtain ⟨members, found, rfl⟩ := Option.map_eq_some_iff.mp read
    rw [Json.toValue, membersToSlots_of_slotsToMembers? fields found]

theorem Slot.toValue_of_toJson? (slot : Slot) {j : Json} (read : slot.toJson? = some j) : .ready j.toValue = slot := by
  cases slot with
  | ready v => rw [v.toValue_of_toJson? read]
  | deferred c => cases read

theorem itemsToSlots_of_slotsToItems? (slots : List Slot) {items : List Json}
    (read : slotsToItems? slots = some items) : itemsToSlots items = slots := by
  cases slots with
  | nil => cases read; rfl
  | cons slot rest =>
    obtain ⟨item, first, others⟩ := Option.bind_eq_some_iff.mp read
    obtain ⟨items', found, rfl⟩ := Option.map_eq_some_iff.mp others
    rw [itemsToSlots, slot.toValue_of_toJson? first, itemsToSlots_of_slotsToItems? rest found]

theorem membersToSlots_of_slotsToMembers? (record : OrderedMap Slot) {members : OrderedMap Json}
    (read : slotsToMembers? record = some members) : membersToSlots members = record := by
  cases record with
  | mk names fields =>
    obtain ⟨fields', found, rfl⟩ := Option.map_eq_some_iff.mp read
    rw [membersToSlots, fieldsToSlots_of_slotsToFields? fields found]

theorem fieldsToSlots_of_slotsToFields? {names : List String} (slots : Fields Slot names) {fields : Fields Json names}
    (read : slotsToFields? slots = some fields) : fieldsToSlots fields = slots := by
  cases slots with
  | nil => cases read; rfl
  | snoc older name fresh slot =>
    obtain ⟨older', others, newest⟩ := Option.bind_eq_some_iff.mp read
    obtain ⟨value, found, rfl⟩ := Option.map_eq_some_iff.mp newest
    rw [fieldsToSlots, slot.toValue_of_toJson? found, fieldsToSlots_of_slotsToFields? older others]

end

mutual

theorem Json.cells_toValue (j : Json) : j.toValue.cells = [] := by
  cases j with
  | null | bool | string => rfl
  | number n => cases n <;> rfl
  | array items => exact itemCells_itemsToSlots items
  | object members => exact recordCells_membersToSlots members

theorem itemCells_itemsToSlots (items : List Json) : itemCells (itemsToSlots items) = [] := by
  cases items with
  | nil => rfl
  | cons item rest =>
    have first : (Slot.ready item.toValue).cells = [] := item.cells_toValue
    rw [itemsToSlots, itemCells, first, itemCells_itemsToSlots rest, List.append_nil]

theorem recordCells_membersToSlots (members : OrderedMap Json) : recordCells (membersToSlots members) = [] := by
  cases members with
  | mk names fields => exact fieldCells_fieldsToSlots fields

theorem fieldCells_fieldsToSlots {names : List String} (fields : Fields Json names) :
    fieldCells (fieldsToSlots fields) = [] := by
  cases fields with
  | nil => rfl
  | snoc older name fresh value =>
    have newest : (Slot.ready value.toValue).cells = [] := value.cells_toValue
    rw [fieldsToSlots, fieldCells, newest, fieldCells_fieldsToSlots older, List.append_nil]

end

/-- Data convert to the same value exactly if they are the same up to the rounding of large integers. -/
theorem Json.toValue_eq_iff {j k : Json} : j.toValue = k.toValue ↔ j.rounded = k.rounded := by
  constructor
  · intro same
    have read := j.toJson?_toValue
    rw [same, k.toJson?_toValue] at read
    exact (Option.some.inj read).symm
  · intro same
    rw [← j.toValue.toValue_of_toJson? j.toJson?_toValue, same, k.toValue.toValue_of_toJson? k.toJson?_toValue]

namespace Converter

theorem json_convertRecord_eq_ok_iff {j : Json} {record : Record} :
    json.convertRecord j = .ok record ↔ ∃ members, j = .object members ∧ record = membersToSlots members := by
  rw [json_convertRecord]
  cases j with
  | object members => simp [Json.toValue, Value.toRecord, eq_comm]
  | number n => cases n <;> simp [Json.toValue, JsonNumber.toValue, Value.toRecord]
  | null | bool | string | array => simp [Json.toValue, Value.toRecord]

/-- The standard converter takes all data, and no cell is in what it makes of them. The data can be read back, apart
from integers beyond the range of values, which have become floats that are as near as any; so data without such
integers are never confused. Records are made of objects only, and keep the names of their members in order. -/
theorem json_faithful :
    (∀ j : Json, ∃ v, json.convert j = .ok v ∧ v.cells = [] ∧ v.toJson? = some j.rounded) ∧
    (∀ j : Json, (∀ n above, .large n above ∉ j.numbers) → j.rounded = j) ∧
    (∀ j k : Json, json.convert j = json.convert k ↔ j.rounded = k.rounded) ∧
    (∀ n above, ∃ x : Binary64, json.convert (.number (.large n above)) = .ok (.float x) ∧ x.isFinite = true ∧
      x.isNegative = false ∧ 1075 ≤ x.scale ∧ n.toNat ≤ x.whole + 1024 ∧ x.whole ≤ n.toNat + 1024) ∧
    (∀ j : Json, (∃ record, json.convertRecord j = .ok record) ↔ ∃ members, j = .object members) ∧
    ∀ members : OrderedMap Json, ∃ record, json.convertRecord (.object members) = .ok record ∧
      json.convert (.object members) = .ok (.record record) ∧ record.names = members.names := by
  refine ⟨fun j => ⟨j.toValue, json_convert j, j.cells_toValue, j.toJson?_toValue⟩, Json.rounded_eq, fun j k => ?_,
    fun n above => ?_, fun j => ?_, fun members => ?_⟩
  · rw [← Json.toValue_eq_iff, json_convert, json_convert]
    exact ⟨Except.ok.inj, congrArg Except.ok⟩
  · exact ⟨_, rfl, Binary64.ofNat_near above n.toNat_lt⟩
  · simp only [json_convertRecord_eq_ok_iff]
    exact ⟨fun ⟨_, members, same, _⟩ => ⟨members, same⟩, fun ⟨members, same⟩ => ⟨_, members, same, rfl⟩⟩
  · obtain ⟨names, fields⟩ := members
    exact ⟨_, json_convertRecord_eq_ok_iff.mpr ⟨⟨names, fields⟩, rfl, rfl⟩, json_convert _, rfl⟩

/-- A person with a list of mixed items: the integer and the float in it are told apart when they are read back. -/
theorem json_faithful_person :
    let j : Json := .object (OrderedMap.ofList [("admin", .bool false),
      ("langs", .array [.string "en", .number (.integer 3), .number (.float ⟨0x4008000000000000⟩ rfl)]),
      ("name", .string "Ada")])
    (∀ n above, .large n above ∉ j.numbers) ∧ ∃ v, json.convert j = .ok v ∧ v.cells = [] ∧ v.toJson? = some j := by
  intro j
  have numbers : j.numbers = [.integer 3, .float ⟨0x4008000000000000⟩ rfl] := rfl
  have small : ∀ n above, .large n above ∉ j.numbers := by simp [numbers]
  obtain ⟨v, converted, closed, read⟩ := json_faithful.1 j
  rw [json_faithful.2.1 j small] at read
  exact ⟨small, v, converted, closed, read⟩

end Converter

end TemplateEngine
