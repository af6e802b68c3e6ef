import TemplateEngine.Json.Number

namespace TemplateEngine

/-- One element of a quoted string: a character, or the number of a `\u` escape. -/
inductive JsonChar
  | plain (c : Char)
  | escaped (unit : Nat)
deriving DecidableEq, Inhabited

/-- A JSON text, taken apart without being judged: members may repeat a name, numbers may be beyond all ranges, and
escapes may stand for half a character. -/
inductive JsonSyntax
  | null
  | bool (b : Bool)
  | number (literal : NumberLiteral)
  | string (content : List JsonChar)
  | array (items : List JsonSyntax)
  | object (members : List (List JsonChar × JsonSyntax))

namespace JsonSyntax

def isBlank (c : Char) : Bool := c == ' ' || c == '\n' || c == '\t' || c == '\r'

def skipBlanks (cs : List Char) : List Char := cs.dropWhile isBlank

def hexDigit? (c : Char) : Option Nat :=
  if '0' ≤ c ∧ c ≤ '9' then some (c.toNat - '0'.toNat)
  else if 'a' ≤ c ∧ c ≤ 'f' then some (c.toNat - 'a'.toNat + 10)
  else if 'A' ≤ c ∧ c ≤ 'F' then some (c.toNat - 'A'.toNat + 10)
  else none

/-- The element that follows a backslash, and the rest. -/
def escape? : List Char → Option (JsonChar × List Char)
  | 'u' :: a :: b :: c :: d :: rest => do
    let a ← hexDigit? a
    let b ← hexDigit? b
    let c ← hexDigit? c
    let d ← hexDigit? d
    return (.escaped (((a * 16 + b) * 16 + c) * 16 + d), rest)
  | '"' :: rest => some (.plain '"', rest)
  | '\\' :: rest => some (.plain '\\', rest)
  | '/' :: rest => some (.plain '/', rest)
  | 'b' :: rest => some (.plain '\x08', rest)
  | 'f' :: rest => some (.plain '\x0c', rest)
  | 'n' :: rest => some (.plain '\n', rest)
  | 'r' :: rest => some (.plain '\r', rest)
  | 't' :: rest => some (.plain '\t', rest)
  | _ => none

/-- The content of a string whose opening quote has been read, and what follows its closing quote.
Control characters must be escaped. -/
def string? : (fuel : Nat) → List Char → Option (List JsonChar × List Char)
  | 0, _ => none
  | _ + 1, [] => none
  | _ + 1, '"' :: rest => some ([], rest)
  | fuel + 1, '\\' :: rest => do
    let (element, rest) ← escape? rest
    let (content, rest) ← string? fuel rest
    return (element :: content, rest)
  | fuel + 1, c :: rest =>
    if c.toNat < 32 then none
    else do
      let (content, rest) ← string? fuel rest
      return (.plain c :: content, rest)

/-- The digits at the start of a text, and the rest. -/
def digits (cs : List Char) : List Nat × List Char :=
  ((cs.takeWhile Char.isDigit).map (fun c => c.toNat - '0'.toNat), cs.dropWhile Char.isDigit)

/-- At least one digit, and the rest. -/
def digits? (cs : List Char) : Option (List Nat × List Char) :=
  match digits cs with
  | ([], _) => none
  | (d :: ds, rest) => some (d :: ds, rest)

/-- A number literal and the rest. A leading zero stands alone before the point. -/
def number? (cs : List Char) : Option (NumberLiteral × List Char) := do
  let (negative, cs) := match cs with
    | '-' :: rest => (true, rest)
    | _ => (false, cs)
  let (whole, cs) ← digits? cs
  if whole.head? = some 0 ∧ whole ≠ [0] then none else
  let (fraction, cs) ← match cs with
    | '.' :: rest => (digits? rest).map (fun (ds, rest) => (some ds, rest))
    | _ => some (none, cs)
  let exponent? (minus : Bool) (rest : List Char) : Option (Option (Bool × List Nat) × List Char) :=
    (digits? rest).map (fun (ds, rest) => (some (minus, ds), rest))
  let afterMark (rest : List Char) := match rest with
    | '+' :: rest => exponent? false rest
    | '-' :: rest => exponent? true rest
    | _ => exponent? false rest
  let (exponent, cs) ← match cs with
    | 'e' :: rest => afterMark rest
    | 'E' :: rest => afterMark rest
    | _ => some (none, cs)
  return (⟨negative, whole, fraction, exponent⟩, cs)

mutual

/-- The value at the start of a text, and the rest. Of two nested calls one at least has read a character,
so twice the length of a text is fuel enough for it. -/
def value? : (fuel : Nat) → List Char → Option (JsonSyntax × List Char)
  | 0, _ => none
  | fuel + 1, cs =>
    match skipBlanks cs with
    | 'n' :: 'u' :: 'l' :: 'l' :: rest => some (.null, rest)
    | 't' :: 'r' :: 'u' :: 'e' :: rest => some (.bool true, rest)
    | 'f' :: 'a' :: 'l' :: 's' :: 'e' :: rest => some (.bool false, rest)
    | '"' :: rest => (string? (rest.length + 1) rest).map (fun (content, rest) => (.string content, rest))
    | '[' :: rest =>
      match skipBlanks rest with
      | ']' :: rest => some (.array [], rest)
      | rest => (items? fuel rest).map (fun (items, rest) => (.array items, rest))
    | '\x7b' :: rest =>
      match skipBlanks rest with
      | '\x7d' :: rest => some (.object [], rest)
      | rest => (members? fuel rest).map (fun (members, rest) => (.object members, rest))
    | cs => (number? cs).map (fun (literal, rest) => (.number literal, rest))

/-- The items of an array up to its closing bracket, and the rest. -/
def items? : (fuel : Nat) → List Char → Option (List JsonSyntax × List Char)
  | 0, _ => none
  | fuel + 1, cs =>
    match value? fuel cs with
    | none => none
    | some (item, cs) =>
      match skipBlanks cs with
      | ',' :: rest => (items? fuel rest).map (fun (items, rest) => (item :: items, rest))
      | ']' :: rest => some ([item], rest)
      | _ => none

/-- The members of an object up to its closing brace, and the rest. -/
def members? : (fuel : Nat) → List Char → Option (List (List JsonChar × JsonSyntax) × List Char)
  | 0, _ => none
  | fuel + 1, cs =>
    match skipBlanks cs with
    | '"' :: cs =>
      match string? (cs.length + 1) cs with
      | none => none
      | some (name, cs) =>
        match skipBlanks cs with
        | ':' :: cs =>
          match value? fuel cs with
          | none => none
          | some (item, cs) =>
            match skipBlanks cs with
            | ',' :: rest =>
              (members? fuel rest).map (fun (members, rest) => ((name, item) :: members, rest))
            | '\x7d' :: rest => some ([(name, item)], rest)
            | _ => none
        | _ => none
    | _ => none

end

/-- Takes a whole text apart; nothing but blanks may follow the value. -/
def parse? (text : String) : Option JsonSyntax :=
  let cs := text.toList
  match value? (2 * cs.length + 2) cs with
  | some (tree, rest) => if (skipBlanks rest).isEmpty then some tree else none
  | none => none

end JsonSyntax

end TemplateEngine
