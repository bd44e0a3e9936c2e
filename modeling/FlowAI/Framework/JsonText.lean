import FlowAI.Framework.Bytes
import FlowAI.Framework.Json

/-! # JSON Texts

  The text level of `encoding/json`: what `Marshal` writes for strings, integers,
  lists and objects, what the scanner of `Unmarshal` accepts, and how an object is
  stored into a struct.  Members keep the order and the duplicates of the text, and
  numbers keep their literal.  The main law is `parse_print`: a marshalled value is
  read back as it was written.
-/

namespace FlowAI

/-- A parsed JSON text. -/
inductive JsonText where
  | null
  | bool (b : Bool)
  | num (literal : String)
  | str (s : String)
  | arr (items : List JsonText)
  | obj (members : List (String × JsonText))
  deriving Repr

namespace JsonText

/-! ## Section 1: Writing -/

def hexDigit (n : Nat) : Char := if n < 10 then Char.ofNat (48 + n) else Char.ofNat (87 + n)

/-- One character of a string literal, with the HTML characters escaped. -/
def escapeChar (c : Char) : List Char :=
  if c = '"' then ['\\', '"']
  else if c = '\\' then ['\\', '\\']
  else if c = '\x08' then ['\\', 'b']
  else if c = '\x0c' then ['\\', 'f']
  else if c = '\n' then ['\\', 'n']
  else if c = '\r' then ['\\', 'r']
  else if c = '\t' then ['\\', 't']
  else if c.toNat < 32 || c = '<' || c = '>' || c = '&' then
    ['\\', 'u', '0', '0', hexDigit (c.toNat / 16), hexDigit (c.toNat % 16)]
  else if c = Char.ofNat 0x2028 then ['\\', 'u', '2', '0', '2', '8']
  else if c = Char.ofNat 0x2029 then ['\\', 'u', '2', '0', '2', '9']
  else [c]

/-- A string literal. -/
def quote (s : String) : List Char := '"' :: (s.toList.flatMap escapeChar ++ ['"'])

/-- The literal of an integer. -/
def intLiteral (i : Int) : List Char :=
  if i < 0 then '-' :: Nat.toDigits 10 i.natAbs else Nat.toDigits 10 i.natAbs

/-- An integer as a JSON number. -/
def int (i : Int) : JsonText := .num (String.ofList (intLiteral i))

mutual

/-- The compact text of `json.Marshal`. -/
def print : JsonText → List Char
  | .null => ['n', 'u', 'l', 'l']
  | .bool true => ['t', 'r', 'u', 'e']
  | .bool false => ['f', 'a', 'l', 's', 'e']
  | .num literal => literal.toList
  | .str s => quote s
  | .arr items => '[' :: (printItems items ++ [']'])
  | .obj members => '\x7b' :: (printMembers members ++ ['\x7d'])

def printItems : List JsonText → List Char
  | [] => []
  | [v] => print v
  | v :: w :: rest => print v ++ ',' :: printItems (w :: rest)

def printMembers : List (String × JsonText) → List Char
  | [] => []
  | [(k, v)] => quote k ++ ':' :: print v
  | (k, v) :: m :: rest => quote k ++ ':' :: (print v ++ ',' :: printMembers (m :: rest))

end

mutual

/-- The values `Marshal` is given here: every number is an integer. -/
def Marshalled : JsonText → Prop
  | .num literal => ∃ i : Int, literal = String.ofList (intLiteral i)
  | .arr items => MarshalledItems items
  | .obj members => MarshalledMembers members
  | _ => True

def MarshalledItems : List JsonText → Prop
  | [] => True
  | v :: rest => v.Marshalled ∧ MarshalledItems rest

def MarshalledMembers : List (String × JsonText) → Prop
  | [] => True
  | (_, v) :: rest => v.Marshalled ∧ MarshalledMembers rest

end

/-! ## Section 2: Reading -/

def isSpace (c : Char) : Bool := c = ' ' || c = '\t' || c = '\n' || c = '\r'

def skipSpace (input : List Char) : List Char := input.dropWhile isSpace

/-- Four hexadecimal digits as one UTF-16 unit. -/
def readUnit : List Char → Option (Nat × List Char)
  | a :: b :: c :: d :: rest => do
    let a ← hexValue a
    let b ← hexValue b
    let c ← hexValue c
    let d ← hexValue d
    return (((a * 16 + b) * 16 + c) * 16 + d, rest)
  | _ => none

/-- The character of a surrogate pair whose second half is the next escape. -/
def readPair (high : Nat) : List Char → Option (Char × List Char)
  | '\\' :: 'u' :: rest => do
    let (low, rest) ← readUnit rest
    if high < 0xdc00 && 0xdc00 ≤ low && low < 0xe000 then
      return (Char.ofNat (0x10000 + (high - 0xd800) * 0x400 + (low - 0xdc00)), rest)
    else none
  | _ => none

/-- The escape after a backslash and `u`; half a pair is a replacement character. -/
def readUnicode (input : List Char) : Option (Char × List Char) := do
  let (unit, rest) ← readUnit input
  if 0xd800 ≤ unit && unit < 0xe000 then
    return (readPair unit rest).getD (Char.ofNat 0xfffd, rest)
  else return (Char.ofNat unit, rest)

def simpleEscape (c : Char) : Option Char :=
  if c = '"' || c = '\\' || c = '/' then some c
  else if c = 'b' then some '\x08'
  else if c = 'f' then some '\x0c'
  else if c = 'n' then some '\n'
  else if c = 'r' then some '\r'
  else if c = 't' then some '\t'
  else none

/-- One character of a string literal. -/
def readChar : List Char → Option (Char × List Char)
  | [] => none
  | c :: rest =>
    if c = '\\' then
      match rest with
      | [] => none
      | e :: rest =>
        if e = 'u' then readUnicode rest else (simpleEscape e).map (fun d => (d, rest))
    else if c.toNat < 32 || c = '"' then none else some (c, rest)

/-- The rest of a string literal whose opening quote has been read. -/
def readChars : Nat → List Char → Option (List Char × List Char)
  | 0, _ => none
  | fuel + 1, input =>
    match input with
    | '"' :: rest => some ([], rest)
    | _ => do
      let (c, rest) ← readChar input
      let (text, rest) ← readChars fuel rest
      return (c :: text, rest)

def readString (input : List Char) : Option (String × List Char) :=
  match input with
  | '"' :: rest => (readChars rest.length rest).map (fun p => (String.ofList p.1, p.2))
  | _ => none

/-- A non-empty run of digits. -/
def readDigits (input : List Char) : Option (List Char × List Char) :=
  let digits := input.takeWhile Char.isDigit
  if digits = [] then none else some (digits, input.dropWhile Char.isDigit)

/-- Either a zero alone or digits that start with another one. -/
def readInteger (input : List Char) : Option (List Char × List Char) :=
  match input with
  | '0' :: rest => some (['0'], rest)
  | _ => readDigits input

def readFraction (input : List Char) : Option (List Char × List Char) :=
  match input with
  | '.' :: rest => (readDigits rest).map (fun p => ('.' :: p.1, p.2))
  | _ => some ([], input)

def readExponent (input : List Char) : Option (List Char × List Char) :=
  match input with
  | [] => some ([], [])
  | e :: rest =>
    if e = 'e' || e = 'E' then
      match rest with
      | '+' :: rest => (readDigits rest).map (fun p => (e :: '+' :: p.1, p.2))
      | '-' :: rest => (readDigits rest).map (fun p => (e :: '-' :: p.1, p.2))
      | _ => (readDigits rest).map (fun p => (e :: p.1, p.2))
    else some ([], input)

def readUnsigned (input : List Char) : Option (List Char × List Char) := do
  let (integer, rest) ← readInteger input
  let (fraction, rest) ← readFraction rest
  let (exponent, rest) ← readExponent rest
  return (integer ++ fraction ++ exponent, rest)

def readNumber (input : List Char) : Option (List Char × List Char) :=
  match input with
  | '-' :: rest => (readUnsigned rest).map (fun p => ('-' :: p.1, p.2))
  | _ => readUnsigned input

/-- `true`, `false` or `null`. -/
def readLiteral (input : List Char) : Option (JsonText × List Char) :=
  if input.take 4 = ['t', 'r', 'u', 'e'] then some (.bool true, input.drop 4)
  else if input.take 5 = ['f', 'a', 'l', 's', 'e'] then some (.bool false, input.drop 5)
  else if input.take 4 = ['n', 'u', 'l', 'l'] then some (.null, input.drop 4)
  else none

/-- A value that is neither an object nor an array. -/
def readScalar (input : List Char) : Option (JsonText × List Char) :=
  ((readString input).map (fun p => (.str p.1, p.2))).or
    ((readLiteral input).or
      ((readNumber input).map (fun p => (.num (String.ofList p.1), p.2))))

mutual

/-- One value, with the space before it. -/
def readValue : Nat → List Char → Option (JsonText × List Char)
  | 0, _ => none
  | fuel + 1, input =>
    match skipSpace input with
    | [] => none
    | c :: rest =>
      if c = '\x7b' then
        match skipSpace rest with
        | '\x7d' :: rest => some (.obj [], rest)
        | _ => (readMembers fuel rest).map (fun p => (.obj p.1, p.2))
      else if c = '[' then
        match skipSpace rest with
        | ']' :: rest => some (.arr [], rest)
        | _ => (readItems fuel rest).map (fun p => (.arr p.1, p.2))
      else readScalar (c :: rest)

/-- The items of an array up to its closing bracket. -/
def readItems : Nat → List Char → Option (List JsonText × List Char)
  | 0, _ => none
  | fuel + 1, input => do
    let (v, rest) ← readValue fuel input
    match skipSpace rest with
    | ',' :: rest =>
      let (items, rest) ← readItems fuel rest
      return (v :: items, rest)
    | ']' :: rest => return ([v], rest)
    | _ => none

/-- The members of an object up to its closing brace. -/
def readMembers : Nat → List Char → Option (List (String × JsonText) × List Char)
  | 0, _ => none
  | fuel + 1, input => do
    let (k, rest) ← readString (skipSpace input)
    match skipSpace rest with
    | ':' :: rest =>
      let (v, rest) ← readValue fuel rest
      match skipSpace rest with
      | ',' :: rest =>
        let (members, rest) ← readMembers fuel rest
        return ((k, v) :: members, rest)
      | '\x7d' :: rest => return ([(k, v)], rest)
      | _ => none
    | _ => none

end

/-- A whole text holds one value and space. -/
def parse (text : List Char) : Option JsonText := do
  let (v, rest) ← readValue (text.length + 1) text
  if skipSpace rest = [] then return v else none

/-- The number of a literal. -/
def decimal (literal : List Char) : Decimal :=
  let value (digits : List Char) : Int := digits.foldl (fun n c => 10 * n + (c.toNat - 48)) 0
  let signed (text : List Char) : Int :=
    match text with
    | '-' :: digits => -value digits
    | '+' :: digits => value digits
    | digits => value digits
  let (number, exponent) := literal.span (fun c => c ≠ 'e' && c ≠ 'E')
  let (whole, fraction) := number.span (· ≠ '.')
  ⟨signed (whole ++ fraction.drop 1), signed (exponent.drop 1) - (fraction.drop 1).length⟩

mutual

/-- The value of a text. -/
def toJson : JsonText → Json
  | .null => .null
  | .bool b => .bool b
  | .num literal => .num (decimal literal.toList)
  | .str s => .str s
  | .arr items => .arr (toJsonItems items)
  | .obj members => .obj (toJsonMembers members)

def toJsonItems : List JsonText → List Json
  | [] => []
  | v :: items => v.toJson :: toJsonItems items

def toJsonMembers : List (String × JsonText) → List (String × Json)
  | [] => []
  | (k, v) :: members => (k, v.toJson) :: toJsonMembers members

end

/-- Where a character stands: outside the string literals, in one, or after a backslash. -/
inductive Place where
  | outside
  | literal
  | escaped
  deriving DecidableEq

def Place.next : Place → Char → Place
  | .outside, c => if c = '"' then .literal else .outside
  | .literal, c => if c = '"' then .outside else if c = '\\' then .escaped else .literal
  | .escaped, _ => .literal

/-- `json.Compact` of a valid text: no space outside the string literals. -/
def compact (place : Place) : List Char → List Char
  | [] => []
  | c :: rest =>
    if place = .outside && isSpace c then compact place rest
    else c :: compact (place.next c) rest

/-- `json.Marshal` of a value, as bytes. -/
def marshal (v : JsonText) : Bytes := utf8Encode v.print

/-- The value `json.Unmarshal` works on. -/
def unmarshal (bytes : Bytes) : Option JsonText := parse (utf8Decode bytes)

/-! ## Section 3: Strings are read back -/

theorem hexValue_hexDigit {n : Nat} (h : n < 16) : hexValue (hexDigit n) = some n := by
  have hall : ∀ i : Fin 16, hexValue (hexDigit i) = some i.val := by decide
  exact hall ⟨n, h⟩

theorem readUnicode_low {n : Nat} (h : n < 128) (rest : List Char) :
    readUnicode ('0' :: '0' :: hexDigit (n / 16) :: hexDigit (n % 16) :: rest) =
      some (Char.ofNat n, rest) := by
  have h0 : hexValue '0' = some 0 := by decide
  have hsum : ((0 * 16 + 0) * 16 + n / 16) * 16 + n % 16 = n := by omega
  simp only [readUnicode, readUnit, h0, hexValue_hexDigit (show n / 16 < 16 by omega),
    hexValue_hexDigit (show n % 16 < 16 by omega), Option.bind_eq_bind, Option.bind_some,
    Option.pure_def, hsum]
  rw [if_neg]
  simp only [Bool.and_eq_true, decide_eq_true_eq]
  omega

/-- How a character is written: as itself, behind a backslash, or as its code. -/
theorem escapeChar_cases (c : Char) :
    (escapeChar c = [c] ∧ c ≠ '"' ∧ c ≠ '\\' ∧ 32 ≤ c.toNat) ∨
    (∃ e, escapeChar c = ['\\', e] ∧ e ≠ 'u' ∧ e.toNat < 128 ∧ simpleEscape e = some c) ∨
    (escapeChar c = ['\\', 'u', '0', '0', hexDigit (c.toNat / 16), hexDigit (c.toNat % 16)] ∧
      c.toNat < 128) ∨
    (∃ d, escapeChar c = ['\\', 'u', '2', '0', '2', hexDigit d] ∧ d < 16 ∧
      c = Char.ofNat (0x2020 + d)) := by
  by_cases h1 : c = '"'
  · subst h1; exact .inr (.inl ⟨'"', by decide⟩)
  by_cases h2 : c = '\\'
  · subst h2; exact .inr (.inl ⟨'\\', by decide⟩)
  by_cases h3 : c = '\x08'
  · subst h3; exact .inr (.inl ⟨'b', by decide⟩)
  by_cases h4 : c = '\x0c'
  · subst h4; exact .inr (.inl ⟨'f', by decide⟩)
  by_cases h5 : c = '\n'
  · subst h5; exact .inr (.inl ⟨'n', by decide⟩)
  by_cases h6 : c = '\r'
  · subst h6; exact .inr (.inl ⟨'r', by decide⟩)
  by_cases h7 : c = '\t'
  · subst h7; exact .inr (.inl ⟨'t', by decide⟩)
  rw [escapeChar, if_neg h1, if_neg h2, if_neg h3, if_neg h4, if_neg h5, if_neg h6, if_neg h7]
  by_cases h8 : (c.toNat < 32 || c = '<' || c = '>' || c = '&') = true
  · -- a control character or one of the HTML characters
    have hlow : c.toNat < 128 := by
      simp only [Bool.or_eq_true, decide_eq_true_eq] at h8
      rcases h8 with ((h8 | rfl) | rfl) | rfl
      · omega
      all_goals decide
    rw [if_pos h8]
    exact .inr (.inr (.inl ⟨rfl, hlow⟩))
  rw [if_neg h8]
  by_cases h9 : c = Char.ofNat 0x2028
  · rw [if_pos h9]
    exact .inr (.inr (.inr ⟨8, rfl, by omega, h9⟩))
  by_cases h10 : c = Char.ofNat 0x2029
  · rw [if_neg h9, if_pos h10]
    exact .inr (.inr (.inr ⟨9, rfl, by omega, h10⟩))
  rw [if_neg h9, if_neg h10]
  simp only [Bool.or_eq_true, decide_eq_true_eq, not_or, not_lt] at h8
  exact .inl ⟨rfl, h1, h2, h8.1.1.1⟩

theorem readChar_escapeChar (c : Char) (rest : List Char) :
    readChar (escapeChar c ++ rest) = some (c, rest) := by
  rcases escapeChar_cases c with ⟨heq, hquote, hslash, hlow⟩ | ⟨e, heq, hu, -, hsimple⟩ |
    ⟨heq, hlow⟩ | ⟨d, heq, hd, hc⟩
  · have h32 : ¬ c.toNat < 32 := by omega
    simp [heq, readChar, hquote, hslash, h32]
  · simp [heq, readChar, hu, hsimple]
  · have h := readUnicode_low hlow rest
    rw [Char.ofNat_toNat] at h
    simpa [heq, readChar] using h
  · have hread : readUnicode ('2' :: '0' :: '2' :: hexDigit d :: rest) =
        some (Char.ofNat (0x2020 + d), rest) := by
      have h2 : hexValue '2' = some 2 := by decide
      have h0 : hexValue '0' = some 0 := by decide
      simp only [readUnicode, readUnit, h2, h0, hexValue_hexDigit hd, Option.bind_eq_bind,
        Option.bind_some, Option.pure_def]
      rw [if_neg]
      simp only [Bool.and_eq_true, decide_eq_true_eq]
      omega
    rw [← hc] at hread
    simpa [heq, readChar] using hread

theorem escapeChar_ne_quote (c : Char) (rest tail : List Char) :
    escapeChar c ++ rest ≠ '"' :: tail := by
  intro h
  have hread := readChar_escapeChar c rest
  rw [h] at hread
  simp [readChar] at hread

theorem length_escapeChar_pos (c : Char) : 0 < (escapeChar c).length := by
  have hread := readChar_escapeChar c []
  rw [List.length_pos_iff]
  intro hnil
  rw [hnil] at hread
  simp [readChar] at hread

theorem readChars_escaped (text rest : List Char) (fuel : Nat)
    (hfuel : (text.flatMap escapeChar).length < fuel) :
    readChars fuel (text.flatMap escapeChar ++ '"' :: rest) = some (text, rest) := by
  induction text generalizing fuel with
  | nil =>
    obtain ⟨fuel, rfl⟩ : ∃ n, fuel = n + 1 := ⟨fuel - 1, by omega⟩
    simp [readChars]
  | cons c text ih =>
    obtain ⟨fuel, rfl⟩ : ∃ n, fuel = n + 1 := ⟨fuel - 1, by omega⟩
    have hpos := length_escapeChar_pos c
    rw [List.flatMap_cons, List.length_append] at hfuel
    rw [List.flatMap_cons, List.append_assoc, readChars, readChar_escapeChar]
    · simp only [Option.bind_eq_bind, Option.bind_some, ih fuel (by omega)]
      rfl
    · -- an escaped character never looks like the closing quote
      intro tail
      exact escapeChar_ne_quote c _ tail

theorem readString_quote (s : String) (rest : List Char) :
    readString (quote s ++ rest) = some (s, rest) := by
  have hshape : quote s ++ rest = '"' :: (s.toList.flatMap escapeChar ++ '"' :: rest) := by
    simp [quote]
  have hfuel : (s.toList.flatMap escapeChar).length <
      (s.toList.flatMap escapeChar ++ '"' :: rest).length := by
    simp
  rw [hshape, readString, readChars_escaped _ _ _ hfuel]
  simp

/-- A written character takes at most six bytes. -/
theorem length_utf8Encode_escapeChar (c : Char) : (utf8Encode (escapeChar c)).length ≤ 6 := by
  have hascii : ∀ text : List Char, (∀ d ∈ text, d.toNat < 128) → text.length ≤ 6 →
      (utf8Encode text).length ≤ 6 := by
    intro text htext hlen
    rw [utf8Encode_ascii htext, List.length_map]
    exact hlen
  have hhex : ∀ n, n < 16 → (hexDigit n).toNat < 128 := by decide
  rcases escapeChar_cases c with ⟨heq, -⟩ | ⟨e, heq, -, he, -⟩ | ⟨heq, hlow⟩ | ⟨d, heq, hd, -⟩
  · have hsize := c.utf8Size_le_four
    rw [heq, utf8Encode_cons, utf8Encode_nil, List.append_nil, String.length_utf8EncodeChar]
    omega
  · rw [heq]
    exact hascii _ (by simp [he]) (by simp)
  · rw [heq]
    exact hascii _ (by simp [hhex _ (show c.toNat / 16 < 16 by omega),
      hhex _ (show c.toNat % 16 < 16 by omega)]) (by simp)
  · rw [heq]
    exact hascii _ (by simp [hhex d hd]) (by simp)

theorem length_utf8Encode_quote (s : String) :
    (utf8Encode (quote s)).length ≤ 2 + 6 * s.toList.length := by
  have hbody : ∀ text : List Char,
      (utf8Encode (text.flatMap escapeChar)).length ≤ 6 * text.length := by
    intro text
    induction text with
    | nil => simp
    | cons c text ih =>
      have hc := length_utf8Encode_escapeChar c
      rw [List.flatMap_cons, utf8Encode_append, List.length_append, List.length_cons]
      omega
  have h := hbody s.toList
  have hmark : (String.utf8EncodeChar '"').length = 1 := by decide
  simp only [quote, utf8Encode_cons, utf8Encode_append, utf8Encode_nil, List.length_append,
    List.append_nil, hmark]
  omega

/-! ## Section 4: Integers are read back -/

/-- The digits of a positive number do not start with a zero. -/
theorem toDigits_head {n : Nat} (h : 0 < n) :
    ∃ c digits, Nat.toDigits 10 n = c :: digits ∧ c ≠ '0' := by
  induction n using Nat.strongRecOn with
  | ind n ih =>
    by_cases hlt : n < 10
    · refine ⟨n.digitChar, [], Nat.toDigits_of_lt_base hlt, ?_⟩
      have hall : ∀ i : Fin 10, 0 < i.val → i.val.digitChar ≠ '0' := by decide
      exact hall ⟨n, hlt⟩ h
    · obtain ⟨c, digits, heq, hc⟩ := ih (n / 10) (by omega) (by omega)
      refine ⟨c, digits ++ [(n % 10).digitChar], ?_, hc⟩
      rw [Nat.toDigits_of_base_le (by omega) (by omega), heq, List.cons_append]

theorem toDigits_isDigit {n : Nat} {c : Char} (h : c ∈ Nat.toDigits 10 n) : c.isDigit = true :=
  Nat.isDigit_of_mem_toDigits (by omega) le_rfl h

/-- What follows a number cannot be mistaken for a part of it. -/
def EndsNumber (rest : List Char) : Prop :=
  ∀ c tail, rest = c :: tail → c.isDigit = false ∧ c ≠ '.' ∧ c ≠ 'e' ∧ c ≠ 'E'

theorem EndsNumber.nil : EndsNumber [] := by
  intro c tail h
  simp at h

theorem EndsNumber.cons {c : Char} {tail : List Char}
    (h : c = ',' ∨ c = ']' ∨ c = '\x7d') : EndsNumber (c :: tail) := by
  intro d rest heq
  injection heq with hd _
  subst hd
  rcases h with rfl | rfl | rfl <;> decide

theorem readDigits_append {digits rest : List Char} (hne : digits ≠ [])
    (hdigits : ∀ c ∈ digits, c.isDigit = true) (hrest : EndsNumber rest) :
    readDigits (digits ++ rest) = some (digits, rest) := by
  have htake : (digits ++ rest).takeWhile Char.isDigit = digits := by
    rw [List.takeWhile_append_of_pos hdigits]
    cases rest with
    | nil => simp
    | cons c tail => simp [(hrest c tail rfl).1]
  have hdrop : (digits ++ rest).dropWhile Char.isDigit = rest := by
    rw [List.dropWhile_append_of_pos hdigits]
    cases rest with
    | nil => simp
    | cons c tail => simp [(hrest c tail rfl).1]
  rw [readDigits, htake, hdrop]
  simp [hne]

theorem readFraction_none {rest : List Char} (hrest : EndsNumber rest) :
    readFraction rest = some ([], rest) := by
  unfold readFraction
  split
  · exact absurd rfl (hrest _ _ rfl).2.1
  · rfl

theorem readExponent_none {rest : List Char} (hrest : EndsNumber rest) :
    readExponent rest = some ([], rest) := by
  cases rest with
  | nil => rfl
  | cons c tail =>
    obtain ⟨-, -, he, hE⟩ := hrest c tail rfl
    simp [readExponent, he, hE]

theorem readInteger_toDigits (n : Nat) {rest : List Char} (hrest : EndsNumber rest) :
    readInteger (Nat.toDigits 10 n ++ rest) = some (Nat.toDigits 10 n, rest) := by
  rcases Nat.eq_zero_or_pos n with rfl | hpos
  · rfl
  · obtain ⟨c, digits, heq, hc⟩ := toDigits_head hpos
    have hdigits : ∀ d ∈ c :: digits, d.isDigit = true := by
      intro d hd
      rw [← heq] at hd
      exact toDigits_isDigit hd
    have hread := readDigits_append (List.cons_ne_nil c digits) hdigits hrest
    rw [heq]
    unfold readInteger
    split
    · rename_i tail htail
      rw [List.cons_append] at htail
      injection htail with h _
      exact absurd h hc
    · exact hread

theorem readUnsigned_toDigits (n : Nat) {rest : List Char} (hrest : EndsNumber rest) :
    readUnsigned (Nat.toDigits 10 n ++ rest) = some (Nat.toDigits 10 n, rest) := by
  simp [readUnsigned, readInteger_toDigits n hrest, readFraction_none hrest,
    readExponent_none hrest]

/-- The first character of a literal without a sign is a digit. -/
theorem toDigits_append_head (n : Nat) (rest : List Char) :
    ∃ c tail, Nat.toDigits 10 n ++ rest = c :: tail ∧ c.isDigit = true := by
  obtain ⟨c, digits, heq⟩ : ∃ c digits, Nat.toDigits 10 n = c :: digits :=
    List.exists_cons_of_ne_nil Nat.toDigits_ne_nil
  refine ⟨c, digits ++ rest, by rw [heq, List.cons_append], ?_⟩
  exact toDigits_isDigit (n := n) (by rw [heq]; exact List.mem_cons_self)

theorem readNumber_intLiteral (i : Int) {rest : List Char} (hrest : EndsNumber rest) :
    readNumber (intLiteral i ++ rest) = some (intLiteral i, rest) := by
  unfold intLiteral
  split
  · simp [readNumber, readUnsigned_toDigits _ hrest]
  · have hread := readUnsigned_toDigits i.natAbs hrest
    obtain ⟨c, tail, heq, hc⟩ := toDigits_append_head i.natAbs rest
    rw [readNumber]
    · exact hread
    · intro tail' htail
      rw [heq] at htail
      injection htail with h _
      subst h
      simp at hc

/-! ## Section 5: Marshalled values are read back -/

theorem skipSpace_cons {c : Char} (rest : List Char) (h : isSpace c = false) :
    skipSpace (c :: rest) = c :: rest := by
  simp [skipSpace, h]

/-- A scalar is read as soon as its first character is seen. -/
theorem readValue_scalar {c : Char} (rest : List Char) (fuel : Nat) (hspace : isSpace c = false)
    (hobj : c ≠ '\x7b') (harr : c ≠ '[') :
    readValue (fuel + 1) (c :: rest) = readScalar (c :: rest) := by
  rw [readValue, skipSpace_cons rest hspace]
  simp only [hobj, harr, ↓reduceIte]

/-- An integer literal starts with a sign or a digit. -/
theorem intLiteral_head (i : Int) (rest : List Char) :
    ∃ c tail, intLiteral i ++ rest = c :: tail ∧ (c = '-' ∨ c.isDigit = true) := by
  unfold intLiteral
  split
  · exact ⟨'-', _, rfl, .inl rfl⟩
  · obtain ⟨c, tail, heq, hc⟩ := toDigits_append_head i.natAbs rest
    exact ⟨c, tail, heq, .inr hc⟩

theorem readValue_number (i : Int) {rest : List Char} (hrest : EndsNumber rest) (fuel : Nat) :
    readValue (fuel + 1) (intLiteral i ++ rest) = some (int i, rest) := by
  have hread := readNumber_intLiteral i hrest
  obtain ⟨c, tail, heq, hc⟩ := intLiteral_head i rest
  -- so no other case of the scanner applies
  have hne : ∀ d, d ≠ '-' → d.isDigit = false → c ≠ d := by
    intro d hd hdigit hcd
    subst hcd
    rcases hc with hc | hc
    · exact hd hc
    · rw [hdigit] at hc
      exact absurd hc (by decide)
  have hspace : isSpace c = false := by
    simp [isSpace, hne ' ' (by decide) (by decide), hne '\t' (by decide) (by decide),
      hne '\n' (by decide) (by decide), hne '\r' (by decide) (by decide)]
  rw [heq] at hread ⊢
  rw [readValue_scalar tail fuel hspace (hne _ (by decide) (by decide))
    (hne _ (by decide) (by decide))]
  have hstring : readString (c :: tail) = none := by
    rw [readString]
    intro rest h
    injection h with h _
    exact hne '"' (by decide) (by decide) h
  have hliteral : readLiteral (c :: tail) = none := by
    simp [readLiteral, hne 't' (by decide) (by decide), hne 'f' (by decide) (by decide),
      hne 'n' (by decide) (by decide)]
  rw [readScalar, hstring, hliteral, hread]
  rfl

theorem readValue_quote (s : String) (rest : List Char) (fuel : Nat) :
    readValue (fuel + 1) (quote s ++ rest) = some (.str s, rest) := by
  have hread := readString_quote s rest
  have hshape : quote s ++ rest = '"' :: (s.toList.flatMap escapeChar ++ '"' :: rest) := by
    simp [quote]
  rw [hshape] at hread ⊢
  rw [readValue_scalar _ fuel (by decide) (by decide) (by decide), readScalar, hread]
  rfl

/-- No value starts with a closing bracket. -/
theorem readValue_closing {input tail : List Char} (h : skipSpace input = ']' :: tail)
    (fuel : Nat) : readValue fuel input = none := by
  cases fuel with
  | zero => rw [readValue]
  | succ fuel =>
    rw [readValue, h]
    simp [readScalar, readString, readLiteral, readNumber, readUnsigned, readInteger, readDigits]

theorem readValue_arr {fuel : Nat} {input rest : List Char} {items : List JsonText}
    (h : readItems fuel input = some (items, rest)) :
    readValue (fuel + 1) ('[' :: input) = some (.arr items, rest) := by
  rw [readValue, skipSpace_cons _ (by decide)]
  simp only [↓reduceIte, Char.reduceEq]
  split
  · rename_i hclose
    -- a closing bracket would have left nothing to read
    cases fuel with
    | zero => simp [readItems] at h
    | succ fuel => simp [readItems, readValue_closing hclose] at h
  · rw [h]
    rfl

theorem readValue_obj {fuel : Nat} {input rest : List Char} {members : List (String × JsonText)}
    (h : readMembers fuel input = some (members, rest)) :
    readValue (fuel + 1) ('\x7b' :: input) = some (.obj members, rest) := by
  rw [readValue, skipSpace_cons _ (by decide)]
  simp only [↓reduceIte]
  split
  · rename_i hclose
    cases fuel with
    | zero => simp [readMembers] at h
    | succ fuel => simp [readMembers, hclose, readString] at h
  · rw [h]
    rfl

theorem skipSpace_quote (s : String) (rest : List Char) :
    skipSpace (quote s ++ rest) = quote s ++ rest :=
  skipSpace_cons _ (by decide)

/-- The key of a member and its colon. -/
theorem readMembers_key (k : String) (input : List Char) (fuel : Nat) :
    readMembers (fuel + 1) (quote k ++ ':' :: input) = (do
      let (v, rest) ← readValue fuel input
      match skipSpace rest with
      | ',' :: rest =>
        let (members, rest) ← readMembers fuel rest
        return ((k, v) :: members, rest)
      | '\x7d' :: rest => return ([(k, v)], rest)
      | _ => none) := by
  rw [readMembers, skipSpace_quote, readString_quote]
  simp only [Option.bind_eq_bind, Option.bind_some, 
    skipSpace_cons input (show isSpace ':' = false by decide)]

-- The measure is the length of the text: every call reads at least one character of it.
mutual

theorem readValue_print : ∀ (v : JsonText) (fuel : Nat) (rest : List Char), v.Marshalled →
    EndsNumber rest → v.print.length < fuel → readValue fuel (v.print ++ rest) = some (v, rest)
  | v, 0, rest, _, _, hfuel => by omega
  | .null, fuel + 1, rest, _, _, _ => rfl
  | .bool true, fuel + 1, rest, _, _, _ => rfl
  | .bool false, fuel + 1, rest, _, _, _ => rfl
  | .num literal, fuel + 1, rest, hv, hrest, _ => by
    obtain ⟨i, rfl⟩ := hv
    rw [print, String.toList_ofList]
    exact readValue_number i hrest fuel
  | .str s, fuel + 1, rest, _, _, _ => by
    rw [print]
    exact readValue_quote s rest fuel
  | .arr [], fuel + 1, rest, _, _, _ => rfl
  | .arr (v :: items), fuel + 1, rest, hv, hrest, hfuel => by
    have hread := readItems_print v items fuel rest hv (by simp [print] at hfuel; omega)
    rw [print, List.cons_append, List.append_assoc]
    exact readValue_arr hread
  | .obj [], fuel + 1, rest, _, _, _ => rfl
  | .obj (m :: members), fuel + 1, rest, hv, hrest, hfuel => by
    have hread := readMembers_print m members fuel rest hv (by simp [print] at hfuel; omega)
    rw [print, List.cons_append, List.append_assoc]
    exact readValue_obj hread

theorem readItems_print : ∀ (v : JsonText) (items : List JsonText) (fuel : Nat)
    (rest : List Char), MarshalledItems (v :: items) →
    (printItems (v :: items)).length + 1 < fuel →
    readItems fuel (printItems (v :: items) ++ ']' :: rest) = some (v :: items, rest)
  | v, items, 0, rest, _, hfuel => by omega
  | v, [], fuel + 1, rest, hv, hfuel => by
    rw [printItems] at hfuel ⊢
    have hread := readValue_print v fuel (']' :: rest) hv.1 (.cons (by simp)) (by omega)
    rw [readItems, hread]
    rfl
  | v, w :: items, fuel + 1, rest, hv, hfuel => by
    rw [printItems, List.length_append, List.length_cons] at hfuel
    have hread := readValue_print v fuel (',' :: (printItems (w :: items) ++ ']' :: rest)) hv.1
      (.cons (by simp)) (by omega)
    have hrest := readItems_print w items fuel rest hv.2 (by omega)
    rw [printItems, List.append_assoc, List.cons_append, readItems, hread]
    simp only [Option.bind_eq_bind, Option.bind_some,
      skipSpace_cons _ (show isSpace ',' = false by decide), hrest]
    rfl

theorem readMembers_print : ∀ (m : String × JsonText) (members : List (String × JsonText))
    (fuel : Nat) (rest : List Char), MarshalledMembers (m :: members) →
    (printMembers (m :: members)).length + 1 < fuel →
    readMembers fuel (printMembers (m :: members) ++ '\x7d' :: rest) = some (m :: members, rest)
  | m, members, 0, rest, _, hfuel => by omega
  | (k, v), [], fuel + 1, rest, hv, hfuel => by
    rw [printMembers, List.length_append, List.length_cons] at hfuel
    have hread := readValue_print v fuel ('\x7d' :: rest) hv.1 (.cons (by simp)) (by omega)
    rw [printMembers, List.append_assoc, List.cons_append, readMembers_key, hread]
    rfl
  | (k, v), m :: members, fuel + 1, rest, hv, hfuel => by
    rw [printMembers, List.length_append, List.length_cons, List.length_append,
      List.length_cons] at hfuel
    have hread := readValue_print v fuel (',' :: (printMembers (m :: members) ++ '\x7d' :: rest))
      hv.1 (.cons (by simp)) (by omega)
    have hrest := readMembers_print m members fuel rest hv.2 (by omega)
    rw [printMembers, List.append_assoc, List.cons_append, List.append_assoc, List.cons_append,
      readMembers_key, hread]
    simp only [Option.bind_eq_bind, Option.bind_some,
      skipSpace_cons _ (show isSpace ',' = false by decide), hrest]
    rfl

end

theorem parse_print {v : JsonText} (hv : v.Marshalled) : parse v.print = some v := by
  have hread := readValue_print v (v.print.length + 1) [] hv .nil (Nat.lt_succ_self _)
  rw [List.append_nil] at hread
  rw [parse, hread]
  rfl

theorem unmarshal_marshal {v : JsonText} (hv : v.Marshalled) : unmarshal v.marshal = some v := by
  rw [unmarshal, marshal, utf8Decode_utf8Encode, parse_print hv]

/-! ## Section 6: Storing into Go values -/

/-- Case folding of member names, for names made of ASCII letters: besides the ASCII
    capitals, the long s and the Kelvin sign fold to a letter. -/
def foldChar (c : Char) : Char :=
  if c = Char.ofNat 0x17f then 's' else if c = Char.ofNat 0x212a then 'k' else c.toLower

def foldName (name : String) : List Char := name.toList.map foldChar

/-- A field of a struct: its name, and how a member value is stored into the struct. -/
structure StructField (σ : Type) where
  name : String
  store : σ → JsonText → Option σ

/-- The field whose value is read with `get` and replaced with `set`. -/
def StructField.of {σ α : Type} (name : String) (get : σ → α) (set : σ → α → σ)
    (store : α → JsonText → Option α) : StructField σ :=
  ⟨name, fun s v => (store (get s) v).map (set s)⟩

/-- The field of a member: the exact name first, then a name equal up to case. -/
def findField {σ : Type} (fields : List (StructField σ)) (key : String) : Option (StructField σ) :=
  (fields.find? (fun f => f.name = key)).or
    (fields.find? (fun f => foldName f.name = foldName key))

/-- One member of an object; `strict` stands for `DisallowUnknownFields`. -/
def storeMember {σ : Type} (strict : Bool) (fields : List (StructField σ)) (s : σ)
    (m : String × JsonText) : Option σ :=
  match findField fields m.1 with
  | some f => f.store s m.2
  | none => if strict then none else some s

/-- An object stored into a struct, member by member; `null` leaves it as it is. -/
def storeStruct {σ : Type} (strict : Bool) (fields : List (StructField σ)) (s : σ) : JsonText → Option σ
  | .null => some s
  | .obj members => members.foldlM (storeMember strict fields) s
  | _ => none

def storeString (s : String) : JsonText → Option String
  | .null => some s
  | .str t => some t
  | _ => none

/-- `strconv.ParseInt` of a number literal, base ten. -/
def parseInteger (literal : List Char) : Option Int :=
  match literal with
  | '-' :: digits =>
    if digits ≠ [] && digits.all Char.isDigit then some (-(Nat.ofDigitChars 10 digits 0)) else none
  | digits =>
    if digits ≠ [] && digits.all Char.isDigit then some (Nat.ofDigitChars 10 digits 0) else none

def parseInt64 (literal : String) : Option Int64 := do
  let i ← parseInteger literal.toList
  if -(2 ^ 63) ≤ i && i < 2 ^ 63 then return Int64.ofInt i else none

def storeInt64 (i : Int64) : JsonText → Option Int64
  | .null => some i
  | .num literal => parseInt64 literal
  | _ => none

/-- A pointer to a struct: `null` clears it, an object is stored into what it points to. -/
def storePointer {σ : Type} (zero : σ) (store : σ → JsonText → Option σ) (p : Option σ) :
    JsonText → Option (Option σ)
  | .null => some none
  | v => (store (p.getD zero) v).map some

/-- A member that is left out when its pointer is nil. -/
def omitEmpty (name : String) (v : Option JsonText) : List (String × JsonText) :=
  v.toList.map (fun v => (name, v))

/-- One entry of a string map; `null` stores the empty string. -/
def storeEntry (m : StrMap String) (entry : String × JsonText) : Option (StrMap String) :=
  match entry.2 with
  | .null => some (m.insert entry.1 "")
  | .str t => some (m.insert entry.1 t)
  | _ => none

/-- An object stored into a string map adds to the entries that are there. -/
def storeStringMap (m : StrMap String) : JsonText → Option (StrMap String)
  | .null => some .empty
  | .obj members => members.foldlM storeEntry m
  | _ => none

/-- The members of an object as a map; the last of two members of one name stays. -/
def rawMap (members : List (String × JsonText)) : StrMap JsonText :=
  members.foldl (fun m e => m.insert e.1 e.2) .empty

/-- An object stored into a map of raw values adds to the entries that are there; `null`
    makes the map nil. -/
def storeIntoMap (m : Option (StrMap JsonText)) : JsonText → Option (Option (StrMap JsonText))
  | .null => some none
  | .obj members => some (some (members.foldl (fun m e => m.insert e.1 e.2) (m.getD .empty)))
  | _ => none

/-- An object stored into a nil map of raw values. -/
def storeRawMap : JsonText → Option (StrMap JsonText)
  | .null => some .empty
  | .obj members => some (rawMap members)
  | _ => none

/-- An object of strings. -/
def ofStrings (members : List (String × String)) : JsonText :=
  .obj (members.map (fun m => (m.1, .str m.2)))

/-- The text of a string map, in key order. -/
def ofStringMap (m : StrMap String) : JsonText := ofStrings m.entries

theorem marshalledMembers_iff {members : List (String × JsonText)} :
    MarshalledMembers members ↔ ∀ m ∈ members, m.2.Marshalled := by
  induction members with
  | nil => simp [MarshalledMembers]
  | cons m members ih => simp [MarshalledMembers, ih]

@[simp] theorem marshalled_str (s : String) : (JsonText.str s).Marshalled := by
  simp [Marshalled]

@[simp] theorem marshalled_int (i : Int) : (int i).Marshalled := by
  rw [int, Marshalled]
  exact ⟨i, rfl⟩

@[simp] theorem marshalled_obj (members : List (String × JsonText)) :
    (JsonText.obj members).Marshalled ↔ ∀ m ∈ members, m.2.Marshalled := by
  rw [Marshalled, marshalledMembers_iff]

@[simp] theorem marshalled_ofStrings (members : List (String × String)) :
    (ofStrings members).Marshalled := by
  rw [ofStrings, marshalled_obj]
  intro entry hentry
  obtain ⟨m, -, rfl⟩ := List.mem_map.mp hentry
  exact marshalled_str m.2

/-- The size of an object of strings, six bytes a character and six more a member. -/
theorem length_marshal_ofStrings (members : List (String × String)) :
    (ofStrings members).marshal.length ≤
      2 + (members.map (fun m => 6 + 6 * m.1.toList.length + 6 * m.2.toList.length)).sum := by
  have hmembers : ∀ ms : List (String × String),
      (utf8Encode (printMembers (ms.map (fun m => (m.1, JsonText.str m.2))))).length ≤
        (ms.map (fun m => 6 + 6 * m.1.toList.length + 6 * m.2.toList.length)).sum := by
    intro ms
    have hcolon : (String.utf8EncodeChar ':').length = 1 := by decide
    have hcomma : (String.utf8EncodeChar ',').length = 1 := by decide
    induction ms with
    | nil => simp [printMembers]
    | cons m ms ih =>
      have hkey := length_utf8Encode_quote m.1
      have hvalue := length_utf8Encode_quote m.2
      cases ms with
      | nil =>
        simp only [List.map_cons, List.map_nil, printMembers, print, utf8Encode_append,
          utf8Encode_cons, List.length_append, hcolon, List.sum_cons, List.sum_nil]
        omega
      | cons m' ms =>
        simp only [List.map_cons, printMembers, print, utf8Encode_append, utf8Encode_cons,
          List.length_append, hcolon, hcomma, List.sum_cons] at ih ⊢
        omega
  have hopen : (String.utf8EncodeChar '\x7b').length = 1 := by decide
  have hclose : (String.utf8EncodeChar '\x7d').length = 1 := by decide
  have h := hmembers members
  simp only [marshal, ofStrings, print, utf8Encode_cons, utf8Encode_append, utf8Encode_nil,
    List.length_append, List.append_nil, hopen, hclose]
  omega

@[simp] theorem marshalled_ofStringMap (m : StrMap String) : (ofStringMap m).Marshalled :=
  marshalled_ofStrings m.entries

theorem parseInteger_intLiteral (i : Int) : parseInteger (intLiteral i) = some i := by
  have hall : ∀ n : Nat, (Nat.toDigits 10 n).all Char.isDigit = true := by
    intro n
    rw [List.all_eq_true]
    intro c hc
    exact toDigits_isDigit hc
  have hne : ∀ n : Nat, Nat.toDigits 10 n ≠ [] := fun n => Nat.toDigits_ne_nil
  unfold intLiteral
  split
  · simp only [parseInteger, hall, hne, ne_eq, not_false_eq_true, decide_true, Bool.and_true,
      ↓reduceIte, Nat.ofDigitChars_ten_toDigits]
    congr 1
    omega
  · rw [parseInteger]
    · simp only [hall, hne, ne_eq, not_false_eq_true, decide_true, Bool.and_true,
        ↓reduceIte, Nat.ofDigitChars_ten_toDigits]
      congr 1
      omega
    · intro digits hdigits
      have hminus : '-' ∈ Nat.toDigits 10 i.natAbs := by
        rw [hdigits]
        exact List.mem_cons_self
      exact absurd (toDigits_isDigit hminus) (by decide)

@[simp] theorem storeInt64_int (i j : Int64) : storeInt64 j (int i.toInt) = some i := by
  have hlow := i.le_toInt
  have hhigh := i.toInt_lt
  simp only [storeInt64, int, parseInt64, String.toList_ofList, parseInteger_intLiteral,
    Option.bind_eq_bind, Option.bind_some]
  rw [if_pos]
  · simp
  · simp only [Bool.and_eq_true, decide_eq_true_eq]
    omega

/-- A member of the object replaces the entry of its name; the other entries stay. -/
theorem lookup_foldl_insert (members : List (String × JsonText)) (m : StrMap JsonText) (k : String) :
    (members.foldl (fun m e => m.insert e.1 e.2) m).lookup k =
      ((rawMap members).lookup k).or (m.lookup k) := by
  unfold rawMap
  induction members using List.reverseRecOn with
  | nil => simp
  | append_singleton members e ih =>
    rw [List.foldl_append, List.foldl_append, List.foldl_cons, List.foldl_nil, List.foldl_cons,
      List.foldl_nil, StrMap.lookup_insert, StrMap.lookup_insert]
    by_cases he : e.1 = k
    · rw [if_pos he, if_pos he, Option.some_or]
    · rw [if_neg he, if_neg he, ih]

theorem foldlM_storeEntry (entries : List (String × String)) (m : StrMap String) :
    (entries.map (fun e => (e.1, JsonText.str e.2))).foldlM storeEntry m =
      some (entries.foldl (fun m e => m.insert e.1 e.2) m) := by
  induction entries generalizing m with
  | nil => rfl
  | cons e entries ih =>
    simp only [List.map_cons, List.foldlM_cons, storeEntry, Option.bind_eq_bind, Option.bind_some,
      ih, List.foldl_cons]

@[simp] theorem storeStringMap_ofStringMap (m : StrMap String) :
    storeStringMap .empty (ofStringMap m) = some m := by
  rw [ofStringMap, ofStrings, storeStringMap, foldlM_storeEntry, StrMap.foldl_insert_entries]

theorem storeMember_of {σ α : Type} {strict : Bool} {fields : List (StructField σ)} {name : String}
    {get : σ → α} {set : σ → α → σ} {store : α → JsonText → Option α} {s : σ} {v : JsonText} {a : α}
    (hfind : findField fields name = some (.of name get set store))
    (hstore : store (get s) v = some a) :
    storeMember strict fields s (name, v) = some (set s a) := by
  simp [storeMember, hfind, StructField.of, hstore]

/-- Reading back a pointer that may have been left out. -/
theorem foldlM_omitEmpty {σ α : Type} {strict : Bool} {fields : List (StructField σ)} {name : String}
    {get : σ → Option α} {set : σ → Option α → σ} {zero : α} {store : α → JsonText → Option α}
    {print : α → JsonText} {s : σ}
    (hfind : findField fields name = some (.of name get set (storePointer zero store)))
    (hget : get s = none) (hset : set s none = s)
    (hstore : ∀ a, store zero (print a) = some a) (hobj : ∀ a, print a ≠ .null) (p : Option α) :
    (omitEmpty name (p.map print)).foldlM (storeMember strict fields) s = some (set s p) := by
  cases p with
  | none => simp [omitEmpty, hset]
  | some a =>
    have hpointer : storePointer zero store (get s) (print a) = some (some a) := by
      rw [hget, storePointer]
      · simp [hstore]
      · exact hobj a
    simp [omitEmpty, storeMember_of hfind hpointer]

end JsonText

end FlowAI
