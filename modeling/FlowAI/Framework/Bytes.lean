import Mathlib.Tactic

/-! # Bytes and Their Texts

  Strings as byte sequences (UTF-8), and the two text forms of bytes that appear on
  the wire: unpadded base64url and hexadecimal.  The laws used by the token formats
  are the round trips `utf8Decode_utf8Encode` and `base64UrlDecode_base64UrlEncode`,
  and that an encoded text stays inside its alphabet.
-/

namespace FlowAI

abbrev Bytes := List UInt8

/-! ## Section 1: UTF-8 -/

/-- The bytes of a text. -/
def utf8Encode (text : List Char) : Bytes := text.flatMap String.utf8EncodeChar

/-- The first character of a byte sequence, if the bytes start with a valid one. -/
def utf8DecodeFirst (bytes : Bytes) : Option Char :=
  (bytes.take 4).toByteArray.utf8DecodeChar? 0

/-- Read bytes as text the way Go ranges over a string: a byte that starts no valid
    character is one replacement character. -/
def utf8DecodeFuel : Nat → Bytes → List Char
  | 0, _ => []
  | _, [] => []
  | fuel + 1, b :: bytes =>
    match utf8DecodeFirst (b :: bytes) with
    | some c => c :: utf8DecodeFuel fuel ((b :: bytes).drop c.utf8Size)
    | none => Char.ofNat 0xfffd :: utf8DecodeFuel fuel bytes

def utf8Decode (bytes : Bytes) : List Char := utf8DecodeFuel bytes.length bytes

@[simp] theorem utf8Encode_nil : utf8Encode [] = [] := rfl

@[simp] theorem utf8Encode_cons (c : Char) (text : List Char) :
    utf8Encode (c :: text) = String.utf8EncodeChar c ++ utf8Encode text := rfl

@[simp] theorem utf8Encode_append (a b : List Char) :
    utf8Encode (a ++ b) = utf8Encode a ++ utf8Encode b := by
  simp [utf8Encode]

theorem length_utf8EncodeChar_pos (c : Char) : 0 < (String.utf8EncodeChar c).length := by
  rw [String.length_utf8EncodeChar]
  exact c.utf8Size_pos

theorem utf8DecodeFirst_append (c : Char) (rest : Bytes) :
    utf8DecodeFirst (String.utf8EncodeChar c ++ rest) = some c := by
  have hlen : (String.utf8EncodeChar c).length ≤ 4 := by
    rw [String.length_utf8EncodeChar]
    exact c.utf8Size_le_four
  have hone : [c].utf8Encode = (String.utf8EncodeChar c).toByteArray := by
    simp [List.utf8Encode]
  rw [utf8DecodeFirst, List.take_append, List.take_of_length_le hlen, List.toByteArray_append,
    ← hone]
  exact List.utf8DecodeChar?_utf8Encode_singleton_append

theorem utf8DecodeFuel_utf8Encode (text : List Char) (fuel : Nat)
    (hfuel : (utf8Encode text).length ≤ fuel) : utf8DecodeFuel fuel (utf8Encode text) = text := by
  induction text generalizing fuel with
  | nil => cases fuel <;> simp [utf8DecodeFuel]
  | cons c text ih =>
    have hpos := length_utf8EncodeChar_pos c
    rw [utf8Encode_cons, List.length_append] at hfuel
    -- the encoding of a character is not empty, so there is fuel for one step
    obtain ⟨fuel, rfl⟩ : ∃ n, fuel = n + 1 := ⟨fuel - 1, by omega⟩
    obtain ⟨b, tail, hb⟩ : ∃ b tail, String.utf8EncodeChar c = b :: tail :=
      List.exists_cons_of_length_pos hpos
    have hfirst := utf8DecodeFirst_append c (utf8Encode text)
    have hdrop : (String.utf8EncodeChar c ++ utf8Encode text).drop c.utf8Size =
        utf8Encode text := by
      rw [← String.length_utf8EncodeChar, List.drop_left]
    rw [utf8Encode_cons]
    rw [hb, List.cons_append] at hfirst hdrop ⊢
    rw [utf8DecodeFuel, hfirst]
    show c :: _ = _
    rw [hdrop, ih fuel (by omega)]

@[simp] theorem utf8Decode_utf8Encode (text : List Char) : utf8Decode (utf8Encode text) = text :=
  utf8DecodeFuel_utf8Encode text _ le_rfl

theorem utf8Encode_injective : Function.Injective utf8Encode := by
  intro a b h
  rw [← utf8Decode_utf8Encode a, h, utf8Decode_utf8Encode]

variable {text : List Char}

/-- A text of ASCII characters has one byte a character. -/
theorem utf8Encode_ascii (h : ∀ c ∈ text, c.toNat < 128) :
    utf8Encode text = text.map (fun c => UInt8.ofNat c.toNat) := by
  induction text with
  | nil => rfl
  | cons c text ih =>
    have hc := h c List.mem_cons_self
    have hsmall : c.val.toNat ≤ 0x7f := by
      have : c.val.toNat = c.toNat := rfl
      omega
    rw [utf8Encode_cons, ih (fun d hd => h d (List.mem_cons_of_mem _ hd))]
    simp only [String.utf8EncodeChar, hsmall, ↓reduceIte, List.map_cons, List.cons_append,
      List.nil_append]
    rfl

/-- `len` of a string counts its bytes. -/
theorem utf8ByteSize_eq_length (s : String) : s.utf8ByteSize = (utf8Encode s.toList).length := by
  have hsize : s.utf8ByteSize = s.toList.utf8Encode.size := by
    rw [← String.toByteArray_ofList, String.ofList_toList]
    rfl
  rw [hsize, List.utf8Encode, utf8Encode, List.size_toByteArray]

theorem utf8ByteSize_ascii {s : String} (h : ∀ c ∈ s.toList, c.toNat < 128) :
    s.utf8ByteSize = s.toList.length := by
  rw [utf8ByteSize_eq_length, utf8Encode_ascii h, List.length_map]

/-! ## Section 2: base64url without padding -/

/-- The alphabet of `base64.RawURLEncoding`. -/
def base64UrlChar (n : Nat) : Char :=
  if n < 26 then Char.ofNat (65 + n)
  else if n < 52 then Char.ofNat (97 + (n - 26))
  else if n < 62 then Char.ofNat (48 + (n - 52))
  else if n = 62 then '-' else '_'

def base64UrlValue (c : Char) : Option Nat :=
  if 'A' ≤ c && c ≤ 'Z' then some (c.toNat - 65)
  else if 'a' ≤ c && c ≤ 'z' then some (c.toNat - 97 + 26)
  else if '0' ≤ c && c ≤ '9' then some (c.toNat - 48 + 52)
  else if c = '-' then some 62
  else if c = '_' then some 63
  else none

def base64UrlEncode : Bytes → List Char
  | [] => []
  | [a] => [base64UrlChar (a.toNat / 4), base64UrlChar (a.toNat % 4 * 16)]
  | [a, b] =>
    [base64UrlChar (a.toNat / 4), base64UrlChar (a.toNat % 4 * 16 + b.toNat / 16),
      base64UrlChar (b.toNat % 16 * 4)]
  | a :: b :: c :: rest =>
    base64UrlChar (a.toNat / 4) :: base64UrlChar (a.toNat % 4 * 16 + b.toNat / 16) ::
      base64UrlChar (b.toNat % 16 * 4 + c.toNat / 64) :: base64UrlChar (c.toNat % 64) ::
      base64UrlEncode rest

/-- The bytes of a sequence of six-bit values; the bits left over at the end are dropped,
    as the non-strict decoder does. -/
def base64Bytes : List Nat → Option Bytes
  | [] => some []
  | [_] => none
  | [p, q] => some [UInt8.ofNat (p * 4 + q / 16)]
  | [p, q, r] => some [UInt8.ofNat (p * 4 + q / 16), UInt8.ofNat (q % 16 * 16 + r / 4)]
  | p :: q :: r :: s :: rest => do
    let bytes ← base64Bytes rest
    return UInt8.ofNat (p * 4 + q / 16) :: UInt8.ofNat (q % 16 * 16 + r / 4) ::
      UInt8.ofNat (r % 4 * 64 + s) :: bytes

/-- `base64.RawURLEncoding.DecodeString`: line breaks are skipped. -/
def base64UrlDecode (text : List Char) : Option Bytes := do
  let values ← (text.filter (fun c => c ≠ '\r' && c ≠ '\n')).mapM base64UrlValue
  base64Bytes values

theorem base64UrlValue_char {n : Nat} (h : n < 64) :
    base64UrlValue (base64UrlChar n) = some n := by
  have hall : ∀ i : Fin 64, base64UrlValue (base64UrlChar i) = some i.val := by decide
  exact hall ⟨n, h⟩

theorem base64UrlChar_ascii (n : Nat) :
    (base64UrlChar n).toNat < 128 ∧ base64UrlChar n ≠ '.' ∧ base64UrlChar n ≠ '\r' ∧
      base64UrlChar n ≠ '\n' := by
  by_cases h : n < 64
  · have hall : ∀ i : Fin 64, (base64UrlChar i).toNat < 128 ∧ base64UrlChar i ≠ '.' ∧
        base64UrlChar i ≠ '\r' ∧ base64UrlChar i ≠ '\n' := by decide
    exact hall ⟨n, h⟩
  · have : base64UrlChar n = '_' := by
      simp only [base64UrlChar]
      repeat rw [if_neg (by omega)]
    rw [this]
    decide

theorem mem_base64UrlEncode {bytes : Bytes} {c : Char} (h : c ∈ base64UrlEncode bytes) :
    ∃ n, c = base64UrlChar n := by
  fun_induction base64UrlEncode bytes with
  | case1 => simp at h
  | case2 a =>
    simp only [List.mem_cons, List.not_mem_nil, or_false] at h
    rcases h with h | h <;> exact ⟨_, h⟩
  | case3 a b =>
    simp only [List.mem_cons, List.not_mem_nil, or_false] at h
    rcases h with h | h | h <;> exact ⟨_, h⟩
  | case4 a b c' rest ih =>
    simp only [List.mem_cons] at h
    rcases h with h | h | h | h | h
    · exact ⟨_, h⟩
    · exact ⟨_, h⟩
    · exact ⟨_, h⟩
    · exact ⟨_, h⟩
    · exact ih h

theorem dot_not_mem_base64UrlEncode (bytes : Bytes) : '.' ∉ base64UrlEncode bytes := by
  intro h
  obtain ⟨n, hn⟩ := mem_base64UrlEncode h
  exact (base64UrlChar_ascii n).2.1 hn.symm

theorem base64UrlEncode_ascii (bytes : Bytes) : ∀ c ∈ base64UrlEncode bytes, c.toNat < 128 := by
  intro c h
  obtain ⟨n, rfl⟩ := mem_base64UrlEncode h
  exact (base64UrlChar_ascii n).1

theorem length_base64UrlEncode (bytes : Bytes) :
    (base64UrlEncode bytes).length = (4 * bytes.length + 2) / 3 := by
  fun_induction base64UrlEncode bytes with
  | case1 => rfl
  | case2 a => simp
  | case3 a b => simp
  | case4 a b c rest ih =>
    simp only [List.length_cons, ih]
    omega

/-- Three bytes put into four six-bit values and taken out again. -/
theorem base64_first (a b : UInt8) :
    UInt8.ofNat (a.toNat / 4 * 4 + (a.toNat % 4 * 16 + b.toNat / 16) / 16) = a := by
  have hb := b.toNat_lt
  have : a.toNat / 4 * 4 + (a.toNat % 4 * 16 + b.toNat / 16) / 16 = a.toNat := by omega
  rw [this, UInt8.ofNat_toNat]

theorem base64_second (a b c : UInt8) :
    UInt8.ofNat ((a.toNat % 4 * 16 + b.toNat / 16) % 16 * 16 + (b.toNat % 16 * 4 + c.toNat / 64) / 4)
      = b := by
  have hb := b.toNat_lt
  have hc := c.toNat_lt
  have : (a.toNat % 4 * 16 + b.toNat / 16) % 16 * 16 + (b.toNat % 16 * 4 + c.toNat / 64) / 4 =
      b.toNat := by omega
  rw [this, UInt8.ofNat_toNat]

theorem base64_third (b c : UInt8) :
    UInt8.ofNat ((b.toNat % 16 * 4 + c.toNat / 64) % 4 * 64 + c.toNat % 64) = c := by
  have hc := c.toNat_lt
  have : (b.toNat % 16 * 4 + c.toNat / 64) % 4 * 64 + c.toNat % 64 = c.toNat := by omega
  rw [this, UInt8.ofNat_toNat]

/-- The six-bit values of an encoded text. -/
theorem mapM_base64UrlEncode (bytes : Bytes) :
    ∃ values, (base64UrlEncode bytes).mapM base64UrlValue = some values ∧
      base64Bytes values = some bytes := by
  fun_induction base64UrlEncode bytes with
  | case1 => exact ⟨[], rfl, rfl⟩
  | case2 a =>
    have ha := a.toNat_lt
    refine ⟨[a.toNat / 4, a.toNat % 4 * 16], ?_, ?_⟩
    · simp only [List.mapM_cons, List.mapM_nil, base64UrlValue_char (show a.toNat / 4 < 64 by omega),
        base64UrlValue_char (show a.toNat % 4 * 16 < 64 by omega)]
      rfl
    · have h := base64_first a 0
      simp only [base64Bytes]
      exact congrArg (fun x => some [x]) (by simpa using h)
  | case3 a b =>
    have ha := a.toNat_lt
    have hb := b.toNat_lt
    refine ⟨[a.toNat / 4, a.toNat % 4 * 16 + b.toNat / 16, b.toNat % 16 * 4], ?_, ?_⟩
    · simp only [List.mapM_cons, List.mapM_nil, base64UrlValue_char (show a.toNat / 4 < 64 by omega),
        base64UrlValue_char (show a.toNat % 4 * 16 + b.toNat / 16 < 64 by omega),
        base64UrlValue_char (show b.toNat % 16 * 4 < 64 by omega)]
      rfl
    · have h := base64_second a b 0
      simp only [base64Bytes, base64_first]
      exact congrArg (fun x => some [a, x]) (by simpa using h)
  | case4 a b c rest ih =>
    have ha := a.toNat_lt
    have hb := b.toNat_lt
    have hc := c.toNat_lt
    obtain ⟨values, hvalues, hbytes⟩ := ih
    refine ⟨a.toNat / 4 :: (a.toNat % 4 * 16 + b.toNat / 16) ::
      (b.toNat % 16 * 4 + c.toNat / 64) :: c.toNat % 64 :: values, ?_, ?_⟩
    · simp only [List.mapM_cons, hvalues,
        base64UrlValue_char (show a.toNat / 4 < 64 by omega),
        base64UrlValue_char (show a.toNat % 4 * 16 + b.toNat / 16 < 64 by omega),
        base64UrlValue_char (show b.toNat % 16 * 4 + c.toNat / 64 < 64 by omega),
        base64UrlValue_char (show c.toNat % 64 < 64 by omega)]
      rfl
    · simp only [base64Bytes, hbytes, base64_first, base64_second, base64_third]
      rfl

@[simp] theorem base64UrlDecode_base64UrlEncode (bytes : Bytes) :
    base64UrlDecode (base64UrlEncode bytes) = some bytes := by
  have hfilter : (base64UrlEncode bytes).filter (fun c => c ≠ '\r' && c ≠ '\n') =
      base64UrlEncode bytes := by
    rw [List.filter_eq_self]
    intro c hc
    obtain ⟨n, rfl⟩ := mem_base64UrlEncode hc
    obtain ⟨-, -, hr, hn⟩ := base64UrlChar_ascii n
    simp [hr, hn]
  obtain ⟨values, hvalues, hbytes⟩ := mapM_base64UrlEncode bytes
  rw [base64UrlDecode, hfilter, hvalues]
  exact hbytes

/-! ## Section 3: Hexadecimal -/

def hexValue (c : Char) : Option Nat :=
  if '0' ≤ c && c ≤ '9' then some (c.toNat - 48)
  else if 'a' ≤ c && c ≤ 'f' then some (c.toNat - 97 + 10)
  else if 'A' ≤ c && c ≤ 'F' then some (c.toNat - 65 + 10)
  else none

/-- `hex.DecodeString`. -/
def hexDecode : List Char → Option Bytes
  | [] => some []
  | [_] => none
  | a :: b :: rest => do
    let high ← hexValue a
    let low ← hexValue b
    let bytes ← hexDecode rest
    return UInt8.ofNat (high * 16 + low) :: bytes

/-! ## Section 4: Texts joined with dots -/

/-- `strings.Split(text, ".")`. -/
def splitDots (text : List Char) : List (List Char) := text.splitOn '.'

theorem splitDots_three {a b c : List Char} (ha : '.' ∉ a) (hb : '.' ∉ b) (hc : '.' ∉ c) :
    splitDots (a ++ '.' :: (b ++ '.' :: c)) = [a, b, c] := by
  rw [splitDots, List.splitOn_append_cons_self_of_not_mem ha,
    List.splitOn_append_cons_self_of_not_mem hb, List.splitOn_eq_singleton hc]

/-- There is one part more than there are dots. -/
theorem length_splitDots (text : List Char) : (splitDots text).length = text.count '.' + 1 := by
  induction text with
  | nil => rfl
  | cons c text ih =>
    rw [splitDots, List.splitOn_cons_eq_if_modifyHead]
    by_cases hc : c = '.'
    · subst hc
      simp only [beq_self_eq_true, ↓reduceIte, List.length_cons, List.count_cons_self]
      rw [← ih, splitDots]
    · rw [if_neg (by simpa using hc), List.length_modifyHead, List.count_cons_of_ne hc]
      exact ih

/-- The text and its three parts, none of which has a dot. -/
theorem splitDots_eq_three {a b c : List Char} (h : splitDots text = [a, b, c]) :
    text = a ++ '.' :: (b ++ '.' :: c) ∧ '.' ∉ a ∧ '.' ∉ b ∧ '.' ∉ c := by
  have htext : text = a ++ '.' :: (b ++ '.' :: c) := by
    have hjoin : ['.'].intercalate (splitDots text) = text := List.intercalate_splitOn '.'
    rw [h] at hjoin
    simpa [List.intercalate] using hjoin.symm
  -- three parts leave two dots, and the separators are already those
  have hcount := length_splitDots text
  rw [h, htext] at hcount
  simp only [List.length_cons, List.length_nil, List.count_append, List.count_cons_self] at hcount
  refine ⟨htext, ?_, ?_, ?_⟩ <;> refine List.count_eq_zero.mp ?_ <;> omega

/-- What stands before the first separator is determined. -/
theorem append_separator_inj {α : Type} {sep : α} {a a' b b' : List α} (ha : sep ∉ a)
    (ha' : sep ∉ a') (h : a ++ sep :: b = a' ++ sep :: b') : a = a' ∧ b = b' := by
  induction a generalizing a' with
  | nil =>
    cases a' with
    | nil => simpa using h
    | cons x a' =>
      rw [List.nil_append, List.cons_append] at h
      injection h with hx _
      exact absurd (hx ▸ List.mem_cons_self) ha'
  | cons x a ih =>
    cases a' with
    | nil =>
      rw [List.nil_append, List.cons_append] at h
      injection h with hx _
      exact absurd (hx ▸ List.mem_cons_self) ha
    | cons y a' =>
      rw [List.cons_append, List.cons_append] at h
      injection h with hx hrest
      obtain ⟨rfl, rfl⟩ := ih (fun hm => ha (List.mem_cons_of_mem _ hm))
        (fun hm => ha' (List.mem_cons_of_mem _ hm)) hrest
      exact ⟨by rw [hx], rfl⟩

/-- A text of printable ASCII characters has no zero byte. -/
theorem zero_not_mem_utf8Encode (h : ∀ c ∈ text, 0 < c.toNat ∧ c.toNat < 128) :
    0 ∉ utf8Encode text := by
  rw [utf8Encode_ascii (fun c hc => (h c hc).2)]
  intro hmem
  obtain ⟨c, hc, hzero⟩ := List.mem_map.mp hmem
  obtain ⟨hpos, hlt⟩ := h c hc
  have hval := congrArg UInt8.toNat hzero
  rw [UInt8.toNat_ofNat', UInt8.toNat_zero] at hval
  omega

/-! ## Section 5: Message authentication -/

/-- Unforgeability for one message: a tag that fits it under one of the keys was computed
    for it under that key. -/
def Authentic {κ : Type} (mac : κ → Bytes → Bytes) (tagged : κ → Bytes → Prop) (keys : κ → Prop)
    (message : Bytes) (presented : Option Bytes) : Prop :=
  ∀ key, keys key → presented = some (mac key message) → tagged key message

end FlowAI
