import Mathlib.Algebra.Group.Int.Defs
import FlowAI.Framework.StrMap

/-! # JSON Values

  JSON texts up to lexical detail: object members keep the order and the
  duplicates of the text, numbers are decimal literals.  Two readers of a text
  matter here.  `Json.jsonb` is the value a `jsonb` column keeps (exact
  numbers, last duplicate wins, no member order); `Json.goValue` is what
  `encoding/json` decodes into an `any` (numbers rounded to `float64`).  Both
  are instances of `Json.normalize`, and the law used everywhere is
  `goValue_jsonb`: decoding what the column kept gives what decoding the text
  would have given.
-/

namespace FlowAI

/-! ## Section 1: Decimal numbers -/

/-- The number literal `mantissa · 10 ^ exponent`. -/
structure Decimal where
  mantissa : Int
  exponent : Int
  deriving DecidableEq, Repr

namespace Decimal

/-- Drop trailing zeros of the mantissa, at most `fuel` of them. -/
def strip : Nat → Int → Int → Decimal
  | 0, m, e => ⟨m, e⟩
  | fuel + 1, m, e => if m % 10 = 0 then strip fuel (m / 10) (e + 1) else ⟨m, e⟩

/-- The literal of the same number without trailing zeros. -/
def canon (d : Decimal) : Decimal :=
  if d.mantissa = 0 then ⟨0, 0⟩ else strip d.mantissa.natAbs d.mantissa d.exponent

theorem strip_mantissa (fuel : Nat) (m e : Int) (hm : m ≠ 0) (hf : m.natAbs ≤ fuel) :
    (strip fuel m e).mantissa % 10 ≠ 0 := by
  induction fuel generalizing m e with
  | zero => omega
  | succ fuel ih =>
    unfold strip
    split
    · exact ih _ _ (by omega) (by omega)
    · assumption

theorem strip_of_stripped (fuel : Nat) (m e : Int) (h : m % 10 ≠ 0) : strip fuel m e = ⟨m, e⟩ := by
  cases fuel with
  | zero => rfl
  | succ fuel => rw [strip, if_neg h]

@[simp] theorem canon_canon (d : Decimal) : d.canon.canon = d.canon := by
  by_cases h0 : d.mantissa = 0
  · simp [canon, h0]
  · have hd : d.canon = strip d.mantissa.natAbs d.mantissa d.exponent := by simp [canon, h0]
    have hm := strip_mantissa d.mantissa.natAbs d.mantissa d.exponent h0 le_rfl
    rw [← hd] at hm
    have hne : d.canon.mantissa ≠ 0 := by
      intro h
      simp [h] at hm
    rw [canon, if_neg hne, strip_of_stripped _ _ _ hm]

/-! ### Conversion to float64 -/

/-- Numerator and denominator of the absolute value. -/
def absRatio (d : Decimal) : Nat × Nat :=
  if 0 ≤ d.exponent then (d.mantissa.natAbs * 10 ^ d.exponent.toNat, 1)
  else (d.mantissa.natAbs, 10 ^ (-d.exponent).toNat)

/-- The magnitude from which rounding to the nearest float64 overflows. -/
def float64Bound : Nat := 2 ^ 1024 - 2 ^ 970

/-- `strconv.ParseFloat` reports no range error for the literal. -/
def inFloat64Range (d : Decimal) : Bool :=
  let (n, den) := d.canon.absRatio
  n < float64Bound * den

/-- `n / den` rounded to an integer, ties to even. -/
def divRoundEven (n den : Nat) : Nat :=
  let q := n / den
  let twice := 2 * (n % den)
  if twice < den then q else if den < twice then q + 1 else q + q % 2

/-- `⌊log₂ (n / den)⌋` for positive `n` and `den`. -/
def floorLog2 (n den : Nat) : Int :=
  let guess : Int := (n.log2 : Int) - den.log2
  if den * 2 ^ guess.toNat ≤ n * 2 ^ (-guess).toNat then guess else guess - 1

/-- The nearest float64 of a number in range, written as a decimal again. -/
def roundFloat64 (d : Decimal) : Decimal :=
  let c := d.canon
  let (n, den) := c.absRatio
  if n = 0 then ⟨0, 0⟩ else
    let q := max (-1074) (floorLog2 n den - 52)
    let m := divRoundEven (n * 2 ^ (-q).toNat) (den * 2 ^ q.toNat)
    let magnitude : Decimal :=
      if 0 ≤ q then ⟨m * 2 ^ q.toNat, 0⟩ else ⟨m * 5 ^ (-q).toNat, q⟩
    canon ⟨c.mantissa.sign * magnitude.mantissa, magnitude.exponent⟩

@[simp] theorem inFloat64Range_canon (d : Decimal) :
    d.canon.inFloat64Range = d.inFloat64Range := by
  simp [inFloat64Range]

@[simp] theorem roundFloat64_canon (d : Decimal) : d.canon.roundFloat64 = d.roundFloat64 := by
  simp [roundFloat64]

-- 2 ^ 53 + 1 is the first integer that float64 cannot hold.
example : (⟨9007199254740993, 0⟩ : Decimal).roundFloat64 = ⟨9007199254740992, 0⟩ := by decide

end Decimal

/-! ## Section 2: JSON values -/

/-- A JSON text without its lexical detail. -/
inductive Json where
  | null
  | bool (b : Bool)
  | num (d : Decimal)
  | str (s : String)
  | arr (items : List Json)
  | obj (members : List (String × Json))
  deriving Repr

namespace Json

/-! ### Induction -/

/-- Induction over the values below a value. -/
@[elab_as_elim]
theorem induct {P : Json → Prop} (null : P .null) (bool : ∀ b, P (.bool b)) (num : ∀ d, P (.num d))
    (str : ∀ s, P (.str s)) (arr : ∀ items, (∀ j ∈ items, P j) → P (.arr items))
    (obj : ∀ members, (∀ m ∈ members, P m.2) → P (.obj members)) (j : Json) : P j := by
  induction hn : sizeOf j using Nat.strongRecOn generalizing j with
  | ind n ih =>
    subst hn
    cases j with
    | null => exact null
    | bool b => exact bool b
    | num d => exact num d
    | str s => exact str s
    | arr items =>
      apply arr
      intro j hj
      have hlt := List.sizeOf_lt_of_mem hj
      exact ih _ (by simp only [Json.arr.sizeOf_spec]; omega) j rfl
    | obj members =>
      apply obj
      intro m hm
      have hlt := List.sizeOf_lt_of_mem hm
      have hpair : sizeOf m = 1 + sizeOf m.1 + sizeOf m.2 := rfl
      exact ih _ (by simp only [Json.obj.sizeOf_spec]; omega) m.2 rfl

/-! ### Equality -/

mutual

/-- Structural equality, as a boolean. -/
def same : Json → Json → Bool
  | .null, .null => true
  | .bool a, .bool b => a == b
  | .num a, .num b => a == b
  | .str a, .str b => a == b
  | .arr a, .arr b => sameItems a b
  | .obj a, .obj b => sameMembers a b
  | _, _ => false

def sameItems : List Json → List Json → Bool
  | [], [] => true
  | a :: as, b :: bs => same a b && sameItems as bs
  | _, _ => false

def sameMembers : List (String × Json) → List (String × Json) → Bool
  | [], [] => true
  | (k, a) :: as, (k', b) :: bs => k == k' && same a b && sameMembers as bs
  | _, _ => false

end

mutual

theorem same_iff : ∀ a b : Json, same a b = true ↔ a = b
  | .null, b => by cases b <;> simp [same]
  | .bool x, b => by cases b <;> simp [same]
  | .num x, b => by cases b <;> simp [same]
  | .str x, b => by cases b <;> simp [same]
  | .arr xs, b => by cases b <;> simp [same, sameItems_iff xs]
  | .obj ms, b => by cases b <;> simp [same, sameMembers_iff ms]

theorem sameItems_iff : ∀ as bs : List Json, sameItems as bs = true ↔ as = bs
  | [], bs => by cases bs <;> simp [sameItems]
  | a :: as, bs => by cases bs <;> simp [sameItems, same_iff a, sameItems_iff as]

theorem sameMembers_iff : ∀ as bs : List (String × Json), sameMembers as bs = true ↔ as = bs
  | [], bs => by cases bs <;> simp [sameMembers]
  | (k, a) :: as, bs => by
    cases bs with
    | nil => simp [sameMembers]
    | cons m bs => simp [sameMembers, same_iff a, sameMembers_iff as, Prod.ext_iff]

end

instance : DecidableEq Json := fun a b => decidable_of_iff _ (same_iff a b)

/-! ### Normal forms -/

mutual

/-- Rewrite every number by `f` and every object to the map it denotes. -/
def normalize (f : Decimal → Decimal) : Json → Json
  | .null => .null
  | .bool b => .bool b
  | .num d => .num (f d)
  | .str s => .str s
  | .arr items => .arr (normalizeItems f items)
  | .obj members => .obj (mergeMembers (normalizeMembers f members))

def normalizeItems (f : Decimal → Decimal) : List Json → List Json
  | [] => []
  | j :: js => normalize f j :: normalizeItems f js

def normalizeMembers (f : Decimal → Decimal) : List (String × Json) → List (String × Json)
  | [] => []
  | (k, j) :: ms => (k, normalize f j) :: normalizeMembers f ms

end

theorem normalizeMembers_eq_map (f : Decimal → Decimal) (ms : List (String × Json)) :
    normalizeMembers f ms = ms.map (fun m => (m.1, normalize f m.2)) := by
  induction ms with
  | nil => rfl
  | cons m ms ih => rw [normalizeMembers, ih, List.map_cons]

mutual

/-- Normalizing twice is normalizing once with the composed number maps. -/
theorem normalize_normalize (f g : Decimal → Decimal) :
    ∀ j : Json, normalize f (normalize g j) = normalize (f ∘ g) j
  | .null => rfl
  | .bool _ => rfl
  | .num _ => rfl
  | .str _ => rfl
  | .arr items => by
    simp only [normalize, normalizeItems_normalizeItems f g items]
  | .obj members => by
    simp only [normalize]
    rw [normalizeMembers_eq_map f, mergeMembers_map, ← normalizeMembers_eq_map,
      normalizeMembers_normalizeMembers f g members, mergeMembers_mergeMembers]

theorem normalizeItems_normalizeItems (f g : Decimal → Decimal) :
    ∀ js : List Json, normalizeItems f (normalizeItems g js) = normalizeItems (f ∘ g) js
  | [] => rfl
  | j :: js => by
    simp only [normalizeItems, normalize_normalize f g j, normalizeItems_normalizeItems f g js]

theorem normalizeMembers_normalizeMembers (f g : Decimal → Decimal) :
    ∀ ms : List (String × Json),
      normalizeMembers f (normalizeMembers g ms) = normalizeMembers (f ∘ g) ms
  | [] => rfl
  | (k, j) :: ms => by
    simp only [normalizeMembers, normalize_normalize f g j,
      normalizeMembers_normalizeMembers f g ms]

end

/-- The value a `jsonb` column keeps. -/
def jsonb (j : Json) : Json := normalize Decimal.canon j

/-- The value `json.Unmarshal` stores in an `any`, when it succeeds. -/
def goValue (j : Json) : Json := normalize Decimal.roundFloat64 j

@[simp] theorem jsonb_jsonb (j : Json) : j.jsonb.jsonb = j.jsonb := by
  unfold jsonb
  rw [normalize_normalize]
  congr 1
  funext d
  exact d.canon_canon

/-- Decoding what the column kept is decoding the text. -/
@[simp] theorem goValue_jsonb (j : Json) : j.jsonb.goValue = j.goValue := by
  unfold jsonb goValue
  rw [normalize_normalize]
  congr 1
  funext d
  exact d.roundFloat64_canon

/-! ### Decoding errors -/

mutual

/-- The number literals of a text, also those under an overridden key. -/
def numbers : Json → List Decimal
  | .num d => [d]
  | .arr items => numbersItems items
  | .obj members => numbersMembers members
  | _ => []

def numbersItems : List Json → List Decimal
  | [] => []
  | j :: js => numbers j ++ numbersItems js

def numbersMembers : List (String × Json) → List Decimal
  | [] => []
  | (_, j) :: ms => numbers j ++ numbersMembers ms

end

/-- Whether `json.Unmarshal` into an `any` succeeds on the text. -/
def unmarshals (j : Json) : Bool := j.numbers.all Decimal.inFloat64Range

theorem mem_numbersMembers {d : Decimal} {ms : List (String × Json)} :
    d ∈ numbersMembers ms ↔ ∃ m ∈ ms, d ∈ m.2.numbers := by
  induction ms with
  | nil => simp [numbersMembers]
  | cons m ms ih => simp [numbersMembers, ih]

mutual

theorem numbers_normalize (f : Decimal → Decimal) : ∀ (j : Json) (d : Decimal),
    d ∈ (normalize f j).numbers → ∃ d₀ ∈ j.numbers, d = f d₀
  | .null, d, h => by simp [normalize, numbers] at h
  | .bool _, d, h => by simp [normalize, numbers] at h
  | .num _, d, h => by simpa [normalize, numbers] using h
  | .str _, d, h => by simp [normalize, numbers] at h
  | .arr items, d, h => by
    simp only [normalize, numbers] at h ⊢
    exact numbersItems_normalize f items d h
  | .obj members, d, h => by
    simp only [normalize, numbers] at h ⊢
    obtain ⟨m, hm, hd⟩ := mem_numbersMembers.mp h
    exact numbersMembers_normalize f members d
      (mem_numbersMembers.mpr ⟨m, mem_of_mem_mergeMembers hm, hd⟩)

theorem numbersItems_normalize (f : Decimal → Decimal) : ∀ (js : List Json) (d : Decimal),
    d ∈ numbersItems (normalizeItems f js) → ∃ d₀ ∈ numbersItems js, d = f d₀
  | [], d, h => by simp [normalizeItems, numbersItems] at h
  | j :: js, d, h => by
    simp only [normalizeItems, numbersItems, List.mem_append] at h ⊢
    rcases h with h | h
    · obtain ⟨d₀, hd₀, rfl⟩ := numbers_normalize f j d h
      exact ⟨d₀, .inl hd₀, rfl⟩
    · obtain ⟨d₀, hd₀, rfl⟩ := numbersItems_normalize f js d h
      exact ⟨d₀, .inr hd₀, rfl⟩

theorem numbersMembers_normalize (f : Decimal → Decimal) :
    ∀ (ms : List (String × Json)) (d : Decimal),
      d ∈ numbersMembers (normalizeMembers f ms) → ∃ d₀ ∈ numbersMembers ms, d = f d₀
  | [], d, h => by simp [normalizeMembers, numbersMembers] at h
  | (_, j) :: ms, d, h => by
    simp only [normalizeMembers, numbersMembers, List.mem_append] at h ⊢
    rcases h with h | h
    · obtain ⟨d₀, hd₀, rfl⟩ := numbers_normalize f j d h
      exact ⟨d₀, .inl hd₀, rfl⟩
    · obtain ⟨d₀, hd₀, rfl⟩ := numbersMembers_normalize f ms d h
      exact ⟨d₀, .inr hd₀, rfl⟩

end

/-- A text that decodes still decodes once the column has normalized it. -/
theorem unmarshals_jsonb {j : Json} (h : j.unmarshals = true) : j.jsonb.unmarshals = true := by
  simp only [unmarshals, List.all_eq_true] at h ⊢
  intro d hd
  obtain ⟨d₀, hd₀, rfl⟩ := numbers_normalize _ j d hd
  rw [Decimal.inFloat64Range_canon]
  exact h d₀ hd₀

end Json

/-! ## Section 3: Raw messages -/

/-- A `json.RawMessage` up to lexical detail: no bytes at all, bytes that are
    not JSON, or the text of a value. -/
inductive RawMessage where
  | empty
  | invalid
  | text (j : Json)
  deriving DecidableEq, Repr

end FlowAI
