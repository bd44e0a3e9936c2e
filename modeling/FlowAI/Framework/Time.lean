import Mathlib.Data.List.DropRight
import Mathlib.Tactic.IntervalCases

/-! # Instants and RFC 3339 Timestamps

  Instants are nanoseconds since the Unix epoch.  `formatRFC3339Nano` and
  `parseRFC3339Nano` are `Time.Format` and `time.Parse` of Go for the layout
  `2006-01-02T15:04:05.999999999Z07:00` in UTC.  The parser keeps the
  leniencies of the library (an hour of one digit, a comma before the
  fraction, digits beyond the ninth, zone offsets up to `24:60`).  The main result
  is the round trip `parse_format` for years of four digits.
-/

namespace FlowAI

namespace Time

/-! ### Storage precision

  A `timestamptz` column keeps microseconds since the epoch. -/

/-- Write an instant to a `timestamptz` column: finer digits are dropped. -/
def toMicros (ns : Int) : Int := ns / 1000

/-- Read a `timestamptz` column. -/
def ofMicros (micros : Int) : Int := micros * 1000

@[simp] theorem toMicros_ofMicros (micros : Int) : toMicros (ofMicros micros) = micros := by
  unfold toMicros ofMicros
  omega

theorem ofMicros_toMicros_iff (ns : Int) : ofMicros (toMicros ns) = ns ↔ ns % 1000 = 0 := by
  unfold toMicros ofMicros
  omega

variable {ns : Int} {n : Nat}

theorem toMicros_mono {ns' : Int} (h : ns ≤ ns') : toMicros ns ≤ toMicros ns' :=
  Int.ediv_le_ediv (by decide) h

/-! ## Section 1: The proleptic Gregorian calendar -/

/-- A calendar date. -/
structure Civil where
  year : Int
  month : Int
  day : Int
  deriving DecidableEq, Repr

def isLeap (y : Int) : Bool := y % 4 = 0 ∧ (y % 100 ≠ 0 ∨ y % 400 = 0)

/-- The number of days of a month. -/
def daysIn (y m : Int) : Int :=
  if m = 2 then (if isLeap y then 29 else 28)
  else if m = 4 ∨ m = 6 ∨ m = 9 ∨ m = 11 then 30 else 31

/-- Days since the epoch of a date.  Years are counted from March, so that the
    leap day is the last day of its year. -/
def daysFromCivil (c : Civil) : Int :=
  let y := if c.month ≤ 2 then c.year - 1 else c.year
  let yoe := y % 400
  let mp := if 2 < c.month then c.month - 3 else c.month + 9
  y / 400 * 146097 + (yoe * 365 + yoe / 4 - yoe / 100 + ((153 * mp + 2) / 5 + c.day - 1)) - 719468

/-- A day number split into 400-year, 100-year, 4-year and 1-year cycles that
    start in March. -/
structure Cycles where
  era : Int
  century : Int
  quad : Int
  year : Int
  day : Int

def cyclesOfDays (z : Int) : Cycles :=
  let r := (z + 719468) % 146097
  let century := min 3 (r / 36524)
  let r := r - 36524 * century
  let quad := r / 1461
  let r := r - 1461 * quad
  let year := min 3 (r / 365)
  ⟨(z + 719468) / 146097, century, quad, year, r - 365 * year⟩

/-- The date of a day number. -/
def civilFromDays (z : Int) : Civil :=
  let k := cyclesOfDays z
  let mp := (5 * k.day + 2) / 153
  let year := 400 * k.era + 100 * k.century + 4 * k.quad + k.year
  let day := k.day - (153 * mp + 2) / 5 + 1
  if mp < 10 then ⟨year, mp + 3, day⟩ else ⟨year + 1, mp - 9, day⟩

/-- What the cycles of a day number satisfy. -/
structure Cycles.Valid (z : Int) (k : Cycles) : Prop where
  century : 0 ≤ k.century ∧ k.century ≤ 3
  quad : 0 ≤ k.quad ∧ k.quad ≤ 24
  year : 0 ≤ k.year ∧ k.year ≤ 3
  day : 0 ≤ k.day ∧ k.day ≤ 365
  leap : k.day = 365 → k.year = 3 ∧ (k.quad = 24 → k.century = 3)
  total : z + 719468 =
    146097 * k.era + 36524 * k.century + 1461 * k.quad + 365 * k.year + k.day

theorem cyclesOfDays_valid (z : Int) : (cyclesOfDays z).Valid z := by
  unfold cyclesOfDays
  constructor <;> dsimp only <;> omega

/-- The cycles give back the day count of their years. -/
private theorem Cycles.Valid.yearDays {z : Int} {k : Cycles} (h : k.Valid z) (y : Int)
    (hy : y = 400 * k.era + 100 * k.century + 4 * k.quad + k.year) :
    y / 400 * 146097 + (y % 400 * 365 + y % 400 / 4 - y % 400 / 100) + k.day = z + 719468 := by
  obtain ⟨hc, hq, hyr, -, -, ht⟩ := h
  have h400 : y / 400 = k.era := by omega
  have hyoe : y % 400 = 100 * k.century + 4 * k.quad + k.year := by omega
  rw [h400, hyoe, ht]
  omega

theorem daysFromCivil_civilFromDays (z : Int) : daysFromCivil (civilFromDays z) = z := by
  have hk := cyclesOfDays_valid z
  have hyd := hk.yearDays _ rfl
  obtain ⟨h0, h365⟩ := hk.day
  unfold civilFromDays
  dsimp only
  generalize cyclesOfDays z = k at *
  by_cases hmp : (5 * k.day + 2) / 153 < 10
  · rw [if_pos hmp]
    simp only [daysFromCivil]
    rw [if_neg (by omega), if_pos (by omega)]
    omega
  · rw [if_neg hmp]
    simp only [daysFromCivil]
    rw [if_pos (by omega), if_neg (by omega), add_sub_cancel_right]
    omega

/-- The month `mp` counted from March has at least `day - (153 * mp + 2) / 5 + 1` days. -/
private theorem day_le_daysIn (k : Cycles) (z : Int) (hk : k.Valid z) :
    let mp := (5 * k.day + 2) / 153
    let year := 400 * k.era + 100 * k.century + 4 * k.quad + k.year
    k.day - (153 * mp + 2) / 5 + 1 ≤
      if mp < 10 then daysIn year (mp + 3) else daysIn (year + 1) (mp - 9) := by
  obtain ⟨hc, hq, hyr, ⟨h0, h365⟩, hleap, -⟩ := hk
  dsimp only
  generalize hmp : (5 * k.day + 2) / 153 = mp
  have hmp0 : 0 ≤ mp := by omega
  have hmp11 : mp ≤ 11 := by omega
  by_cases hl : k.day = 365
  · -- Day 365 of a March year exists only when February has 29 days.
    obtain ⟨hy3, hq24⟩ := hleap hl
    have hmp' : mp = 11 := by omega
    have : isLeap (400 * k.era + 100 * k.century + 4 * k.quad + k.year + 1) = true := by
      unfold isLeap
      simp only [decide_eq_true_eq]
      refine ⟨by omega, ?_⟩
      by_cases hq' : k.quad = 24
      · exact .inr (by have := hq24 hq'; omega)
      · exact .inl (by omega)
    simp [hmp', hl, daysIn, this]
  · unfold daysIn
    interval_cases mp <;> norm_num <;> (try split) <;> omega

/-- `civilFromDays` only produces dates of the calendar. -/
theorem civilFromDays_valid (z : Int) :
    1 ≤ (civilFromDays z).month ∧ (civilFromDays z).month ≤ 12 ∧ 1 ≤ (civilFromDays z).day ∧
      (civilFromDays z).day ≤ daysIn (civilFromDays z).year (civilFromDays z).month := by
  have hk := cyclesOfDays_valid z
  have hday := day_le_daysIn _ z hk
  obtain ⟨h0, h365⟩ := hk.day
  unfold civilFromDays
  dsimp only at hday ⊢
  generalize cyclesOfDays z = k at *
  by_cases hmp : (5 * k.day + 2) / 153 < 10
  · rw [if_pos hmp] at hday ⊢
    exact ⟨by dsimp only; omega, by dsimp only; omega, by dsimp only; omega, hday⟩
  · rw [if_neg hmp] at hday ⊢
    exact ⟨by dsimp only; omega, by dsimp only; omega, by dsimp only; omega, hday⟩

/-! ## Section 2: Decimal fields -/

/-- The digit character of `n < 10`. -/
def digitChar (n : Nat) : Char := Char.ofNat (48 + n)

def isDigit (c : Char) : Bool := 48 ≤ c.toNat ∧ c.toNat ≤ 57

def digitVal (c : Char) : Nat := c.toNat - 48

/-- The number a digit string denotes. -/
def digitsVal (ds : List Char) : Nat := ds.foldl (fun acc c => 10 * acc + digitVal c) 0

theorem isDigit_digitChar (h : n < 10) : isDigit (digitChar n) = true := by
  interval_cases n <;> decide

theorem digitVal_digitChar (h : n < 10) : digitVal (digitChar n) = n := by
  interval_cases n <;> decide

/-- Two zero-padded digits. -/
def two (n : Nat) : List Char := [digitChar (n / 10), digitChar (n % 10)]

/-- `appendInt(year, 4)`. -/
def formatYear (y : Int) : List Char :=
  if 0 ≤ y ∧ y ≤ 9999 then two (y.toNat / 100) ++ two (y.toNat % 100)
  else (if y < 0 then ['-'] else []) ++
    (String.leftpad 4 '0' (toString y.natAbs)).toList

/-- The last `k` decimal digits of `n`. -/
def digits : Nat → Nat → List Char
  | 0, _ => []
  | k + 1, n => digits k (n / 10) ++ [digitChar (n % 10)]

/-- The fraction of the layout `.999999999`: trailing zeros are omitted, and the
    point with them. -/
def formatFraction (n : Nat) : List Char :=
  match (digits 9 n).rdropWhile (· = '0') with
  | [] => []
  | ds => '.' :: ds

/-! ## Section 3: Formatting and parsing -/

/-- Nanoseconds of a day. -/
def nsPerDay : Int := 86400000000000

/-- The fields of a timestamp. -/
structure Fields where
  year : Int
  month : Nat
  day : Nat
  hour : Nat
  minute : Nat
  second : Nat
  nsec : Nat

/-- The UTC fields of an instant. -/
def fieldsOf (ns : Int) : Fields :=
  let date := civilFromDays (ns / nsPerDay)
  let clock := (ns % nsPerDay).toNat
  let seconds := clock / 1000000000
  ⟨date.year, date.month.toNat, date.day.toNat, seconds / 3600, seconds / 60 % 60, seconds % 60,
    clock % 1000000000⟩

/-- The instant of UTC fields. -/
def Fields.toInstant (f : Fields) : Int :=
  daysFromCivil ⟨f.year, f.month, f.day⟩ * nsPerDay +
    (f.hour * 3600 + f.minute * 60 + f.second : Nat) * 1000000000 + f.nsec

def Fields.format (f : Fields) : List Char :=
  formatYear f.year ++ '-' :: (two f.month ++ '-' :: (two f.day ++ 'T' :: (two f.hour ++
    ':' :: (two f.minute ++ ':' :: (two f.second ++ (formatFraction f.nsec ++ ['Z']))))))

/-- `t.UTC().Format(time.RFC3339Nano)`. -/
def formatRFC3339Nano (ns : Int) : String := String.ofList (fieldsOf ns).format

/-- `getnum` of the Go library: two digits, or one when `fixed` is not asked for. -/
def getnum (fixed : Bool) : List Char → Option (Nat × List Char)
  | c :: d :: rest =>
    if isDigit c then
      if isDigit d then some (10 * digitVal c + digitVal d, rest)
      else if fixed then none else some (digitVal c, d :: rest)
    else none
  | [c] => if isDigit c ∧ ¬ fixed then some (digitVal c, []) else none
  | [] => none

/-- A literal character of the layout. -/
def skip (c : Char) : List Char → Option (List Char)
  | c' :: rest => if c = c' then some rest else none
  | [] => none

/-- The four digits of the year. -/
def parseYear : List Char → Option (Nat × List Char)
  | a :: b :: c :: d :: rest =>
    if isDigit a ∧ isDigit b ∧ isDigit c ∧ isDigit d then
      some (digitsVal [a, b, c, d], rest)
    else none
  | _ => none

/-- The optional fraction: any number of digits, of which nine count. -/
def parseFraction : List Char → Nat × List Char
  | c :: d :: rest =>
    if (c = '.' ∨ c = ',') ∧ isDigit d then
      let ds := ((d :: rest).takeWhile isDigit).take 9
      (digitsVal ds * 10 ^ (9 - ds.length), (d :: rest).dropWhile isDigit)
    else (0, c :: d :: rest)
  | s => (0, s)

/-- The zone offset in seconds; it must be the end of the text. -/
def parseZone : List Char → Option Int
  | ['Z'] => some 0
  | [sign, h₁, h₂, ':', m₁, m₂] => do
    let (hour, _) ← getnum true [h₁, h₂]
    let (minute, _) ← getnum true [m₁, m₂]
    guard (hour ≤ 24 ∧ minute ≤ 60)
    if sign = '+' then some ((hour * 60 + minute) * 60 : Nat)
    else if sign = '-' then some (-((hour * 60 + minute) * 60 : Nat))
    else none
  | _ => none

/-- Year, month and day; the day is checked against the month at the end. -/
def parseDate (s : List Char) : Option ((Nat × Nat × Nat) × List Char) := do
  let (year, s) ← parseYear s
  let s ← skip '-' s
  let (month, s) ← getnum true s
  guard (1 ≤ month ∧ month ≤ 12)
  let s ← skip '-' s
  let (day, s) ← getnum true s
  some ((year, month, day), s)

/-- Hour, minute and second. -/
def parseClock (s : List Char) : Option ((Nat × Nat × Nat) × List Char) := do
  let (hour, s) ← getnum false s
  guard (hour < 24)
  let s ← skip ':' s
  let (minute, s) ← getnum true s
  guard (minute < 60)
  let s ← skip ':' s
  let (second, s) ← getnum true s
  guard (second < 60)
  some ((hour, minute, second), s)

/-- Read the fields and the zone offset. -/
def parseFields (s : List Char) : Option (Fields × Int) := do
  let ((year, month, day), s) ← parseDate s
  let s ← skip 'T' s
  let ((hour, minute, second), s) ← parseClock s
  let (nsec, s) := parseFraction s
  let offset ← parseZone s
  some (⟨year, month, day, hour, minute, second, nsec⟩, offset)

/-- `time.Parse(time.RFC3339Nano, s)`. -/
def parseRFC3339Nano (s : String) : Option Int := do
  let (f, offset) ← parseFields s.toList
  guard (1 ≤ f.day ∧ (f.day : Int) ≤ daysIn f.year f.month)
  some (f.toInstant - offset * 1000000000)

/-! ## Section 4: Round trip -/

@[simp] theorem getnum_two (fixed : Bool) (h : n < 100) (rest : List Char) :
    getnum fixed (two n ++ rest) = some (n, rest) := by
  have h1 : n / 10 < 10 := by omega
  have h2 : n % 10 < 10 := by omega
  simp only [two, List.cons_append, List.nil_append, getnum, isDigit_digitChar h1,
    isDigit_digitChar h2, digitVal_digitChar h1, digitVal_digitChar h2, if_true]
  congr 2
  omega

@[simp] theorem skip_cons (c : Char) (rest : List Char) : skip c (c :: rest) = some rest := by
  simp [skip]

theorem parseZone_utc : parseZone ['Z'] = some 0 := rfl

theorem parseYear_formatYear {y : Int} (h0 : 0 ≤ y) (h1 : y ≤ 9999) (rest : List Char) :
    parseYear (formatYear y ++ rest) = some (y.toNat, rest) := by
  have h2 : ∀ n, n % 10 < 10 := fun n => Nat.mod_lt n (by decide)
  have h3 : y.toNat / 100 / 10 < 10 := by omega
  have h4 : y.toNat % 100 / 10 < 10 := by omega
  simp only [formatYear, h0, h1, and_self, if_true, two, List.cons_append, List.nil_append,
    parseYear, isDigit_digitChar h3, isDigit_digitChar h4, isDigit_digitChar (h2 _), digitsVal,
    List.foldl_cons, List.foldl_nil, digitVal_digitChar h3, digitVal_digitChar h4,
    digitVal_digitChar (h2 _)]
  congr 2
  omega

theorem digitsVal_append_zeros (ds : List Char) (k : Nat) :
    digitsVal (ds ++ List.replicate k '0') = digitsVal ds * 10 ^ k := by
  induction k with
  | zero => simp
  | succ k ih =>
    have hz : digitVal '0' = 0 := rfl
    rw [List.replicate_succ', ← List.append_assoc, digitsVal, List.foldl_append]
    change 10 * digitsVal (ds ++ List.replicate k '0') + digitVal '0' = _
    rw [ih, hz, pow_succ, Nat.add_zero, Nat.mul_comm 10, Nat.mul_assoc]

/-- What is dropped from the end of a digit string is a block of zeros. -/
theorem rdropWhile_zeros (ds : List Char) :
    ∃ k, ds = ds.rdropWhile (· = '0') ++ List.replicate k '0' := by
  induction ds using List.reverseRecOn with
  | nil => exact ⟨0, rfl⟩
  | append_singleton ds c ih =>
    by_cases hc : c = '0'
    · obtain ⟨k, hk⟩ := ih
      refine ⟨k + 1, ?_⟩
      rw [List.rdropWhile_concat_pos _ _ _ (by simpa using hc), List.replicate_succ',
        ← List.append_assoc, ← hk, hc]
    · refine ⟨0, ?_⟩
      rw [List.rdropWhile_concat_neg _ _ _ (by simpa using hc)]
      simp

theorem digitsVal_digits (k n : Nat) : digitsVal (digits k n) = n % 10 ^ k := by
  induction k generalizing n with
  | zero => simp [digits, digitsVal, Nat.mod_one]
  | succ k ih =>
    rw [digits, digitsVal, List.foldl_append]
    change 10 * digitsVal (digits k (n / 10)) + digitVal (digitChar (n % 10)) = _
    rw [ih, digitVal_digitChar (Nat.mod_lt n (by decide)), Nat.pow_succ', Nat.mod_mul]
    omega

theorem length_digits (k n : Nat) : (digits k n).length = k := by
  induction k generalizing n with
  | zero => rfl
  | succ k ih => simp [digits, ih]

theorem isDigit_of_mem_digits {k : Nat} {c : Char} (h : c ∈ digits k n) : isDigit c = true := by
  induction k generalizing n with
  | zero => simp [digits] at h
  | succ k ih =>
    rcases List.mem_append.mp h with h | h
    · exact ih h
    · rw [List.mem_singleton.mp h]
      exact isDigit_digitChar (Nat.mod_lt n (by decide))

theorem parseFraction_formatFraction (h : n < 1000000000) :
    parseFraction (formatFraction n ++ ['Z']) = (n, ['Z']) := by
  obtain ⟨k, hk⟩ := rdropWhile_zeros (digits 9 n)
  have hval := (digitsVal_digits 9 n).trans (Nat.mod_eq_of_lt h)
  have hlen := length_digits 9 n
  have hdig : ∀ c ∈ (digits 9 n).rdropWhile (· = '0'), isDigit c = true := fun c hc =>
    isDigit_of_mem_digits ((List.rdropWhile_prefix _ _).subset hc)
  unfold formatFraction
  generalize (digits 9 n).rdropWhile (· = '0') = ds at hk hdig
  rw [hk, digitsVal_append_zeros] at hval
  rw [hk, List.length_append, List.length_replicate] at hlen
  cases ds with
  | nil =>
    have : n = 0 := by rw [← hval]; simp [digitsVal]
    subst this
    rfl
  | cons d ds =>
    have hstop : ((d :: ds) ++ ['Z']).takeWhile isDigit = d :: ds := by
      rw [List.takeWhile_append_of_pos hdig]
      simp [isDigit]
    have hdrop : ((d :: ds) ++ ['Z']).dropWhile isDigit = ['Z'] := by
      rw [List.dropWhile_append_of_pos hdig]
      simp [isDigit]
    have htake : (d :: ds).take 9 = d :: ds := List.take_of_length_le (by omega)
    have hk' : 9 - (d :: ds).length = k := by omega
    simp only [List.cons_append, parseFraction, hdig d List.mem_cons_self, true_or, and_self,
      if_true]
    rw [← List.cons_append, hstop, hdrop, htake, hk', hval]

/-- Fields that a formatted timestamp can carry. -/
structure Fields.InRange (f : Fields) : Prop where
  year : 0 ≤ f.year ∧ f.year ≤ 9999
  month : 1 ≤ f.month ∧ f.month ≤ 12
  day : 1 ≤ f.day ∧ (f.day : Int) ≤ daysIn f.year f.month
  hour : f.hour < 24
  minute : f.minute < 60
  second : f.second < 60
  nsec : f.nsec < 1000000000

theorem daysIn_le (y m : Int) : daysIn y m ≤ 31 := by
  unfold daysIn
  split_ifs <;> omega

theorem parseDate_format {year : Int} {month day : Nat} (hy : 0 ≤ year ∧ year ≤ 9999)
    (hm : 1 ≤ month ∧ month ≤ 12) (hd : day < 100) (rest : List Char) :
    parseDate (formatYear year ++ '-' :: (two month ++ '-' :: (two day ++ rest))) =
      some ((year.toNat, month, day), rest) := by
  unfold parseDate
  rw [parseYear_formatYear hy.1 hy.2]
  simp [getnum_two _ (show month < 100 by omega), getnum_two _ hd, guard, hm]

theorem parseClock_format {hour minute second : Nat} (hh : hour < 24) (hm : minute < 60)
    (hs : second < 60) (rest : List Char) :
    parseClock (two hour ++ ':' :: (two minute ++ ':' :: (two second ++ rest))) =
      some ((hour, minute, second), rest) := by
  unfold parseClock
  simp [getnum_two _ (show hour < 100 by omega), getnum_two _ (show minute < 100 by omega),
    getnum_two _ (show second < 100 by omega), guard, hh, hm, hs]

theorem parseFields_format {f : Fields} (h : f.InRange) : parseFields f.format = some (f, 0) := by
  have hday := le_trans h.day.2 (daysIn_le _ _)
  unfold Fields.format parseFields
  rw [parseDate_format h.year h.month (by omega)]
  simp only [Option.bind_eq_bind, Option.bind_some, skip_cons,
    parseClock_format h.hour h.minute h.second, parseFraction_formatFraction h.nsec, parseZone_utc]
  rw [Int.toNat_of_nonneg h.year.1]

theorem fieldsOf_inRange (hy : 0 ≤ (fieldsOf ns).year ∧ (fieldsOf ns).year ≤ 9999) :
    (fieldsOf ns).InRange := by
  obtain ⟨hm1, hm12, hd1, hdmax⟩ := civilFromDays_valid (ns / nsPerDay)
  have hclock : (ns % nsPerDay).toNat < 86400000000000 := by
    unfold nsPerDay
    omega
  unfold fieldsOf at *
  generalize civilFromDays (ns / nsPerDay) = date at *
  generalize (ns % nsPerDay).toNat = clock at *
  refine ⟨hy, ?_, ?_, ?_, ?_, ?_, ?_⟩ <;> dsimp only
  · omega
  · rw [Int.toNat_of_nonneg (by omega), Int.toNat_of_nonneg (by omega)]
    exact ⟨by omega, hdmax⟩
  all_goals omega

theorem toInstant_fieldsOf (ns : Int) : (fieldsOf ns).toInstant = ns := by
  obtain ⟨hm1, -, hd1, -⟩ := civilFromDays_valid (ns / nsPerDay)
  have hdays := daysFromCivil_civilFromDays (ns / nsPerDay)
  have hsplit : ns / nsPerDay * nsPerDay + ((ns % nsPerDay).toNat : Int) = ns := by
    unfold nsPerDay
    omega
  unfold Fields.toInstant fieldsOf
  generalize civilFromDays (ns / nsPerDay) = date at *
  generalize (ns % nsPerDay).toNat = clock at *
  obtain ⟨year, month, day⟩ := date
  dsimp only at *
  rw [Int.toNat_of_nonneg (by omega), Int.toNat_of_nonneg (by omega), hdays]
  omega

/-- The first instant of the year 10000, in nanoseconds. -/
def endOfYears : Int := 2932897 * nsPerDay

/-- The first instant of the year 0. -/
def startOfYears : Int := -719528 * nsPerDay

/-- The instants whose UTC year has four digits. -/
theorem year_range_iff (ns : Int) : (0 ≤ (fieldsOf ns).year ∧ (fieldsOf ns).year ≤ 9999) ↔
    startOfYears ≤ ns ∧ ns < endOfYears := by
  have hstart : startOfYears ≤ ns ↔ -719528 ≤ ns / nsPerDay :=
    (Int.le_ediv_iff_mul_le (by decide)).symm
  have hend : ns < endOfYears ↔ ns / nsPerDay < 2932897 :=
    (Int.ediv_lt_iff_lt_mul (by decide)).symm
  rw [hstart, hend]
  show 0 ≤ (civilFromDays (ns / nsPerDay)).year ∧ (civilFromDays (ns / nsPerDay)).year ≤ 9999 ↔ _
  generalize ns / nsPerDay = z
  obtain ⟨hc, hq, hy, hd, -, ht⟩ := cyclesOfDays_valid z
  unfold civilFromDays
  dsimp only
  generalize cyclesOfDays z = k at *
  by_cases hmp : (5 * k.day + 2) / 153 < 10
  · rw [if_pos hmp]
    dsimp only
    have hday : k.day ≤ 305 := by omega
    -- the bound on the day number is decided by the 400-year cycle first
    rcases Int.lt_trichotomy k.era (-1) with hera | hera | hera
    · omega
    · rw [hera] at ht ⊢
      omega
    · omega
  · -- January and February belong to the next year
    rw [if_neg hmp]
    dsimp only
    omega

/-- From the epoch to the year 10000 a year has four digits. -/
theorem year_of_instant (h0 : 0 ≤ ns) (h1 : ns < endOfYears) :
    0 ≤ (fieldsOf ns).year ∧ (fieldsOf ns).year ≤ 9999 := by
  refine (year_range_iff ns).mpr ⟨le_trans ?_ h0, h1⟩
  decide

/-- Reading a formatted instant gives the instant back, for every instant whose
    UTC year has four digits. -/
theorem parse_format (hy : 0 ≤ (fieldsOf ns).year ∧ (fieldsOf ns).year ≤ 9999) :
    parseRFC3339Nano (formatRFC3339Nano ns) = some ns := by
  have hr := fieldsOf_inRange hy
  unfold parseRFC3339Nano formatRFC3339Nano
  rw [String.toList_ofList, parseFields_format hr]
  simp only [Option.bind_eq_bind, Option.bind_some, guard, hr.day.1, hr.day.2, and_self, if_true,
    Option.pure_def, toInstant_fieldsOf]
  simp

theorem isDigit_of_isDigit {c : Char} (h : c.isDigit = true) : isDigit c = true := by
  simp only [Char.isDigit, Bool.and_eq_true, decide_eq_true_eq, UInt32.le_iff_toNat_le] at h
  simp only [isDigit, decide_eq_true_eq]
  exact h

/-- A year of more or less than four digits is not read back. -/
theorem parseDate_wide {y : Int} (hy : ¬ (0 ≤ y ∧ y ≤ 9999)) (rest : List Char) :
    parseDate (formatYear y ++ rest) = none := by
  unfold formatYear
  rw [if_neg hy]
  by_cases hneg : y < 0
  · -- the sign is no digit
    rw [if_pos hneg]
    have hyear : ∀ cs, parseYear ('-' :: cs) = none := by
      intro cs
      unfold parseYear
      split
      · rename_i h
        cases h
        simp [isDigit]
      · rfl
    simp [parseDate, hyear]
  · -- a fifth digit stands where the dash should be
    rw [if_neg hneg]
    have hlarge : ¬ y.natAbs < 10 ^ 4 := by omega
    have hlen : ¬ (Nat.toDigits 10 y.natAbs).length ≤ 4 := by
      rw [Nat.length_toDigits_le_iff (by decide) (by decide)]
      exact hlarge
    have htext : (String.leftpad 4 '0' (toString y.natAbs)).toList = Nat.toDigits 10 y.natAbs := by
      change (String.ofList (List.leftpad 4 '0' (toString y.natAbs).toList)).toList = _
      rw [String.toList_ofList, Nat.toString_eq_repr, Nat.repr, String.toList_ofList, List.leftpad,
        show 4 - (Nat.toDigits 10 y.natAbs).length = 0 by omega]
      rfl
    have hdigit : ∀ c ∈ Nat.toDigits 10 y.natAbs, isDigit c = true := by
      intro c hc
      exact isDigit_of_isDigit (Nat.isDigit_of_mem_toDigits (by decide) (by decide) hc)
    rw [htext]
    generalize Nat.toDigits 10 y.natAbs = ds at hlen hdigit
    rcases ds with _ | ⟨a, _ | ⟨b, _ | ⟨c, _ | ⟨d, _ | ⟨e, ds⟩⟩⟩⟩⟩ <;> simp at hlen
    have he : e ≠ '-' := by
      rintro rfl
      have hdash := hdigit '-' (by simp)
      simp [isDigit] at hdash
    have habcd : isDigit a = true ∧ isDigit b = true ∧ isDigit c = true ∧ isDigit d = true := by
      refine ⟨hdigit a ?_, hdigit b ?_, hdigit c ?_, hdigit d ?_⟩ <;> simp
    simp [parseDate, parseYear, habcd, skip, Ne.symm he]

/-- An instant is read back exactly when its year has four digits. -/
theorem parse_format_iff (ns : Int) : parseRFC3339Nano (formatRFC3339Nano ns) =
    if startOfYears ≤ ns ∧ ns < endOfYears then some ns else none := by
  by_cases hrange : startOfYears ≤ ns ∧ ns < endOfYears
  · rw [if_pos hrange, parse_format ((year_range_iff ns).mpr hrange)]
  · have hy := mt (year_range_iff ns).mp hrange
    rw [if_neg hrange]
    unfold parseRFC3339Nano formatRFC3339Nano parseFields
    rw [String.toList_ofList, Fields.format, parseDate_wide hy]
    rfl

/-- A formatted instant is read back as itself or not at all. -/
theorem parse_format_some {ns' : Int} (h : parseRFC3339Nano (formatRFC3339Nano ns) = some ns') :
    ns' = ns := by
  rw [parse_format_iff] at h
  split at h
  · exact (Option.some.inj h).symm
  · cases h

theorem length_formatFraction (n : Nat) : (formatFraction n).length ≤ 10 := by
  have hlen : ((digits 9 n).rdropWhile (· = '0')).length ≤ 9 := by
    have h := (List.rdropWhile_prefix (fun c : Char => decide (c = '0')) (digits 9 n)).length_le
    rw [length_digits] at h
    exact h
  unfold formatFraction
  split
  · simp
  · rename_i ds _
    rw [List.length_cons]
    omega

/-- A timestamp with a year of four digits has at most thirty characters. -/
theorem length_formatRFC3339Nano (h : startOfYears ≤ ns ∧ ns < endOfYears) :
    (formatRFC3339Nano ns).toList.length ≤ 30 := by
  have hyear : formatYear (fieldsOf ns).year = _ := if_pos ((year_range_iff ns).mpr h)
  have hfraction := length_formatFraction (fieldsOf ns).nsec
  rw [formatRFC3339Nano, String.toList_ofList, Fields.format, hyear]
  simp only [two, List.length_append, List.length_cons, List.length_nil]
  omega

example : formatRFC3339Nano 1735689600123000000 = "2025-01-01T00:00:00.123Z" := by decide

end Time

end FlowAI
