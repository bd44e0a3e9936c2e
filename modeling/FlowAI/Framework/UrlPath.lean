import FlowAI.Framework.Bytes

/-! # Paths of URLs

  The path part of `net/url`: percent-encoding, the two forms a `URL` keeps of its
  path, and the removal of dot segments in `ResolveReference`.  Paths are byte
  sequences, since an escape stands for a byte.

  What `resolvePath` does to a text is said once, in terms of its segments: it walks
  down and up a stack of them (`walk`).  Escaping acts on each segment by itself and
  never makes or breaks a dot segment, so it commutes with the walk.
-/

namespace FlowAI

variable {a path e : Bytes} {segments stack : List Bytes}

/-! ## Section 1: Percent-encoding -/

def slashByte : UInt8 := 47

def percentByte : UInt8 := 37

/-- `shouldEscape` for the path of a URL: letters, digits, marks and the reserved
    characters other than the question mark stand for themselves. -/
def shouldEscapePath (c : UInt8) : Bool :=
  !((97 ≤ c && c ≤ 122) || (65 ≤ c && c ≤ 90) || (48 ≤ c && c ≤ 57) ||
    c ∈ ([45, 95, 46, 126, 36, 38, 43, 44, 47, 58, 59, 61, 64] : List UInt8))

/-- A hexadecimal digit, in capitals. -/
def upperHexDigit (n : Nat) : UInt8 := UInt8.ofNat (if n < 10 then 48 + n else 55 + n)

def escapeByte (c : UInt8) : Bytes :=
  if shouldEscapePath c then [percentByte, upperHexDigit (c.toNat / 16), upperHexDigit (c.toNat % 16)]
  else [c]

def escapePath (s : Bytes) : Bytes := s.flatMap escapeByte

/-- The value of a hexadecimal digit. -/
def hexByteValue (c : UInt8) : Option Nat := hexValue (Char.ofNat c.toNat)

def unescapePath : Bytes → Option Bytes
  | [] => some []
  | c :: rest =>
    if c = percentByte then
      match rest with
      | a :: b :: rest => do
        let high ← hexByteValue a
        let low ← hexByteValue b
        let tail ← unescapePath rest
        return UInt8.ofNat (high * 16 + low) :: tail
      | _ => none
    else (unescapePath rest).map (c :: ·)

/-- `validEncoded`: no character that has to be escaped, apart from those browsers leave. -/
def validEncodedPath (s : Bytes) : Bool :=
  s.all (fun c =>
    c ∈ ([33, 36, 38, 39, 40, 41, 42, 43, 44, 59, 61, 58, 64, 91, 93, 37] : List UInt8) ||
      !shouldEscapePath c)

/-- A byte that starts no escape stands for itself. -/
theorem unescapePath_cons {c : UInt8} (hc : c ≠ percentByte) (rest : Bytes) :
    unescapePath (c :: rest) = (unescapePath rest).map (c :: ·) := by
  conv_lhs => unfold unescapePath
  rw [if_neg hc]

theorem unescapePath_escapeByte (c : UInt8) (rest : Bytes) :
    unescapePath (escapeByte c ++ rest) = (unescapePath rest).map (c :: ·) := by
  have hdigit : ∀ n, n < 16 → hexByteValue (upperHexDigit n) = some n := by decide
  have hpercent : shouldEscapePath percentByte = true := by decide
  unfold escapeByte
  by_cases hc : shouldEscapePath c = true
  · have hhigh := hdigit (c.toNat / 16) (by have := c.toNat_lt; omega)
    have hlow := hdigit (c.toNat % 16) (by omega)
    have hvalue : UInt8.ofNat (c.toNat / 16 * 16 + c.toNat % 16) = c := by
      rw [show c.toNat / 16 * 16 + c.toNat % 16 = c.toNat by omega, UInt8.ofNat_toNat]
    rw [if_pos hc]
    simp only [List.cons_append, List.nil_append, unescapePath, if_true, hhigh, hlow,
      Option.bind_eq_bind, Option.bind_some, hvalue]
    cases unescapePath rest <;> rfl
  · have hne : c ≠ percentByte := by
      rintro rfl
      exact hc hpercent
    rw [if_neg hc, List.singleton_append, unescapePath_cons hne]

@[simp] theorem unescapePath_escapePath (s : Bytes) : unescapePath (escapePath s) = some s := by
  induction s with
  | nil => rfl
  | cons c s ih =>
    show unescapePath (escapeByte c ++ escapePath s) = _
    rw [unescapePath_escapeByte, ih]
    rfl

theorem escapePath_injective : Function.Injective escapePath := by
  intro a b h
  have hread := congrArg unescapePath h
  rw [unescapePath_escapePath, unescapePath_escapePath] at hread
  exact Option.some.inj hread

@[simp] theorem escapePath_append (a b : Bytes) :
    escapePath (a ++ b) = escapePath a ++ escapePath b := List.flatMap_append

@[simp] theorem escapePath_slash (s : Bytes) :
    escapePath (slashByte :: s) = slashByte :: escapePath s := by
  have hslash : escapeByte slashByte = [slashByte] := by decide
  rw [escapePath, List.flatMap_cons, hslash]
  rfl

/-- Decoding goes through a slash. -/
theorem unescapePath_slash {b : Bytes} (h : unescapePath (a ++ slashByte :: b) = some path)
    {a' : Bytes} (ha : unescapePath a = some a') :
    ∃ b', unescapePath b = some b' ∧ path = a' ++ slashByte :: b' := by
  induction a using unescapePath.induct generalizing path a' with
  | case1 =>
    have hne : slashByte ≠ percentByte := by decide
    simp only [unescapePath, Option.some.injEq] at ha
    subst ha
    rw [List.nil_append, unescapePath_cons hne, Option.map_eq_some_iff] at h
    obtain ⟨b', hb, rfl⟩ := h
    exact ⟨b', hb, rfl⟩
  | case2 x y rest ih =>
    simp only [unescapePath, ↓reduceIte, List.cons_append, Option.bind_eq_bind,
      Option.bind_eq_some_iff, Option.pure_def, Option.some.injEq] at ha h
    obtain ⟨high, hhigh, low, hlow, tail, htail, rfl⟩ := ha
    obtain ⟨high', hhigh', low', hlow', tail', htail', rfl⟩ := h
    rw [hhigh] at hhigh'
    rw [hlow] at hlow'
    injection hhigh' with hhigh'
    injection hlow' with hlow'
    subst hhigh' hlow'
    obtain ⟨b', hb, rfl⟩ := ih htail' htail
    exact ⟨b', hb, rfl⟩
  | case3 rest hshort =>
    rw [unescapePath, if_pos rfl] at ha
    · cases ha
    · exact hshort
  | case4 c rest hc ih =>
    rw [unescapePath_cons hc, Option.map_eq_some_iff] at ha
    rw [List.cons_append, unescapePath_cons hc, Option.map_eq_some_iff] at h
    obtain ⟨tail, htail, rfl⟩ := ha
    obtain ⟨tail', htail', rfl⟩ := h
    obtain ⟨b', hb, rfl⟩ := ih htail' htail
    exact ⟨b', hb, rfl⟩

/-! ## Section 2: The path of a URL -/

/-- The decoded path, and the encoded one if it is not the default encoding. -/
structure UrlPath where
  path : Bytes
  rawPath : Bytes
  deriving DecidableEq, Repr

def setPath (p : Bytes) : Option UrlPath := do
  let path ← unescapePath p
  return ⟨path, if p = escapePath path then [] else p⟩

def UrlPath.escapedPath (u : UrlPath) : Bytes :=
  if u.rawPath ≠ [] && validEncodedPath u.rawPath && unescapePath u.rawPath = some u.path then
    u.rawPath
  else if u.path = [42] then [42]
  else escapePath u.path

theorem setPath_escapePath (path : Bytes) : setPath (escapePath path) = some ⟨path, []⟩ := by
  simp [setPath]

theorem escapedPath_decoded (h : path ≠ [42]) :
    (UrlPath.mk path []).escapedPath = escapePath path := by
  simp [UrlPath.escapedPath, h]

theorem escapedPath_cases (u : UrlPath) (h : u.path ≠ [42]) :
    (u.rawPath ≠ [] ∧ u.escapedPath = u.rawPath) ∨ u.escapedPath = escapePath u.path := by
  unfold UrlPath.escapedPath
  split_ifs with hraw
  · simp only [Bool.and_eq_true, decide_eq_true_eq] at hraw
    exact .inl ⟨hraw.1.1, rfl⟩
  · exact .inr rfl

/-- The escaped form of a path always decodes to it. -/
theorem unescapePath_escapedPath (u : UrlPath) : unescapePath u.escapedPath = some u.path := by
  unfold UrlPath.escapedPath
  split
  · rename_i hraw
    simp only [Bool.and_eq_true, decide_eq_true_eq] at hraw
    exact hraw.2
  · split
    · rename_i hstar
      rw [hstar]
      decide
    · exact unescapePath_escapePath u.path

/-! ## Section 3: Segments -/

/-- The segments between the slashes. -/
def splitSlashes (s : Bytes) : List Bytes := s.splitOn slashByte

def joinSlashes (segments : List Bytes) : Bytes := [slashByte].intercalate segments

theorem joinSlashes_splitSlashes (s : Bytes) : joinSlashes (splitSlashes s) = s :=
  List.intercalate_splitOn slashByte

theorem splitSlashes_ne_nil (s : Bytes) : splitSlashes s ≠ [] := by
  intro h
  have hjoin := joinSlashes_splitSlashes s
  rw [h] at hjoin
  subst hjoin
  exact absurd h (by decide)

@[simp] theorem joinSlashes_singleton (e : Bytes) : joinSlashes [e] = e := by
  simp [joinSlashes, List.intercalate]

theorem joinSlashes_cons (e : Bytes) (h : segments ≠ []) :
    joinSlashes (e :: segments) = e ++ slashByte :: joinSlashes segments := by
  cases segments with
  | nil => exact absurd rfl h
  | cons e' segments => simp [joinSlashes, List.intercalate]

theorem joinSlashes_append (h : segments ≠ []) (e : Bytes) :
    joinSlashes (segments ++ [e]) = joinSlashes segments ++ slashByte :: e := by
  induction segments with
  | nil => exact absurd rfl h
  | cons e' segments ih =>
    by_cases hnil : segments = []
    · subst hnil
      simp [joinSlashes_cons]
    · rw [List.cons_append, joinSlashes_cons e' (by simp), ih hnil, joinSlashes_cons e' hnil]
      simp

theorem splitSlashes_append_slash (ha : slashByte ∉ a) (b : Bytes) :
    splitSlashes (a ++ slashByte :: b) = a :: splitSlashes b :=
  List.splitOn_append_cons_self_of_not_mem ha b

theorem splitSlashes_of_not_mem (ha : slashByte ∉ a) : splitSlashes a = [a] :=
  List.splitOn_eq_singleton ha

/-- No segment has a slash. -/
theorem slash_not_mem_splitSlashes {s : Bytes} : ∀ e ∈ splitSlashes s, slashByte ∉ e := by
  induction hlen : s.length using Nat.strong_induction_on generalizing s with
  | _ n ih =>
    by_cases hs : slashByte ∈ s
    · -- cut at the first slash
      obtain ⟨a, b, hcut, ha⟩ := List.eq_append_cons_of_mem hs
      subst hcut
      rw [splitSlashes_append_slash ha]
      intro e he
      rcases List.mem_cons.mp he with rfl | he
      · exact ha
      · refine ih b.length ?_ rfl e he
        rw [← hlen, List.length_append, List.length_cons]
        omega
    · rw [splitSlashes_of_not_mem hs]
      intro e he
      rw [List.mem_singleton] at he
      subst he
      exact hs

theorem slash_mem_escapePath {s : Bytes} : slashByte ∈ escapePath s ↔ slashByte ∈ s := by
  have hbyte : ∀ c : UInt8, slashByte ∈ escapeByte c ↔ c = slashByte := by
    have hdigit : ∀ n, n < 16 → slashByte ≠ upperHexDigit n := by decide
    intro c
    unfold escapeByte
    by_cases hc : shouldEscapePath c = true
    · have hhigh := hdigit (c.toNat / 16) (by have := c.toNat_lt; omega)
      have hlow := hdigit (c.toNat % 16) (by omega)
      have hne : c ≠ slashByte := by
        rintro rfl
        exact absurd hc (by decide)
      have hpercent : slashByte ≠ percentByte := by decide
      simp [hc, hhigh, hlow, hne, hpercent]
    · rw [if_neg hc, List.mem_singleton]
      exact eq_comm
  simp [escapePath, List.mem_flatMap, hbyte]

/-- Escaping acts on each segment by itself. -/
theorem splitSlashes_escapePath (s : Bytes) :
    splitSlashes (escapePath s) = (splitSlashes s).map escapePath := by
  induction hlen : s.length using Nat.strong_induction_on generalizing s with
  | _ n ih =>
    by_cases hs : slashByte ∈ s
    · obtain ⟨a, b, hcut, ha⟩ := List.eq_append_cons_of_mem hs
      subst hcut
      have hb : b.length < n := by
        rw [← hlen, List.length_append, List.length_cons]
        omega
      rw [escapePath_append, escapePath_slash, splitSlashes_append_slash (mt slash_mem_escapePath.mp ha),
        splitSlashes_append_slash ha, List.map_cons, ih b.length hb b rfl]
    · rw [splitSlashes_of_not_mem hs, splitSlashes_of_not_mem (mt slash_mem_escapePath.mp hs)]
      rfl

/-- `.` and `..`. -/
def dot : Bytes := [46]

def dotDot : Bytes := [46, 46]

theorem escapePath_eq_dot : escapePath e = dot ↔ e = dot := by
  have hdot : escapePath dot = dot := by decide
  constructor
  · intro h
    exact escapePath_injective (h.trans hdot.symm)
  · rintro rfl
    exact hdot

theorem escapePath_eq_dotDot : escapePath e = dotDot ↔ e = dotDot := by
  have hdot : escapePath dotDot = dotDot := by decide
  constructor
  · intro h
    exact escapePath_injective (h.trans hdot.symm)
  · rintro rfl
    exact hdot

/-! ## Section 4: `resolvePath` -/

/-- The text before the last slash, if there is one. -/
def beforeLastSlash (s : Bytes) : Option Bytes :=
  if slashByte ∈ s then some (joinSlashes (splitSlashes s).dropLast) else none

/-- One turn of the loop over the segments: the text written so far, which starts with a
    slash, and whether the next segment is the first. -/
def resolveStep (state : Bytes × Bool) (elem : Bytes) : Bytes × Bool :=
  if elem = dot then (state.1, false)
  else if elem = dotDot then
    match beforeLastSlash (state.1.drop 1) with
    | none => ([slashByte], true)
    | some str => (slashByte :: str, state.2)
  else ((if state.2 then state.1 else state.1 ++ [slashByte]) ++ elem, false)

/-- The reference as an absolute path. -/
def fullPath (base ref : Bytes) : Bytes :=
  if ref = [] then base
  else if ref.head? ≠ some slashByte then
    (match beforeLastSlash base with
      | none => []
      | some dir => dir ++ [slashByte]) ++ ref
  else ref

/-- Two slashes at the start become one. -/
def stripSlash : Bytes → Bytes
  | a :: b :: rest => if b = slashByte then b :: rest else a :: b :: rest
  | s => s

/-- Whether a path ends in a dot segment. -/
def endsInDot (segments : List Bytes) : Bool :=
  segments.getLast? = some dot || segments.getLast? = some dotDot

def resolvePath (base ref : Bytes) : Bytes :=
  let full := fullPath base ref
  if full = [] then []
  else
    let elems := splitSlashes full
    let dst := (elems.foldl resolveStep ([slashByte], true)).1
    stripSlash (if endsInDot elems then dst ++ [slashByte] else dst)

/-! ## Section 5: Walking the segments -/

/-- One segment of a walk: `.` stays, `..` goes up, any other segment goes down.  Above the
    first segment there is nothing to go up to. -/
def walkStep (stack : List Bytes) (elem : Bytes) : List Bytes :=
  if elem = dot then (if stack = [] then [[]] else stack)
  else if elem = dotDot then (if stack.length ≤ 1 then [] else stack.dropLast)
  else stack ++ [elem]

def walk (segments : List Bytes) : List Bytes := segments.foldl walkStep []

/-- The state of the loop after a walk. -/
def walkState (stack : List Bytes) : Bytes × Bool :=
  (slashByte :: joinSlashes stack, decide (stack = []))

variable {P : Bytes → Prop}

theorem walkStep_forall (hnil : P []) {elem : Bytes} (hstack : ∀ e ∈ stack, P e)
    (helem : elem ≠ dot → elem ≠ dotDot → P elem) :
    ∀ e ∈ walkStep stack elem, P e := by
  intro e he
  unfold walkStep at he
  split_ifs at he with hdot hempty hdots hshort
  · rw [List.mem_singleton] at he
    exact he ▸ hnil
  · exact hstack e he
  · cases he
  · exact hstack e (List.mem_of_mem_dropLast he)
  · rcases List.mem_append.mp he with he | he
    · exact hstack e he
    · rw [List.mem_singleton] at he
      exact he ▸ helem hdot hdots

/-- What holds of the empty segment and of every segment that goes down holds of the stack. -/
theorem walk_forall (hnil : P [])
    (h : ∀ e ∈ segments, e ≠ dot → e ≠ dotDot → P e) : ∀ e ∈ walk segments, P e := by
  have hfold : ∀ (l stack : List Bytes), (∀ e ∈ l, e ≠ dot → e ≠ dotDot → P e) →
      (∀ e ∈ stack, P e) → ∀ e ∈ l.foldl walkStep stack, P e := by
    intro l
    induction l with
    | nil => intro stack _ hstack; exact hstack
    | cons x l ih =>
      intro stack hl hstack
      rw [List.forall_mem_cons] at hl
      exact ih _ hl.2 (walkStep_forall hnil hstack hl.1)
  exact hfold segments [] h (by simp)

theorem beforeLastSlash_joinSlashes (h : ∀ e ∈ stack, slashByte ∉ e) :
    beforeLastSlash (joinSlashes stack) =
      if stack.length ≤ 1 then none else some (joinSlashes stack.dropLast) := by
  unfold beforeLastSlash
  match stack, h with
  | [], _ => rfl
  | [e], h =>
    have he : slashByte ∉ e := h e (by simp)
    simp [he]
  | e :: e' :: rest, h =>
    have hsplit : splitSlashes (joinSlashes (e :: e' :: rest)) = e :: e' :: rest :=
      List.splitOn_intercalate slashByte h (by simp)
    have hmem : slashByte ∈ joinSlashes (e :: e' :: rest) := by
      rw [joinSlashes_cons e (by simp)]
      simp
    rw [if_pos hmem, hsplit, if_neg (by simp)]

/-- One turn of the loop is one step of the walk. -/
theorem resolveStep_walkState (h : ∀ e ∈ stack, slashByte ∉ e) (elem : Bytes) :
    resolveStep (walkState stack) elem = walkState (walkStep stack elem) := by
  unfold resolveStep walkStep walkState
  by_cases hdot : elem = dot
  · rw [if_pos hdot, if_pos hdot]
    by_cases hnil : stack = []
    · subst hnil
      rfl
    · simp [hnil]
  rw [if_neg hdot, if_neg hdot]
  by_cases hdots : elem = dotDot
  · rw [if_pos hdots, if_pos hdots]
    simp only [List.drop_succ_cons, List.drop_zero, beforeLastSlash_joinSlashes h]
    by_cases hshort : stack.length ≤ 1
    · simp [hshort, joinSlashes, List.intercalate]
    · have hne : stack ≠ [] := by
        rintro rfl
        simp at hshort
      have hdrop : stack.dropLast ≠ [] := by
        intro hnil
        have hlen := congrArg List.length hnil
        rw [List.length_dropLast, List.length_nil] at hlen
        omega
      simp [hshort, hne, hdrop]
  · rw [if_neg hdots, if_neg hdots]
    by_cases hnil : stack = []
    · subst hnil
      simp [joinSlashes, List.intercalate]
    · rw [joinSlashes_append hnil]
      simp [hnil]

theorem foldl_resolveStep (stack : List Bytes) (h : ∀ e ∈ stack, slashByte ∉ e)
    (hsegments : ∀ e ∈ segments, slashByte ∉ e) :
    segments.foldl resolveStep (walkState stack) = walkState (segments.foldl walkStep stack) := by
  induction segments generalizing stack with
  | nil => rfl
  | cons e segments ih =>
    rw [List.forall_mem_cons] at hsegments
    rw [List.foldl_cons, List.foldl_cons, resolveStep_walkState h]
    exact ih _ (walkStep_forall (by simp) h (fun _ _ => hsegments.1)) hsegments.2

/-- The path at the end of a walk over segments. -/
def walkedPath (segments : List Bytes) : Bytes :=
  stripSlash (slashByte :: (joinSlashes (walk segments) ++
    if endsInDot segments then [slashByte] else []))

/-- An absolute reference is resolved by walking its segments. -/
theorem resolvePath_absolute (base : Bytes) (h : path.head? = some slashByte) :
    resolvePath base path = walkedPath (splitSlashes path) := by
  have hne : path ≠ [] := by
    rintro rfl
    simp at h
  have hfold : (splitSlashes path).foldl resolveStep ([slashByte], true) =
      walkState (walk (splitSlashes path)) :=
    foldl_resolveStep [] (by simp) slash_not_mem_splitSlashes
  simp only [resolvePath, fullPath, hne, h, ne_eq, not_true_eq_false, if_false, hfold]
  unfold walkedPath walkState
  by_cases hdot : endsInDot (splitSlashes path) = true
  · simp [hdot]
  · simp [hdot]

/-! ### Escaping commutes with the walk -/

theorem walkStep_escapePath (stack : List Bytes) (elem : Bytes) :
    walkStep (stack.map escapePath) (escapePath elem) = (walkStep stack elem).map escapePath := by
  have hnil : escapePath [] = [] := rfl
  unfold walkStep
  simp only [escapePath_eq_dot, escapePath_eq_dotDot, List.map_eq_nil_iff, List.length_map]
  split_ifs <;> simp [hnil, List.map_dropLast]

theorem walk_escapePath (segments : List Bytes) :
    walk (segments.map escapePath) = (walk segments).map escapePath := by
  have hfold : ∀ stack : List Bytes, (segments.map escapePath).foldl walkStep (stack.map escapePath) =
      (segments.foldl walkStep stack).map escapePath := by
    induction segments with
    | nil => intro stack; rfl
    | cons e segments ih =>
      intro stack
      rw [List.map_cons, List.foldl_cons, List.foldl_cons, walkStep_escapePath]
      exact ih _
  exact hfold []

theorem endsInDot_escapePath (segments : List Bytes) :
    endsInDot (segments.map escapePath) = endsInDot segments := by
  unfold endsInDot
  rw [List.getLast?_map]
  cases segments.getLast? with
  | none => rfl
  | some e => simp [escapePath_eq_dot, escapePath_eq_dotDot]

theorem joinSlashes_escapePath (segments : List Bytes) :
    joinSlashes (segments.map escapePath) = escapePath (joinSlashes segments) := by
  induction segments with
  | nil => rfl
  | cons e segments ih =>
    by_cases hnil : segments = []
    · subst hnil
      simp
    · have hmap : segments.map escapePath ≠ [] := by simpa using hnil
      rw [List.map_cons, joinSlashes_cons _ hmap, joinSlashes_cons _ hnil, ih, escapePath_append,
        escapePath_slash]

theorem stripSlash_escapePath (s : Bytes) :
    stripSlash (slashByte :: escapePath s) = escapePath (stripSlash (slashByte :: s)) := by
  cases s with
  | nil => decide
  | cons c s =>
    by_cases hc : c = slashByte
    · subst hc
      simp [stripSlash]
    · -- the first byte of an escape is no slash
      have hfirst : ∃ d rest, escapeByte c = d :: rest ∧ d ≠ slashByte := by
        unfold escapeByte
        split
        · exact ⟨_, _, rfl, by decide⟩
        · exact ⟨c, [], rfl, hc⟩
      obtain ⟨d, rest, hd, hne⟩ := hfirst
      have hhead : escapePath (c :: s) = d :: (rest ++ escapePath s) := by
        rw [escapePath, List.flatMap_cons, hd]
        rfl
      simp only [stripSlash, hc, if_false, escapePath_slash, hhead, hne]

/-- Resolving an escaped path is escaping the walked one. -/
theorem resolvePath_escapePath (base : Bytes) (h : path.head? = some slashByte) :
    resolvePath base (escapePath path) = escapePath (walkedPath (splitSlashes path)) := by
  have hhead : (escapePath path).head? = some slashByte := by
    cases path with
    | nil => simp at h
    | cons c path =>
      cases h
      simp
  have htail : escapePath (if endsInDot (splitSlashes path) then [slashByte] else []) =
      if endsInDot (splitSlashes path) then [slashByte] else [] := by
    split <;> rfl
  rw [resolvePath_absolute base hhead, splitSlashes_escapePath]
  unfold walkedPath
  rw [walk_escapePath, endsInDot_escapePath, joinSlashes_escapePath, ← stripSlash_escapePath,
    escapePath_append, htail]

/-! ### Below a directory -/

/-- The walk ends below the directory of the name. -/
def endsBelow (name : Bytes) (segments : List Bytes) : Bool :=
  match walk segments with
  | [] => false
  | [] :: e :: rest => e = name && (rest ≠ [] || endsInDot segments)
  | e :: rest => e = name && (rest ≠ [] || endsInDot segments)

/-- A path that starts with a segment, told from the segment and what follows it. -/
theorem prefix_segment {name rest : Bytes} (hname : slashByte ∉ name) (he : slashByte ∉ e)
    (hrest : rest = [] ∨ rest.head? = some slashByte) :
    (name ++ [slashByte]) <+: (e ++ rest) ↔ e = name ∧ rest ≠ [] := by
  constructor
  · rintro ⟨tail, htail⟩
    rw [List.append_assoc, List.singleton_append] at htail
    rcases hrest with rfl | hslash
    · -- the slash would stand inside the segment
      rw [List.append_nil] at htail
      exact absurd (htail ▸ by simp) he
    · cases rest with
      | nil => simp at hslash
      | cons c rest =>
        cases hslash
        obtain ⟨rfl, -⟩ := append_separator_inj hname he htail
        exact ⟨rfl, by simp⟩
  · rintro ⟨rfl, hne⟩
    rcases hrest with rfl | hslash
    · exact absurd rfl hne
    · cases rest with
      | nil => simp at hslash
      | cons c rest =>
        cases hslash
        exact ⟨rest, by simp⟩

/-- The path at the end of a walk starts with the name of a directory exactly when the walk
    ends below it. -/
theorem prefix_walkedPath {name : Bytes} (hname : slashByte ∉ name) (hne : name ≠ [])
    (hsegments : ∀ e ∈ segments, slashByte ∉ e) :
    (slashByte :: (name ++ [slashByte])) <+: walkedPath segments ↔
      endsBelow name segments = true := by
  have hstack : ∀ e ∈ walk segments, slashByte ∉ e :=
    walk_forall (by simp) (fun e he _ _ => hsegments e he)
  unfold walkedPath endsBelow
  generalize walk segments = stack at hstack
  -- what follows the last segment
  generalize htail : (if endsInDot segments then [slashByte] else []) = tail
  have hslash : tail = [] ∨ tail.head? = some slashByte := by
    rw [← htail]
    split
    · exact .inr rfl
    · exact .inl rfl
  have hdot : tail ≠ [] ↔ endsInDot segments = true := by
    by_cases hends : endsInDot segments = true <;> simp [← htail, hends]
  match stack, hstack with
  | [], _ =>
    have hshort : ∀ t : Bytes, t = [] ∨ t = [slashByte] →
        stripSlash (slashByte :: (joinSlashes [] ++ t)) = [slashByte] := by
      rintro t (rfl | rfl) <;> decide
    rw [hshort tail (by rw [← htail]; split <;> simp)]
    simp [hne]
  | [e], hstack =>
    have he : slashByte ∉ e := hstack e (by simp)
    rw [joinSlashes_singleton]
    by_cases hnil : e = []
    · subst hnil
      have hroot : stripSlash (slashByte :: ([] ++ tail)) = [slashByte] := by
        rw [← htail]
        split <;> decide
      rw [hroot]
      simp [hne, Ne.symm hne]
    · have hstrip : stripSlash (slashByte :: (e ++ tail)) = slashByte :: (e ++ tail) := by
        obtain ⟨c, e', rfl⟩ := List.exists_cons_of_ne_nil hnil
        have hc : c ≠ slashByte := fun h => he (by simp [h])
        simp [stripSlash, hc]
      rw [hstrip, List.cons_prefix_cons, and_iff_right rfl, prefix_segment hname he hslash, hdot]
      simp
  | e :: e' :: rest, hstack =>
    have he : slashByte ∉ e := hstack e (by simp)
    have he' : slashByte ∉ e' := hstack e' (by simp)
    rw [joinSlashes_cons e (by simp), List.append_assoc, List.cons_append]
    by_cases hnil : e = []
    · subst hnil
      -- the empty segment in front of an absolute path
      have hstrip : stripSlash (slashByte :: ([] ++ slashByte ::
          (joinSlashes (e' :: rest) ++ tail))) =
          slashByte :: (joinSlashes (e' :: rest) ++ tail) := by
        simp [stripSlash]
      rw [hstrip, List.cons_prefix_cons, and_iff_right rfl]
      by_cases hrest : rest = []
      · subst hrest
        rw [joinSlashes_singleton, prefix_segment hname he' hslash, hdot]
        simp
      · rw [joinSlashes_cons e' hrest, List.append_assoc, prefix_segment hname he' (.inr rfl)]
        simp [hrest]
    · obtain ⟨c, e'', rfl⟩ := List.exists_cons_of_ne_nil hnil
      have hc : c ≠ slashByte := fun h => he (by simp [h])
      have hstrip : stripSlash (slashByte :: (c :: e'' ++ slashByte ::
          (joinSlashes (e' :: rest) ++ tail))) =
          slashByte :: (c :: e'' ++ slashByte :: (joinSlashes (e' :: rest) ++ tail)) := by
        simp [stripSlash, hc]
      rw [hstrip, List.cons_prefix_cons, and_iff_right rfl, prefix_segment hname he (.inr rfl)]
      simp

theorem walk_of_plain (h : ∀ e ∈ segments, e ≠ dot ∧ e ≠ dotDot) :
    walk segments = segments := by
  have hfold : ∀ (l stack : List Bytes), (∀ e ∈ l, e ≠ dot ∧ e ≠ dotDot) →
      l.foldl walkStep stack = stack ++ l := by
    intro l
    induction l with
    | nil => intro stack _; simp
    | cons e l ih =>
      intro stack hl
      rw [List.forall_mem_cons] at hl
      rw [List.foldl_cons, ih _ hl.2, walkStep, if_neg hl.1.1, if_neg hl.1.2]
      simp
  rw [walk, hfold segments [] h, List.nil_append]

/-- The segments of a walked path are empty or come from the stack. -/
theorem exists_segments_walkedPath (segments : List Bytes) :
    ∃ parts, walkedPath segments = joinSlashes parts ∧ parts ≠ [] ∧
      (∀ e ∈ parts, e = [] ∨ e ∈ walk segments) := by
  unfold walkedPath
  generalize walk segments = stack
  -- the stack with an empty segment for the root, and the segment after a slash at the end
  obtain ⟨parts, hjoin, hne, hmem⟩ : ∃ parts, joinSlashes stack ++
      (if endsInDot segments then [slashByte] else []) = joinSlashes parts ∧ parts ≠ [] ∧
      ∀ e ∈ parts, e = [] ∨ e ∈ stack := by
    by_cases hnil : stack = []
    · subst hnil
      split
      · exact ⟨[[], []], by decide, by simp, by simp⟩
      · exact ⟨[[]], by decide, by simp, by simp⟩
    · split
      · refine ⟨stack ++ [[]], ?_, by simp, ?_⟩
        · rw [joinSlashes_append hnil]
        · intro e he
          rw [List.mem_append, List.mem_singleton] at he
          exact he.symm
      · exact ⟨stack, List.append_nil _, hnil, fun e he => .inr he⟩
  rw [hjoin]
  match parts, hne, hmem with
  | [], hne, _ => exact absurd rfl hne
  | [e], _, hmem =>
    rw [joinSlashes_singleton]
    cases e with
    | nil => exact ⟨[[], []], by decide, by simp, by simp⟩
    | cons c e =>
      by_cases hc : c = slashByte
      · subst hc
        exact ⟨[slashByte :: e], by simp [stripSlash], by simp, by simpa using hmem⟩
      · refine ⟨[[], c :: e], ?_, by simp, ?_⟩
        · rw [joinSlashes_cons [] (by simp)]
          simp [stripSlash, hc]
        · simpa using hmem
  | e :: e' :: rest, _, hmem =>
    rw [joinSlashes_cons e (by simp)]
    cases e with
    | nil =>
      refine ⟨[] :: e' :: rest, ?_, by simp, hmem⟩
      rw [joinSlashes_cons [] (by simp)]
      simp [stripSlash]
    | cons c e =>
      by_cases hc : c = slashByte
      · subst hc
        refine ⟨(slashByte :: e) :: e' :: rest, ?_, by simp, hmem⟩
        rw [joinSlashes_cons (slashByte :: e) (by simp)]
        simp [stripSlash]
      · refine ⟨[] :: (c :: e) :: e' :: rest, ?_, by simp, ?_⟩
        · rw [joinSlashes_cons [] (by simp), joinSlashes_cons (c :: e) (by simp)]
          simp [stripSlash, hc]
        · intro x hx
          rcases List.mem_cons.mp hx with rfl | hx
          · exact .inl rfl
          · exact hmem x hx

theorem head?_walkedPath (segments : List Bytes) :
    (walkedPath segments).head? = some slashByte := by
  unfold walkedPath
  generalize joinSlashes (walk segments) ++ (if endsInDot segments then [slashByte] else []) = s
  cases s with
  | nil => rfl
  | cons c s =>
    simp only [stripSlash]
    split_ifs with hc
    · rw [hc]
      rfl
    · rfl

/-- A walked path has no dot segments left. -/
theorem resolvePath_walkedPath (base : Bytes) (h : ∀ e ∈ segments, slashByte ∉ e) :
    resolvePath base (walkedPath segments) = walkedPath segments := by
  obtain ⟨parts, hjoin, hne, hmem⟩ := exists_segments_walkedPath segments
  have hplain : ∀ e ∈ parts, e ≠ dot ∧ e ≠ dotDot := by
    have hstack : ∀ e ∈ walk segments, e ≠ dot ∧ e ≠ dotDot :=
      walk_forall (by decide) (fun _ _ hdot hdots => ⟨hdot, hdots⟩)
    intro e he
    rcases hmem e he with rfl | he
    · decide
    · exact hstack e he
  have hslash : ∀ e ∈ parts, slashByte ∉ e := by
    have hstack : ∀ e ∈ walk segments, slashByte ∉ e :=
      walk_forall (by simp) (fun e he _ _ => h e he)
    intro e he
    rcases hmem e he with rfl | he
    · simp
    · exact hstack e he
  have hsplit : splitSlashes (walkedPath segments) = parts := by
    rw [hjoin]
    exact List.splitOn_intercalate slashByte hslash hne
  have hends : endsInDot parts = false := by
    unfold endsInDot
    cases hlast : parts.getLast? with
    | none => rfl
    | some e =>
      obtain ⟨hdot, hdots⟩ := hplain e (List.mem_of_getLast? hlast)
      simp [hdot, hdots]
  have hhead := head?_walkedPath segments
  rw [resolvePath_absolute base hhead, hsplit]
  unfold walkedPath at hhead ⊢
  rw [walk_of_plain hplain, hends, ← hjoin]
  unfold walkedPath
  generalize stripSlash (slashByte :: (joinSlashes (walk segments) ++
    if endsInDot segments then [slashByte] else [])) = path at hhead
  cases path with
  | nil => simp at hhead
  | cons c path =>
    cases hhead
    simp [stripSlash]

end FlowAI
