import QubeticsSdk.Utils.Json

/-! # `time.ParseDuration`

    Go's duration parser, which every duration of the SDK's configuration
    goes through. A duration is a sign and one or more segments
    `[0-9]*(\.[0-9]*)?unit`, each converted to nanoseconds and added up;
    the sum may reach `2^63` only for a negative duration. The fraction of a
    segment is scaled with `float64` arithmetic, as in Go. Errors quote the
    input as `time.quote` does.

    Results: the loop over the segments ends, each segment consuming at
    least its unit (`segment_length`); every duration it accepts lies in
    Go's `int64` range (`ParseDuration_bounds`); and an unsigned duration of
    one segment is that segment's value (`ParseDuration_of_segment`).
-/

namespace Qubetics.Time

/-! ## Section 1: Errors -/

/-- `time.quote(s)`: non-ASCII and control characters as `\xHH` per UTF-8
    byte, `"` and `\` escaped. -/
def quoteChar (c : Char) : String :=
  if 128 ≤ c.toNat ∨ c.toNat < 32 then
    String.join ((String.utf8EncodeChar c).map fun b =>
      "\\x" ++ (Json.hexDigit (b.toNat / 16)).toString ++ (Json.hexDigit (b.toNat % 16)).toString)
  else if c = '"' ∨ c = '\\' then "\\" ++ c.toString
  else c.toString

/-- `time.quote(s)`. -/
def quote (s : String) : String := "\"" ++ String.join (s.data.map quoteChar) ++ "\""

/-- `time: invalid duration "orig"`. -/
def errInvalid (orig : String) : Error := .new ("time: invalid duration " ++ quote orig)

/-! ## Section 2: Digits and units -/

/-- An ASCII digit. -/
def isDigit (c : Char) : Bool := '0' ≤ c && c ≤ '9'

/-- `leadingInt(s)` from the accumulated `x`: the value of the leading
    digits and what follows them, `none` on overflow past `2^63`. -/
def leadingInt (x : Nat) : List Char → Option (Nat × List Char)
  | [] => some (x, [])
  | c :: cs =>
    if isDigit c then
      if x > 2 ^ 63 / 10 then none
      else if x * 10 + (c.toNat - 48) > 2 ^ 63 then none
      else leadingInt (x * 10 + (c.toNat - 48)) cs
    else some (x, c :: cs)

/-- `leadingFraction(s)` from the accumulated `x`, `scale` and `overflow`:
    digits past the precision are consumed and dropped. -/
def leadingFraction (x : Nat) (scale : Float) (overflow : Bool) :
    List Char → Nat × Float × List Char
  | [] => (x, scale, [])
  | c :: cs =>
    if isDigit c then
      if overflow then leadingFraction x scale true cs
      else if x > (2 ^ 63 - 1) / 10 then leadingFraction x scale true cs
      else if x * 10 + (c.toNat - 48) > 2 ^ 63 then leadingFraction x scale true cs
      else leadingFraction (x * 10 + (c.toNat - 48)) (scale * 10) false cs
    else (x, scale, c :: cs)

/-- `unitMap`: nanoseconds per unit. -/
def unitMap : List Char → Option Nat
  | ['n', 's'] => some 1
  | ['u', 's'] => some 1000
  | ['µ', 's'] => some 1000
  | ['μ', 's'] => some 1000
  | ['m', 's'] => some 1000000
  | ['s'] => some 1000000000
  | ['m'] => some 60000000000
  | ['h'] => some 3600000000000
  | _ => none

/-- A character that ends a unit. -/
def endsUnit (c : Char) : Bool := c = '.' || isDigit c

/-- The optional `.[0-9]*` of a segment: the fraction's digits `f`, its
    `scale`, what follows, and whether it had digits (`post`). -/
structure Fraction where
  f : Nat
  scale : Float
  rest : List Char
  post : Bool

/-- Consume `(\.[0-9]*)?`. -/
def fraction : List Char → Fraction
  | '.' :: s =>
    let r := leadingFraction 0 1 false s
    ⟨r.1, r.2.1, r.2.2, r.2.2.length != s.length⟩
  | s => ⟨0, 1, s, false⟩

/-! ## Section 3: The parser -/

/-- One turn of `ParseDuration`'s loop on a non-empty rest `s`: the
    segment's nanoseconds and what follows it. -/
def segment (orig : String) (s : List Char) : Except Error (Nat × List Char) :=
  match s with
  | [] => .error (errInvalid orig)
  | c :: _ =>
    if !endsUnit c then .error (errInvalid orig)
    else
      match leadingInt 0 s with
      | none => .error (errInvalid orig)
      | some (v, s1) =>
        let pre := s1.length != s.length
        let fr := fraction s1
        if !pre && !fr.post then .error (errInvalid orig)
        else
          let u := fr.rest.takeWhile (!endsUnit ·)
          if u = [] then .error (.new ("time: missing unit in duration " ++ quote orig))
          else
            match unitMap u with
            | none =>
              .error (.new ("time: unknown unit " ++ quote ⟨u⟩ ++ " in duration " ++ quote orig))
            | some unit =>
              if v > 2 ^ 63 / unit then .error (errInvalid orig)
              else if fr.f > 0 then
                let v := v * unit + (Float.ofNat fr.f * (Float.ofNat unit / fr.scale)).toUInt64.toNat
                if v > 2 ^ 63 then .error (errInvalid orig)
                else .ok (v, fr.rest.dropWhile (!endsUnit ·))
              else .ok (v * unit, fr.rest.dropWhile (!endsUnit ·))

theorem leadingInt_length : ∀ (x : Nat) (s : List Char) {v : Nat} {r : List Char},
    leadingInt x s = some (v, r) → r.length ≤ s.length
  | _, [], _, _, h => by simp [leadingInt] at h; simp [h.2]
  | x, c :: cs, _, _, h => by
    rw [leadingInt] at h
    split at h
    · split at h
      · cases h
      · split at h
        · cases h
        · exact Nat.le_succ_of_le (leadingInt_length _ cs h)
    · cases h; exact le_refl _

theorem leadingFraction_length : ∀ (x : Nat) (scale : Float) (overflow : Bool) (s : List Char),
    (leadingFraction x scale overflow s).2.2.length ≤ s.length
  | _, _, _, [] => le_refl _
  | x, scale, overflow, c :: cs => by
    rw [leadingFraction]
    split
    · -- every digit is consumed, kept or dropped
      repeat' split
      all_goals exact Nat.le_succ_of_le (leadingFraction_length _ _ _ cs)
    · exact le_refl _

theorem fraction_length (s : List Char) : (fraction s).rest.length ≤ s.length := by
  unfold fraction
  split
  · exact Nat.le_succ_of_le (leadingFraction_length _ _ _ _)
  · exact le_refl _

/-- **A segment consumes input**: at least its unit. -/
theorem segment_length {orig : String} {s : List Char} {v : Nat} {rest : List Char}
    (h : segment orig s = .ok (v, rest)) : rest.length < s.length := by
  rcases s with _ | ⟨c, cs⟩
  · cases h
  unfold segment at h
  dsimp only at h
  by_cases hc : (!endsUnit c) = true
  · rw [if_pos hc] at h; cases h
  rw [if_neg hc] at h
  rcases hint : leadingInt 0 (c :: cs) with _ | ⟨v0, s1⟩ <;> rw [hint] at h
  · cases h
  dsimp only at h
  by_cases hpre : (!(s1.length != (c :: cs).length) && !(fraction s1).post) = true
  · rw [if_pos hpre] at h; cases h
  rw [if_neg hpre] at h
  by_cases hu : (fraction s1).rest.takeWhile (!endsUnit ·) = []
  · rw [if_pos hu] at h; cases h
  rw [if_neg hu] at h
  -- the guards left fail, or return the rest after the unit
  have hrest : rest = (fraction s1).rest.dropWhile (!endsUnit ·) := by
    split at h
    · cases h
    · split at h
      · cases h
      · split at h
        · split at h
          · cases h
          · cases h; rfl
        · cases h; rfl
  have hsplit := congrArg List.length
    (List.takeWhile_append_dropWhile (p := (!endsUnit ·)) (fraction s1).rest)
  rw [List.length_append, ← hrest] at hsplit
  have hfr := (fraction_length s1).trans (leadingInt_length 0 _ hint)
  have hpos := List.length_pos.2 hu
  omega

/-- The loop of `ParseDuration` over the segments, from the sum `d`. -/
def parseSegments (orig : String) (d : Nat) : List Char → Except Error Nat
  | [] => .ok d
  | c :: cs =>
    match h : segment orig (c :: cs) with
    | .error err => .error err
    | .ok (v, rest) =>
      if d + v > 2 ^ 63 then .error (errInvalid orig)
      else parseSegments orig (d + v) rest
termination_by s => s.length
decreasing_by exact segment_length h

/-- Consume `[-+]?`: whether the duration is negative, and the rest. -/
def consumeSign : List Char → Bool × List Char
  | '-' :: rest => (true, rest)
  | '+' :: rest => (false, rest)
  | cs => (false, cs)

/-- `time.ParseDuration(s)`, in nanoseconds. -/
def ParseDuration (s : String) : Except Error Duration :=
  let (neg, body) := consumeSign s.data
  if body = ['0'] then .ok 0
  else if body = [] then .error (errInvalid s)
  else
    match parseSegments s 0 body with
    | .error err => .error err
    | .ok d =>
      if neg then .ok (-(d : Int))
      else if d > 2 ^ 63 - 1 then .error (errInvalid s)
      else .ok d

/-! ## Section 4: What the parser returns -/

section Loop

variable {orig : String} {d : Nat}

@[simp] theorem parseSegments_nil : parseSegments orig d [] = .ok d := by
  rw [parseSegments]

theorem parseSegments_cons {c : Char} {cs : List Char} {v : Nat} {rest : List Char}
    (h : segment orig (c :: cs) = .ok (v, rest)) :
    parseSegments orig d (c :: cs) =
      if d + v > 2 ^ 63 then .error (errInvalid orig) else parseSegments orig (d + v) rest := by
  rw [parseSegments]
  split <;> simp_all

theorem parseSegments_cons_error {c : Char} {cs : List Char} {err : Error}
    (h : segment orig (c :: cs) = .error err) : parseSegments orig d (c :: cs) = .error err := by
  rw [parseSegments]
  split <;> simp_all

/-- The sum of the segments never passes `2^63`. -/
theorem parseSegments_le : ∀ {d : Nat} (s : List Char) {r : Nat}, d ≤ 2 ^ 63 →
    parseSegments orig d s = .ok r → r ≤ 2 ^ 63
  | _, [], _, hd, h => by rw [parseSegments_nil] at h; cases h; exact hd
  | d, c :: cs, _, _, h => by
    cases hs : segment orig (c :: cs) with
    | error err => rw [parseSegments_cons_error hs] at h; cases h
    | ok p =>
      obtain ⟨v, rest⟩ := p
      rw [parseSegments_cons hs] at h
      split at h
      · cases h
      · exact parseSegments_le rest (by omega) h
termination_by _ s => s.length
decreasing_by exact segment_length hs

end Loop

/-- **Every duration `ParseDuration` accepts is an `int64`.** -/
theorem ParseDuration_bounds {s : String} {d : Int} (h : ParseDuration s = .ok d) :
    -2 ^ 63 ≤ d ∧ d < 2 ^ 63 := by
  unfold ParseDuration at h
  generalize consumeSign s.data = sb at h
  obtain ⟨neg, body⟩ := sb
  dsimp only at h
  by_cases h0 : body = ['0']
  · rw [if_pos h0] at h
    cases h
    decide
  rw [if_neg h0] at h
  by_cases he : body = []
  · rw [if_pos he] at h
    cases h
  rw [if_neg he] at h
  cases hp : parseSegments s 0 body with
  | error err => rw [hp] at h; cases h
  | ok n =>
    have hle : (n : Int) ≤ 2 ^ 63 := by exact_mod_cast parseSegments_le _ (Nat.zero_le _) hp
    rw [hp] at h
    dsimp only at h
    split_ifs at h <;> cases h <;> constructor <;> omega

theorem consumeSign_of_ne {c : Char} {cs : List Char} (hm : c ≠ '-') (hp : c ≠ '+') :
    consumeSign (c :: cs) = (false, c :: cs) := by
  unfold consumeSign
  split <;> simp_all

/-- **An unsigned duration of one segment is that segment's value.** -/
theorem ParseDuration_of_segment {s : String} {c : Char} {cs : List Char} {v : Nat}
    (hs : s.data = c :: cs) (hm : c ≠ '-') (hp : c ≠ '+') (h0 : s.data ≠ ['0'])
    (hseg : segment s s.data = .ok (v, [])) (hv : v < 2 ^ 63) : ParseDuration s = .ok v := by
  rw [hs] at h0 hseg
  have hpar : parseSegments s 0 (c :: cs) = .ok v := by
    rw [parseSegments_cons hseg, if_neg (by omega), Nat.zero_add, parseSegments_nil]
  unfold ParseDuration
  rw [hs, consumeSign_of_ne hm hp]
  dsimp only
  rw [if_neg h0, if_neg (List.cons_ne_nil c cs), hpar]
  dsimp only
  rw [if_neg Bool.false_ne_true, if_neg (by omega)]

end Qubetics.Time
