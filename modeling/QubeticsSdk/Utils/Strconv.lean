import Mathlib.Data.Nat.Digits
import QubeticsSdk.Basic

/-! # Decimal integers: `strconv.ParseUint`, `strconv.ParseInt`, `strconv.Itoa`

    The SDK reads decimal text with package `strconv` of Go's standard
    library: the transfer counters `wg show` prints (`ParseInt(s, 10,
    64)`), the pid the V2Ray server and client keep in their pid file
    (written with `Itoa`, read with `ParseInt(s, 10, 32)`), and the id of
    a new session in the events of its transaction (`ParseUint(s, 10,
    64)`). The module models these for base 10 and a bit size from 1 to
    64, which is every call the SDK makes.

    `ParseUint` walks the bytes of its input, the value so far in `n`: a
    byte that is not a digit is a syntax error, and a digit that takes
    `n` past `2^bitSize - 1` is a range error, whichever comes first.
    `ParseInt` picks off one sign, parses the rest with `ParseUint`, and
    checks the signed range. An error is a `*NumError`, whose text quotes
    the input (`strconv.Quote`).

    Results: `ParseUint` is the loop-free reading of its input
    (`ParseUint_eq`: the value of a non-empty digit string that fits, a
    range error when the digits before the first non-digit already
    overflow, a syntax error otherwise), and `ParseInt` reads back every
    integer `Itoa` writes, failing with a range error exactly when it does
    not fit (`ParseInt_Itoa`).
-/

namespace Qubetics.Strconv

/-! ## Section 1: Errors -/

/-- `strconv.ErrSyntax`. -/
def ErrSyntax : Error := .new "invalid syntax"

/-- `strconv.ErrRange`. -/
def ErrRange : Error := .new "value out of range"

/-- `appendEscapedRune` of `strconv.Quote` for the rune `r`: `"` and `\`
    are backslashed, a printable rune is copied, the control characters
    with a short escape get it, and the other ASCII ones `\xhh`. The model
    takes every rune outside ASCII as printable. -/
def escapeRune (r : Char) : List Char :=
  if r.toNat = 34 ∨ r.toNat = 92 then [Char.ofNat 92, r]
  else if 0x20 ≤ r.toNat ∧ r.toNat < 0x7f ∨ 0x80 ≤ r.toNat then [r]
  else if r.toNat = 7 then [Char.ofNat 92, 'a']
  else if r.toNat = 8 then [Char.ofNat 92, 'b']
  else if r.toNat = 12 then [Char.ofNat 92, 'f']
  else if r.toNat = 10 then [Char.ofNat 92, 'n']
  else if r.toNat = 13 then [Char.ofNat 92, 'r']
  else if r.toNat = 9 then [Char.ofNat 92, 't']
  else if r.toNat = 11 then [Char.ofNat 92, 'v']
  else [Char.ofNat 92, 'x', Nat.digitChar (r.toNat / 16), Nat.digitChar (r.toNat % 16)]

/-- `strconv.Quote(s)`. -/
def Quote (s : String) : String := ⟨Char.ofNat 34 :: s.toList.flatMap escapeRune ++ [Char.ofNat 34]⟩

/-- `*strconv.NumError`: the function, its input, and the cause. -/
structure NumError where
  Func : String
  Num : String
  Err : Error
  deriving DecidableEq, Repr

/-- The `NumError` as an `error`: its text is
    `"strconv." + e.Func + ": " + "parsing " + Quote(e.Num) + ": " + e.Err.Error()`,
    and it unwraps to `e.Err`. -/
def NumError.toError (e : NumError) : Error :=
  .wrap ("strconv." ++ e.Func ++ ": " ++ "parsing " ++ Quote e.Num ++ ": ") e.Err ""

/-! ## Section 2: Parsing -/

/-- `maxUint64/10 + 1`, `ParseUint`'s `cutoff` for base 10. -/
def cutoff10 : Nat := (2 ^ 64 - 1) / 10 + 1

/-- The loop of `ParseUint` over the bytes of its input, base 10, from the
    value `n` of the bytes before; `maxVal` is `1<<bitSize - 1`. A byte
    that is not a digit is `ErrSyntax`; a digit is `ErrRange` when
    `n >= cutoff` or when `n*10 + d` overflows (`n1 < n || n1 > maxVal`,
    one test on `Nat`). A rune outside ASCII is several bytes, the first
    of them a syntax error, as is the rune here. -/
def parseDigits (maxVal : Nat) (n : Nat) : List Char → Except Error Nat
  | [] => .ok n
  | c :: cs =>
    if c.isDigit then
      if n ≥ cutoff10 then .error ErrRange
      else if n * 10 + (c.toNat - 48) > maxVal then .error ErrRange
      else parseDigits maxVal (n * 10 + (c.toNat - 48)) cs
    else .error ErrSyntax

/-- `strconv.ParseUint(s, 10, bitSize)`; the value returned beside an
    error is left out. -/
def ParseUint (s : String) (bitSize : Nat) : Except NumError Nat :=
  if s = "" then .error ⟨"ParseUint", s, ErrSyntax⟩
  else match parseDigits (2 ^ bitSize - 1) 0 s.toList with
    | .ok n => .ok n
    | .error err => .error ⟨"ParseUint", s, err⟩

/-- The sign `ParseInt` picks off: negative or not, and the rest. -/
def pickSign : List Char → Bool × List Char
  | '+' :: cs => (false, cs)
  | '-' :: cs => (true, cs)
  | cs => (false, cs)

/-- `ParseInt`'s reading of `ParseUint`'s answer: a range error goes on as
    the value `maxVal` it returns; any other error is renamed to
    `ParseInt` of the whole input `s0`. -/
def unsignedOf (s0 : String) (bitSize : Nat) : Except NumError Nat → Except NumError Nat
  | .ok un => .ok un
  | .error e => if e.Err = ErrRange then .ok (2 ^ bitSize - 1) else .error { e with Func := "ParseInt", Num := s0 }

/-- `strconv.ParseInt(s, 10, bitSize)`; the value returned beside an error
    is left out. -/
def ParseInt (s : String) (bitSize : Nat) : Except NumError Int :=
  if s = "" then .error ⟨"ParseInt", s, ErrSyntax⟩
  else
    match pickSign s.toList with
    | (neg, rest) =>
      (unsignedOf s bitSize (ParseUint ⟨rest⟩ bitSize)).bind fun un =>
        if !neg ∧ un ≥ 2 ^ (bitSize - 1) then .error ⟨"ParseInt", s, ErrRange⟩
        else if neg ∧ un > 2 ^ (bitSize - 1) then .error ⟨"ParseInt", s, ErrRange⟩
        else .ok (if neg then -(un : Int) else un)

/-- `strconv.Itoa(i)`: the decimal digits of `i`, after `-` when it is
    negative. -/
def Itoa (i : Int) : String := toString i

/-! ## Section 3: The digits -/

/-- The value of the digits `cs` written after the value `n`. -/
def digitsValue (n : Nat) (cs : List Char) : Nat := cs.foldl (fun n c => n * 10 + (c.toNat - 48)) n

@[simp] theorem digitsValue_nil (n : Nat) : digitsValue n [] = n := rfl

@[simp] theorem digitsValue_cons (n : Nat) (c : Char) (cs : List Char) :
    digitsValue n (c :: cs) = digitsValue (n * 10 + (c.toNat - 48)) cs := rfl

theorem le_digitsValue (n : Nat) (cs : List Char) : n ≤ digitsValue n cs := by
  induction cs generalizing n with
  | nil => exact le_refl n
  | cons c cs ih => exact (Nat.le_mul_of_pos_right n (by omega)).trans ((Nat.le_add_right _ _).trans (ih _))

/-- **The loop, without its early exits.** From a value `n` that fits,
    the loop is a range error when the digits before the first non-digit
    overflow, the value of the digits when all are digits, and a syntax
    error otherwise. -/
theorem parseDigits_eq {maxVal n : Nat} (hmax : maxVal < 2 ^ 64) (hn : n ≤ maxVal) (cs : List Char) :
    parseDigits maxVal n cs =
      if digitsValue n (cs.takeWhile Char.isDigit) > maxVal then .error ErrRange
      else if cs.all Char.isDigit then .ok (digitsValue n cs)
      else .error ErrSyntax := by
  induction cs generalizing n with
  | nil => simp [parseDigits, Nat.not_lt.mpr hn]
  | cons c cs ih =>
    by_cases hc : c.isDigit = true
    · have hover : n ≥ cutoff10 → n * 10 + (c.toNat - 48) > maxVal := by
        simp only [cutoff10]; omega
      have hge := le_digitsValue (n * 10 + (c.toNat - 48)) (cs.takeWhile Char.isDigit)
      simp only [parseDigits, hc, if_true, List.takeWhile_cons, digitsValue_cons, List.all_cons,
        Bool.true_and]
      by_cases hm : n * 10 + (c.toNat - 48) > maxVal
      · rw [if_pos (by omega : digitsValue (n * 10 + (c.toNat - 48)) (cs.takeWhile Char.isDigit) > maxVal)]
        by_cases hcut : n ≥ cutoff10
        · rw [if_pos hcut]
        · rw [if_neg hcut, if_pos hm]
      · rw [if_neg (fun h => hm (hover h)), if_neg hm, ih (Nat.le_of_not_lt hm)]
    · simp [parseDigits, hc, Nat.not_lt.mpr hn]

/-- **`ParseUint` reads its input whole.** For a bit size up to 64, the
    input is rejected when it is empty or holds a non-digit (a syntax
    error), or when the digits before the first non-digit already exceed
    `2^bitSize - 1` (a range error, even if a non-digit comes after);
    otherwise it is the value of its digits. Every error names
    `ParseUint` and the whole input. -/
theorem ParseUint_eq (s : String) {b : Nat} (hb : b ≤ 64) :
    ParseUint s b =
      if s = "" then .error ⟨"ParseUint", s, ErrSyntax⟩
      else if digitsValue 0 (s.toList.takeWhile Char.isDigit) > 2 ^ b - 1 then
        .error ⟨"ParseUint", s, ErrRange⟩
      else if s.toList.all Char.isDigit then .ok (digitsValue 0 s.toList)
      else .error ⟨"ParseUint", s, ErrSyntax⟩ := by
  have hmax : 2 ^ b - 1 < 2 ^ 64 := by
    have := Nat.pow_le_pow_right (n := 2) (by omega) hb
    omega
  unfold ParseUint
  split
  · rfl
  · rw [parseDigits_eq hmax (Nat.zero_le _)]
    by_cases h1 : digitsValue 0 (s.toList.takeWhile Char.isDigit) > 2 ^ b - 1
    · simp only [if_pos h1]
    · by_cases h2 : s.toList.all Char.isDigit = true
      · simp only [if_neg h1, if_pos h2]
      · simp only [if_neg h1, if_neg h2]

/-- What `ParseUint` accepts is a non-empty string of digits, whose value
    fits in the bit size. -/
theorem ParseUint_eq_ok {s : String} {b v : Nat} (hb : b ≤ 64) (h : ParseUint s b = .ok v) :
    s.toList ≠ [] ∧ (∀ c ∈ s.toList, c.isDigit = true) ∧ digitsValue 0 s.toList = v ∧ v < 2 ^ b := by
  rw [ParseUint_eq s hb] at h
  split_ifs at h with hempty hrange hall
  cases h
  have hdig := List.all_eq_true.mp hall
  rw [List.takeWhile_eq_self_iff.mpr hdig] at hrange
  have hpos := Nat.one_le_two_pow (n := b)
  exact ⟨fun hnil => hempty (String.ext hnil), hdig, rfl, by omega⟩

/-- What `ParseInt` accepts is within the signed range of its bit size. -/
theorem ParseInt_range {s : String} {b : Nat} {v : Int} (h : ParseInt s b = .ok v) :
    -(2 ^ (b - 1) : Int) ≤ v ∧ v < 2 ^ (b - 1) := by
  have hcast : (2 : Int) ^ (b - 1) = ((2 ^ (b - 1) : Nat) : Int) := by push_cast; rfl
  rw [hcast]
  unfold ParseInt at h
  split at h
  · cases h
  · split at h
    rename_i neg rest _
    rcases hu : unsignedOf s b (ParseUint ⟨rest⟩ b) with e | un
    · rw [hu] at h
      cases h
    · rw [hu] at h
      have hK : 1 ≤ 2 ^ (b - 1) := Nat.one_le_two_pow
      generalize 2 ^ (b - 1) = K at h hK ⊢
      cases neg <;>
        simp only [Except.bind, Bool.not_false, Bool.not_true, Bool.false_eq_true, true_and,
          false_and, if_false] at h <;>
        split_ifs at h with h1 <;> cases h <;> omega

/-! ## Section 4: Reading back what `Itoa` writes -/

theorem digitChar_toNat : ∀ {d : Nat}, d < 10 → (Nat.digitChar d).toNat = 48 + d := by
  decide

theorem digitChar_isDigit : ∀ {d : Nat}, d < 10 → (Nat.digitChar d).isDigit = true := by
  decide

theorem digitsValue_append (n : Nat) (xs ys : List Char) :
    digitsValue n (xs ++ ys) = digitsValue (digitsValue n xs) ys :=
  List.foldl_append _ _ _ _

/-- What `Nat.toDigits` puts before `ds`, given the fuel it needs: a
    non-empty run of digits whose value is `n`. -/
theorem toDigitsCore_spec (fuel n : Nat) (ds : List Char) (hfuel : n < fuel) :
    ∃ pre, Nat.toDigitsCore 10 fuel n ds = pre ++ ds ∧ pre ≠ [] ∧
      (∀ c ∈ pre, c.isDigit = true) ∧ digitsValue 0 pre = n := by
  induction fuel generalizing n ds with
  | zero => omega
  | succ fuel ih =>
    have hd : (Nat.digitChar (n % 10)).toNat = 48 + n % 10 := digitChar_toNat (Nat.mod_lt _ (by omega))
    have hdig : (Nat.digitChar (n % 10)).isDigit = true := digitChar_isDigit (Nat.mod_lt _ (by omega))
    by_cases h0 : n / 10 = 0
    · refine ⟨[Nat.digitChar (n % 10)], by simp [Nat.toDigitsCore, h0], List.cons_ne_nil _ _,
        by simp [hdig], ?_⟩
      simp only [digitsValue_cons, digitsValue_nil, hd]
      omega
    · obtain ⟨pre, hcore, hne, hall, hval⟩ := ih (n / 10) (Nat.digitChar (n % 10) :: ds) (by omega)
      refine ⟨pre ++ [Nat.digitChar (n % 10)], ?_, by simp, ?_, ?_⟩
      · simp [Nat.toDigitsCore, h0, hcore]
      · intro c hc
        rcases List.mem_append.mp hc with hc | hc
        · exact hall c hc
        · rw [List.mem_singleton.mp hc]; exact hdig
      · rw [digitsValue_append, hval, digitsValue_cons, digitsValue_nil, hd]
        omega

/-- `Nat.toDigits 10 n`, the text of `n`: a non-empty run of digits whose
    value is `n`. -/
theorem toDigits_spec (n : Nat) :
    Nat.toDigits 10 n ≠ [] ∧ (∀ c ∈ Nat.toDigits 10 n, c.isDigit = true) ∧
      digitsValue 0 (Nat.toDigits 10 n) = n := by
  obtain ⟨pre, hcore, hne, hall, hval⟩ := toDigitsCore_spec (n + 1) n [] (by omega)
  rw [List.append_nil] at hcore
  simp only [Nat.toDigits, hcore]
  exact ⟨hne, hall, hval⟩

/-- `ParseUint` of the text of `n`. -/
theorem ParseUint_toDigits (n : Nat) {b : Nat} (hb : b ≤ 64) :
    ParseUint ⟨Nat.toDigits 10 n⟩ b =
      if n > 2 ^ b - 1 then .error ⟨"ParseUint", ⟨Nat.toDigits 10 n⟩, ErrRange⟩ else .ok n := by
  obtain ⟨hne, hall, hval⟩ := toDigits_spec n
  have hwhile : (Nat.toDigits 10 n).takeWhile Char.isDigit = Nat.toDigits 10 n :=
    List.takeWhile_eq_self_iff.mpr hall
  have hstr : (⟨Nat.toDigits 10 n⟩ : String) ≠ "" := fun h => hne (congrArg String.data h)
  rw [ParseUint_eq _ hb, if_neg hstr]
  simp only [String.toList, hwhile, hval, List.all_eq_true.mpr hall, if_true]

theorem pickSign_of_isDigit {c : Char} (h : c.isDigit = true) (cs : List Char) :
    pickSign (c :: cs) = (false, c :: cs) := by
  have h1 : c ≠ '+' := by rintro rfl; exact absurd h (by decide)
  have h2 : c ≠ '-' := by rintro rfl; exact absurd h (by decide)
  simp [pickSign, h1, h2]

/-- **`ParseInt` reads back `Itoa`.** For a bit size from 2 to 64, the
    text `Itoa` writes for `v` parses back to `v` when `v` is in
    `[-2^(bitSize-1), 2^(bitSize-1))`, and is a range error naming
    `ParseInt` and the text otherwise. -/
theorem ParseInt_Itoa (v : Int) {b : Nat} (hb2 : 2 ≤ b) (hb : b ≤ 64) :
    ParseInt (Itoa v) b =
      if -(2 ^ (b - 1) : Int) ≤ v ∧ v < 2 ^ (b - 1) then .ok v
      else .error ⟨"ParseInt", Itoa v, ErrRange⟩ := by
  have hpow : 2 ^ b = 2 * 2 ^ (b - 1) := by rw [← Nat.pow_succ']; congr 1; omega
  have htwo : 2 ≤ 2 ^ (b - 1) := Nat.pow_le_pow_right (n := 2) (by omega) (by omega : 1 ≤ b - 1)
  have hcast : (2 : Int) ^ (b - 1) = ((2 ^ (b - 1) : Nat) : Int) := by push_cast; rfl
  cases v with
  | ofNat m =>
    obtain ⟨hne, hall, -⟩ := toDigits_spec m
    obtain ⟨c, cs, hcs⟩ := List.exists_cons_of_ne_nil hne
    have hc : c.isDigit = true := hall c (hcs ▸ List.mem_cons_self c cs)
    have hitoa : Itoa (Int.ofNat m) = ⟨Nat.toDigits 10 m⟩ := rfl
    have hstr : (⟨Nat.toDigits 10 m⟩ : String) ≠ "" := fun h => hne (congrArg String.data h)
    rw [hitoa, ParseInt, if_neg hstr]
    simp only [String.toList, hcs, pickSign_of_isDigit hc]
    rw [← hcs, ParseUint_toDigits m hb, hcast]
    generalize 2 ^ (b - 1) = K at htwo hpow ⊢
    by_cases hm : m > 2 * K - 1 <;>
      simp only [hm, hpow, if_true, if_false, unsignedOf, ErrRange, Except.bind, Bool.not_false,
        Bool.false_eq_true, true_and, false_and, Int.ofNat_eq_coe] <;>
      split_ifs <;> first | rfl | omega
  | negSucc m =>
    have hitoa : Itoa (Int.negSucc m) = ⟨'-' :: Nat.toDigits 10 (m + 1)⟩ := rfl
    have hv : Int.negSucc m = -((m + 1 : Nat) : Int) := rfl
    rw [hitoa, ParseInt, if_neg (by simp [String.ext_iff])]
    simp only [String.toList, pickSign, ParseUint_toDigits (m + 1) hb]
    rw [hcast, hv]
    generalize 2 ^ (b - 1) = K at htwo hpow ⊢
    by_cases hm : m + 1 > 2 * K - 1 <;>
      simp only [hm, hpow, if_true, if_false, unsignedOf, ErrRange, Except.bind, Bool.not_true,
        Bool.false_eq_true, true_and, false_and] <;>
      split_ifs <;> first | rfl | omega

end Qubetics.Strconv
