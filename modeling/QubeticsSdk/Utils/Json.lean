import QubeticsSdk.Basic

/-! # `encoding/json` on Go strings

    `json.Marshal` of a Go string and `json.Unmarshal` into one, as the
    WireGuard keys use them (`Key.MarshalJSON`, `Key.UnmarshalJSON`).

    Marshalling quotes the string and escapes it as `appendString` does
    with `escapeHTML` on: `\"` and `\\`, the named escapes `\b \f \n \r \t`,
    `\u00XX` for the other control characters and for `<`, `>` and `&`,
    and `\u2028`, `\u2029` for the two line separators. Unmarshalling reads
    one JSON value between JSON whitespace: a string literal, with every
    escape `unquote` knows (surrogate pairs included, a lone surrogate read
    as U+FFFD), or `null`, which leaves the Go string as it was. JSON text
    is a list of characters, its UTF-8 bytes decoded.

    Every other input is an error. `encoding/json` then reports a syntax
    error naming the offending character, or a type error naming the JSON
    type; no modelled caller reads those texts, and the model gives all of
    them one error, `errNotString`.

    Result: unmarshalling what marshalling wrote gives the string back
    (`UnmarshalString_MarshalString`).
-/

namespace Qubetics.Json

/-! ## Section 1: Marshal -/

/-- `hex`, the digits of a `\u` escape. -/
def hexDigit (n : Nat) : Char := "0123456789abcdef".toList.getD n '0'

/-- What `appendString` writes for one character, with `escapeHTML` on. -/
def escape (c : Char) : List Char :=
  if c = '\\' ∨ c = '"' then ['\\', c]
  else if c = Char.ofNat 8 then ['\\', 'b']
  else if c = Char.ofNat 12 then ['\\', 'f']
  else if c = '\n' then ['\\', 'n']
  else if c = '\r' then ['\\', 'r']
  else if c = '\t' then ['\\', 't']
  else if c.toNat < 32 ∨ c = '<' ∨ c = '>' ∨ c = '&' then
    ['\\', 'u', '0', '0', hexDigit (c.toNat / 16), hexDigit (c.toNat % 16)]
  else if c.toNat = 8232 ∨ c.toNat = 8233 then ['\\', 'u', '2', '0', '2', hexDigit (c.toNat % 16)]
  else [c]

/-- `json.Marshal(s)` of a Go string `s`. -/
def MarshalString (s : String) : List Char := '"' :: (s.data.flatMap escape ++ ['"'])

/-! ## Section 2: Unmarshal -/

/-- The value of a hexadecimal digit. -/
def hexValue (c : Char) : Option Nat :=
  if '0' ≤ c ∧ c ≤ '9' then some (c.toNat - 48)
  else if 'a' ≤ c ∧ c ≤ 'f' then some (c.toNat - 87)
  else if 'A' ≤ c ∧ c ≤ 'F' then some (c.toNat - 55)
  else none

/-- `getu4`: the UTF-16 code unit of four hexadecimal digits. -/
def getu4 (a b c d : Char) : Option Nat := do
  let a ← hexValue a
  let b ← hexValue b
  let c ← hexValue c
  let d ← hexValue d
  pure (((a * 16 + b) * 16 + c) * 16 + d)

/-- `utf16.IsSurrogate(r)`. -/
def isSurrogate (r : Nat) : Bool := 55296 ≤ r && r < 57344

/-- `utf16.DecodeRune(r1, r2)`: the code point of a surrogate pair, or
    U+FFFD. -/
def decodeRune (r1 r2 : Nat) : Nat :=
  if 55296 ≤ r1 ∧ r1 < 56320 ∧ 56320 ≤ r2 ∧ r2 < 57344 then
    (r1 - 55296) * 1024 + (r2 - 56320) + 65536
  else 65533

/-- The character a one-letter escape stands for. -/
def escapedChar : Char → Option Char
  | '"' => some '"'
  | '\\' => some '\\'
  | '/' => some '/'
  | 'b' => some (Char.ofNat 8)
  | 'f' => some (Char.ofNat 12)
  | 'n' => some '\n'
  | 'r' => some '\r'
  | 't' => some '\t'
  | _ => none

/-- `c` read in front of what the rest of a string body reads. -/
def consRead (c : Char) : Option (List Char × List Char) → Option (List Char × List Char) :=
  Option.map fun p => (c :: p.1, p.2)

/-- `unquote` after a string's opening quote: the characters of the
    string and what follows its closing quote. -/
def unquote : List Char → Option (List Char × List Char)
  | [] => none
  | '"' :: rest => some ([], rest)
  | '\\' :: 'u' :: a :: b :: c :: d :: '\\' :: 'u' :: e :: f :: g :: h :: rest =>
    match getu4 a b c d with
    | none => none
    | some r =>
      if isSurrogate r then
        match getu4 e f g h with
        | some r2 =>
          if decodeRune r r2 ≠ 65533 then consRead (Char.ofNat (decodeRune r r2)) (unquote rest)
          else consRead (Char.ofNat 65533) (unquote ('\\' :: 'u' :: e :: f :: g :: h :: rest))
        | none => consRead (Char.ofNat 65533) (unquote ('\\' :: 'u' :: e :: f :: g :: h :: rest))
      else consRead (Char.ofNat r) (unquote ('\\' :: 'u' :: e :: f :: g :: h :: rest))
  | '\\' :: 'u' :: a :: b :: c :: d :: rest =>
    match getu4 a b c d with
    | none => none
    | some r => consRead (Char.ofNat (if isSurrogate r then 65533 else r)) (unquote rest)
  | '\\' :: e :: rest =>
    match escapedChar e with
    | some c => consRead c (unquote rest)
    | none => none
  | c :: rest => if c.toNat < 32 then none else consRead c (unquote rest)
termination_by l => l.length
decreasing_by all_goals (simp only [List.length_cons]; omega)

/-- JSON whitespace. -/
def isWhite (c : Char) : Bool := c = ' ' || c = '\t' || c = '\n' || c = '\r'

/-- The error for an input that is not a JSON string or `null`. -/
def errNotString : Error := .new "json: cannot unmarshal into Go value of type string"

/-- `json.Unmarshal(data, &s)` for a Go string `s`: its new value, or
    `none` for `null`, which leaves it as it was. -/
def UnmarshalString (data : List Char) : Except Error (Option String) :=
  match data.dropWhile isWhite with
  | '"' :: rest =>
    match unquote rest with
    | some (s, after) => if after.all isWhite then .ok (some ⟨s⟩) else .error errNotString
    | none => .error errNotString
  | 'n' :: 'u' :: 'l' :: 'l' :: after => if after.all isWhite then .ok none else .error errNotString
  | _ => .error errNotString

/-! ## Section 3: The round trip -/

theorem hexValue_hexDigit : ∀ n < 16, hexValue (hexDigit n) = some n := by decide

theorem unquote_plain {c : Char} (h1 : c ≠ '"') (h2 : c ≠ '\\') (h3 : 32 ≤ c.toNat)
    (tail : List Char) : unquote (c :: tail) = consRead c (unquote tail) := by
  rw [unquote.eq_6 c tail h1 (fun _ _ _ _ _ _ _ _ _ h _ => h2 h) (fun _ _ _ _ _ h _ => h2 h)
    (fun _ _ h _ => h2 h), if_neg (by omega)]

theorem unquote_escaped {e c : Char} (he : escapedChar e = some c) (tail : List Char) :
    unquote ('\\' :: e :: tail) = consRead c (unquote tail) := by
  have hu : e ≠ 'u' := by rintro rfl; cases he
  rw [unquote.eq_5 e tail (fun _ _ _ _ _ _ _ _ _ h _ => hu h) (fun _ _ _ _ _ h _ => hu h), he]

/-- A `\u` escape of a code unit that is not a surrogate reads as that
    character, whatever follows it. -/
theorem unquote_u {a b c d : Char} {r : Nat} (hr : getu4 a b c d = some r)
    (hs : isSurrogate r = false) (tail : List Char) :
    unquote ('\\' :: 'u' :: a :: b :: c :: d :: tail) = consRead (Char.ofNat r) (unquote tail) := by
  conv_lhs => rw [unquote.eq_def]
  split <;> simp_all
  · rename_i hno heq
    exact absurd heq.2.symm (hno _ _ _ _ _ heq.1.symm)
  · rename_i hno heq
    exact absurd heq.2.symm (hno _ _ heq.1.symm)

theorem getu4_eq {a b c d : Char} {va vb vc vd : Nat} (ha : hexValue a = some va)
    (hb : hexValue b = some vb) (hc : hexValue c = some vc) (hd : hexValue d = some vd) :
    getu4 a b c d = some (((va * 16 + vb) * 16 + vc) * 16 + vd) := by
  simp [getu4, ha, hb, hc, hd]

/-- Each character reads back from what `escape` writes for it, whatever
    follows. -/
theorem unquote_escape (c : Char) (tail : List Char) :
    unquote (escape c ++ tail) = consRead c (unquote tail) := by
  have hlow := hexValue_hexDigit (c.toNat % 16) (Nat.mod_lt _ (by decide))
  unfold escape
  by_cases h1 : c = '\\' ∨ c = '"'
  · rw [if_pos h1]; exact @unquote_escaped c c (by rcases h1 with rfl | rfl <;> rfl) tail
  rw [if_neg h1]
  by_cases h2 : c = Char.ofNat 8
  · subst h2; exact @unquote_escaped 'b' _ rfl tail
  rw [if_neg h2]
  by_cases h3 : c = Char.ofNat 12
  · subst h3; exact @unquote_escaped 'f' _ rfl tail
  rw [if_neg h3]
  by_cases h4 : c = '\n'
  · subst h4; exact @unquote_escaped 'n' _ rfl tail
  rw [if_neg h4]
  by_cases h5 : c = '\r'
  · subst h5; exact @unquote_escaped 'r' _ rfl tail
  rw [if_neg h5]
  by_cases h6 : c = '\t'
  · subst h6; exact @unquote_escaped 't' _ rfl tail
  rw [if_neg h6]
  by_cases h7 : c.toNat < 32 ∨ c = '<' ∨ c = '>' ∨ c = '&'
  · -- `\u00XX`: a control character, `<`, `>` or `&`
    rw [if_pos h7]
    have hlt : c.toNat < 256 := by rcases h7 with h | rfl | rfl | rfl <;> first | omega | decide
    have hr := @getu4_eq '0' '0' _ _ 0 0 (c.toNat / 16) _ rfl rfl
      (hexValue_hexDigit _ (by omega)) hlow
    have hval : ((0 * 16 + 0) * 16 + c.toNat / 16) * 16 + c.toNat % 16 = c.toNat := by omega
    rw [hval] at hr
    exact (unquote_u hr (by simp [isSurrogate]; omega) tail).trans (by rw [Char.ofNat_toNat])
  rw [if_neg h7]
  by_cases h8 : c.toNat = 8232 ∨ c.toNat = 8233
  · -- `\u2028` and `\u2029`
    rw [if_pos h8]
    have hr := @getu4_eq '2' '0' '2' _ 2 0 2 _ rfl rfl rfl hlow
    have hval : ((2 * 16 + 0) * 16 + 2) * 16 + c.toNat % 16 = c.toNat := by omega
    rw [hval] at hr
    exact (unquote_u hr (by simp [isSurrogate]; omega) tail).trans (by rw [Char.ofNat_toNat])
  rw [if_neg h8]
  exact unquote_plain (fun h => h1 (.inr h)) (fun h => h1 (.inl h)) (by omega) tail

/-- A marshalled body reads back as its string, and what follows the
    closing quote is left. -/
theorem unquote_marshal (s : List Char) (rest : List Char) :
    unquote (s.flatMap escape ++ '"' :: rest) = some (s, rest) := by
  induction s with
  | nil => simp [unquote]
  | cons c s ih => rw [List.flatMap_cons, List.append_assoc, unquote_escape, ih]; rfl

/-- **Round trip.** Unmarshalling what `json.Marshal` writes for a Go
    string gives that string back. -/
theorem UnmarshalString_MarshalString (s : String) :
    UnmarshalString (MarshalString s) = .ok (some s) := by
  simp [UnmarshalString, MarshalString, isWhite, unquote_marshal]

end Qubetics.Json
