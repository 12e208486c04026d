import QubeticsSdk.Basic

/-! # `encoding/base64` with `StdEncoding`

    The standard base64 encoding of Go's library, as `EncodePubKey`,
    `DecodePubKey` and the session requests use it: alphabet `A–Z a–z 0–9
    + /`, padding `=`, not strict.

    `encode` takes three bytes at a time to four characters and pads the
    last group. The decoder follows `Decode` and `decodeQuantum`: it reads
    quanta of four digits, skips `\r` and `\n` anywhere, accepts a quantum
    of two or three digits only when padding closes it and nothing but
    newlines follows, and reports the offset of the first corrupt input
    byte. Not being strict, it ignores the bits that padding leaves
    unused. Characters are read one for one as bytes: every character
    before the first one outside the alphabet is ASCII, so the offsets are
    Go's byte offsets.

    Result: decoding inverts encoding (`DecodeString_EncodeToString`).
-/

namespace Qubetics.Base64

/-! ## Section 1: Encoding -/

/-- `encodeStd`, the alphabet of `StdEncoding`. -/
def encodeStd : List Char :=
  "ABCDEFGHIJKLMNOPQRSTUVWXYZabcdefghijklmnopqrstuvwxyz0123456789+/".toList

/-- The alphabet character of a six-bit value. -/
def encodeChar (v : Nat) : Char := encodeStd.getD v '='

/-- The four six-bit digits of the 24-bit group `n`. -/
def digits (n : Nat) : List Nat := [n / 262144, n / 4096 % 64, n / 64 % 64, n % 64]

/-- The characters of the 24-bit group `n`: its first `k` digits, then `=`
    up to four characters. -/
def group (n k : Nat) : List Char :=
  ((digits n).take k).map encodeChar ++ List.replicate (4 - k) '='

/-- `StdEncoding.Encode(dst, src)`: three bytes at a time, and a padded
    group for the one or two bytes left over. -/
def encode : List UInt8 → List Char
  | a :: b :: c :: rest => group (a.toNat * 65536 + b.toNat * 256 + c.toNat) 4 ++ encode rest
  | [a, b] => group (a.toNat * 65536 + b.toNat * 256) 3
  | [a] => group (a.toNat * 65536) 2
  | [] => []

/-- `StdEncoding.EncodeToString(src)`. -/
def EncodeToString (src : Bytes) : String := ⟨encode src⟩

/-! ## Section 2: Decoding -/

/-- `decodeMap`: the six-bit value of an alphabet character. -/
def decodeChar (c : Char) : Option Nat := encodeStd.indexOf? c

/-- The bytes of a quantum with digits `ds` (two to four): the 24-bit
    value they start, cut to the `ds.length - 1` bytes they carry. -/
def quantumBytes (ds : List Nat) : List UInt8 :=
  let val := (ds ++ List.replicate (4 - ds.length) 0).foldl (fun acc d => acc * 64 + d) 0
  ([val / 65536 % 256, val / 256 % 256, val % 256].map UInt8.ofNat).take (ds.length - 1)

/-- The newlines at the front of `src`, skipped from offset `si`. -/
def skipNewlines : List Char → Nat → List Char × Nat
  | c :: rest, si => if c = '\n' ∨ c = '\r' then skipNewlines rest (si + 1) else (c :: rest, si)
  | [], si => ([], si)

/-- The second `=` of a quantum of two digits, after newlines. -/
def secondPad (rest : List Char) (si : Nat) : Except Nat (List Char × Nat) :=
  match skipNewlines rest si with
  | ([], si) => .error si
  | (c :: rest, si) => if c = '=' then .ok (rest, si + 1) else .error (si - 1)

/-- A quantum with digits `ds` closed by `=`: `rest` follows that `=`, at
    offset `si`. Only newlines may follow the padding. -/
def padding (ds : List Nat) (rest : List Char) (si : Nat) : Except Nat (List UInt8) :=
  if ds.length < 2 then .error (si - 1)
  else
    match (if ds.length = 2 then secondPad rest si else .ok (rest, si)) with
    | .error e => .error e
    | .ok (rest, si) =>
      match skipNewlines rest si with
      | ([], _) => .ok (quantumBytes ds)
      | (_ :: _, si) => .error si

/-- `StdEncoding.Decode(dst, src)` from offset `si`, with the digits `ds`
    of the current quantum read: the decoded bytes, or the offset of the
    corrupt input. -/
def decode (ds : List Nat) : List Char → Nat → Except Nat (List UInt8)
  | [], si => if ds = [] then .ok [] else .error (si - ds.length)
  | c :: rest, si =>
    match decodeChar c with
    | some v =>
      if ds.length = 3 then (quantumBytes (ds ++ [v]) ++ ·) <$> decode [] rest (si + 1)
      else decode (ds ++ [v]) rest (si + 1)
    | none =>
      if c = '\n' ∨ c = '\r' then decode ds rest (si + 1)
      else if c = '=' then padding ds rest (si + 1)
      else .error si

/-- `CorruptInputError(offset)`. -/
def CorruptInputError (offset : Nat) : Error :=
  .new ("illegal base64 data at input byte " ++ toString offset)

/-- `StdEncoding.DecodeString(s)`. -/
def DecodeString (s : String) : Except Error Bytes :=
  match decode [] s.toList 0 with
  | .ok bytes => .ok bytes
  | .error offset => .error (CorruptInputError offset)

/-! ## Section 3: The alphabet -/

theorem decodeChar_encodeChar : ∀ v < 64, decodeChar (encodeChar v) = some v := by
  decide

@[simp] theorem decodeChar_pad : decodeChar '=' = none := by decide

theorem encodeChar_mem (v : Nat) : encodeChar v ∈ encodeStd ∨ encodeChar v = '=' := by
  unfold encodeChar
  rw [List.getD_eq_getElem?_getD]
  cases h : encodeStd[v]? with
  | none => exact .inr rfl
  | some c => exact .inl (List.getElem?_mem h)

/-- Every character `encode` writes is an alphabet character or `=`. -/
theorem mem_encode {bytes : List UInt8} {c : Char} (h : c ∈ encode bytes) :
    c ∈ encodeStd ∨ c = '=' := by
  have hgroup : ∀ n k, c ∈ group n k → c ∈ encodeStd ∨ c = '=' := by
    intro n k hc
    simp only [group, List.mem_append, List.mem_map, List.mem_replicate] at hc
    rcases hc with ⟨v, -, rfl⟩ | ⟨-, rfl⟩
    · exact encodeChar_mem v
    · exact .inr rfl
  induction bytes using encode.induct with
  | case1 a b c' rest ih =>
    simp only [encode, List.mem_append] at h
    exact h.elim (hgroup _ _) ih
  | case2 => exact hgroup _ _ h
  | case3 => exact hgroup _ _ h
  | case4 => simp [encode] at h

/-! ## Section 4: Decoding inverts encoding -/

theorem toNat_ofNat_mod (v : Nat) : (UInt8.ofNat (v % 256)).toNat = v % 256 :=
  UInt8.toNat_ofNat_of_lt (Nat.mod_lt _ (by decide))

/-- The three bytes of a group are its value's bytes. -/
theorem ofNat_bytes (a b c : UInt8) :
    [(a.toNat * 65536 + b.toNat * 256 + c.toNat) / 65536 % 256,
      (a.toNat * 65536 + b.toNat * 256 + c.toNat) / 256 % 256,
      (a.toNat * 65536 + b.toNat * 256 + c.toNat) % 256].map UInt8.ofNat = [a, b, c] := by
  have ha : a.toNat < 256 := a.toNat_lt_size
  have hb : b.toNat < 256 := b.toNat_lt_size
  have hc : c.toNat < 256 := c.toNat_lt_size
  simp only [List.map_cons, List.map_nil, List.cons.injEq, and_true]
  refine ⟨UInt8.toNat.inj ?_, UInt8.toNat.inj ?_, UInt8.toNat.inj ?_⟩ <;>
    rw [toNat_ofNat_mod] <;> omega

/-- The first `k` digits of a group whose last `4 - k` digits are zero
    carry its first `k - 1` bytes. -/
theorem quantumBytes_take (n k : Nat) (hk : k = 2 ∨ k = 3 ∨ k = 4) (hz : n % 64 ^ (4 - k) = 0) :
    quantumBytes ((digits n).take k) =
      ([n / 65536 % 256, n / 256 % 256, n % 256].map UInt8.ofNat).take (k - 1) := by
  rcases hk with rfl | rfl | rfl <;> simp only [Nat.reduceSub, Nat.reducePow] at hz
  · have hval : (n / 262144 * 64 + n / 4096 % 64) * 64 * 64 = n := by omega
    simp only [quantumBytes, digits, List.take, List.length_cons, List.length_nil, List.replicate,
      List.cons_append, List.nil_append, List.foldl, List.map_cons, List.map_nil, Nat.reduceAdd,
      Nat.reduceSub, Nat.zero_mul, Nat.zero_add, Nat.add_zero, hval]
  · have hval : ((n / 262144 * 64 + n / 4096 % 64) * 64 + n / 64 % 64) * 64 = n := by omega
    simp only [quantumBytes, digits, List.take, List.length_cons, List.length_nil, List.replicate,
      List.cons_append, List.nil_append, List.foldl, List.map_cons, List.map_nil, Nat.reduceAdd,
      Nat.reduceSub, Nat.zero_mul, Nat.zero_add, Nat.add_zero, hval]
  · have hval : ((n / 262144 * 64 + n / 4096 % 64) * 64 + n / 64 % 64) * 64 + n % 64 = n := by
      omega
    simp only [quantumBytes, digits, List.take, List.length_cons, List.length_nil, List.replicate,
      List.append_nil, List.foldl, List.map_cons, List.map_nil, Nat.reduceAdd, Nat.reduceSub,
      Nat.zero_mul, Nat.zero_add, hval]

theorem digits_lt {n : Nat} (hn : n < 2 ^ 24) : ∀ v ∈ digits n, v < 64 := by
  simp only [digits, List.mem_cons, List.not_mem_nil, or_false]
  rintro v (rfl | rfl | rfl | rfl) <;> omega

/-- Digits read before a quantum is full only extend it. -/
theorem decode_digits (rest : List Char) : ∀ (vs ds : List Nat) (si : Nat), (∀ v ∈ vs, v < 64) →
    (ds ++ vs).length ≤ 3 →
    decode ds (vs.map encodeChar ++ rest) si = decode (ds ++ vs) rest (si + vs.length)
  | [], ds, si, _, _ => by simp
  | v :: vs, ds, si, hv, hlen => by
    have hlt : ds.length ≠ 3 := by simp at hlen; omega
    rw [List.map_cons, List.cons_append, decode,
      decodeChar_encodeChar v (hv v (List.mem_cons_self _ _))]
    dsimp only
    rw [if_neg hlt, decode_digits rest vs (ds ++ [v]) (si + 1)
      (fun w hw => hv w (List.mem_cons_of_mem _ hw)) (by simpa using hlen)]
    simp [Nat.add_assoc, Nat.add_comm 1]

/-- A full group decodes to its quantum's bytes, and decoding goes on
    after it. -/
theorem decode_group_full {n : Nat} (hn : n < 2 ^ 24) (rest : List Char) (si : Nat) :
    decode [] (group n 4 ++ rest) si =
      (quantumBytes (digits n) ++ ·) <$> decode [] rest (si + 4) := by
  have hd := digits_lt hn
  have hsplit : group n 4 ++ rest =
      [n / 262144, n / 4096 % 64, n / 64 % 64].map encodeChar ++ (encodeChar (n % 64) :: rest) := by
    simp [group, digits]
  rw [hsplit, decode_digits _ _ [] si (fun v hv => hd v (by simp [digits] at hv ⊢; omega)) (by simp),
    decode, decodeChar_encodeChar _ (hd _ (by simp [digits]))]
  rfl

/-- A padded group ends the input. -/
theorem decode_group_pad {n k : Nat} (hk : k = 2 ∨ k = 3) (hn : n < 2 ^ 24) (si : Nat) :
    decode [] (group n k) si = .ok (quantumBytes ((digits n).take k)) := by
  have hd := digits_lt hn
  have hvs : ∀ v ∈ (digits n).take k, v < 64 := fun v hv => hd v (List.mem_of_mem_take hv)
  rcases hk with rfl | rfl <;> unfold group <;>
    rw [decode_digits _ _ [] si hvs (by simp [digits])] <;>
    simp [decode, padding, secondPad, skipNewlines, digits]

/-- **Round trip.** Decoding the encoding of any bytes gives them back. -/
theorem decode_encode (bytes : List UInt8) (si : Nat) : decode [] (encode bytes) si = .ok bytes := by
  have hlt : ∀ x : UInt8, x.toNat < 256 := fun x => x.toNat_lt_size
  induction bytes using encode.induct generalizing si with
  | case1 a b c rest ih =>
    have := hlt a; have := hlt b; have := hlt c
    rw [encode, decode_group_full (by omega), ih]
    have h4 := quantumBytes_take (a.toNat * 65536 + b.toNat * 256 + c.toNat) 4 (by omega) (by omega)
    rw [List.take_of_length_le (by simp [digits])] at h4
    rw [h4, ofNat_bytes]
    rfl
  | case2 a b =>
    have := hlt a; have := hlt b
    rw [encode, decode_group_pad (by omega) (by omega),
      quantumBytes_take _ 3 (by omega) (by omega)]
    simpa using congrArg (List.take 2) (ofNat_bytes a b 0)
  | case3 a =>
    have := hlt a
    rw [encode, decode_group_pad (by omega) (by omega),
      quantumBytes_take _ 2 (by omega) (by omega)]
    simpa using congrArg (List.take 1) (ofNat_bytes a 0 0)
  | case4 => rfl

@[simp] theorem DecodeString_EncodeToString (src : Bytes) :
    DecodeString (EncodeToString src) = .ok src := by
  simp [DecodeString, EncodeToString, decode_encode]

end Qubetics.Base64
