import QubeticsSdk.Core.Types

/-! # Fees from gas prices

    `calculateFees` (`core/tx.go`) turns the configured gas prices into the
    fee of a transaction with a given gas limit: for each price it
    multiplies the decimal amount by `int64(gasLimit)`, takes the ceiling
    and rounds it to an integer coin amount.

    The decimal arithmetic is `math.LegacyDec` of the Cosmos SDK: a big
    integer scaled by `10^18`, whose operations panic when a result
    leaves their bit range, and `NewCoin` panics on an invalid denom or a
    negative amount. The model keeps every such panic.

    The conversion `int64(gasLimit)` reads a `uint64` of `2^63` or more as
    a negative number (`int64OfUInt64_of_ge`), so with such a gas limit a
    positive price gives a negative amount and `NewCoin` panics
    (`calculateFees_panics_at_two_pow_63`). Below `2^63` the fee is the
    exact ceiling of price times gas limit (`calculateFees_eq`).
-/

namespace Qubetics

/-! ## Section 1: Machine integers -/

/-- `big.Int.BitLen()`: the length of `|x|` in bits. -/
def bitLen (x : Int) : Nat := if x = 0 then 0 else x.natAbs.log2 + 1

/-- `MaxBitLen` of `math.Int`. -/
def MaxBitLen : Nat := 256

/-- `maxDecBitLen`: `MaxBitLen + decimalTruncateBits`, with
    `decimalTruncateBits = 59`. -/
def maxDecBitLen : Nat := MaxBitLen + 59

/-- Go's conversion `int64(x)` of a `uint64`: the same 64 bits read in
    two's complement. -/
def int64OfUInt64 (x : UInt64) : Int :=
  if x.toNat < 2 ^ 63 then x.toNat else x.toNat - 2 ^ 64

theorem bitLen_le_iff (x : Int) (b : Nat) : bitLen x ≤ b ↔ x.natAbs < 2 ^ b := by
  unfold bitLen
  split
  · subst_vars; simp [Nat.pos_pow_of_pos]
  · have h : x.natAbs ≠ 0 := by omega
    rw [← Nat.log2_lt h]
    omega

theorem int64OfUInt64_of_lt {x : UInt64} (h : x.toNat < 2 ^ 63) :
    int64OfUInt64 x = x.toNat := by
  rw [int64OfUInt64, if_pos h]

theorem int64OfUInt64_of_ge {x : UInt64} (h : 2 ^ 63 ≤ x.toNat) :
    int64OfUInt64 x = x.toNat - 2 ^ 64 := by
  rw [int64OfUInt64, if_neg (Nat.not_lt.mpr h)]

/-! ## Section 2: `LegacyDec` -/

namespace Dec

/-- `precisionReuse`, `10^18`. -/
def precisionReuse : Int := 1000000000000000000

/-- `fivePrecision`, half of `precisionReuse`. -/
def fivePrecision : Int := 500000000000000000

/-- `LegacyNewDecFromBigInt(i)`: the integer `i` as a decimal. -/
def ofBigInt (i : Int) : Dec := ⟨i * precisionReuse⟩

/-- `LegacyDec.MulInt64(i)`. -/
def MulInt64 (d : Dec) (i : Int) : Result Dec :=
  if maxDecBitLen < bitLen (d.i * i) then .panic "Int overflow" else .ok ⟨d.i * i⟩

/-- `LegacyDec.Ceil()`; `big.Int.QuoRem` truncates toward zero. -/
def Ceil (d : Dec) : Result Dec :=
  let quo := d.i.tdiv precisionReuse
  let rem := d.i.tmod precisionReuse
  if rem = 0 then .ok (ofBigInt quo)
  else if rem < 0 then .ok (ofBigInt quo)
  else if maxDecBitLen ≤ bitLen d.i then .panic "Int overflow"
  else .ok (ofBigInt (quo + 1))

/-- `chopPrecisionAndRound` on a non-negative integer: divide by `10^18`
    and round half to even. -/
def chopPrecisionAndRoundNonneg (d : Int) : Int :=
  let quo := d.tdiv precisionReuse
  let rem := d.tmod precisionReuse
  if rem = 0 then quo
  else if rem < fivePrecision then quo
  else if fivePrecision < rem then quo + 1
  else if quo % 2 = 0 then quo
  else quo + 1

/-- `chopPrecisionAndRound`: a negative argument is negated, rounded and
    negated back. -/
def chopPrecisionAndRound (d : Int) : Int :=
  if d < 0 then -chopPrecisionAndRoundNonneg (-d) else chopPrecisionAndRoundNonneg d

end Dec

/-- `math.NewIntFromBigIntMut(i)`. -/
def NewIntFromBigIntMut (i : Int) : Result Int :=
  if MaxBitLen < bitLen i then .panic "NewIntFromBigInt() out of bound" else .ok i

/-- `LegacyDec.RoundInt()`. -/
def Dec.RoundInt (d : Dec) : Result Int := NewIntFromBigIntMut (Dec.chopPrecisionAndRound d.i)

/-! ## Section 3: Coins -/

/-- A character the default denom pattern allows after the first. -/
def denomChar (c : Char) : Bool :=
  c.isAlphanum || c == '/' || c == ':' || c == '.' || c == '_' || c == '-'

/-- `ValidateDenom` with the default pattern `[a-zA-Z][a-zA-Z0-9/:._-]{2,127}`. -/
def ValidateDenom (denom : String) : Option Error :=
  match denom.toList with
  | c :: rest =>
    if c.isAlpha && rest.all denomChar && 2 ≤ rest.length && rest.length ≤ 127 then none
    else some (.new ("invalid denom: " ++ denom))
  | [] => some (.new ("invalid denom: " ++ denom))

/-- `Coin.Validate()`. -/
def Coin.Validate (coin : Coin) : Option Error :=
  match ValidateDenom coin.denom with
  | some e => some e
  | none => if coin.amount < 0 then some (.new ("negative coin amount: " ++ toString coin.amount)) else none

/-- `NewCoin(denom, amount)`: panics with the validation error. -/
def NewCoin (denom : String) (amount : Int) : Result Coin :=
  match (Coin.mk denom amount).Validate with
  | some e => .panic e.text
  | none => .ok ⟨denom, amount⟩

/-! ## Section 4: `calculateFees` -/

/-- The body of `calculateFees`'s loop: the coin for one price. -/
def priceFee (gasLimit : UInt64) (price : DecCoin) : Result Coin := do
  let fee ← price.amount.MulInt64 (int64OfUInt64 gasLimit)
  let ceil ← fee.Ceil
  let amount ← ceil.RoundInt
  NewCoin price.denom amount

/-- `calculateFees(gasPrices, gasLimit)`: one coin per price, in order. -/
def calculateFees (gasPrices : DecCoins) (gasLimit : UInt64) : Result Coins :=
  gasPrices.mapM (priceFee gasLimit)

/-- What a fee should be: `⌈price × gasLimit⌉` in whole units, computed
    exactly. -/
def exactFee (gasLimit : Nat) (price : DecCoin) : Coin :=
  ⟨price.denom, (price.amount.i * gasLimit + Dec.precisionReuse - 1) / Dec.precisionReuse⟩

/-! ## Section 5: Spec lemmas -/

namespace Dec

theorem MulInt64_eq {d : Dec} {i : Int} (h : bitLen (d.i * i) ≤ maxDecBitLen) :
    d.MulInt64 i = .ok ⟨d.i * i⟩ := by
  simp [MulInt64, Nat.not_lt.mpr h]

/-- On a non-positive decimal, `Ceil` truncates toward zero. -/
theorem Ceil_of_nonpos {d : Dec} (h : d.i ≤ 0) :
    d.Ceil = .ok (ofBigInt (d.i.tdiv precisionReuse)) := by
  have hrem : d.i.tmod precisionReuse ≤ 0 := by
    have hneg := Int.neg_tdiv d.i precisionReuse
    have hx := Int.tdiv_add_tmod d.i precisionReuse
    have hy := Int.tdiv_add_tmod (-d.i) precisionReuse
    rw [Int.tdiv_eq_ediv (by omega) (by decide)] at hneg hy
    rw [Int.tmod_eq_emod (by omega) (by decide)] at hy
    simp only [precisionReuse] at *
    omega
  by_cases h0 : d.i.tmod precisionReuse = 0
  · simp [Ceil, h0]
  · have hneg : d.i.tmod precisionReuse < 0 := by omega
    simp [Ceil, h0, hneg]

/-- On a non-negative decimal below `2^314`, `Ceil` is the ceiling. -/
theorem Ceil_of_nonneg {d : Dec} (h0 : 0 ≤ d.i) (hb : bitLen d.i < maxDecBitLen) :
    d.Ceil = .ok (ofBigInt ((d.i + precisionReuse - 1) / precisionReuse)) := by
  unfold Ceil
  rw [Int.tdiv_eq_ediv h0 (by decide), Int.tmod_eq_emod h0 (by decide)]
  simp only [precisionReuse] at *
  split_ifs <;> first | omega | (congr 2; omega)

theorem chopPrecisionAndRound_ofBigInt (q : Int) :
    chopPrecisionAndRound (ofBigInt q).i = q := by
  have hnonneg : ∀ q : Int, 0 ≤ q → chopPrecisionAndRoundNonneg (q * precisionReuse) = q := by
    intro q hq
    have hm : 0 ≤ q * precisionReuse := Int.mul_nonneg hq (by decide)
    simp [chopPrecisionAndRoundNonneg, Int.tdiv_eq_ediv hm, Int.tmod_eq_emod hm,
      Int.mul_ediv_cancel, Int.mul_emod_left, precisionReuse]
  simp only [chopPrecisionAndRound, ofBigInt]
  split
  · rw [← Int.neg_mul, hnonneg (-q) (by simp [precisionReuse] at *; omega), Int.neg_neg]
  · exact hnonneg q (by simp [precisionReuse] at *; omega)

end Dec

theorem NewIntFromBigIntMut_eq {i : Int} (h : bitLen i ≤ MaxBitLen) :
    NewIntFromBigIntMut i = .ok i := by
  simp [NewIntFromBigIntMut, Nat.not_lt.mpr h]

theorem RoundInt_ofBigInt {q : Int} (h : bitLen q ≤ MaxBitLen) :
    (Dec.ofBigInt q).RoundInt = .ok q := by
  rw [Dec.RoundInt, Dec.chopPrecisionAndRound_ofBigInt, NewIntFromBigIntMut_eq h]

theorem NewCoin_eq {denom : String} {amount : Int} (hd : ValidateDenom denom = none)
    (ha : 0 ≤ amount) : NewCoin denom amount = .ok ⟨denom, amount⟩ := by
  simp [NewCoin, Coin.Validate, hd, Int.not_lt.mpr ha]

theorem NewCoin_of_neg {denom : String} {amount : Int} (hd : ValidateDenom denom = none)
    (ha : amount < 0) :
    NewCoin denom amount = .panic ("negative coin amount: " ++ toString amount) := by
  simp [NewCoin, Coin.Validate, hd, ha, Error.text]

/-- Below `2^63`, with a valid denom, a non-negative price and no
    overflow, the coin for one price is the exact ceiling. -/
theorem priceFee_eq {g : UInt64} {price : DecCoin} (hg : g.toNat < 2 ^ 63)
    (hd : ValidateDenom price.denom = none) (hp : 0 ≤ price.amount.i)
    (hb : bitLen (price.amount.i * g.toNat) < maxDecBitLen) :
    priceFee g price = .ok (exactFee g.toNat price) := by
  have hx : 0 ≤ price.amount.i * g.toNat := Int.mul_nonneg hp (by omega)
  have hlt := (bitLen_le_iff _ _).mp (Nat.le_of_lt_succ hb)
  have hq : bitLen ((price.amount.i * g.toNat + Dec.precisionReuse - 1) / Dec.precisionReuse)
      ≤ MaxBitLen := by
    rw [bitLen_le_iff]
    simp only [Dec.precisionReuse, MaxBitLen, maxDecBitLen] at *
    omega
  simp only [priceFee, int64OfUInt64_of_lt hg, Dec.MulInt64_eq (Nat.le_of_lt hb), Result.ok_bind,
    Dec.Ceil_of_nonneg hx hb, RoundInt_ofBigInt hq, exactFee]
  exact NewCoin_eq hd (Int.ediv_nonneg (by simp [Dec.precisionReuse]; omega) (by decide))

/-- **Fees below `2^63`.** With a gas limit below `2^63` and every price
    valid and in range, `calculateFees` returns, position by position, the
    exact ceiling of price times gas limit. -/
theorem calculateFees_eq (gasPrices : DecCoins) {g : UInt64} (hg : g.toNat < 2 ^ 63)
    (hp : ∀ p ∈ gasPrices, ValidateDenom p.denom = none ∧ 0 ≤ p.amount.i ∧
      bitLen (p.amount.i * g.toNat) < maxDecBitLen) :
    calculateFees gasPrices g = .ok (gasPrices.map (exactFee g.toNat)) := by
  induction gasPrices with
  | nil => rfl
  | cons p ps ih =>
    obtain ⟨hd, h0, hb⟩ := hp p (List.mem_cons_self p ps)
    simp only [calculateFees, List.mapM_cons, priceFee_eq hg hd h0 hb, Result.ok_bind] at ih ⊢
    rw [ih fun q hq => hp q (List.mem_cons_of_mem p hq)]
    rfl

/-- A zero price costs nothing, whatever the gas limit: its coin is
    `NewCoin` of the denom and `0`. -/
theorem priceFee_of_zero (g : UInt64) {price : DecCoin} (h0 : price.amount.i = 0) :
    priceFee g price = NewCoin price.denom 0 := by
  simp [priceFee, Dec.MulInt64, Dec.Ceil, Dec.ofBigInt, Dec.RoundInt, Dec.chopPrecisionAndRound,
    Dec.chopPrecisionAndRoundNonneg, NewIntFromBigIntMut, bitLen, h0]

/-- `calculateFees` makes one coin per price: every price's coin is among
    the fees it returns. -/
theorem calculateFees_mem {gasPrices : DecCoins} {g : UInt64} {fees : Coins}
    (h : calculateFees gasPrices g = .ok fees) {price : DecCoin} (hp : price ∈ gasPrices) :
    ∃ coin ∈ fees, priceFee g price = .ok coin := by
  induction gasPrices generalizing fees with
  | nil => cases hp
  | cons q qs ih =>
    simp only [calculateFees, List.mapM_cons] at h
    obtain ⟨coin, hq, h⟩ := Result.bind_eq_ok h
    obtain ⟨coins, hqs, h⟩ := Result.bind_eq_ok h
    cases h
    rcases List.mem_cons.mp hp with rfl | hp
    · exact ⟨coin, List.mem_cons_self _ _, hq⟩
    · obtain ⟨c, hc, hpc⟩ := ih hqs hp
      exact ⟨c, List.mem_cons_of_mem _ hc, hpc⟩

/-- **Gas limits from `2^63` on.** `int64(gasLimit)` reads such a limit as
    `gasLimit - 2^64 < 0`, so a price worth at least one whole unit over
    `2^64 - gasLimit` gas gets a negative amount, and `NewCoin` panics. -/
theorem calculateFees_panics_of_ge (price : DecCoin) (rest : DecCoins) {g : UInt64}
    (hg : 2 ^ 63 ≤ g.toNat) (hd : ValidateDenom price.denom = none)
    (hlo : Dec.precisionReuse ≤ price.amount.i * (2 ^ 64 - g.toNat))
    (hhi : price.amount.i < 2 ^ 252) :
    calculateFees (price :: rest) g = .panic ("negative coin amount: " ++
      toString ((price.amount.i * int64OfUInt64 g).tdiv Dec.precisionReuse)) := by
  have hsize : g.toNat < 2 ^ 64 := UInt64.toNat_lt_size g
  have hP : Dec.precisionReuse = 1000000000000000000 := rfl
  -- `y = price × (2^64 - gasLimit)`, the magnitude of the wrapped product
  obtain ⟨y, hy⟩ : ∃ y, y = price.amount.i * (2 ^ 64 - g.toNat) := ⟨_, rfl⟩
  have hp : 0 < price.amount.i :=
    Int.lt_of_mul_lt_mul_right (by rw [Int.zero_mul]; omega) (by omega : (0 : Int) ≤ 2 ^ 64 - g.toNat)
  have hmag : y < 2 ^ 315 := by
    have h1 := Int.mul_le_mul_of_nonneg_left (show (2 : Int) ^ 64 - g.toNat ≤ 2 ^ 63 by omega)
      (Int.le_of_lt hp)
    have h2 := Int.mul_lt_mul_of_pos_right hhi (show (0 : Int) < 2 ^ 63 by decide)
    omega
  have hx : price.amount.i * int64OfUInt64 g = -y := by
    rw [int64OfUInt64_of_ge hg, hy, ← Int.mul_neg, Int.neg_sub]
  have hq : (price.amount.i * int64OfUInt64 g).tdiv Dec.precisionReuse =
      -(y / 1000000000000000000) := by
    rw [hx, Int.neg_tdiv, Int.tdiv_eq_ediv (by omega) (by decide), hP]
  have hbits : bitLen (price.amount.i * int64OfUInt64 g) ≤ maxDecBitLen := by
    rw [bitLen_le_iff, hx]; simp only [maxDecBitLen, MaxBitLen]; omega
  have hround : bitLen ((price.amount.i * int64OfUInt64 g).tdiv Dec.precisionReuse) ≤ MaxBitLen := by
    rw [bitLen_le_iff, hq]; simp only [MaxBitLen]; omega
  have hneg : (price.amount.i * int64OfUInt64 g).tdiv Dec.precisionReuse < 0 := by
    rw [hq]; omega
  simp only [calculateFees, List.mapM_cons, priceFee, Dec.MulInt64_eq hbits, Result.ok_bind,
    Dec.Ceil_of_nonpos (show price.amount.i * int64OfUInt64 g ≤ 0 by omega),
    RoundInt_ofBigInt hround, NewCoin_of_neg hd hneg, Result.panic_bind]

/-- The default gas price `0.1tics` with a gas limit of `2^63`. -/
theorem calculateFees_panics_at_two_pow_63 :
    calculateFees [⟨"tics", ⟨100000000000000000⟩⟩] (UInt64.ofNat (2 ^ 63)) =
      .panic "negative coin amount: -922337203685477580" := by
  have hq : (100000000000000000 * int64OfUInt64 (UInt64.ofNat (2 ^ 63))).tdiv
      Dec.precisionReuse = -922337203685477580 := by decide
  have h := @calculateFees_panics_of_ge ⟨"tics", ⟨100000000000000000⟩⟩ []
    (UInt64.ofNat (2 ^ 63)) (by decide) (by decide) (by decide)
    (show (100000000000000000 : Int) < 2 ^ 252 by omega)
  rw [h, hq]
  rfl

end Qubetics
