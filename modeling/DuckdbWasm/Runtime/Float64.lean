import DuckdbWasm.Runtime.Values
import Mathlib.Algebra.Group.Nat.Basic

/-! # A number in a HEAPF64 slot

`HEAPF64` and `HEAPU8` view one wasm buffer: `HEAPF64[slot] = v` stores the IEEE 754 binary64
word of `v` in the eight bytes from `8 * slot` on, least significant first. An integer is
rounded to the nearest double, ties to even, so one below 2^53 in magnitude reads back as itself.
-/
namespace DuckdbWasm

/-- The `k` bytes of `x`, least significant first. -/
def leBytes : Nat → Nat → List UInt8
  | 0, _ => []
  | k + 1, x => UInt8.ofNat x :: leBytes k (x / 256)

/-- The number the little-endian bytes `bs` spell. -/
def leValue : List UInt8 → Nat
  | [] => 0
  | b :: bs => b.toNat + 256 * leValue bs

@[simp] theorem length_leBytes (k x : Nat) : (leBytes k x).length = k := by
  induction k generalizing x with
  | zero => rfl
  | succ k ih => simp [leBytes, ih]

theorem leValue_leBytes (k x : Nat) : leValue (leBytes k x) = x % 256 ^ k := by
  induction k generalizing x with
  | zero => simp [leBytes, leValue, Nat.mod_one]
  | succ k ih =>
    rw [leBytes, leValue, ih, Nat.pow_succ', Nat.mod_mul]
    rfl

/-- `m / 2^s` rounded to the nearest integer, ties to even. -/
def roundShift (m s : Nat) : Nat :=
  if 2 ^ s < 2 * (m % 2 ^ s) ∨ (2 * (m % 2 ^ s) = 2 ^ s ∧ m / 2 ^ s % 2 = 1) then m / 2 ^ s + 1
  else m / 2 ^ s

/-- The binary64 word of a natural number `m`: for `2^e ≤ m < 2^(e+1)` the exponent field is
`e + 1023` and the significand `m` scaled to 53 bits, rounded to nearest, ties to even (a carry
moves into the exponent); infinity past the largest double. -/
def magnitudeBits (m : Nat) : Nat :=
  if m = 0 then 0
  else
    let e := m.log2
    let significand := if e ≤ 52 then m * 2 ^ (52 - e) else roundShift m (e - 52)
    min ((e + 1022) * 2 ^ 52 + significand) (2047 * 2 ^ 52)

/-- The binary64 word of a number, as `Float64Array` stores it; NaN is the quiet NaN V8 writes. -/
def f64Bits : JsNumber → Nat
  | .nan => 0x7FF8000000000000
  | .num n => (if n < 0 then 2 ^ 63 else 0) + magnitudeBits n.natAbs

/-- The eight bytes `HEAPF64[slot] = v` stores. -/
def f64Bytes (v : JsNumber) : List UInt8 := leBytes 8 (f64Bits v)

@[simp] theorem length_f64Bytes (v : JsNumber) : (f64Bytes v).length = 8 := length_leBytes 8 _

/-- The number a binary64 word denotes, as the engine reads an OpenedFile slot back: NaN, or an
integer; an infinity or a fraction is no JsNumber. -/
def f64Value (bits : Nat) : Option JsNumber :=
  let exponent := bits / 2 ^ 52 % 2048
  let significand := 2 ^ 52 + bits % 2 ^ 52
  let signed (m : Nat) : Int := if bits / 2 ^ 63 % 2 = 1 then -m else m
  if exponent = 2047 then if bits % 2 ^ 52 = 0 then none else some .nan
  else if exponent = 0 then if bits % 2 ^ 52 = 0 then some (.num 0) else none
  else if 1075 ≤ exponent then some (.num (signed (significand * 2 ^ (exponent - 1075))))
  else if significand % 2 ^ (1075 - exponent) = 0 then
    some (.num (signed (significand / 2 ^ (1075 - exponent))))
  else none

/-- Below 2^53 the significand is `m` shifted left to 53 bits, with no rounding. -/
theorem significand_bounds {m : Nat} (h0 : m ≠ 0) (he : m.log2 ≤ 52) :
    2 ^ 52 ≤ m * 2 ^ (52 - m.log2) ∧ m * 2 ^ (52 - m.log2) < 2 ^ 53 := by
  constructor
  · calc 2 ^ 52 = 2 ^ m.log2 * 2 ^ (52 - m.log2) := by rw [← Nat.pow_add, Nat.add_sub_cancel' he]
      _ ≤ m * 2 ^ (52 - m.log2) := Nat.mul_le_mul_right _ (Nat.log2_self_le h0)
  · calc m * 2 ^ (52 - m.log2) < 2 ^ (m.log2 + 1) * 2 ^ (52 - m.log2) :=
          Nat.mul_lt_mul_of_pos_right Nat.lt_log2_self (Nat.two_pow_pos _)
      _ = 2 ^ 53 := by rw [← Nat.pow_add]; congr 1; omega

theorem magnitudeBits_exact {m : Nat} (h0 : m ≠ 0) (h : m < 2 ^ 53) :
    magnitudeBits m = (m.log2 + 1022) * 2 ^ 52 + m * 2 ^ (52 - m.log2) := by
  have he : m.log2 ≤ 52 := Nat.lt_succ_iff.mp ((Nat.log2_lt h0).2 h)
  have hq := significand_bounds h0 he
  simp only [magnitudeBits, if_neg h0, if_pos he]
  exact min_eq_left (by omega)

/-- The word of an integer below 2^53 in magnitude decodes to it. -/
theorem f64Value_num {n : Int} (h : n.natAbs < 2 ^ 53) : f64Value (f64Bits (.num n)) = some (.num n) := by
  rcases Nat.eq_zero_or_pos n.natAbs with h0 | h0
  · obtain rfl : n = 0 := Int.natAbs_eq_zero.mp h0
    rfl
  set m := n.natAbs with hm
  have he : m.log2 ≤ 52 := Nat.lt_succ_iff.mp ((Nat.log2_lt h0.ne').2 h)
  obtain ⟨hq₁, hq₂⟩ := significand_bounds h0.ne' he
  set q := m * 2 ^ (52 - m.log2) with hq
  set s : Nat := if n < 0 then 2 ^ 63 else 0 with hs
  have hbits : f64Bits (.num n) = s + (m.log2 + 1023) * 2 ^ 52 + (q - 2 ^ 52) := by
    rw [f64Bits, magnitudeBits_exact h0.ne' h]
    omega
  have hexp : (s + (m.log2 + 1023) * 2 ^ 52 + (q - 2 ^ 52)) / 2 ^ 52 % 2048 = m.log2 + 1023 := by
    split_ifs at hs <;> omega
  have hfrac : (s + (m.log2 + 1023) * 2 ^ 52 + (q - 2 ^ 52)) % 2 ^ 52 = q - 2 ^ 52 := by
    split_ifs at hs <;> omega
  have hsign : ((s + (m.log2 + 1023) * 2 ^ 52 + (q - 2 ^ 52)) / 2 ^ 63 % 2 = 1) = (n < 0) := by
    split_ifs at hs with hn <;> simp only [hn, eq_iff_iff, iff_true, iff_false] <;> omega
  have hvalue : (if n < 0 then -(m : Int) else m) = n := by split_ifs <;> omega
  simp only [f64Value, hbits, hexp, hfrac, hsign]
  rw [if_neg (by omega), if_neg (by omega), show 2 ^ 52 + (q - 2 ^ 52) = q by omega]
  by_cases h52 : m.log2 = 52
  · rw [if_pos (by omega)]
    simpa [hq, h52] using hvalue
  · have hk : 1075 - (m.log2 + 1023) = 52 - m.log2 := by omega
    rw [if_neg (by omega), hk, hq, Nat.mul_mod_left, if_pos rfl,
      Nat.mul_div_cancel _ (Nat.two_pow_pos _), hvalue]

/-- The word of NaN or of an integer below 2^53 in magnitude decodes to it. -/
theorem f64Value_f64Bits {v : JsNumber} (hv : ∀ n, v = .num n → n.natAbs < 2 ^ 53) :
    f64Value (f64Bits v) = some v := by
  cases v with
  | nan => rfl
  | num n => exact f64Value_num (hv n rfl)

theorem f64Bits_lt (v : JsNumber) : f64Bits v < 2 ^ 64 := by
  have hm : ∀ m, magnitudeBits m ≤ 2047 * 2 ^ 52 := fun m => by
    unfold magnitudeBits
    split_ifs
    · exact Nat.zero_le _
    · exact min_le_right _ _
  cases v with
  | nan => decide
  | num n =>
    have := hm n.natAbs
    simp only [f64Bits]
    split_ifs <;> omega

theorem leValue_f64Bytes (v : JsNumber) : leValue (f64Bytes v) = f64Bits v := by
  rw [f64Bytes, leValue_leBytes]
  exact Nat.mod_eq_of_lt (f64Bits_lt v)

/-- The eight bytes `HEAPF64[slot] = v` stores read back as `v`, for NaN and every integer below
2^53 in magnitude. -/
theorem f64Value_leValue_f64Bytes {v : JsNumber} (hv : ∀ n, v = .num n → n.natAbs < 2 ^ 53) :
    f64Value (leValue (f64Bytes v)) = some v := by
  rw [leValue_f64Bytes, f64Value_f64Bits hv]

end DuckdbWasm
