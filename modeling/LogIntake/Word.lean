/-!
# Arithmetic on words of 64 bits

The operations on offsets and budgets that core does not have.

## Main statements

- `Word.toInt_add`, `Word.toInt_sub`: a sum or a difference that fits a word is exact.
- `Word.toInt_saturatingAdd`, `Word.toInt_ceilDiv`, `Word.toInt_ofCount`: what the operations here
  compute.
-/

namespace LogIntake.Word

def greatest : Int64 := .maxValue

def least : Int64 := .minValue

/-- The sum of two words, or the greatest or least word where the sum does not fit. -/
def saturatingAdd (a b : Int64) : Int64 :=
  let sum := a.toInt + b.toInt
  if sum < least.toInt then least
  else if greatest.toInt < sum then greatest
  else .ofInt sum

/-- The quotient rounded up, for a dividend of at least zero and a positive divisor. -/
def ceilDiv (dividend divisor : Int64) : Int64 :=
  let quotient := dividend / divisor
  if dividend % divisor = 0 then quotient else quotient + 1

/-- A count as a word. No list in memory is longer than the greatest word, which stands for all
counts beyond it. -/
def ofCount (n : Nat) : Int64 := if n ≤ greatest.toInt.toNat then .ofNat n else greatest

/-- A number can be held by a word. -/
def Fits (n : Int) : Prop := least.toInt ≤ n ∧ n ≤ greatest.toInt

theorem toInt_least : least.toInt = -9223372036854775808 := rfl

theorem toInt_greatest : greatest.toInt = 9223372036854775807 := rfl

theorem fits_iff {n : Int} : Fits n ↔ -9223372036854775808 ≤ n ∧ n ≤ 9223372036854775807 := Iff.rfl

theorem fits_toInt (a : Int64) : Fits a.toInt :=
  ⟨a.le_toInt, Int.le_of_lt_add_one a.toInt_lt⟩

theorem toInt_add {a b : Int64} (h : Fits (a.toInt + b.toInt)) :
    (a + b).toInt = a.toInt + b.toInt := by
  rw [fits_iff] at h
  rw [Int64.toInt_add, Int.bmod_eq_of_le (by omega) (by omega)]

theorem toInt_sub {a b : Int64} (h : Fits (a.toInt - b.toInt)) :
    (a - b).toInt = a.toInt - b.toInt := by
  rw [fits_iff] at h
  rw [Int64.toInt_sub, Int.bmod_eq_of_le (by omega) (by omega)]

theorem toInt_min (a b : Int64) : (min a b).toInt = min a.toInt b.toInt := by
  have hmin : min a b = if a ≤ b then a else b := rfl
  rw [hmin]
  split
  next h => exact (Int.min_eq_left (Int64.le_iff_toInt_le.1 h)).symm
  next h =>
    rw [Int64.le_iff_toInt_le] at h
    omega

theorem toInt_ofInt {n : Int} (h : Fits n) : (Int64.ofInt n).toInt = n := by
  rw [fits_iff] at h
  exact Int64.toInt_ofInt_of_le (by omega) (by omega)

/-- A count that a word can hold is exact. -/
theorem toInt_ofCount (n : Nat) : (ofCount n).toInt = min greatest.toInt n := by
  simp only [ofCount]
  rw [toInt_greatest]
  split
  next h => rw [Int64.toInt_ofNat_of_lt (by omega)]; omega
  next h => rw [toInt_greatest]; omega

/-- A saturated sum is the exact one, cut to the range of words. -/
theorem toInt_saturatingAdd (a b : Int64) :
    (saturatingAdd a b).toInt = max least.toInt (min greatest.toInt (a.toInt + b.toInt)) := by
  simp only [saturatingAdd]
  rw [toInt_least, toInt_greatest]
  split
  next h => rw [toInt_least]; omega
  next h =>
    split
    next h' => rw [toInt_greatest]; omega
    next h' => rw [toInt_ofInt (fits_iff.2 (by omega))]; omega

theorem toInt_div {a : Int64} (ha : 0 ≤ a.toInt) (b : Int64) :
    (a / b).toInt = a.toInt / b.toInt := by
  have hne : a ≠ Int64.minValue := by
    rintro rfl
    exact absurd ha (by decide)
  rw [Int64.toInt_div_of_ne_left a b hne, Int.tdiv_eq_ediv_of_nonneg ha]

theorem toInt_mod {a : Int64} (ha : 0 ≤ a.toInt) (b : Int64) :
    (a % b).toInt = a.toInt % b.toInt := by
  rw [Int64.toInt_mod, Int.tmod_eq_emod_of_nonneg ha]

theorem toInt_mod_pos {a b : Int64} (ha : 0 ≤ a.toInt) (hb : 0 < b.toInt) (h : a % b ≠ 0) :
    0 < a.toInt % b.toInt := by
  have hrem0 := Int.emod_nonneg a.toInt (Int.ne_of_gt hb)
  have hne0 : a.toInt % b.toInt ≠ 0 := fun e => h (Int64.toInt_inj.1 ((toInt_mod ha b).trans e))
  omega

/-- Where a division leaves a rest, there is room for one more above the quotient. -/
theorem toInt_div_lt {a b : Int64} (ha : 0 ≤ a.toInt) (hb : 0 < b.toInt) (h : a % b ≠ 0) :
    a.toInt / b.toInt < a.toInt := by
  have hpos := toInt_mod_pos ha hb h
  have hmul : a.toInt / b.toInt ≤ b.toInt * (a.toInt / b.toInt) := by
    simpa using Int.mul_le_mul_of_nonneg_right (show (1 : Int) ≤ b.toInt from hb)
      (Int.ediv_nonneg ha (Int.le_of_lt hb))
  have hsplit := Int.mul_ediv_add_emod a.toInt b.toInt
  omega

/-- A quotient rounded up is the exact one of unbounded numbers. -/
theorem toInt_ceilDiv {a b : Int64} (ha : 0 ≤ a.toInt) (hb : 0 < b.toInt) :
    (ceilDiv a b).toInt = (a.toInt + b.toInt - 1) / b.toInt := by
  have hquot := toInt_div ha b
  have hrem := toInt_mod ha b
  have hsplit := Int.mul_ediv_add_emod a.toInt b.toInt
  have hrem0 := Int.emod_nonneg a.toInt (Int.ne_of_gt hb)
  have hremlt := Int.emod_lt_of_pos a.toInt hb
  have hquot0 := Int.ediv_nonneg ha (Int.le_of_lt hb)
  have hup : ∀ r, (b.toInt * (a.toInt / b.toInt) + r) / b.toInt
      = a.toInt / b.toInt + r / b.toInt := fun r => by
    rw [Int.add_comm, Int.add_mul_ediv_left _ _ (Int.ne_of_gt hb), Int.add_comm]
  have hsum : a.toInt + b.toInt - 1
      = b.toInt * (a.toInt / b.toInt) + (a.toInt % b.toInt + b.toInt - 1) := by omega
  rw [hsum, hup]
  simp only [ceilDiv]
  split
  next h =>
    have hzero : a.toInt % b.toInt = 0 := by rw [← hrem, h]; rfl
    have hrest : (0 + b.toInt - 1) / b.toInt = 0 := Int.ediv_eq_zero_of_lt (by omega) (by omega)
    rw [hquot, hzero, hrest]
    omega
  next h =>
    have hpos := toInt_mod_pos ha hb h
    have hone : (a.toInt % b.toInt + b.toInt - 1) / b.toInt = 1 := by
      rw [show a.toInt % b.toInt + b.toInt - 1 = (a.toInt % b.toInt - 1) + b.toInt * 1 by omega,
        Int.add_mul_ediv_left _ _ (Int.ne_of_gt hb), Int.ediv_eq_zero_of_lt (by omega) (by omega)]
      rfl
    have hsmall := toInt_div_lt ha hb h
    have hlt := a.toInt_lt
    have htoInt : (1 : Int64).toInt = 1 := rfl
    rw [toInt_add (fits_iff.2 (by omega)), hquot, hone, htoInt]

end LogIntake.Word
