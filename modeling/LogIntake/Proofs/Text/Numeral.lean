import LogIntake.Text.Decimal

/-!
# The numerals that can be read

Which texts are numerals, and of which numbers, is said here without the scan: an optional sign
and decimal digits, whose value is the positional one. `Decimal.read` accepts exactly the numerals
of the numbers within its bounds.

## Main definitions

- `Decimal.Digits`: at least one decimal digit, and nothing else.
- `Decimal.Numeral`: the numerals of a number.

## Main statements

- `Decimal.read_eq_ok_iff`: what is read, for any bounds.
- `Decimal.read_eq_ok_iff_of_neg`: the same for a field with negative numbers, where every sign is
  accepted.
-/

namespace LogIntake.Decimal

/-- At least one character, and decimal digits only. -/
def Digits (cs : List Char) : Prop := cs ≠ [] ∧ ∀ c ∈ cs, c.isDigit = true

/-- `Numeral cs n`: one sign at most, and digits with the absolute value of `n`. -/
inductive Numeral : List Char → Int → Prop
  | unsigned {ds : List Char} (h : Digits ds) : Numeral ds (Nat.ofDigitChars 10 ds 0)
  | plus {ds : List Char} (h : Digits ds) : Numeral ('+' :: ds) (Nat.ofDigitChars 10 ds 0)
  | minus {ds : List Char} (h : Digits ds) : Numeral ('-' :: ds) (-Nat.ofDigitChars 10 ds 0)

variable {b : Bounds} {sign : Int} {cs : List Char} {n : Int}

/-! ## Digits -/

theorem digit?_eq_of_isDigit {c : Char} (h : c.isDigit = true) :
    digit? c = some (c.toNat - '0'.toNat) := if_pos h

theorem digit?_eq_none_iff {c : Char} : digit? c = none ↔ ¬ c.isDigit = true := by
  simp [digit?]

theorem le_ofDigitChars (cs : List Char) (n : Nat) : n ≤ Nat.ofDigitChars 10 cs n := by
  induction cs generalizing n with
  | nil => exact Nat.le_refl n
  | cons c cs ih =>
    rw [Nat.ofDigitChars_cons]
    have hnext := ih (10 * n + (c.toNat - '0'.toNat))
    omega

/-- Numbers of smaller absolute value fit as well, since the bounds hold zero. -/
theorem Bounds.holds_of_le (hsign : sign = 1 ∨ sign = -1) {k m : Nat} (hm : b.Holds (sign * m))
    (hle : k ≤ m) : b.Holds (sign * k) := by
  have hlo := b.lo_le_zero
  have hhi := b.zero_le_hi
  obtain ⟨hmlo, hmhi⟩ := hm
  rcases hsign with rfl | rfl <;> exact ⟨by omega, by omega⟩

/-- One step of the scan: a digit that keeps the number within the bounds. -/
theorem readDigits_cons_eq_ok_iff {m : Int} {c : Char} :
    readDigits b sign m (c :: cs) = .ok n ↔
      c.isDigit = true ∧ b.Holds (10 * m + sign * ↑(c.toNat - '0'.toNat)) ∧
        readDigits b sign (10 * m + sign * ↑(c.toNat - '0'.toNat)) cs = .ok n := by
  rw [readDigits]
  by_cases hc : c.isDigit = true
  · rw [digit?_eq_of_isDigit hc]
    simp only [hc, true_and]
    generalize 10 * m + sign * ((c.toNat - '0'.toNat : Nat) : Int) = next
    split
    next h => simp [Bounds.Holds, Int.not_le.2 h]
    next hlo =>
      split
      next h => simp [Bounds.Holds, Int.not_le.2 h]
      next hhi => simp [Bounds.Holds, Int.not_lt.1 hlo, Int.not_lt.1 hhi]
  · rw [digit?_eq_none_iff.2 hc]
    simp [hc]

/-- The scan reads the positional value of the digits. It tests the bounds at every digit, but the
numbers on the way are the smaller ones. -/
theorem readDigits_eq_ok_iff (hsign : sign = 1 ∨ sign = -1) {m : Nat} (hm : b.Holds (sign * m)) :
    readDigits b sign (sign * m) cs = .ok n ↔
      (∀ c ∈ cs, c.isDigit = true) ∧ n = sign * Nat.ofDigitChars 10 cs m ∧ b.Holds n := by
  induction cs generalizing m with
  | nil =>
    rw [readDigits, Except.ok.injEq, Nat.ofDigitChars_nil]
    constructor
    · rintro rfl
      exact ⟨by simp, rfl, hm⟩
    · exact fun h => h.2.1.symm
  | cons c cs ih =>
    rw [readDigits_cons_eq_ok_iff, List.forall_mem_cons, Nat.ofDigitChars_cons, and_assoc]
    generalize c.toNat - '0'.toNat = d
    have hnext : 10 * (sign * (m : Int)) + sign * d = sign * ((10 * m + d : Nat) : Int) := by
      push_cast
      rcases hsign with rfl | rfl <;> omega
    rw [hnext]
    refine and_congr_right fun _ => ?_
    constructor
    · rintro ⟨hfits, hread⟩
      exact (ih hfits).1 hread
    · rintro ⟨hdigits, rfl, hn⟩
      have hfits : b.Holds (sign * ((10 * m + d : Nat) : Int)) :=
        Bounds.holds_of_le hsign hn (le_ofDigitChars cs _)
      exact ⟨hfits, (ih hfits).2 ⟨hdigits, rfl, hn⟩⟩

theorem readDigits_zero_eq_ok_iff (hsign : sign = 1 ∨ sign = -1) :
    readDigits b sign 0 cs = .ok n ↔
      (∀ c ∈ cs, c.isDigit = true) ∧ n = sign * Nat.ofDigitChars 10 cs 0 ∧ b.Holds n := by
  have hzero : b.Holds (sign * (0 : Nat)) := by
    rw [Int.natCast_zero, Int.mul_zero]
    exact ⟨b.lo_le_zero, b.zero_le_hi⟩
  have hread := @readDigits_eq_ok_iff b sign cs n hsign 0 hzero
  rwa [Int.natCast_zero, Int.mul_zero] at hread

theorem readSome_eq_ok_iff (hsign : sign = 1 ∨ sign = -1) :
    readSome b sign cs = .ok n ↔
      Digits cs ∧ n = sign * Nat.ofDigitChars 10 cs 0 ∧ b.Holds n := by
  cases cs with
  | nil => simp [readSome, Digits]
  | cons c cs =>
    rw [readSome, if_neg (by simp), readDigits_zero_eq_ok_iff hsign]
    simp [Digits]

/-! ## Signs -/

theorem Digits.head_ne {c : Char} (h : Digits (c :: cs)) {s : Char} (hs : s.isDigit = false) :
    c ≠ s := by
  rintro rfl
  rw [h.2 c List.mem_cons_self] at hs
  cases hs

theorem numeral_plus_iff : Numeral ('+' :: cs) n ↔ Digits cs ∧ n = Nat.ofDigitChars 10 cs 0 := by
  constructor
  · rintro (hds | hds)
    · exact absurd rfl (hds.head_ne (by decide))
    · exact ⟨hds, rfl⟩
  · rintro ⟨hds, rfl⟩
    exact .plus hds

theorem numeral_minus_iff : Numeral ('-' :: cs) n ↔ Digits cs ∧ n = -Nat.ofDigitChars 10 cs 0 := by
  constructor
  · rintro (hds | _ | hds)
    · exact absurd rfl (hds.head_ne (by decide))
    · exact ⟨hds, rfl⟩
  · rintro ⟨hds, rfl⟩
    exact .minus hds

theorem numeral_unsigned_iff {c : Char} (hplus : c ≠ '+') (hminus : c ≠ '-') :
    Numeral (c :: cs) n ↔ Digits (c :: cs) ∧ n = Nat.ofDigitChars 10 (c :: cs) 0 := by
  constructor
  · rintro (hds | hds)
    · exact ⟨hds, rfl⟩
    · exact absurd rfl hplus
    · exact absurd rfl hminus
  · rintro ⟨hds, rfl⟩
    exact .unsigned hds

theorem not_numeral_nil : ¬ Numeral [] n := by
  intro h
  cases h with
  | unsigned hds => exact hds.1 rfl

/-- What is read: the numerals of the numbers within the bounds. A field without negative numbers
refuses the minus sign, also that of zero. -/
theorem read_eq_ok_iff (b : Bounds) :
    read b cs = .ok n ↔ Numeral cs n ∧ b.Holds n ∧ (cs.head? = some '-' → b.lo < 0) := by
  cases cs with
  | nil => simp [read, not_numeral_nil]
  | cons c cs =>
    rw [read, List.head?_cons, Option.some.injEq]
    by_cases hplus : c = '+'
    · subst hplus
      rw [if_pos rfl, readSome_eq_ok_iff (.inl rfl), numeral_plus_iff, Int.one_mul]
      simp [and_assoc]
    · rw [if_neg hplus]
      by_cases hminus : c = '-'
      · subst hminus
        by_cases hlo : b.lo < 0
        · rw [if_pos ⟨rfl, hlo⟩, readSome_eq_ok_iff (.inr rfl), numeral_minus_iff, Int.neg_one_mul]
          simp [hlo, and_assoc]
        · rw [if_neg fun h => hlo h.2, readDigits_zero_eq_ok_iff (.inl rfl)]
          refine iff_of_false (fun h => ?_) fun h => hlo (h.2.2 rfl)
          exact absurd (h.1 '-' List.mem_cons_self) (by decide)
      · rw [if_neg fun h => hminus h.1, readDigits_zero_eq_ok_iff (.inl rfl), Int.one_mul,
          numeral_unsigned_iff hplus hminus]
        simp [Digits, hminus, and_assoc]

/-- A field with negative numbers reads the numerals of the numbers within its bounds. -/
theorem read_eq_ok_iff_of_neg (hlo : b.lo < 0) : read b cs = .ok n ↔ Numeral cs n ∧ b.Holds n := by
  rw [read_eq_ok_iff]
  simp [hlo]

end LogIntake.Decimal
