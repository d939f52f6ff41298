import LogIntake.Proofs.Text.Numeral

/-!
# Canonical numerals

A number has many numerals, of which one is written. It is the one without a plus sign, without
superfluous zeros in front, and without a minus sign if the number is zero.

## Main definitions

- `Decimal.Canonical`: the form of the numerals that are written.

## Main statements

- `Decimal.toDigits_ofDigitChars`: digits without a zero in front are those of their value.
- `Decimal.eq_write_iff`: of the numerals of a number, the canonical one is written.
-/

namespace LogIntake.Decimal

variable {cs ds : List Char} {c : Char} {n : Int}

/-- No plus sign, no superfluous zero in front, and no minus sign in front of a zero. -/
structure Canonical (cs : List Char) : Prop where
  plus_ne : ∀ ds, cs ≠ '+' :: ds
  eq_nil_of_zero : ∀ ds, cs = '0' :: ds → ds = []
  minus_zero_ne : ∀ ds, cs ≠ '-' :: '0' :: ds

/-! ## Digits -/

theorem digit_lt (h : c.isDigit = true) : c.toNat - '0'.toNat < 10 := by
  have hhi := (Char.isDigit_iff_toNat.1 h).2
  have hzero : '0'.toNat = 48 := rfl
  have hnine : '9'.toNat = 57 := rfl
  omega

theorem digit_pos (h : c.isDigit = true) (hc : c ≠ '0') : 0 < c.toNat - '0'.toNat := by
  have hlo := (Char.isDigit_iff_toNat.1 h).1
  have hne : c.toNat ≠ '0'.toNat := fun heq => hc (Char.toNat_inj.1 heq)
  omega

/-- A digit is the numeral of its value. -/
theorem toDigits_digit (h : c.isDigit = true) : Nat.toDigits 10 (c.toNat - '0'.toNat) = [c] := by
  have hlo := (Char.isDigit_iff_toNat.1 h).1
  rw [Nat.toDigits_of_lt_base (digit_lt h), List.singleton_inj, ← Char.toNat_inj,
    Nat.toNat_digitChar_of_lt_ten (digit_lt h)]
  exact Nat.add_sub_cancel' hlo

/-- Digits behind a number that is not zero are its last digits. -/
theorem toDigits_ofDigitChars_of_pos (h : ∀ c ∈ ds, c.isDigit = true) {m : Nat} (hm : 0 < m) :
    Nat.toDigits 10 (Nat.ofDigitChars 10 ds m) = Nat.toDigits 10 m ++ ds := by
  induction ds generalizing m with
  | nil => rw [Nat.ofDigitChars_nil, List.append_nil]
  | cons c ds ih =>
    obtain ⟨hc, hds⟩ := List.forall_mem_cons.1 h
    rw [Nat.ofDigitChars_cons, ih hds (by omega),
      ← Nat.toDigits_append_toDigits (by decide) hm (digit_lt hc), toDigits_digit hc,
      List.append_assoc]
    rfl

/-- Digits without a superfluous zero in front are those of their value. -/
theorem toDigits_ofDigitChars (h : Digits (c :: ds)) (hc : c = '0' → ds = []) :
    Nat.toDigits 10 (Nat.ofDigitChars 10 (c :: ds) 0) = c :: ds := by
  obtain ⟨hdigit, hds⟩ := List.forall_mem_cons.1 h.2
  rw [Nat.ofDigitChars_cons, Nat.mul_zero, Nat.zero_add]
  by_cases hzero : c = '0'
  · rw [hc hzero, Nat.ofDigitChars_nil, toDigits_digit hdigit]
  · rw [toDigits_ofDigitChars_of_pos hds (digit_pos hdigit hzero), toDigits_digit hdigit]
    rfl

/-- Only the digits of zero begin with a zero. -/
theorem toDigits_ne_zero_cons {m : Nat} (hm : 0 < m) (ds : List Char) :
    Nat.toDigits 10 m ≠ '0' :: ds := by
  induction m using Nat.strongRecOn generalizing ds with
  | _ m ih =>
    rw [Nat.toDigits_eq_if (by decide)]
    split
    next hlt =>
      intro heq
      have hvalue := Nat.toNat_digitChar_of_lt_ten hlt
      rw [(List.cons.inj heq).1] at hvalue
      have hzero : '0'.toNat = 48 := rfl
      omega
    next hge =>
      -- The first digit is that of the number without its last digit.
      intro heq
      obtain ⟨first, rest, hfirst⟩ := List.exists_cons_of_ne_nil
        (Nat.toDigits_ne_nil (b := 10) (n := m / 10))
      rw [hfirst, List.cons_append] at heq
      rw [(List.cons.inj heq).1] at hfirst
      exact ih (m / 10) (by omega) (by omega) rest hfirst

/-! ## Numerals -/

theorem write_natCast (m : Nat) : write m = Nat.toDigits 10 m := rfl

theorem write_neg_of_pos {m : Nat} (hm : 0 < m) : write (-m) = '-' :: Nat.toDigits 10 m := by
  obtain ⟨k, rfl⟩ := Nat.exists_eq_add_of_lt hm
  rw [Nat.zero_add]
  rfl

theorem digits_toDigits (m : Nat) : Digits (Nat.toDigits 10 m) :=
  ⟨Nat.toDigits_ne_nil, fun _ => Nat.isDigit_of_mem_toDigits (by decide) (by decide)⟩

/-- What is written for a number is a numeral of it. -/
theorem numeral_write (n : Int) : Numeral (write n) n := by
  have hvalue : ∀ m, Nat.ofDigitChars 10 (Nat.toDigits 10 m) 0 = m := fun m =>
    Nat.ofDigitChars_ten_toDigits
  cases n with
  | ofNat m =>
    have hnumeral := Numeral.unsigned (digits_toDigits m)
    rw [hvalue] at hnumeral
    exact hnumeral
  | negSucc m =>
    have hnumeral := Numeral.minus (digits_toDigits (m + 1))
    rw [hvalue] at hnumeral
    exact hnumeral

theorem canonical_write (n : Int) : Canonical (write n) := by
  have hfirst : ∀ {m : Nat} {s : Char} {ds : List Char}, s.isDigit = false →
      Nat.toDigits 10 m ≠ s :: ds := fun {m s ds} hs heq => by
    have hdigits := digits_toDigits m
    rw [heq] at hdigits
    exact hdigits.head_ne hs rfl
  cases n with
  | ofNat m =>
    refine ⟨fun ds => hfirst (by decide), fun ds heq => ?_, fun ds => hfirst (by decide)⟩
    cases m with
    | zero => exact (List.cons.inj heq).2.symm
    | succ m => exact absurd heq (toDigits_ne_zero_cons (Nat.succ_pos m) ds)
  | negSucc m =>
    refine ⟨fun ds heq => ?_, fun ds heq => ?_, fun ds heq => ?_⟩
    · exact absurd (List.cons.inj heq).1 (by decide)
    · exact absurd (List.cons.inj heq).1 (by decide)
    · exact toDigits_ne_zero_cons (Nat.succ_pos m) ds (List.cons.inj heq).2

/-- Of the numerals of a number, the canonical one is written. -/
theorem eq_write_iff (h : Numeral cs n) : cs = write n ↔ Canonical cs := by
  constructor
  · intro heq
    rw [heq]
    exact canonical_write n
  · intro hcanonical
    cases h with
    | unsigned hds =>
      obtain ⟨c, ds, rfl⟩ := List.exists_cons_of_ne_nil hds.1
      have hzero : c = '0' → ds = [] := by
        rintro rfl
        exact hcanonical.eq_nil_of_zero ds rfl
      rw [write_natCast, toDigits_ofDigitChars hds hzero]
    | plus hds => exact absurd rfl (hcanonical.plus_ne _)
    | minus hds =>
      obtain ⟨c, ds, rfl⟩ := List.exists_cons_of_ne_nil hds.1
      have hzero : c ≠ '0' := by
        rintro rfl
        exact hcanonical.minus_zero_ne ds rfl
      -- The first digit is not zero, and the others do not make the number smaller.
      have hpos : 0 < Nat.ofDigitChars 10 (c :: ds) 0 := by
        rw [Nat.ofDigitChars_cons]
        have hfirst := digit_pos (hds.2 c List.mem_cons_self) hzero
        have hle := le_ofDigitChars ds (10 * 0 + (c.toNat - '0'.toNat))
        omega
      rw [write_neg_of_pos hpos, toDigits_ofDigitChars hds fun heq => absurd heq hzero]

end LogIntake.Decimal
