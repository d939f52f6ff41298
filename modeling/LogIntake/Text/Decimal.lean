/-!
# Decimal numerals of bounded integers

A number is written with an optional minus sign and its decimal digits. Reading is more lenient
than writing: a plus sign and leading zeros are allowed, and a number is refused as soon as the
digits read so far leave the bounds of its field.

## Main definitions

- `Decimal.write`: the canonical numeral of an integer.
- `Decimal.Bounds`: what a field can hold, such as 32 or 64 bits.
- `Decimal.read`: the number of a numeral, or why there is none.

## Main statements

- `Decimal.read_write`: reading a canonical numeral gives its number back.
-/

namespace LogIntake.Decimal

/-- The canonical numeral: no plus sign and no superfluous zero. -/
def write : Int → List Char
  | .ofNat n => Nat.toDigits 10 n
  | .negSucc n => '-' :: Nat.toDigits 10 (n + 1)

def render (n : Int) : String := String.ofList (write n)

/-- The least and the greatest number that a field can hold. Zero is always one of them. -/
structure Bounds where
  lo : Int
  hi : Int
  lo_le_zero : lo ≤ 0 := by decide
  zero_le_hi : 0 ≤ hi := by decide

namespace Bounds

def Holds (b : Bounds) (n : Int) : Prop := b.lo ≤ n ∧ n ≤ b.hi

instance (b : Bounds) (n : Int) : Decidable (b.Holds n) := inferInstanceAs (Decidable (_ ∧ _))

def signed32 : Bounds where
  lo := -2147483648
  hi := 2147483647

def signed64 : Bounds where
  lo := -9223372036854775808
  hi := 9223372036854775807

def unsigned64 : Bounds where
  lo := 0
  hi := 18446744073709551615

end Bounds

/-- Why a text is not the numeral of a number within the bounds. -/
inductive ReadError where
  | empty
  | invalidDigit
  | tooLarge
  | tooSmall
  deriving DecidableEq, Repr

def ReadError.message : ReadError → String
  | .empty => "cannot parse integer from empty string"
  | .invalidDigit => "invalid digit found in string"
  | .tooLarge => "number too large to fit in target type"
  | .tooSmall => "number too small to fit in target type"

def digit? (c : Char) : Option Nat := if c.isDigit then some (c.toNat - '0'.toNat) else none

/-- Reads digits from left to right behind a number read so far, each digit counted with `sign`.
At each character a bad digit is reported first, then a number out of bounds. -/
def readDigits (b : Bounds) (sign : Int) : Int → List Char → Except ReadError Int
  | n, [] => .ok n
  | n, c :: cs =>
    match digit? c with
    | none => .error .invalidDigit
    | some d =>
      let next := 10 * n + sign * d
      if next < b.lo then .error .tooSmall
      else if b.hi < next then .error .tooLarge
      else readDigits b sign next cs

def readSome (b : Bounds) (sign : Int) (cs : List Char) : Except ReadError Int :=
  if cs.isEmpty then .error .invalidDigit else readDigits b sign 0 cs

/-- Reads a numeral: one sign at most, where a minus sign is a bad digit unless the field holds
negative numbers, and then at least one digit. -/
def read (b : Bounds) : List Char → Except ReadError Int
  | [] => .error .empty
  | c :: cs =>
    if c = '+' then readSome b 1 cs
    else if c = '-' ∧ b.lo < 0 then readSome b (-1) cs
    else readDigits b 1 0 (c :: cs)

/-! ## Reading a canonical numeral -/

theorem digit?_digitChar {d : Nat} (h : d < 10) : digit? d.digitChar = some d := by
  have hd : d.digitChar.toNat = '0'.toNat + d := by
    rw [Nat.toNat_digitChar_of_lt_ten h]; rfl
  have hdigit : d.digitChar.isDigit := Char.isDigit_iff_toNat.2 (by rw [hd]; decide +revert)
  simp [digit?, hdigit, hd]

theorem readDigits_append (b : Bounds) (sign n : Int) (xs ys : List Char) :
    readDigits b sign n (xs ++ ys) = (readDigits b sign n xs).bind (readDigits b sign · ys) := by
  induction xs generalizing n with
  | nil => rfl
  | cons c cs ih =>
    simp only [List.cons_append, readDigits]
    split
    · rfl
    · split
      · rfl
      · split
        · rfl
        · exact ih _

/-- Canonical digits read back, where every number on the way is within the bounds. -/
theorem readDigits_toDigits {b : Bounds} {sign : Int} (hsign : sign = 1 ∨ sign = -1) {n : Nat}
    (hn : b.Holds (sign * n)) :
    readDigits b sign 0 (Nat.toDigits 10 n) = .ok (sign * n) := by
  have hb := b.lo_le_zero
  have hb' := b.zero_le_hi
  obtain ⟨hlo, hhi⟩ := hn
  induction n using Nat.strongRecOn with
  | _ n ih =>
    rw [Nat.toDigits_eq_if (by decide)]
    split
    next hlt =>
      simp only [readDigits, digit?_digitChar hlt]
      rw [if_neg (by omega), if_neg (by omega)]
      simp
    next hge =>
      have hdiv := Int.emod_add_mul_ediv n 10
      have hprev : readDigits b sign 0 (Nat.toDigits 10 (n / 10)) = .ok (sign * ↑(n / 10)) :=
        ih (n / 10) (by omega) (by rcases hsign with rfl | rfl <;> omega)
          (by rcases hsign with rfl | rfl <;> omega)
      have hnext : 10 * (sign * ↑(n / 10)) + sign * ↑(n % 10) = sign * (n : Int) := by
        rcases hsign with rfl | rfl <;> omega
      rw [readDigits_append, hprev]
      simp only [Except.bind, readDigits, digit?_digitChar (Nat.mod_lt n (by decide)), hnext]
      rw [if_neg (by omega), if_neg (by omega)]

theorem readSome_toDigits {b : Bounds} {sign : Int} (hsign : sign = 1 ∨ sign = -1) {n : Nat}
    (hn : b.Holds (sign * n)) :
    readSome b sign (Nat.toDigits 10 n) = .ok (sign * n) := by
  rw [readSome, if_neg (by simp [Nat.toDigits_ne_nil]), readDigits_toDigits hsign hn]

/-- A canonical numeral within the bounds reads back. -/
theorem read_write {b : Bounds} {n : Int} (hn : b.Holds n) : read b (write n) = .ok n := by
  cases n with
  | ofNat n =>
    have hdigits : readDigits b 1 0 (Nat.toDigits 10 n) = .ok (1 * (n : Int)) :=
      readDigits_toDigits (.inl rfl) (by simpa using hn)
    have hall : ∀ c ∈ Nat.toDigits 10 n, c.isDigit := fun c hc =>
      Nat.isDigit_of_mem_toDigits (by decide) (by decide) hc
    simp only [write]
    cases hd : Nat.toDigits 10 n with
    | nil => exact absurd hd Nat.toDigits_ne_nil
    | cons c cs =>
      have hc : c.isDigit := hall c (by simp [hd])
      have hplus : c ≠ '+' := by rintro rfl; exact absurd hc (by decide)
      have hminus : c ≠ '-' := by rintro rfl; exact absurd hc (by decide)
      rw [read, if_neg hplus, if_neg (by simp [hminus]), ← hd, hdigits]
      simp
  | negSucc n =>
    have hlo : b.lo < 0 := by have := hn.1; omega
    simp only [write, read]
    rw [if_neg (by decide), if_pos (by simp [hlo]),
      readSome_toDigits (.inr rfl) (by simpa [Int.negSucc_eq] using hn)]
    simp [Int.negSucc_eq]

end LogIntake.Decimal
