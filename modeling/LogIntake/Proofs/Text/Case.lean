import LogIntake.Settings
import Mathlib.Data.List.Forall2

/-!
# Words in any case

The words for options are compared in lower case. Which texts are such a word is said here letter
by letter: each letter of the word stands there as it is or as a capital. Characters beyond ASCII
have no part in it.

## Main definitions

- `AnyCase`: the spellings of a word.

## Main statements

- `map_toLower_eq_iff`: the texts that are a word in lower case.
- `turnsOn_iff`: the texts that turn an option on.
-/

namespace LogIntake

/-- A text is a word, of which each letter may be a capital. -/
def AnyCase (word cs : List Char) : Prop :=
  List.Forall₂ (fun c l => c = l ∨ c = l.toUpper) cs word

/-- The characters that become a given letter in lower case are the letter and its capital. -/
theorem toLower_eq_iff {c l : Char} (hl : l.isLower = true) :
    c.toLower = l ↔ c = l ∨ c = l.toUpper := by
  obtain ⟨hfirst, hlast⟩ := Bool.and_eq_true_iff.1 hl
  have hletter : l.val ≥ 'a'.val ∧ l.val ≤ 'z'.val :=
    ⟨of_decide_eq_true hfirst, of_decide_eq_true hlast⟩
  have hlo : 97 ≤ l.val.toNat := UInt32.le_iff_toNat_le.1 hletter.1
  have hhi : l.val.toNat ≤ 122 := UInt32.le_iff_toNat_le.1 hletter.2
  have hdown : ('A'.val - 'a'.val).toNat = 4294967264 := by decide
  have hup : ('a'.val - 'A'.val).toNat = 32 := by decide
  have hcapital : l.toUpper.val.toNat = l.val.toNat - 32 := by
    have hupper : l.toUpper = ⟨l.val + ('A'.val - 'a'.val), _⟩ := dif_pos hletter
    rw [hupper, UInt32.toNat_add, hdown]
    omega
  simp only [Char.ext_iff, ← UInt32.toNat_inj, hcapital]
  by_cases hc : c.val ≥ 'A'.val ∧ c.val ≤ 'Z'.val
  · have hclo : 65 ≤ c.val.toNat := UInt32.le_iff_toNat_le.1 hc.1
    have hchi : c.val.toNat ≤ 90 := UInt32.le_iff_toNat_le.1 hc.2
    have hlower : c.toLower = ⟨c.val + ('a'.val - 'A'.val), _⟩ := dif_pos hc
    rw [hlower, UInt32.toNat_add, hup]
    omega
  · have hother : ¬ (65 ≤ c.val.toNat ∧ c.val.toNat ≤ 90) := fun h =>
      hc ⟨UInt32.le_iff_toNat_le.2 h.1, UInt32.le_iff_toNat_le.2 h.2⟩
    have hlower : c.toLower = c := dif_neg hc
    rw [hlower]
    omega

theorem map_toLower_eq_iff {word cs : List Char} (hword : ∀ l ∈ word, l.isLower = true) :
    cs.map Char.toLower = word ↔ AnyCase word cs := by
  induction word generalizing cs with
  | nil => rw [List.map_eq_nil_iff, AnyCase, List.forall₂_nil_right_iff]
  | cons l word ih =>
    obtain ⟨hl, hword⟩ := List.forall_mem_cons.1 hword
    cases cs with
    | nil => exact ⟨nofun, nofun⟩
    | cons c cs =>
      rw [List.map_cons, List.cons.injEq, toLower_eq_iff hl, ih hword, AnyCase, AnyCase,
        List.forall₂_cons]

theorem turnsOn_iff {s : String} : turnsOn s = true ↔ AnyCase "true".toList s.toList := by
  have hword : ∀ l ∈ "true".toList, l.isLower = true := List.all_eq_true.1 (by decide)
  have hlower : s.toLower.toList = s.toList.map Char.toLower := String.toList_map
  rw [turnsOn, decide_eq_true_iff, ← map_toLower_eq_iff hword, ← hlower, String.toList_inj]

end LogIntake
