import LogIntake.Text.Blank
import Mathlib.Data.List.TakeWhile

/-!
# Texts without the blanks at their ends

What `Text.trim` leaves is said here without the two scans: it is the part of the text that has
no blank at either end, and what stands before and behind it are blanks.

## Main definitions

- `Text.Blanks`: nothing but blanks.
- `Text.Bare`: no blank at either end.

## Main statements

- `Text.trim_eq_iff`: what is left of a text.
- `Text.trim_eq_nil_iff`: nothing is left of blanks.
-/

namespace LogIntake.Text

/-- Nothing but blanks, or nothing at all. -/
def Blanks (cs : List Char) : Prop := ∀ c ∈ cs, isBlank c = true

/-- No blank at either end. -/
structure Bare (cs : List Char) : Prop where
  head : ∀ c ∈ cs.head?, isBlank c = false
  last : ∀ c ∈ cs.getLast?, isBlank c = false

variable {cs name front back : List Char}

theorem Blanks.reverse (h : Blanks cs) : Blanks cs.reverse :=
  fun c hc => h c (List.mem_reverse.1 hc)

theorem blanks_takeWhile (cs : List Char) : Blanks (cs.takeWhile isBlank) :=
  fun _ => List.mem_takeWhile_imp

/-- Blanks in front of a character that is none are dropped, and nothing else. -/
theorem dropWhile_isBlank_append (hfront : Blanks front)
    (hhead : ∀ c ∈ cs.head?, isBlank c = false) : (front ++ cs).dropWhile isBlank = cs := by
  rw [List.dropWhile_append_of_pos hfront]
  cases cs with
  | nil => rfl
  | cons c cs =>
    have hc := hhead c rfl
    rw [List.dropWhile_cons_of_neg (by simp [hc])]

theorem head_dropWhile_isBlank (cs : List Char) :
    ∀ c ∈ (cs.dropWhile isBlank).head?, isBlank c = false := by
  intro c hc
  have hnot := List.head?_dropWhile_not isBlank cs
  rw [Option.mem_def.1 hc] at hnot
  exact hnot

theorem trim_of_blanks (h : Blanks cs) : trim cs = [] := by
  have hdrop : cs.dropWhile isBlank = [] := List.dropWhile_eq_nil_iff.2 h
  rw [trim, hdrop]
  rfl

/-- Blanks around a bare text are removed, and nothing else. -/
theorem trim_append_append (hfront : Blanks front) (hname : Bare name) (hback : Blanks back) :
    trim (front ++ name ++ back) = name := by
  by_cases hempty : name = []
  · subst hempty
    refine trim_of_blanks fun c hc => ?_
    rw [List.append_nil] at hc
    exact (List.mem_append.1 hc).elim (hfront c) (hback c)
  · obtain ⟨c, rest, rfl⟩ := List.exists_cons_of_ne_nil hempty
    have hhead : ∀ c' ∈ (c :: rest ++ back).head?, isBlank c' = false := hname.head
    have hlast : ∀ c' ∈ (c :: rest).reverse.head?, isBlank c' = false := by
      rw [List.head?_reverse]
      exact hname.last
    rw [trim, List.append_assoc, dropWhile_isBlank_append hfront hhead, List.reverse_append,
      dropWhile_isBlank_append hback.reverse hlast, List.reverse_reverse]

/-- The scan from behind removes blanks from what the scan from the front has left. -/
theorem exists_trim_append (cs : List Char) :
    ∃ back, Blanks back ∧ trim cs ++ back = cs.dropWhile isBlank := by
  let rest := (cs.dropWhile isBlank).reverse
  refine ⟨(rest.takeWhile isBlank).reverse, (blanks_takeWhile rest).reverse, ?_⟩
  rw [trim, ← List.reverse_append, List.takeWhile_append_dropWhile, List.reverse_reverse]

/-- A text is what is left of it with blanks around. -/
theorem exists_eq_append_trim (cs : List Char) :
    ∃ front back, Blanks front ∧ Blanks back ∧ cs = front ++ trim cs ++ back := by
  obtain ⟨back, hback, hrest⟩ := exists_trim_append cs
  refine ⟨cs.takeWhile isBlank, back, blanks_takeWhile cs, hback, ?_⟩
  rw [List.append_assoc, hrest, List.takeWhile_append_dropWhile]

theorem bare_trim (cs : List Char) : Bare (trim cs) where
  head := by
    intro c hc
    obtain ⟨back, -, hrest⟩ := exists_trim_append cs
    refine head_dropWhile_isBlank cs c ?_
    rw [← hrest, List.head?_append, Option.mem_def.1 hc]
    rfl
  last := by
    intro c hc
    rw [trim, List.getLast?_reverse] at hc
    exact head_dropWhile_isBlank _ c hc

/-- What is left of a text: the bare part of it that has only blanks around. -/
theorem trim_eq_iff :
    trim cs = name ↔
      Bare name ∧ ∃ front back, Blanks front ∧ Blanks back ∧ cs = front ++ name ++ back := by
  constructor
  · rintro rfl
    exact ⟨bare_trim cs, exists_eq_append_trim cs⟩
  · rintro ⟨hname, front, back, hfront, hback, rfl⟩
    exact trim_append_append hfront hname hback

theorem trim_eq_nil_iff : trim cs = [] ↔ Blanks cs := by
  constructor
  · intro h c hc
    obtain ⟨-, front, back, hfront, hback, rfl⟩ := trim_eq_iff.1 h
    rw [List.append_nil] at hc
    exact (List.mem_append.1 hc).elim (hfront c) (hback c)
  · exact trim_of_blanks

end LogIntake.Text
