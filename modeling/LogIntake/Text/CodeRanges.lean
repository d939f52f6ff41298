/-!
# Ranges of code points

Properties of characters are given as lists of ranges of code points in ascending order.

## Main definitions

- `CodeRanges`: ranges that ascend.
- `CodeRanges.contains`: a character has the property.
-/

namespace LogIntake.Text

/-- Each range ends where it starts or later, and before the next one starts. -/
def CodeRanges.Ascending : List (Nat × Nat) → Prop
  | [] => True
  | [r] => r.1 ≤ r.2
  | r :: s :: rest => r.1 ≤ r.2 ∧ r.2 < s.1 ∧ Ascending (s :: rest)

instance CodeRanges.decidableAscending :
    (ranges : List (Nat × Nat)) → Decidable (Ascending ranges)
  | [] => isTrue trivial
  | [r] => inferInstanceAs (Decidable (r.1 ≤ r.2))
  | r :: s :: rest =>
    have := decidableAscending (s :: rest)
    inferInstanceAs (Decidable (r.1 ≤ r.2 ∧ r.2 < s.1 ∧ Ascending (s :: rest)))

/-- Ranges of code points, each with its first and its last one. -/
structure CodeRanges where
  ranges : List (Nat × Nat)
  ascending : CodeRanges.Ascending ranges

def CodeRanges.contains (table : CodeRanges) (c : Char) : Bool :=
  table.ranges.any fun r => r.1 ≤ c.toNat && c.toNat ≤ r.2

end LogIntake.Text
