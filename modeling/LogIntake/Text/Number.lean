/-!
# Texts of numbers

A number has an optional sign, digits with or without a point, and an optional exponent. Words
for the infinite and for what is no number count as numbers too.
-/

namespace LogIntake.Text

/-- A text without a sign at its start. -/
def dropSign : List Char → List Char
  | '+' :: rest => rest
  | '-' :: rest => rest
  | cs => cs

/-- The words that stand for numbers, in capital letters. -/
def numberWords : List String := ["INF", "INFINITY", "NAN"]

/-- What stands behind the digits of a number: nothing, or an exponent with at least one digit. -/
def isExponent : List Char → Bool
  | [] => true
  | mark :: rest =>
    let digits := dropSign rest
    (mark == 'e' || mark == 'E') && ! digits.isEmpty && digits.all Char.isDigit

/-- Digits, of which some may stand behind a point, and an optional exponent. -/
def isUnsignedDecimal (cs : List Char) : Bool :=
  match cs.span Char.isDigit with
  | (whole, '.' :: rest) =>
    let fraction := rest.takeWhile Char.isDigit
    ! (whole.isEmpty && fraction.isEmpty) && isExponent (rest.dropWhile Char.isDigit)
  | (whole, rest) => ! whole.isEmpty && isExponent rest

/-- The text is a number. Words may be in any ASCII case. -/
def isNumber (cs : List Char) : Bool :=
  let body := dropSign cs
  numberWords.contains (String.ofList body).toUpper || isUnsignedDecimal body

end LogIntake.Text
