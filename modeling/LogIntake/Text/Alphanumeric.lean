import LogIntake.Text.Alphabetic
import LogIntake.Text.Numeric

/-!
# Letters and numbers

The characters of which names are made.
-/

namespace LogIntake.Text

def isAlphanumeric (c : Char) : Bool := isAlphabetic c || isNumeric c

end LogIntake.Text
