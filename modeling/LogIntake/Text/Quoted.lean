import LogIntake.Text.GraphemeExtend
import LogIntake.Text.Unprintable

/-!
# Quoted strings for diagnostics

A string as it is shown to a developer: in quotation marks, with escapes for all that would not
be seen.
-/

namespace LogIntake.Text

/-- The escape of a character by its code point, with hexadecimal digits between braces. -/
def escapeCode (c : Char) : List Char := '\\' :: 'u' :: '{' :: Nat.toDigits 16 c.toNat ++ ['}']

/-- The sound marks of halfwidth Katakana. They extend a grapheme and are yet letters with a width
of their own. -/
def isHalfwidthSoundMark (c : Char) : Bool := c == '\uff9e' || c == '\uff9f'

/-- The character would not be seen as one of its own. -/
def isHidden (c : Char) : Bool :=
  isUnprintable c || isGraphemeExtend c && ! isHalfwidthSoundMark c

/-- A character within quotation marks. -/
def escapeQuoted (c : Char) : List Char :=
  match c with
  | '\x00' => ['\\', '0']
  | '\t' => ['\\', 't']
  | '\r' => ['\\', 'r']
  | '\n' => ['\\', 'n']
  | '"' => ['\\', '"']
  | '\\' => ['\\', '\\']
  | _ => if isHidden c then escapeCode c else [c]

def quoted (s : String) : String := .ofList ('"' :: s.toList.flatMap escapeQuoted ++ ['"'])

/-- Strings in quotation marks, as a list in brackets. -/
def quotedList (l : List String) : String :=
  "[" ++ String.intercalate ", " (l.map quoted) ++ "]"

end LogIntake.Text
