import LogIntake.Pattern.Atom
import LogIntake.Text.Blank

/-!
# Escapes in patterns

An atom that is written with a backslash, and the blanks that are left out between the parts of a
pattern.

## Main definitions

- `Flags.skip`: what is left of a pattern without the blanks at its start.
- `readEscape`: the atom of an escape.
-/

namespace LogIntake.Pattern

open Text

/-- A text without the blanks and comments at its start. A comment starts with a number sign and
ends with its line. -/
def skipBlanks (inComment : Bool) : List Char → List Char
  | [] => []
  | c :: rest =>
    if inComment then skipBlanks (c != '\n') rest
    else if c == '#' then skipBlanks true rest
    else if isBlank c then skipBlanks false rest
    else c :: rest

namespace Flags

/-- A pattern without what is left out at its start. -/
def skip (flags : Flags) (cs : List Char) : List Char :=
  if flags.verbose then skipBlanks false cs else cs

/-- The next character that is not left out. Of a comment, the first character is taken. -/
def peek? (flags : Flags) (cs : List Char) : Option Char :=
  if flags.verbose then
    match cs.dropWhile isBlank with
    | '#' :: rest => (rest.dropWhile isBlank).head?
    | rest => rest.head?
  else
    cs.head?

end Flags

def hexadecimal? (c : Char) : Option Nat :=
  if '0' ≤ c ∧ c ≤ '9' then some (c.toNat - 48)
  else if 'a' ≤ c ∧ c ≤ 'f' then some (c.toNat - 87)
  else if 'A' ≤ c ∧ c ≤ 'F' then some (c.toNat - 55)
  else none

/-- Reads a count of hexadecimal digits behind a value, and gives the value of all of them and
what is left. -/
def readHexadecimal (flags : Flags) : Nat → Nat → List Char → Option (Nat × List Char)
  | 0, value, cs => some (value, cs)
  | count + 1, value, cs =>
    match flags.skip cs with
    | [] => none
    | c :: rest =>
      match hexadecimal? c with
      | none => none
      | some digit => readHexadecimal flags count (16 * value + digit) rest

/-- Reads the code point of a character. -/
def readCodePoint (flags : Flags) (count : Nat) (cs : List Char) : Option (Char × List Char) :=
  match readHexadecimal flags count 0 cs with
  | none => none
  | some (value, rest) => if value.isValidChar then some (.ofNat value, rest) else none

/-- The atom of an escape that is one character, unless the character has no meaning there.
Characters of ASCII that are neither letters nor digits stand for themselves. Properties of
Unicode and references to groups have no atoms. -/
def escaped? : Char → Option Atom
  | 'a' => some (.character '\x07')
  | 'f' => some (.character '\x0c')
  | 't' => some (.character '\t')
  | 'n' => some (.character '\n')
  | 'r' => some (.character '\r')
  | 'v' => some (.character '\x0b')
  | 'A' => some .anchor
  | 'z' => some .anchor
  | 'b' => some .boundary
  | 'B' => some .boundary
  | '<' => some .boundary
  | '>' => some .boundary
  | 'd' => some (.shorthand false)
  | 's' => some (.shorthand false)
  | 'w' => some (.shorthand false)
  | 'D' => some (.shorthand true)
  | 'S' => some (.shorthand true)
  | 'W' => some (.shorthand true)
  | c => if c.toNat < 128 && ! c.isAlphanum then some (.character c) else none

/-- Reads what stands behind a backslash. -/
def readEscape (flags : Flags) : List Char → Option (Atom × List Char)
  | [] => none
  | 'x' :: rest => (readCodePoint flags 2 rest).map fun r => (.unit r.1, r.2)
  | 'u' :: rest => (readCodePoint flags 4 rest).map fun r => (.character r.1, r.2)
  | 'U' :: rest => (readCodePoint flags 8 rest).map fun r => (.character r.1, r.2)
  | c :: rest => (escaped? c).map fun atom => (atom, rest)

end LogIntake.Pattern
