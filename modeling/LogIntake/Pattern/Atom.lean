/-!
# What patterns are made of

A pattern is a regular expression. It is matched by an automaton that reads a text byte by byte
and knows no tables of Unicode: neither which characters are letters nor which of them are the
same but for their case. What needs such a table has no automaton, and neither has what could
match a part of a character.

## Main definitions

- `Flags`: how the atoms of a pattern are meant.
- `Atom.hasAutomaton`: an atom can be matched under some flags.
- `nesting`: how deep several parts of a pattern are nested together.
-/

namespace LogIntake.Pattern

/-- How the atoms of a pattern are meant. -/
structure Flags where
  /-- Upper and lower case are the same. -/
  ignoreCase : Bool
  /-- A character is a code point and not a byte. -/
  unicode : Bool
  /-- Blanks and comments are not part of the pattern. -/
  verbose : Bool
  deriving DecidableEq, Repr

/-- The flags at the start of a pattern. -/
def Flags.standard : Flags := ⟨false, true, false⟩

/-- A part of a pattern that matches by itself. -/
inductive Atom where
  /-- A character. -/
  | character (c : Char)
  /-- A character that is one byte where characters are bytes: one that is given by two
  hexadecimal digits, or a member of a class in brackets. -/
  | unit (c : Char)
  /-- Any character. -/
  | anyCharacter
  /-- The start or the end of a line or of the text. -/
  | anchor
  /-- A place where a word starts or ends, or where none does. -/
  | boundary
  /-- A class that is written as an escape. -/
  | shorthand (negated : Bool)
  /-- A class that is written as a name within brackets. -/
  | named (negated : Bool)
  /-- Everything but the members of a class in brackets. -/
  | complement
  deriving DecidableEq, Repr

/-- An automaton can match the atom. Where characters are bytes, the members of a class are ASCII,
so that any class that is negated has parts of characters among its members. -/
def Atom.hasAutomaton (flags : Flags) : Atom → Bool
  | .character _ => ! (flags.unicode && flags.ignoreCase)
  | .unit c => if flags.unicode then ! flags.ignoreCase else c.toNat < 128
  | .anyCharacter => flags.unicode
  | .anchor => true
  | .boundary => ! flags.unicode
  | .shorthand negated => ! flags.unicode && ! negated
  | .named negated => if flags.unicode then ! flags.ignoreCase else ! negated
  | .complement => flags.unicode

/-- How deep several parts are nested together. A single one stands as it is, and more of them
form a level of their own. -/
def nesting : List Nat → Nat
  | [] => 0
  | [n] => n
  | n :: rest => rest.foldl max n + 1

end LogIntake.Pattern
