import LogIntake.Pattern.Brackets
import LogIntake.Text.Alphanumeric

/-!
# Patterns

A pattern is a regular expression: alternatives of sequences of atoms, of classes in brackets and
of groups in parentheses, each of which can be repeated. It is only told here which texts are
patterns that an automaton can match. A text with braces for a count of repetitions is none.

## Main definitions

- `Flags.set?`: the flags behind those that are set in a pattern.
- `PatternReader.step`: what the next part of a pattern does.
- `isPattern`: a text is a pattern.
-/

namespace LogIntake.Pattern

open Text

/-- The letters of flags, and the hyphen before those that are unset. -/
def flagLetters : List Char := ['i', 'm', 's', 'R', 'U', 'u', 'x', '-']

/-- A flag behind a text of flags. -/
def flagBehind (text : List Char) (letter : Char) (old : Bool) : Bool :=
  if (text.takeWhile (· ≠ '-')).contains letter then true
  else if text.contains letter then false
  else old

/-- The flags behind a text of flags, in which none may occur twice and some flag stands behind
the hyphen. -/
def Flags.set? (flags : Flags) (text : List Char) : Option Flags :=
  if text.all flagLetters.contains ∧ text.Nodup ∧ text.getLast? ≠ some '-' then
    some ⟨flagBehind text 'i' flags.ignoreCase, flagBehind text 'u' flags.unicode,
      flagBehind text 'x' flags.verbose⟩
  else
    none

/-- The name of a group starts with a letter or an underscore. -/
def isGroupStart (c : Char) : Bool := c == '_' || isAlphabetic c

/-- The name of a group goes on with letters, numbers and some signs. -/
def isGroupPart (c : Char) : Bool :=
  c == '_' || c == '.' || c == '[' || c == ']' || isAlphanumeric c

/-- A text can be the name of a group. -/
def isGroupName : List Char → Bool
  | [] => false
  | c :: rest => isGroupStart c && rest.all isGroupPart

/-- What has been read of a group, or of a pattern outside of all groups. -/
structure OpenGroup where
  /-- How deep the finished alternatives are nested. -/
  branches : List Nat
  /-- How deep the parts of the current alternative are nested, the last one first. -/
  parts : List Nat
  /-- The last part can be repeated. -/
  repeatable : Bool

namespace OpenGroup

def start : OpenGroup := ⟨[], [], false⟩

/-- A part is read. -/
def add (g : OpenGroup) (depth : Nat) : OpenGroup :=
  { g with parts := depth :: g.parts, repeatable := true }

/-- Flags are read, which cannot be repeated. -/
def addFlags (g : OpenGroup) : OpenGroup := { g with parts := 0 :: g.parts, repeatable := false }

/-- The next alternative starts. -/
def branch (g : OpenGroup) : OpenGroup := ⟨nesting g.parts :: g.branches, [], false⟩

/-- The last part is repeated. -/
def again? (g : OpenGroup) : Option OpenGroup :=
  match g.repeatable, g.parts with
  | true, depth :: parts => some { g with parts := (depth + 1) :: parts }
  | _, _ => none

/-- How deep all that has been read is nested. -/
def depth (g : OpenGroup) : Nat := nesting (nesting g.parts :: g.branches)

end OpenGroup

/-- A pattern that is being read. -/
structure PatternReader where
  /-- The flags in force. -/
  flags : Flags
  /-- The innermost group. -/
  current : OpenGroup
  /-- The groups around it from the inside out, with the flags that are in force again behind the
  group within. -/
  outer : List (Flags × OpenGroup)
  /-- The names of groups so far. -/
  names : List (List Char)

namespace PatternReader

def start : PatternReader := ⟨.standard, .start, [], []⟩

/-- Atoms are read that make one part, if automata can match them. -/
def add? (r : PatternReader) (atoms : List Atom) (depth : Nat) : Option PatternReader :=
  if atoms.all (·.hasAutomaton r.flags) then some { r with current := r.current.add depth }
  else none

/-- A group is opened. -/
def nest (r : PatternReader) (flags : Flags) : PatternReader :=
  { r with flags, current := .start, outer := (r.flags, r.current) :: r.outer }

/-- A group is closed. -/
def close? (r : PatternReader) : Option PatternReader :=
  match r.outer with
  | [] => none
  | (flags, group) :: outer =>
    some { r with flags, current := group.add (r.current.depth + 1), outer }

/-- Opens a group with a name, which no other group may have. -/
def openNamed? (r : PatternReader) (cs : List Char) : Option (PatternReader × List Char) :=
  match cs.span (· ≠ '>') with
  | (name, '>' :: rest) =>
    if isGroupName name ∧ name ∉ r.names then
      some ({ r.nest r.flags with names := name :: r.names }, rest)
    else
      none
  | _ => none

/-- Sets flags for a group, or for what is left of the group they stand in. -/
def openFlags? (r : PatternReader) (cs : List Char) : Option (PatternReader × List Char) :=
  match cs.span fun c => c ≠ ':' ∧ c ≠ ')' with
  | (text, ':' :: rest) => (r.flags.set? text).map fun flags => (r.nest flags, rest)
  | (c :: text, ')' :: rest) =>
    (r.flags.set? (c :: text)).map fun flags =>
      ({ r with flags, current := r.current.addFlags }, rest)
  | _ => none

/-- Reads what stands behind an opening parenthesis. -/
def open? (r : PatternReader) (cs : List Char) : Option (PatternReader × List Char) :=
  match r.flags.skip cs with
  | '?' :: 'P' :: '<' :: rest => r.openNamed? rest
  | '?' :: '<' :: rest => r.openNamed? rest
  | '?' :: rest => r.openFlags? rest
  | rest => some (r.nest r.flags, rest)

/-- The last part is repeated. A question mark behind the repetition makes it a short one. -/
def repeat? (r : PatternReader) (rest : List Char) : Option (PatternReader × List Char) :=
  r.current.again?.map fun current =>
    ({ r with current }, if rest.head? = some '?' then rest.drop 1 else rest)

/-- Reads the part of a pattern that starts with a character. -/
def step (r : PatternReader) (c : Char) (rest : List Char) :
    Option (PatternReader × List Char) :=
  match c with
  | '(' => r.open? rest
  | ')' => r.close?.map (·, rest)
  | '|' => some ({ r with current := r.current.branch }, rest)
  | '*' => r.repeat? rest
  | '+' => r.repeat? rest
  | '?' => r.repeat? rest
  | '{' => none
  | '[' => do
    let (text, rest) ← readClass r.flags rest
    return (← r.add? text.atoms text.depth, rest)
  | '\\' => do
    let (atom, rest) ← readEscape r.flags rest
    return (← r.add? [atom] 0, rest)
  | '.' => (r.add? [.anyCharacter] 0).map (·, rest)
  | '^' => (r.add? [.anchor] 0).map (·, rest)
  | '$' => (r.add? [.anchor] 0).map (·, rest)
  | c => (r.add? [.character c] 0).map (·, rest)

/-- Reads to the end of a pattern. Each turn takes at least one character, so as many turns as
there are characters suffice. -/
def run : Nat → PatternReader → List Char → Option PatternReader
  | 0, r, cs => if (r.flags.skip cs).isEmpty then some r else none
  | turns + 1, r, cs =>
    match r.flags.skip cs with
    | [] => some r
    | c :: rest =>
      match r.step c rest with
      | none => none
      | some (r, rest) => run turns r rest

end PatternReader

/-- How deep a pattern may be nested. -/
def nestingLimit : Nat := 250

/-- The text is a pattern that an automaton can match. -/
def isPattern (cs : List Char) : Bool :=
  match PatternReader.start.run cs.length cs with
  | none => false
  | some r => r.outer.isEmpty && r.current.depth ≤ nestingLimit

end LogIntake.Pattern
