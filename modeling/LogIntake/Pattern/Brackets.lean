import LogIntake.Pattern.Escape

/-!
# Classes in brackets

A class in brackets lists characters, ranges of characters, escapes, named classes such as
`[:alpha:]` and further classes in brackets. Two lists can be joined by an operation on sets, which
is written as two ampersands, hyphens or tildes.

## Main definitions

- `readMember`: a character, a range or an escape in brackets.
- `readClass`: all of a class in brackets.
-/

namespace LogIntake.Pattern

/-- What has been read of a class in brackets. -/
structure OpenClass where
  /-- Nothing but hyphens has been read. They stand for themselves, and so does a closing bracket
  that comes first. -/
  fresh : Bool
  /-- How deep the operands on the left of an operation are nested, if there is one. -/
  left : Option Nat
  /-- How deep the members behind the operation are nested. -/
  members : List Nat

namespace OpenClass

def start : OpenClass := ⟨true, none, []⟩

def add (c : OpenClass) (depth : Nat) : OpenClass :=
  { c with fresh := false, members := depth :: c.members }

/-- A hyphen is read before all else. -/
def addHyphen (c : OpenClass) : OpenClass := { c with members := 0 :: c.members }

/-- How deep all that has been read is nested. -/
def depth (c : OpenClass) : Nat :=
  match c.left with
  | none => nesting c.members
  | some left => max left (nesting c.members) + 1

/-- An operation is read. -/
def operate (c : OpenClass) : OpenClass := ⟨false, some c.depth, []⟩

/-- A closing bracket stands for itself. -/
def takesBracket (c : OpenClass) : Bool := c.fresh && c.members.isEmpty

end OpenClass

/-- A class in brackets. -/
structure ClassText where
  /-- What has to have an automaton. -/
  atoms : List Atom
  /-- How deep the class is nested. -/
  depth : Nat

/-- The atom of an escape within brackets. Places in the text are no members of a class. -/
def Atom.member? : Atom → Option Atom
  | .character c => some (.unit c)
  | .unit c => some (.unit c)
  | .shorthand negated => some (.shorthand negated)
  | _ => none

/-- Reads a character or an escape within brackets. -/
def readClassAtom (flags : Flags) : List Char → Option (Atom × List Char)
  | [] => none
  | '\\' :: rest =>
    match readEscape flags rest with
    | none => none
    | some (atom, rest) => atom.member?.map fun member => (member, rest)
  | c :: rest => some (.unit c, rest)

/-- A range has two characters for its ends, in their order. -/
def range? : Atom → Atom → Option (List Atom)
  | .unit a, .unit b => if a ≤ b then some [.unit a, .unit b] else none
  | _, _ => none

/-- Reads a character, an escape or a range within brackets. A hyphen makes a range unless another
hyphen or the closing bracket follows it. -/
def readMember (flags : Flags) (cs : List Char) : Option (List Atom × List Char) := do
  let (first, rest) ← readClassAtom flags cs
  match flags.skip rest with
  | '-' :: behind =>
    if flags.peek? behind = some ']' ∨ flags.peek? behind = some '-' then
      return ([first], '-' :: behind)
    else
      let (last, rest) ← readClassAtom flags (flags.skip behind)
      return (← range? first last, rest)
  | rest => return ([first], rest)

def classNames : List String :=
  ["alnum", "alpha", "ascii", "blank", "cntrl", "digit", "graph", "lower", "print", "punct",
    "space", "upper", "word", "xdigit"]

/-- Reads a name between colons behind an opening bracket. A circumflex before it negates it. -/
def readNamed? : List Char → Option (Atom × List Char)
  | ':' :: inner =>
    let negated := inner.head? == some '^'
    let body := if negated then inner.drop 1 else inner
    match body.span (· ≠ ':') with
    | (name, ':' :: ']' :: rest) =>
      if classNames.contains (.ofList name) then some (.named negated, rest) else none
    | _ => none
  | _ => none

/-- What a class starts with: nothing, or a circumflex that negates it. -/
def readNegation (flags : Flags) (cs : List Char) : List Atom × List Char :=
  match flags.skip cs with
  | '^' :: rest => ([.complement], rest)
  | rest => ([], rest)

/-- A class that is being read, with the classes around it and the atoms of all of them. -/
structure ClassReader where
  /-- The innermost class. -/
  current : OpenClass
  /-- The classes around it, from the inside out. -/
  outer : List OpenClass
  /-- The atoms so far. -/
  atoms : List Atom

namespace ClassReader

def add (r : ClassReader) (atoms : List Atom) (depth : Nat) : ClassReader :=
  { r with current := r.current.add depth, atoms := atoms ++ r.atoms }

/-- Another class is opened. -/
def nest (r : ClassReader) (atoms : List Atom) : ClassReader :=
  ⟨.start, r.current :: r.outer, atoms ++ r.atoms⟩

/-- An operation is read. -/
def operate (r : ClassReader) : ClassReader := { r with current := r.current.operate }

/-- Reads what stands at the start of a text that is not a closing bracket. -/
def step (flags : Flags) (r : ClassReader) : List Char → Option (ClassReader × List Char)
  | '[' :: rest =>
    match readNamed? rest with
    | some (atom, rest) => some (r.add [atom] 0, rest)
    | none =>
      let (atoms, rest) := readNegation flags rest
      some (r.nest atoms, rest)
  | '-' :: rest =>
    if r.current.fresh then some ({ r with current := r.current.addHyphen }, rest)
    else if rest.head? = some '-' then some (r.operate, rest.drop 1)
    else (readMember flags ('-' :: rest)).map fun m => (r.add m.1 0, m.2)
  | '&' :: '&' :: rest => some (r.operate, rest)
  | '~' :: '~' :: rest => some (r.operate, rest)
  | cs => (readMember flags cs).map fun m => (r.add m.1 0, m.2)

/-- Reads up to the bracket that closes the outermost class. Each turn takes at least one
character, so as many turns as there are characters suffice. -/
def run (flags : Flags) : Nat → ClassReader → List Char → Option (ClassText × List Char)
  | 0, _, _ => none
  | turns + 1, r, cs =>
    match flags.skip cs with
    | [] => none
    | c :: rest =>
      if c = ']' ∧ ! r.current.takesBracket then
        match r.outer with
        | [] => some (⟨r.atoms, r.current.depth + 1⟩, rest)
        | o :: outer => run flags turns ⟨o.add (r.current.depth + 1), outer, r.atoms⟩ rest
      else if c = ']' then run flags turns (r.add [.unit ']'] 0) rest
      else
        match r.step flags (c :: rest) with
        | none => none
        | some (r, rest) => run flags turns r rest

end ClassReader

/-- Reads a class in brackets behind its opening bracket. -/
def readClass (flags : Flags) (cs : List Char) : Option (ClassText × List Char) :=
  let (atoms, rest) := readNegation flags cs
  ClassReader.run flags rest.length ⟨.start, [], atoms⟩ rest

end LogIntake.Pattern
