import LogIntake.Text.Alphanumeric
import LogIntake.Text.Blank
import LogIntake.Text.Bytes

/-!
# The layout of a directive

A directive of a filter is written as a name, a part in brackets and a level behind an equals
sign, such as `offsetgen_core[span{field}]=warn`, and each of them can be left out. In brackets
stand the name of a span, a field between braces, or both.

The parts are looked for in the directive without the blanks at its two ends, and they are taken
from the same places of the directive as it stands. Blanks at the start thus shift all parts.

## Main definitions

- `Layout.read?`: where the parts of a directive stand.
-/

namespace LogIntake

open Text

/-- What stands in the brackets of a directive. -/
structure BracketLayout where
  /-- A span is named. -/
  namesSpan : Bool
  /-- Where the field starts and stops, if there is one. -/
  field : Option (Nat × Nat)
  deriving DecidableEq, Repr

/-- Where the parts of a directive stand. Places are counted in bytes. -/
structure Layout where
  /-- Where the name stops. It starts the directive. -/
  name : Nat
  /-- What stands in brackets, if there are any. -/
  brackets : Option BracketLayout
  /-- Where the level starts, if there is an equals sign. It ends the directive. -/
  level : Option Nat
  deriving DecidableEq, Repr

namespace BracketLayout

/-- Reads what stands behind an opening bracket, with the place where it starts. The result has
the place behind the closing bracket and the text there. -/
def read? (start : Nat) (cs : List Char) : Option (BracketLayout × Nat × List Char) :=
  match cs.span fun c => c ≠ ']' ∧ c ≠ '{' with
  | (span, ']' :: rest) => some (⟨true, none⟩, start + byteSize span + 1, rest)
  | (span, '{' :: inner) =>
    match inner.span (· ≠ '}') with
    | (c :: field, '}' :: ']' :: rest) =>
      let first := start + byteSize span + 1
      let last := first + byteSize (c :: field)
      some (⟨! span.isEmpty, some (first, last)⟩, last + 2, rest)
    | _ => none
  | _ => none

end BracketLayout

namespace Layout

/-- A directive can start with a character. -/
def isStart (c : Char) : Bool :=
  isAlphanumeric c || c == '-' || c == ':' || c == '_' || c == '['

/-- Reads what stands behind the brackets: nothing, or an equals sign. -/
def readLevel? (place : Nat) : List Char → Option (Option Nat)
  | [] => some none
  | '=' :: _ => some (some (place + 1))
  | _ => none

/-- Finds the parts of a directive that has no blanks at its ends. -/
def read? (cs : List Char) : Option Layout :=
  if cs.head?.any isStart then
    let (name, rest) := cs.span fun c => c ≠ '=' ∧ c ≠ '['
    let place := byteSize name
    match rest with
    | '[' :: inner => do
      let (brackets, behind, rest) ← BracketLayout.read? (place + 1) inner
      return ⟨place, some brackets, ← readLevel? behind rest⟩
    | rest => (readLevel? place rest).map fun level => ⟨place, none, level⟩
  else
    none

/-- The directive is a name and nothing else. -/
def isPlain (layout : Layout) : Bool := layout.brackets.isNone && layout.level.isNone

def namesSpan (layout : Layout) : Bool := layout.brackets.any (·.namesSpan)

/-- The name in a directive as it stands. -/
def nameOf (layout : Layout) (cs : List Char) : List Char := takeBytes layout.name cs

/-- The field in a directive as it stands. -/
def fieldOf? (layout : Layout) (cs : List Char) : Option (List Char) :=
  (layout.brackets.bind (·.field)).map fun place => cut place.1 place.2 cs

/-- The level in a directive as it stands. -/
def levelOf? (layout : Layout) (cs : List Char) : Option (List Char) :=
  layout.level.map (dropBytes · cs)

end Layout

end LogIntake
