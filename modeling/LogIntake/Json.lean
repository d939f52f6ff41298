import LogIntake.Text.Decimal

/-!
# JSON texts

Values of the JSON format with integers as their only numbers, and two layouts of their texts:
`compact` without any blank, and `pretty` with one member to a line.

## Main definitions

- `Json`: values, whose members keep their order.
- `Json.quote`: a string in quotation marks.
- `Json.compact`, `Json.pretty`: the texts of a value.
-/

namespace LogIntake

inductive Json where
  | integer (n : Int)
  | string (s : String)
  | list (items : List Json)
  | object (members : List (String × Json))

namespace Json

/-- A hexadecimal digit in lower case. -/
def hexDigit (n : Nat) : Char := Nat.digitChar (n % 16)

/-- A character within quotation marks. Only the quotation mark, the backslash and the control
characters below the blank are escaped. -/
def escape (c : Char) : List Char :=
  if c = '"' then ['\\', '"']
  else if c = '\\' then ['\\', '\\']
  else if c = '\x08' then ['\\', 'b']
  else if c = '\x0c' then ['\\', 'f']
  else if c = '\n' then ['\\', 'n']
  else if c = '\r' then ['\\', 'r']
  else if c = '\t' then ['\\', 't']
  else if c.toNat < 0x20 then ['\\', 'u', '0', '0', hexDigit (c.toNat / 16), hexDigit c.toNat]
  else [c]

def quote (s : String) : List Char := '"' :: s.toList.flatMap escape ++ ['"']

mutual

/-- The text of a value without blanks. -/
def compact : Json → List Char
  | .integer n => Decimal.write n
  | .string s => quote s
  | .list items => '[' :: compactItems items ++ [']']
  | .object members => '{' :: compactMembers members ++ ['}']

def compactItems : List Json → List Char
  | [] => []
  | [v] => compact v
  | v :: w :: rest => compact v ++ ',' :: compactItems (w :: rest)

def compactMembers : List (String × Json) → List Char
  | [] => []
  | [(k, v)] => quote k ++ ':' :: compact v
  | (k, v) :: m :: rest => quote k ++ ':' :: compact v ++ ',' :: compactMembers (m :: rest)

end

/-- A new line at a depth of nesting, two blanks for each level. -/
def newline (depth : Nat) : List Char := '\n' :: List.replicate (2 * depth) ' '

mutual

/-- The text of a value with each item and member on a line of its own. A list or an object
without content has no line breaks. -/
def prettyAt (depth : Nat) : Json → List Char
  | .integer n => Decimal.write n
  | .string s => quote s
  | .list [] => ['[', ']']
  | .list (v :: rest) => '[' :: prettyItems (depth + 1) (v :: rest) ++ newline depth ++ [']']
  | .object [] => ['{', '}']
  | .object (m :: rest) => '{' :: prettyMembers (depth + 1) (m :: rest) ++ newline depth ++ ['}']

/-- Items on lines of their own, with commas at the ends of the lines. -/
def prettyItems (depth : Nat) : List Json → List Char
  | [] => []
  | [v] => newline depth ++ prettyAt depth v
  | v :: w :: rest => newline depth ++ prettyAt depth v ++ ',' :: prettyItems depth (w :: rest)

/-- Members on lines of their own, with commas at the ends of the lines. -/
def prettyMembers (depth : Nat) : List (String × Json) → List Char
  | [] => []
  | [(k, v)] => newline depth ++ quote k ++ [':', ' '] ++ prettyAt depth v
  | (k, v) :: m :: rest =>
    newline depth ++ quote k ++ [':', ' '] ++ prettyAt depth v ++
      ',' :: prettyMembers depth (m :: rest)

end

/-- The text of a value in lines. -/
def pretty (v : Json) : List Char := prettyAt 0 v

end Json

end LogIntake
