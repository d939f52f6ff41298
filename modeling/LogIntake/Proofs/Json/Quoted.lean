import LogIntake.Json
import LogIntake.Pattern.Escape
import Mathlib.Tactic.SplitIfs

/-!
# Strings in quotation marks

Within quotation marks a character stands for itself, unless it is a quotation mark, a backslash or
a control character. Every character has spellings with a backslash as well: some have a letter,
and all have a code of 16 bits in hexadecimal digits, or a pair of such codes where 16 bits are not
enough. The spellings are given as a relation, with a reader that accepts exactly them.

## Main definitions

- `Json.Spelling`: the spellings of a character within quotation marks.
- `Json.Quoted`: the texts of a string, quotation marks included.
- `Json.readChar?`, `Json.readContent?`: the readers of a character, and of what is between the
  quotation marks.

## Main statements

- `Json.readChar?_eq_some_iff`, `Json.readContent?_eq_some_iff`: what is read.
- `Json.quoted_quote`: a string is written as one of its texts.
-/

namespace LogIntake.Json

open Pattern (hexadecimal?)

/-! ## Spellings -/

/-- A character that stands for itself. -/
def Plain (c : Char) : Prop := c ≠ '"' ∧ c ≠ '\\' ∧ 0x20 ≤ c.toNat

instance (c : Char) : Decidable (Plain c) := inferInstanceAs (Decidable (_ ∧ _))

/-- The character that a letter behind a backslash stands for. -/
def named? : Char → Option Char
  | '"' => some '"'
  | '\\' => some '\\'
  | '/' => some '/'
  | 'b' => some '\x08'
  | 'f' => some '\x0c'
  | 'n' => some '\n'
  | 'r' => some '\r'
  | 't' => some '\t'
  | _ => none

/-- The number of four hexadecimal digits. -/
def fourDigits? (a b c d : Char) : Option Nat := do
  return (← hexadecimal? a) * 0x1000 + (← hexadecimal? b) * 0x100 + (← hexadecimal? c) * 0x10 +
    (← hexadecimal? d)

/-- The character with a code point. There is none for the halves of pairs. -/
def ofCode? (n : Nat) : Option Char := if n.isValidChar then some (Char.ofNat n) else none

/-- The character of a pair of codes, which is beyond 16 bits. -/
def ofPair? (high low : Nat) : Option Char :=
  if 0xD800 ≤ high ∧ high < 0xDC00 ∧ 0xDC00 ≤ low ∧ low < 0xE000 then
    ofCode? (0x10000 + (high - 0xD800) * 0x400 + (low - 0xDC00))
  else none

/-- `Code cs n`: a backslash, a `u` and the number `n` in four hexadecimal digits. -/
inductive Code : List Char → Nat → Prop
  | digits {a b c d : Char} {n : Nat} (h : fourDigits? a b c d = some n) :
    Code ['\\', 'u', a, b, c, d] n

/-- `Spelling cs c`: within quotation marks `cs` stands for the character `c`. -/
inductive Spelling : List Char → Char → Prop
  | plain {c : Char} (h : Plain c) : Spelling [c] c
  | named {letter c : Char} (h : named? letter = some c) : Spelling ['\\', letter] c
  | code {cs : List Char} {n : Nat} {c : Char} (hcode : Code cs n) (h : ofCode? n = some c) :
    Spelling cs c
  | pair {cs ds : List Char} {high low : Nat} {c : Char} (hhigh : Code cs high)
    (hlow : Code ds low) (h : ofPair? high low = some c) : Spelling (cs ++ ds) c

/-- `Content cs s`: between quotation marks `cs` stands for the characters `s`. -/
inductive Content : List Char → List Char → Prop
  | nil : Content [] []
  | cons {cs ds : List Char} {c : Char} {s : List Char} (hc : Spelling cs c) (h : Content ds s) :
    Content (cs ++ ds) (c :: s)

/-- `Quoted cs s`: `cs` is a text of the string `s`. -/
def Quoted (cs : List Char) (s : String) : Prop :=
  ∃ content, Content content s.toList ∧ cs = '"' :: content ++ ['"']

/-! ## Readers -/

def readCode? : List Char → Option (Nat × List Char)
  | '\\' :: 'u' :: a :: b :: c :: d :: rest => (fourDigits? a b c d).map (·, rest)
  | _ => none

/-- Reads a character that is not spelled by a code. -/
def readUncoded? : List Char → Option (Char × List Char)
  | '\\' :: letter :: rest => (named? letter).map (·, rest)
  | c :: rest => if Plain c then some (c, rest) else none
  | [] => none

/-- Reads a character, and gives what is left. A code that is no character has to be the first one
of a pair. -/
def readChar? (cs : List Char) : Option (Char × List Char) :=
  match readCode? cs with
  | none => readUncoded? cs
  | some (n, rest) =>
    match ofCode? n with
    | some c => some (c, rest)
    | none => (readCode? rest).bind fun low => (ofPair? n low.1).map (·, low.2)

variable {cs rest : List Char} {n high low : Nat} {c : Char}

theorem ofCode?_eq_some_iff : ofCode? n = some c ↔ c.toNat = n := by
  rw [ofCode?, Option.ite_none_right_eq_some]
  constructor
  · rintro ⟨hvalid, hc⟩
    rw [← Option.some.inj hc, Char.ofNat, dif_pos hvalid]
    rfl
  · rintro rfl
    exact ⟨c.valid, congrArg some (Char.ofNat_toNat c)⟩

theorem ofCode?_eq_none_of_ofPair? (h : ofPair? high low = some c) : ofCode? high = none := by
  obtain ⟨⟨hlo, hhi, -⟩, -⟩ := Option.ite_none_right_eq_some.1 h
  rw [Option.eq_none_iff_forall_not_mem]
  intro c' hc'
  -- The first half of a pair is in the gap of the code points.
  have hcode : c'.toNat = high := ofCode?_eq_some_iff.1 hc'
  have hvalid := c'.valid
  rw [UInt32.isValidChar, Nat.isValidChar] at hvalid
  have : c'.val.toNat = c'.toNat := rfl
  omega

theorem readCode?_eq_some_iff :
    readCode? cs = some (n, rest) ↔ ∃ code, Code code n ∧ cs = code ++ rest := by
  constructor
  · intro h
    unfold readCode? at h
    split at h
    · obtain ⟨m, hm, ⟨⟩⟩ := Option.map_eq_some_iff.1 h
      exact ⟨_, .digits hm, rfl⟩
    · cases h
  · rintro ⟨_, ⟨h⟩, rfl⟩
    show (fourDigits? _ _ _ _).map (·, rest) = _
    rw [h]
    rfl

theorem readCode?_append {code : List Char} (h : Code code n) :
    readCode? (code ++ rest) = some (n, rest) :=
  readCode?_eq_some_iff.2 ⟨code, h, rfl⟩

theorem readUncoded?_eq_some_iff :
    readUncoded? cs = some (c, rest) ↔
      (∃ letter, named? letter = some c ∧ cs = '\\' :: letter :: rest) ∨
        Plain c ∧ cs = c :: rest := by
  constructor
  · intro h
    unfold readUncoded? at h
    split at h
    next letter rest' =>
      obtain ⟨c', hnamed, ⟨⟩⟩ := Option.map_eq_some_iff.1 h
      exact .inl ⟨letter, hnamed, rfl⟩
    next =>
      obtain ⟨hplain, ⟨⟩⟩ := Option.ite_none_right_eq_some.1 h
      exact .inr ⟨hplain, rfl⟩
    next => cases h
  · rintro (⟨letter, hnamed, rfl⟩ | ⟨hplain, rfl⟩)
    · show (named? letter).map (·, rest) = _
      rw [hnamed]
      rfl
    · unfold readUncoded?
      split
      next heq => exact absurd (List.cons.inj heq).1 hplain.2.1
      next heq =>
        obtain ⟨rfl, rfl⟩ := List.cons.inj heq
        rw [if_pos hplain]
      next heq => cases heq

/-- A text that is read without a code does not begin with one. -/
theorem readCode?_eq_none_of_readUncoded? (h : readUncoded? cs = some (c, rest)) :
    readCode? cs = none := by
  rw [Option.eq_none_iff_forall_not_mem]
  rintro ⟨n, rest'⟩ hread
  obtain ⟨_, ⟨-⟩, rfl⟩ := readCode?_eq_some_iff.1 hread
  rcases readUncoded?_eq_some_iff.1 h with ⟨letter, hnamed, heq⟩ | ⟨hplain, heq⟩
  · rw [← (List.cons.inj (List.cons.inj heq).2).1] at hnamed
    cases hnamed
  · exact hplain.2.1 (List.cons.inj heq).1.symm

theorem readChar?_append (h : Spelling cs c) : readChar? (cs ++ rest) = some (c, rest) := by
  have huncoded : ∀ {ds : List Char}, readUncoded? ds = some (c, rest) →
      readChar? ds = some (c, rest) := fun {ds} hread => by
    rw [readChar?, readCode?_eq_none_of_readUncoded? hread]
    exact hread
  cases h with
  | plain hplain => exact huncoded (readUncoded?_eq_some_iff.2 (.inr ⟨hplain, rfl⟩))
  | named hnamed => exact huncoded (readUncoded?_eq_some_iff.2 (.inl ⟨_, hnamed, rfl⟩))
  | code hcode hchar =>
    rw [readChar?, readCode?_append hcode]
    dsimp only
    rw [hchar]
  | pair hhigh hlow hpair =>
    rw [List.append_assoc, readChar?, readCode?_append hhigh]
    dsimp only
    rw [ofCode?_eq_none_of_ofPair? hpair]
    dsimp only
    rw [readCode?_append hlow, Option.bind_some, hpair]
    rfl

theorem exists_spelling_of_readChar? (h : readChar? cs = some (c, rest)) :
    ∃ text, Spelling text c ∧ cs = text ++ rest := by
  unfold readChar? at h
  split at h
  next =>
    rcases readUncoded?_eq_some_iff.1 h with ⟨letter, hnamed, rfl⟩ | ⟨hplain, rfl⟩
    · exact ⟨_, .named hnamed, rfl⟩
    · exact ⟨_, .plain hplain, rfl⟩
  next n rest' hread =>
    obtain ⟨code, hcode, rfl⟩ := readCode?_eq_some_iff.1 hread
    split at h
    next c' hchar =>
      cases h
      exact ⟨code, .code hcode hchar, rfl⟩
    next =>
      obtain ⟨⟨low, rest''⟩, hlow, hmap⟩ := Option.bind_eq_some_iff.1 h
      obtain ⟨c', hpair, ⟨⟩⟩ := Option.map_eq_some_iff.1 hmap
      obtain ⟨code', hcode', rfl⟩ := readCode?_eq_some_iff.1 hlow
      exact ⟨code ++ code', .pair hcode hcode' hpair, (List.append_assoc ..).symm⟩

/-- What is read as a character: its spellings, whatever comes behind. -/
theorem readChar?_eq_some_iff :
    readChar? cs = some (c, rest) ↔ ∃ text, Spelling text c ∧ cs = text ++ rest := by
  constructor
  · exact exists_spelling_of_readChar?
  · rintro ⟨text, htext, rfl⟩
    exact readChar?_append htext

example : readChar? "\\ud83d\\ude00".toList = some ('😀', []) := by decide +kernel

/-- A spelling has a character in front, which is not the quotation mark. -/
theorem Spelling.exists_cons (h : Spelling cs c) : ∃ first ds, cs = first :: ds ∧ first ≠ '"' := by
  cases h with
  | plain hplain => exact ⟨_, _, rfl, hplain.1⟩
  | named => exact ⟨_, _, rfl, by decide⟩
  | code hcode =>
    cases hcode
    exact ⟨_, _, rfl, by decide⟩
  | pair hhigh =>
    cases hhigh
    exact ⟨_, _, rfl, by decide⟩

theorem length_lt_of_readChar? (h : readChar? cs = some (c, rest)) : rest.length < cs.length := by
  obtain ⟨text, htext, rfl⟩ := readChar?_eq_some_iff.1 h
  obtain ⟨first, ds, rfl, -⟩ := htext.exists_cons
  rw [List.length_append, List.length_cons]
  omega

/-- Reads characters up to a quotation mark, and gives what is behind it. -/
def readContent? (cs : List Char) : Option (List Char × List Char) :=
  if cs.head? = some '"' then some ([], cs.tail)
  else
    match _hread : readChar? cs with
    | none => none
    | some (c, rest) => (readContent? rest).map fun r => (c :: r.1, r.2)
termination_by cs.length
decreasing_by exact length_lt_of_readChar? ‹_›

theorem readContent?_append {s : List Char} (h : Content cs s) :
    readContent? (cs ++ '"' :: rest) = some (s, rest) := by
  induction h with
  | nil =>
    rw [List.nil_append, readContent?]
    rfl
  | @cons cs ds c s hc _ ih =>
    have hread : readChar? (cs ++ (ds ++ '"' :: rest)) = some (c, ds ++ '"' :: rest) :=
      readChar?_eq_some_iff.2 ⟨cs, hc, rfl⟩
    obtain ⟨first, tail, rfl, hfirst⟩ := hc.exists_cons
    rw [List.append_assoc, readContent?, if_neg (by simpa using hfirst)]
    split
    next hnone =>
      rw [hread] at hnone
      cases hnone
    next c' rest' hsome =>
      rw [hread] at hsome
      cases hsome
      rw [ih]
      rfl

theorem exists_content_of_readContent? {s : List Char} (h : readContent? cs = some (s, rest)) :
    ∃ text, Content text s ∧ cs = text ++ '"' :: rest := by
  fun_induction readContent? cs generalizing s rest with
  | case1 cs hquote =>
    obtain ⟨ds, rfl⟩ := List.head?_eq_some_iff.1 hquote
    cases h
    exact ⟨[], .nil, rfl⟩
  | case2 => cases h
  | case3 cs _ c rest' hread ih =>
    obtain ⟨⟨s', rest''⟩, hrest, ⟨⟩⟩ := Option.map_eq_some_iff.1 h
    obtain ⟨text, htext, rfl⟩ := readChar?_eq_some_iff.1 hread
    obtain ⟨texts, htexts, rfl⟩ := ih hrest
    exact ⟨text ++ texts, .cons htext htexts, (List.append_assoc ..).symm⟩

/-- What is read between quotation marks. -/
theorem readContent?_eq_some_iff {s : List Char} :
    readContent? cs = some (s, rest) ↔ ∃ text, Content text s ∧ cs = text ++ '"' :: rest := by
  constructor
  · exact exists_content_of_readContent?
  · rintro ⟨text, htext, rfl⟩
    exact readContent?_append htext

/-! ## What is written -/

theorem hexadecimal?_hexDigit (n : Nat) : hexadecimal? (hexDigit n) = some (n % 16) := by
  have hdigits : ∀ d < 16, hexadecimal? d.digitChar = some d := by decide
  exact hdigits (n % 16) (Nat.mod_lt n (by decide))

/-- Every character is written as one of its spellings. -/
theorem spelling_escape (c : Char) : Spelling (escape c) c := by
  unfold escape
  split_ifs with hquote hbackslash hb hf hn hr ht hcontrol
  · exact .named (congrArg some hquote.symm)
  · exact .named (congrArg some hbackslash.symm)
  · exact .named (congrArg some hb.symm)
  · exact .named (congrArg some hf.symm)
  · exact .named (congrArg some hn.symm)
  · exact .named (congrArg some hr.symm)
  · exact .named (congrArg some ht.symm)
  · have hfour : fourDigits? '0' '0' (hexDigit (c.toNat / 16)) (hexDigit c.toNat) =
        some (c.toNat / 16 % 16 * 0x10 + c.toNat % 16) := by
      rw [fourDigits?, hexadecimal?_hexDigit, hexadecimal?_hexDigit]
      simp [hexadecimal?]
    have hvalue : c.toNat / 16 % 16 * 0x10 + c.toNat % 16 = c.toNat := by omega
    rw [hvalue] at hfour
    exact .code (.digits hfour) (ofCode?_eq_some_iff.2 rfl)
  · exact .plain ⟨hquote, hbackslash, Nat.le_of_not_lt hcontrol⟩

theorem content_flatMap_escape (s : List Char) : Content (s.flatMap escape) s := by
  induction s with
  | nil => exact .nil
  | cons c s ih => exact .cons (spelling_escape c) ih

/-- A string is written as one of its texts. -/
theorem quoted_quote (s : String) : Quoted (quote s) s :=
  ⟨_, content_flatMap_escape s.toList, rfl⟩

end LogIntake.Json
