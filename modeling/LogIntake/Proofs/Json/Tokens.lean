import LogIntake.Proofs.Json.Quoted
import LogIntake.Proofs.Text.Canonical

/-!
# The tokens of JSON texts

A JSON text is made of marks, integers and strings, with blanks wherever they are wanted between
them. An integer is as long as it can be: no digit comes behind it. The tokens of a text are given
as a relation, with a reader that accepts exactly the texts that have tokens.

## Main definitions

- `Json.Integer`: the texts of an integer.
- `Json.Token`, `Json.Token.Written`: tokens and their texts.
- `Json.Spells`: the texts of a list of tokens.
- `Json.scan?`: the reader.

## Main statements

- `Json.readToken?_eq_some_iff`: what is read as the first token.
- `Json.scan?_eq_some_iff`: the tokens that are read are those of the text.
-/

namespace LogIntake.Json

open Decimal (Digits)

variable {cs ds rest : List Char} {n : Int}

/-! ## Integers -/

/-- Digits without a superfluous zero in front. -/
def Unpadded (ds : List Char) : Prop := Digits ds ∧ (ds.head? = some '0' → ds.tail = [])

instance (ds : List Char) : Decidable (Unpadded ds) :=
  inferInstanceAs (Decidable ((ds ≠ [] ∧ ∀ c ∈ ds, c.isDigit = true) ∧ _))

/-- `Integer cs n`: at most a minus sign, and digits with the absolute value of `n`. -/
inductive Integer : List Char → Int → Prop
  | natural {ds : List Char} (h : Unpadded ds) : Integer ds (Nat.ofDigitChars 10 ds 0)
  | negative {ds : List Char} (h : Unpadded ds) : Integer ('-' :: ds) (-Nat.ofDigitChars 10 ds 0)

/-- A number can end in front of a text that does not begin with a digit. -/
def EndsNumber (rest : List Char) : Prop := ∀ c ∈ rest.head?, c.isDigit = false

/-- Reads all digits in front. -/
def readNatural? (cs : List Char) : Option (Nat × List Char) :=
  if Unpadded (cs.takeWhile Char.isDigit) then
    some (Nat.ofDigitChars 10 (cs.takeWhile Char.isDigit) 0, cs.dropWhile Char.isDigit)
  else none

def readInteger? (cs : List Char) : Option (Int × List Char) :=
  if cs.head? = some '-' then (readNatural? cs.tail).map fun r => (-r.1, r.2)
  else (readNatural? cs).map fun r => (r.1, r.2)

theorem endsNumber_dropWhile (cs : List Char) : EndsNumber (cs.dropWhile Char.isDigit) := by
  intro c hc
  have hhead := List.head?_dropWhile_not Char.isDigit cs
  rw [Option.mem_def.1 hc] at hhead
  simpa using hhead

theorem readNatural?_eq_some_iff {m : Nat} :
    readNatural? cs = some (m, rest) ↔
      ∃ ds, Unpadded ds ∧ m = Nat.ofDigitChars 10 ds 0 ∧ cs = ds ++ rest ∧ EndsNumber rest := by
  rw [readNatural?, Option.ite_none_right_eq_some]
  constructor
  · rintro ⟨hdigits, ⟨⟩⟩
    exact ⟨_, hdigits, rfl, List.takeWhile_append_dropWhile.symm, endsNumber_dropWhile cs⟩
  · rintro ⟨ds, hds, rfl, rfl, hrest⟩
    have hall : ∀ c ∈ ds, c.isDigit = true := hds.1.2
    have hnone : rest.takeWhile Char.isDigit = [] ∧ rest.dropWhile Char.isDigit = rest := by
      cases rest with
      | nil => exact ⟨rfl, rfl⟩
      | cons c rest =>
        have hc : ¬ c.isDigit = true := by simpa using hrest c rfl
        exact ⟨List.takeWhile_cons_of_neg hc, List.dropWhile_cons_of_neg hc⟩
    rw [List.takeWhile_append_of_pos hall, List.dropWhile_append_of_pos hall, hnone.1, hnone.2,
      List.append_nil]
    exact ⟨hds, rfl⟩

theorem Unpadded.head?_ne_minus (h : Unpadded ds) : (ds ++ rest).head? ≠ some '-' := by
  obtain ⟨c, ds, rfl⟩ := List.exists_cons_of_ne_nil h.1.1
  intro hhead
  exact h.1.head_ne (by decide) (Option.some.inj hhead)

/-- What is read as an integer: its texts, in front of what can come behind them. -/
theorem readInteger?_eq_some_iff :
    readInteger? cs = some (n, rest) ↔
      ∃ text, Integer text n ∧ cs = text ++ rest ∧ EndsNumber rest := by
  rw [readInteger?]
  constructor
  · intro h
    split at h
    next hminus =>
      obtain ⟨ds, rfl⟩ := List.head?_eq_some_iff.1 hminus
      obtain ⟨⟨m, rest'⟩, hread, ⟨⟩⟩ := Option.map_eq_some_iff.1 h
      obtain ⟨digits, hdigits, rfl, rfl, hend⟩ := readNatural?_eq_some_iff.1 hread
      exact ⟨_, .negative hdigits, rfl, hend⟩
    next =>
      obtain ⟨⟨m, rest'⟩, hread, ⟨⟩⟩ := Option.map_eq_some_iff.1 h
      obtain ⟨digits, hdigits, rfl, rfl, hend⟩ := readNatural?_eq_some_iff.1 hread
      exact ⟨_, .natural hdigits, rfl, hend⟩
  · rintro ⟨text, hdigits | hdigits, rfl, hend⟩
    · rw [if_neg hdigits.head?_ne_minus,
        readNatural?_eq_some_iff.2 ⟨_, hdigits, rfl, rfl, hend⟩]
      rfl
    · rw [List.cons_append, List.head?_cons, if_pos rfl, List.tail_cons,
        readNatural?_eq_some_iff.2 ⟨_, hdigits, rfl, rfl, hend⟩]
      rfl

/-- The first character of an integer. -/
theorem Integer.exists_cons (h : Integer cs n) :
    ∃ first ds, cs = first :: ds ∧ (first = '-' ∨ first.isDigit = true) := by
  cases h with
  | natural hds =>
    obtain ⟨c, ds, rfl⟩ := List.exists_cons_of_ne_nil hds.1.1
    exact ⟨c, ds, rfl, .inr (hds.1.2 c List.mem_cons_self)⟩
  | negative => exact ⟨_, _, rfl, .inl rfl⟩

/-- A number is written as one of its texts. -/
theorem integer_write (n : Int) : Integer (Decimal.write n) n := by
  have hcanonical := Decimal.canonical_write n
  have hnumeral := Decimal.numeral_write n
  generalize Decimal.write n = cs at hcanonical hnumeral
  cases hnumeral with
  | unsigned hds =>
    refine .natural ⟨hds, fun hzero => ?_⟩
    obtain ⟨tail, rfl⟩ := List.head?_eq_some_iff.1 hzero
    exact hcanonical.eq_nil_of_zero tail rfl
  | plus hds => exact absurd rfl (hcanonical.plus_ne _)
  | minus hds =>
    refine .negative ⟨hds, fun hzero => ?_⟩
    obtain ⟨tail, rfl⟩ := List.head?_eq_some_iff.1 hzero
    exact absurd rfl (hcanonical.minus_zero_ne tail)

/-! ## Tokens -/

inductive Token where
  | beginList
  | endList
  | beginObject
  | endObject
  | colon
  | comma
  | integer (n : Int)
  | string (s : String)
  deriving DecidableEq

/-- The characters that may stand between tokens. -/
def blanks : List Char := [' ', '\t', '\n', '\r']

namespace Token

/-- The token of a single character. -/
def mark? : Char → Option Token
  | '[' => some .beginList
  | ']' => some .endList
  | '\x7b' => some .beginObject
  | '\x7d' => some .endObject
  | ':' => some .colon
  | ',' => some .comma
  | _ => none

/-- `Written cs t`: `cs` is a text of the token `t`. -/
inductive Written : List Char → Token → Prop
  | mark {c : Char} {t : Token} (h : mark? c = some t) : Written [c] t
  | integer {cs : List Char} {n : Int} (h : Integer cs n) : Written cs (.integer n)
  | string {cs : List Char} {s : String} (h : Quoted cs s) : Written cs (.string s)

/-- A token can end in front of any text, but for integers, which take all digits. -/
def EndsBefore : Token → List Char → Prop
  | .integer _, rest => EndsNumber rest
  | _, _ => True

end Token

open Token (mark? Written)

/-- `Spells cs ts`: `cs` is made of texts of the tokens `ts`, with blanks between them. -/
inductive Spells : List Char → List Token → Prop
  | nil : Spells [] []
  | blank {c : Char} {cs : List Char} {ts : List Token} (hc : c ∈ blanks) (h : Spells cs ts) :
    Spells (c :: cs) ts
  | token {text cs : List Char} {t : Token} {ts : List Token} (ht : Written text t)
    (hend : t.EndsBefore cs) (h : Spells cs ts) : Spells (text ++ cs) (t :: ts)

variable {t : Token} {ts : List Token} {c : Char}

/-! ## The reader -/

/-- Reads the token in front, and gives what is left. -/
def readToken? : List Char → Option (Token × List Char)
  | [] => none
  | c :: cs =>
    match mark? c with
    | some t => some (t, cs)
    | none =>
      if c = '"' then (readContent? cs).map fun r => (.string (.ofList r.1), r.2)
      else (readInteger? (c :: cs)).map fun r => (.integer r.1, r.2)

theorem endsBefore_of_mark? (h : mark? c = some t) : t.EndsBefore rest := by
  unfold mark? at h
  split at h <;> cases h <;> trivial

theorem mark?_eq_none_of_number (h : c = '-' ∨ c.isDigit = true) : mark? c = none := by
  unfold mark?
  split
  case h_7 => rfl
  all_goals rcases h with h | h <;> exact absurd h (by decide)

theorem readToken?_append (h : Written cs t) (hend : t.EndsBefore rest) :
    readToken? (cs ++ rest) = some (t, rest) := by
  cases h with
  | mark hmark =>
    show readToken? (_ :: rest) = _
    rw [readToken?, hmark]
  | integer hinteger =>
    have hread := readInteger?_eq_some_iff.2 ⟨cs, hinteger, rfl, hend⟩
    obtain ⟨first, ds, rfl, hfirst⟩ := hinteger.exists_cons
    have hquote : first ≠ '"' := by
      rintro rfl
      rcases hfirst with h | h <;> exact absurd h (by decide)
    rw [List.cons_append] at hread ⊢
    rw [readToken?, mark?_eq_none_of_number hfirst]
    dsimp only
    rw [if_neg hquote, hread]
    rfl
  | string hstring =>
    obtain ⟨content, hcontent, rfl⟩ := hstring
    have hcut : content ++ ['"'] ++ rest = content ++ '"' :: rest := by simp
    show readToken? ('"' :: (content ++ ['"'] ++ rest)) = _
    rw [readToken?, hcut]
    show (readContent? _).map _ = _
    rw [readContent?_append hcontent, Option.map_some, String.ofList_toList]

theorem exists_written_of_readToken? (h : readToken? cs = some (t, rest)) :
    ∃ text, Written text t ∧ cs = text ++ rest ∧ t.EndsBefore rest := by
  unfold readToken? at h
  split at h
  next => cases h
  next c cs =>
    split at h
    next t' hmark =>
      cases h
      exact ⟨_, .mark hmark, rfl, endsBefore_of_mark? hmark⟩
    next =>
      split at h
      next hquote =>
        subst hquote
        obtain ⟨⟨s, rest'⟩, hread, ⟨⟩⟩ := Option.map_eq_some_iff.1 h
        obtain ⟨content, hcontent, rfl⟩ := readContent?_eq_some_iff.1 hread
        refine ⟨'"' :: content ++ ['"'], .string ⟨content, ?_, rfl⟩, ?_, trivial⟩
        · rwa [String.toList_ofList]
        · simp
      next =>
        obtain ⟨⟨n, rest'⟩, hread, ⟨⟩⟩ := Option.map_eq_some_iff.1 h
        obtain ⟨text, htext, heq, hend⟩ := readInteger?_eq_some_iff.1 hread
        exact ⟨text, .integer htext, heq, hend⟩

/-- What is read as a token: its texts, in front of what can come behind them. -/
theorem readToken?_eq_some_iff :
    readToken? cs = some (t, rest) ↔
      ∃ text, Written text t ∧ cs = text ++ rest ∧ t.EndsBefore rest := by
  constructor
  · exact exists_written_of_readToken?
  · rintro ⟨text, htext, rfl, hend⟩
    exact readToken?_append htext hend

/-- A text of a token has a character in front, which is no blank. -/
theorem Token.Written.exists_cons (h : Written cs t) :
    ∃ first ds, cs = first :: ds ∧ first ∉ blanks := by
  cases h with
  | @mark c _ hmark =>
    refine ⟨c, [], rfl, ?_⟩
    unfold mark? at hmark
    split at hmark
    case h_7 => cases hmark
    all_goals decide
  | integer hinteger =>
    obtain ⟨first, ds, rfl, hfirst⟩ := hinteger.exists_cons
    refine ⟨first, ds, rfl, fun hblank => ?_⟩
    simp only [blanks, List.mem_cons, List.not_mem_nil, or_false] at hblank
    rcases hblank with rfl | rfl | rfl | rfl <;> exact absurd hfirst (by decide)
  | string hstring =>
    obtain ⟨content, -, rfl⟩ := hstring
    exact ⟨_, _, rfl, by decide⟩

theorem length_lt_of_readToken? (h : readToken? cs = some (t, rest)) :
    rest.length < cs.length := by
  obtain ⟨text, htext, rfl, -⟩ := readToken?_eq_some_iff.1 h
  obtain ⟨first, ds, rfl, -⟩ := htext.exists_cons
  rw [List.length_append, List.length_cons]
  omega

/-- Reads all tokens of a text. -/
def scan? : List Char → Option (List Token)
  | [] => some []
  | c :: cs =>
    if c ∈ blanks then scan? cs
    else
      match _hread : readToken? (c :: cs) with
      | none => none
      | some (t, rest) => (scan? rest).map (t :: ·)
termination_by cs => cs.length
decreasing_by
  · exact Nat.lt_succ_self _
  · exact length_lt_of_readToken? ‹_›

theorem scan?_of_spells (h : Spells cs ts) : scan? cs = some ts := by
  induction h with
  | nil => rw [scan?]
  | blank hc _ ih => rw [scan?, if_pos hc, ih]
  | @token text cs t ts ht hend _ ih =>
    have hread := readToken?_eq_some_iff.2 ⟨text, ht, rfl, hend⟩
    obtain ⟨first, ds, rfl, hfirst⟩ := ht.exists_cons
    rw [List.cons_append] at hread ⊢
    rw [scan?, if_neg hfirst]
    split
    next hnone =>
      rw [hread] at hnone
      cases hnone
    next t' rest' hsome =>
      rw [hread] at hsome
      cases hsome
      rw [ih]
      rfl

theorem spells_of_scan? (h : scan? cs = some ts) : Spells cs ts := by
  fun_induction scan? cs generalizing ts with
  | case1 =>
    cases h
    exact .nil
  | case2 c cs hblank ih => exact .blank hblank (ih h)
  | case3 => cases h
  | case4 c cs _ t rest hread ih =>
    obtain ⟨us, hus, rfl⟩ := Option.map_eq_some_iff.1 h
    obtain ⟨text, htext, heq, hend⟩ := readToken?_eq_some_iff.1 hread
    rw [heq]
    exact .token htext hend (ih hus)

/-- The tokens that are read are those of the text. -/
theorem scan?_eq_some_iff : scan? cs = some ts ↔ Spells cs ts :=
  ⟨spells_of_scan?, scan?_of_spells⟩

end LogIntake.Json
