import LogIntake.Proofs.Json.Values

/-!
# The two layouts of JSON texts

With blanks or without, a value is written as one of its texts: the layouts differ in nothing but
the blanks between the tokens.

## Main statements

- `Json.spells_compact`, `Json.spells_prettyAt`: the tokens of both layouts.
- `Json.text_compact`, `Json.text_pretty`: both are texts of the value.
-/

namespace LogIntake.Json

variable {rest : List Char} {ts : List Token}

/-! ## Parts of texts -/

theorem endsNumber_nil : EndsNumber [] := nofun

theorem endsNumber_cons {c : Char} (h : c.isDigit = false) : EndsNumber (c :: rest) := by
  rintro c' ⟨⟩
  exact h

theorem Spells.mark {c : Char} {t : Token} (hc : Token.mark? c = some t) (h : Spells rest ts) :
    Spells (c :: rest) (t :: ts) :=
  .token (.mark hc) (endsBefore_of_mark? hc) h

theorem Spells.integer (n : Int) (hend : EndsNumber rest) (h : Spells rest ts) :
    Spells (Decimal.write n ++ rest) (.integer n :: ts) :=
  .token (.integer (integer_write n)) hend h

theorem Spells.string (s : String) (h : Spells rest ts) :
    Spells (quote s ++ rest) (.string s :: ts) :=
  .token (.string (quoted_quote s)) trivial h

/-- A key and its colon in front of a value. -/
theorem Spells.key (k : String) (h : Spells rest ts) :
    Spells (quote k ++ ':' :: rest) (.string k :: .colon :: ts) :=
  .string k (.mark rfl h)

theorem Spells.blanks {cs : List Char} (hblanks : ∀ c ∈ cs, c ∈ Json.blanks)
    (h : Spells rest ts) : Spells (cs ++ rest) ts := by
  induction cs with
  | nil => exact h
  | cons c cs ih =>
    obtain ⟨hc, hcs⟩ := List.forall_mem_cons.1 hblanks
    exact .blank hc (ih hcs)

theorem Spells.newline (depth : Nat) (h : Spells rest ts) :
    Spells (Json.newline depth ++ rest) ts := by
  refine .blanks (fun c hc => ?_) h
  rcases List.mem_cons.1 hc with rfl | hc
  · decide
  · rw [List.eq_of_mem_replicate hc]
    decide

theorem endsNumber_newline (depth : Nat) : EndsNumber (newline depth ++ rest) :=
  endsNumber_cons (by decide)

/-! ## Without blanks -/

mutual

/-- The tokens of a value without blanks, in front of what can come behind a number. -/
theorem spells_compact (v : Json) {rest : List Char} {ts : List Token} (hend : EndsNumber rest)
    (h : Spells rest ts) : Spells (compact v ++ rest) (tokens v ++ ts) := by
  match v with
  | .integer n => exact .integer n hend h
  | .string s => exact .string s h
  | .list items =>
    have hitems := spells_compactItems items (endsNumber_cons (by decide)) (h.mark (c := ']') rfl)
    rw [compact, tokens, List.append_assoc, List.append_assoc]
    exact hitems.mark rfl
  | .object members =>
    have hmembers :=
      spells_compactMembers members (endsNumber_cons (by decide)) (h.mark (c := '\x7d') rfl)
    rw [compact, tokens, List.append_assoc, List.append_assoc]
    exact hmembers.mark rfl

theorem spells_compactItems (items : List Json) {rest : List Char} {ts : List Token}
    (hend : EndsNumber rest) (h : Spells rest ts) :
    Spells (compactItems items ++ rest) (itemTokens items ++ ts) := by
  match items with
  | [] => exact h
  | [v] => exact spells_compact v hend h
  | v :: w :: items =>
    have hitems := (spells_compactItems (w :: items) hend h).mark (c := ',') rfl
    rw [compactItems, itemTokens, List.append_assoc, List.append_assoc]
    exact spells_compact v (endsNumber_cons (by decide)) hitems

theorem spells_compactMembers (members : List (String × Json)) {rest : List Char}
    {ts : List Token} (hend : EndsNumber rest) (h : Spells rest ts) :
    Spells (compactMembers members ++ rest) (memberTokens members ++ ts) := by
  match members with
  | [] => exact h
  | [(k, v)] =>
    rw [compactMembers, memberTokens, List.append_assoc]
    exact .key k (spells_compact v hend h)
  | (k, v) :: m :: members =>
    have hmembers := (spells_compactMembers (m :: members) hend h).mark (c := ',') rfl
    have hvalue := spells_compact v (endsNumber_cons (by decide)) hmembers
    rw [compactMembers, memberTokens, List.append_assoc, List.append_assoc]
    simpa using Spells.key k hvalue

end

/-! ## In lines -/

mutual

/-- The tokens of a value in lines, in front of what can come behind a number. -/
theorem spells_prettyAt (depth : Nat) (v : Json) {rest : List Char} {ts : List Token}
    (hend : EndsNumber rest) (h : Spells rest ts) :
    Spells (prettyAt depth v ++ rest) (tokens v ++ ts) := by
  match v with
  | .integer n => exact .integer n hend h
  | .string s => exact .string s h
  | .list [] => exact .mark rfl (h.mark rfl)
  | .list (v :: items) =>
    have hitems := spells_prettyItems (depth + 1) (v :: items) (endsNumber_newline depth)
      ((h.mark (c := ']') rfl).newline depth)
    rw [prettyAt, tokens]
    simpa using hitems.mark (c := '[') rfl
  | .object [] => exact .mark rfl (h.mark rfl)
  | .object (m :: members) =>
    have hmembers := spells_prettyMembers (depth + 1) (m :: members) (endsNumber_newline depth)
      ((h.mark (c := '\x7d') rfl).newline depth)
    rw [prettyAt, tokens]
    simpa using hmembers.mark (c := '\x7b') rfl

theorem spells_prettyItems (depth : Nat) (items : List Json) {rest : List Char}
    {ts : List Token} (hend : EndsNumber rest) (h : Spells rest ts) :
    Spells (prettyItems depth items ++ rest) (itemTokens items ++ ts) := by
  match items with
  | [] => exact h
  | [v] =>
    rw [prettyItems, itemTokens, List.append_assoc]
    exact (spells_prettyAt depth v hend h).newline depth
  | v :: w :: items =>
    have hitems := (spells_prettyItems depth (w :: items) hend h).mark (c := ',') rfl
    have hvalue := spells_prettyAt depth v (endsNumber_cons (by decide)) hitems
    rw [prettyItems, itemTokens]
    simpa using hvalue.newline depth

theorem spells_prettyMembers (depth : Nat) (members : List (String × Json)) {rest : List Char}
    {ts : List Token} (hend : EndsNumber rest) (h : Spells rest ts) :
    Spells (prettyMembers depth members ++ rest) (memberTokens members ++ ts) := by
  match members with
  | [] => exact h
  | [(k, v)] =>
    have hvalue := (spells_prettyAt depth v hend h).blank (c := ' ') (by decide)
    rw [prettyMembers, memberTokens]
    simpa using (hvalue.key k).newline depth
  | (k, v) :: m :: members =>
    have hmembers := (spells_prettyMembers depth (m :: members) hend h).mark (c := ',') rfl
    have hvalue :=
      (spells_prettyAt depth v (endsNumber_cons (by decide)) hmembers).blank (c := ' ') (by decide)
    rw [prettyMembers, memberTokens]
    simpa using (hvalue.key k).newline depth

end

/-! ## Texts -/

theorem text_compact (v : Json) : Text (compact v) v := by
  have h := spells_compact v endsNumber_nil .nil
  rwa [List.append_nil, List.append_nil] at h

/-- The lines of a value are a text of it, whatever blanks come behind them. -/
theorem text_pretty_append (v : Json) {cs : List Char} (hblanks : ∀ c ∈ cs, c ∈ blanks) :
    Text (pretty v ++ cs) v := by
  have hspells : Spells cs [] := by
    rw [← List.append_nil cs]
    exact .blanks hblanks .nil
  have hend : EndsNumber cs := by
    intro c hc
    have hblank := hblanks c (List.mem_of_mem_head? hc)
    simp only [blanks, List.mem_cons, List.not_mem_nil, or_false] at hblank
    rcases hblank with rfl | rfl | rfl | rfl <;> rfl
  have h := spells_prettyAt 0 v hend hspells
  rwa [List.append_nil] at h

theorem text_pretty (v : Json) : Text (pretty v) v := by
  have h : Text (pretty v ++ []) v := text_pretty_append v (List.forall_mem_nil _)
  rwa [List.append_nil] at h

end LogIntake.Json
