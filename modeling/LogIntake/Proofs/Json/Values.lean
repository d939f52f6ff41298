import LogIntake.Proofs.Json.Tokens

/-!
# The values of JSON texts

A value determines its tokens, and the tokens determine the value. They are read from left to
right with a stack of the lists and objects that are not at their ends. What was read so far can be
told from the state of the reader at any time, so it accepts nothing but tokens of values.

## Main definitions

- `Json.tokens`: the tokens of a value.
- `Json.Text`: the texts of a value.
- `Json.State`, `Json.step`: the reader of tokens and its steps.
- `Json.read?`: the value of a text.

## Main statements

- `Json.tokens_step`: a step adds its token to those that were read.
- `Json.foldlM_tokens`: the tokens of a value are read as this value, whatever comes behind.
- `Json.parse?_eq_some_iff`, `Json.read?_eq_some_iff`: what is read.
-/

namespace LogIntake.Json

/-! ## The tokens of values -/

mutual

/-- The tokens of a value. -/
def tokens : Json → List Token
  | .integer n => [.integer n]
  | .string s => [.string s]
  | .list items => .beginList :: itemTokens items ++ [.endList]
  | .object members => .beginObject :: memberTokens members ++ [.endObject]

/-- The tokens of items with commas between them. -/
def itemTokens : List Json → List Token
  | [] => []
  | [v] => tokens v
  | v :: w :: rest => tokens v ++ .comma :: itemTokens (w :: rest)

/-- The tokens of members with commas between them. A member is a key, a colon and a value. -/
def memberTokens : List (String × Json) → List Token
  | [] => []
  | [(k, v)] => .string k :: .colon :: tokens v
  | (k, v) :: m :: rest => .string k :: .colon :: tokens v ++ .comma :: memberTokens (m :: rest)

end

/-- `Text cs v`: `cs` is a JSON text of the value `v`. -/
def Text (cs : List Char) (v : Json) : Prop := Spells cs (tokens v)

/-! ## The reader of tokens -/

/-- A list or an object that is not at its end, with what stands in front of the value that is read
next. -/
inductive Frame where
  | items (done : List Json)
  | members (done : List (String × Json)) (key : String)

/-- Where the reader is, with the lists and objects around, from the innermost one. -/
inductive State where
  /-- A value has to come. -/
  | value (outer : List Frame)
  /-- A list was begun: its first item or its end has to come. -/
  | firstItem (outer : List Frame)
  /-- An object was begun: its first key or its end has to come. -/
  | firstKey (outer : List Frame)
  /-- A key has to come behind the members that were read. -/
  | key (done : List (String × Json)) (outer : List Frame)
  /-- A colon has to come behind a key. -/
  | colon (done : List (String × Json)) (key : String) (outer : List Frame)
  /-- A value was read. -/
  | behind (v : Json) (outer : List Frame)

/-- The first token of a value. -/
def begin? (outer : List Frame) : Token → Option State
  | .integer n => some (.behind (.integer n) outer)
  | .string s => some (.behind (.string s) outer)
  | .beginList => some (.firstItem outer)
  | .beginObject => some (.firstKey outer)
  | _ => none

/-- Reads a token. -/
def step : State → Token → Option State
  | .value outer, t => begin? outer t
  | .firstItem outer, .endList => some (.behind (.list []) outer)
  | .firstItem outer, t => begin? (.items [] :: outer) t
  | .firstKey outer, .endObject => some (.behind (.object []) outer)
  | .firstKey outer, .string k => some (.colon [] k outer)
  | .key done outer, .string k => some (.colon done k outer)
  | .colon done k outer, .colon => some (.value (.members done k :: outer))
  | .behind v (.items done :: outer), .comma => some (.value (.items (done ++ [v]) :: outer))
  | .behind v (.items done :: outer), .endList => some (.behind (.list (done ++ [v])) outer)
  | .behind v (.members done k :: outer), .comma => some (.key (done ++ [(k, v)]) outer)
  | .behind v (.members done k :: outer), .endObject =>
    some (.behind (.object (done ++ [(k, v)])) outer)
  | _, _ => none

/-- Reads one value and nothing behind it. -/
def parse? (ts : List Token) : Option Json :=
  match ts.foldlM step (.value []) with
  | some (.behind v []) => some v
  | _ => none

/-- Reads a JSON text. -/
def read? (cs : List Char) : Option Json := (scan? cs).bind parse?

variable {s s' : State} {t : Token} {ts : List Token} {outer : List Frame} {v : Json}

/-! ## What was read -/

/-- The tokens of items that have a comma behind each of them. -/
def openItems (done : List Json) : List Token := done.flatMap fun v => tokens v ++ [.comma]

/-- The tokens of members that have a comma behind each of them. -/
def openMembers (done : List (String × Json)) : List Token :=
  done.flatMap fun m => .string m.1 :: .colon :: tokens m.2 ++ [.comma]

def Frame.tokens : Frame → List Token
  | .items done => .beginList :: openItems done
  | .members done k => .beginObject :: openMembers done ++ [.string k, .colon]

def outerTokens (outer : List Frame) : List Token := outer.reverse.flatMap Frame.tokens

/-- The tokens that were read on the way to a state. -/
def State.tokens : State → List Token
  | .value outer => outerTokens outer
  | .firstItem outer => outerTokens outer ++ [.beginList]
  | .firstKey outer => outerTokens outer ++ [.beginObject]
  | .key done outer => outerTokens outer ++ .beginObject :: openMembers done
  | .colon done k outer => outerTokens outer ++ .beginObject :: openMembers done ++ [.string k]
  | .behind v outer => outerTokens outer ++ Json.tokens v

theorem outerTokens_cons (f : Frame) (outer : List Frame) :
    outerTokens (f :: outer) = outerTokens outer ++ f.tokens := by
  simp [outerTokens]

theorem itemTokens_concat (done : List Json) (v : Json) :
    itemTokens (done ++ [v]) = openItems done ++ tokens v := by
  induction done with
  | nil => rfl
  | cons w rest ih =>
    obtain ⟨u, tail, hrest⟩ : ∃ u tail, rest ++ [v] = u :: tail :=
      List.exists_cons_of_ne_nil (by simp)
    rw [List.cons_append, hrest, itemTokens, ← hrest, ih]
    simp [openItems]

theorem memberTokens_concat (done : List (String × Json)) (k : String) (v : Json) :
    memberTokens (done ++ [(k, v)]) = openMembers done ++ .string k :: .colon :: tokens v := by
  induction done with
  | nil => rfl
  | cons m rest ih =>
    obtain ⟨u, tail, hrest⟩ : ∃ u tail, rest ++ [(k, v)] = u :: tail :=
      List.exists_cons_of_ne_nil (by simp)
    rw [List.cons_append, hrest, memberTokens, ← hrest, ih]
    simp [openMembers]

theorem tokens_begin (h : begin? outer t = some s) : s.tokens = outerTokens outer ++ [t] := by
  unfold begin? at h
  split at h <;> cases h <;> rfl

/-- A step adds its token to those that were read. -/
theorem tokens_step (h : step s t = some s') : s'.tokens = s.tokens ++ [t] := by
  unfold step at h
  split at h
  next outer t => exact tokens_begin h
  next outer =>
    cases h
    simp [State.tokens, tokens, itemTokens]
  next outer t _ =>
    rw [tokens_begin h, outerTokens_cons]
    rfl
  next outer =>
    cases h
    simp [State.tokens, tokens, memberTokens]
  next outer k =>
    cases h
    simp [State.tokens, openMembers]
  next done outer k =>
    cases h
    rfl
  next done k outer =>
    cases h
    simp [State.tokens, outerTokens_cons, Frame.tokens]
  next v done outer =>
    cases h
    simp [State.tokens, outerTokens_cons, Frame.tokens, openItems]
  next v done outer =>
    cases h
    simp [State.tokens, outerTokens_cons, Frame.tokens, tokens, itemTokens_concat]
  next v done k outer =>
    cases h
    simp [State.tokens, outerTokens_cons, Frame.tokens, openMembers]
  next v done k outer =>
    cases h
    simp [State.tokens, outerTokens_cons, Frame.tokens, tokens, memberTokens_concat]
  next => cases h

theorem tokens_foldlM (h : ts.foldlM step s = some s') : s'.tokens = s.tokens ++ ts := by
  induction ts generalizing s with
  | nil =>
    cases h
    rw [List.append_nil]
  | cons t ts ih =>
    rw [List.foldlM_cons] at h
    obtain ⟨mid, hstep, hrest⟩ := Option.bind_eq_some_iff.1 h
    rw [ih hrest, tokens_step hstep, List.append_assoc, List.singleton_append]

/-! ## What is read -/

/-- The first token of a value ends no list. -/
theorem exists_tokens_eq_cons (v : Json) : ∃ t ts, tokens v = t :: ts ∧ t ≠ .endList := by
  cases v with
  | integer n => exact ⟨_, _, rfl, by simp⟩
  | string s => exact ⟨_, _, rfl, by simp⟩
  | list items => exact ⟨_, _, rfl, by simp⟩
  | object members => exact ⟨_, _, rfl, by simp⟩

theorem step_firstItem (h : t ≠ .endList) :
    step (.firstItem outer) t = step (.value (.items [] :: outer)) t := by
  cases t <;> first | rfl | exact absurd rfl h

/-- Behind the beginning of a list its first item is read as any other one. -/
theorem foldlM_firstItem {items : List Json} (h : items ≠ []) :
    (itemTokens items ++ ts).foldlM step (.firstItem outer) =
      (itemTokens items ++ ts).foldlM step (.value (.items [] :: outer)) := by
  have hfirst : ∃ t us, itemTokens items = t :: us ∧ t ≠ .endList := by
    match items, h with
    | [v], _ => exact exists_tokens_eq_cons v
    | v :: w :: rest, _ =>
      obtain ⟨t, us, htokens, ht⟩ := exists_tokens_eq_cons v
      exact ⟨t, us ++ .comma :: itemTokens (w :: rest), by rw [itemTokens, htokens]; rfl, ht⟩
  obtain ⟨t, us, htokens, ht⟩ := hfirst
  rw [htokens, List.cons_append, List.foldlM_cons, List.foldlM_cons, step_firstItem ht]

theorem foldlM_firstKey {members : List (String × Json)} (h : members ≠ []) :
    (memberTokens members ++ ts).foldlM step (.firstKey outer) =
      (memberTokens members ++ ts).foldlM step (.key [] outer) := by
  match members, h with
  | [(k, v)], _ => rfl
  | (k, v) :: m :: rest, _ => rfl

mutual

/-- The tokens of a value are read as this value, whatever comes behind. -/
theorem foldlM_tokens (v : Json) (outer : List Frame) (ts : List Token) :
    (tokens v ++ ts).foldlM step (.value outer) = ts.foldlM step (.behind v outer) := by
  match v with
  | .integer n => rfl
  | .string s => rfl
  | .list [] => rfl
  | .list (v :: rest) =>
    have hitems := foldlM_itemTokens (v :: rest) (by simp) [] outer ts
    rw [← foldlM_firstItem (by simp)] at hitems
    rw [tokens, List.append_assoc, List.cons_append, List.foldlM_cons]
    exact hitems
  | .object [] => rfl
  | .object (m :: rest) =>
    have hmembers := foldlM_memberTokens (m :: rest) (by simp) [] outer ts
    rw [← foldlM_firstKey (by simp)] at hmembers
    rw [tokens, List.append_assoc, List.cons_append, List.foldlM_cons]
    exact hmembers

theorem foldlM_itemTokens (items : List Json) (h : items ≠ []) (done : List Json)
    (outer : List Frame) (ts : List Token) :
    (itemTokens items ++ .endList :: ts).foldlM step (.value (.items done :: outer)) =
      ts.foldlM step (.behind (.list (done ++ items)) outer) := by
  match items, h with
  | [v], _ =>
    rw [itemTokens, foldlM_tokens v]
    rfl
  | v :: w :: rest, _ =>
    have hrest := foldlM_itemTokens (w :: rest) (by simp) (done ++ [v]) outer ts
    rw [List.append_assoc] at hrest
    rw [itemTokens, List.append_assoc, foldlM_tokens v]
    exact hrest

theorem foldlM_memberTokens (members : List (String × Json)) (h : members ≠ [])
    (done : List (String × Json)) (outer : List Frame) (ts : List Token) :
    (memberTokens members ++ .endObject :: ts).foldlM step (.key done outer) =
      ts.foldlM step (.behind (.object (done ++ members)) outer) := by
  match members, h with
  | [(k, v)], _ =>
    exact foldlM_tokens v (.members done k :: outer) (.endObject :: ts)
  | (k, v) :: m :: rest, _ =>
    have hrest := foldlM_memberTokens (m :: rest) (by simp) (done ++ [(k, v)]) outer ts
    rw [List.append_assoc] at hrest
    rw [memberTokens, List.append_assoc]
    exact (foldlM_tokens v (.members done k :: outer) _).trans hrest

end

/-- The tokens that are read as a value are those of the value. -/
theorem parse?_eq_some_iff : parse? ts = some v ↔ ts = tokens v := by
  constructor
  · intro h
    unfold parse? at h
    split at h
    next w hread =>
      cases h
      exact (tokens_foldlM hread).symm
    next => cases h
  · rintro rfl
    have hread := foldlM_tokens v [] []
    rw [List.append_nil] at hread
    rw [parse?, hread]
    rfl

/-- The texts that are read as a value are those of the value. -/
theorem read?_eq_some_iff {cs : List Char} : read? cs = some v ↔ Text cs v := by
  rw [read?, Option.bind_eq_some_iff]
  constructor
  · rintro ⟨ts, hscan, hparse⟩
    rw [parse?_eq_some_iff.1 hparse] at hscan
    exact scan?_eq_some_iff.1 hscan
  · intro h
    exact ⟨tokens v, scan?_eq_some_iff.2 h, parse?_eq_some_iff.2 rfl⟩

/-- A text has one value. -/
theorem Text.unique {cs : List Char} {w : Json} (hv : Text cs v) (hw : Text cs w) : v = w := by
  have h := read?_eq_some_iff.2 hv
  rw [read?_eq_some_iff.2 hw] at h
  exact (Option.some.inj h).symm

end LogIntake.Json
