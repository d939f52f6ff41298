import LogIntake.Proofs.Checkpoint.RoundTrip
import LogIntake.Proofs.Text.Numeral
import LogIntake.Proofs.Text.Places
import Mathlib.Data.List.Perm.Basic
import Mathlib.Data.List.TakeWhile

/-!
# The texts of checkpoints

Which texts describe a checkpoint, and which one, is said here as a grammar, without a scan from
left to right. `Checkpoint.decode` accepts exactly these texts and gives that checkpoint.

## Main definitions

- `Checkpoint.IsToken`: the tokens of a partition number and an offset.
- `Checkpoint.Spells`: the texts of a name and of entries for distinct partitions.
- `Checkpoint.Written`: the texts of a checkpoint.

## Main statements

- `Checkpoint.readToken_eq_ok_iff`: the tokens that are read.
- `Checkpoint.readTokens_eq_ok_iff`: the lists of tokens that are read.
- `Checkpoint.decode_eq_ok_iff`: the texts that are read, and what is read.
- `Checkpoint.exists_decode_iff`: the texts that are read, by their form alone.
- `Checkpoint.Written.perm`: the order of the tokens says nothing.
-/

namespace LogIntake

/-! ## Numerals of words -/

namespace Decimal

variable {cs : List Char}

theorem Numeral.not_mem {n : Int} (h : Numeral cs n) {c : Char} (hdigit : c.isDigit = false)
    (hplus : c ≠ '+') (hminus : c ≠ '-') : c ∉ cs := by
  have hdigits : ∀ {ds : List Char}, Digits ds → c ∉ ds := fun hds hc => by
    have hc' := hds.2 c hc
    rw [hdigit] at hc'
    cases hc'
  cases h with
  | unsigned hds => exact hdigits hds
  | plus hds => exact List.not_mem_cons_of_ne_of_not_mem hplus (hdigits hds)
  | minus hds => exact List.not_mem_cons_of_ne_of_not_mem hminus (hdigits hds)

/-- The numerals read into 32 bits are those of the numbers that 32 bits hold. -/
theorem exists_read_int32_iff {i : Int32} :
    (∃ n, read .signed32 cs = .ok n ∧ Int32.ofInt n = i) ↔ Numeral cs i.toInt := by
  simp only [read_eq_ok_iff_of_neg (b := .signed32) (by decide)]
  constructor
  · rintro ⟨n, ⟨hcs, hlo, hhi⟩, rfl⟩
    rwa [Int32.toInt_ofInt_of_le hlo (Int.lt_add_one_of_le hhi)]
  · intro hcs
    exact ⟨i.toInt, ⟨hcs, i.le_toInt, Int.le_of_lt_add_one i.toInt_lt⟩, i.ofInt_toInt⟩

/-- The numerals read into 64 bits are those of the numbers that 64 bits hold. -/
theorem exists_read_int64_iff {i : Int64} :
    (∃ n, read .signed64 cs = .ok n ∧ Int64.ofInt n = i) ↔ Numeral cs i.toInt := by
  simp only [read_eq_ok_iff_of_neg (b := .signed64) (by decide)]
  constructor
  · rintro ⟨n, ⟨hcs, hlo, hhi⟩, rfl⟩
    rwa [Int64.toInt_ofInt_of_le hlo (Int.lt_add_one_of_le hhi)]
  · intro hcs
    exact ⟨i.toInt, ⟨hcs, i.le_toInt, Int.le_of_lt_add_one i.toInt_lt⟩, i.ofInt_toInt⟩

end Decimal

namespace Checkpoint

/-! ## Tokens -/

/-- `IsToken t e`: `t` is the numeral of a partition's number, a colon and the numeral of an
offset, with the number and the offset in `e`. -/
def IsToken (t : List Char) (e : Int32 × Int64) : Prop :=
  ∃ index offset, t = index ++ ':' :: offset ∧
    Decimal.Numeral index e.1.toInt ∧ Decimal.Numeral offset e.2.toInt

theorem IsToken.comma_not_mem {t : List Char} {e : Int32 × Int64} (h : IsToken t e) : ',' ∉ t := by
  obtain ⟨index, offset, rfl, hindex, hoffset⟩ := h
  rw [List.mem_append, List.mem_cons, not_or, not_or]
  exact ⟨hindex.not_mem (by decide) (by decide) (by decide), by decide,
    hoffset.not_mem (by decide) (by decide) (by decide)⟩

theorem readToken_of_not_mem {t : List Char} (h : ':' ∉ t) :
    readToken t = .error (.malformedToken (.ofList t)) := by
  have hdrop : t.dropWhile (· ≠ ':') = [] := by
    rw [List.dropWhile_eq_nil_iff]
    intro c hc
    exact decide_eq_true fun heq => h (heq ▸ hc)
  rw [readToken, hdrop]

/-- Both sides of the first colon are read as numerals. -/
theorem readToken_append_eq_ok_iff {index offset : List Char} (hcolon : ':' ∉ index)
    {e : Int32 × Int64} :
    readToken (index ++ ':' :: offset) = .ok e ↔
      Decimal.Numeral index e.1.toInt ∧ Decimal.Numeral offset e.2.toInt := by
  have hbefore : ∀ c ∈ index, decide (c ≠ ':') = true := fun c hc =>
    decide_eq_true fun heq => hcolon (heq ▸ hc)
  have hdrop : (index ++ ':' :: offset).dropWhile (· ≠ ':') = ':' :: offset := by
    rw [List.dropWhile_append_of_pos hbefore]
    rfl
  have htake : (index ++ ':' :: offset).takeWhile (· ≠ ':') = index := by
    rw [List.takeWhile_append_of_pos hbefore]
    simp
  rw [← Decimal.exists_read_int32_iff, ← Decimal.exists_read_int64_iff, readToken, hdrop, htake]
  dsimp only
  cases Decimal.read .signed32 index <;> cases Decimal.read .signed64 offset <;>
    simp [Prod.ext_iff]

/-- The tokens that are read. -/
theorem readToken_eq_ok_iff {t : List Char} {e : Int32 × Int64} :
    readToken t = .ok e ↔ IsToken t e := by
  constructor
  · intro h
    by_cases hcolon : ':' ∈ t
    · obtain ⟨index, offset, rfl, hindex⟩ := List.eq_append_cons_of_mem hcolon
      exact ⟨index, offset, rfl, (readToken_append_eq_ok_iff hindex).1 h⟩
    · rw [readToken_of_not_mem hcolon] at h
      cases h
  · rintro ⟨index, offset, rfl, hindex, hoffset⟩
    have hcolon : ':' ∉ index := hindex.not_mem (by decide) (by decide) (by decide)
    exact (readToken_append_eq_ok_iff hcolon).2 ⟨hindex, hoffset⟩

/-! ## Lists of tokens -/

/-- The entry of a partition of the log, given by its number and its offset. -/
def entryOf (log : String) (e : Int32 × Int64) : Partition × Int64 := (⟨log, e.1⟩, e.2)

/-- One step of the reading: a token of a partition that no token before was about. -/
theorem readTokens_cons_eq_ok_iff {log : String} {acc offsets : OffsetTable} {t : List Char}
    {ts : List (List Char)} :
    readTokens log acc (t :: ts) = .ok offsets ↔
      ∃ e, IsToken t e ∧ acc.get? ⟨log, e.1⟩ = none ∧
        readTokens log (acc.insert ⟨log, e.1⟩ e.2) ts = .ok offsets := by
  simp only [← readToken_eq_ok_iff, Table.get?_eq_none_iff]
  rw [readTokens]
  cases readToken t with
  | error e => simp
  | ok e =>
    by_cases hrepeated : acc.contains ⟨log, e.1⟩ = true
    · simp [hrepeated]
    · simp [hrepeated]

/-- The lists of tokens that are read behind some entries: tokens of distinct partitions, none of
which has an entry already. They add their entries to those before. -/
theorem readTokens_eq_ok_iff {log : String} {acc offsets : OffsetTable} {ts : List (List Char)} :
    readTokens log acc ts = .ok offsets ↔
      ∃ es, List.Forall₂ IsToken ts es ∧ (es.map (·.1)).Nodup ∧
        (∀ e ∈ es, acc.get? ⟨log, e.1⟩ = none) ∧ offsets = acc.extend (es.map (entryOf log)) := by
  induction ts generalizing acc with
  | nil =>
    rw [readTokens, Except.ok.injEq]
    constructor
    · rintro rfl
      exact ⟨[], .nil, .nil, by simp, rfl⟩
    · rintro ⟨es, hnil, -, -, rfl⟩
      cases hnil
      rfl
  | cons t ts ih =>
    simp only [readTokens_cons_eq_ok_iff, ih]
    -- A later entry is new to both tables: it is not that of the token just read.
    have hfresh : ∀ (e : Int32 × Int64) (es : List (Int32 × Int64)),
        acc.get? ⟨log, e.1⟩ = none →
        ((∀ e' ∈ es, (acc.insert ⟨log, e.1⟩ e.2).get? ⟨log, e'.1⟩ = none) ↔
          e.1 ∉ es.map (·.1) ∧ ∀ e' ∈ es, acc.get? ⟨log, e'.1⟩ = none) := by
      intro e es he
      simp only [Table.get?_insert, Partition.mk.injEq, true_and, List.mem_map]
      grind
    constructor
    · rintro ⟨e, ht, he, es, hts, hnodup, hnew, rfl⟩
      obtain ⟨hhead, htail⟩ := (hfresh e es he).1 hnew
      exact ⟨e :: es, .cons ht hts, List.nodup_cons.2 ⟨hhead, hnodup⟩,
        List.forall_mem_cons.2 ⟨he, htail⟩, rfl⟩
    · rintro ⟨_, hts, hnodup, hnew, rfl⟩
      obtain ⟨e, es, ht, hrest, rfl⟩ := List.forall₂_cons_left_iff.1 hts
      obtain ⟨hhead, hnodup⟩ := List.nodup_cons.1 hnodup
      obtain ⟨he, htail⟩ := List.forall_mem_cons.1 hnew
      exact ⟨e, ht, he, es, hrest, hnodup, (hfresh e es he).2 ⟨hhead, htail⟩, rfl⟩

/-! ## The whole text -/

/-- `Spells s name es`: `s` is the name of a log and, behind a comma each, a token for every one of
the entries, which are about distinct partitions. -/
structure Spells (s name : List Char) (es : List (Int32 × Int64)) : Prop where
  name_ne_nil : name ≠ []
  comma_not_mem_name : ',' ∉ name
  tokens : ∃ tokens, List.Forall₂ IsToken tokens es ∧ s = name ++ tokens.flatMap (',' :: ·)
  distinct : (es.map (·.1)).Nodup

/-- `Written s c`: `s` is a text of the checkpoint `c`, the empty text if there is no checkpoint. -/
inductive Written (s : List Char) (c : Checkpoint) : Prop
  | absent (hs : s = []) (hc : c = absent)
  | line {name : List Char} {es : List (Int32 × Int64)} (hspells : Spells s name es)
      (hlog : c.log = .ofList name)
      (hoffsets : ∀ p o, c.offsets.get? p = some o ↔ p.log = .ofList name ∧ (p.index, o) ∈ es)

theorem comma_not_mem_of_forall₂ {tokens : List (List Char)} {es : List (Int32 × Int64)}
    (h : List.Forall₂ IsToken tokens es) : ∀ t ∈ tokens, ',' ∉ t := by
  induction h with
  | nil => simp
  | cons ht _ ih => exact List.forall_mem_cons.2 ⟨ht.comma_not_mem, ih⟩

/-- The commas of a text that spells entries stand in front of the tokens, and nowhere else. -/
theorem spells_iff_splitOn {s name : List Char} {es : List (Int32 × Int64)} :
    Spells s name es ↔ name ≠ [] ∧ (es.map (·.1)).Nodup ∧
      ∃ tokens, s.splitOn ',' = name :: tokens ∧ List.Forall₂ IsToken tokens es := by
  constructor
  · rintro ⟨hname, hcomma, ⟨tokens, htokens, rfl⟩, hdistinct⟩
    refine ⟨hname, hdistinct, tokens, ?_, htokens⟩
    rw [← intercalate_cons_eq_append_flatMap, List.splitOn_intercalate]
    · exact List.forall_mem_cons.2 ⟨hcomma, comma_not_mem_of_forall₂ htokens⟩
    · simp
  · rintro ⟨hname, hdistinct, tokens, hsplit, htokens⟩
    have hcomma := (Text.splitOn_eq_iff.1 hsplit).comma_not_mem name List.mem_cons_self
    refine ⟨hname, hcomma, ⟨tokens, htokens, ?_⟩, hdistinct⟩
    rw [← intercalate_cons_eq_append_flatMap, ← hsplit, List.intercalate_splitOn]

/-- The order of the tokens changes nothing but the order of the entries. -/
theorem Spells.perm {s s' name : List Char} {tokens tokens' : List (List Char)}
    {es : List (Int32 × Int64)} (hs : s.splitOn ',' = name :: tokens)
    (hs' : s'.splitOn ',' = name :: tokens') (hperm : tokens.Perm tokens') {name' : List Char}
    (h : Spells s name' es) : ∃ es', es.Perm es' ∧ Spells s' name' es' := by
  obtain ⟨hname, hdistinct, ts, hsplit, hts⟩ := spells_iff_splitOn.1 h
  obtain ⟨rfl, rfl⟩ := List.cons.inj (hsplit.symm.trans hs)
  obtain ⟨es', htokens', hes⟩ := List.perm_comp_forall₂ hperm.symm hts
  refine ⟨es', hes.symm, spells_iff_splitOn.2 ⟨hname, ?_, tokens', hs', htokens'⟩⟩
  exact (hes.map _).nodup_iff.2 hdistinct

theorem Written.perm {s s' name : List Char} {tokens tokens' : List (List Char)} {c : Checkpoint}
    (hs : s.splitOn ',' = name :: tokens) (hs' : s'.splitOn ',' = name :: tokens')
    (hperm : tokens.Perm tokens') (h : Written s c) : Written s' c := by
  cases h with
  | absent hnil hc =>
    -- The empty text has one segment, and no token that could change its place.
    subst hnil
    obtain ⟨rfl, rfl⟩ := List.cons.inj hs
    rw [List.perm_nil.1 hperm.symm] at hs'
    have hjoin : [','].intercalate (s'.splitOn ',') = s' := List.intercalate_splitOn ','
    rw [hs'] at hjoin
    exact .absent hjoin.symm hc
  | line hspells hlog hoffsets =>
    obtain ⟨es', hes, hspells'⟩ := hspells.perm hs hs' hperm
    refine .line hspells' hlog fun p o => ?_
    rw [hoffsets, hes.mem_iff]

/-! ## Reading the whole text -/

theorem nodup_entryOf {es : List (Int32 × Int64)} (h : (es.map (·.1)).Nodup) (log : String) :
    ((es.map (entryOf log)).map (·.1)).Nodup := by
  rw [List.map_map]
  have hindex : (fun e => Partition.mk log e) ∘ Prod.fst = Prod.fst ∘ entryOf log := rfl
  rw [← hindex, ← List.map_map]
  exact List.Pairwise.map _ (fun i j hne heq => hne (Partition.mk.inj heq).2) h

theorem mem_map_entryOf_iff {es : List (Int32 × Int64)} {log : String} {p : Partition} {o : Int64} :
    (p, o) ∈ es.map (entryOf log) ↔ p.log = log ∧ (p.index, o) ∈ es := by
  obtain ⟨plog, index⟩ := p
  simp only [List.mem_map, entryOf, Prod.mk.injEq, Partition.mk.injEq]
  constructor
  · rintro ⟨e, he, ⟨rfl, rfl⟩, rfl⟩
    exact ⟨rfl, he⟩
  · rintro ⟨rfl, he⟩
    exact ⟨_, he, ⟨rfl, rfl⟩, rfl⟩

/-- The lists of tokens that are read, by what the table read answers. -/
theorem readTokens_empty_eq_ok_iff {log : String} {offsets : OffsetTable} {ts : List (List Char)} :
    readTokens log .empty ts = .ok offsets ↔
      ∃ es, List.Forall₂ IsToken ts es ∧ (es.map (·.1)).Nodup ∧
        ∀ p o, offsets.get? p = some o ↔ p.log = log ∧ (p.index, o) ∈ es := by
  rw [readTokens_eq_ok_iff]
  refine exists_congr fun es => and_congr_right fun _ => and_congr_right fun hdistinct => ?_
  have htable : offsets = Table.empty.extend (es.map (entryOf log)) ↔
      ∀ p o, offsets.get? p = some o ↔ (p, o) ∈ es.map (entryOf log) :=
    Table.eq_ofList_iff (nodup_entryOf hdistinct log)
  simp only [htable, mem_map_entryOf_iff, Table.get?_empty, implies_true, true_and]

/-- A text that is not empty is read by its segments: a name that is not empty, and tokens. -/
theorem decode_eq_ok_iff_of_splitOn {s : String} (hs : s ≠ "") {name : List Char}
    {tokens : List (List Char)} (hsplit : s.toList.splitOn ',' = name :: tokens) {c : Checkpoint} :
    decode s = .ok c ↔
      name ≠ [] ∧ c.log = .ofList name ∧
        readTokens (.ofList name) .empty tokens = .ok c.offsets := by
  obtain ⟨log, offsets⟩ := c
  rw [decode, if_neg hs, hsplit]
  cases name with
  | nil => simp
  | cons first name =>
    dsimp only
    generalize String.ofList (first :: name) = first
    cases readTokens first .empty tokens with
    | error e => simp [Except.map]
    | ok read => simp [Except.map, eq_comm]

/-- The texts that are read, and what is read. -/
theorem decode_eq_ok_iff {s : String} {c : Checkpoint} :
    decode s = .ok c ↔ Written s.toList c := by
  by_cases hs : s = ""
  · subst hs
    rw [decode, if_pos rfl, Except.ok.injEq, eq_comm]
    constructor
    · rintro rfl
      exact .absent rfl rfl
    · rintro (⟨-, rfl⟩ | ⟨hspells, -, -⟩)
      · rfl
      · obtain ⟨tokens, -, hnil⟩ := hspells.tokens
        exact absurd (List.append_eq_nil_iff.1 hnil.symm).1 hspells.name_ne_nil
  obtain ⟨name, tokens, hsplit⟩ := List.exists_cons_of_ne_nil (List.splitOn_ne_nil ',' s.toList)
  rw [decode_eq_ok_iff_of_splitOn hs hsplit, readTokens_empty_eq_ok_iff]
  constructor
  · rintro ⟨hname, hlog, es, htokens, hdistinct, hoffsets⟩
    exact .line (spells_iff_splitOn.2 ⟨hname, hdistinct, tokens, hsplit, htokens⟩) hlog hoffsets
  · rintro (⟨hnil, -⟩ | ⟨hspells, hlog, hoffsets⟩)
    · exact absurd (by simpa using hnil) hs
    · obtain ⟨hname, hdistinct, ts, hsplit', htokens⟩ := spells_iff_splitOn.1 hspells
      obtain ⟨rfl, rfl⟩ := List.cons.inj (hsplit.symm.trans hsplit')
      exact ⟨hname, hlog, _, htokens, hdistinct, hoffsets⟩

/-- Whatever distinct partitions a text is about, there is a checkpoint with their offsets. -/
theorem exists_decode_iff {s : String} :
    (∃ c, decode s = .ok c) ↔ s = "" ∨ ∃ name es, Spells s.toList name es := by
  simp only [decode_eq_ok_iff]
  constructor
  · rintro ⟨c, ⟨hs, -⟩ | ⟨hspells, -, -⟩⟩
    · exact .inl (by simpa using hs)
    · exact .inr ⟨_, _, hspells⟩
  · rintro (rfl | ⟨name, es, hspells⟩)
    · exact ⟨absent, .absent rfl rfl⟩
    · refine ⟨⟨.ofList name, .ofList (es.map (entryOf (.ofList name)))⟩, .line hspells rfl ?_⟩
      intro p o
      rw [Table.get?_ofList_eq_some_iff (nodup_entryOf hspells.distinct _), mem_map_entryOf_iff]

/-- The texts that spell a log and its entries, the empty text, and no others are read. What is read
is the checkpoint of the text, whatever the order of its tokens, and all else is reported as a
malformed checkpoint. -/
theorem decode_accepts_written (s : String) :
    ((∃ c, decode s = .ok c) ↔ s = "" ∨ ∃ name es, Spells s.toList name es) ∧
    (∀ c, decode s = .ok c ↔ Written s.toList c) ∧
    (¬ (s = "" ∨ ∃ name es, Spells s.toList name es) →
      ∃ e, decode s = .error e ∧ e.failure.kind = .malformedCheckpoint) ∧
    ∀ (s' : String) (name : List Char) (tokens tokens' : List (List Char)),
      s.toList.splitOn ',' = name :: tokens → s'.toList.splitOn ',' = name :: tokens' →
      tokens.Perm tokens' → ∀ c, decode s = .ok c ↔ decode s' = .ok c := by
  refine ⟨exists_decode_iff, fun c => decode_eq_ok_iff, fun hnone => ?_, ?_⟩
  · cases hread : decode s with
    | error e => exact ⟨e, rfl, rfl⟩
    | ok c => exact absurd (exists_decode_iff.1 ⟨c, hread⟩) hnone
  · intro s' name tokens tokens' hs hs' hperm c
    rw [decode_eq_ok_iff, decode_eq_ok_iff]
    exact ⟨.perm hs hs' hperm, .perm hs' hs hperm.symm⟩

/-- Numerals of one number stand for one partition. -/
example : decode "orders,0:7,+00:7" = .error (.repeatedPartition ⟨"orders", 0⟩) := by
  decide +kernel

end Checkpoint

end LogIntake
