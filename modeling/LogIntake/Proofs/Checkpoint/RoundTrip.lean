import LogIntake.Checkpoint
import LogIntake.Proofs.TableWrites

/-!
# Checkpoints and their texts

A checkpoint has a text exactly if the text can express it, and reading the text gives the
checkpoint back.

## Main definitions

- `Checkpoint.Encodable`: the checkpoints that the format can express.
- `Checkpoint.line`: the name of the log and its tokens, each behind a comma.

## Main statements

- `Checkpoint.readTokens_map_token`: the tokens of entries read back.
- `Checkpoint.decode_encode`: the text of a checkpoint reads back.
- `Checkpoint.exists_isEmpty_decode_iff`: the texts that give no offsets.
-/

namespace LogIntake

/-! ## Numerals -/

namespace Decimal

theorem isDigit_or_minus_of_mem_write {n : Int} {c : Char} (h : c ∈ write n) :
    c.isDigit = true ∨ c = '-' := by
  have hdigits : ∀ m : Nat, c ∈ Nat.toDigits 10 m → c.isDigit = true := fun m hc =>
    Nat.isDigit_of_mem_toDigits (by decide) (by decide) hc
  cases n with
  | ofNat m => exact .inl (hdigits m h)
  | negSucc m =>
    rcases List.mem_cons.1 h with hminus | hdigit
    · exact .inr hminus
    · exact .inl (hdigits (m + 1) hdigit)

/-- No separator of the format is part of a numeral. -/
theorem not_mem_write {n : Int} {c : Char} (hdigit : c.isDigit = false) (hminus : c ≠ '-') :
    c ∉ write n := by
  intro h
  rcases isDigit_or_minus_of_mem_write h with hd | hm
  · rw [hdigit] at hd
    cases hd
  · exact hminus hm

theorem read_write_int32 (i : Int32) : read .signed32 (write i.toInt) = .ok i.toInt := by
  apply read_write
  exact ⟨i.le_toInt, Int.le_of_lt_add_one i.toInt_lt⟩

theorem read_write_int64 (i : Int64) : read .signed64 (write i.toInt) = .ok i.toInt := by
  apply read_write
  exact ⟨i.le_toInt, Int.le_of_lt_add_one i.toInt_lt⟩

end Decimal

namespace Checkpoint

/-! ## Tokens -/

theorem comma_not_mem_token (e : Partition × Int64) : ',' ∉ token e := by
  intro h
  rcases List.mem_append.1 h with hindex | hrest
  · exact Decimal.not_mem_write (by decide) (by decide) hindex
  · rcases List.mem_cons.1 hrest with hcolon | hoffset
    · exact absurd hcolon (by decide)
    · exact Decimal.not_mem_write (by decide) (by decide) hoffset

/-- The first colon of a token stands behind the number of the partition. -/
theorem readToken_token (e : Partition × Int64) : readToken (token e) = .ok (e.1.index, e.2) := by
  -- A numeral has no colon, so the first one is the separator.
  have hbefore : ∀ c ∈ Decimal.write e.1.index.toInt, decide (c ≠ ':') = true := fun c hc => by
    rw [decide_eq_true_eq]
    rintro rfl
    exact Decimal.not_mem_write (by decide) (by decide) hc
  have hdrop : (token e).dropWhile (· ≠ ':') = ':' :: Decimal.write e.2.toInt := by
    rw [token, List.dropWhile_append_of_pos hbefore]
    rfl
  have htake : (token e).takeWhile (· ≠ ':') = Decimal.write e.1.index.toInt := by
    rw [token, List.takeWhile_append_of_pos hbefore]
    simp
  rw [readToken, hdrop, htake]
  simp only [Decimal.read_write_int32, Decimal.read_write_int64, Int32.ofInt_toInt,
    Int64.ofInt_toInt]

/-- Tokens of distinct partitions add their entries to those read so far. -/
theorem readTokens_map_token {log : String} {acc : OffsetTable} {l : List (Partition × Int64)}
    (hlog : ∀ e ∈ l, e.1.log = log) (hnodup : (l.map (·.1)).Nodup)
    (hfresh : ∀ e ∈ l, acc.get? e.1 = none) :
    readTokens log acc (l.map token) = .ok (acc.extend l) := by
  -- A token is refused if its partition was read before: the entries to come are new throughout.
  induction l generalizing acc with
  | nil => rfl
  | cons e rest ih =>
    obtain ⟨helog, hrestlog⟩ := List.forall_mem_cons.1 hlog
    obtain ⟨hefresh, hrestfresh⟩ := List.forall_mem_cons.1 hfresh
    obtain ⟨hhead, htail⟩ := List.nodup_cons.1 hnodup
    have hpartition : (⟨log, e.1.index⟩ : Partition) = e.1 := by rw [← helog]
    have hfresh' : ∀ e' ∈ rest, (acc.insert e.1 e.2).get? e'.1 = none := fun e' he' => by
      have hne : e'.1 ≠ e.1 := fun heq => hhead (List.mem_map.2 ⟨e', he', heq⟩)
      rw [Table.get?_insert_of_ne _ hne]
      exact hrestfresh e' he'
    have hcontains : ¬ acc.contains e.1 = true := Table.get?_eq_none_iff.1 hefresh
    rw [List.map_cons, readTokens, readToken_token]
    simp only [hpartition]
    rw [if_neg hcontains]
    exact ih hrestlog htail hfresh'

/-! ## The whole text -/

/-- The checkpoints that the format can express. -/
structure Encodable (c : Checkpoint) : Prop where
  log_ne_empty : c.log ≠ ""
  comma_not_mem_log : ',' ∉ c.log.toList
  log_eq : ∀ p ∈ c.offsets.keys, p.log = c.log

/-- The name of the log, and behind a comma for each partition its number, a colon and the
offset. -/
def line (c : Checkpoint) : List Char :=
  c.log.toList ++ c.offsets.entries.flatMap fun e =>
    ',' :: Decimal.write e.1.index.toInt ++ ':' :: Decimal.write e.2.toInt

theorem intercalate_cons_eq_append_flatMap (l : List Char) (ls : List (List Char)) :
    [','].intercalate (l :: ls) = l ++ ls.flatMap (',' :: ·) := by
  induction ls generalizing l with
  | nil => simp
  | cons l' rest ih => rw [List.intercalate_cons_cons, ih]; simp

theorem chars_eq_line (c : Checkpoint) : c.chars = c.line := by
  rw [chars, intercalate_cons_eq_append_flatMap, line, List.flatMap_map]
  rfl

theorem encode_eq_ok {c : Checkpoint} (h : c.Encodable) : c.encode = .ok (.ofList c.line) := by
  have hfind : c.offsets.keys.find? (·.log ≠ c.log) = none := by
    rw [List.find?_eq_none]
    intro p hp
    simp [h.log_eq p hp]
  rw [encode, if_neg h.log_ne_empty, if_neg h.comma_not_mem_log, hfind, chars_eq_line]

theorem encode_eq_error {c : Checkpoint} (h : ¬ c.Encodable) : ∃ e, c.encode = .error e := by
  by_cases hempty : c.log = ""
  · exact ⟨_, if_pos hempty⟩
  · by_cases hcomma : ',' ∈ c.log.toList
    · exact ⟨_, by rw [encode, if_neg hempty, if_pos hcomma]⟩
    · cases hfind : c.offsets.keys.find? (·.log ≠ c.log) with
      | some p => exact ⟨_, by rw [encode, if_neg hempty, if_neg hcomma, hfind]⟩
      | none =>
        rw [List.find?_eq_none] at hfind
        exact absurd ⟨hempty, hcomma, fun p hp => by simpa using hfind p hp⟩ h

theorem encodable_of_encode {c : Checkpoint} {text : String} (h : c.encode = .ok text) :
    c.Encodable := by
  by_cases hc : c.Encodable
  · exact hc
  · obtain ⟨e, herror⟩ := encode_eq_error hc
    rw [h] at herror
    cases herror

/-- The commas of a text stand between the name of the log and the tokens, and nowhere else. -/
theorem splitOn_line {c : Checkpoint} (h : c.Encodable) :
    c.line.splitOn ',' = c.log.toList :: c.offsets.entries.map token := by
  rw [← chars_eq_line, chars, List.splitOn_intercalate]
  · refine List.forall_mem_cons.2 ⟨h.comma_not_mem_log, ?_⟩
    exact List.forall_mem_map.2 fun e _ => comma_not_mem_token e
  · simp

theorem decode_line {c : Checkpoint} (h : c.Encodable) :
    decode (.ofList c.line) = .ok c := by
  obtain ⟨first, name, hname⟩ : ∃ first name, c.log.toList = first :: name :=
    List.exists_cons_of_ne_nil fun hnil => h.log_ne_empty (by simpa using hnil)
  have hne : String.ofList c.line ≠ "" := fun heq => by
    have hnil : c.line = [] := by simpa using congrArg String.toList heq
    simp [line, hname] at hnil
  have hread : readTokens c.log .empty (c.offsets.entries.map token) = .ok c.offsets := by
    rw [readTokens_map_token _ c.offsets.keys_nodup (fun e _ => rfl)]
    · exact congrArg Except.ok c.offsets.ofList_entries
    · intro e he
      exact h.log_eq e.1 (List.mem_map_of_mem he)
  rw [decode, if_neg hne, String.toList_ofList, splitOn_line h, hname]
  simp only
  rw [← hname, String.ofList_toList, hread]
  rfl

/-- The text of a checkpoint reads back. -/
theorem decode_encode {c : Checkpoint} {text : String} (h : c.encode = .ok text) :
    decode text = .ok c := by
  have hc := encodable_of_encode h
  rw [encode_eq_ok hc] at h
  cases h
  exact decode_line hc

/-- Within one log the entries of a table stand in the order of their numbers. -/
theorem index_ascending {c : Checkpoint} (h : c.Encodable) :
    c.offsets.entries.Pairwise fun e e' => e.1.index < e'.1.index := by
  refine c.offsets.ascending.imp_of_mem fun {e e'} he he' hlt => ?_
  have hlog : e.1.log = e'.1.log :=
    (h.log_eq e.1 (List.mem_map_of_mem he)).trans (h.log_eq e'.1 (List.mem_map_of_mem he')).symm
  rw [Partition.compare_of_log_eq hlog] at hlt
  exact Std.compare_eq_lt.1 hlt

/-! ## Texts without offsets -/

theorem contains_of_readTokens {log : String} {acc offsets : OffsetTable} {ts : List (List Char)}
    (h : readTokens log acc ts = .ok offsets) {p : Partition} (hp : acc.contains p = true) :
    offsets.contains p = true := by
  induction ts generalizing acc with
  | nil =>
    cases h
    exact hp
  | cons t rest ih =>
    rw [readTokens] at h
    cases ht : readToken t with
    | error e =>
      rw [ht] at h
      cases h
    | ok e =>
      simp only [ht] at h
      split at h
      · cases h
      · apply ih h
        rw [Table.contains, Table.get?_insert]
        split
        · rfl
        · exact hp

/-- A text with a token has an entry, if it can be read at all. -/
theorem ne_empty_of_readTokens_cons {log : String} {acc offsets : OffsetTable} {t : List Char}
    {rest : List (List Char)} (h : readTokens log acc (t :: rest) = .ok offsets) :
    offsets ≠ .empty := by
  rw [readTokens] at h
  cases ht : readToken t with
  | error e =>
    rw [ht] at h
    cases h
  | ok e =>
    simp only [ht] at h
    split at h
    · cases h
    · have hentry : (acc.insert ⟨log, e.1⟩ e.2).contains ⟨log, e.1⟩ = true := by
        rw [Table.contains, Table.get?_insert_self]
        rfl
      have hcontains := contains_of_readTokens h hentry
      rintro rfl
      cases hcontains

/-- A text gives no offsets if it has no comma, and only then. -/
theorem exists_isEmpty_decode_iff {text : String} :
    (∃ c, decode text = .ok c ∧ c.isEmpty = true) ↔ ',' ∉ text.toList := by
  rw [decode]
  by_cases hnil : text = ""
  · subst hnil
    exact ⟨fun _ => by simp, fun _ => ⟨absent, if_pos rfl, rfl⟩⟩
  rw [if_neg hnil]
  constructor
  · -- Behind a comma stands a token, and a token that is read leaves an entry.
    rintro ⟨c, hdecode, hempty⟩ hcomma
    obtain ⟨name, rest, hsplit, hname⟩ := List.eq_append_cons_of_mem hcomma
    rw [hsplit, List.splitOn_append_cons_self_of_not_mem hname] at hdecode
    obtain ⟨t, tokens, htokens⟩ := List.exists_cons_of_ne_nil (List.splitOn_ne_nil ',' rest)
    cases name with
    | nil => cases hdecode
    | cons first name =>
      simp only [htokens] at hdecode
      cases hread : readTokens (.ofList (first :: name)) .empty (t :: tokens) with
      | error e =>
        rw [hread] at hdecode
        cases hdecode
      | ok offsets =>
        rw [hread] at hdecode
        cases hdecode
        exact ne_empty_of_readTokens_cons hread (Table.isEmpty_iff.1 hempty)
  · intro hcomma
    obtain ⟨first, name, hname⟩ := List.exists_cons_of_ne_nil
      (fun h : text.toList = [] => hnil (by simpa using h))
    rw [List.splitOn_eq_singleton hcomma, hname]
    exact ⟨⟨.ofList (first :: name), .empty⟩, rfl, rfl⟩

/-- The checkpoints that the format can express, and no others, have a text. It has the tokens in
the order of the partitions' numbers, and it reads back as the checkpoint. -/
theorem encode_round_trip (c : Checkpoint) :
    (c.Encodable → ∃ text, c.encode = .ok text ∧ text.toList = c.line ∧
      c.offsets.entries.Pairwise (fun e e' => e.1.index < e'.1.index) ∧
      decode text = .ok c) ∧
    (¬ c.Encodable → ∃ e, c.encode = .error e ∧ e.failure.kind = .invariantViolation) := by
  constructor
  · intro h
    exact ⟨_, encode_eq_ok h, String.toList_ofList, index_ascending h, decode_line h⟩
  · intro h
    obtain ⟨e, herror⟩ := encode_eq_error h
    exact ⟨e, herror, rfl⟩

end Checkpoint

end LogIntake
