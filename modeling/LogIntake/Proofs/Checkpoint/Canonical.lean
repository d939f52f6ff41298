import LogIntake.Proofs.Checkpoint.Grammar
import LogIntake.Proofs.Text.Canonical

/-!
# The canonical text of a checkpoint

A checkpoint has many texts, since the tokens may stand in any order and numbers have many
numerals. Reading a text and writing what was read gives one of them, which depends on the
checkpoint alone.

## Main definitions

- `Checkpoint.canonicalize`: the text that is written for what a text describes.
- `Checkpoint.InCanonicalForm`: tokens in ascending order, with canonical numerals.

## Main statements

- `Checkpoint.encodable_of_decode`: what was read from a text can be written.
- `Checkpoint.eq_line_iff`: the texts that are written, by their form alone.
- `Checkpoint.canonicalize_decoded`: every text that is read has one canonical text.
-/

namespace LogIntake.Checkpoint

/-- The text that is written for what a text describes, if it describes a checkpoint. -/
def canonicalize (s : String) : Option String :=
  (decode s).toOption.bind fun c => c.encode.toOption

/-- `IsCanonicalToken t e`: `t` is a token of the number and the offset in `e`, with canonical
numerals. -/
def IsCanonicalToken (t : List Char) (e : Int32 × Int64) : Prop :=
  ∃ index offset, t = index ++ ':' :: offset ∧
    (Decimal.Numeral index e.1.toInt ∧ Decimal.Canonical index) ∧
    Decimal.Numeral offset e.2.toInt ∧ Decimal.Canonical offset

/-- The tokens behind the name are canonical, and they ascend strictly by the partition's number. -/
def InCanonicalForm (s : List Char) : Prop :=
  ∃ name tokens es, s.splitOn ',' = name :: tokens ∧ List.Forall₂ IsCanonicalToken tokens es ∧
    es.Pairwise fun e e' => e.1 < e'.1

variable {s text : String} {c : Checkpoint}

/-! ## Tokens -/

theorem isCanonicalToken_iff {t : List Char} {e : Int32 × Int64} (log : String) :
    IsCanonicalToken t e ↔ t = token (entryOf log e) := by
  constructor
  · rintro ⟨index, offset, rfl, ⟨hindex, hindex'⟩, hoffset, hoffset'⟩
    rw [(Decimal.eq_write_iff hindex).2 hindex', (Decimal.eq_write_iff hoffset).2 hoffset']
    rfl
  · rintro rfl
    exact ⟨_, _, rfl, ⟨Decimal.numeral_write _, Decimal.canonical_write _⟩,
      Decimal.numeral_write _, Decimal.canonical_write _⟩

/-- Canonical tokens are those that are written for their entries. -/
theorem forall₂_isCanonicalToken_iff {tokens : List (List Char)} {es : List (Int32 × Int64)}
    (log : String) :
    List.Forall₂ IsCanonicalToken tokens es ↔ tokens = (es.map (entryOf log)).map token := by
  have hwritten : IsCanonicalToken = fun t e => t = (token ∘ entryOf log) e := by
    funext t e
    exact propext (isCanonicalToken_iff log)
  rw [List.map_map, hwritten, ← List.forall₂_map_right_iff, List.forall₂_eq_eq_eq]

/-! ## The form of a line -/

/-- What was read from a text can be written. -/
theorem encodable_of_decode (hs : s ≠ "") (h : decode s = .ok c) : c.Encodable := by
  cases decode_eq_ok_iff.1 h with
  | absent hnil => exact absurd (by simpa using hnil) hs
  | @line name es hspells hlog hoffsets =>
    refine ⟨?_, ?_, fun p hp => ?_⟩
    · rw [hlog]
      exact fun hempty => hspells.name_ne_nil (by simpa using hempty)
    · rw [hlog, String.toList_ofList]
      exact hspells.comma_not_mem_name
    · obtain ⟨offset, hoffset⟩ := Option.isSome_iff_exists.1 (Table.contains_iff_mem_keys.2 hp)
      rw [hlog]
      exact ((hoffsets p offset).1 hoffset).1

theorem inCanonicalForm_line (h : c.Encodable) : InCanonicalForm c.line := by
  have hentries : (c.offsets.entries.map fun e => (e.1.index, e.2)).map (entryOf c.log) =
      c.offsets.entries := by
    rw [List.map_map, List.map_congr_left, List.map_id]
    rintro ⟨⟨log, index⟩, offset⟩ he
    obtain rfl : log = c.log := h.log_eq _ (List.mem_map_of_mem he)
    rfl
  refine ⟨c.log.toList, _, c.offsets.entries.map fun e => (e.1.index, e.2), splitOn_line h,
    (forall₂_isCanonicalToken_iff c.log).2 (by rw [hentries]), ?_⟩
  exact List.pairwise_map.2 (index_ascending h)

/-- In a text in canonical form the tokens are those of the entries that are read. -/
theorem eq_line_of_inCanonicalForm (hs : s ≠ "") (h : decode s = .ok c)
    (hform : InCanonicalForm s.toList) : s.toList = c.line := by
  obtain ⟨name, tokens, es, hsplit, htokens, hascending⟩ := hform
  obtain ⟨-, hlog, hread⟩ := (decode_eq_ok_iff_of_splitOn hs hsplit).1 h
  rw [← hlog] at hread
  rw [forall₂_isCanonicalToken_iff c.log] at htokens
  have hordered : (es.map (entryOf c.log)).Pairwise fun a b => compare a.1 b.1 = .lt := by
    refine List.pairwise_map.2 (hascending.imp fun {e e'} hlt => ?_)
    have hsame : (entryOf c.log e).1.log = (entryOf c.log e').1.log := rfl
    rw [Partition.compare_of_log_eq hsame]
    exact Std.compare_eq_lt.2 hlt
  have hnodup : ((es.map (entryOf c.log)).map (·.1)).Nodup :=
    List.pairwise_map.2 (hordered.imp Table.ne_of_compare_lt)
  have hlogs : ∀ e ∈ es.map (entryOf c.log), e.1.log = c.log :=
    List.forall_mem_map.2 fun e _ => rfl
  -- The entries are read in the order in which the table has them.
  rw [htokens, readTokens_map_token hlogs hnodup fun _ _ => rfl] at hread
  have hentries : c.offsets.entries = es.map (entryOf c.log) := by
    rw [← Except.ok.inj hread]
    exact Table.entries_ofList hordered
  have hname : c.log.toList = name := by rw [hlog, String.toList_ofList]
  rw [← chars_eq_line, chars, hentries, ← htokens, hname, ← hsplit]
  exact (List.intercalate_splitOn ',').symm

/-- The texts that are written, by their form alone. -/
theorem eq_line_iff (hs : s ≠ "") (h : decode s = .ok c) :
    s.toList = c.line ↔ InCanonicalForm s.toList := by
  constructor
  · intro heq
    rw [heq]
    exact inCanonicalForm_line (encodable_of_decode hs h)
  · exact eq_line_of_inCanonicalForm hs h

/-! ## The canonical text -/

theorem canonicalize_eq_some (hs : s ≠ "") (h : decode s = .ok c) :
    canonicalize s = some (.ofList c.line) := by
  rw [canonicalize, h, Except.toOption, Option.bind_some, encode_eq_ok (encodable_of_decode hs h)]
  rfl

/-- Reading a text and writing what was read gives a text of the same checkpoint, and doing so again
changes nothing. A text is left as it is exactly if its tokens ascend by partition and all its
numerals are canonical. Two texts lead to the same one exactly if they describe the same
checkpoint. -/
theorem canonicalize_decoded (hs : s ≠ "") (h : decode s = .ok c) :
    (∃ text, c.encode = .ok text ∧ canonicalize s = some text ∧ decode text = .ok c ∧
      canonicalize text = some text) ∧
    (canonicalize s = some s ↔ InCanonicalForm s.toList) ∧
    ∀ s' c', s' ≠ "" → decode s' = .ok c' → (c' = c ↔ canonicalize s' = canonicalize s) := by
  have hc := encodable_of_decode hs h
  have hcanonical := canonicalize_eq_some hs h
  have hagain := decode_line hc
  refine ⟨⟨.ofList c.line, encode_eq_ok hc, hcanonical, hagain, ?_⟩, ?_, fun s' c' hs' h' => ?_⟩
  · rw [canonicalize, hagain, Except.toOption, Option.bind_some, encode_eq_ok hc]
    rfl
  · rw [← eq_line_iff hs h, hcanonical, Option.some.injEq]
    constructor
    · intro heq
      rw [← heq, String.toList_ofList]
    · intro heq
      rw [← heq, String.ofList_toList]
  · rw [canonicalize_eq_some hs' h', hcanonical, Option.some.injEq]
    constructor
    · rintro rfl
      rfl
    · intro heq
      have hread := decode_line (encodable_of_decode hs' h')
      rw [heq, hagain] at hread
      exact (Except.ok.inj hread).symm

/-- The tokens change places, a plus sign and a zero in front are left out. -/
theorem canonicalize_decoded_orders :
    canonicalize "orders,2:+7,0:05" = some "orders,0:5,2:7" ∧
      canonicalize "orders,0:5,2:7" = some "orders,0:5,2:7" ∧
      ¬ InCanonicalForm "orders,2:+7,0:05".toList := by
  have hdecode : decode "orders,2:+7,0:05" =
      .ok ⟨"orders", .ofList [(⟨"orders", 0⟩, 5), (⟨"orders", 2⟩, 7)]⟩ := by decide +kernel
  have hcanonical : canonicalize "orders,2:+7,0:05" = some "orders,0:5,2:7" := by decide +kernel
  obtain ⟨⟨text, -, htext, -, hagain⟩, hform, -⟩ := canonicalize_decoded (by decide) hdecode
  obtain rfl : text = "orders,0:5,2:7" := Option.some.inj (htext.symm.trans hcanonical)
  refine ⟨hcanonical, hagain, fun hin => ?_⟩
  have hsame := hform.2 hin
  rw [hcanonical] at hsame
  exact absurd hsame (by decide)

end LogIntake.Checkpoint
