import LogIntake.Proofs.TableWrites
import Mathlib.Data.Finset.Card

/-!
# Tables after a history

A table is written by insertions and extensions, replaced by the table of a list, and emptied by
taking its entries out, in any order and any number of times. Of all this, it shows the entries
written since it was last emptied or replaced, and of each key only the last one.

## Main definitions

- `Table.Operation`, `Table.apply`, `Table.after`: what is done to a table, and the table of a
  history that begins with the empty one.
- `Table.written`: the entries of a history that were not taken out or replaced with the table.
- `Table.LastWritten`: the last value of a key in a list of entries.

## Main statements

- `Table.apply_ofList`: what an operation does to a table of written entries.
- `Table.after_eq_ofList`: a history leaves the table of its written entries.
- `Table.mem_entries_ofList_iff`, `Table.size_ofList`: what the table of written entries shows.
- `Table.ofList_eq_iff`: lists of entries have the same table if they agree on the last values.
-/

namespace LogIntake.Table

open Std

/-- What is done to a table. -/
inductive Operation (κ α : Type) where
  | insert (k : κ) (a : α)
  | extend (l : List (κ × α))
  /-- The table is replaced by that of a list. -/
  | collect (l : List (κ × α))
  /-- All entries are taken out. -/
  | drain

/-- The entries that are written after an operation, from those written before it. -/
def Operation.writes {κ α : Type} (earlier : List (κ × α)) : Operation κ α → List (κ × α)
  | .insert k a => earlier ++ [(k, a)]
  | .extend l => earlier ++ l
  | .collect l => l
  | .drain => []

/-- The entries written in a history since the table was last emptied or replaced, in the order in
which they were written. -/
def written {κ α : Type} (history : List (Operation κ α)) : List (κ × α) :=
  history.foldl Operation.writes []

/-- What was written before the entries were taken out counts no more. -/
theorem written_append_drain {κ α : Type} (earlier later : List (Operation κ α)) :
    written (earlier ++ .drain :: later) = written later := by
  rw [written, List.foldl_append]
  rfl

/-- `LastWritten l k a`: the last entry of `l` with the key `k` has the value `a`. -/
def LastWritten {κ α : Type} (l : List (κ × α)) (k : κ) (a : α) : Prop :=
  ∃ before behind, l = before ++ (k, a) :: behind ∧ ∀ e ∈ behind, e.1 ≠ k

theorem lastWritten_iff_lookup {κ α : Type} [DecidableEq κ] {l : List (κ × α)} {k : κ} {a : α} :
    LastWritten l k a ↔ l.reverse.lookup k = some a := by
  rw [List.lookup_eq_some_iff]
  constructor
  · rintro ⟨before, behind, rfl, hbehind⟩
    refine ⟨behind.reverse, before.reverse, by simp, fun e he => ?_⟩
    exact bne_iff_ne.2 (hbehind e (List.mem_reverse.1 he)).symm
  · rintro ⟨behind, before, hl, hbehind⟩
    refine ⟨before.reverse, behind.reverse, ?_, fun e he => ?_⟩
    · rw [← List.reverse_reverse l, hl]
      simp
    · exact (bne_iff_ne.1 (hbehind e (List.mem_reverse.1 he))).symm

variable {κ α : Type} [Ord κ] [TransOrd κ] [LawfulEqOrd κ]

def apply (t : Table κ α) : Operation κ α → Table κ α
  | .insert k a => (t.getThenInsert? k a).2
  | .extend l => t.extend l
  | .collect l => .ofList l
  | .drain => t.drain.2

/-- The table after a history that begins with the empty one. -/
def after (history : List (Operation κ α)) : Table κ α := history.foldl apply .empty

/-! ## Tables of written entries -/

theorem extend_ofList (l l' : List (κ × α)) : (ofList l).extend l' = ofList (l ++ l') :=
  List.foldl_append.symm

/-- An operation on the table of written entries leaves the table of the entries written then. -/
theorem apply_ofList (earlier : List (κ × α)) (operation : Operation κ α) :
    (ofList earlier).apply operation = ofList (operation.writes earlier) := by
  cases operation with
  | insert k a =>
    show ((ofList earlier).getThenInsert? k a).2 = _
    rw [getThenInsert?_eq]
    exact extend_ofList earlier [(k, a)]
  | extend l => exact extend_ofList earlier l
  | collect l => rfl
  | drain => rfl

/-- A history leaves the table of the entries written in it. -/
theorem after_eq_ofList (history : List (Operation κ α)) :
    after history = ofList (written history) := by
  have hrun : ∀ earlier : List (κ × α),
      history.foldl apply (ofList earlier) = ofList (history.foldl Operation.writes earlier) := by
    induction history with
    | nil => exact fun _ => rfl
    | cons operation rest ih =>
      intro earlier
      rw [List.foldl_cons, List.foldl_cons, apply_ofList, ih]
  exact hrun []

/-! ## What is shown of the written entries -/

variable [DecidableEq κ]

theorem get?_ofList_eq_some_iff_lastWritten {l : List (κ × α)} {k : κ} {a : α} :
    (ofList l).get? k = some a ↔ LastWritten l k a := by
  rw [ofList, get?_extend, get?_empty, Option.or_none, lastWritten_iff_lookup]

/-- Of each key the table has the last entry. -/
theorem mem_entries_ofList_iff {l : List (κ × α)} {k : κ} {a : α} :
    (k, a) ∈ (ofList l).entries ↔ LastWritten l k a := by
  rw [← get?_eq_some_iff, get?_ofList_eq_some_iff_lastWritten]

/-- The table has as many entries as there are different keys. -/
theorem size_ofList (l : List (κ × α)) : (ofList l).size = (l.map (·.1)).toFinset.card := by
  have hkeys : (ofList l).keys.toFinset = (l.map (·.1)).toFinset := by
    ext k
    rw [List.mem_toFinset, List.mem_toFinset, ← contains_iff_mem_keys, contains_ofList]
  rw [← hkeys, List.toFinset_card_of_nodup (keys_nodup _), keys, List.length_map, size]

/-- Lists of entries have the same table exactly if they agree on the last value of each key. -/
theorem ofList_eq_iff {l l' : List (κ × α)} :
    ofList l = ofList l' ↔ ∀ k a, LastWritten l k a ↔ LastWritten l' k a := by
  simp only [← get?_ofList_eq_some_iff_lastWritten]
  constructor
  · intro h k a
    rw [h]
  · intro h
    apply ext_get?
    intro k
    ext a
    exact h k a

/-- The order of entries for different keys says nothing. -/
theorem ofList_eq_of_perm {l l' : List (κ × α)} (h : l.Perm l') (hnodup : (l.map (·.1)).Nodup) :
    ofList l = ofList l' := by
  rw [eq_ofList_iff ((h.map _).nodup_iff.1 hnodup)]
  intro k a
  rw [get?_ofList_eq_some_iff hnodup, h.mem_iff]

end LogIntake.Table
