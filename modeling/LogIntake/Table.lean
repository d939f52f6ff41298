/-!
# Finite maps in key order

`Table κ α` is a finite map from keys to values, held as the list of its entries with strictly
ascending keys. A key occurs at most once and the list is determined by what the table answers,
so two tables with the same answers are the same table, whatever operations built them.

## Main definitions

- `Table`: entries together with the proof that their keys ascend.
- `Table.get?`, `Table.insert`, `Table.extend`, `Table.filter`, `Table.mapValues`.
- `Table.getThenInsert?`, `Table.drain`: an insertion with the value that it replaces, and a table
  whose entries are taken out.
- `Table.ofList`: a list of entries in any order, of which a later one replaces an earlier one.
- `KeySet`: a set of keys, as a table whose values carry nothing.

## Main statements

- `Table.get?_insert`: what an inserted table answers.
- `Table.get?_eq_some_iff`: `get?` finds exactly the entries.
- `Table.ext_get?`: tables that answer alike are equal.
-/

namespace LogIntake

open Std

/-- A finite map whose entries are kept in strictly ascending order of their keys. -/
structure Table (κ : Type) (α : Type) [Ord κ] where
  /-- The entries in ascending order. -/
  entries : List (κ × α)
  ascending : entries.Pairwise fun a b => compare a.1 b.1 = .lt

namespace Table

variable {κ α β : Type} [Ord κ]

theorem ext_entries {s t : Table κ α} (h : s.entries = t.entries) : s = t := by
  cases s; cases t; cases h; rfl

instance [DecidableEq κ] [DecidableEq α] : DecidableEq (Table κ α) := fun s t =>
  if h : s.entries = t.entries then isTrue (ext_entries h)
  else isFalse fun e => h (e ▸ rfl)

def empty : Table κ α := ⟨[], .nil⟩

instance : EmptyCollection (Table κ α) := ⟨empty⟩

instance : Inhabited (Table κ α) := ⟨empty⟩

def keys (t : Table κ α) : List κ := t.entries.map (·.1)

def size (t : Table κ α) : Nat := t.entries.length

def isEmpty (t : Table κ α) : Bool := t.entries.isEmpty

/-- The value of a key in a list of entries with ascending keys. The search ends at the first
entry that is not below the key. -/
def find? (k : κ) : List (κ × α) → Option α
  | [] => none
  | (k', a) :: rest =>
    match compare k k' with
    | .lt => none
    | .eq => some a
    | .gt => find? k rest

def get? (t : Table κ α) (k : κ) : Option α := find? k t.entries

def contains (t : Table κ α) (k : κ) : Bool := (t.get? k).isSome

/-- Puts an entry at its place in a list with ascending keys, in place of one with the same key. -/
def place (k : κ) (a : α) : List (κ × α) → List (κ × α)
  | [] => [(k, a)]
  | (k', a') :: rest =>
    match compare k k' with
    | .lt => (k, a) :: (k', a') :: rest
    | .eq => (k, a) :: rest
    | .gt => (k', a') :: place k a rest

theorem eq_or_mem_of_mem_place {k : κ} {a : α} {e : κ × α} {l : List (κ × α)}
    (h : e ∈ place k a l) : e = (k, a) ∨ e ∈ l := by
  fun_induction place k a l with grind

theorem place_ascending [TransOrd κ] [LawfulEqOrd κ] (k : κ) (a : α) {l : List (κ × α)}
    (h : l.Pairwise fun a b => compare a.1 b.1 = .lt) :
    (place k a l).Pairwise fun a b => compare a.1 b.1 = .lt := by
  fun_induction place k a l with
  | case1 => simp
  | case2 k' a' rest hlt =>
    refine List.pairwise_cons.2 ⟨fun e he => ?_, h⟩
    rcases List.mem_cons.1 he with rfl | he
    · exact hlt
    · exact TransCmp.lt_trans hlt ((List.pairwise_cons.1 h).1 e he)
  | case3 k' a' rest heq =>
    obtain rfl := LawfulEqCmp.eq_of_compare heq
    exact List.pairwise_cons.2 (List.pairwise_cons.1 h)
  | case4 k' a' rest hgt ih =>
    obtain ⟨hhead, htail⟩ := List.pairwise_cons.1 h
    refine List.pairwise_cons.2 ⟨fun e he => ?_, ih htail⟩
    rcases eq_or_mem_of_mem_place he with rfl | he
    · exact OrientedCmp.lt_of_gt hgt
    · exact hhead e he

/-- The table that gives `a` for `k` and is otherwise `t`. -/
def insert [TransOrd κ] [LawfulEqOrd κ] (t : Table κ α) (k : κ) (a : α) : Table κ α :=
  ⟨place k a t.entries, place_ascending k a t.ascending⟩

/-- Puts an entry at its place as `place` does, and gives the value that has stood there. -/
def getThenPlace? (k : κ) (a : α) : List (κ × α) → Option α × List (κ × α)
  | [] => (none, [(k, a)])
  | (k', a') :: rest =>
    match compare k k' with
    | .lt => (none, (k, a) :: (k', a') :: rest)
    | .eq => (some a', (k, a) :: rest)
    | .gt => ((getThenPlace? k a rest).1, (k', a') :: (getThenPlace? k a rest).2)

theorem getThenPlace?_eq (k : κ) (a : α) (l : List (κ × α)) :
    getThenPlace? k a l = (find? k l, place k a l) := by
  fun_induction getThenPlace? k a l with simp_all [find?, place]

/-- Inserts an entry, and gives the value that it replaces. -/
def getThenInsert? [TransOrd κ] [LawfulEqOrd κ] (t : Table κ α) (k : κ) (a : α) :
    Option α × Table κ α :=
  ((getThenPlace? k a t.entries).1, ⟨(getThenPlace? k a t.entries).2, by
    rw [getThenPlace?_eq]
    exact place_ascending k a t.ascending⟩)

/-- Inserts the entries one after the other, so that the last one of a key stays. -/
def extend [TransOrd κ] [LawfulEqOrd κ] (t : Table κ α) (l : List (κ × α)) : Table κ α :=
  l.foldl (fun t e => t.insert e.1 e.2) t

/-- The table of a list of entries in any order, of which a later one replaces an earlier one. -/
def ofList [TransOrd κ] [LawfulEqOrd κ] (l : List (κ × α)) : Table κ α := empty.extend l

/-- Takes all entries out, in ascending order, and leaves an empty table. -/
def drain (t : Table κ α) : List (κ × α) × Table κ α := (t.entries, .empty)

def filter (t : Table κ α) (keep : κ → α → Bool) : Table κ α :=
  ⟨t.entries.filter fun e => keep e.1 e.2, t.ascending.sublist List.filter_sublist⟩

def mapValues (t : Table κ α) (f : α → β) : Table κ β :=
  ⟨t.entries.map fun e => (e.1, f e.2), List.pairwise_map.2 t.ascending⟩

@[simp]
theorem get?_empty (k : κ) : (empty : Table κ α).get? k = none := rfl

theorem ne_of_compare_lt [LawfulEqOrd κ] {k k' : κ} (h : compare k k' = .lt) : k ≠ k' := by
  rintro rfl
  simp [ReflCmp.compare_self] at h

section Laws

variable [TransOrd κ] [LawfulEqOrd κ]

/-- Where the keys ascend, the search finds exactly the entries. -/
theorem find?_eq_some_iff {l : List (κ × α)}
    (h : l.Pairwise fun a b => compare a.1 b.1 = .lt) (k : κ) (a : α) :
    find? k l = some a ↔ (k, a) ∈ l := by
  fun_induction find? k l with
  | case1 => simp
  | case2 k' a' rest hlt =>
    have hrest : (k, a) ∉ rest := fun hm =>
      ne_of_compare_lt (TransCmp.lt_trans hlt ((List.pairwise_cons.1 h).1 _ hm)) rfl
    simp [ne_of_compare_lt hlt, hrest]
  | case3 k' a' rest heq =>
    obtain rfl := LawfulEqCmp.eq_of_compare heq
    have hrest : (k, a) ∉ rest := fun hm =>
      ne_of_compare_lt ((List.pairwise_cons.1 h).1 _ hm) rfl
    simp [hrest, eq_comm]
  | case4 k' a' rest hgt ih =>
    simp [ih (List.pairwise_cons.1 h).2, (ne_of_compare_lt (OrientedCmp.lt_of_gt hgt)).symm]

/-- What `place` leaves in the list: the new entry, and the old ones of other keys. -/
theorem mem_place_iff {l : List (κ × α)}
    (h : l.Pairwise fun a b => compare a.1 b.1 = .lt) (k : κ) (a : α) (e : κ × α) :
    e ∈ place k a l ↔ e = (k, a) ∨ e ∈ l ∧ e.1 ≠ k := by
  fun_induction place k a l with
  | case1 => simp
  | case2 k' a' rest hlt =>
    have hne : ∀ e ∈ (k', a') :: rest, e.1 ≠ k := by
      intro e he
      rcases List.mem_cons.1 he with rfl | he
      · exact (ne_of_compare_lt hlt).symm
      · exact (ne_of_compare_lt (TransCmp.lt_trans hlt ((List.pairwise_cons.1 h).1 e he))).symm
    rw [List.mem_cons]
    exact or_congr_right ⟨fun he => ⟨he, hne e he⟩, And.left⟩
  | case3 k' a' rest heq =>
    obtain rfl := LawfulEqCmp.eq_of_compare heq
    have hne : ∀ e ∈ rest, e.1 ≠ k := fun e he =>
      (ne_of_compare_lt ((List.pairwise_cons.1 h).1 e he)).symm
    grind
  | case4 k' a' rest hgt ih =>
    have hne := ne_of_compare_lt (OrientedCmp.lt_of_gt hgt)
    have := ih (List.pairwise_cons.1 h).2
    grind

theorem get?_eq_some_iff {t : Table κ α} {k : κ} {a : α} :
    t.get? k = some a ↔ (k, a) ∈ t.entries :=
  find?_eq_some_iff t.ascending k a

/-- A table answers `a` for a key just inserted, and all else as before. -/
theorem get?_insert [DecidableEq κ] (t : Table κ α) (k k' : κ) (a : α) :
    (t.insert k a).get? k' = if k' = k then some a else t.get? k' := by
  ext b
  rw [get?_eq_some_iff]
  split
  next h => subst h; simp [insert, mem_place_iff t.ascending, eq_comm]
  next h => simp [insert, mem_place_iff t.ascending, h, get?_eq_some_iff]

@[simp]
theorem get?_insert_self (t : Table κ α) (k : κ) (a : α) : (t.insert k a).get? k = some a := by
  rw [get?_eq_some_iff]
  simp [insert, mem_place_iff t.ascending]

theorem get?_insert_of_ne (t : Table κ α) {k k' : κ} (h : k' ≠ k) (a : α) :
    (t.insert k a).get? k' = t.get? k' := by
  ext b
  simp [get?_eq_some_iff, insert, mem_place_iff t.ascending, h]

/-- What an insertion replaces is what the table has answered. -/
theorem getThenInsert?_eq (t : Table κ α) (k : κ) (a : α) :
    t.getThenInsert? k a = (t.get? k, t.insert k a) := by
  have hplaced := getThenPlace?_eq k a t.entries
  have hvalue : (t.getThenInsert? k a).1 = t.get? k := congrArg Prod.fst hplaced
  have hentries : (t.getThenInsert? k a).2.entries = (t.insert k a).entries :=
    congrArg Prod.snd hplaced
  exact Prod.ext hvalue (ext_entries hentries)

theorem get?_filter (t : Table κ α) (keep : κ → α → Bool) (k : κ) :
    (t.filter keep).get? k = (t.get? k).filter (keep k) := by
  ext b
  rw [get?_eq_some_iff]
  simp [filter, get?_eq_some_iff, Option.filter_eq_some_iff]

theorem get?_mapValues (t : Table κ α) (f : α → β) (k : κ) :
    (t.mapValues f).get? k = (t.get? k).map f := by
  ext b
  rw [get?_eq_some_iff]
  simp only [mapValues, List.mem_map, Prod.mk.injEq, Option.map_eq_some_iff, get?_eq_some_iff]
  constructor
  · rintro ⟨e, he, rfl, rfl⟩
    exact ⟨e.2, he, rfl⟩
  · rintro ⟨a, ha, rfl⟩
    exact ⟨(k, a), ha, rfl, rfl⟩

theorem contains_iff_mem_keys {t : Table κ α} {k : κ} : t.contains k ↔ k ∈ t.keys := by
  simp [contains, keys, Option.isSome_iff_exists, get?_eq_some_iff]

/-- A table is determined by what it answers. -/
theorem ext_get? {s t : Table κ α} (h : ∀ k, s.get? k = t.get? k) : s = t := by
  have hmem : ∀ e, e ∈ s.entries ↔ e ∈ t.entries := fun e => by
    rw [← get?_eq_some_iff, ← get?_eq_some_iff, h]
  have hnodup : ∀ u : Table κ α, u.entries.Nodup := fun u =>
    u.ascending.imp fun hab e => ne_of_compare_lt hab (congrArg Prod.fst e)
  refine ext_entries (List.Perm.eq_of_pairwise ?_ s.ascending t.ascending
    ((List.perm_ext_iff_of_nodup (hnodup s) (hnodup t)).2 hmem))
  intro a b _ _ hab hba
  exact absurd rfl (ne_of_compare_lt (TransCmp.lt_trans hab hba))

end Laws

end Table

/-- A set of keys: a table whose values carry nothing. -/
abbrev KeySet (κ : Type) [Ord κ] : Type := Table κ Unit

def KeySet.ofList {κ : Type} [Ord κ] [TransOrd κ] [LawfulEqOrd κ] (l : List κ) : KeySet κ :=
  Table.ofList (l.map fun k => (k, ()))

end LogIntake
