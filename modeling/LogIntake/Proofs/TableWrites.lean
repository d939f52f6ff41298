import LogIntake.Table

/-!
# Tables after many writes

What a table answers after a list of entries was put into it, and tables that are given by a
function on a set of keys.

## Main definitions

- `Table.tabulate`: the table of a function on a set of keys.

## Main statements

- `Table.get?_extend`: the last entry of a key decides.
- `Table.ofList_entries`: the entries of a table give the table back.
-/

namespace LogIntake.Table

open Std

variable {κ α : Type} [Ord κ]

/-- The table of a function on a set of keys. -/
def tabulate (s : KeySet κ) (f : κ → α) : Table κ α :=
  ⟨s.entries.map fun e => (e.1, f e.1), List.pairwise_map.2 s.ascending⟩

@[simp]
theorem keys_tabulate (s : KeySet κ) (f : κ → α) : (tabulate s f).keys = s.keys := by
  simp [keys, tabulate, Function.comp_def]

theorem keys_ascending (t : Table κ α) : t.keys.Pairwise fun k k' => compare k k' = .lt :=
  List.pairwise_map.2 t.ascending

theorem isEmpty_iff {t : Table κ α} : t.isEmpty = true ↔ t = .empty := by
  constructor
  · intro h
    exact ext_entries (List.isEmpty_iff.1 h)
  · rintro rfl
    rfl

theorem not_isEmpty_of_get? {t : Table κ α} {k : κ} {a : α} (h : t.get? k = some a) :
    ¬ t.isEmpty = true := by
  intro hempty
  rw [isEmpty_iff.1 hempty] at h
  cases h

theorem ne_empty_of_keys_eq {β : Type} {s : Table κ α} {t : Table κ β} (h : s.keys = t.keys)
    (ht : t ≠ .empty) : s ≠ .empty := by
  rintro rfl
  rw [eq_comm] at h
  exact ht (ext_entries (List.map_eq_nil_iff.1 h))

theorem get?_eq_none_iff {t : Table κ α} {k : κ} : t.get? k = none ↔ ¬ t.contains k = true := by
  simp [contains]

theorem contains_of_get? {t : Table κ α} {k : κ} {a : α} (h : t.get? k = some a) :
    t.contains k = true := by
  simp [contains, h]

theorem keys_nodup [LawfulEqOrd κ] (t : Table κ α) : t.keys.Nodup :=
  t.keys_ascending.imp ne_of_compare_lt

variable [TransOrd κ] [LawfulEqOrd κ]

@[simp]
theorem contains_tabulate (s : KeySet κ) (f : κ → α) (k : κ) :
    (tabulate s f).contains k = s.contains k := by
  rw [Bool.eq_iff_iff, contains_iff_mem_keys, contains_iff_mem_keys, keys_tabulate]

theorem get?_tabulate {s : KeySet κ} {k : κ} (h : s.contains k = true) (f : κ → α) :
    (tabulate s f).get? k = some (f k) := by
  obtain ⟨⟨⟩, hk⟩ := Option.isSome_iff_exists.1 h
  rw [get?_eq_some_iff]
  exact List.mem_map.2 ⟨(k, ()), get?_eq_some_iff.1 hk, rfl⟩

theorem get?_tabulate_eq_some_iff {s : KeySet κ} {f : κ → α} {k : κ} {a : α} :
    (tabulate s f).get? k = some a ↔ s.contains k = true ∧ f k = a := by
  constructor
  · intro h
    have hk := contains_of_get? h
    rw [contains_tabulate] at hk
    rw [get?_tabulate hk] at h
    exact ⟨hk, Option.some.inj h⟩
  · rintro ⟨hk, rfl⟩
    exact get?_tabulate hk f

theorem tabulate_congr {s : KeySet κ} {f g : κ → α}
    (h : ∀ k, s.contains k = true → f k = g k) : tabulate s f = tabulate s g := by
  apply ext_entries
  refine List.map_congr_left fun e he => ?_
  rw [h e.1 (contains_of_get? (get?_eq_some_iff.2 he))]

/-- Sets with the same elements are equal. -/
theorem ext_contains {s t : KeySet κ} (h : ∀ k, s.contains k = true ↔ t.contains k = true) :
    s = t := by
  apply ext_get?
  intro k
  have hk := h k
  cases hs : s.get? k <;> cases ht : t.get? k <;> simp_all [contains]

/-- Tables that have an entry for the same keys have the same list of keys. -/
theorem keys_congr {β : Type} {s : Table κ α} {t : Table κ β}
    (h : ∀ k, s.contains k = true ↔ t.contains k = true) : s.keys = t.keys := by
  -- Without their values the two tables answer alike, and so are equal.
  have hkeys : ∀ {γ : Type} (u : Table κ γ), (u.mapValues fun _ => ()).keys = u.keys := by
    intro γ u
    simp [keys, mapValues, Function.comp_def]
  have hmaps : (s.mapValues fun _ => ()) = t.mapValues fun _ => () := by
    apply ext_get?
    intro k
    have hk := h k
    rw [get?_mapValues, get?_mapValues]
    cases hs : s.get? k <;> cases ht : t.get? k <;> simp_all [contains]
  rw [← hkeys s, hmaps, hkeys t]

variable [DecidableEq κ]

theorem mapValues_insert {β : Type} (t : Table κ α) (k : κ) (a : α) (f : α → β) :
    (t.insert k a).mapValues f = (t.mapValues f).insert k (f a) := by
  apply ext_get?
  intro k'
  rw [get?_mapValues, get?_insert, get?_insert, get?_mapValues]
  split <;> rfl

theorem mapValues_extend {β : Type} (t : Table κ α) (l : List (κ × α)) (f : α → β) :
    (t.extend l).mapValues f = (t.mapValues f).extend (l.map fun e => (e.1, f e.2)) := by
  induction l generalizing t with
  | nil => rfl
  | cons e rest ih =>
    show ((t.insert e.1 e.2).extend rest).mapValues f = _
    rw [ih, mapValues_insert]
    rfl

/-- After many writes the last one of a key decides. -/
theorem get?_extend (t : Table κ α) (l : List (κ × α)) (k : κ) :
    (t.extend l).get? k = (l.reverse.lookup k).or (t.get? k) := by
  induction l generalizing t with
  | nil => rfl
  | cons e rest ih =>
    obtain ⟨k', a⟩ := e
    have hstep : t.extend ((k', a) :: rest) = (t.insert k' a).extend rest := rfl
    rw [hstep, ih, List.reverse_cons, List.lookup_append, Option.or_assoc, get?_insert]
    by_cases h : k = k'
    · simp [h]
    · have hbeq : (k == k') = false := beq_eq_false_iff_ne.2 h
      simp [h, List.lookup_cons, hbeq]

theorem get?_extend_of_ne (t : Table κ α) {l : List (κ × α)} {k : κ} (h : ∀ e ∈ l, e.1 ≠ k) :
    (t.extend l).get? k = t.get? k := by
  have hnone : l.reverse.lookup k = none := by
    rw [List.lookup_eq_none_iff]
    intro e he
    simpa using (h e (List.mem_reverse.1 he)).symm
  rw [get?_extend, hnone, Option.none_or]

/-- After writes of what a function says, the function decides. -/
theorem get?_extend_of_mem_iff (t : Table κ α) {l : List (κ × α)} {f : κ → Option α}
    (h : ∀ k a, (k, a) ∈ l ↔ f k = some a) (k : κ) :
    (t.extend l).get? k = (f k).or (t.get? k) := by
  have hlookup : l.reverse.lookup k = f k := by
    cases hfound : l.reverse.lookup k with
    | none =>
      rw [List.lookup_eq_none_iff] at hfound
      rw [eq_comm, Option.eq_none_iff_forall_not_mem]
      intro a ha
      simpa using hfound (k, a) (List.mem_reverse.2 ((h k a).2 ha))
    | some a =>
      obtain ⟨before, behind, hl, -⟩ := List.lookup_eq_some_iff.1 hfound
      have hmem : (k, a) ∈ l := by
        rw [← List.mem_reverse, hl]
        exact List.mem_append_right _ List.mem_cons_self
      exact ((h k a).1 hmem).symm
  rw [get?_extend, hlookup]

/-- Where no key occurs twice, every entry is the last one of its key. -/
theorem lookup_reverse_eq_some_iff {l : List (κ × α)} (h : (l.map (·.1)).Nodup) {k : κ} {a : α} :
    l.reverse.lookup k = some a ↔ (k, a) ∈ l := by
  induction l generalizing a with
  | nil => simp
  | cons e rest ih =>
    obtain ⟨k', a'⟩ := e
    obtain ⟨hhead, htail⟩ := List.nodup_cons.1 h
    rw [List.reverse_cons, List.lookup_append, Option.or_eq_some_iff, ih htail, List.mem_cons]
    by_cases hk : k = k'
    · -- The key does not occur in the rest, where the look-up from behind begins.
      subst hk
      have hrest : ∀ b, (k, b) ∉ rest := fun b hb => hhead (List.mem_map.2 ⟨_, hb, rfl⟩)
      have hnone : rest.reverse.lookup k = none := by
        rw [Option.eq_none_iff_forall_not_mem]
        intro b hb
        exact hrest b ((ih htail).1 hb)
      simp [hrest, hnone, eq_comm]
    · have hbeq : (k == k') = false := beq_eq_false_iff_ne.2 hk
      simp [hk, List.lookup_cons, hbeq]

/-- Entries of a table that are written stay as they are, and all others are those of before. -/
theorem get?_extend_entries (t u : Table κ α) (k : κ) :
    (t.extend u.entries).get? k = (u.get? k).or (t.get? k) := by
  rw [get?_extend]
  congr 1
  ext a
  rw [lookup_reverse_eq_some_iff u.keys_nodup, get?_eq_some_iff]

theorem get?_ofList_eq_some_iff {l : List (κ × α)} (h : (l.map (·.1)).Nodup) {k : κ} {a : α} :
    (ofList l).get? k = some a ↔ (k, a) ∈ l := by
  rw [ofList, get?_extend, get?_empty, Option.or_none, lookup_reverse_eq_some_iff h]

/-- Where no key occurs twice, a list of entries describes one table. -/
theorem eq_ofList_iff {l : List (κ × α)} (h : (l.map (·.1)).Nodup) {t : Table κ α} :
    t = ofList l ↔ ∀ k a, t.get? k = some a ↔ (k, a) ∈ l := by
  constructor
  · rintro rfl k a
    exact get?_ofList_eq_some_iff h
  · intro hget
    apply ext_get?
    intro k
    ext a
    rw [hget, get?_ofList_eq_some_iff h]

/-- The entries of a table give the table back. -/
theorem ofList_entries (t : Table κ α) : ofList t.entries = t := by
  apply ext_get?
  intro k
  rw [ofList, get?_extend_entries, get?_empty, Option.or_none]

/-- A list of entries in ascending order is that of its table. -/
theorem entries_ofList {l : List (κ × α)} (h : l.Pairwise fun a b => compare a.1 b.1 = .lt) :
    (ofList l).entries = l :=
  congrArg entries (ofList_entries ⟨l, h⟩)

theorem contains_ofList {l : List (κ × α)} {k : κ} :
    (ofList l).contains k = true ↔ k ∈ l.map (·.1) := by
  rw [contains, ofList, get?_extend, get?_empty, Option.or_none, List.lookup_isSome_iff]
  simp

theorem contains_keySet_ofList {l : List κ} {k : κ} :
    (KeySet.ofList l).contains k = true ↔ k ∈ l := by
  rw [KeySet.ofList, contains_ofList, List.map_map]
  simp

end LogIntake.Table
