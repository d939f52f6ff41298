import LogIntake.Kafka.Connection
import LogIntake.Proofs.TableWrites
import Mathlib.Data.List.Pairwise

/-!
# Properties from variables

A variable stands for a property if its name begins with the mark. Where no two variables stand
for the same property, each of them makes one property, and the order in which the variables are
listed does not matter.

## Main definitions

- `Connection.NamesProperty`: the property that a variable stands for.
- `Connection.Distinct`: no two variables that are set stand for the same property.

## Main statements

- `Connection.get?_readProperties`: the properties, in whatever order the variables are listed.
- `Connection.readProperties_eq_of_perm`: the order of the variables does not matter.
- `Connection.keys_readProperties`: as many properties as there are variables for them.
- `Connection.readProperties_insert`: no other variable matters.
-/

namespace LogIntake.Kafka.Connection

/-- What stands behind the mark in the name of a variable is the name of the property, in lower
case and with periods in place of underscores. -/
def NamesProperty (name property : String) : Prop :=
  ∃ rest, name.toList = propertyMark.toList ++ rest ∧
    property.toList = (Text.lowercase rest).map fun c => if c = '_' then '.' else c

/-- No two variables that are set stand for the same property. -/
def Distinct (env : Environment) : Prop :=
  ∀ name name' property, env.contains name = true → env.contains name' = true →
    NamesProperty name property → NamesProperty name' property → name = name'

variable {env : Environment} {assignments : List (String × String)}
  {name property value : String}

/-! ## Names -/

theorem behind?_eq_some_iff {mark cs rest : List Char} :
    behind? mark cs = some rest ↔ cs = mark ++ rest := by
  fun_induction behind? mark cs with
  | case1 cs => simp [eq_comm]
  | case2 => simp
  | case3 mark c cs ih => simpa using ih
  | case4 m mark c cs h => simp [Ne.symm h]

theorem propertyName?_eq_some_iff :
    propertyName? name = some property ↔ NamesProperty name property := by
  rw [propertyName?, Option.map_eq_some_iff, NamesProperty]
  refine exists_congr fun rest => and_congr behind?_eq_some_iff ?_
  constructor
  · rintro rfl
    exact String.toList_ofList
  · intro h
    rw [← h, String.ofList_toList]

/-! ## The table of properties -/

/-- The names and values of the properties, from the variables in the order of a list. -/
def listed (assignments : List (String × String)) : List (String × String) :=
  assignments.filterMap fun v => (propertyName? v.1).map fun name => (name, v.2)

theorem readProperties_eq (assignments : List (String × String)) :
    readProperties assignments = .ofList (listed assignments) := rfl

theorem mem_listed_iff :
    (property, value) ∈ listed assignments ↔
      ∃ name, NamesProperty name property ∧ (name, value) ∈ assignments := by
  simp only [listed, List.mem_filterMap, Option.map_eq_some_iff, propertyName?_eq_some_iff]
  constructor
  · rintro ⟨⟨name, value⟩, hmem, _, hname, ⟨⟩⟩
    exact ⟨name, hname, hmem⟩
  · rintro ⟨name, hname, hmem⟩
    exact ⟨(name, value), hmem, property, hname, rfl⟩

theorem keys_listed (assignments : List (String × String)) :
    (listed assignments).map (·.1) = (assignments.map (·.1)).filterMap propertyName? := by
  rw [listed, List.map_filterMap, List.filterMap_map]
  simp [Function.comp_def]

/-- Variables stand for distinct properties if their properties, one after the other, do not
repeat. -/
theorem distinct_iff : Distinct env ↔ (env.keys.filterMap propertyName?).Nodup := by
  rw [List.Nodup, List.pairwise_filterMap]
  constructor
  · intro h
    refine List.Pairwise.imp_of_mem ?_ env.keys_nodup
    rintro name name' hname hname' hne property hproperty _ hproperty' rfl
    exact hne (h name name' property (Table.contains_iff_mem_keys.2 hname)
      (Table.contains_iff_mem_keys.2 hname') (propertyName?_eq_some_iff.1 hproperty)
      (propertyName?_eq_some_iff.1 hproperty'))
  · intro h name name' property hname hname' hproperty hproperty'
    by_contra hne
    have hsymm : Std.Symm fun name name' : String => ∀ property,
        propertyName? name = some property → ∀ property',
          propertyName? name' = some property' → property ≠ property' :=
      ⟨fun _ _ h property hproperty property' hproperty' =>
        (h property' hproperty' property hproperty).symm⟩
    exact h.forall (Table.contains_iff_mem_keys.1 hname)
      (Table.contains_iff_mem_keys.1 hname') hne property (propertyName?_eq_some_iff.2 hproperty)
      property (propertyName?_eq_some_iff.2 hproperty') rfl

theorem Distinct.nodup_listed (h : Distinct env) (hperm : assignments.Perm env.entries) :
    ((listed assignments).map (·.1)).Nodup := by
  rw [keys_listed]
  exact ((hperm.map _).filterMap _).nodup_iff.2 (distinct_iff.1 h)

/-- Each variable of a property makes the property with its value, and there are no others. -/
theorem get?_readProperties (h : Distinct env) (hperm : assignments.Perm env.entries) :
    (readProperties assignments).get? property = some value ↔
      ∃ name, NamesProperty name property ∧ env.get? name = some value := by
  rw [readProperties_eq, Table.get?_ofList_eq_some_iff (h.nodup_listed hperm), mem_listed_iff]
  simp only [hperm.mem_iff, Table.get?_eq_some_iff]

theorem readProperties_eq_of_perm (h : Distinct env) (hperm : assignments.Perm env.entries) :
    readProperties assignments = readProperties env.entries := by
  apply Table.ext_get?
  intro property
  ext value
  rw [get?_readProperties h hperm, get?_readProperties h (.refl _)]

/-- There are as many properties as variables for them. -/
theorem keys_readProperties (h : Distinct env) :
    (readProperties env.entries).keys.Perm (env.keys.filterMap propertyName?) := by
  refine (List.perm_ext_iff_of_nodup (Table.keys_nodup _) (distinct_iff.1 h)).2 fun property => ?_
  rw [← Table.contains_iff_mem_keys, readProperties_eq, Table.contains_ofList, keys_listed]
  rfl

/-! ## Other variables -/

theorem filterMap_place {f : String × String → Option (String × String)} {k : String}
    (hf : ∀ a, f (k, a) = none) (l : List (String × String)) :
    (Table.place k value l).filterMap f = l.filterMap f := by
  fun_induction Table.place k value l with
  | case1 => rw [List.filterMap_cons_none (hf value)]
  | case2 k' a rest => rw [List.filterMap_cons_none (hf value)]
  | case3 k' a rest heq =>
    obtain rfl := Std.LawfulEqCmp.eq_of_compare heq
    rw [List.filterMap_cons_none (hf value), List.filterMap_cons_none (hf a)]
  | case4 k' a rest hgt ih => rw [List.filterMap_cons, List.filterMap_cons, ih]

/-- A variable that stands for no property makes none. -/
theorem readProperties_insert (h : propertyName? name = none) :
    readProperties (env.insert name value).entries = readProperties env.entries := by
  rw [readProperties, readProperties]
  congr 1
  refine filterMap_place (fun a => ?_) env.entries
  rw [h]
  rfl

end LogIntake.Kafka.Connection
