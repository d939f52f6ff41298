import LogIntake.Kafka.Client
import LogIntake.Proofs.TableWrites
import Mathlib.Logic.Relation

/-!
# Concurrent lookups of watermarks

A request begins one lookup for each partition, in the order of the partitions. The lookups run at
the same time, and any of them may finish at any moment, also while others are still to be begun
and after the request has come back. The answers are taken in the order in which the lookups were
begun: a lookup that is not finished is waited for, and the first one that failed ends the request.

## Main definitions

- `Gathering`: a request on its way.
- `Gathering.Step`: what can happen next.
- `Gathering.outlook`: what a request is going to come to.

## Main statements

- `Gathering.Step.outlook_eq`: nothing that happens changes it.
- `Gathering.result_eq_of_reaches`: so a request comes to the same result on every way.
- `Gathering.exists_step`, `Gathering.step_wellFounded`: every way leads to a result.
-/

namespace LogIntake.Kafka

open Relation

/-- What the client library answers about each partition. -/
abbrev Answers : Type := Partition → Except ErrorCode Watermarks

/-- A lookup that was begun. It has an answer as soon as it is finished. -/
structure Lookup where
  partition : Partition
  answer : Option (Except ErrorCode Watermarks)

/-- A request for watermarks on its way. -/
structure Gathering where
  /-- The partitions whose lookups are still to be begun. -/
  waiting : List Partition
  /-- The lookups that were begun and whose answers were not taken yet, in the order in which they
  were begun. -/
  lookups : List Lookup
  taken : List (Partition × Watermarks)
  /-- What the request came back with. -/
  result : Option (Except RequestError (List (Partition × Watermarks)))

namespace Gathering

def start (asked : PartitionSet) : Gathering := ⟨asked.keys, [], [], none⟩

/-- What can happen next to a request. -/
inductive Step (answers : Answers) : Gathering → Gathering → Prop
  | launch {g : Gathering} {p : Partition} {rest : List Partition} (h : g.waiting = p :: rest) :
    Step answers g { g with waiting := rest, lookups := g.lookups ++ [⟨p, none⟩] }
  /-- A lookup finishes, whichever it is and whether or not the request still waits for it. -/
  | finish {g : Gathering} {p : Partition} {before behind : List Lookup}
    (h : g.lookups = before ++ ⟨p, none⟩ :: behind) :
    Step answers g { g with lookups := before ++ ⟨p, some (answers p)⟩ :: behind }
  | take {g : Gathering} {p : Partition} {w : Watermarks} {rest : List Lookup}
    (hresult : g.result = none) (hwaiting : g.waiting = [])
    (h : g.lookups = ⟨p, some (.ok w)⟩ :: rest) :
    Step answers g { g with lookups := rest, taken := g.taken ++ [(p, w)] }
  | fail {g : Gathering} {p : Partition} {code : ErrorCode} {rest : List Lookup}
    (hresult : g.result = none) (hwaiting : g.waiting = [])
    (h : g.lookups = ⟨p, some (.error code)⟩ :: rest) :
    Step answers g { g with lookups := rest, result := some (.error (.watermarks p code)) }
  | complete {g : Gathering} (hresult : g.result = none) (hwaiting : g.waiting = [])
    (h : g.lookups = []) : Step answers g { g with result := some (.ok g.taken) }

/-- A request gets from one state to another one. -/
abbrev Reaches (answers : Answers) : Gathering → Gathering → Prop := ReflTransGen (Step answers)

variable {answers : Answers} {g g' : Gathering}

/-! ## What a request comes to -/

/-- Every lookup that is finished has the answer about its own partition. -/
def Paired (answers : Answers) (g : Gathering) : Prop :=
  ∀ lookup ∈ g.lookups, ∀ a, lookup.answer = some a → a = answers lookup.partition

/-- The watermarks of some partitions in their order, or the first failure among them. -/
def inOrder (answers : Answers) (partitions : List Partition) :
    Except RequestError (List (Partition × Watermarks)) :=
  allWatermarks (partitions.map fun p => (p, answers p))

/-- What a request is going to come back with. -/
def outlook (answers : Answers) (g : Gathering) :
    Except RequestError (List (Partition × Watermarks)) :=
  g.result.getD <| (inOrder answers (g.lookups.map (·.partition) ++ g.waiting)).map (g.taken ++ ·)

theorem inOrder_cons_ok {p : Partition} {w : Watermarks} (h : answers p = .ok w)
    (rest : List Partition) :
    inOrder answers (p :: rest) = (inOrder answers rest).map ((p, w) :: ·) := by
  rw [inOrder, List.map_cons, h]
  rfl

theorem inOrder_cons_error {p : Partition} {code : ErrorCode} (h : answers p = .error code)
    (rest : List Partition) : inOrder answers (p :: rest) = .error (.watermarks p code) := by
  rw [inOrder, List.map_cons, h]
  rfl

/-- The answers to lookups stay with their partitions. -/
theorem Step.paired (h : Step answers g g') (hg : g.Paired answers) : g'.Paired answers := by
  cases h with
  | launch hwaiting =>
    intro lookup hlookup a ha
    rcases List.mem_append.1 hlookup with hold | hnew
    · exact hg lookup hold a ha
    · rw [List.mem_singleton.1 hnew] at ha
      cases ha
  | finish hlookups =>
    intro lookup hlookup a ha
    rcases List.mem_append.1 hlookup with hbefore | hbehind
    · exact hg lookup (hlookups ▸ List.mem_append_left _ hbefore) a ha
    · rcases List.mem_cons.1 hbehind with rfl | hbehind
      · exact (Option.some.inj ha).symm
      · exact hg lookup
          (hlookups ▸ List.mem_append_right _ (List.mem_cons_of_mem _ hbehind)) a ha
  | take _ _ hlookups =>
    exact fun lookup hlookup => hg lookup (hlookups ▸ List.mem_cons_of_mem _ hlookup)
  | fail _ _ hlookups =>
    exact fun lookup hlookup => hg lookup (hlookups ▸ List.mem_cons_of_mem _ hlookup)
  | complete => exact hg

/-- Whatever happens next to a request, it is going to come back with the same. -/
theorem Step.outlook_eq (h : Step answers g g') (hg : g.Paired answers) :
    g'.outlook answers = g.outlook answers := by
  cases h with
  | launch hwaiting => simp only [outlook, hwaiting, List.map_append, List.append_assoc]; rfl
  | finish hlookups => simp only [outlook, hlookups, List.map_append, List.map_cons]
  | @take p w rest hresult hwaiting hlookups =>
    have hanswer : answers p = .ok w :=
      (hg _ (hlookups ▸ List.mem_cons_self) _ rfl).symm
    simp only [outlook, hresult, hwaiting, hlookups, List.map_cons, List.append_nil,
      inOrder_cons_ok hanswer]
    cases inOrder answers (rest.map (·.partition)) with
    | error e => rfl
    | ok l => exact congrArg Except.ok (List.append_assoc g.taken [(p, w)] l)
  | @fail p code rest hresult hwaiting hlookups =>
    have hanswer : answers p = .error code :=
      (hg _ (hlookups ▸ List.mem_cons_self) _ rfl).symm
    simp only [outlook, hresult, hwaiting, hlookups, List.map_cons, List.append_nil,
      inOrder_cons_error hanswer]
    rfl
  | complete hresult hwaiting hlookups =>
    simp only [outlook, hresult, hwaiting, hlookups]
    exact congrArg Except.ok (List.append_nil g.taken).symm

theorem paired_of_reaches (h : Reaches answers g g') (hg : g.Paired answers) :
    g'.Paired answers := by
  induction h with
  | refl => exact hg
  | tail _ hstep ih => exact hstep.paired ih

theorem outlook_eq_of_reaches (h : Reaches answers g g') (hg : g.Paired answers) :
    g'.outlook answers = g.outlook answers := by
  induction h with
  | refl => rfl
  | tail hreach hstep ih => exact (hstep.outlook_eq (paired_of_reaches hreach hg)).trans ih

theorem paired_start (answers : Answers) (asked : PartitionSet) : (start asked).Paired answers :=
  fun _ hlookup => absurd hlookup List.not_mem_nil

theorem outlook_start (answers : Answers) (asked : PartitionSet) :
    (start asked).outlook answers = inOrder answers asked.keys := by
  show (inOrder answers asked.keys).map ([] ++ ·) = inOrder answers asked.keys
  cases inOrder answers asked.keys <;> rfl

/-- A request that has come back has the answers in the order of the partitions, in whichever
order the lookups finished. -/
theorem result_eq_of_reaches {asked : PartitionSet} (h : Reaches answers (start asked) g)
    {result : Except RequestError (List (Partition × Watermarks))}
    (hresult : g.result = some result) : result = inOrder answers asked.keys := by
  have houtlook := outlook_eq_of_reaches h (paired_start answers asked)
  rw [outlook_start, outlook, hresult] at houtlook
  exact houtlook

/-! ## A request comes back -/

/-- What is left to do: each lookup is begun, finished and taken, and then the request comes
back. -/
def work (g : Gathering) : Nat :=
  3 * g.waiting.length + g.lookups.length + g.lookups.countP (·.answer.isNone) +
    if g.result.isSome then 0 else 1

theorem Step.work_lt (h : Step answers g g') : g'.work < g.work := by
  cases h with
  | launch h =>
    simp only [work, h, List.length_cons, List.length_append, List.length_nil, List.countP_append,
      List.countP_singleton, Option.isNone_none, if_true]
    omega
  | finish h => simp [work, h]
  | take hresult hwaiting h => simp [work, hresult, hwaiting, h]
  | fail hresult hwaiting h =>
    simp only [work, hresult, hwaiting, h, List.length_cons, List.countP_cons, Option.isNone_some,
      Option.isSome_some, Option.isSome_none, Bool.false_eq_true, if_true, if_false]
    omega
  | complete hresult hwaiting h => simp [work, hresult, hwaiting, h]

/-- Nothing can go on happening forever. -/
theorem step_wellFounded (answers : Answers) :
    WellFounded fun g' g : Gathering => Step answers g g' :=
  Subrelation.wf Step.work_lt (measure work).wf

/-- A request that has not come back is never stuck. -/
theorem exists_step (answers : Answers) (h : g.result = none) : ∃ g', Step answers g g' := by
  cases hwaiting : g.waiting with
  | cons p rest => exact ⟨_, .launch hwaiting⟩
  | nil =>
    cases hlookups : g.lookups with
    | nil => exact ⟨_, .complete h hwaiting hlookups⟩
    | cons lookup rest =>
      obtain ⟨p, _ | code | w⟩ := lookup
      · exact ⟨_, @Step.finish answers g p [] rest hlookups⟩
      · exact ⟨_, .fail h hwaiting hlookups⟩
      · exact ⟨_, .take h hwaiting hlookups⟩

end Gathering

end LogIntake.Kafka
