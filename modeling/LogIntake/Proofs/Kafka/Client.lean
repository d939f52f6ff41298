import LogIntake.Kafka.Client
import LogIntake.Proofs.Cycle.Snapshot

/-!
# A cluster without faults as a broker

As long as a topic is known and none of its requests fails, a client answers about it as a broker
in memory does that holds its watermarks. In which order the lookups of a request finish makes no
difference.

## Main definitions

- `Schedule.Fair`: every lookup finishes, and none finishes twice.
- `Cluster.Serves`: a topic is known, and no request about it fails.
- `Cluster.memory`: the broker in memory with the watermarks of a topic.

## Main statements

- `gather_lookupWatermarks`: what the lookups of a request come to.
- `Client.shows`: a client shows what the broker in memory shows.
-/

namespace LogIntake.Kafka

/-- All lookups that were begun finish, and each of them once. -/
def Schedule.Fair (schedule : Schedule) : Prop := ∀ asked, (schedule asked).Perm asked.keys

namespace Cluster

/-- The numbers of the partitions of a topic, none if the topic is not known. -/
def indices (cluster : Cluster) (topic : String) : List Int32 :=
  match cluster.metadata topic with
  | .ok (some (.ok indices)) => indices
  | _ => []

/-- The two ends of a partition as a broker in memory holds them. -/
def ends (cluster : Cluster) (p : Partition) : Int64 × Int64 :=
  match cluster.watermarks p with
  | .ok w => (w.low, w.high)
  | .error _ => (0, 0)

/-- The broker in memory that holds the watermarks of a topic. -/
def memory (cluster : Cluster) (topic : String) : Memory :=
  .ofPartitions topic
    (.tabulate (.ofList (cluster.indices topic)) fun i => cluster.ends ⟨topic, i⟩)

/-- A topic is known, and no request for its metadata or its watermarks fails. -/
structure Serves (cluster : Cluster) (topic : String) : Prop where
  metadata : cluster.metadata topic = .ok (some (.ok (cluster.indices topic)))
  watermarks : ∀ i ∈ cluster.indices topic, ∃ w, cluster.watermarks ⟨topic, i⟩ = .ok w

end Cluster

variable {cluster : Cluster} {topic : String} {schedule : Schedule} {asked : PartitionSet}

/-! ## Lookups -/

/-- The answers are put in the order of the partitions, whatever finished first. -/
theorem ofList_lookupWatermarks (h : schedule.Fair) (cluster : Cluster) (asked : PartitionSet) :
    Table.ofList (lookupWatermarks cluster (schedule asked)) =
      .tabulate asked cluster.watermarks := by
  have hpartitions : (lookupWatermarks cluster (schedule asked)).map (·.1) = schedule asked := by
    rw [lookupWatermarks, List.map_map]
    exact List.map_id _
  have hnodup : ((lookupWatermarks cluster (schedule asked)).map (·.1)).Nodup := by
    rw [hpartitions]
    exact (h asked).nodup_iff.2 asked.keys_nodup
  refine ((Table.eq_ofList_iff hnodup).2 fun p answer => ?_).symm
  rw [Table.get?_tabulate_eq_some_iff, Table.contains_iff_mem_keys, ← (h asked).mem_iff,
    lookupWatermarks, List.mem_map]
  constructor
  · rintro ⟨hp, rfl⟩
    exact ⟨p, hp, rfl⟩
  · rintro ⟨q, hq, heq⟩
    cases heq
    exact ⟨hq, rfl⟩

theorem allWatermarks_map_ok {α : Type} (l : List α) (f : α → Partition) (w : α → Watermarks) :
    allWatermarks (l.map fun a => (f a, .ok (w a))) = .ok (l.map fun a => (f a, w a)) := by
  induction l with
  | nil => rfl
  | cons a rest ih =>
    rw [List.map_cons, allWatermarks, ih]
    rfl

/-- If no lookup fails, a request comes to the watermarks of all partitions. -/
theorem gather_lookupWatermarks (h : schedule.Fair) {w : Partition → Watermarks}
    (hw : ∀ p, asked.contains p = true → cluster.watermarks p = .ok (w p)) :
    gather (lookupWatermarks cluster (schedule asked)) = .ok (.tabulate asked w) := by
  have hanswers : Table.tabulate asked cluster.watermarks = .tabulate asked fun p => .ok (w p) :=
    Table.tabulate_congr hw
  rw [gather, ofList_lookupWatermarks h, hanswers, Table.tabulate, allWatermarks_map_ok]
  exact congrArg Except.ok (Table.tabulate asked w).ofList_entries

/-! ## The client as a broker -/

theorem Cluster.contains_listed {p : Partition} :
    ((cluster.memory topic).listed topic).contains p = true ↔
      p ∈ (cluster.indices topic).map fun i => (⟨topic, i⟩ : Partition) := by
  have hlisted : (cluster.memory topic).listed topic =
      .ofList ((KeySet.ofList (cluster.indices topic)).keys.map fun i => ⟨topic, i⟩) := by
    rw [Memory.listed, Cluster.memory, Memory.ofPartitions, if_pos rfl, Table.keys_tabulate]
  rw [hlisted, Table.contains_keySet_ofList]
  simp only [List.mem_map, ← Table.contains_iff_mem_keys, Table.contains_keySet_ofList]

theorem Cluster.Serves.watermarks_eq (h : cluster.Serves topic) {p : Partition}
    (hp : ((cluster.memory topic).listed topic).contains p = true) :
    cluster.watermarks p = .ok ⟨((cluster.memory topic).snapshot topic).earliest p,
      ((cluster.memory topic).snapshot topic).stop p⟩ := by
  obtain ⟨i, hi, rfl⟩ := List.mem_map.1 (Cluster.contains_listed.1 hp)
  obtain ⟨w, hw⟩ := h.watermarks i hi
  have hends : (cluster.memory topic).partitions.get? i = some (w.low, w.high) := by
    rw [Cluster.memory, Memory.ofPartitions,
      Table.get?_tabulate (Table.contains_keySet_ofList.2 hi), Cluster.ends, hw]
  simp only [Memory.snapshot, hends, hw]
  rfl

namespace Client

theorem answer_list (h : cluster.Serves topic) {client : Client}
    (hclient : client.cluster = cluster) :
    (list topic client).answer = .ok ((cluster.memory topic).listed topic) := by
  have hfound : lookupPartitions client.cluster topic = (.ok (cluster.indices topic), []) := by
    rw [hclient, lookupPartitions, h.metadata]
    rfl
  have hset : (cluster.memory topic).listed topic =
      .ofList ((cluster.indices topic).map fun i => ⟨topic, i⟩) :=
    Table.ext_contains fun p => by rw [Cluster.contains_listed, Table.contains_keySet_ofList]
  rw [list, hfound, hset]

/-- A request for one of the watermarks gives what the broker in memory holds. -/
theorem answer_offsets (h : cluster.Serves topic) (hschedule : schedule.Fair) {client : Client}
    (hclient : client.cluster = cluster) (which : Watermarks → Int64)
    (hasked : ∀ p, asked.contains p = true →
      ((cluster.memory topic).listed topic).contains p = true) :
    (offsets schedule which asked client).answer = .ok (.tabulate asked fun p =>
      which ⟨((cluster.memory topic).snapshot topic).earliest p,
        ((cluster.memory topic).snapshot topic).stop p⟩) := by
  rw [offsets, hclient,
    gather_lookupWatermarks hschedule fun p hp => h.watermarks_eq (hasked p hp)]
  refine congrArg Except.ok (Table.ext_entries ?_)
  simp [Table.mapValues, Table.tabulate]

theorem cluster_offsets (schedule : Schedule) (which : Watermarks → Int64) (asked : PartitionSet)
    (client : Client) : (offsets schedule which asked client).state.cluster = client.cluster := by
  simp only [offsets]
  split <;> rfl

/-- A client of a cluster without faults shows what the broker in memory with the same watermarks
shows. -/
theorem shows (h : cluster.Serves topic) (hschedule : schedule.Fair) :
    (broker schedule).Shows topic ((cluster.memory topic).snapshot topic)
      (·.cluster = cluster) where
  list _ hclient := ⟨answer_list h hclient, hclient⟩
  earliest asked client hclient hasked :=
    ⟨answer_offsets h hschedule hclient (·.low) hasked,
      (cluster_offsets schedule _ asked client).trans hclient⟩
  latest asked client hclient hasked :=
    ⟨answer_offsets h hschedule hclient (·.high) hasked,
      (cluster_offsets schedule _ asked client).trans hclient⟩

end Client

end LogIntake.Kafka
