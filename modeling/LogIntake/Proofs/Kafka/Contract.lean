import LogIntake.Proofs.Kafka.Client
import LogIntake.Proofs.Kafka.Lookups

/-!
# What a client answers

A client answers about exactly the partitions that it was asked for, each with its own watermark,
or it says which lookup failed. If several do, it is the one of the smallest partition, so that
the answer does not depend on the order in which the lookups finish. It lists the partitions of the
topic only. Whatever goes wrong may pass with time.

## Main definitions

- `Cluster.Lists`, `Cluster.Measures`: what there is to answer, by what the cluster holds.
- `Gathering.answer`: the answer of a request that has come back.
- `Client.Settled`: a request whose answer is the same for all schedules and on all ways.

## Main statements

- `gather_eq_inOrder`: a schedule does not matter.
- `Client.settled_offsets`: requests for watermarks are settled.
- `Client.broker_honours_contract`: what holds for all three requests.
-/

namespace LogIntake.Kafka

/-- What there is to answer about the partitions of a topic. -/
inductive Cluster.Lists (cluster : Cluster) (topic : String) : Except Failure PartitionSet → Prop
  | known {indices : List Int32} {listed : PartitionSet}
    (h : cluster.metadata topic = .ok (some (.ok indices))) (hnodup : listed.keys.Nodup)
    (hlisted : ∀ p, listed.contains p = true ↔ p.log = topic ∧ p.index ∈ indices) :
    Lists cluster topic (.ok listed)
  | absent (h : cluster.metadata topic = .ok none) : Lists cluster topic (.ok .empty)
  | unknown {code : ErrorCode} (h : cluster.metadata topic = .ok (some (.error code)))
    (hcode : code = .unknownTopic ∨ code = .unknownTopicOrPartition) :
    Lists cluster topic (.ok .empty)
  | refused {code : ErrorCode} (h : cluster.metadata topic = .ok (some (.error code)))
    (hcode : code ≠ .unknownTopic ∧ code ≠ .unknownTopicOrPartition) :
    Lists cluster topic (.error ⟨.brokerUnavailable, (RequestError.topic topic code).text⟩)
  | failed {code : ErrorCode} (h : cluster.metadata topic = .error code) :
    Lists cluster topic (.error ⟨.brokerUnavailable, (RequestError.metadata code).text⟩)

/-- What there is to answer about one of the watermarks of some partitions: that of each of them,
and no others, or the failure of the smallest partition whose lookup fails. -/
inductive Cluster.Measures (cluster : Cluster) (which : Watermarks → Int64)
    (asked : PartitionSet) : Except Failure OffsetTable → Prop
  | found {offsets : OffsetTable} (hkeys : offsets.keys = asked.keys)
    (hoffset : ∀ p offset, offsets.get? p = some offset →
      ∃ w, cluster.watermarks p = .ok w ∧ offset = which w) :
    Measures cluster which asked (.ok offsets)
  | failed {p : Partition} {code : ErrorCode} (hasked : asked.contains p = true)
    (h : cluster.watermarks p = .error code)
    (hfirst : ∀ q, asked.contains q = true → compare q p = .lt →
      ∃ w, cluster.watermarks q = .ok w) :
    Measures cluster which asked
      (.error ⟨.brokerUnavailable, (RequestError.watermarks p code).text⟩)

/-- The answer of a request that has come back. -/
def Gathering.answer (which : Watermarks → Int64) :
    Except RequestError (List (Partition × Watermarks)) → Except Failure OffsetTable
  | .error e => .error e.error.failure
  | .ok taken => .ok (.ofList (taken.map fun e => (e.1, which e.2)))

/-- The reply to a request for one of the watermarks has what there is to answer. It is the same for
all schedules, and the same on all ways that the request may take. -/
structure Client.Settled (client : Client) (which : Watermarks → Int64) (asked : PartitionSet)
    (reply : Schedule → Reply Client OffsetTable) (schedule : Schedule) : Prop where
  measures : client.cluster.Measures which asked (reply schedule).answer
  schedule_eq : ∀ other : Schedule, other.Fair → reply other = reply schedule
  reached_eq : ∀ g result, Gathering.Reaches client.cluster.watermarks (.start asked) g →
    g.result = some result → (reply schedule).answer = Gathering.answer which result

variable {schedule : Schedule} {asked : PartitionSet} {answers : Answers}

/-! ## Answers in the order of the partitions -/

/-- The lookups that finished come to the answers in order, whatever the schedule. -/
theorem gather_eq_inOrder (h : schedule.Fair) (cluster : Cluster) (asked : PartitionSet) :
    gather (lookupWatermarks cluster (schedule asked)) =
      (Gathering.inOrder cluster.watermarks asked.keys).map .ofList := by
  rw [gather, ofList_lookupWatermarks h, Table.tabulate, Gathering.inOrder, Table.keys,
    List.map_map]
  rfl

/-- All lookups succeed, or one fails behind others that succeed. -/
theorem inOrder_cases (answers : Answers) (partitions : List Partition) :
    (∃ taken, Gathering.inOrder answers partitions = .ok taken ∧ taken.map (·.1) = partitions ∧
      ∀ e ∈ taken, answers e.1 = .ok e.2) ∨
    ∃ before p code behind, partitions = before ++ p :: behind ∧
      (∀ q ∈ before, ∃ w, answers q = .ok w) ∧ answers p = .error code ∧
      Gathering.inOrder answers partitions = .error (.watermarks p code) := by
  induction partitions with
  | nil => exact .inl ⟨[], rfl, rfl, List.forall_mem_nil _⟩
  | cons p rest ih =>
    cases hanswer : answers p with
    | error code =>
      exact .inr ⟨[], p, code, rest, rfl, List.forall_mem_nil _, hanswer,
        Gathering.inOrder_cons_error hanswer rest⟩
    | ok w =>
      rw [Gathering.inOrder_cons_ok hanswer]
      rcases ih with ⟨taken, htaken, hkeys, hvalues⟩ |
        ⟨before, q, code, behind, hrest, hbefore, hq, herror⟩
      · refine .inl ⟨(p, w) :: taken, ?_, ?_, List.forall_mem_cons.2 ⟨hanswer, hvalues⟩⟩
        · rw [htaken]
          rfl
        · rw [List.map_cons, hkeys]
      · refine .inr ⟨p :: before, q, code, behind, ?_, ?_, hq, ?_⟩
        · rw [hrest, List.cons_append]
        · exact List.forall_mem_cons.2 ⟨⟨w, hanswer⟩, hbefore⟩
        · rw [herror]
          rfl

/-- Where the keys of a table are split at one of them, the smaller keys stand before it. -/
theorem mem_before_of_lt {before behind : List Partition} {p q : Partition}
    (hkeys : asked.keys = before ++ p :: behind) (hq : asked.contains q = true)
    (hlt : compare q p = .lt) : q ∈ before := by
  have hascending := asked.keys_ascending
  rw [hkeys] at hascending
  obtain ⟨hbehind, -⟩ := List.pairwise_cons.1 (List.pairwise_append.1 hascending).2.1
  have hmem := Table.contains_iff_mem_keys.1 hq
  rw [hkeys] at hmem
  rcases List.mem_append.1 hmem with hmem | hmem
  · exact hmem
  · rcases List.mem_cons.1 hmem with rfl | hmem
    · exact absurd rfl (Table.ne_of_compare_lt hlt)
    · exact absurd hlt (Std.OrientedCmp.not_lt_of_lt (hbehind q hmem))

theorem measures_inOrder (cluster : Cluster) (which : Watermarks → Int64) (asked : PartitionSet) :
    cluster.Measures which asked
      (Gathering.answer which (Gathering.inOrder cluster.watermarks asked.keys)) := by
  rcases inOrder_cases cluster.watermarks asked.keys with
    ⟨taken, htaken, hkeys, hvalues⟩ | ⟨before, p, code, behind, hkeys, hbefore, hp, herror⟩
  · rw [htaken]
    have hascending : (taken.map fun e => (e.1, which e.2)).Pairwise
        fun a b => compare a.1 b.1 = .lt := by
      have hsorted := asked.keys_ascending
      rw [← hkeys, List.pairwise_map] at hsorted
      exact List.pairwise_map.2 hsorted
    have hentries := Table.entries_ofList hascending
    refine .found ?_ fun p offset hoffset => ?_
    · rw [Table.keys, hentries, List.map_map, ← hkeys]
      rfl
    · rw [Table.get?_eq_some_iff, hentries] at hoffset
      obtain ⟨e, he, heq⟩ := List.mem_map.1 hoffset
      cases heq
      exact ⟨e.2, hvalues e he, rfl⟩
  · rw [herror]
    refine .failed ?_ hp fun q hq hlt => hbefore q (mem_before_of_lt hkeys hq hlt)
    rw [Table.contains_iff_mem_keys, hkeys]
    exact List.mem_append_right _ List.mem_cons_self

/-! ## The client -/

namespace Client

theorem answer_offsets_eq (h : schedule.Fair) (which : Watermarks → Int64) (asked : PartitionSet)
    (client : Client) :
    (offsets schedule which asked client).answer =
      Gathering.answer which (Gathering.inOrder client.cluster.watermarks asked.keys) := by
  rw [offsets, gather_eq_inOrder h]
  cases Gathering.inOrder client.cluster.watermarks asked.keys with
  | error e => rfl
  | ok taken => exact congrArg Except.ok (Table.mapValues_extend .empty taken which)

theorem settled_offsets (h : schedule.Fair) (which : Watermarks → Int64) (asked : PartitionSet)
    (client : Client) :
    client.Settled which asked (fun s => offsets s which asked client) schedule where
  measures := by
    rw [answer_offsets_eq h]
    exact measures_inOrder client.cluster which asked
  schedule_eq other hother := by
    rw [offsets, offsets, gather_eq_inOrder hother, gather_eq_inOrder h]
  reached_eq g result hreach hresult := by
    rw [answer_offsets_eq h, Gathering.result_eq_of_reaches hreach hresult]

theorem lists_list (topic : String) (client : Client) :
    client.cluster.Lists topic (list topic client).answer := by
  rw [list, lookupPartitions]
  cases hmetadata : client.cluster.metadata topic with
  | error code => exact .failed hmetadata
  | ok found =>
    cases found with
    | none => exact .absent hmetadata
    | some answered =>
      cases answered with
      | ok indices =>
        refine .known hmetadata (Table.keys_nodup _) fun p => ?_
        rw [Table.contains_keySet_ofList, List.mem_map]
        constructor
        · rintro ⟨i, hi, rfl⟩
          exact ⟨rfl, hi⟩
        · rintro ⟨rfl, hp⟩
          exact ⟨p.index, hp, rfl⟩
      | error code =>
        by_cases hcode : code.IsUnknownTopic
        · simp only [topicPartitions, if_pos hcode]
          exact .unknown hmetadata hcode.symm
        · simp only [topicPartitions, if_neg hcode]
          exact .refused hmetadata ⟨fun h => hcode (.inr h), fun h => hcode (.inl h)⟩

/-- What a client answers, whatever the cluster holds. A listing has the partitions of the topic,
and a request for earliest offsets or ends has those of exactly the partitions asked for, or the
failure of the smallest one that fails. In whichever order the concurrent lookups finish, the reply
is the same, and a request that is on its way comes to it in the end. Every failure allows a
retry. -/
theorem broker_honours_contract (h : schedule.Fair) (client : Client) (topic : String)
    (asked : PartitionSet) :
    client.cluster.Lists topic ((broker schedule).list topic client).answer ∧
      client.Settled (·.low) asked (fun s => (broker s).earliest asked client) schedule ∧
      client.Settled (·.high) asked (fun s => (broker s).latest asked client) schedule ∧
      (∀ f, ((broker schedule).list topic client).answer = .error f ∨
        ((broker schedule).earliest asked client).answer = .error f ∨
        ((broker schedule).latest asked client).answer = .error f → f.retryable = true) ∧
      (∀ g, Gathering.Reaches client.cluster.watermarks (.start asked) g → g.result = none →
        ∃ next, Gathering.Step client.cluster.watermarks g next) ∧
      WellFounded fun next g : Gathering => Gathering.Step client.cluster.watermarks g next := by
  have hlists := lists_list topic client
  have hearliest := settled_offsets h (·.low) asked client
  have hlatest := settled_offsets h (·.high) asked client
  have hmeasures : ∀ {which answer f}, client.cluster.Measures which asked answer →
      answer = .error f → f.retryable = true := by
    rintro _ _ f (_ | _) hf
    · cases hf
    · cases hf
      rfl
  refine ⟨hlists, hearliest, hlatest, ?_, fun g _ => Gathering.exists_step _,
    Gathering.step_wellFounded _⟩
  rintro f (hf | hf | hf)
  · change (list topic client).answer = .error f at hf
    rw [hf] at hlists
    cases hlists <;> rfl
  · exact hmeasures hearliest.measures hf
  · exact hmeasures hlatest.measures hf

/-- The lookups of two partitions fail, and that of the greater one fails first. -/
theorem broker_honours_contract_orders :
    let cluster : Cluster := ⟨.ofList [("orders", ⟨none, [⟨0, 2, 9, none⟩,
      ⟨1, 0, 4, some .leaderNotAvailable⟩, ⟨2, 0, 4, some .requestTimedOut⟩]⟩)], none, false,
      fun _ => .ok ()⟩
    let client : Client := ⟨cluster, 5000, [], []⟩
    let asked : PartitionSet := .ofList [⟨"orders", 0⟩, ⟨"orders", 1⟩, ⟨"orders", 2⟩]
    let backward : Schedule := fun asked => asked.keys.reverse
    let failure : Failure := ⟨.brokerUnavailable, "Failed to fetch watermarks of orders-1: " ++
      "Meta data fetch error: LeaderNotAvailable (Broker: Leader not available)"⟩
    ((broker backward).earliest asked client).answer = .error failure ∧
      ((broker .ascending).earliest asked client).answer = .error failure ∧
      cluster.Measures (·.low) asked (.error failure) := by
  intro cluster client asked backward failure
  have hfair : backward.Fair := fun asked => asked.keys.reverse_perm
  have hascending : Schedule.ascending.Fair := fun asked => .refl asked.keys
  have hsettled := (broker_honours_contract hfair client "orders" asked).2.1
  have hanswer : ((broker backward).earliest asked client).answer = .error failure := by
    decide +kernel
  have hmeasures := hsettled.measures
  refine ⟨hanswer, (congrArg Reply.answer (hsettled.schedule_eq _ hascending)).trans hanswer, ?_⟩
  rwa [hanswer] at hmeasures

end Client

end LogIntake.Kafka
