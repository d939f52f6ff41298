import LogIntake.Proofs.Cycle.Protocol
import Mathlib.Data.List.Find

/-!
# Answers about partitions that were not asked for

A cycle takes the answers of its broker as they are. An answer may hold more than was asked for,
and each of the three answers with offsets has a way to let that into the plan: the first may take
a checkpoint for stale, the second may replace starts, and the last may add ranges. In no other way
does it matter what an answer holds besides.

## Main definitions

- `Broker.restricted`: the broker that answers only what it is asked.
- `Session.Mirrors`: two sessions make the same calls and fail alike, or have related results.
- `Unbiased`: no partition that was not asked for takes the checkpoint for stale.
- `Harmless`: later answers replace no start and add no end.

## Main statements

- `mirrors_survey`: unbiased surveys of a broker and of its restriction mirror each other.
- `starts_of_not_unbiased`: otherwise one cycle starts over, and the other one goes on.
- `planCycle_restricted`: an unbiased plan is the same exactly if what was not asked for is
  harmless.
- `planCycle_takes_surplus`: in general it is not.
-/

namespace LogIntake

open Session

variable {σ α β α' β' : Type}

/-! ## Restricted answers -/

namespace OffsetTable

/-- The offsets in an answer of the partitions that were asked for. -/
def restrict (answer : OffsetTable) (asked : PartitionSet) : OffsetTable :=
  answer.filter fun p _ => asked.contains p

variable {answer : OffsetTable} {asked : PartitionSet} {p : Partition}

theorem get?_restrict_of_contains (hp : asked.contains p = true) :
    (answer.restrict asked).get? p = answer.get? p := by
  rw [restrict, Table.get?_filter, hp]
  cases answer.get? p <;> rfl

theorem get?_restrict_of_not_contains (hp : ¬ asked.contains p = true) :
    (answer.restrict asked).get? p = none := by
  rw [restrict, Table.get?_filter]
  exact Option.filter_eq_none_iff.2 fun _ _ => hp

theorem get?_restrict_eq_some_iff {offset : Int64} :
    (answer.restrict asked).get? p = some offset ↔
      asked.contains p = true ∧ answer.get? p = some offset := by
  by_cases hp : asked.contains p = true
  · simp [get?_restrict_of_contains hp, hp]
  · simp [get?_restrict_of_not_contains hp, hp]

theorem contains_restrict :
    (answer.restrict asked).contains p = true ↔
      asked.contains p = true ∧ answer.contains p = true := by
  simp only [Table.contains, Option.isSome_iff_exists, get?_restrict_eq_some_iff, exists_and_left]

theorem restrict_eq_self_iff :
    answer.restrict asked = answer ↔ ∀ p, answer.contains p = true → asked.contains p = true := by
  constructor
  · intro h p hp
    rw [← h] at hp
    exact (contains_restrict.1 hp).1
  · intro h
    refine Table.ext_get? fun p => ?_
    by_cases hp : asked.contains p = true
    · exact get?_restrict_of_contains hp
    · rw [get?_restrict_of_not_contains hp, eq_comm, Table.get?_eq_none_iff]
      exact fun hanswer => hp (h p hanswer)

theorem stale_of_stale_restrict {checkpoint : OffsetTable}
    (h : Stale checkpoint (answer.restrict asked)) : Stale checkpoint answer := by
  obtain ⟨p, offset, kept, hoffset, hkept, hlt⟩ := h
  exact ⟨p, offset, kept, hoffset, (get?_restrict_eq_some_iff.1 hkept).2, hlt⟩

end OffsetTable

theorem firstUnreported?_restrict (asked : PartitionSet) (answer : OffsetTable) :
    firstUnreported? asked (answer.restrict asked) = firstUnreported? asked answer := by
  refine List.find?_congr fun p hp => ?_
  have hasked := Table.contains_iff_mem_keys.2 hp
  rw [Table.contains, Table.contains, OffsetTable.get?_restrict_of_contains hasked]

theorem requireComplete_restrict (which : OffsetKind) (asked : PartitionSet)
    (answer : OffsetTable) :
    (requireComplete which asked (answer.restrict asked) : Session σ Unit) =
      requireComplete which asked answer := by
  rw [requireComplete, requireComplete, firstUnreported?_restrict]

/-- The same reply with the offsets of the partitions that were asked for. -/
def Reply.restrict (reply : Reply σ OffsetTable) (asked : PartitionSet) : Reply σ OffsetTable :=
  { reply with answer := reply.answer.map fun answer => answer.restrict asked }

theorem Reply.answer_restrict_eq_ok_iff {reply : Reply σ OffsetTable} {asked : PartitionSet}
    {answer : OffsetTable} :
    (reply.restrict asked).answer = .ok answer ↔
      ∃ full, reply.answer = .ok full ∧ full.restrict asked = answer := by
  rw [Reply.restrict]
  cases reply.answer with
  | error f => simp [Except.map]
  | ok full => simp [Except.map]

/-- The broker that answers as this one does, but only what it is asked. -/
def Broker.restricted (broker : Broker σ) : Broker σ where
  list := broker.list
  earliest asked s := (broker.earliest asked s).restrict asked
  latest asked s := (broker.latest asked s).restrict asked

/-! ## Sessions that mirror each other -/

namespace Session

/-- Run from `s`, two sessions make the same calls. They fail with the same error, or they leave
the broker in the same state and have results that are related. -/
inductive Mirrors (m : Session σ α) (m' : Session σ α') (s : σ) (R : α → α' → Prop) : Prop
  | done (a : α) (a' : α') (s' : σ) (hyields : Yields m s a s') (hyields' : Yields m' s a' s')
      (hcalls : (m'.run s).calls = (m.run s).calls) (hrelated : R a a')
  | failed (e : CycleError) (herror : (m.run s).result = .error e)
      (herror' : (m'.run s).result = .error e) (hcalls : (m'.run s).calls = (m.run s).calls)

variable {m : Session σ α} {m' : Session σ α'} {f : α → Session σ β} {f' : α' → Session σ β'}
  {s : σ} {R : α → α' → Prop} {S : β → β' → Prop}

theorem Mirrors.calls_eq (h : Mirrors m m' s R) : (m'.run s).calls = (m.run s).calls := by
  cases h with
  | done _ _ _ _ _ hcalls => exact hcalls
  | failed _ _ _ hcalls => exact hcalls

theorem Mirrors.bind (h : Mirrors m m' s R)
    (hf : ∀ a a' s', Yields m s a s' → Yields m' s a' s' → R a a' → Mirrors (f a) (f' a') s' S) :
    Mirrors (m >>= f) (m' >>= f') s S := by
  cases h with
  | done a a' s₁ hyields hyields' hcalls hrelated =>
    have hbind : ((m' >>= f').run s).calls = (m.run s).calls ++ ((f' a').run s₁).calls := by
      rw [calls_bind_of_yields hyields', hcalls]
    cases hf a a' s₁ hyields hyields' hrelated with
    | done b b' s₂ hb hb' hcalls₂ hrelated₂ =>
      refine .done b b' s₂ (yields_bind_iff.2 ⟨a, s₁, hyields, hb⟩)
        (yields_bind_iff.2 ⟨a', s₁, hyields', hb'⟩) ?_ hrelated₂
      rw [hbind, hcalls₂, calls_bind_of_yields hyields]
    | failed e herror herror' hcalls₂ =>
      refine .failed e ((result_bind_of_yields hyields).trans herror)
        ((result_bind_of_yields hyields').trans herror') ?_
      rw [hbind, hcalls₂, calls_bind_of_yields hyields]
  | failed e herror herror' hcalls =>
    have hrun := run_bind_of_error (f := f) herror
    have hrun' := run_bind_of_error (f := f') herror'
    refine .failed e ?_ ?_ ?_
    · rw [hrun]
    · rw [hrun']
    · rw [hrun, hrun']
      exact hcalls

theorem mirrors_refl (m : Session σ α) (s : σ) : Mirrors m m s Eq := by
  cases h : (m.run s).result with
  | ok a => exact .done a a _ ⟨h, rfl⟩ ⟨h, rfl⟩ rfl rfl
  | error e => exact .failed e h h rfl

theorem mirrors_pure {a : α} {a' : α'} (h : R a a') :
    Mirrors (pure a : Session σ α) (pure a' : Session σ α') s R :=
  .done a a' s ⟨rfl, rfl⟩ ⟨rfl, rfl⟩ rfl h

theorem mirrors_emit (event event' : Event) (s : σ) :
    Mirrors (emit event) (emit event') s fun _ _ => True :=
  .done () () s ⟨rfl, rfl⟩ ⟨rfl, rfl⟩ rfl trivial

end Session

/-! ## The stages -/

/-- Both tables have the same offsets for the partitions listed. -/
def OffsetTable.AgreeOn (listed : PartitionSet) (known known' : OffsetTable) : Prop :=
  ∀ p, listed.contains p = true → known'.get? p = known.get? p

theorem OffsetTable.agreeOn_restrict (answer : OffsetTable) (listed : PartitionSet) :
    OffsetTable.AgreeOn listed answer (answer.restrict listed) :=
  fun _ hp => get?_restrict_of_contains hp

theorem undecided_congr {listed : PartitionSet} {known known' : OffsetTable}
    (h : OffsetTable.AgreeOn listed known known') :
    undecided known' listed = undecided known listed := by
  refine Table.ext_contains fun p => ?_
  rw [contains_undecided, contains_undecided]
  refine and_congr_right fun hp => ?_
  rw [Table.contains, Table.contains, h p hp]

/-- No answer replaces the start of a partition that was not asked about by another one. -/
def Keeps (heard : List Exchange) (known : OffsetTable) (p : Partition) : Prop :=
  ∀ asked answer offset, .earliest asked (.ok answer) ∈ heard → ¬ asked.contains p = true →
    answer.get? p = some offset → known.get? p = some offset

theorem keeps_nil (known : OffsetTable) (p : Partition) : Keeps [] known p :=
  fun _ _ _ h => absurd h List.not_mem_nil

theorem keeps_singleton_iff {asked : PartitionSet} {answer known : OffsetTable} {p : Partition} :
    Keeps [.earliest asked (.ok answer)] known p ↔ (¬ asked.contains p = true →
      ∀ offset, answer.get? p = some offset → known.get? p = some offset) := by
  constructor
  · intro h hasked offset
    exact h asked answer offset (List.mem_singleton.2 rfl) hasked
  · intro h asked' answer' offset hmem
    obtain ⟨⟩ := List.mem_singleton.1 hmem
    exact fun hasked => h hasked offset

/-- Restricting an answer makes no difference for a partition exactly if the answer does not
replace its start without being asked. -/
theorem or_restrict_eq_iff {asked : PartitionSet} {answer known : OffsetTable} {p : Partition} :
    ((answer.restrict asked).get? p).or (known.get? p) = (answer.get? p).or (known.get? p) ↔
      (¬ asked.contains p = true →
        ∀ offset, answer.get? p = some offset → known.get? p = some offset) := by
  by_cases hp : asked.contains p = true
  · rw [OffsetTable.get?_restrict_of_contains hp]
    exact iff_of_true rfl fun hnot => absurd hp hnot
  · rw [OffsetTable.get?_restrict_of_not_contains hp, Option.none_or]
    cases answer.get? p with
    | none => simp
    | some offset => simp [hp]

section Stages

variable {broker : Broker σ} {s : σ} {listed : PartitionSet}

theorem mirrors_call {c : Call} {ask : σ → Reply σ OffsetTable} {asked : PartitionSet} :
    Mirrors (call c ask) (call c fun s => (ask s).restrict asked) s
      fun answer answer' => answer' = answer.restrict asked := by
  cases hanswer : (ask s).answer with
  | error f =>
    refine .failed (.broker f) ?_ ?_ rfl
    · rw [run_call, hanswer]
      rfl
    · simp only [run_call, Reply.restrict, hanswer]
      rfl
  | ok answer =>
    exact .done answer (answer.restrict asked) (ask s).state
      (yields_call_iff.2 ⟨hanswer, rfl⟩)
      (yields_call_iff.2 ⟨Reply.answer_restrict_eq_ok_iff.2 ⟨answer, hanswer, rfl⟩, rfl⟩) rfl rfl

/-- Only what was asked for is checked, so that both sessions pass or both fail. -/
theorem mirrors_requireComplete_bind {which : OffsetKind} {asked : PartitionSet}
    {answer : OffsetTable} {f : Unit → Session σ α} {f' : Unit → Session σ α'} {R : α → α' → Prop}
    (h : Complete asked answer → Mirrors (f ()) (f' ()) s R) :
    Mirrors (requireComplete which asked answer >>= f)
      (requireComplete which asked (answer.restrict asked) >>= f') s R := by
  rw [requireComplete_restrict]
  refine (mirrors_refl _ s).bind fun _ _ s' hyields _ _ => ?_
  obtain ⟨hcomplete, rfl⟩ := yields_requireComplete_iff.1 hyields
  exact h hcomplete

theorem mirrors_resolveStarts (reset : ResetStrategy) :
    Mirrors (resolveStarts broker reset listed) (resolveStarts broker.restricted reset listed) s
      fun starts starts' => starts' = starts.restrict listed := by
  unfold resolveStarts
  refine (mirrors_refl _ s).bind fun _ _ _ _ _ _ => ?_
  cases reset with
  | earliest => exact mirrors_call
  | latest => exact mirrors_call

/-- The checkpoint is kept or given up by both sessions, unless a partition that was not asked for
decides about it. -/
theorem mirrors_validateStarts {checkpoint : OffsetTable}
    (hunbiased : ∀ opening, (broker.earliest listed s).answer = .ok opening →
      Stale checkpoint opening → Stale checkpoint (opening.restrict listed)) :
    Mirrors (validateStarts broker checkpoint listed)
      (validateStarts broker.restricted checkpoint listed) s (OffsetTable.AgreeOn listed) := by
  refine mirrors_call.bind fun opening opening' s₁ hyields _ hrestrict => ?_
  subst hrestrict
  obtain ⟨hanswer, -⟩ := yields_call_iff.1 hyields
  refine mirrors_requireComplete_bind fun _ => ?_
  cases hstale : firstStale? checkpoint opening with
  | none =>
    have hfresh : firstStale? checkpoint (opening.restrict listed) = none :=
      firstStale?_eq_none_iff.2 fun h =>
        firstStale?_eq_none_iff.1 hstale (OffsetTable.stale_of_stale_restrict h)
    rw [hfresh]
    exact mirrors_pure fun _ _ => rfl
  | some found =>
    have hstale' := hunbiased opening hanswer (stale_of_firstStale?_eq_some hstale)
    cases hfound : firstStale? checkpoint (opening.restrict listed) with
    | none => exact absurd hstale' (firstStale?_eq_none_iff.1 hfound)
    | some found' =>
      refine (mirrors_emit _ _ s₁).bind fun _ _ _ _ _ _ => ?_
      exact mirrors_pure (OffsetTable.agreeOn_restrict opening listed)

theorem mirrors_chooseStarts {settings : PlannerSettings} {checkpoint : Checkpoint}
    (hunbiased : ¬ checkpoint.isEmpty = true →
      ∀ opening, (broker.earliest listed s).answer = .ok opening →
        Stale checkpoint.offsets opening → Stale checkpoint.offsets (opening.restrict listed)) :
    Mirrors (chooseStarts broker settings checkpoint listed)
      (chooseStarts broker.restricted settings checkpoint listed) s
      (OffsetTable.AgreeOn listed) := by
  rw [chooseStarts, chooseStarts]
  by_cases hempty : checkpoint.isEmpty = true
  · rw [if_pos hempty, if_pos hempty]
    refine (mirrors_resolveStarts settings.reset).bind fun starts starts' _ _ _ hrestrict => ?_
    subst hrestrict
    refine mirrors_requireComplete_bind fun _ => ?_
    exact mirrors_pure (OffsetTable.agreeOn_restrict starts listed)
  · rw [if_neg hempty, if_neg hempty]
    exact mirrors_validateStarts (hunbiased hempty)

/-- Both sessions start the partitions that were asked about alike. Another one is started alike
exactly if no answer replaces its start. -/
theorem mirrors_startDiscovered {policy : DiscoveredStart} {known known' : OffsetTable}
    (hagree : OffsetTable.AgreeOn listed known known') :
    Mirrors (startDiscovered broker policy listed known)
      (startDiscovered broker.restricted policy listed known') s fun starts starts' =>
        ∀ p, listed.contains p = true → (starts'.get? p = starts.get? p ↔
          Keeps (broker.exchanges s ((startDiscovered broker policy listed known).run s).calls)
            known p) := by
  rw [calls_startDiscovered]
  unfold startDiscovered
  rw [undecided_congr hagree]
  by_cases hempty : (undecided known listed).isEmpty = true
  · have hfound := Table.isEmpty_iff.1 hempty
    rw [if_pos hempty, if_pos hempty, if_neg fun h => h.2 hfound]
    exact mirrors_pure fun p hp => iff_of_true (hagree p hp) (keeps_nil known p)
  · have hfound : undecided known listed ≠ .empty := fun h => hempty (Table.isEmpty_iff.2 h)
    rw [if_neg hempty, if_neg hempty]
    refine (mirrors_emit _ _ s).bind fun _ _ s₁ hyields _ _ => ?_
    obtain rfl := yields_emit_iff.1 hyields
    cases policy with
    | zero =>
      rw [if_neg fun h => nomatch h.1]
      refine mirrors_pure fun p hp => iff_of_true ?_ (keeps_nil known p)
      rw [Table.get?_extend, Table.get?_extend, hagree p hp]
    | earliest =>
      rw [if_pos ⟨rfl, hfound⟩]
      refine mirrors_call.bind fun answer answer' s₂ hyields _ hrestrict => ?_
      subst hrestrict
      obtain ⟨hanswer, rfl⟩ := yields_call_iff.1 hyields
      refine mirrors_requireComplete_bind fun _ => mirrors_pure fun p hp => ?_
      have hheard : broker.exchanges s₁ [.earliest (undecided known listed)] =
          [.earliest (undecided known listed) (.ok answer)] := by
        simp [Broker.exchanges, Broker.exchange, hanswer]
      rw [hheard, keeps_singleton_iff, Table.get?_extend_entries, Table.get?_extend_entries,
        hagree p hp]
      exact or_restrict_eq_iff

end Stages

/-! ## Surveys -/

/-- If the first answer takes the checkpoint for stale, then it does so by a partition that was
asked for. -/
def Unbiased (offsets : OffsetTable) (heard : List Exchange) : Prop :=
  Stale offsets (Protocol.opening heard) →
    Stale offsets ((Protocol.opening heard).restrict (Protocol.listed heard))

/-- Of what was not asked for, the later answers replace no start of a listed partition by another
offset, and they hold no ends. -/
structure Harmless (offsets : OffsetTable) (heard : List Exchange) : Prop where
  keeps : ∀ p, (Protocol.listed heard).contains p = true → Keeps (heard.drop 2) offsets p
  stops : ∀ asked answer, .latest asked (.ok answer) ∈ heard.drop 2 →
    ∀ p, answer.contains p = true → asked.contains p = true

/-- The survey of the restricted broker comes to the same starts and ends. -/
structure Survey.SameAs (found' found : Survey) : Prop where
  stops_eq : found'.stops = found.stops
  starts_eq : OffsetTable.AgreeOn found.listed found.starts found'.starts

theorem keeps_append_latest_iff {heard : List Exchange} {asked : PartitionSet}
    {answer : Except Failure OffsetTable} {known : OffsetTable} {p : Partition} :
    Keeps (heard ++ [.latest asked answer]) known p ↔ Keeps heard known p := by
  simp [Keeps]

section Surveys

variable {broker : Broker σ} {s s₁ s₂ : σ} {log : String} {settings : PlannerSettings}
  {checkpoint : Checkpoint} {listed : PartitionSet} {known starts stops : OffsetTable}

/-- Partitions are asked about a second time only where the checkpoint was kept. -/
theorem exchanges_startDiscovered
    (hchoose : Yields (chooseStarts broker settings checkpoint listed) s known s₁) :
    broker.exchanges s₁
        ((startDiscovered broker settings.discovered listed known).run s₁).calls = [] ∨
      known = checkpoint.offsets ∧ ∃ asked answer, broker.exchanges s₁
        ((startDiscovered broker settings.discovered listed known).run s₁).calls =
          [.earliest asked answer] := by
  obtain ⟨opening, -, hcomplete, hknown⟩ := exists_opening_of_chooseStarts hchoose
  rw [calls_startDiscovered_of_known hcomplete hknown, Protocol.discoveryCalls]
  split
  next hasked =>
    refine .inr ⟨?_, _, _, rfl⟩
    rcases hknown with ⟨hrestart, -⟩ | ⟨-, hkept⟩
    · exact absurd hrestart (not_or.2 ⟨hasked.1, hasked.2.1⟩)
    · exact hkept
  next => exact .inl rfl

/-- Which answers are harmless, said by the stages. -/
theorem harmless_iff_of_stages (hlist : (broker.list log s).answer = .ok listed)
    (hsome : listed ≠ .empty)
    (hchoose : Yields (chooseStarts broker settings checkpoint listed) (broker.list log s).state
      known s₁)
    (hdiscover : Yields (startDiscovered broker settings.discovered listed known) s₁ starts s₂)
    (hlatest : (broker.latest listed s₂).answer = .ok stops) (hcomplete : Complete listed stops) :
    Harmless checkpoint.offsets
        (broker.exchanges s ((survey broker log settings checkpoint).run s).calls) ↔
      (∀ p, listed.contains p = true → Keeps (broker.exchanges s₁
        ((startDiscovered broker settings.discovered listed known).run s₁).calls) known p) ∧
      stops.restrict listed = stops := by
  have hcases := exchanges_startDiscovered hchoose
  obtain ⟨opening, hopening, -⟩ := exists_opening_of_chooseStarts hchoose
  rw [exchanges_survey hlist hsome hchoose hdiscover hlatest hcomplete, hopening,
    OffsetTable.restrict_eq_self_iff]
  generalize broker.exchanges s₁ _ = heard at hcases ⊢
  have hnone : ∀ asked answer, ¬ .latest asked answer ∈ heard := by
    rcases hcases with rfl | ⟨-, _, _, rfl⟩ <;> simp
  have hkeeps : ∀ p, Keeps heard checkpoint.offsets p ↔ Keeps heard known p := by
    intro p
    rcases hcases with rfl | ⟨rfl, -⟩
    · exact iff_of_true (keeps_nil _ p) (keeps_nil _ p)
    · rfl
  constructor
  · intro h
    refine ⟨fun p hp => (hkeeps p).1 (keeps_append_latest_iff.1 (h.keeps p hp)), fun p hp => ?_⟩
    exact h.stops listed stops (List.mem_append_right heard (List.mem_singleton.2 rfl)) p hp
  · rintro ⟨hstarts, hstops⟩
    refine ⟨fun p hp => keeps_append_latest_iff.2 ((hkeeps p).2 (hstarts p hp)), ?_⟩
    intro asked answer (hmem : _ ∈ heard ++ [.latest listed (.ok stops)])
    rcases List.mem_append.1 hmem with hmem | hmem
    · exact absurd hmem (hnone asked _)
    · obtain ⟨⟩ := List.mem_singleton.1 hmem
      exact hstops

/-- The two surveys differ only where the answers are not harmless. -/
theorem mirrors_survey (broker : Broker σ) (s : σ) (log : String) (settings : PlannerSettings)
    (checkpoint : Checkpoint) (hunbiased : Unbiased checkpoint.offsets
      (broker.exchanges s ((survey broker log settings checkpoint).run s).calls)) :
    Mirrors (survey broker log settings checkpoint)
      (survey broker.restricted log settings checkpoint) s fun found found' =>
        found'.listed = found.listed ∧ found'.stops = found.stops.restrict found.listed ∧
        (Harmless checkpoint.offsets
          (broker.exchanges s ((survey broker log settings checkpoint).run s).calls) ↔
            found'.SameAs found) := by
  refine (mirrors_refl (askPartitions broker log) s).bind fun listed _ s₀ hyields _ hsame => ?_
  subst hsame
  obtain ⟨hlist, rfl⟩ := yields_call_iff.1 hyields
  refine (mirrors_refl (requireListed log listed) _).bind fun _ _ s₀' hyields _ _ => ?_
  obtain ⟨hsome, rfl⟩ := yields_requireListed_iff.1 hyields
  refine (mirrors_chooseStarts fun hsome' opening hanswer => ?_).bind
    fun known known' s₁ hchoose _ hagree => ?_
  · -- The first answer with offsets is the one that the checkpoint is compared with.
    have hopening : Protocol.openingCall settings checkpoint.offsets listed = .earliest listed :=
      if_neg fun h => hsome' h.1
    obtain ⟨rest, hrest⟩ :=
      @exists_exchanges_survey _ broker log settings checkpoint _ _ hlist hsome
    rw [hrest, hopening, Broker.exchange, hanswer] at hunbiased
    exact hunbiased
  refine (mirrors_startDiscovered hagree).bind fun starts starts' s₂ hdiscover _ hstarts => ?_
  have hwarn : Mirrors (warnDropped log (vanished starts listed))
      (warnDropped log (vanished starts' listed)) s₂ fun _ _ => True :=
    .done () () s₂ (yields_warnDropped_iff.2 rfl) (yields_warnDropped_iff.2 rfl)
      ((silent_warnDropped _ _ s₂).trans (silent_warnDropped _ _ s₂).symm) trivial
  refine hwarn.bind fun _ _ s₃ hyields _ _ => ?_
  obtain rfl := yields_warnDropped_iff.1 hyields
  refine mirrors_call.bind fun stops stops' s₄ hyields _ hrestrict => ?_
  subst hrestrict
  obtain ⟨hlatest, rfl⟩ := yields_call_iff.1 hyields
  refine mirrors_requireComplete_bind fun hcomplete => mirrors_pure ⟨rfl, rfl, ?_⟩
  rw [harmless_iff_of_stages hlist hsome hchoose hdiscover hlatest hcomplete]
  constructor
  · rintro ⟨hkeeps, hstops⟩
    exact ⟨hstops, fun p hp => (hstarts p hp).2 (hkeeps p hp)⟩
  · intro h
    exact ⟨fun p hp => (hstarts p hp).1 (h.starts_eq p hp), h.stops_eq⟩

end Surveys

/-! ## Plans -/

section Plans

variable {found found' : Survey} {log : String} {budget : Int64} {plan : Plan} {s s' : σ}

/-- Where both surveys come to the same starts and ends, nothing tells them apart any more. -/
theorem assemble_eq_of_sameAs (hrestrict : found'.stops = found.stops.restrict found.listed)
    (h : found'.SameAs found) :
    (assemble log budget found' : Session σ Plan) = assemble log budget found := by
  have hstops := OffsetTable.restrict_eq_self_iff.1 (hrestrict.symm.trans h.stops_eq)
  have hallocate : allocate found'.starts found'.stops budget =
      allocate found.starts found.stops budget := by
    rw [h.stops_eq]
    refine allocate_congr (fun p hp => ?_) budget
    rw [OffsetTable.startAt, OffsetTable.startAt, h.starts_eq p (hstops p hp)]
  rw [assemble, assemble, hallocate]

/-- A survey ends with a start and an end for every listed partition. -/
theorem complete_of_survey {broker : Broker σ} {settings : PlannerSettings}
    {checkpoint : Checkpoint}
    (h : Yields (survey broker log settings checkpoint) s found s') :
    Complete found.listed found.starts ∧ Complete found.listed found.stops := by
  obtain ⟨known, s₁, s₂, -, -, hchoose, hdiscover, -, hcomplete, -⟩ := yields_survey_iff.1 h
  refine ⟨fun p hp => ?_, hcomplete⟩
  obtain ⟨offset, hoffset, -⟩ := exists_start_of_stages hchoose hdiscover hp
  exact Table.contains_of_get? hoffset

/-- A plan tells the starts and the ends from which it was made. -/
theorem sameAs_of_plan (hstarts : Complete found.listed found.starts)
    (hstarts' : Complete found.listed found'.starts) (hstops : Complete found.listed found.stops)
    (hrestrict : found'.stops = found.stops.restrict found.listed)
    (hplan : ((assemble log budget found).run s).result = .ok plan)
    (hplan' : ((assemble log budget found').run s).result = .ok plan) : found'.SameAs found := by
  obtain ⟨⟨allocation, hallocate, hranges⟩, -⟩ := yields_assemble_iff.1 ⟨hplan, rfl⟩
  obtain ⟨⟨allocation', hallocate', hranges'⟩, -⟩ := yields_assemble_iff.1 ⟨hplan', rfl⟩
  have hexact := exactRanges_of_allocate hallocate
  have hexact' := exactRanges_of_allocate hallocate'
  rw [← hranges] at hexact
  rw [← hranges'] at hexact'
  have hkeys : ∀ p, found.stops.contains p = true → found.listed.contains p = true := by
    intro p hp
    rw [Table.contains_iff_mem_keys, ← hexact.partitions, hexact'.partitions,
      ← Table.contains_iff_mem_keys, hrestrict] at hp
    exact (OffsetTable.contains_restrict.1 hp).1
  refine ⟨by rw [hrestrict, OffsetTable.restrict_eq_self_iff.2 hkeys], fun p hp => ?_⟩
  have hmem : p ∈ plan.ranges.map (·.partition) := by
    rw [hexact.partitions, ← Table.contains_iff_mem_keys]
    exact hstops p hp
  obtain ⟨r, hr, rfl⟩ := List.mem_map.1 hmem
  obtain ⟨_, -, hstart, -⟩ := hexact.bounds r hr
  obtain ⟨_, -, hstart', -⟩ := hexact'.bounds r hr
  obtain ⟨offset, hoffset⟩ := Option.isSome_iff_exists.1 (hstarts _ hp)
  obtain ⟨offset', hoffset'⟩ := Option.isSome_iff_exists.1 (hstarts' _ hp)
  rw [OffsetTable.startAt, hoffset] at hstart
  rw [OffsetTable.startAt, hoffset'] at hstart'
  rw [hoffset, hoffset', ← show r.start = offset from hstart, show r.start = offset' from hstart']

end Plans

/-! ## A checkpoint that is given up without need -/

/-- The restricted broker answers about no partition that it was not asked for. -/
theorem Broker.restricted_obliging (broker : Broker σ) :
    broker.restricted.Obliging fun _ => True where
  list _ _ _ := trivial
  earliest asked s _ := by
    refine ⟨trivial, fun answer hanswer p hp => ?_⟩
    obtain ⟨full, -, rfl⟩ := Reply.answer_restrict_eq_ok_iff.1 hanswer
    exact (OffsetTable.contains_restrict.1 hp).1
  latest asked s _ := by
    refine ⟨trivial, fun answer hanswer p hp => ?_⟩
    obtain ⟨full, -, rfl⟩ := Reply.answer_restrict_eq_ok_iff.1 hanswer
    exact (OffsetTable.contains_restrict.1 hp).1

theorem Broker.Reports.restricted {broker : Broker σ} {log : String} {s : σ}
    {listed : PartitionSet} {opening : OffsetTable} (h : broker.Reports log s listed opening) :
    broker.restricted.Reports log s listed (opening.restrict listed) :=
  ⟨h.list_eq, Reply.answer_restrict_eq_ok_iff.2 ⟨opening, h.earliest_eq, rfl⟩⟩

section Stale

variable {broker : Broker σ} {log previous : String} {settings : PlannerSettings} {c : Checkpoint}
  {budget : Int64} {s : σ} {plan : Plan} {listed : PartitionSet} {opening : OffsetTable}

/-- A plan behind a checkpoint with offsets comes from a first answer, which decides whether these
are kept. -/
theorem exists_stages_of_reports (hread : readCheckpoint log previous = .ok c)
    (hsome : ¬ c.isEmpty = true) (hreports : broker.Reports log s listed opening)
    (hplan : ((planCycle broker log settings previous budget).run s).result = .ok plan) :
    ∃ known starts s₂, Complete listed opening ∧
      (Stale c.offsets opening ∧ known = opening ∨
        ¬ Stale c.offsets opening ∧ known = c.offsets) ∧
      Yields (startDiscovered broker settings.discovered listed known)
        (broker.earliest listed (broker.list log s).state).state starts s₂ ∧
      ∀ r ∈ plan.ranges, r.start = starts.startAt r.partition := by
  obtain ⟨c', listed', known, starts, stops, allocation, s₁, s₂, hread', hlist, -, hchoose,
    hdiscover, -, -, hallocate, hranges, -⟩ := exists_stages_of_planCycle hplan
  rw [hread] at hread'
  cases hread'
  rw [hreports.list_eq] at hlist
  cases hlist
  obtain ⟨hempty, -⟩ | ⟨-, hvalidate⟩ := yields_chooseStarts_iff.1 hchoose
  · exact absurd hempty hsome
  obtain ⟨opening', hanswer, hcomplete, rfl, hcases⟩ := yields_validateStarts_iff.1 hvalidate
  rw [hreports.earliest_eq] at hanswer
  cases hanswer
  refine ⟨known, starts, s₂, hcomplete, hcases, hdiscover, fun r hr => ?_⟩
  rw [hranges] at hr
  obtain ⟨_, -, hstart, -⟩ := (exactRanges_of_allocate hallocate).bounds r hr
  exact hstart

theorem not_isEmpty_of_stale (h : Stale c.offsets opening) : ¬ c.isEmpty = true := by
  obtain ⟨p, offset, kept, hoffset, -⟩ := h
  exact Table.not_isEmpty_of_get? hoffset

/-- The first answer that was heard is what the broker reports to the cycle. -/
theorem reports_of_heard (hread : readCheckpoint log previous = .ok c) (hsome : ¬ c.isEmpty = true)
    (hplan : ((planCycle broker log settings previous budget).run s).result = .ok plan) :
    let heard := broker.exchanges s ((planCycle broker log settings previous budget).run s).calls
    broker.Reports log s (Protocol.listed heard) (Protocol.opening heard) := by
  intro heard
  obtain ⟨c', listed, known, _, _, _, s₁, _, hread', hlist, hlisted, hchoose, -⟩ :=
    exists_stages_of_planCycle hplan
  rw [hread] at hread'
  cases hread'
  obtain ⟨hempty, -⟩ | ⟨-, hvalidate⟩ := yields_chooseStarts_iff.1 hchoose
  · exact absurd hempty hsome
  obtain ⟨opening, hanswer, -⟩ := yields_validateStarts_iff.1 hvalidate
  obtain ⟨rest, hrest⟩ := @exists_exchanges_survey _ broker log settings c _ _ hlist hlisted
  have hcall : Protocol.openingCall settings c.offsets listed = .earliest listed :=
    if_neg fun h => hsome h.1
  have hheard : heard = .list log (.ok listed) :: .earliest listed (.ok opening) :: rest := by
    simp only [heard, calls_planCycle broker s hread settings budget, hrest, hcall,
      Broker.exchange, hanswer]
  rw [hheard]
  exact ⟨hlist, hanswer⟩

/-- Behind a stale checkpoint every listed partition starts at the first answer. -/
theorem get?_opening_of_stale (hread : readCheckpoint log previous = .ok c)
    (hreports : broker.Reports log s listed opening) (hstale : Stale c.offsets opening)
    (hplan : ((planCycle broker log settings previous budget).run s).result = .ok plan)
    {r : OffsetRange} (hr : r ∈ plan.ranges) (hlisted : listed.contains r.partition = true) :
    opening.get? r.partition = some r.start := by
  obtain ⟨known, starts, s₂, hcomplete, hcases, hdiscover, hstart⟩ :=
    exists_stages_of_reports hread (not_isEmpty_of_stale hstale) hreports hplan
  obtain ⟨-, rfl⟩ := hcases.resolve_right fun h => h.1 hstale
  obtain ⟨-, rfl, -⟩ | ⟨hfound, -⟩ := yields_startDiscovered_iff.1 hdiscover
  · obtain ⟨offset, hoffset⟩ := Option.isSome_iff_exists.1 (hcomplete _ hlisted)
    rw [hstart r hr, OffsetTable.startAt, hoffset]
    rfl
  · exact absurd (undecided_eq_empty hcomplete) hfound

/-- Behind any other checkpoint a partition goes on at its offset, if no answer can replace it. -/
theorem start_eq_of_not_stale {fair : σ → Prop} (h : broker.Obliging fair) (hs : fair s)
    (hread : readCheckpoint log previous = .ok c)
    (hreports : broker.Reports log s listed opening) (hfresh : ¬ Stale c.offsets opening)
    (hplan : ((planCycle broker log settings previous budget).run s).result = .ok plan)
    {r : OffsetRange} (hr : r ∈ plan.ranges) {offset : Int64}
    (hoffset : c.offsets.get? r.partition = some offset) : r.start = offset := by
  obtain ⟨known, starts, s₂, -, hcases, hdiscover, hstart⟩ :=
    exists_stages_of_reports hread (Table.not_isEmpty_of_get? hoffset) hreports hplan
  obtain ⟨-, rfl⟩ := hcases.resolve_left fun h => hfresh h.1
  have hs₁ := (h.earliest listed _ (h.list log s hs)).1
  rw [hstart r hr, OffsetTable.startAt, h.get?_of_startDiscovered hs₁ hdiscover hoffset]
  rfl

end Stale

/-! ## The two cycles -/

section Cycles

variable {broker : Broker σ} {s : σ} {log previous : String} {settings : PlannerSettings}
  {budget : Int64} {c : Checkpoint}

/-- Both cycles make the same calls, and what they come to is decided by their surveys. -/
theorem same_of_unbiased (hread : readCheckpoint log previous = .ok c)
    (hunbiased : Unbiased c.offsets
      (broker.exchanges s ((planCycle broker log settings previous budget).run s).calls)) :
    let full := (planCycle broker log settings previous budget).run s
    let fair := (planCycle broker.restricted log settings previous budget).run s
    let heard := broker.exchanges s full.calls
    fair.calls = full.calls ∧ (Harmless c.offsets heard → fair.result = full.result) ∧
      ∀ plan, full.result = .ok plan → (fair.result = .ok plan ↔ Harmless c.offsets heard) := by
  intro full fair heard
  have hheard : heard = broker.exchanges s ((survey broker log settings c).run s).calls :=
    congrArg (broker.exchanges s) (calls_planCycle broker s hread settings budget)
  have hfull : full = (survey broker log settings c >>= assemble log budget).run s := by
    simp only [full, planCycle_eq_survey, hread, ofExcept_ok, pure_bind]
  have hfair : fair = (survey broker.restricted log settings c >>= assemble log budget).run s := by
    simp only [fair, planCycle_eq_survey, hread, ofExcept_ok, pure_bind]
  have hmirrors := mirrors_survey broker s log settings c (hheard ▸ hunbiased)
  rw [hheard]
  refine ⟨?_, ?_⟩
  · rw [hfull, hfair, calls_bind_of_silent (silent_assemble log budget),
      calls_bind_of_silent (silent_assemble log budget), hmirrors.calls_eq]
  rw [hfull, hfair]
  cases hmirrors with
  | failed e herror herror' =>
    rw [run_bind_of_error herror, run_bind_of_error herror']
    exact ⟨fun _ => rfl, fun plan hplan => nomatch hplan⟩
  | done found found' s' hyields hyields' _ hrelated =>
    obtain ⟨hlisted, hrestrict, hharmless⟩ := hrelated
    obtain ⟨hstarts, hstops⟩ := complete_of_survey hyields
    obtain ⟨hstarts', -⟩ := complete_of_survey hyields'
    rw [hlisted] at hstarts'
    rw [result_bind_of_yields hyields, result_bind_of_yields hyields', hharmless]
    have hsame : found'.SameAs found → ((assemble log budget found').run s').result =
        ((assemble log budget found).run s').result := fun h => by
      rw [assemble_eq_of_sameAs hrestrict h]
    refine ⟨hsame, fun plan hplan => ⟨fun hplan' => ?_, fun h => (hsame h).trans hplan⟩⟩
    exact sameAs_of_plan hstarts hstarts' hstops hrestrict hplan hplan'

/-- One cycle starts over, and the other one goes on at the offsets of the checkpoint. -/
theorem starts_of_not_unbiased (hread : readCheckpoint log previous = .ok c)
    (hbiased : ¬ Unbiased c.offsets
      (broker.exchanges s ((planCycle broker log settings previous budget).run s).calls))
    {plan plan' : Plan}
    (hplan : ((planCycle broker log settings previous budget).run s).result = .ok plan)
    (hplan' : ((planCycle broker.restricted log settings previous budget).run s).result = .ok plan')
    {r r' : OffsetRange} (hr : r ∈ plan.ranges) (hr' : r' ∈ plan'.ranges)
    (hpartition : r.partition = r'.partition) :
    let heard := broker.exchanges s ((planCycle broker log settings previous budget).run s).calls
    (Protocol.opening heard).get? r.partition = some r.start ∧
      ∀ offset, c.offsets.get? r.partition = some offset → r'.start = offset := by
  intro heard
  obtain ⟨hstale, hfresh⟩ := Classical.not_imp.1 hbiased
  have hreports := reports_of_heard hread (not_isEmpty_of_stale hstale) hplan
  -- The restricted broker reports no ends but those of listed partitions.
  obtain ⟨-, listed, hlist, hkeys⟩ :=
    resumable_of_planCycle broker.restricted_obliging trivial hplan'
  obtain rfl := Except.ok.inj (hlist.symm.trans hreports.list_eq)
  have hlisted : Table.contains (Protocol.listed heard) r.partition = true := by
    rw [hpartition, Table.contains_iff_mem_keys, ← hkeys]
    exact List.mem_map_of_mem hr'
  refine ⟨get?_opening_of_stale hread hreports hstale hplan hr hlisted, fun offset hoffset => ?_⟩
  rw [hpartition] at hoffset
  exact start_eq_of_not_stale broker.restricted_obliging trivial hread hreports.restricted hfresh
    hplan' hr' hoffset

end Cycles

/-- What a broker reports about partitions that it was not asked about. A checkpoint that cannot be
read ends both cycles with the same error before they ask anything. Unless such a partition takes
the checkpoint for stale, a cycle asks the same as behind the restricted broker. It has the same
plan, or fails alike, if the later answers are harmless, and it has another plan if they are not.
Where such a partition does take the checkpoint for stale, all partitions start over that would have
gone on at their offsets. -/
theorem planCycle_restricted (broker : Broker σ) (s : σ) (log : String)
    (settings : PlannerSettings) (previous : String) (budget : Int64) :
    let full := (planCycle broker log settings previous budget).run s
    let fair := (planCycle broker.restricted log settings previous budget).run s
    let heard := broker.exchanges s full.calls
    (Unfit log previous → full.calls = [] ∧ fair.calls = [] ∧
      ∃ e, e.failure.kind = .malformedCheckpoint ∧ full.result = .error e ∧
        fair.result = .error e) ∧
    ∀ c, readCheckpoint log previous = .ok c →
      (Unbiased c.offsets heard → fair.calls = full.calls ∧
        (Harmless c.offsets heard → fair.result = full.result) ∧
        ∀ plan, full.result = .ok plan → (fair.result = .ok plan ↔ Harmless c.offsets heard)) ∧
      (¬ Unbiased c.offsets heard → ∀ plan plan', full.result = .ok plan →
        fair.result = .ok plan' → ∀ r ∈ plan.ranges, ∀ r' ∈ plan'.ranges,
          r.partition = r'.partition →
            (Protocol.opening heard).get? r.partition = some r.start ∧
              ∀ offset, c.offsets.get? r.partition = some offset → r'.start = offset) := by
  intro full fair heard
  refine ⟨fun hunfit => ?_, fun c hread => ⟨same_of_unbiased hread, ?_⟩⟩
  · rcases readCheckpoint_cases log previous with ⟨-, e, hread, hkind⟩ | ⟨hfit, -⟩
    · have hfull : full = ⟨.error e, s, [], []⟩ :=
        run_planCycle_of_error broker s hread settings budget
      have hfair : fair = ⟨.error e, s, [], []⟩ :=
        run_planCycle_of_error broker.restricted s hread settings budget
      rw [hfull, hfair]
      exact ⟨rfl, rfl, e, hkind, rfl, rfl⟩
    · exact absurd hunfit hfit
  · intro hbiased plan plan' hplan hplan' r hr r' hr' hpartition
    exact starts_of_not_unbiased hread hbiased hplan hplan' hr hr' hpartition

/-- A broker with one partition and the answers that are scripted for it. -/
def ordersScripted (earliest latest : Script OffsetTable) : Memory :=
  { Memory.ofPartitions "orders" (.ofList [(0, (5, 9))]) with
    earliestScript := earliest
    latestScript := latest }

/-- Partition 4 is not listed. It does no harm as long as it is not in the checkpoint either. -/
theorem planCycle_restricted_orders :
    let orders := ordersScripted [some (.ok (.ofList [(⟨"orders", 0⟩, 5), (⟨"orders", 4⟩, 2)]))] []
    let full := fun previous => (planCycle Memory.broker "orders" .standard previous 100).run orders
    let fair := fun previous =>
      (planCycle Memory.broker.restricted "orders" .standard previous 100).run orders
    let plan : Plan := ⟨[⟨⟨"orders", 0⟩, 7, 9⟩], "orders,0:9"⟩
    (full "orders,0:7").result = .ok plan ∧ (fair "orders,0:7").result = .ok plan ∧
      (full "orders,0:7,4:1").result = .ok ⟨[⟨⟨"orders", 0⟩, 5, 9⟩], "orders,0:9"⟩ ∧
      (fair "orders,0:7,4:1").result = .ok plan ∧
      (Protocol.opening (Memory.broker.exchanges orders (full "orders,0:7,4:1").calls)).get?
        ⟨"orders", 0⟩ = some 5 := by
  intro orders full fair plan
  have hread : readCheckpoint "orders" "orders,0:7" =
      .ok ⟨"orders", .ofList [(⟨"orders", 0⟩, 7)]⟩ := by decide +kernel
  have hread' : readCheckpoint "orders" "orders,0:7,4:1" =
      .ok ⟨"orders", .ofList [(⟨"orders", 0⟩, 7), (⟨"orders", 4⟩, 1)]⟩ := by decide +kernel
  have hplan : (full "orders,0:7").result = .ok plan := by decide +kernel
  have hfull : (full "orders,0:7,4:1").result =
      .ok ⟨[⟨⟨"orders", 0⟩, 5, 9⟩], "orders,0:9"⟩ := by decide +kernel
  have hfair : (fair "orders,0:7,4:1").result = .ok plan := by decide +kernel
  have hcalls : (full "orders,0:7").calls = [.list "orders", .earliest (.ofList [⟨"orders", 0⟩]),
      .latest (.ofList [⟨"orders", 0⟩])] := by decide +kernel
  -- Behind the first two answers only the ends are reported, and these regularly.
  have hheard : Memory.broker.exchanges orders (full "orders,0:7").calls =
      [.list "orders" (.ok (orders.listed "orders")),
        .earliest (.ofList [⟨"orders", 0⟩])
          (.ok (.ofList [(⟨"orders", 0⟩, 5), (⟨"orders", 4⟩, 2)])),
        .latest (.ofList [⟨"orders", 0⟩])
          (.ok (orders.reported (·.2) (.ofList [⟨"orders", 0⟩])))] := by
    rw [hcalls]
    rfl
  have hfresh : ¬ Stale (.ofList [(⟨"orders", 0⟩, 7)])
      (.ofList [(⟨"orders", 0⟩, 5), (⟨"orders", 4⟩, 2)]) := by decide +kernel
  have hbiased : ¬ Unbiased (.ofList [(⟨"orders", 0⟩, 7), (⟨"orders", 4⟩, 1)])
      (Memory.broker.exchanges orders (full "orders,0:7,4:1").calls) := by
    unfold Unbiased
    decide +kernel
  obtain ⟨-, hfit⟩ :=
    planCycle_restricted Memory.broker orders "orders" .standard "orders,0:7" 100
  obtain ⟨-, hfit'⟩ :=
    planCycle_restricted Memory.broker orders "orders" .standard "orders,0:7,4:1" 100
  obtain ⟨-, -, hsame⟩ := (hfit _ hread).1 fun hstale => absurd hstale (hheard ▸ hfresh)
  refine ⟨hplan, (hsame plan hplan).2 ⟨?_, ?_⟩, hfull, hfair, ?_⟩
  · intro p _ asked answer offset hmem
    rw [hheard] at hmem
    cases List.mem_singleton.1 hmem
  · intro asked answer hmem p hp
    rw [hheard] at hmem
    obtain ⟨⟩ := List.mem_singleton.1 hmem
    exact Memory.contains_of_reported hp
  · exact ((hfit' _ hread').2 hbiased _ _ hfull hfair _ (List.mem_singleton.2 rfl) _
      (List.mem_singleton.2 rfl) rfl).1

/-- A broker that reports more than it is asked for changes the plan. A partition that is not listed
gets a range where the broker reports an end of it, and it makes the checkpoint stale where the
broker reports an earliest offset above that of the checkpoint. A partition that has a start gets
another one where the broker reports it next to that of a new partition. -/
theorem planCycle_takes_surplus :
    let added := ordersScripted [] [some (.ok (.ofList [(⟨"orders", 0⟩, 9), (⟨"orders", 4⟩, 2)]))]
    let stale := ordersScripted [some (.ok (.ofList [(⟨"orders", 0⟩, 5), (⟨"orders", 4⟩, 2)]))] []
    let moved := { Memory.ofPartitions "orders" (.ofList [(0, (5, 9)), (1, (2, 3))]) with
      earliestScript := [none, some (.ok (.ofList [(⟨"orders", 0⟩, 8), (⟨"orders", 1⟩, 2)]))] }
    let earliest : PlannerSettings := ⟨100, .latest, .earliest⟩
    ((planCycle Memory.broker "orders" .standard "orders,0:7" 100).run added).result =
        .ok ⟨[⟨⟨"orders", 0⟩, 7, 9⟩, ⟨⟨"orders", 4⟩, 0, 2⟩], "orders,0:9,4:2"⟩ ∧
      ((planCycle Memory.broker.restricted "orders" .standard "orders,0:7" 100).run added).result =
        .ok ⟨[⟨⟨"orders", 0⟩, 7, 9⟩], "orders,0:9"⟩ ∧
      ((planCycle Memory.broker "orders" .standard "orders,0:7,4:1" 100).run stale).result =
        .ok ⟨[⟨⟨"orders", 0⟩, 5, 9⟩], "orders,0:9"⟩ ∧
      ((planCycle Memory.broker.restricted "orders" .standard "orders,0:7,4:1" 100).run
        stale).result = .ok ⟨[⟨⟨"orders", 0⟩, 7, 9⟩], "orders,0:9"⟩ ∧
      ((planCycle Memory.broker "orders" earliest "orders,0:7" 100).run moved).result =
        .ok ⟨[⟨⟨"orders", 0⟩, 8, 9⟩, ⟨⟨"orders", 1⟩, 2, 3⟩], "orders,0:9,1:3"⟩ ∧
      ((planCycle Memory.broker.restricted "orders" earliest "orders,0:7" 100).run moved).result =
        .ok ⟨[⟨⟨"orders", 0⟩, 7, 9⟩, ⟨⟨"orders", 1⟩, 2, 3⟩], "orders,0:9,1:3"⟩ := by
  refine ⟨?_, ?_, ?_, ?_, ?_, ?_⟩ <;> decide +kernel

end LogIntake
