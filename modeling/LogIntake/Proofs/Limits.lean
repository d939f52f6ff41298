import LogIntake.Program
import LogIntake.Proofs.Text.Numeral

/-!
# Limits

How much a cycle of the program may plan at most is said twice: by the settings of the planner,
and by the command line. Reading either of them refuses a negative number, so that the budget of a
run is never negative.

## Main statements

- `PlannerSettings.maxEvents_pos_of_load`: settings allow at least one record.
- `PlanRequest.limit_nonneg_of_ofArguments`: a source takes no negative number of records.
- `budget_nonneg`: the budget of a run is not negative.
-/

namespace LogIntake

/-! ## Steps of which each may fail -/

section Steps

variable {ε α β : Type}

theorem bind_eq_ok_iff {x : Except ε α} {f : α → Except ε β} {b : β} :
    x >>= f = .ok b ↔ ∃ a, x = .ok a ∧ f a = .ok b := by
  cases x with
  | error e => exact ⟨nofun, nofun⟩
  | ok a =>
    constructor
    · exact fun h => ⟨a, rfl, h⟩
    · rintro ⟨_, ⟨⟩, h⟩
      exact h

theorem map_eq_ok_iff {x : Except ε α} {f : α → β} {b : β} :
    x.map f = .ok b ↔ ∃ a, x = .ok a ∧ f a = b := by
  cases x with
  | error e => exact ⟨nofun, nofun⟩
  | ok a =>
    constructor
    · rintro ⟨⟩
      exact ⟨a, rfl, rfl⟩
    · rintro ⟨_, ⟨⟩, rfl⟩
      rfl

end Steps

/-- A word read from a numeral is the number of the numeral. -/
theorem toInt_of_read {cs : List Char} {n : Int} (h : Decimal.read .signed64 cs = .ok n) :
    (Int64.ofInt n).toInt = n :=
  Word.toInt_ofInt ((Decimal.read_eq_ok_iff .signed64).1 h).2.1

/-! ## The limit of the settings -/

namespace PlannerSettings

theorem readLimit_pos {s : String} {n : Int64} (h : readLimit s = .ok n) : 0 < n := by
  rw [readLimit] at h
  split at h
  · cases h
  next hread =>
    split at h
    · cases h
    next hpos =>
      cases h
      rw [Int64.lt_iff_toInt_lt, toInt_of_read hread]
      exact Int.not_le.1 hpos

/-- Settings allow at least one record in a cycle. -/
theorem maxEvents_pos_of_load {env : Environment} {settings : PlannerSettings}
    (h : load env = .ok settings) : 0 < settings.maxEvents := by
  rw [load] at h
  obtain ⟨maxEvents, hmax, h⟩ := bind_eq_ok_iff.1 h
  obtain ⟨reset, -, h⟩ := bind_eq_ok_iff.1 h
  obtain ⟨discovered, -, h⟩ := bind_eq_ok_iff.1 h
  cases h
  rw [readOr] at hmax
  split at hmax
  · exact readLimit_pos hmax
  · cases hmax
    exact (by decide : 0 < standard.maxEvents)

end PlannerSettings

/-! ## The limit of the command line -/

namespace OptionValues

/-- No negative limit has been read. -/
def Sound (values : OptionValues) : Prop := ∀ n, values.limit = some n → 0 ≤ n

variable {values values' : OptionValues}

theorem sound_empty : empty.Sound := fun _ h => nomatch h

theorem readLimit_nonneg {s : String} {n : Int64} (h : readLimit s = .ok n) : 0 ≤ n := by
  rw [readLimit] at h
  split at h
  next hread =>
    split at h
    · cases h
    next hnonneg =>
      cases h
      rw [Int64.le_iff_toInt_le, toInt_of_read hread]
      exact Int.not_lt.1 hnonneg
  · cases h

theorem fill_eq_ok_iff {α : Type} {old filled : Option α} {new : Except UsageError α} :
    fill old new = .ok filled ↔ old = none ∧ ∃ a, new = .ok a ∧ some a = filled := by
  cases old with
  | some a => exact ⟨nofun, nofun⟩
  | none => rw [fill, map_eq_ok_iff, eq_self, true_and]

theorem Sound.take (h : values.Sound) {option : PlanOption} {value : String}
    (htake : values.take option value = .ok values') : values'.Sound := by
  cases option with
  | topic =>
    obtain ⟨topic, -, rfl⟩ := map_eq_ok_iff.1 htake
    exact h
  | checkpoint =>
    obtain ⟨checkpoint, -, rfl⟩ := map_eq_ok_iff.1 htake
    exact h
  | limit =>
    obtain ⟨limit, hfill, rfl⟩ := map_eq_ok_iff.1 htake
    obtain ⟨-, n, hread, rfl⟩ := fill_eq_ok_iff.1 hfill
    rintro _ ⟨⟩
    exact readLimit_nonneg hread

theorem Sound.settle (h : values.Sound) {opened : Option OpenOption}
    (hsettle : values.settle opened = .ok values') : values'.Sound := by
  match opened with
  | none =>
    cases hsettle
    exact h
  | some (_, none) => cases hsettle
  | some (option, some value) => exact h.take hsettle

/-- At the end of the arguments the last open option is completed. -/
theorem Sound.request (h : values.Sound) {opened : Option OpenOption} {request : PlanRequest}
    (hrequest : (values.settle opened >>= OptionValues.request) = .ok request) {n : Int64}
    (hlimit : request.limit = some n) : 0 ≤ n := by
  obtain ⟨settled, hsettle, hrequest⟩ := bind_eq_ok_iff.1 hrequest
  rw [OptionValues.request] at hrequest
  split at hrequest
  · cases hrequest
    exact h.settle hsettle n hlimit
  · cases hrequest

end OptionValues

namespace PlanRequest

variable {request : PlanRequest} {n : Int64}

/-- What is read behind sound values is sound, too. -/
theorem limit_nonneg_of_readOptions {values : OptionValues} {opened : Option OpenOption}
    {args : List String} (hvalues : values.Sound)
    (h : readOptions values opened args = .ok request) (hlimit : request.limit = some n) :
    0 ≤ n := by
  fun_induction readOptions values opened args
  -- the end of the arguments
  case case1 | case2 => exact hvalues.request h hlimit
  -- an option whose value is still to come
  case case7 ih =>
    obtain ⟨settled, hsettle, h⟩ := bind_eq_ok_iff.1 h
    exact ih settled (hvalues.settle hsettle) h
  -- an option with its value
  case case8 ih =>
    obtain ⟨settled, hsettle, h⟩ := bind_eq_ok_iff.1 h
    obtain ⟨taken, htake, h⟩ := bind_eq_ok_iff.1 h
    exact ih taken ((hvalues.settle hsettle).take htake) h
  -- the value of the open option
  case case11 ih => exact ih hvalues h
  case case4 | case9 =>
    obtain ⟨settled, -, h⟩ := bind_eq_ok_iff.1 h
    cases h
  all_goals cases h

/-- A well-formed command line has no negative limit. -/
theorem limit_nonneg_of_ofArguments {args : List String} (h : ofArguments args = .ok request)
    (hlimit : request.limit = some n) : 0 ≤ n := by
  rw [ofArguments.eq_def] at h
  split at h
  · cases h
  · split at h
    · exact limit_nonneg_of_readOptions OptionValues.sound_empty h hlimit
    · split at h
      · cases h
      · split at h <;> cases h

end PlanRequest

/-! ## The budget of a run -/

/-- A run without a limit has the greatest one, and the smaller of two limits is a limit. -/
theorem budget_nonneg {args : List String} {request : PlanRequest} {env : Environment}
    {settings : PlannerSettings} (hrequest : PlanRequest.ofArguments args = .ok request)
    (hsettings : PlannerSettings.load env = .ok settings) :
    0 ≤ min settings.maxEvents (Run.limit request) := by
  have hlimit : 0 ≤ Run.limit request := by
    rw [Run.limit]
    cases h : request.limit with
    | none => decide
    | some n => exact PlanRequest.limit_nonneg_of_ofArguments hrequest h
  have hmax := PlannerSettings.maxEvents_pos_of_load hsettings
  rw [Int64.le_iff_toInt_le] at hlimit ⊢
  rw [Int64.lt_iff_toInt_lt] at hmax
  rw [Word.toInt_min]
  exact Int.le_min.2 ⟨Int.le_of_lt hmax, hlimit⟩

end LogIntake
