import LogIntake.Program
import LogIntake.Proofs.Json.Layouts

/-!
# The texts of plans

A plan is shown as a JSON text without blanks, as one in lines, and by the program as one in lines
with the end of a line behind it. Each of them has all of the plan: it has one value, from which
the plan can be read.

## Main definitions

- `Plan.ofJson?`, `Plan.read?`: the plan of a value and of a text.
- `Plan.RecordedIn`: a text that has all of a plan.
- `Plan.ShownAs`: the texts that a plan is shown as.

## Main statements

- `Plan.ofJson?_toJson`: the value of a plan is read as this plan.
- `Plan.recordedIn_of_text`: every text of the plan's value has all of it.
- `Plan.shown_texts_lossless`: so have the texts it is shown as, and no two plans share one.
-/

namespace LogIntake

namespace Json

/-- The value of the first member with a key. -/
def member? (key : String) : Json → Option Json
  | .object members => members.lookup key
  | _ => none

def items? : Json → Option (List Json)
  | .list items => some items
  | _ => none

def string? : Json → Option String
  | .string s => some s
  | _ => none

/-- An integer that fits its field. -/
def integer? (b : Decimal.Bounds) : Json → Option Int
  | .integer n => if b.Holds n then some n else none
  | _ => none

theorem integer?_int32 (i : Int32) : integer? .signed32 (.integer i.toInt) = some i.toInt :=
  if_pos ⟨i.le_toInt, Int.le_of_lt_add_one i.toInt_lt⟩

theorem integer?_int64 (o : Int64) : integer? .signed64 (.integer o.toInt) = some o.toInt :=
  if_pos ⟨o.le_toInt, Int.le_of_lt_add_one o.toInt_lt⟩

end Json

namespace Plan

/-! ## Reading plans -/

def partitionOfJson? (v : Json) : Option Partition := do
  let log ← (← v.member? "log_name").string?
  let index ← (← v.member? "partition").integer? .signed32
  return ⟨log, .ofInt index⟩

def rangeOfJson? (v : Json) : Option OffsetRange := do
  let partition ← partitionOfJson? (← v.member? "partition")
  let start ← (← v.member? "from").integer? .signed64
  let stop ← (← v.member? "until").integer? .signed64
  return ⟨partition, .ofInt start, .ofInt stop⟩

def ofJson? (v : Json) : Option Plan := do
  let items ← (← v.member? "ranges").items?
  let ranges ← items.mapM rangeOfJson?
  let checkpoint ← (← v.member? "checkpoint").string?
  return ⟨ranges, checkpoint⟩

/-- The plan of a JSON text. -/
def read? (cs : List Char) : Option Plan := (Json.read? cs).bind ofJson?

theorem rangeOfJson?_rangeJson (r : OffsetRange) : rangeOfJson? (rangeJson r) = some r := by
  have hpartition : partitionOfJson? (.object [("log_name", .string r.partition.log),
      ("partition", .integer r.partition.index.toInt)]) = some r.partition := by
    show (do
      let index ← Json.integer? .signed32 (.integer r.partition.index.toInt)
      return (⟨r.partition.log, .ofInt index⟩ : Partition)) = _
    rw [Json.integer?_int32, Option.bind_eq_bind, Option.bind_some, Int32.ofInt_toInt]
    rfl
  show (do
    let partition ← partitionOfJson? (.object [("log_name", .string r.partition.log),
      ("partition", .integer r.partition.index.toInt)])
    let start ← Json.integer? .signed64 (.integer r.start.toInt)
    let stop ← Json.integer? .signed64 (.integer r.stop.toInt)
    return (⟨partition, .ofInt start, .ofInt stop⟩ : OffsetRange)) = _
  rw [hpartition, Json.integer?_int64, Json.integer?_int64]
  simp only [Option.bind_eq_bind, Option.bind_some, Int64.ofInt_toInt]
  rfl

theorem mapM_rangeOfJson? (ranges : List OffsetRange) :
    (ranges.map rangeJson).mapM rangeOfJson? = some ranges := by
  induction ranges with
  | nil => rfl
  | cons r rest ih =>
    rw [List.map_cons, List.mapM_cons, rangeOfJson?_rangeJson, ih]
    rfl

/-- The value of a plan is read as this plan. -/
theorem ofJson?_toJson (plan : Plan) : ofJson? plan.toJson = some plan := by
  show (do
    let ranges ← (plan.ranges.map rangeJson).mapM rangeOfJson?
    return (⟨ranges, plan.checkpoint⟩ : Plan)) = _
  rw [mapM_rangeOfJson?]
  rfl

/-! ## Texts that have all of a plan -/

/-- A JSON text with the value of a plan and no other, which is read as this plan. -/
structure RecordedIn (plan : Plan) (cs : List Char) : Prop where
  text_iff : ∀ v, Json.Text cs v ↔ v = plan.toJson
  read?_eq : read? cs = some plan

variable {plan other : Plan} {cs : List Char}

theorem recordedIn_of_text (h : Json.Text cs plan.toJson) : plan.RecordedIn cs where
  text_iff v := by
    constructor
    · intro hv
      exact hv.unique h
    · rintro rfl
      exact h
  read?_eq := by
    rw [read?, Json.read?_eq_some_iff.2 h]
    exact ofJson?_toJson plan

/-- The texts that a plan is shown as. -/
inductive ShownAs (plan : Plan) : List Char → Prop
  | compact : ShownAs plan plan.toJson.compact
  | pretty : ShownAs plan plan.toJson.pretty
  /-- What the program prints in a run that came to the plan. -/
  | printed (events : List Event) : ShownAs plan (Run.output ⟨.ok plan, events⟩).toList

theorem text_output (plan : Plan) (events : List Event) :
    Json.Text (Run.output ⟨.ok plan, events⟩).toList plan.toJson := by
  show Json.Text (String.ofList (plan.toJson.pretty ++ ['\n'])).toList plan.toJson
  rw [String.toList_ofList]
  exact Json.text_pretty_append plan.toJson (by simp [Json.blanks])

theorem ShownAs.recordedIn (h : plan.ShownAs cs) : plan.RecordedIn cs := by
  cases h with
  | compact => exact recordedIn_of_text (Json.text_compact plan.toJson)
  | pretty => exact recordedIn_of_text (Json.text_pretty plan.toJson)
  | printed events => exact recordedIn_of_text (text_output plan events)

theorem ShownAs.unique (h : plan.ShownAs cs) (h' : other.ShownAs cs) : plan = other := by
  have hread := h.recordedIn.read?_eq
  rw [h'.recordedIn.read?_eq] at hread
  exact (Option.some.inj hread).symm

/-- The text without blanks, the lines and what the program prints are JSON texts of one value, and
each of them is read as the plan. Different plans are never shown as the same text. -/
theorem shown_texts_lossless (plan : Plan) :
    (plan.RecordedIn plan.toJson.compact ∧ plan.RecordedIn plan.toJson.pretty ∧
      ∀ events, plan.RecordedIn (Run.output ⟨.ok plan, events⟩).toList) ∧
    ∀ other : Plan, (∃ cs, plan.ShownAs cs ∧ other.ShownAs cs) ↔ plan = other := by
  refine ⟨⟨ShownAs.compact.recordedIn, ShownAs.pretty.recordedIn, fun events =>
    (ShownAs.printed events).recordedIn⟩, fun other => ?_⟩
  constructor
  · rintro ⟨cs, hplan, hother⟩
    exact hplan.unique hother
  · rintro rfl
    exact ⟨_, .compact, .compact⟩

end Plan

end LogIntake
