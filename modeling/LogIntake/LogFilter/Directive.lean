import LogIntake.Event
import LogIntake.LogFilter.Layout
import LogIntake.Pattern
import LogIntake.Table
import LogIntake.Text.Number

/-!
# Directives of a filter

A directive gives a threshold to the events that it selects by the name of their origin and by a
field. It can also ask for a span of time in which events happen, or for a value of a field.

No event happens within a span, so a directive that asks for one is understood and yet selects no
event. The same holds of one that asks for a value, since values are only compared with those of
spans.

## Main definitions

- `Threshold`: the least level that is let through, or nothing at all.
- `Selector`: what events have to be like.
- `FieldQuery`: what is asked of a field.
- `Directive.ofText?`: the directive of a text.
-/

namespace LogIntake

open Std Text

/-- What is let through by its level. -/
inductive Threshold where
  /-- Nothing. -/
  | off
  /-- A level and all that are more important. -/
  | least (level : Level)
  deriving DecidableEq, Repr

namespace Threshold

def allows : Threshold → Level → Bool
  | .off, _ => false
  | .least l, level => l.rank ≤ level.rank

/-- All thresholds, from the strictest on. The place of a threshold is its number. -/
def all : List Threshold :=
  [.off, .least .error, .least .warn, .least .info, .least .debug, .least .trace]

def word : Threshold → String
  | .off => "OFF"
  | .least level => level.name

/-- The threshold of a word in any ASCII case, or of a number. -/
def ofText? (s : List Char) : Option Threshold :=
  match Decimal.read .unsigned64 s with
  | .ok n => all[n.toNat]?
  | .error _ => all.find? fun t => t.word = (String.ofList s).toUpper

end Threshold

/-- What events have to be like. An empty text asks for nothing. -/
structure Selector where
  /-- What the target of the origin starts with. -/
  scope : String
  /-- A field that the event has. -/
  field : String
  deriving DecidableEq, Repr

namespace Selector

/-- Selectors are ordered by scope and then by field. Of those that fit one event, a longer scope
comes later, and of those of one scope, one that asks for a field comes later. -/
instance : Ord Selector := ⟨compareLex (compareOn scope) (compareOn field)⟩

instance : TransOrd Selector :=
  inferInstanceAs (TransCmp (compareLex (compareOn scope) (compareOn field)))

theorem compare_eq_then (s t : Selector) :
    compare s t = (compare s.scope t.scope).then (compare s.field t.field) := rfl

instance : LawfulEqOrd Selector where
  compare_self := by
    intro s
    rw [compare_eq_then, Std.compare_self, Std.compare_self]
    rfl
  eq_of_compare := by
    intro s t h
    rw [compare_eq_then, Ordering.then_eq_eq] at h
    obtain ⟨sscope, sfield⟩ := s
    obtain ⟨tscope, tfield⟩ := t
    obtain rfl : sscope = tscope := LawfulEqCmp.eq_of_compare h.1
    obtain rfl : sfield = tfield := LawfulEqCmp.eq_of_compare h.2
    rfl

def any : Selector := ⟨"", ""⟩

/-- An event is like what is asked for. -/
def fits (selector : Selector) (event : Event) : Bool :=
  selector.scope.toList.isPrefixOf event.origin.target.toList &&
    (selector.field.isEmpty || event.fieldNames.contains selector.field)

end Selector

/-- What a directive asks of a field. -/
inductive FieldQuery where
  /-- Events have a field of this name. -/
  | named (name : String)
  /-- A field has a value. -/
  | valued
  deriving DecidableEq, Repr

namespace FieldQuery

/-- A value is a number or a pattern. -/
def isValue (cs : List Char) : Bool := isNumber cs || Pattern.isPattern cs

/-- Reads a name, or a name and a value with an equals sign between them. What follows another
equals sign does not count. -/
def ofText? (cs : List Char) : Option FieldQuery :=
  match cs.span (· ≠ '=') with
  | (name, []) => some (.named (.ofList name))
  | (_, _ :: rest) => if isValue (rest.takeWhile (· ≠ '=')) then some .valued else none

end FieldQuery

/-- One directive of a filter. -/
inductive Directive where
  /-- A threshold for selected events. -/
  | select (selector : Selector) (threshold : Threshold)
  /-- A directive that no event can meet. -/
  | idle
  deriving DecidableEq, Repr

namespace Directive

/-- The threshold of a level as it is written. It is the widest one where no level is written. -/
def thresholdOf? : Option (List Char) → Option Threshold
  | none => some (.least .trace)
  | some [] => some (.least .trace)
  | some level => Threshold.ofText? level

/-- A directive that is a name and nothing else: a threshold for all events, or what the names of
origins start with, for which all is let through. -/
def ofName (cs : List Char) : Directive :=
  match Threshold.ofText? cs with
  | some threshold => .select .any threshold
  | none => .select ⟨.ofList cs, ""⟩ (.least .trace)

/-- The directive of a field, where a span may be asked for as well. -/
def ofQuery (namesSpan : Bool) (scope : String) (threshold : Threshold) : FieldQuery → Directive
  | .named field => if namesSpan then .idle else .select ⟨scope, field⟩ threshold
  | .valued => .idle

/-- The directive with a layout. -/
def ofLayout? (layout : Layout) (cs : List Char) : Option Directive :=
  if layout.isPlain then
    some (ofName cs)
  else do
    let threshold ← thresholdOf? (layout.levelOf? cs)
    let query ← FieldQuery.ofText? ((layout.fieldOf? cs).getD [])
    return ofQuery layout.namesSpan (.ofList (layout.nameOf cs)) threshold query

def ofText? (cs : List Char) : Option Directive :=
  (Layout.read? (trim cs)).bind fun layout => ofLayout? layout cs

/-- What a directive gives to a filter. -/
def entry? : Directive → Option (Selector × Threshold)
  | .select selector threshold => some (selector, threshold)
  | .idle => none

end Directive

end LogIntake
