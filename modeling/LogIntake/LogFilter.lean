import LogIntake.LogFilter.Directive

/-!
# Which events are logged

An event is logged if it is important enough. How important that is depends on where it comes
from and on what goes with it: a filter has a threshold for each of some selectors, and the most
specific one that fits an event decides. The filter is written as a list of directives with commas
between them, such as `offsetgen_core=off,warn`.

## Main definitions

- `LogFilter.ofText`: the filter that is written as a text.
- `LogFilter.passes`: whether an event is logged.
-/

namespace LogIntake

/-- Thresholds by what events have to be like. -/
abbrev LogFilter : Type := Table Selector Threshold

namespace LogFilter

/-- The filter with one threshold for all events. -/
def uniform (threshold : Threshold) : LogFilter := .ofList [(.any, threshold)]

/-- The filter of some directives, of which a later one replaces an earlier one of its selector.
Without any, a standard decides for all events. -/
def ofDirectives (standard : Threshold) (directives : List Directive) : LogFilter :=
  if directives.isEmpty then uniform standard else .ofList (directives.filterMap Directive.entry?)

/-- Reads a list of directives and leaves out those that are not understood. -/
def ofText (standard : Level) (s : String) : LogFilter :=
  ofDirectives (.least standard) ((s.toList.splitOn ',').filterMap Directive.ofText?)

/-- The threshold for an event: the one of the last selector in order that fits. Scopes that fit
are each the beginning of the next one in order, so the last one is the longest. -/
def threshold (filter : LogFilter) (event : Event) : Threshold :=
  let fitting := filter.filter fun selector _ => selector.fits event
  (fitting.entries.getLast?.map (·.2)).getD .off

def passes (filter : LogFilter) (event : Event) : Bool :=
  (filter.threshold event).allows event.level

end LogFilter

end LogIntake
