import DownloadSite.Log.Directive

/-!
# Log filters

A filter is a list of directives. For an event the most specific one that speaks about it counts, and of
several that are equally specific the last. What no directive speaks about is not written.
-/

namespace DownloadSite.Log

/-- The directives in the order in which they are given. -/
abbrev Filter := List Directive

/-- Takes the next directive if it counts more than the best one before it. -/
def Directive.better (event : Event) (best : Option Directive) (next : Directive) :
    Option Directive :=
  if next.covers event then
    match best with
    | none => some next
    | some best => if best.isAtMost next then some next else some best
  else best

def Filter.pick (filter : Filter) (event : Event) : Option Directive :=
  filter.foldl (Directive.better event) none

def Filter.allows (filter : Filter) (event : Event) : Bool :=
  match filter.pick event with
  | some directive => event.level.rank ≤ directive.rank
  | none => false

/-- The filter that counts unless another is asked for. -/
def Filter.default : Filter := [{ origin := "", rank := Level.info.rank }]

/-- The lines of the events that the filter lets through. -/
def Filter.lines (filter : Filter) (stamp : String) (events : List Event) : String :=
  String.join ((events.filter filter.allows).map (Event.line stamp))

end DownloadSite.Log
