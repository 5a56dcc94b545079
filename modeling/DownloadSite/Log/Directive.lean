import DownloadSite.Log.Event

/-!
# Log directives

A directive gives the least important events that are written for some parts of the program, those whose
names begin with some text. It may ask for a field that the event has to have. For an event, the directive
that is most specific counts: the one with the longest text, then one that asks for a field.
-/

namespace DownloadSite.Log

/-- What a directive asks of an event. -/
inductive Condition where
  | always
  /-- The event has a field of this name. -/
  | hasField (name : String)
  /-- The directive is about spans of events or about what they are entered with. There are none. -/
  | insideSpan
  deriving DecidableEq, Repr

/-- A level for some events. -/
structure Directive where
  /-- What the names of the parts of the program begin with; the empty text stands for all. -/
  origin : String
  condition : Condition := .always
  /-- The rank of the least important level; zero for none. -/
  rank : Nat
  deriving DecidableEq, Repr

def Condition.holds (condition : Condition) (event : Event) : Bool :=
  match condition with
  | .always => true
  | .hasField name => event.fieldNames.contains name
  | .insideSpan => false

def Directive.covers (directive : Directive) (event : Event) : Bool :=
  directive.origin.toList.isPrefixOf event.origin.toList && directive.condition.holds event

/-! ### Specificity -/

/-- Does a text come before another in the order of code points, or are they equal? -/
def isNotAfter : List Char → List Char → Bool
  | [], _ => true
  | _ :: _, [] => false
  | a :: as, b :: bs => a.toNat < b.toNat || (a = b && isNotAfter as bs)

/-- Is a condition at most as specific as another? Of two fields the one with the later name counts. -/
def Condition.isAtMost : Condition → Condition → Bool
  | .insideSpan, _ => true
  | _, .insideSpan => false
  | .always, _ => true
  | .hasField _, .always => false
  | .hasField a, .hasField b => isNotAfter a.toList b.toList

def Directive.isAtMost (directive other : Directive) : Bool :=
  directive.origin.length < other.origin.length
    || (directive.origin.length = other.origin.length
      && directive.condition.isAtMost other.condition)

theorem Directive.isAtMost_of_always {directive other : Directive}
    (h : directive.condition = .always) (h' : other.condition = .always) :
    directive.isAtMost other = decide (directive.origin.length ≤ other.origin.length) := by
  simp only [isAtMost, h, h', Condition.isAtMost, Bool.and_true, ← Bool.decide_or]
  exact decide_eq_decide.2 Nat.le_iff_lt_or_eq.symm

end DownloadSite.Log
