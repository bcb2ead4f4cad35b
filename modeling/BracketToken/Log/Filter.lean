import BracketToken.Log.Directive

/-!
Filters: which events a log shows.

Of the directives that speak of an event the most specific one decides, and of several such the
last. What no directive speaks of is not shown.
-/

namespace BracketToken.Log

/-- The threshold for a level as settings write it. A text that names none counts as `unknown`. -/
def thresholdFor (level : String) (unknown : Threshold) : Threshold :=
  (Threshold.read? level).getD unknown

structure Filter where
  directives : List Directive

namespace Filter

/-- The given directives, or where there is none, one threshold for everything. -/
def ofDirectives (fallback : Threshold) (given : List Directive) : Filter :=
  ⟨if given.isEmpty then [.ofThreshold fallback] else given⟩

/-- The directive that decides after `best` and the directives. -/
def decidingFrom (e : Event) (best : Option Directive) : List Directive → Option Directive
  | [] => best
  | d :: rest =>
    if !d.selects e || best.any (·.outranks d) then decidingFrom e best rest
    else decidingFrom e (some d) rest

def deciding (f : Filter) (e : Event) : Option Directive := decidingFrom e none f.directives

def passes (f : Filter) (e : Event) : Bool :=
  match f.deciding e with
  | none => false
  | some d => d.threshold.passes e.level

end Filter

end BracketToken.Log
