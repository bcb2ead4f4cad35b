import BracketToken.Response
import Mathlib.Data.List.Basic

/-!
What the library logs.

Readers, resolution and responses log for debugging only, however they end. Failures and reports
are for the commands to log.
-/

namespace BracketToken

open Calendar

/-- What a log shows of an event, but for its time and its place. -/
structure Shown where
  level : Log.Level
  message : String
  fields : List (String × String)
  deriving DecidableEq

def Event.shown (e : Event) : Shown := ⟨e.level, e.message, e.fields⟩

/-- What follows without a word adds nothing. -/
theorem Traced.events_bind_of_silent {ε α β : Type} {first : Traced ε α} {next : α → Traced ε β}
    (h : ∀ a, (next a).events = []) : (first >>= next).events = first.events := by
  rw [Traced.events_bind]
  cases first.outcome with
  | ok a => exact (congrArg (first.events ++ ·) (h a)).trans (List.append_nil _)
  | error e => exact List.append_nil _

def OnlyDebug (events : List Event) : Prop := ∀ e ∈ events, e.level = .debug

/-- The failures that are logged. -/
def failures (events : List Event) : List Event := events.filter (·.level = .error)

namespace OnlyDebug

theorem nil : OnlyDebug [] := List.forall_mem_nil _

theorem cons {event : Event} {events : List Event} (h : event.level = .debug)
    (hs : OnlyDebug events) : OnlyDebug (event :: events) := List.forall_mem_cons.2 ⟨h, hs⟩

theorem append {first second : List Event} (hf : OnlyDebug first) (hs : OnlyDebug second) :
    OnlyDebug (first ++ second) := List.forall_mem_append.2 ⟨hf, hs⟩

theorem bind {ε α β : Type} {first : Traced ε α} {next : α → Traced ε β}
    (hf : OnlyDebug first.events) (hn : ∀ a, OnlyDebug (next a).events) :
    OnlyDebug (first >>= next).events := by
  rw [Traced.events_bind]
  apply hf.append
  cases first.outcome with
  | ok a => exact hn a
  | error e => exact nil

theorem log_bind {ε β : Type} {event : Event} {next : Unit → Traced ε β}
    (h : event.level = .debug) (hn : OnlyDebug (next ()).events) :
    OnlyDebug ((Traced.log event : Traced ε Unit) >>= next).events := bind (cons h nil) fun _ => hn

theorem failures_eq_nil {events : List Event} (h : OnlyDebug events) : failures events = [] := by
  rw [failures, List.filter_eq_nil_iff]
  intro e he
  simp [h e he]

/-- A failure after events for debugging is the only one. -/
theorem failures_append {events : List Event} (h : OnlyDebug events) (message : String) :
    failures (events ++ [.refusal message]) = [.refusal message] := by
  have hfirst := h.failures_eq_nil
  unfold failures at hfirst ⊢
  rw [List.filter_append, hfirst]
  rfl

end OnlyDebug

namespace DateToken

theorem onlyDebug_read (token : String) : OnlyDebug (read token).events := by
  apply OnlyDebug.log_bind rfl
  cases Bracket.inner? token.toList with
  | none => exact OnlyDebug.nil
  | some body =>
      dsimp only
      rw [ofBody]
      cases Anchor.split? body with
      | none => exact OnlyDebug.log_bind rfl OnlyDebug.nil
      | some parts => exact OnlyDebug.log_bind rfl OnlyDebug.nil

theorem onlyDebug_adjust (date : Date) (adjustments : List Adjustment) :
    OnlyDebug (adjust date adjustments).events := by
  induction adjustments generalizing date with
  | nil => exact OnlyDebug.nil
  | cons a rest ih =>
      rw [adjust]
      cases a.apply? date with
      | none => exact OnlyDebug.nil
      | some next => exact OnlyDebug.log_bind rfl (ih next)

theorem onlyDebug_resolve (tree : DateToken) (today : Date) :
    OnlyDebug (tree.resolve today).events := by
  refine OnlyDebug.bind ?_ fun _ => OnlyDebug.nil
  cases tree with
  | relative anchor adjustments =>
      apply OnlyDebug.bind OnlyDebug.nil
      intro start
      exact OnlyDebug.bind (onlyDebug_adjust start adjustments) fun _ => OnlyDebug.nil
  | monthBoundary boundary => exact OnlyDebug.nil

theorem onlyDebug_evaluate (token : String) (now : Instant) :
    OnlyDebug (evaluate token now).events := by
  apply OnlyDebug.bind (onlyDebug_read token)
  intro tree
  apply OnlyDebug.bind (onlyDebug_resolve tree now.date)
  intro instant
  exact OnlyDebug.log_bind rfl OnlyDebug.nil

end DateToken

namespace DateRange

theorem onlyDebug_half (token : String) (body : List Char) :
    OnlyDebug (half token body).events := by
  rw [half]
  cases boundaryInstant token body with
  | ok instant => exact OnlyDebug.nil
  | error e => exact OnlyDebug.log_bind rfl OnlyDebug.nil

theorem onlyDebug_read (token : String) : OnlyDebug (read token).events := by
  apply OnlyDebug.log_bind rfl
  cases Bracket.inner? token.toList with
  | none => exact OnlyDebug.nil
  | some body =>
      dsimp only
      split
      · apply OnlyDebug.bind (onlyDebug_half token _)
        intro start
        exact OnlyDebug.bind (onlyDebug_half token _) fun _ => OnlyDebug.nil
      · exact OnlyDebug.log_bind rfl OnlyDebug.nil

end DateRange

namespace StringToken

theorem onlyDebug_read (token : String) : OnlyDebug (read token).events := by
  apply OnlyDebug.log_bind rfl
  cases Bracket.inner? token.toList with
  | none => exact OnlyDebug.nil
  | some body =>
      apply OnlyDebug.bind OnlyDebug.nil
      intro request
      exact OnlyDebug.log_bind rfl OnlyDebug.nil

theorem onlyDebug_drawText {σ : Type} (source : IndexSource σ) (token : String) (s : σ) :
    OnlyDebug (drawText source token s).1.events := by
  have hread := onlyDebug_read token
  rw [drawText]
  cases (read token).outcome with
  | ok r => exact hread.append (OnlyDebug.nil.cons rfl)
  | error e => exact hread

end StringToken

namespace Response

theorem onlyDebug_ofDate (token : String) (now : Instant) :
    OnlyDebug (ofDate token now).events := by
  have hevaluate := DateToken.onlyDebug_evaluate token now
  unfold ofDate
  split
  · exact OnlyDebug.nil
  · dsimp only
    cases (DateToken.evaluate token now).outcome with
    | ok instant => exact hevaluate.append (OnlyDebug.nil.cons rfl)
    | error e => exact hevaluate.append (OnlyDebug.nil.cons rfl)

theorem onlyDebug_ofRange (token : String) : OnlyDebug (ofRange token).events := by
  have hread := DateRange.onlyDebug_read token
  unfold ofRange
  split
  · exact OnlyDebug.nil
  · dsimp only
    cases (DateRange.read token).outcome with
    | ok range => exact hread
    | error e => exact hread.append (OnlyDebug.nil.cons rfl)

theorem onlyDebug_ofString {σ : Type} (source : StringToken.IndexSource σ) (token : String)
    (s : σ) : OnlyDebug (ofString source token s).1.events := by
  have hdraw := StringToken.onlyDebug_drawText source token s
  unfold ofString
  split
  · exact OnlyDebug.nil
  · dsimp only
    cases (StringToken.drawText source token s).1.outcome with
    | ok text => exact hdraw.append (OnlyDebug.nil.cons rfl)
    | error e => exact hdraw.append (OnlyDebug.nil.cons rfl)

end Response

end BracketToken
