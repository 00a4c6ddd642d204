import Courier.Config
import Courier.Log.Directive

/-!
# Which lines a run shows

The settings of the log, by the variables of the environment, and the lines that are shown by them.
-/

namespace Courier

structure LogSettings where
  format : LogFormat
  spans : Bool
  directives : List LogDirective
  deriving DecidableEq, Repr

namespace LogSettings

/-- The directives of a text, without those that mean nothing; if none is left, only errors are
shown. -/
def directivesOf (text : String) : Except DirectiveFlaw (List LogDirective) := do
  let found ← ((text.splitOn ",").filter (· ≠ "")).filterMapM fun part =>
    match LogDirective.ofText part with
    | .ok d => .ok (some d)
    | .error .meaningless => .ok none
    | .error .broken => .error .broken
  return if found = [] then [⟨"", none, none, LogLevel.error.rank⟩] else found

/-- The settings of an environment, unless they break down. Where directives are given, they alone
decide about levels. -/
def ofEnvironment (env : Environment) : Except DirectiveFlaw LogSettings := do
  let directives ← match env.text? "RUST_LOG" with
    | some text => directivesOf text
    | none =>
      .ok [⟨"", none, none, (LogLevel.ofText ((env.text? "LOG_LEVEL").getD "INFO")).rank⟩]
  return {
    format := .ofText ((env.text? "LOG_FORMAT").getD "json")
    spans := asksForSpans ((env.text? "LOG_SPANS").getD "")
    directives }

/-- The directives about lines wherever they are said. Those that are about nothing else come
first. -/
def static (s : LogSettings) : List LogDirective :=
  let (dynamic, plain) := s.directives.partition (·.isDynamic)
  plain ++ dynamic.filter (·.isStatic)

/-- The directives about spans. One that is given again with another rank has the last. -/
def dynamic (s : LogSettings) : List LogDirective :=
  latest (s.directives.filter (·.isDynamic))
where
  latest : List LogDirective → List LogDirective
    | [] => []
    | d :: rest =>
      if rest.any fun e => { e with rank := d.rank } = d then latest rest else d :: latest rest

/-- The highest rank that may matter. That of spans always does where their values decide. -/
def horizon (s : LogSettings) : Nat :=
  if s.directives.any (·.asksForValue) then LogDirective.highest
  else (s.directives.map (·.rank)).foldl max 0

/-- The rank that the most specific directive about a line allows. -/
def staticRank (s : LogSettings) (line : LogLine) : Nat :=
  let best := (s.static.filter (·.covers line)).foldl (fun (best : Option LogDirective) d =>
    match best with
    | some b => if b.yields d then some d else best
    | none => some d) none
  best.elim 0 (·.rank)

/-- The rank that directives allow inside a span; `none` if they are not about it. -/
def spanRank? (s : LogSettings) (span : LogSpan) : Option Nat :=
  match s.dynamic.filter (·.watches span) with
  | [] => none
  | watching => some (((watching.filter (·.admits span)).map (·.rank)).foldl max 0)

/-- Whether spans are kept track of at all. -/
def tracksSpans (s : LogSettings) : Bool := LogSpan.level.rank ≤ s.horizon

/-- Whether a line of a level is let through inside some spans. -/
def opens (s : LogSettings) (within : List LogSpan) (level : LogLevel) : Bool :=
  s.tracksSpans && within.any fun span => (s.spanRank? span).any (level.rank ≤ ·)

def shows (s : LogSettings) (line : LogLine) : Bool :=
  let admitted := line.level.rank ≤ s.staticRank line || s.opens line.within line.level
  match line.about with
  | none => admitted
  | some span => s.spans && s.tracksSpans && ((s.spanRank? span).isSome || admitted)

end LogSettings

end Courier
