/-
This file holds the events that are logged. Events are data; their wording is here in one
place. How long a parse took is known only outside, so the wording takes it as an argument.
-/

import Rulebook.Parse.Statistics
import Rulebook.Text.Source

namespace Rulebook.Log

/-- How much detail an event belongs to. -/
inductive Level where
  | debug
  | trace
  deriving DecidableEq, Repr

/-- The name of a level. -/
def Level.label : Level → String
  | .debug => "DEBUG"
  | .trace => "TRACE"

/-- An event is shown at its own level and at every more detailed one. -/
def Level.shows : Level → Level → Bool
  | .debug, .trace => false
  | _, _ => true

/-- Something worth logging. -/
inductive Event where
  /-- A rule is about to be tried. -/
  | tried (position : Position) (depth : Nat) (rule : String)
  /-- A rule matched. -/
  | matched (position : Position) (depth : Nat) (rule : String)
  /-- An optional item matched nothing. -/
  | omitted (depth : Nat)
  /-- A parse succeeded. -/
  | finished (grammar : String) (statistics : Statistics)
  /-- A grammar was published under a new name. -/
  | registered (grammar : String) (ruleCount : Nat)
  /-- A grammar was published in place of another. -/
  | replaced (grammar : String)
  deriving DecidableEq, Repr

/-- The level of an event. -/
def Event.level : Event → Level
  | .tried .. | .matched .. | .omitted _ => .trace
  | .finished .. | .registered .. | .replaced _ => .debug

/-- An event in words. -/
def Event.message (elapsed : String) : Event → String
  | .tried position depth rule =>
    "[" ++ position.render ++ "]" ++ Source.spaces depth ++ rule ++ " ?"
  | .matched position depth rule =>
    "[" ++ position.render ++ "]" ++ Source.spaces depth ++ rule ++ " V"
  | .omitted depth => Source.spaces depth ++ "-"
  | .finished grammar statistics =>
    "Finished parsing '" ++ grammar ++ "' in " ++ elapsed ++ ". Stats: " ++ statistics.render
  | .registered grammar ruleCount =>
    "Registered grammar '" ++ grammar ++ "' (" ++ toString ruleCount ++ " rules)"
  | .replaced grammar => "Replaced grammar '" ++ grammar ++ "'"

/-- The lines of a log at a level, each with the level of its event. -/
def render (level : Level) (elapsed : String) (events : List Event) : List String :=
  (events.filter fun event => level.shows event.level).map fun event =>
    event.level.label ++ " " ++ event.message elapsed

end Rulebook.Log
