/-
This file puts settings together from layers. The defaults lie at the bottom, files lie over
them in the order given, and single settings lie over all files whatever the order. Of two
layers that say different things the upper wins; what no one asks for is ignored.
-/

import Rulebook.Parse.Options
import Rulebook.Settings.Path
import Rulebook.Settings.Toml

namespace Rulebook.Settings

/-- What a caller lays over the defaults. -/
inductive Layer where
  /-- A file of settings, by its text. -/
  | file (text : String)
  /-- A file that is not there. -/
  | absent (optional : Bool)
  /-- One setting, by the text of its path. -/
  | override (path : String) (value : Value)

/-- The settings that hold unless something else is said. -/
def defaults : Value :=
  .table [("parser", .table [("memoize_tokens", .bool false), ("collect_stats", .bool false),
    ("max_depth", .integer 200)])]

/-- Lay a file over settings. The names at the outermost level may be whole paths. -/
def layFile (root : Value) (text : String) : Except Problem Value :=
  match Toml.read? text with
  | none => .error .badFile
  | some entries =>
    .ok (entries.foldl (fun root (name, value) =>
      root.put ((Path.read? name).getD [.field name]) value) root)

/-- Lay the files among some layers over settings. -/
def layFiles (root : Value) : List Layer → Except Problem Value
  | [] => .ok root
  | .file text :: rest =>
    match layFile root text with
    | .ok root => layFiles root rest
    | .error problem => .error problem
  | .absent optional :: rest =>
    if optional then layFiles root rest else .error .missingFile
  | .override _ _ :: rest => layFiles root rest

/-- The single settings among some layers, with their paths read. -/
def overrides : List Layer → Except Problem (List (Path × Value))
  | [] => .ok []
  | .override text value :: rest =>
    match Path.read? text, overrides rest with
    | none, _ => .error .badPath
    | some path, .ok others => .ok ((path, value) :: others)
    | some _, .error problem => .error problem
  | _ :: rest => overrides rest

/-- The settings that layers amount to. -/
def combine (layers : List Layer) : Except Problem Value := do
  let overrides ← overrides layers
  let root ← layFiles defaults layers
  return overrides.foldl (fun root (path, value) => root.put path value) root

/-- The options that a value describes: a table by the names of its entries, an array by
their order. Only the depth may be left out; a value that does not fit is told before an
entry that is missing. -/
def optionsOf : Value → Except Problem ParseOptions
  | .table entries => do
    let memoizeTokens ← (entries.lookup "memoize_tokens").mapM Value.toBool
    let collectStats ← (entries.lookup "collect_stats").mapM Value.toBool
    let maxDepth ← ((entries.lookup "max_depth").getD .null).toCount?
    return {
      memoizeTokens := ← present memoizeTokens
      collectStats := ← present collectStats
      maxDepth }
  | .array items => do
    let memoizeTokens ← (← present items[0]?).toBool
    let collectStats ← (← present items[1]?).toBool
    let maxDepth ← (items[2]?.getD Value.null).toCount?
    return { memoizeTokens, collectStats, maxDepth }
  | _ => .error .badShape
where
  /-- Something that has to be there. -/
  present {Part : Type} : Option Part → Except Problem Part
    | some part => .ok part
    | none => .error .badShape

/-- The options for parsing that layers amount to. -/
def load (layers : List Layer) : Except Problem ParseOptions := do
  let root ← combine layers
  optionsOf ((root.entry? "parser").getD .null)

end Rulebook.Settings
