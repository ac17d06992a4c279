import SeriesCursor.Settings.Basic
import SeriesCursor.Settings.Document
import SeriesCursor.Settings.Place

/-!
Settings from their document. Names that are not known are ignored. A value of another kind is taken for
what it says: a truth value or a word for one serves as a number, a number or a word as a truth value,
and either as a string. The client's settings have defaults, those of the log have none. A group of settings
is a table, or an array that holds them in their order.
-/

namespace SeriesCursor

namespace Toml

def trueWords : List String := ["true", "on", "yes"]

def falseWords : List String := ["false", "off", "no"]

def lowered (text : String) : String :=
  String.ofList (text.toList.map Char.toLower)

namespace Scalar

def toInt? : Scalar → Option Int
  | .integer n => some n
  | .boolean b => some (if b then 1 else 0)
  | .string text =>
    if lowered text ∈ trueWords then some 1
    else if lowered text ∈ falseWords then some 0
    else signed? text.toList

def toBool? : Scalar → Option Bool
  | .integer n => some (n != 0)
  | .boolean b => some b
  | .string text =>
    if lowered text ∈ "1" :: trueWords then some true
    else if lowered text ∈ "0" :: falseWords then some false
    else none

def toText : Scalar → String
  | .integer n => toString n
  | .boolean b => if b then "true" else "false"
  | .string text => text

end Scalar

end Toml

namespace Settings

open Toml

inductive Entry where
  | absent
  | scalar (value : Scalar)
  /-- It is there, but has no plain value. -/
  | other
  deriving DecidableEq, Repr

/-- Looks a setting up: by its name in a table, by its position in an array. -/
def entry (group : Node) (name : String) (position : Nat) : Entry :=
  let found := match group with
    | .table members => members.lookup name
    | .array items => items.lookup position
    | .scalar _ => none
  match found with
  | some (.scalar value) => .scalar value
  | some _ => .other
  | none => if position < Node.extent group.items then .other else .absent

def optional (entry : Entry) (read : Scalar → Option α) (default : α) : Option α :=
  match entry with
  | .absent => some default
  | .scalar value => read value
  | .other => none

def required : Entry → Option String
  | .scalar value => some value.toText
  | _ => none

def clientOf? : Option Node → Option ClientSettings
  | none => some {}
  | some (.scalar _) => none
  | some group => do
    let default : ClientSettings := {}
    let fetchSize ← optional (entry group "fetch_size" 0)
      (fun value => value.toInt?.map Int32.ofInt) default.fetchSize
    let includesTime ← optional (entry group "include_timestamp" 1) Scalar.toBool? default.includesTime
    some ⟨fetchSize, includesTime⟩

def loggingOf? : Option Node → Option LoggingSettings
  | none | some (.scalar _) => none
  | some group => do
    let directory ← required (entry group "log_dir" 0)
    let stdoutLevel ← required (entry group "stdout_level" 1)
    let fileLevel ← required (entry group "file_level" 2)
    some ⟨directory, stdoutLevel, fileLevel⟩

/-- The settings that a file holds; none when there is no file, or it does not make sense. -/
def ofFile? (file : Option String) : Option Settings := do
  let root ← Node.spread (← members? (← file))
  let client ← clientOf? (root.members.lookup "client")
  let logging ← loggingOf? (root.members.lookup "logging")
  some ⟨client, logging⟩

end Settings

end SeriesCursor
