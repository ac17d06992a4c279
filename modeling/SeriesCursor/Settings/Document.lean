import SeriesCursor.Settings.Moment
import SeriesCursor.Settings.Node
import SeriesCursor.Settings.Numeral
import SeriesCursor.Settings.Token

/-!
Settings documents: which name holds which value. A line is empty, opens a table, or gives a value to a
name in the table that is open. A name is given a value only once, a table is opened only once, and a
name holds either a value or a table.
-/

namespace SeriesCursor

namespace Toml

abbrev Path := List String

/-- A table that a line has opened, and what the lines below it give to it. A name with periods makes
tables inside it. -/
structure Section where
  path : Path
  members : List (String × Node)
  deriving Repr

def scalar? : List Token → Option Scalar
  | [.string text _] => some (.string text)
  | [.word "true"] => some (.boolean true)
  | [.word "false"] => some (.boolean false)
  | [.word text] => (integer? text).map .integer
  | [.plus, .word text] => (integer? text).map .integer
  | _ => none

def key? : Token → Option String
  | .word text => some text
  | .string text false => some text
  | _ => none

def path? : List Token → Option (Path × List Token)
  | [] => none
  | key :: .period :: rest =>
    match key? key, path? rest with
    | some name, some (path, rest) => some (name :: path, rest)
    | _, _ => none
  | key :: rest => (key? key).map fun name => ([name], rest)

/-- Gives a value to a path. A name that is written twice is kept twice, unless a value stands where the
path needs a table. -/
def assign : Path → Scalar → List (String × Node) → Option (List (String × Node))
  | [], _, _ => none
  | [name], value, members => some (members ++ [(name, .scalar value)])
  | name :: rest, value, members =>
    members |> amend? name fun
      | none => (assign rest value []).map .table
      | some (.table inner) => (assign rest value inner).map .table
      | some _ => none

def lines : List Token → List (List Token)
  | [] => [[]]
  | .newline :: rest => [] :: lines rest
  | token :: rest =>
    match lines rest with
    | line :: later => (token :: line) :: later
    | [] => [[token]]

namespace Section

def line (earlier : List Section) (current : Section) :
    List Token → Option (List Section × Section)
  | [] => some (earlier, current)
  | .openBracket :: rest =>
    match path? rest with
    | some (path, [.closeBracket]) => some (earlier ++ [current], ⟨path, []⟩)
    | _ => none
  | tokens =>
    match path? tokens with
    | some (names, .equals :: rest) => do
      let members ← assign names (← scalar? rest) current.members
      some (earlier, { current with members := members })
    | _ => none

def ofTokens? (tokens : List Token) : Option (List Section) := do
  let (earlier, last) ← (lines tokens).foldlM (fun state tokens => line state.1 state.2 tokens)
    (([] : List Section), (⟨[], []⟩ : Section))
  some (earlier ++ [last])

end Section

/-- A table that starts with this name stands for the date in its value. -/
def dateName : String :=
  "$__toml_private_datetime"

namespace Node

def dated? : Node → Option Node
  | .scalar (.string text) =>
    (Moment.ofText? text.toList).map fun moment => .scalar (.string moment.text)
  | _ => none

mutual

def meant? : Node → Option Node
  | .table members =>
    match members.head? with
    | some (name, first) => if name = dateName then first.dated? else (membersMeant? members).map .table
    | none => some (.table [])
  | node => some node

def membersMeant? : List (String × Node) → Option (List (String × Node))
  | [] => some []
  | (name, value) :: rest =>
    match value.meant?, membersMeant? rest with
    | some value, some rest => if (rest.lookup name).isSome then none else some ((name, value) :: rest)
    | _, _ => none

end

end Node

namespace Section

def below (name : String) : Path → Option Path
  | first :: rest => if first = name then some rest else none
  | [] => none

/-- Puts what a section holds into the members of a table. The path leads on from that table, and
`opened` are the paths from there to the tables that have been opened. -/
def insert (own : List (String × Node)) :
    (path : Path) → (opened : List Path) → (members : List (String × Node)) →
      Option (List (String × Node))
  | [], opened, members =>
    if [] ∈ opened ∨ members.isEmpty ∧ own.head?.map Prod.fst = some dateName then none
    else
      match Node.membersMeant? own with
      | some own =>
        if own.any fun member => (members.lookup member.1).isSome then none else some (members ++ own)
      | none => none
  | name :: rest, opened, members =>
    if members.isEmpty ∧ name = dateName then none
    else
      members |> amend? name fun
        | none =>
          if rest.isEmpty then (Node.table own).meant? else (insert own rest [] []).map .table
        | some (.table inner) =>
          match opened.filterMap (below name) with
          | [] => none
          | opened => (insert own rest opened inner).map .table
        | some _ => none

def gather? (sections : List Section) : Option (List (String × Node)) :=
  let add (state : List Path × List (String × Node)) (next : Section) :=
    (insert next.members next.path state.1 state.2).map fun members => (next.path :: state.1, members)
  (sections.foldlM add ([], [])).map Prod.snd

end Section

def members? (text : String) : Option (List (String × Node)) := do
  Section.gather? (← Section.ofTokens? (← tokens? text))

end Toml

end SeriesCursor
