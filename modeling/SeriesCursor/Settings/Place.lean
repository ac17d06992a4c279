import SeriesCursor.Settings.Node
import SeriesCursor.Settings.Numeral

/-!
Places in a settings document. A name at the top of a document may be the path to a place: names after
periods lead into tables, whole numbers in square brackets into arrays. A name that is no such path stands
for itself.
-/

namespace SeriesCursor

namespace Toml

inductive Step where
  | name (name : String)
  /-- A position in an array; one below zero counts from the end. -/
  | index (position : Int)
  deriving DecidableEq, Repr

namespace Step

def isNameChar (c : Char) : Bool :=
  c.isAlphanum || c == ' ' || c == '_' || c == '-'

def isBlank (c : Char) : Bool :=
  c == ' ' || c == '\t'

def position? (text : List Char) : Option Int :=
  match ((text.dropWhile isBlank).reverse.dropWhile isBlank).reverse with
  | '-' :: digits => plain? true digits
  | digits => plain? false digits

def further? : List Char → Option (List Step)
  | [] => some []
  | '.' :: rest =>
    let name := rest.takeWhile isNameChar
    if name.isEmpty then none
    else (further? (rest.dropWhile isNameChar)).map fun steps => .name (String.ofList name) :: steps
  | '[' :: rest =>
    match position? (rest.takeWhile (· != ']')) with
    | some position =>
      (further? ((rest.dropWhile (· != ']')).drop 1)).bind fun steps =>
        if rest.contains ']' then some (.index position :: steps) else none
    | none => none
  | _ => none
termination_by text => text.length
decreasing_by
  · have shorter : (rest.dropWhile isNameChar).length ≤ rest.length :=
      (List.dropWhile_suffix isNameChar).length_le
    simp only [List.length_cons]
    omega
  · have shorter : (rest.dropWhile (· != ']')).length ≤ rest.length :=
      (List.dropWhile_suffix (· != ']')).length_le
    simp only [List.length_cons, List.length_drop]
    omega

def ofName (name : String) : List Step :=
  let text := name.toList
  let first := text.takeWhile isNameChar
  match further? (text.dropWhile isNameChar) with
  | some steps => if first.isEmpty then [.name name] else .name (String.ofList first) :: steps
  | none => [.name name]

end Step

namespace Node

def position? (items : List (Nat × Node)) (index : Int) : Option Nat :=
  let position := if index < 0 then extent items + index else index
  if position < 0 then none else some position.toNat

/-- Puts a value at a place. On the way there, whatever is not the table or the array that the next step
needs gives way to an empty one. At a name a table completes what is there; at an index it replaces it. -/
def place : List Step → (value : Node) → (old : Option Node) → Option Node
  | [], value, old => some (value.onto old)
  | .name name :: rest, value, old =>
    let members := (old.map Node.members).getD []
    (place rest value (members.lookup name)).map fun node => .table (put name node members)
  | .index index :: rest, value, old =>
    let items := (old.map Node.items).getD []
    match position? items index with
    | some position =>
      (place rest value (if rest.isEmpty then none else items.lookup position)).map fun node =>
        .array (put position node items)
    | none => none

def spread (members : List (String × Node)) : Option Node :=
  members.foldlM (fun root member => place (Step.ofName member.1) member.2 (some root)) (.table [])

end Node

end Toml

end SeriesCursor
