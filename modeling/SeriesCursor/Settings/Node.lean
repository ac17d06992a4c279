/-!
Values of a settings document: scalars, tables and arrays. Members of a table are kept in the order in
which they were written. An array keeps its items with their positions; a position below the last item
may be without one.
-/

namespace SeriesCursor

namespace Toml

inductive Scalar where
  | string (text : String)
  | integer (n : Int)
  | boolean (b : Bool)
  deriving DecidableEq, Repr

inductive Node where
  | scalar (value : Scalar)
  | table (members : List (String × Node))
  | array (items : List (Nat × Node))
  deriving Repr

def put [BEq κ] (key : κ) (value : α) (entries : List (κ × α)) : List (κ × α) :=
  (key, value) :: entries.filter fun entry => entry.1 != key

/-- Changes the first value of a key where it stands, or adds one at the end. -/
def amend? [BEq κ] (key : κ) (change : Option α → Option α) : List (κ × α) → Option (List (κ × α))
  | [] => (change none).map fun value => [(key, value)]
  | (first, value) :: rest =>
    if first == key then (change (some value)).map fun value => (first, value) :: rest
    else (amend? key change rest).map fun rest => (first, value) :: rest

namespace Node

def members : Node → List (String × Node)
  | .table members => members
  | _ => []

def items : Node → List (Nat × Node)
  | .array items => items
  | _ => []

def extent (items : List (Nat × Node)) : Nat :=
  items.foldl (fun size item => max size (item.1 + 1)) 0

mutual

/-- A value put where another may stand: a table completes what is there, anything else replaces it. -/
def onto : Node → Option Node → Node
  | .table members, old => membersOnto members (old.getD (.table []))
  | node, _ => node

def membersOnto : List (String × Node) → Node → Node
  | [], target => target
  | (name, value) :: rest, target =>
    membersOnto rest (.table (put name (value.onto (target.members.lookup name)) target.members))

end

end Node

end Toml

end SeriesCursor
