import SeriesCursor.ResultSet.Advance
import SeriesCursor.ResultSet.Read

/-!
Calls on a result set as data, so that a whole lifetime can be written down as a list. Only moving the
set changes it; a call that reads leaves it as it is.
-/

namespace SeriesCursor

inductive Reading where
  | boolean
  | int
  | long
  | float
  | double
  | text
  | plain
  | value
  | instant
  | bytes
  | isNull
  deriving DecidableEq, Repr

inductive Call where
  | advance
  | setPage (page : Page)
  | close
  | read (reading : Reading) (selector : Selector)
  | currentRow
  deriving DecidableEq, Repr

inductive Answer where
  | unit
  | bool (b : Bool)
  | int (n : Int32)
  | long (n : Int64)
  | float (bits : UInt32)
  | double (bits : UInt64)
  | text (s : String)
  | value (value : Value)
  | instant (instant : Instant)
  | bytes (raw : Bytes)
  | record (record : Record)
  deriving DecidableEq, Repr

namespace ResultSet

def read (set : ResultSet) (reading : Reading) (selector : Selector) : Except Error Answer :=
  match reading with
  | .boolean => (set.getBoolean selector).map .bool
  | .int => (set.getInt selector).map .int
  | .long => (set.getLong selector).map .long
  | .float => (set.getFloat selector).map .float
  | .double => (set.getDouble selector).map .double
  | .text => (set.getText selector).map .text
  | .plain => (set.getPlain selector).map .text
  | .value => (set.getValue selector).map .value
  | .instant => (set.getInstant selector).map .instant
  | .bytes => (set.getBytes selector).map .bytes
  | .isNull => (set.isNull selector).map .bool

def perform (set : ResultSet) : Call → Except Error Answer × ResultSet
  | .advance => (set.advance.1.map .bool, set.advance.2)
  | .setPage page => ((set.setPage page).1.map fun _ => .unit, (set.setPage page).2)
  | .close => (set.close.1.map fun _ => .unit, set.close.2)
  | .read reading selector => (set.read reading selector, set)
  | .currentRow => (set.currentRow.map .record, set)

def run (set : ResultSet) : List Call → ResultSet
  | [] => set
  | call :: rest => (set.perform call).2.run rest

inductive Ending where
  | limit
  | noMoreRows
  | failed (error : Error)
  deriving DecidableEq, Repr

/-- Moves on at most a given number of times and copies each row on the way. -/
def drain (set : ResultSet) : (limit : Nat) → List (Except Error Record) × Ending × ResultSet
  | 0 => ([], .limit, set)
  | limit + 1 =>
    match set.advance with
    | (.ok true, set) =>
      match set.drain limit with
      | (rows, ending, last) => (set.currentRow :: rows, ending, last)
    | (.ok false, set) => ([], .noMoreRows, set)
    | (.error e, set) => ([], .failed e, set)

theorem run_append (set : ResultSet) (before after : List Call) :
    set.run (before ++ after) = (set.run before).run after := by
  induction before generalizing set with
  | nil => rfl
  | cons call rest ih => exact ih _

end ResultSet

end SeriesCursor
