import SeriesCursor.Text.Hex

/-!
Whole numbers in a settings document, all in the range of 64 bits with a sign: as the document writes them,
in four bases and with underscores between the digits, and plain ones as strings and places hold them.
-/

namespace SeriesCursor

namespace Toml

/-- The digits of a number in a base up to sixteen, single underscores between them. -/
def digits? (base : Nat) : (text : List Char) → (afterDigit : Bool) → Option (List Nat)
  | [], afterDigit => if afterDigit then some [] else none
  | '_' :: rest, afterDigit => if afterDigit then digits? base rest false else none
  | c :: rest, _ =>
    match Text.hexValue? c with
    | some digit => if digit < base then (digits? base rest true).map (digit :: ·) else none
    | none => none

def inBase? (base : Nat) (negative : Bool) (text : List Char) : Option Int :=
  match digits? base text false with
  | none => none
  | some digits =>
    let size := digits.foldl (fun n digit => n * base + digit) 0
    let n : Int := if negative then -size else size
    if Int64.minValue.toInt ≤ n ∧ n ≤ Int64.maxValue.toInt then some n else none

def decimal? (negative : Bool) (text : List Char) : Option Int :=
  match text with
  | '0' :: _ :: _ => none
  | _ => inBase? 10 negative text

def integer? (text : String) : Option Int :=
  match text.toList with
  | '0' :: 'x' :: rest => inBase? 16 false rest
  | '0' :: 'o' :: rest => inBase? 8 false rest
  | '0' :: 'b' :: rest => inBase? 2 false rest
  | '-' :: rest => decimal? true rest
  | rest => decimal? false rest

def plain? (negative : Bool) (text : List Char) : Option Int :=
  if text.all Char.isDigit then inBase? 10 negative text else none

def signed? : List Char → Option Int
  | '-' :: rest => plain? true rest
  | '+' :: rest => plain? false rest
  | rest => plain? false rest

end Toml

end SeriesCursor
