import SeriesCursor.Json.Writer
import SeriesCursor.Text.Hex

/-!
Reading JSON text: the whole grammar, with blanks between tokens, members kept in their order and
repeated names kept. A number is kept as its text, once that text has been found to be a number.
-/

namespace SeriesCursor

namespace Json

def isBlank (c : Char) : Bool :=
  c == ' ' || c == '\t' || c == '\n' || c == '\r'

def skipBlanks (text : List Char) : List Char :=
  text.dropWhile isBlank

def splitDigits (text : List Char) : List Char × List Char :=
  (text.takeWhile Char.isDigit, text.dropWhile Char.isDigit)

def readWhole : List Char → Option (List Char × List Char)
  | [] => none
  | c :: rest =>
    if c = '0' then some ([c], rest)
    else if c.isDigit then some (splitDigits (c :: rest))
    else none

def readFraction : List Char → Option (List Char × List Char)
  | '.' :: rest =>
    match splitDigits rest with
    | ([], _) => none
    | (digits, rest) => some ('.' :: digits, rest)
  | text => some ([], text)

def splitSign : List Char → List Char × List Char
  | '+' :: rest => (['+'], rest)
  | '-' :: rest => (['-'], rest)
  | text => ([], text)

def readExponent : List Char → Option (List Char × List Char)
  | [] => some ([], [])
  | c :: rest =>
    if c = 'e' ∨ c = 'E' then
      match splitDigits (splitSign rest).2 with
      | ([], _) => none
      | (digits, after) => some (c :: (splitSign rest).1 ++ digits, after)
    else some ([], c :: rest)

def readUnsigned (text : List Char) : Option (List Char × List Char) := do
  let (whole, text) ← readWhole text
  let (fraction, text) ← readFraction text
  let (exponent, text) ← readExponent text
  some (whole ++ fraction ++ exponent, text)

def readNumber : List Char → Option (List Char × List Char)
  | '-' :: rest => (readUnsigned rest).map fun (digits, rest) => ('-' :: digits, rest)
  | text => readUnsigned text

def unit? (a b c d : Char) : Option Nat := do
  some ((((← Text.hexValue? a) * 16 + (← Text.hexValue? b)) * 16 + (← Text.hexValue? c)) * 16 + (← Text.hexValue? d))

def charOfPair? (high low : Nat) : Option Char :=
  if 0xD800 ≤ high ∧ high < 0xDC00 ∧ 0xDC00 ≤ low ∧ low < 0xE000 then
    Text.charOf? (0x10000 + (high - 0xD800) * 0x400 + (low - 0xDC00))
  else none

def unescape? : Char → Option Char
  | '"' => some '"'
  | '\\' => some '\\'
  | '/' => some '/'
  | 'b' => some '\x08'
  | 'f' => some '\x0c'
  | 'n' => some '\n'
  | 'r' => some '\r'
  | 't' => some '\t'
  | _ => none

def before (c : Char) (read : Option (List Char × List Char)) : Option (List Char × List Char) :=
  read.map fun (chars, rest) => (c :: chars, rest)

def readChars : List Char → Option (List Char × List Char)
  | [] => none
  | c :: rest =>
    if c = '"' then some ([], rest)
    else if c = '\\' then
      match rest with
      | 'u' :: a :: b :: c :: d :: rest =>
        match unit? a b c d with
        | none => none
        | some unit =>
          match Text.charOf? unit with
          | some char => before char (readChars rest)
          | none =>
            match rest with
            | '\\' :: 'u' :: a :: b :: c :: d :: rest =>
              match (unit? a b c d).bind (charOfPair? unit) with
              | some char => before char (readChars rest)
              | none => none
            | _ => none
      | escaped :: rest =>
        match unescape? escaped with
        | some char => before char (readChars rest)
        | none => none
      | [] => none
    else if c.toNat < 0x20 then none
    else before c (readChars rest)

def readString : List Char → Option (String × List Char)
  | '"' :: rest => (readChars rest).map fun (chars, rest) => (String.ofList chars, rest)
  | _ => none

def readWord (word : List Char) (value : Json) (text : List Char) : Option (Json × List Char) :=
  if word.isPrefixOf text then some (value, text.drop word.length) else none

def readName (text : List Char) : Option (String × List Char) :=
  match readString (skipBlanks text) with
  | some (name, rest) =>
    match skipBlanks rest with
    | ':' :: rest => some (name, rest)
    | _ => none
  | none => none

mutual

/-- A value, with at most so many tokens inside it. -/
def readValue : (fuel : Nat) → List Char → Option (Json × List Char)
  | 0, _ => none
  | fuel + 1, text =>
    match skipBlanks text with
    | [] => none
    | c :: rest =>
      if c = '"' then (readChars rest).map fun (chars, rest) => (.string (String.ofList chars), rest)
      else if c = '[' then
        match skipBlanks rest with
        | ']' :: rest => some (.array [], rest)
        | rest =>
          match readValue fuel rest with
          | some (item, rest) => (readItems fuel rest).map fun (items, rest) => (.array (item :: items), rest)
          | none => none
      else if c = '\x7b' then
        match skipBlanks rest with
        | '\x7d' :: rest => some (.object [], rest)
        | rest =>
          match readMember fuel rest with
          | some (member, rest) =>
            (readMembers fuel rest).map fun (members, rest) => (.object (member :: members), rest)
          | none => none
      else if c = 'n' then readWord ['n', 'u', 'l', 'l'] .null (c :: rest)
      else if c = 't' then readWord ['t', 'r', 'u', 'e'] (.bool true) (c :: rest)
      else if c = 'f' then readWord ['f', 'a', 'l', 's', 'e'] (.bool false) (c :: rest)
      else (readNumber (c :: rest)).map fun (digits, rest) => (.number digits, rest)

def readItems : (fuel : Nat) → List Char → Option (List Json × List Char)
  | 0, _ => none
  | fuel + 1, text =>
    match skipBlanks text with
    | ']' :: rest => some ([], rest)
    | ',' :: rest =>
      match readValue fuel rest with
      | some (item, rest) => (readItems fuel rest).map fun (items, rest) => (item :: items, rest)
      | none => none
    | _ => none

def readMember : (fuel : Nat) → List Char → Option ((String × Json) × List Char)
  | 0, _ => none
  | fuel + 1, text =>
    match readName text with
    | some (name, rest) => (readValue fuel rest).map fun (value, rest) => ((name, value), rest)
    | none => none

def readMembers : (fuel : Nat) → List Char → Option (List (String × Json) × List Char)
  | 0, _ => none
  | fuel + 1, text =>
    match skipBlanks text with
    | '\x7d' :: rest => some ([], rest)
    | ',' :: rest =>
      match readMember fuel rest with
      | some (member, rest) =>
        (readMembers fuel rest).map fun (members, rest) => (member :: members, rest)
      | none => none
    | _ => none

end

/-- The value of a whole text. Every step into a value takes a character or is one of two before the
next one does. -/
def read? (text : List Char) : Option Json :=
  match readValue (2 * text.length + 2) text with
  | some (value, rest) => if (skipBlanks rest).isEmpty then some value else none
  | none => none

end Json

end SeriesCursor
