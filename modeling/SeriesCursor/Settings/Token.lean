import SeriesCursor.Text.Hex

/-!
Tokens of a settings file in TOML, as far as its values are strings, whole numbers and truth values. A
machine takes one character after another; its mode says what that character belongs to. Blanks and
comments give no tokens.
-/

namespace SeriesCursor

namespace Toml

inductive Token where
  | newline
  | equals
  | period
  | openBracket
  | closeBracket
  | plus
  | word (text : String)
  | string (text : String) (multiline : Bool)
  deriving DecidableEq, Repr

structure Quote where
  mark : Char
  multiline : Bool
  deriving DecidableEq, Repr

inductive Mode where
  | between
  | comment
  | word (read : List Char)
  | opened (mark : Char)
  | openedTwice (mark : Char)
  /-- A string over lines whose first character is due; a line break there is dropped. -/
  | started (quote : Quote)
  | string (quote : Quote) (read : List Char)
  | closing (quote : Quote) (read : List Char) (marks : Nat)
  | escape (quote : Quote) (read : List Char)
  | codePoint (quote : Quote) (read : List Char) (digits : Nat) (value : Nat)
  /-- A backslash before blanks has been read; `broken` says whether the line break has come. -/
  | continued (quote : Quote) (read : List Char) (broken : Bool)
  deriving DecidableEq, Repr

structure Lexer where
  mode : Mode
  /-- The tokens so far, the last one first. -/
  tokens : List Token
  deriving DecidableEq, Repr

def isWordChar (c : Char) : Bool :=
  c.isAlphanum || c == '_' || c == '-'

def isStringChar (c : Char) : Bool :=
  c == '\t' || (0x20 ≤ c.toNat && c.toNat ≠ 0x7F)

def escaped? : Char → Option Char
  | '"' => some '"'
  | '\\' => some '\\'
  | 'b' => some '\x08'
  | 'f' => some '\x0c'
  | 'n' => some '\n'
  | 'r' => some '\r'
  | 't' => some '\t'
  | _ => none

namespace Lexer

def emit (lexer : Lexer) (token : Token) (mode : Mode) : Lexer :=
  ⟨mode, token :: lexer.tokens⟩

def enter (lexer : Lexer) (mode : Mode) : Lexer :=
  { lexer with mode := mode }

/-- A character between tokens. A plus sign must be followed by its number at once. -/
def between (lexer : Lexer) (c : Char) : Option Lexer :=
  if isWordChar c then some (lexer.enter (.word [c]))
  else if lexer.tokens.head? = some .plus then none
  else match c with
    | ' ' | '\t' => some (lexer.enter .between)
    | '\n' => some (lexer.emit .newline .between)
    | '#' => some (lexer.enter .comment)
    | '=' => some (lexer.emit .equals .between)
    | '.' => some (lexer.emit .period .between)
    | '[' => some (lexer.emit .openBracket .between)
    | ']' => some (lexer.emit .closeBracket .between)
    | '+' => some (lexer.emit .plus .between)
    | '"' => some (lexer.enter (.opened '"'))
    | '\'' => some (lexer.enter (.opened '\''))
    | _ => none

def finish (lexer : Lexer) (quote : Quote) (read : List Char) : Lexer :=
  lexer.emit (.string (String.ofList read.reverse) quote.multiline) .between

def inString (lexer : Lexer) (quote : Quote) (read : List Char) (c : Char) : Option Lexer :=
  if c = quote.mark then
    if quote.multiline then some (lexer.enter (.closing quote read 1))
    else some (lexer.finish quote read)
  else if c = '\n' then
    if quote.multiline then some (lexer.enter (.string quote (c :: read))) else none
  else if c = '\\' ∧ quote.mark = '"' then some (lexer.enter (.escape quote read))
  else if isStringChar c then some (lexer.enter (.string quote (c :: read)))
  else none

def afterBackslash (lexer : Lexer) (quote : Quote) (read : List Char) (c : Char) : Option Lexer :=
  match escaped? c with
  | some plain => some (lexer.enter (.string quote (plain :: read)))
  | none =>
    if c = 'u' then some (lexer.enter (.codePoint quote read 4 0))
    else if c = 'U' then some (lexer.enter (.codePoint quote read 8 0))
    else if quote.multiline ∧ c = '\n' then some (lexer.enter (.continued quote read true))
    else if quote.multiline ∧ (c = ' ' ∨ c = '\t') then
      some (lexer.enter (.continued quote read false))
    else none

def step (lexer : Lexer) (c : Char) : Option Lexer :=
  match lexer.mode with
  | .between => lexer.between c
  | .comment =>
    if c = '\n' then lexer.between c
    else if c = '\t' ∨ 0x20 ≤ c.toNat then some lexer
    else none
  | .word read =>
    if isWordChar c then some (lexer.enter (.word (c :: read)))
    else (lexer.emit (.word (String.ofList read.reverse)) .between).between c
  | .opened mark =>
    if c = mark then some (lexer.enter (.openedTwice mark)) else lexer.inString ⟨mark, false⟩ [] c
  | .openedTwice mark =>
    if c = mark then some (lexer.enter (.started ⟨mark, true⟩))
    else (lexer.finish ⟨mark, false⟩ []).between c
  | .started quote =>
    if c = '\n' then some (lexer.enter (.string quote [])) else lexer.inString quote [] c
  | .string quote read => lexer.inString quote read c
  | .closing quote read marks =>
    if c = quote.mark ∧ marks < 5 then some (lexer.enter (.closing quote read (marks + 1)))
    else if 3 ≤ marks then (lexer.finish quote (List.replicate (marks - 3) quote.mark ++ read)).between c
    else lexer.inString quote (List.replicate marks quote.mark ++ read) c
  | .escape quote read => lexer.afterBackslash quote read c
  | .codePoint quote read digits value =>
    match Text.hexValue? c with
    | none => none
    | some digit =>
      let value := value * 16 + digit
      if digits ≤ 1 then (Text.charOf? value).map fun plain => lexer.enter (.string quote (plain :: read))
      else some (lexer.enter (.codePoint quote read (digits - 1) value))
  | .continued quote read broken =>
    if c = '\n' then some (lexer.enter (.continued quote read true))
    else if c = ' ' ∨ c = '\t' then some lexer
    else if broken then lexer.inString quote read c
    else none

def tokens? (lexer : Lexer) : Option (List Token) :=
  match lexer.mode with
  | .between | .comment => some lexer.tokens.reverse
  | .word read => some (lexer.emit (.word (String.ofList read.reverse)) .between).tokens.reverse
  | .openedTwice mark => some (lexer.finish ⟨mark, false⟩ []).tokens.reverse
  | .closing quote read marks =>
    if 3 ≤ marks then
      some (lexer.finish quote (List.replicate (marks - 3) quote.mark ++ read)).tokens.reverse
    else none
  | _ => none

end Lexer

def foldBreaks : List Char → List Char
  | '\r' :: '\n' :: rest => '\n' :: foldBreaks rest
  | c :: rest => c :: foldBreaks rest
  | [] => []

def tokens? (text : String) : Option (List Token) :=
  let chars := match text.toList with
    | '\ufeff' :: rest => rest
    | chars => chars
  ((foldBreaks chars).foldlM Lexer.step ⟨.between, []⟩).bind Lexer.tokens?

end Toml

end SeriesCursor
