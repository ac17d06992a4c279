import SeriesCursor.Text.Unprintable

/-!
Text between double quotes, in the form used by diagnostics: the quote, the backslash and the common
controls have short escapes, every other unprintable character is written as its code point in
lower-case hexadecimal between braces, and the rest stands as it is.
-/

namespace SeriesCursor

namespace Text

def quoteChar (c : Char) : List Char :=
  if c = '"' then ['\\', '"']
  else if c = '\\' then ['\\', '\\']
  else if c = '\n' then ['\\', 'n']
  else if c = '\r' then ['\\', 'r']
  else if c = '\t' then ['\\', 't']
  else if c = '\x00' then ['\\', '0']
  else if isUnprintable c then '\\' :: 'u' :: '\x7b' :: Nat.toDigits 16 c.toNat ++ ['\x7d']
  else [c]

def quoted (text : String) : String :=
  String.ofList ('"' :: text.toList.flatMap quoteChar ++ ['"'])

end Text

end SeriesCursor
