-- Quoted texts, as messages show them: in double quotes, with the characters
-- that would not read well escaped.

import ImageGateway.Text.Unprintable

namespace ImageGateway.Text

/-- The digits of a number to the base sixteen, in lower case and without leading zeros. -/
def hexDigits (n : Nat) : String := String.ofList (Nat.toDigits 16 n)

/-- How one character stands inside a quoted text. -/
def escape (c : Char) : String :=
  if c == '\x00' then "\\0"
  else if c == '\t' then "\\t"
  else if c == '\n' then "\\n"
  else if c == '\r' then "\\r"
  else if c == '"' then "\\\""
  else if c == '\\' then "\\\\"
  else if isUnprintable c then "\\u\x7b" ++ hexDigits c.toNat ++ "\x7d"
  else c.toString

/-- A text in quotes. -/
def quote (s : String) : String := "\"" ++ String.join (s.toList.map escape) ++ "\""

/-- How one character stands inside a quoted native text. ASCII is escaped byte by byte there, and
so is the apostrophe. -/
def escapeNative (c : Char) : String :=
  let n := c.toNat
  if n == 39 then "\\'"
  else if n == 9 || n == 10 || n == 13 then escape c
  else if n < 16 then "\\x0" ++ hexDigits n
  else if n < 32 || n == 127 then "\\x" ++ hexDigits n
  else escape c

/-- A native text in quotes. -/
def quoteNative (s : String) : String := "\"" ++ String.join (s.toList.map escapeNative) ++ "\""

/-- A list of quoted texts, in brackets. -/
def quoteList (texts : List String) : String :=
  "[" ++ ", ".intercalate (texts.map quote) ++ "]"

/-- A name and its parts in braces, each part with its own name. -/
def withParts (name : String) (parts : List (String × String)) : String :=
  name ++ " \x7b " ++ ", ".intercalate (parts.map fun (key, value) => key ++ ": " ++ value)
    ++ " \x7d"

end ImageGateway.Text
