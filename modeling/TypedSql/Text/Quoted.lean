import TypedSql.Text.Hexadecimal
import TypedSql.Text.Unprintable

/-!
A text as messages show it: in double quotes, on one line, with nothing in it that cannot be seen.
Quotes and backslashes are escaped, the common controls have short escapes, and any other
unprintable character is written as its number, `\u{7f}`.
-/

namespace TypedSql.Text

def quoteChar (c : Char) : List Char :=
  if c = '"' then ['\\', '"']
  else if c = '\\' then ['\\', '\\']
  else if c = '\t' then ['\\', 't']
  else if c = '\n' then ['\\', 'n']
  else if c = '\r' then ['\\', 'r']
  else if c = '\x00' then ['\\', '0']
  else if isUnprintable c then ['\\', 'u', '\x7b'] ++ Hexadecimal.digits c.toNat ++ ['\x7d']
  else [c]

def quoted (text : String) : String :=
  String.ofList ('"' :: (text.toList.flatMap quoteChar ++ ['"']))

example : quoted "it's \"so\"\n" = "\"it's \\\"so\\\"\\n\"" := by decide +kernel
example : quoted "\x7f" = "\"\\u\x7b7f\x7d\"" := by decide +kernel

end TypedSql.Text
