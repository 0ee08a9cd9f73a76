import SocksMonitor.Text.Shown
import SocksMonitor.Text.Numeral

/-!
# Quoted text

Error texts quote the address they complain about, so that a stray blank or control character can
be seen. Double quotes enclose the text; a quote and a backslash get a backslash; NUL, tab, line
feed and carriage return have letters; every other character that is not shown as it is becomes
`\u{…}` with its lower-case hexadecimal code point.
-/

namespace SocksMonitor.Text

def quotedChar (c : Char) : List Char :=
  if c = '"' then ['\\', '"']
  else if c = '\\' then ['\\', '\\']
  else if c = '\x00' then ['\\', '0']
  else if c = '\t' then ['\\', 't']
  else if c = '\n' then ['\\', 'n']
  else if c = '\r' then ['\\', 'r']
  else if isShown c then [c]
  else ['\\', 'u', '\x7b'] ++ Numeral.hexadecimal c.toNat ++ ['\x7d']

/-- A text in double quotes. -/
def quoted (s : String) : String :=
  String.ofList ('"' :: s.toList.flatMap quotedChar ++ ['"'])

example : quoted "a\"b" = "\"a\\\"b\"" := by decide +kernel

end SocksMonitor.Text
