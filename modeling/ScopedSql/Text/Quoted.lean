import ScopedSql.Text.Hex
import ScopedSql.Text.Printable

namespace ScopedSql
namespace Text

/-!
# Quoted texts in messages

A message that names a text given by a caller shows it between double quotes,
with everything that could confuse a reader escaped: the quote and the
backslash, line breaks, tabs and NUL by a letter, and hidden or extending
characters by their number in braces.  An apostrophe stays as it is.
-/

/-- One character as it stands between the quotes. -/
def escaped (c : Char) : List Char :=
  if c = '"' then ['\\', '"']
  else if c = '\\' then ['\\', '\\']
  else if c = '\n' then ['\\', 'n']
  else if c = '\r' then ['\\', 'r']
  else if c = '\t' then ['\\', 't']
  else if c = '\x00' then ['\\', '0']
  else if isExtending c || isHidden c then
    ['\\', 'u', '\x7b'] ++ hexDigits c.toNat ++ ['\x7d']
  else [c]

def quoted (s : String) : String :=
  String.ofList (['"'] ++ s.toList.flatMap escaped ++ ['"'])

/-- Quoted texts in brackets, separated by a comma and a space. -/
def quotedList (texts : List String) : String :=
  "[" ++ String.intercalate ", " (texts.map quoted) ++ "]"

end Text
end ScopedSql
