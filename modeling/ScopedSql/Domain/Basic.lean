import ScopedSql.Domain.Direction
import ScopedSql.Domain.Folding
import ScopedSql.Domain.Joining
import ScopedSql.Domain.Punycode
import ScopedSql.Text.Composition

namespace ScopedSql
namespace Domain

/-!
# Domains

A domain is a row of labels with points between them.  Two spellings that look
the same are the same domain, so its characters are folded and composed before
anything else is asked.  It is written in ASCII: a label with other characters
has `xn--` in front of its code.  A label may be given in its code, if the code
is the one that would be written for it.
-/

/-- The characters that no domain may hold. -/
def isForbidden (c : Char) : Bool :=
  c.toNat ≤ 0x20 || c = '\x7f' ||
    ['%', '#', '/', ':', '<', '>', '?', '@', '[', '\\', ']', '^', '|'].contains c

/-- A text with its characters folded, in its composed spelling. -/
def normal? (cs : List Char) : Option (List Char) := do
  return Text.compose (<- cs.mapM fold?).flatten

/-- A label as it is shown and as it is written in ASCII. -/
structure Label where
  shown : List Char
  written : List Char

def codeMark : List Char := "xn--".toList

def longestText : Nat := 1000

def longestCode : Nat := 2000

def Label.read? (cs : List Char) : Option Label :=
  match Text.after? codeMark cs with
  | some code => do
    if longestCode < code.length then none
    let shown <- Punycode.decode? code
    if shown.all Punycode.isAscii || codeMark.isPrefixOf shown then none
    if (<- normal? shown) = shown then some { shown, written := cs } else none
  | none =>
    if cs.all Punycode.isAscii then some { shown := cs, written := cs }
    else if longestText < cs.length then none
    else some { shown := cs, written := codeMark ++ Punycode.encode cs }

/-- Can the label be shown?  It does not begin with a mark, and its joiners count. -/
def Label.isVisible (label : Label) : Bool :=
  !label.shown.head?.any Text.isMark && joinersFit [] label.shown

def toAscii? (text : String) : Option (List Char) := do
  let cs <- normal? text.toList
  if cs.any isForbidden then none
  let labels <- (Text.splitOn '.' cs).mapM Label.read?
  let oneWay :=
    !labels.any (fun label => hasRight label.shown) ||
      labels.all (fun label => runsOneWay label.shown)
  if labels.all Label.isVisible && oneWay then
    some (['.'].intercalate (labels.map Label.written))
  else none

end Domain
end ScopedSql
