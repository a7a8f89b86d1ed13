import ProjectAtlas.Text.PrintableTable
import ProjectAtlas.Text.Surrogate
import ProjectAtlas.Text.Word

/-!
Quoted text for messages.

The quotation marks are single ones, or double ones around a text that holds a single mark and no
double one. Characters that are not printable are escaped.
-/

namespace ProjectAtlas.Text

def isPrintable (c : Char) : Bool :=
  inRanges printableRanges c.toNat

/-- The character as it stands between quotation marks `mark`. -/
def quotedChar (mark c : Char) : List Char :=
  if c = mark || c = '\\' then ['\\', c]
  else if c = '\n' then ['\\', 'n']
  else if c = '\r' then ['\\', 'r']
  else if c = '\t' then ['\\', 't']
  else if isPrintable c then [c]
  else match halfCode? c with
    | some n => '\\' :: 'u' :: hex 4 n
    | none =>
      if c.toNat < 0x100 then '\\' :: 'x' :: hex 2 c.toNat
      else if c.toNat < 0x10000 then '\\' :: 'u' :: hex 4 c.toNat
      else '\\' :: 'U' :: hex 8 c.toNat

def quoted (s : String) : String :=
  let cs := s.toList
  let mark := if cs.contains '\'' && !cs.contains '"' then '"' else '\''
  String.ofList (mark :: cs.flatMap (quotedChar mark) ++ [mark])

end ProjectAtlas.Text
