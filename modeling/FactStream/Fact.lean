import FactStream.Text.Line

/-!
# Facts

Stages hand each other facts: a key and a value, a tab between them, one fact
a line.  Neither is escaped, so a fact is read back by splitting its line at
the tabs.
-/

namespace FactStream

structure Fact where
  key : Text
  value : Text
  deriving DecidableEq, Repr

namespace Fact

def text (fact : Fact) : Text :=
  fact.key ++ '\t' :: fact.value

/-- The fact as a line of its own. -/
def line (fact : Fact) : Text :=
  fact.text ++ ['\n']

def bytes (fact : Fact) : Bytes :=
  fact.line.encode

/-- The tab-separated fields of a line. -/
def fields (line : Text) : List Text :=
  line.splitOn '\t'

end Fact

end FactStream
