/-!
# Tables of code points

The data of the Unicode standard come as ranges of code points.  A table is
written as text, `41-5A 61-7A AA`, in ascending order, and is searched by
halving once it has been read.
-/

namespace FactStream.Unicode

/-- Ascending inclusive ranges of code points that do not overlap. -/
abbrev CodeTable := Array (Nat × Nat)

namespace CodeTable

private def hexDigit (character : Char) : Nat :=
  if character ≤ '9' then character.toNat - '0'.toNat
  else character.toNat - 'A'.toNat + 10

/-- The number that a word of upper-case hexadecimal digits denotes. -/
def hexNumber (word : List Char) : Nat :=
  word.foldl (fun value character => value * 16 + hexDigit character) 0

/-- The blank-separated words of a table. -/
def words (written : String) : List (List Char) :=
  (written.toList.splitOnP fun character => character == ' ' || character == '\n').filter
    fun word => !word.isEmpty

private def range (word : List Char) : Nat × Nat :=
  match word.splitOn '-' with
  | [first, last] => (hexNumber first, hexNumber last)
  | _ => (hexNumber word, hexNumber word)

def read (written : String) : CodeTable :=
  ((words written).map range).toArray

/-- Looks for `code` among the ranges from `low` up to but not including
`high`. -/
def search (table : CodeTable) (code low high : Nat)
    (hhigh : high ≤ table.size) : Bool :=
  if hwindow : low < high then
    let middle := low + (high - low) / 2
    have hmiddle : middle < table.size := by omega
    if code < table[middle].1 then
      search table code low middle (by omega)
    else if table[middle].2 < code then
      search table code (middle + 1) high hhigh
    else
      true
  else
    false
termination_by high - low

def contains (table : CodeTable) (code : Nat) : Bool :=
  search table code 0 table.size (Nat.le_refl _)

end CodeTable

/-- A named part of a table: the accepted spellings of its name, in lower case
and without separators, and its code points as written. -/
abbrev Entry := List String × String

/-- The code points that the first entry of that name lists. -/
def lookup? (entries : List Entry) (name : String) : Option CodeTable :=
  (entries.find? fun entry => entry.1.contains name).map
    fun entry => CodeTable.read entry.2

/-- The code points of the entry of that name, none if there is no such
entry. -/
def table (entries : List Entry) (name : String) : CodeTable :=
  (lookup? entries name).getD #[]

end FactStream.Unicode
