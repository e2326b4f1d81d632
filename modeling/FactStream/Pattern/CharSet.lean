import FactStream.Text.Blank
import FactStream.Unicode.CaseFolding

/-!
# Sets of characters

A pattern tests characters one at a time, so a set of characters is its
membership test.  With it goes an estimate of the states that a recogniser of
the set needs, by which patterns that are too large are told.
-/

namespace FactStream

structure CharSet where
  contains : Char → Bool
  states : Nat

namespace CharSet

def empty : CharSet := ⟨fun _ => false, 1⟩

def full : CharSet := ⟨fun _ => true, 6⟩

def single (character : Char) : CharSet :=
  ⟨fun other => other == character, character.utf8Size⟩

/-- The characters from `first` to `last`, both included. -/
def interval (first last : Char) : CharSet :=
  ⟨fun character => first ≤ character && character ≤ last, 2 * last.utf8Size⟩

/-- The characters of some intervals. -/
def ofIntervals (intervals : List (Char × Char)) : CharSet :=
  ⟨fun character => intervals.any fun ends =>
    ends.1 ≤ character && character ≤ ends.2, 2⟩

def ofTable (table : Unicode.CodeTable) : CharSet :=
  ⟨fun character => table.contains character.toNat, table.size + 1⟩

def union (left right : CharSet) : CharSet :=
  ⟨fun character => left.contains character || right.contains character,
    left.states + right.states⟩

def intersection (left right : CharSet) : CharSet :=
  ⟨fun character => left.contains character && right.contains character,
    left.states + right.states⟩

def difference (left right : CharSet) : CharSet :=
  ⟨fun character => left.contains character && !right.contains character,
    left.states + right.states⟩

def symmetricDifference (left right : CharSet) : CharSet :=
  ⟨fun character => left.contains character != right.contains character,
    left.states + right.states⟩

def complement (set : CharSet) : CharSet :=
  ⟨fun character => !set.contains character, set.states + 6⟩

def complementIf (negated : Bool) (set : CharSet) : CharSet :=
  if negated then set.complement else set

/-- The characters that differ from a member in case only. -/
def foldCase (set : CharSet) : CharSet :=
  let groups := Unicode.caseGroups.filter fun group =>
    group.any fun code => set.contains (Char.ofNat code)
  let codes := groups.flatten
  ⟨fun character => set.contains character || codes.contains character.toNat,
    set.states + codes.length⟩

/-- The same for the letters of ASCII alone. -/
def foldAsciiCase (set : CharSet) : CharSet :=
  ⟨fun character => set.contains character || set.contains character.toLower
    || set.contains character.toUpper, 2 * set.states⟩

/-- Whether the set has only ASCII characters, judging by the characters of
one byte. -/
def isAscii (set : CharSet) : Bool :=
  (List.range 128).all fun offset => !set.contains (Char.ofNat (128 + offset))

end CharSet

end FactStream
