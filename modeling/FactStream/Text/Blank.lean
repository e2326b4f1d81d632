/-!
# Blank characters

A character is blank when it has the Unicode property White_Space.  Lines,
names and counts are compared without the blanks around them, so this one set
decides what "around" means everywhere.
-/

namespace FactStream

/-- A text is the list of its characters, so its order is by code point. -/
abbrev Text := List Char

namespace Text

/-- The code points with the property White_Space, as inclusive ranges. -/
def blankRanges : List (Nat × Nat) :=
  [(0x09, 0x0D), (0x20, 0x20), (0x85, 0x85), (0xA0, 0xA0), (0x1680, 0x1680),
    (0x2000, 0x200A), (0x2028, 0x2029), (0x202F, 0x202F), (0x205F, 0x205F),
    (0x3000, 0x3000)]

def isBlank (character : Char) : Bool :=
  blankRanges.any fun range =>
    range.1 ≤ character.toNat && character.toNat ≤ range.2

def trimStart (text : Text) : Text :=
  text.dropWhile isBlank

def trimEnd (text : Text) : Text :=
  (text.reverse.dropWhile isBlank).reverse

/-- The text without the blanks at its two ends. -/
def trim (text : Text) : Text :=
  text.trimStart.trimEnd

/-- A text of blanks only. -/
def isBlankText (text : Text) : Bool :=
  text.all isBlank

end Text

end FactStream
