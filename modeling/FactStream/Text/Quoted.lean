import FactStream.Text.Blank
import FactStream.Unicode.GeneralCategory
import FactStream.Unicode.Property

/-!
# Quoted text

Messages quote text so that it can be read on a terminal: what has no glyph of
its own, or would fuse with the character before it, is written by its code
point.
-/

namespace FactStream

namespace Unicode

/-- The categories whose characters leave no mark of their own. -/
private def markless : List String :=
  ["cc", "cf", "co", "zl", "zp", "zs"]

private def markedTables : List CodeTable :=
  (generalCategories.filter fun entry =>
    !markless.any fun category => entry.1.contains category).map
      fun entry => CodeTable.read entry.2

private def extendingTable : CodeTable :=
  table binaryProperties "graphemeextend"

/-- A character that leaves a mark; of the separators only the space does. -/
def isPrintable (character : Char) : Bool :=
  character == ' ' ||
    markedTables.any fun marked => marked.contains character.toNat

/-- A character that is shown together with the one before it. -/
def extendsGrapheme (character : Char) : Bool :=
  extendingTable.contains character.toNat

end Unicode

namespace Text

/-- The code point in lower-case hexadecimal, between braces. -/
def escapeCode (character : Char) : Text :=
  ['\\', 'u', '\x7b'] ++ Nat.toDigits 16 character.toNat ++ ['\x7d']

def escape (character : Char) : Text :=
  match character with
  | '\x00' => ['\\', '0']
  | '\t' => ['\\', 't']
  | '\r' => ['\\', 'r']
  | '\n' => ['\\', 'n']
  | '\\' => ['\\', '\\']
  | '"' => ['\\', '"']
  | _ =>
      if Unicode.extendsGrapheme character then escapeCode character
      else if Unicode.isPrintable character then [character]
      else escapeCode character

/-- The text between double quotes, its characters escaped. -/
def quoted (text : Text) : Text :=
  '"' :: text.flatMap escape ++ ['"']

/-- The quoted texts between square brackets, divided by commas. -/
def quotedList (texts : List Text) : Text :=
  '[' :: [',', ' '].intercalate (texts.map quoted) ++ [']']

end Text

end FactStream
