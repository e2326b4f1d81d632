import FactStream.Pattern.CharSet
import FactStream.Unicode.GeneralCategory
import FactStream.Unicode.Property
import FactStream.Unicode.Script
import FactStream.Unicode.ScriptExtension

/-!
# Sets of characters with a name

Digits, blanks and the characters of words, in Unicode and in ASCII; the sets
that brackets name, as in `[:alpha:]`; and the properties of Unicode.  Property
names are compared without case, blanks, hyphens, underscores and a leading
`is`.
-/

namespace FactStream.CharSet

open FactStream.Unicode

private def category (name : String) : CharSet :=
  ofTable (table generalCategories name)

private def property (name : String) : CharSet :=
  ofTable (table binaryProperties name)

private def unionOf (sets : List CharSet) : CharSet :=
  sets.foldl union empty

def decimalDigits : CharSet := category "nd"

def blanks : CharSet := ⟨Text.isBlank, 16⟩

def wordCharacters : CharSet :=
  unionOf [property "alphabetic", category "mn", category "mc", category "me",
    category "nd", category "pc", property "joincontrol"]

def asciiDigits : CharSet := interval '0' '9'

def asciiBlanks : CharSet := ofIntervals [('\t', '\r'), (' ', ' ')]

def asciiWordCharacters : CharSet :=
  ofIntervals [('0', '9'), ('A', 'Z'), ('_', '_'), ('a', 'z')]

def alphabetic : CharSet := property "alphabetic"

def numeric : CharSet := unionOf [category "nd", category "nl", category "no"]

/-- The sets of ASCII characters that have a name between colons. -/
def asciiNamed? (name : Text) : Option CharSet :=
  match String.ofList name with
  | "alnum" => some (ofIntervals [('0', '9'), ('A', 'Z'), ('a', 'z')])
  | "alpha" => some (ofIntervals [('A', 'Z'), ('a', 'z')])
  | "ascii" => some (interval '\x00' '\x7F')
  | "blank" => some (ofIntervals [('\t', '\t'), (' ', ' ')])
  | "cntrl" => some (ofIntervals [('\x00', '\x1F'), ('\x7F', '\x7F')])
  | "digit" => some asciiDigits
  | "graph" => some (interval '!' '~')
  | "lower" => some (interval 'a' 'z')
  | "print" => some (interval ' ' '~')
  | "punct" => some (ofIntervals [('!', '/'), (':', '@'), ('[', '\x60'), ('\x7b', '~')])
  | "space" => some asciiBlanks
  | "upper" => some (interval 'A' 'Z')
  | "word" => some asciiWordCharacters
  | "xdigit" => some (ofIntervals [('0', '9'), ('A', 'F'), ('a', 'f')])
  | _ => none

/-- The name in the form in which names are compared.  Only its ASCII
characters count. -/
def normalName (name : Text) : String :=
  let (rest, stripped) :=
    match name with
    | first :: second :: rest =>
        if first.toLower = 'i' ∧ second.toLower = 's' then (rest, true)
        else (name, false)
    | _ => (name, false)
  let kept := (rest.filter fun character =>
    character.toNat < 128 && character != ' ' && character != '_'
      && character != '-').map Char.toLower
  if stripped && kept == ['c'] then "isc" else String.ofList kept

/-- The general categories that a group of them consists of. -/
private def categoryGroups : List (List String × List String) :=
  [(["l", "letter"], ["lu", "ll", "lt", "lm", "lo"]),
    (["lc", "casedletter"], ["lu", "ll", "lt"]),
    (["m", "mark", "combiningmark"], ["mn", "mc", "me"]),
    (["n", "number"], ["nd", "nl", "no"]),
    (["p", "punctuation", "punct"], ["pc", "pd", "ps", "pe", "pi", "pf", "po"]),
    (["s", "symbol"], ["sm", "sc", "sk", "so"]),
    (["z", "separator"], ["zs", "zl", "zp"])]

private def assigned : CharSet :=
  unionOf (generalCategories.map fun entry => ofTable (CodeTable.read entry.2))

/-- The characters of a general category or of a group of them. -/
def generalCategory? (name : String) : Option CharSet :=
  match name with
  | "any" => some full
  | "ascii" => some (interval '\x00' '\x7F')
  | "assigned" => some assigned
  | "unassigned" | "cn" => some assigned.complement
  | "other" | "c" =>
      some (unionOf [category "cc", category "cf", category "co", assigned.complement])
  | _ =>
      match categoryGroups.find? fun group => group.1.contains name with
      | some group => some (unionOf (group.2.map category))
      | none => (lookup? generalCategories name).map ofTable

/-- The characters of a property given by its name alone. -/
def property? (name : Text) : Option CharSet :=
  let name := normalName name
  (lookup? binaryProperties name).map ofTable
    <|> generalCategory? name
    <|> (lookup? scripts name).map ofTable

/-- The characters that have the given value of a property. -/
def propertyValue? (name value : Text) : Option CharSet :=
  let value := normalName value
  match normalName name with
  | "gc" | "generalcategory" => generalCategory? value
  | "sc" | "script" => (lookup? scripts value).map ofTable
  | "scx" | "scriptextensions" => (lookup? scriptExtensions value).map ofTable
  | _ => none

end FactStream.CharSet
