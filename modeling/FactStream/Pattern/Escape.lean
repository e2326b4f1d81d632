import FactStream.Pattern.Flags

/-!
# Escapes

What a backslash can introduce: a character taken literally or given by its
code point, a set of characters, or a condition on a place.
-/

namespace FactStream.Pattern

/-- The smallest pieces of a pattern. -/
inductive Primitive where
  /-- A character; `byte` if it is written as the value of one byte. -/
  | literal (character : Char) (byte : Bool)
  | set (set : CharSet)
  | look (condition : Look)
  | dot

/-- In bytes no set may contain a byte that is not ASCII. -/
def bytesOnly? (flags : Flags) (set : CharSet) : Option CharSet :=
  if flags.unicode || set.isAscii then some set else none

/-- Adds what differs in case if that is to be ignored, and then takes the
complement if the set is negated. -/
def finishSet (flags : Flags) (negated : Bool) (set : CharSet) : Option CharSet :=
  let folded :=
    if flags.ignoreCase then
      if flags.unicode then set.foldCase else set.foldAsciiCase
    else
      set
  bytesOnly? flags (folded.complementIf negated)

namespace Escape

def hexDigit? (character : Char) : Option Nat :=
  if '0' ≤ character ∧ character ≤ '9' then
    some (character.toNat - '0'.toNat)
  else if 'a' ≤ character ∧ character ≤ 'f' then
    some (character.toNat - 'a'.toNat + 10)
  else if 'A' ≤ character ∧ character ≤ 'F' then
    some (character.toNat - 'A'.toNat + 10)
  else
    none

/-- The character with the code point, if there is one. -/
def character? (code : Nat) : Option Char :=
  if code.isValidChar then some (Char.ofNat code) else none

/-- Reads exactly `count` hexadecimal digits on from `value`. -/
def readHexDigits (flags : Flags) (value : Nat) :
    (count : Nat) → Text → Option (Nat × Text)
  | 0, text => some (value, text)
  | count + 1, text =>
      match text with
      | [] => none
      | character :: _ =>
          match hexDigit? character with
          | none => none
          | some digit =>
              readHexDigits flags (value * 16 + digit) count (flags.next text)

/-- Reads hexadecimal digits up to a closing brace, at most `fuel` characters;
there has to be a digit. -/
def readBracedHex (flags : Flags) (value : Option Nat) :
    (fuel : Nat) → Text → Option (Nat × Text)
  | 0, _ => none
  | fuel + 1, text =>
      match text with
      | [] => none
      | '\x7d' :: _ => value.map fun value => (value, flags.next text)
      | character :: _ =>
          match hexDigit? character with
          | none => none
          | some digit =>
              readBracedHex flags (some (value.getD 0 * 16 + digit)) fuel
                (flags.next text)

/-- Reads a code point, in braces or of `count` digits; only two digits
without braces are the value of a byte. -/
def readCode (flags : Flags) (count : Nat) (text : Text) :
    Option (Primitive × Text) := do
  match flags.skip text with
  | '\x7b' :: rest =>
      let (code, rest) ← readBracedHex flags none (rest.length + 1) (flags.skip rest)
      return (.literal (← character? code) false, rest)
  | rest =>
      let (code, rest) ← readHexDigits flags 0 count rest
      return (.literal (← character? code) (count == 2), rest)

/-- Splits at the first place where `separator` stands. -/
def splitAt? (separator : Text) : Text → Option (Text × Text)
  | [] => none
  | character :: rest =>
      if separator.isPrefixOf (character :: rest) then
        some ([], (character :: rest).drop separator.length)
      else
        (splitAt? separator rest).map fun parts => (character :: parts.1, parts.2)

/-- The set that a property between braces names, and whether it says `!=`. -/
def bracedProperty? (name : Text) : Option (CharSet × Bool) :=
  match splitAt? ['!', '='] name with
  | some (name, value) => (CharSet.propertyValue? name value).map (·, true)
  | none =>
      match splitAt? [':'] name <|> splitAt? ['='] name with
      | some (name, value) => (CharSet.propertyValue? name value).map (·, false)
      | none => (CharSet.property? name).map (·, false)

/-- Reads up to a closing brace, at most `fuel` characters. -/
def readBracedName (flags : Flags) (name : Text) :
    (fuel : Nat) → Text → Option (Text × Text)
  | 0, _ => none
  | fuel + 1, text =>
      match text with
      | [] => none
      | '\x7d' :: rest => some (name.reverse, rest)
      | character :: _ =>
          readBracedName flags (character :: name) fuel (flags.next text)

/-- Reads the name of a property, one letter or in braces. -/
def readPropertyName (flags : Flags) (text : Text) :
    Option ((CharSet × Bool) × Text) := do
  match flags.skip text with
  | [] => none
  | '\x7b' :: rest =>
      let (name, rest) ← readBracedName flags [] (rest.length + 1) (flags.skip rest)
      return (← bracedProperty? name, rest)
  | '\\' :: _ => none
  | letter :: rest =>
      return ((← CharSet.property? [letter], false), flags.skip rest)

/-- Properties are of characters, so there are none where bytes are meant. -/
def readProperty (flags : Flags) (negated : Bool) (text : Text) :
    Option (Primitive × Text) := do
  let ((named, unequal), rest) ← readPropertyName flags text
  if flags.unicode then
    let set ← finishSet flags (negated != unequal) named
    return (.set set, rest)
  else
    none

/-- The set of a letter that stands for digits, blanks or the characters of
words. -/
def letterSet (flags : Flags) (letter : Char) : CharSet :=
  match letter.toLower, flags.unicode with
  | 'd', true => .decimalDigits
  | 'd', false => .asciiDigits
  | 's', true => .blanks
  | 's', false => .asciiBlanks
  | _, true => .wordCharacters
  | _, false => .asciiWordCharacters

def isMeta (character : Char) : Bool :=
  "\\.+*?()|[]\x7b\x7d^$#&-~".toList.contains character

/-- Any ASCII character but letters, digits and angle brackets stands for
itself after a backslash. -/
def standsForItself (character : Char) : Bool :=
  isMeta character ||
    character.toNat < 128 && !character.isAlphanum && character != '<'
      && character != '>'

def control? : Char → Option Char
  | 'a' => some '\x07'
  | 'f' => some '\x0C'
  | 't' => some '\t'
  | 'n' => some '\n'
  | 'r' => some '\r'
  | 'v' => some '\x0B'
  | _ => none

def isEdgeLetter (character : Char) : Bool :=
  character.isAlpha || character == '-'

/-- Reads the letters of a word edge, at most `fuel` of them. -/
def readEdgeName (flags : Flags) (name : Text) :
    (fuel : Nat) → Text → Text × Text
  | 0, text => (name.reverse, text)
  | fuel + 1, text =>
      match text with
      | [] => (name.reverse, [])
      | character :: _ =>
          if isEdgeLetter character then
            readEdgeName flags (character :: name) fuel (flags.next text)
          else
            (name.reverse, text)

def edge? (name : Text) : Option WordEdge :=
  match String.ofList name with
  | "start" => some .start
  | "end" => some .stop
  | "start-half" => some .startHalf
  | "end-half" => some .stopHalf
  | _ => none

/-- Reads what follows the letter of a word boundary.  A brace names a special
edge, unless its content does not start with a letter; then it is left to be
read as a repetition. -/
def readBoundary (flags : Flags) (text : Text) : Option (Primitive × Text) :=
  let plain : Primitive := .look (.word .boundary (!flags.unicode))
  match text with
  | '\x7b' :: rest =>
      match flags.skip rest with
      | [] => none
      | character :: content =>
          if isEdgeLetter character then
            match readEdgeName flags [] (content.length + 1) (character :: content) with
            | (name, '\x7d' :: rest) =>
                (edge? name).map fun edge =>
                  (.look (.word edge (!flags.unicode)), rest)
            | _ => none
          else
            some (plain, text)
  | _ => some (plain, text)

/-- Reads what follows a backslash. -/
def read (flags : Flags) (text : Text) : Option (Primitive × Text) :=
  let ascii := !flags.unicode
  match text with
  | [] => none
  | character :: rest =>
      match character with
      | 'x' => readCode flags 2 rest
      | 'u' => readCode flags 4 rest
      | 'U' => readCode flags 8 rest
      | 'p' => readProperty flags false rest
      | 'P' => readProperty flags true rest
      | 'd' | 's' | 'w' => some (.set (letterSet flags character), rest)
      | 'D' | 'S' | 'W' =>
          (bytesOnly? flags (letterSet flags character).complement).map fun set =>
            (.set set, rest)
      | 'A' => some (.look .textStart, rest)
      | 'z' => some (.look .textStop, rest)
      | 'b' => readBoundary flags rest
      | 'B' => some (.look (.word .notBoundary ascii), rest)
      | '<' => some (.look (.word .start ascii), rest)
      | '>' => some (.look (.word .stop ascii), rest)
      | _ =>
          if standsForItself character then some (.literal character false, rest)
          else (control? character).map fun control => (.literal control false, rest)

end Escape

end FactStream.Pattern
