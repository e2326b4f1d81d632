import FactStream.Pattern.Basic

/-!
# Flags

Flags change what the rest of a pattern means.  They hold up to the end of the
group in which they are set.
-/

namespace FactStream.Pattern

inductive Flag where
  | ignoreCase
  | multiLine
  | dotMatchesNewline
  | swapGreed
  | unicode
  | carriageReturn
  | ignoreSpace
  deriving DecidableEq, Repr

namespace Flag

def ofChar? : Char → Option Flag
  | 'i' => some ignoreCase
  | 'm' => some multiLine
  | 's' => some dotMatchesNewline
  | 'U' => some swapGreed
  | 'u' => some unicode
  | 'R' => some carriageReturn
  | 'x' => some ignoreSpace
  | _ => none

end Flag

structure Flags where
  ignoreCase : Bool
  multiLine : Bool
  dotMatchesNewline : Bool
  unicode : Bool
  carriageReturn : Bool
  ignoreSpace : Bool
  deriving DecidableEq, Repr

/-- One character of a list of flags: a flag, or the sign that negates all
those after it. -/
inductive FlagItem where
  | flag (flag : Flag)
  | negation
  deriving DecidableEq, Repr

namespace Flags

/-- A pattern starts with nothing but Unicode set. -/
def initial : Flags := ⟨false, false, false, true, false, false⟩

/-- Greed decides only which of several matches is preferred, so it is not
kept. -/
def set (flags : Flags) (enabled : Bool) : Flag → Flags
  | .ignoreCase => { flags with ignoreCase := enabled }
  | .multiLine => { flags with multiLine := enabled }
  | .dotMatchesNewline => { flags with dotMatchesNewline := enabled }
  | .swapGreed => flags
  | .unicode => { flags with unicode := enabled }
  | .carriageReturn => { flags with carriageReturn := enabled }
  | .ignoreSpace => { flags with ignoreSpace := enabled }

def apply (flags : Flags) (enabled : Bool) : List FlagItem → Flags
  | [] => flags
  | .negation :: items => apply flags false items
  | .flag flag :: items => apply (flags.set enabled flag) enabled items

/-- Reads flags up to a colon or a closing parenthesis.  `items` are those
read so far, the last one first; none comes twice, and a negation has to be
followed by a flag.  Answers the flags, the character that ends them and the
text after it. -/
def readItems (items : List FlagItem) :
    Text → Option (List FlagItem × Char × Text)
  | [] => none
  | character :: rest =>
      if character = ':' ∨ character = ')' then
        if items.head? = some .negation then none
        else some (items.reverse, character, rest)
      else
        let item? :=
          if character = '-' then some FlagItem.negation
          else (Flag.ofChar? character).map FlagItem.flag
        match item? with
        | none => none
        | some item =>
            if items.contains item then none else readItems (item :: items) rest

/-- Skips blanks and comments, whether or not `inComment`. -/
def skipBlanks (inComment : Bool) : Text → Text
  | [] => []
  | character :: rest =>
      if inComment then skipBlanks (character != '\n') rest
      else if character = '#' then skipBlanks true rest
      else if Text.isBlank character then skipBlanks false rest
      else character :: rest

/-- Skips what the flags say is no part of the pattern. -/
def skip (flags : Flags) (text : Text) : Text :=
  if flags.ignoreSpace then skipBlanks false text else text

/-- Moves past the first character and what is to be skipped after it. -/
def next (flags : Flags) (text : Text) : Text :=
  flags.skip text.tail

/-- The first character that is neither blank nor the first number sign. -/
def firstMark? (afterSign : Bool) : Text → Option Char
  | [] => none
  | character :: rest =>
      if Text.isBlank character then firstMark? afterSign rest
      else if character = '#' ∧ !afterSign then firstMark? true rest
      else some character

/-- The character that decides whether a hyphen in brackets makes a range.  A
comment is looked into here. -/
def peek? (flags : Flags) (text : Text) : Option Char :=
  if flags.ignoreSpace then firstMark? false text else text.head?

end Flags

end FactStream.Pattern
