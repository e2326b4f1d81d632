import FactStream.Pattern.Bracket
import FactStream.Text.Numeral

/-!
# Reading patterns

A pattern is read from left to right.  What stands open, groups and choices,
is kept on a stack; every step takes at least one character, so as many steps
as there are characters are enough.
-/

namespace FactStream.Pattern

/-- A pattern and how deep its parts are nested. -/
structure Piece where
  pattern : Pattern
  depth : Nat

/-- What stands in a sequence: a piece, or a change of flags, which cannot be
repeated. -/
inductive Item where
  | piece (content : Piece)
  | flags

namespace Item

def content : Item → Piece
  | piece content => content
  | flags => ⟨.empty, 0⟩

end Item

/-- Pieces that stand together are one level deeper than the deepest. -/
def deepest (pieces : List Piece) : Nat :=
  pieces.foldl (fun depth piece => max depth piece.depth) 0

/-- The sequence of the items, the last of which comes first. -/
def closeSequence (items : List Item) : Piece :=
  match items with
  | [] => ⟨.empty, 0⟩
  | [item] => item.content
  | items =>
      let pieces := items.reverse.map Item.content
      ⟨sequenceOf (pieces.map Piece.pattern), deepest pieces + 1⟩

/-- The choice of the branches, the last of which comes first. -/
def closeChoice (branches : List Piece) : Piece :=
  match branches with
  | [branch] => branch
  | branches =>
      let pieces := branches.reverse
      ⟨choiceOf (pieces.map Piece.pattern), deepest pieces + 1⟩

/-- What has been read of a group: the branches that have ended and the items
of the one that has not, the last ones first. -/
structure Level where
  branches : List Piece
  items : List Item

namespace Level

def empty : Level := ⟨[], []⟩

def push (level : Level) (item : Item) : Level :=
  { level with items := item :: level.items }

def nextBranch (level : Level) : Level :=
  ⟨closeSequence level.items :: level.branches, []⟩

def close (level : Level) : Piece :=
  closeChoice (closeSequence level.items :: level.branches)

end Level

structure Reader where
  flags : Flags
  level : Level
  /-- The levels around the one being read, each with the flags that hold
  again when this one is closed. -/
  outer : List (Level × Flags)
  /-- The names of groups so far; no two groups share one. -/
  names : List Text

namespace Reader

def start : Reader := ⟨.initial, .empty, [], []⟩

def push (reader : Reader) (piece : Piece) : Reader :=
  { reader with level := reader.level.push (.piece piece) }

/-- The set of the characters that a dot stands for. -/
def dotSet (flags : Flags) : CharSet :=
  if flags.dotMatchesNewline then .full
  else if flags.carriageReturn then
    ⟨fun character => character != '\n' && character != '\r', 8⟩
  else ⟨fun character => character != '\n', 7⟩

/-- The pattern of a character, with its variants if case is ignored. -/
def literalPattern (flags : Flags) (character : Char) : Pattern :=
  if flags.ignoreCase then
    if flags.unicode then
      let group := Unicode.caseGroup character.toNat
      .one ⟨fun other => group.contains other.toNat, character.utf8Size * group.length⟩
    else .one (CharSet.foldAsciiCase (.single character))
  else .one (.single character)

/-- The pattern of a primitive.  Where bytes are meant there is none for a dot
and for a byte that is not ASCII, since it could match half a character. -/
def primitivePattern? (flags : Flags) : Primitive → Option Pattern
  | .literal character byte =>
      if byte && !flags.unicode && 128 ≤ character.toNat then none
      else some (literalPattern flags character)
  | .set set => some (.one set)
  | .look condition => some (.look condition)
  | .dot => if flags.unicode then some (.one (dotSet flags)) else none

def lineStart (flags : Flags) : Look :=
  if flags.multiLine then .lineStart flags.carriageReturn else .textStart

def lineStop (flags : Flags) : Look :=
  if flags.multiLine then .lineStop flags.carriageReturn else .textStop

def readPrimitive (flags : Flags) (text : Text) : Option (Primitive × Text) :=
  match text with
  | [] => none
  | '\\' :: rest => Escape.read flags rest
  | '.' :: rest => some (.dot, rest)
  | '^' :: rest => some (.look (lineStart flags), rest)
  | '$' :: rest => some (.look (lineStop flags), rest)
  | character :: rest => some (.literal character false, rest)

/-- Replaces the last item by a repetition of it. -/
def repeatLast (reader : Reader) (least : Nat) (most : Option Nat) :
    Option Reader :=
  match reader.level.items with
  | .piece piece :: items =>
      some { reader with
        level := { reader.level with
          items := .piece ⟨.repetition least most piece.pattern, piece.depth + 1⟩
            :: items } }
  | _ => none

/-- Whether as few repetitions as possible are preferred makes no difference
to what is found. -/
def skipLazy : Text → Text
  | '?' :: rest => rest
  | rest => rest

/-- Reads digits on from `value`, at most `fuel` of them. -/
def readDigits (flags : Flags) (value : Option Nat) :
    (fuel : Nat) → Text → Option Nat × Text
  | 0, text => (value, text)
  | fuel + 1, text =>
      match text with
      | [] => (value, [])
      | character :: _ =>
          match Numeral.digit? character with
          | some digit =>
              readDigits flags (some (value.getD 0 * 10 + digit)) fuel
                (flags.next text)
          | none => (value, text)

/-- The most often that a repetition can be asked for. -/
def countLimit : Nat := 0xFFFFFFFF

/-- Reads a number of repetitions, with blanks around it. -/
def readCount (flags : Flags) (text : Text) : Option (Nat × Text) :=
  match readDigits flags none (text.length + 1) text.trimStart with
  | (some count, rest) =>
      if count ≤ countLimit then
        some (count, flags.skip rest.trimStart)
      else
        none
  | (none, _) => none

/-- Reads the bounds of a repetition and the brace that closes them. -/
def readBounds (flags : Flags) (text : Text) :
    Option (Nat × Option Nat × Text) := do
  let (least, rest) ← readCount flags (flags.skip text)
  match rest with
  | '\x7d' :: rest => return (least, some least, flags.skip rest)
  | ',' :: rest =>
      match flags.skip rest with
      | '\x7d' :: rest => return (least, none, flags.skip rest)
      | rest =>
          match ← readCount flags rest with
          | (most, '\x7d' :: rest) =>
              if least ≤ most then return (least, some most, flags.skip rest)
              else none
          | _ => none
  | _ => none

def isNameStart (character : Char) : Bool :=
  character == '_' || CharSet.alphabetic.contains character

def isNameRest (character : Char) : Bool :=
  isNameStart character || CharSet.numeric.contains character
    || character == '.' || character == '[' || character == ']'

def isName : Text → Bool
  | [] => false
  | first :: rest => isNameStart first && rest.all isNameRest

/-- Reads the name of a group, up to the bracket that closes it. -/
def readName (reader : Reader) (text : Text) : Option (Text × Text) :=
  match text.span fun character => character != '>' with
  | (name, _ :: rest) =>
      if isName name && !reader.names.contains name then some (name, rest)
      else none
  | (_, []) => none

/-- Opens a group in which `flags` hold. -/
def openGroup (reader : Reader) (flags : Flags) : Reader :=
  ⟨flags, .empty, (reader.level, reader.flags) :: reader.outer, reader.names⟩

def openNamed (reader : Reader) (text : Text) : Option (Reader × Text) :=
  (readName reader text).map fun (name, rest) =>
    ({ reader.openGroup reader.flags with names := name :: reader.names }, rest)

/-- Reads what follows an opening parenthesis.  Conditions on what stands
before or after are not supported. -/
def readGroup (reader : Reader) (text : Text) : Option (Reader × Text) :=
  match reader.flags.skip text with
  | '?' :: '=' :: _ => none
  | '?' :: '!' :: _ => none
  | '?' :: '<' :: '=' :: _ => none
  | '?' :: '<' :: '!' :: _ => none
  | '?' :: 'P' :: '<' :: rest => reader.openNamed rest
  | '?' :: '<' :: rest => reader.openNamed rest
  | '?' :: rest =>
      match Flags.readItems [] rest with
      | some (items, ':', rest) =>
          some (reader.openGroup (reader.flags.apply true items), rest)
      | some ([], _, _) => none
      | some (items, _, rest) =>
          some ({ reader with
            flags := reader.flags.apply true items
            level := reader.level.push .flags }, rest)
      | none => none
  | rest => some (reader.openGroup reader.flags, rest)

/-- Closes the group that is open; the flags around it hold again. -/
def closeGroup (reader : Reader) : Option Reader :=
  match reader.outer with
  | [] => none
  | (level, flags) :: outer =>
      let piece := reader.level.close
      some ⟨flags, level.push (.piece ⟨piece.pattern, piece.depth + 1⟩), outer,
        reader.names⟩

/-- Reads the next part of a text that is not empty. -/
def step (reader : Reader) (first : Char) (rest : Text) :
    Option (Reader × Text) :=
  match first with
  | '(' => reader.readGroup rest
  | ')' => reader.closeGroup.map (·, rest)
  | '|' => some ({ reader with level := reader.level.nextBranch }, rest)
  | '[' =>
      (Bracket.read reader.flags ('[' :: rest)).map fun (nested, rest) =>
        (reader.push ⟨.one nested.set, nested.depth⟩, rest)
  | '?' => (reader.repeatLast 0 (some 1)).map (·, skipLazy rest)
  | '*' => (reader.repeatLast 0 none).map (·, skipLazy rest)
  | '+' => (reader.repeatLast 1 none).map (·, skipLazy rest)
  | '\x7b' => do
      let (least, most, rest) ← readBounds reader.flags rest
      let reader ← reader.repeatLast least most
      return (reader, skipLazy rest)
  | _ => do
      let (primitive, rest) ← readPrimitive reader.flags (first :: rest)
      let pattern ← primitivePattern? reader.flags primitive
      return (reader.push ⟨pattern, 0⟩, rest)

/-- Reads on to the end, in at most `fuel` steps. -/
def readAll (reader : Reader) : (fuel : Nat) → Text → Option Piece
  | 0, _ => none
  | fuel + 1, text =>
      match reader.flags.skip text with
      | [] => if reader.outer.isEmpty then some reader.level.close else none
      | first :: rest =>
          match reader.step first rest with
          | some (reader, rest) => readAll reader fuel rest
          | none => none

end Reader

/-- Parts are nested at most this deep. -/
def depthLimit : Nat := 250

/-- A recogniser has at most this many states. -/
def statesLimit : Nat := 327680

/-- The pattern that a text describes, if it is well formed and not too
large. -/
def ofText? (text : Text) : Option Pattern :=
  match Reader.start.readAll (text.length + 1) text with
  | none => none
  | some piece =>
      if piece.depth ≤ depthLimit && piece.pattern.states ≤ statesLimit then
        some piece.pattern
      else
        none

end FactStream.Pattern
