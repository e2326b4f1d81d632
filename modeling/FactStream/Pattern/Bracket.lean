import FactStream.Pattern.Escape

/-!
# Sets in brackets

Brackets list characters, ranges and other sets; brackets nest, and `&&`, `--`
and `~~` intersect, subtract and compare what stands on their two sides, all
binding alike and from the left.
-/

namespace FactStream.Pattern

namespace Bracket

/-- The items of one list in brackets, as one set. -/
structure Items where
  set : CharSet
  count : Nat
  /-- How deep the deepest item is nested. -/
  depth : Nat

namespace Items

def none : Items := ⟨.empty, 0, 0⟩

def add (items : Items) (set : CharSet) (depth : Nat) : Items :=
  ⟨items.set.union set, items.count + 1, max items.depth depth⟩

end Items

/-- A set and how deep it is nested. -/
structure Nested where
  set : CharSet
  depth : Nat

/-- Several items in a list are one level deeper than a single one. -/
def Items.nested (items : Items) : Nested :=
  ⟨items.set, if items.count ≤ 1 then items.depth else items.depth + 1⟩

inductive Operator where
  | intersection
  | difference
  | symmetricDifference
  deriving DecidableEq, Repr

def Operator.apply : Operator → CharSet → CharSet → CharSet
  | intersection => .intersection
  | difference => .difference
  | symmetricDifference => .symmetricDifference

/-- What waits for the set that is being read. -/
inductive Frame where
  /-- An open bracket, after the items of the list it stands in. -/
  | bracket (outer : Items) (negated : Bool)
  | operator (operator : Operator) (left : Nested)

/-- The two sides of an operator are closed under case before it is applied. -/
def fold (flags : Flags) (set : CharSet) : CharSet :=
  if flags.ignoreCase then
    if flags.unicode then set.foldCase else set.foldAsciiCase
  else
    set

/-- Applies the operator that waits, if one does. -/
def applyWaiting (flags : Flags) (stack : List Frame) (right : Nested) :
    Nested × List Frame :=
  match stack with
  | .operator operator left :: stack =>
      (⟨operator.apply (fold flags left.set) (fold flags right.set),
        max left.depth right.depth + 1⟩, stack)
  | _ => (right, stack)

/-- Reads hyphens that stand for themselves; after the last one there has to
be more. -/
def readHyphens (flags : Flags) (items : Items) :
    (fuel : Nat) → Text → Option (Items × Text)
  | 0, _ => .none
  | fuel + 1, text =>
      match text with
      | [] => .none
      | '-' :: _ =>
          readHyphens flags (items.add (.single '-') 0) fuel (flags.next text)
      | _ => some (items, text)

/-- Reads an opening bracket with the caret, the hyphens and the closing
bracket that may follow it at once. -/
def readOpening (flags : Flags) (text : Text) : Option (Bool × Items × Text) := do
  let rest := flags.next text
  let (negated, rest) := match rest with
    | '^' :: _ => (true, flags.next rest)
    | _ => (false, rest)
  let (items, rest) ← readHyphens flags .none (rest.length + 1) rest
  match items.count, rest with
  | 0, ']' :: _ =>
      let rest := flags.next rest
      if rest.isEmpty then .none
      else return (negated, items.add (.single ']') 0, rest)
  | _, _ => return (negated, items, rest)

/-- Reads a set named between colons, from its opening bracket on. -/
def readNamed (flags : Flags) (text : Text) : Option (Option CharSet × Text) := do
  match text with
  | '[' :: ':' :: rest =>
      let (negated, rest) := match rest with
        | '^' :: rest => (true, rest)
        | _ => (false, rest)
      match rest.span fun character => character != ':' with
      | (name, ':' :: ']' :: rest) =>
          let set ← CharSet.asciiNamed? name
          return (finishSet flags negated set, rest)
      | _ => .none
  | _ => .none

def readPrimitive (flags : Flags) (text : Text) : Option (Primitive × Text) :=
  match text with
  | [] => .none
  | '\\' :: rest => Escape.read flags rest
  | character :: rest => some (.literal character false, rest)

/-- Where bytes are meant, only ASCII characters can be listed. -/
def listed? (flags : Flags) (character : Char) : Option Char :=
  if flags.unicode || character.toNat < 128 then some character else .none

/-- The set that a primitive contributes as an item. -/
def itemSet? (flags : Flags) : Primitive → Option CharSet
  | .literal character _ => (listed? flags character).map CharSet.single
  | .set set => some set
  | .look _ => .none
  | .dot => .none

def rangeEnd? (flags : Flags) : Primitive → Option Char
  | .literal character _ => listed? flags character
  | _ => .none

/-- Reads one item: a primitive, or a range of two of them. -/
def readItem (flags : Flags) (text : Text) : Option (CharSet × Text) := do
  let (first, rest) ← readPrimitive flags text
  match flags.skip rest with
  | [] => .none
  | '-' :: after =>
      let ahead := flags.peek? after
      if ahead == some ']' || ahead == some '-' then
        return (← itemSet? flags first, '-' :: after)
      else
        let (last, rest) ← readPrimitive flags (flags.skip after)
        let low ← rangeEnd? flags first
        let high ← rangeEnd? flags last
        if low ≤ high then return (.interval low high, rest) else .none
  | rest => return (← itemSet? flags first, rest)

def operator? : Text → Option (Operator × Text)
  | '&' :: '&' :: rest => some (.intersection, rest)
  | '-' :: '-' :: rest => some (.difference, rest)
  | '~' :: '~' :: rest => some (.symmetricDifference, rest)
  | _ => .none

/-- Reads on in a list whose items so far are `items`, at most `fuel` of
them. -/
def readList (flags : Flags) (stack : List Frame) (items : Items) :
    (fuel : Nat) → Text → Option (Nested × Text)
  | 0, _ => .none
  | fuel + 1, text =>
      match flags.skip text with
      | [] => .none
      | '[' :: rest =>
          match readNamed flags ('[' :: rest) with
          | some (set?, rest) =>
              match set? with
              | some set => readList flags stack (items.add set 0) fuel rest
              | .none => .none
          | .none =>
              match readOpening flags ('[' :: rest) with
              | some (negated, inner, rest) =>
                  readList flags (.bracket items negated :: stack) inner fuel rest
              | .none => .none
      | ']' :: rest =>
          match applyWaiting flags stack items.nested with
          | (whole, .bracket outer negated :: stack) =>
              match finishSet flags negated whole.set with
              | .none => .none
              | some set =>
                  if stack.isEmpty then some (⟨set, whole.depth + 1⟩, rest)
                  else readList flags stack (outer.add set (whole.depth + 1)) fuel rest
          | _ => .none
      | rest =>
          match operator? rest with
          | some (operator, rest) =>
              let (left, stack) := applyWaiting flags stack items.nested
              readList flags (.operator operator left :: stack) .none fuel rest
          | .none =>
              match readItem flags rest with
              | some (set, rest) => readList flags stack (items.add set 0) fuel rest
              | .none => .none

/-- Reads a set in brackets, from its opening bracket on. -/
def read (flags : Flags) (text : Text) : Option (Nested × Text) :=
  match readOpening flags text with
  | some (negated, items, rest) =>
      readList flags [.bracket .none negated] items (rest.length + 1) rest
  | .none => .none

end Bracket

end FactStream.Pattern
