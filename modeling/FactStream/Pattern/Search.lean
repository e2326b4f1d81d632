import FactStream.Pattern.Basic

/-!
# Finding a pattern in a text

A text of `n` characters has `n + 1` places.  A set of places is a number whose
bit `i` stands for place `i`.  For a given text a pattern takes every set of
places to the places at which a piece of text that it describes can end, and
it is found if the set of all places is taken to one that is not empty.  No
choice is ever taken back, so the work grows with the size of the pattern and
the length of the text only.
-/

namespace FactStream.Pattern

/-- A set of places of one text. -/
abbrev Places := Nat

/-- The places at which `test` holds of the characters before and after. -/
def placesWhere (test : Option Char → Option Char → Bool) (before : Option Char) :
    Text → Places
  | [] => if test before none then 1 else 0
  | character :: rest =>
      2 * placesWhere test (some character) rest
        + if test before (some character) then 1 else 0

/-- A pattern seen from one text: conditions and sets of characters have
become the places at which they hold. -/
inductive Route where
  | stay (places : Places)
  | advance (places : Places)
  | sequence (first second : Route)
  | choice (left right : Route)
  | repetition (least : Nat) (most : Option Nat) (body : Route)

def route (text : Text) : Pattern → Route
  | empty => .stay (placesWhere (fun _ _ => true) none text)
  | look condition => .stay (placesWhere condition.holds none text)
  | one set =>
      .advance (placesWhere (fun _ after => after.any set.contains) none text)
  | sequence first second => .sequence (first.route text) (second.route text)
  | choice left right => .choice (left.route text) (right.route text)
  | repetition least most body => .repetition least most (body.route text)

/-- Takes `step` exactly `count` times, or until it changes nothing. -/
def iterate (step : Places → Places) : Nat → Places → Places
  | 0, places => places
  | count + 1, places =>
      let next := step places
      if next = places then places else iterate step count next

/-- The places reached by at most `count` steps. -/
def gather (step : Places → Places) : Nat → Places → Places
  | 0, places => places
  | count + 1, places =>
      let next := places ||| step places
      if next = places then places else gather step count next

namespace Route

/-- The places that are reached from some of `places`.  A route never goes
back, so of more steps than `bound`, the number of places, one stands still;
leaving it out or repeating it makes no difference, and `bound` steps are as
good as any greater number. -/
def follow (bound : Nat) : Route → Places → Places
  | stay allowed, places => places &&& allowed
  | advance allowed, places => (places &&& allowed) <<< 1
  | sequence first second, places => second.follow bound (first.follow bound places)
  | choice left right, places => left.follow bound places ||| right.follow bound places
  | repetition least most body, places =>
      let reached := iterate (body.follow bound) (min least bound) places
      let further := match most with
        | none => bound
        | some most => min (most - least) bound
      gather (body.follow bound) further reached

end Route

/-- Whether some piece of the text is as the pattern describes. -/
def isFoundIn (pattern : Pattern) (text : Text) : Bool :=
  let bound := text.length + 1
  (pattern.route text).follow bound (Nat.pow 2 bound - 1) != 0

end FactStream.Pattern
