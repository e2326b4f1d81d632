import FactStream.Pattern.NamedSet

/-!
# Patterns

A pattern describes pieces of text: characters one after the other, choices and
repetitions, and conditions on the place in between two characters.
-/

namespace FactStream

/-- How a place relates to the words around it. -/
inductive WordEdge where
  | boundary
  | notBoundary
  | start
  | stop
  | startHalf
  | stopHalf
  deriving DecidableEq, Repr

/-- A condition on a place in a text. -/
inductive Look where
  | textStart
  | textStop
  /-- With `carriage` a carriage return ends a line too. -/
  | lineStart (carriage : Bool)
  | lineStop (carriage : Bool)
  | word (edge : WordEdge) (ascii : Bool)
  deriving DecidableEq, Repr

namespace WordEdge

/-- Whether the edge lies between a character that is `before` a word
character or not and one that is `after`. -/
def holds : WordEdge → (before after : Bool) → Bool
  | boundary, before, after => before != after
  | notBoundary, before, after => before == after
  | start, before, after => !before && after
  | stop, before, after => before && !after
  | startHalf, before, _ => !before
  | stopHalf, _, after => !after

end WordEdge

namespace Look

/-- Whether the condition holds between the character before a place and the
one after it, none at the ends of the text. -/
def holds (look : Look) (before after : Option Char) : Bool :=
  match look with
  | textStart => before.isNone
  | textStop => after.isNone
  | lineStart carriage =>
      before.isNone || before == some '\n'
        || carriage && before == some '\r' && after != some '\n'
  | lineStop carriage =>
      after.isNone
        || if carriage then
            after == some '\r' || after == some '\n' && before != some '\r'
          else
            after == some '\n'
  | word edge ascii =>
      let words := if ascii then CharSet.asciiWordCharacters
        else CharSet.wordCharacters
      edge.holds (before.any words.contains) (after.any words.contains)

end Look

inductive Pattern where
  | empty
  | look (condition : Look)
  | one (set : CharSet)
  | sequence (first second : Pattern)
  | choice (left right : Pattern)
  /-- At least `least` and, if there is a bound, at most `most` times. -/
  | repetition (least : Nat) (most : Option Nat) (body : Pattern)

namespace Pattern

def sequenceOf : List Pattern → Pattern
  | [] => empty
  | [pattern] => pattern
  | pattern :: patterns => sequence pattern (sequenceOf patterns)

def choiceOf : List Pattern → Pattern
  | [] => empty
  | [pattern] => pattern
  | pattern :: patterns => choice pattern (choiceOf patterns)

/-- Whether the pattern matches no character, whatever it matches. -/
def isEmptyOnly : Pattern → Bool
  | empty => true
  | look _ => true
  | one _ => false
  | sequence first second => first.isEmptyOnly && second.isEmptyOnly
  | choice left right => left.isEmptyOnly && right.isEmptyOnly
  | repetition _ most body => most == some 0 || body.isEmptyOnly

/-- An estimate of the states of a recogniser, in which a repetition is
written out. -/
def states : Pattern → Nat
  | empty => 1
  | look _ => 1
  | one set => set.states
  | sequence first second => first.states + second.states
  | choice left right => left.states + right.states + 2
  | repetition least most body =>
      let (least, most) :=
        if body.isEmptyOnly then (min least 1, some (min (most.getD 1) 1))
        else (least, most)
      match most with
      | none => max least 1 * body.states + 1
      | some most => least * body.states + (most - least) * (body.states + 1)

end Pattern

end FactStream
