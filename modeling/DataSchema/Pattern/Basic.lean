import DataSchema.Pattern.CharSet

/-!
# Patterns and their matches

A pattern is a regular expression over characters with assertions about positions. `Pattern.ends`
computes, from a set of positions, all positions at which a match that starts in the set may end;
sets are ascending lists of positions. A text matches when a match starts anywhere in it, so greedy
and lazy repetition need not be told apart.
-/

namespace DataSchema

/-- What can be asked of a position between characters. -/
inductive Assertion where
  | textStart | textEnd | lineStart | lineEnd
  | wordBoundary | noWordBoundary | wordStart | wordEnd | wordStartHalf | wordEndHalf
deriving DecidableEq, Repr

inductive Pattern where
  | empty
  | oneOf (set : CharSet)
  | assertion (assertion : Assertion)
  | sequence (first second : Pattern)
  | either (left right : Pattern)
  | repeated (min : Nat) (max : Option Nat) (body : Pattern)
deriving DecidableEq, Repr

namespace Assertion

/-- Whether the assertion holds between the two given neighbours. -/
def holds (before after : Option Char) : Assertion → Bool
  | .textStart => before.isNone
  | .textEnd => after.isNone
  | .lineStart => before.isNone || before == some '\n'
  | .lineEnd => after.isNone || after == some '\n'
  | .wordBoundary => before.any Text.isWord != after.any Text.isWord
  | .noWordBoundary => before.any Text.isWord == after.any Text.isWord
  | .wordStart => !before.any Text.isWord && after.any Text.isWord
  | .wordEnd => before.any Text.isWord && !after.any Text.isWord
  | .wordStartHalf => !before.any Text.isWord
  | .wordEndHalf => !after.any Text.isWord

end Assertion

namespace Pattern

/-- The union of two ascending lists of positions, using at most `room` steps. -/
def unionWithin : Nat → List Nat → List Nat → List Nat
  | 0, left, right => left ++ right
  | _ + 1, [], right => right
  | _ + 1, left, [] => left
  | room + 1, a :: left, b :: right =>
    if a < b then a :: unionWithin room left (b :: right)
    else if b < a then b :: unionWithin room (a :: left) right
    else a :: unionWithin room left right

def union (left right : List Nat) : List Nat := unionWithin (left.length + right.length) left right

/-- Applies a step a number of times; once it changes nothing, it never will. -/
def iterate (step : List Nat → List Nat) : Nat → List Nat → List Nat
  | 0, positions => positions
  | n + 1, positions =>
    let next := step positions
    if next = positions then positions else iterate step n next

/-- Everything reached from `frontier` by at most `rounds` steps, together with
what was reached before. -/
def reach (step : List Nat → List Nat) : Nat → List Nat → List Nat → List Nat
  | 0, reached, _ => reached
  | rounds + 1, reached, frontier =>
    match (step frontier).filter fun position => !reached.contains position with
    | [] => reached
    | fresh => reach step rounds (union reached fresh) fresh

/-- The positions where a match may end that starts at one of the given positions. An unbounded
repetition cannot reach anything new after one round for each position of the text. -/
def ends (text : Array Char) : Pattern → List Nat → List Nat
  | .empty, starts => starts
  | .oneOf set, starts =>
    starts.filterMap fun i => match text[i]? with
      | some c => if set.contains c then some (i + 1) else none
      | none => none
  | .assertion a, starts =>
    starts.filter fun i => a.holds (if i = 0 then none else text[i - 1]?) text[i]?
  | .sequence first second, starts => second.ends text (first.ends text starts)
  | .either left right, starts => union (left.ends text starts) (right.ends text starts)
  | .repeated min max body, starts =>
    let required := iterate (body.ends text) min starts
    let rounds := match max with
      | some max => max - min
      | none => text.size + 1
    reach (body.ends text) rounds required required

/-- Whether every match is empty. -/
def isZeroWidth : Pattern → Bool
  | .empty => true
  | .oneOf _ => false
  | .assertion _ => true
  | .sequence first second => first.isZeroWidth && second.isZeroWidth
  | .either left right => left.isZeroWidth && right.isZeroWidth
  | .repeated _ max body => max == some 0 || body.isZeroWidth

/-- How many sets and assertions a pattern has when its repetitions are written out. To repeat an
empty match is to match once. -/
def size : Pattern → Nat
  | .empty => 0
  | .oneOf _ => 1
  | .assertion _ => 1
  | .sequence first second => first.size + second.size
  | .either left right => left.size + right.size + 1
  | .repeated min max body =>
    if body.isZeroWidth then body.size else max.getD (Nat.max min 1) * body.size

/-- Whether some part of the text matches. -/
def isMatch (pattern : Pattern) (text : String) : Bool :=
  let chars := text.toList.toArray
  !(pattern.ends chars (List.range (chars.size + 1))).isEmpty

end Pattern

end DataSchema
