import DataSchema.Text.Blank
import DataSchema.Text.CaseFold
import DataSchema.Text.DigitCharacter
import DataSchema.Text.WordCharacter

/-!
# Sets of characters

The sets that a pattern may ask a character to be in. `sameLetters` closes a set under case: a
character is in the closure when one that folds alike is in the set.
-/

namespace DataSchema

inductive CharSet where
  | nothing
  | range (low high : Nat)
  | word
  | digit
  | blank
  | complement (set : CharSet)
  | union (left right : CharSet)
  | inter (left right : CharSet)
  | sameLetters (set : CharSet)
deriving DecidableEq, Repr

namespace CharSet

/-- Membership of a code point. -/
def mem : CharSet → Nat → Bool
  | .nothing, _ => false
  | .range low high, n => low ≤ n && n ≤ high
  | .word, n => Text.inRanges Text.wordRanges n
  | .digit, n => Text.inRanges Text.digitRanges n
  | .blank, n => Text.inRanges Text.blankRanges n
  | .complement set, n => !set.mem n
  | .union left right, n => left.mem n || right.mem n
  | .inter left right, n => left.mem n && right.mem n
  | .sameLetters set, n => set.mem n || (Text.sameLetter n).any set.mem

def contains (set : CharSet) (c : Char) : Bool := set.mem c.toNat

def single (c : Char) : CharSet := .range c.toNat c.toNat

def ofRanges (ranges : List (Char × Char)) : CharSet :=
  ranges.foldl (fun set r => .union set (.range r.1.toNat r.2.toNat)) .nothing

def newline : CharSet := single '\n'

def everything : CharSet := .complement .nothing

/-- The sets that a class names between `[:` and `:]`. -/
def ofClassName? : String → Option CharSet
  | "alnum" => some (ofRanges [('0', '9'), ('A', 'Z'), ('a', 'z')])
  | "alpha" => some (ofRanges [('A', 'Z'), ('a', 'z')])
  | "ascii" => some (ofRanges [('\x00', '\x7f')])
  | "blank" => some (ofRanges [('\t', '\t'), (' ', ' ')])
  | "cntrl" => some (ofRanges [('\x00', '\x1f'), ('\x7f', '\x7f')])
  | "digit" => some (ofRanges [('0', '9')])
  | "graph" => some (ofRanges [('!', '~')])
  | "lower" => some (ofRanges [('a', 'z')])
  | "print" => some (ofRanges [(' ', '~')])
  | "punct" => some (ofRanges [('!', '/'), (':', '@'), ('[', '\x60'), ('\x7b', '~')])
  | "space" =>
    some (ofRanges [('\t', '\t'), ('\n', '\n'), ('\x0b', '\x0b'), ('\x0c', '\x0c'),
      ('\r', '\r'), (' ', ' ')])
  | "upper" => some (ofRanges [('A', 'Z')])
  | "word" => some (ofRanges [('0', '9'), ('A', 'Z'), ('_', '_'), ('a', 'z')])
  | "xdigit" => some (ofRanges [('0', '9'), ('A', 'F'), ('a', 'f')])
  | _ => none

end CharSet

end DataSchema
