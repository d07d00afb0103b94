/-!
# Suggestions for misspelt keys

A declared key is suggested for an unknown one when one of the two is a subsequence of the other.
`similarity` scores how well a typed text sits inside a candidate: letters that follow each other
and letters at the beginning of words count more, gaps cost. The table is filled row by row in two
alternating rows of cells, and a cell that is not written keeps what its row held two rows before.
-/

namespace DataSchema.Suggestion

/-- What a character is for the beginning of words. -/
inductive CharClass where
  | start | hardSeparator | softSeparator | number | upper | lower
deriving DecidableEq

def classOf (c : Char) : CharClass :=
  if c = '\x00' then .start
  else if [' ', '/', '\\', '|', '(', ')', '[', ']', '\x7b', '\x7d'].contains c then .hardSeparator
  else if ('!' ≤ c && c ≤ '\x27') || ('*' ≤ c && c ≤ '.') || (':' ≤ c && c ≤ '@') ||
    ('^' ≤ c && c ≤ '\x60') || c = '~' then
    .softSeparator
  else if c.isDigit then .number
  else if c.isUpper then .upper
  else .lower

/-- The reward for matching a character behind another one. -/
def bonus (previous current : CharClass) : Int :=
  match previous, current with
  | .start, _ | .hardSeparator, _ => 8
  | .softSeparator, _ => 7
  | .lower, .upper | .number, .upper => 6
  | _, _ => 0

def bonuses (classes : List CharClass) : List Int :=
  ((CharClass.start :: classes).zip classes).mapIdx fun i pair =>
    (if i = 0 then 2 else 1) * bonus pair.1 pair.2

structure Cell where
  /-- The best score when the column's character is matched. -/
  matched : Int
  /-- The best score when it is passed over. -/
  passed : Int
  run : Int

def lowest : Int := -32768

def Cell.initial : Cell := ⟨lowest, lowest, 0⟩

def sameChar (caseSensitive : Bool) (a b : Char) : Bool :=
  a == b || (!caseSensitive && a.toLower == b.toLower)

/-- The leftmost places in the candidate of the typed characters, one after the other. -/
def leftmost? (same : Char → Char → Bool) : List Char → Nat → List Char → Option (List Nat)
  | [], _, _ => some []
  | _ :: _, _, [] => none
  | p :: typed, i, c :: rest =>
    if same c p then (leftmost? same typed (i + 1) rest).map (i :: ·)
    else leftmost? same (p :: typed) (i + 1) rest

def cellAt (row : Array Cell) (column : Nat) : Cell := row.getD column Cell.initial

/-- Fills one cell of a row from the row of the character before. -/
def fillCell (caseSensitive : Bool) (typed : Char) (candidate : Array Char) (rewards : Array Int)
    (previous row : Array Cell) (column : Nat) :
    Array Cell :=
  let c := candidate.getD (column - 1) ' '
  let reward := rewards.getD (column - 1) 0
  let left := cellAt row (column - 1)
  let diagonal := cellAt previous (column - 1)
  let here := cellAt row column
  let (row, here) :=
    if sameChar caseSensitive c typed then
      let score : Int := if !caseSensitive && typed != c then 14 else 16
      let run := max (max left.run reward) 4
      let matched := max (diagonal.matched + run) (diagonal.passed + reward) + score
      (row.setIfInBounds (column - 1) { left with run := run }, { here with matched := matched })
    else (row, { here with matched := lowest, run := 0 })
  row.setIfInBounds column { here with passed := max (left.matched - 4) (left.passed - 1) }

/-- Fills the rows of the typed characters, given with their leftmost places,
and returns the last row. -/
def fillRows (caseSensitive : Bool) (candidate : Array Char) (rewards : Array Int) :
    List (Char × Nat) → Array Cell → Array Cell → Array Cell
  | [], previous, _ => previous
  | (typed, first) :: rest, previous, row =>
    let columns := (List.range candidate.size).drop first |>.map (· + 1)
    let filled := columns.foldl (fillCell caseSensitive typed candidate rewards previous) row
    fillRows caseSensitive candidate rewards rest filled previous

/-- How well a typed text sits in a candidate; nothing when it is no subsequence of it. Case counts
only when the typed text has a capital. -/
def similarity? (candidate typed : String) : Option Int :=
  let characters := candidate.toList
  let wanted := typed.toList
  if wanted.isEmpty then some 0
  else
    let caseSensitive := wanted.any Char.isUpper
    (leftmost? (sameChar caseSensitive) wanted 0 characters).map fun places =>
      let array := characters.toArray
      let rewards := (bonuses (characters.map classOf)).toArray
      let blank := Array.replicate (array.size + 1) Cell.initial
      let top := blank.map fun cell => { cell with passed := -1 }
      let row := fillRows caseSensitive array rewards (wanted.zip places) top blank
      (row.toList.drop (places.getLast?.getD 0)).foldl
      (fun best cell => max best cell.matched) lowest

/-- The later of the candidates with the best score. -/
def best : List (String × Int) → Option (String × Int)
  | [] => none
  | candidate :: rest =>
    match best rest with
    | some other => if candidate.2 > other.2 then some candidate else some other
    | none => some candidate

/-- The declared key that is most like an unknown one. -/
def closest? (declared : List String) (unknown : String) : Option String :=
  let scored := declared.filterMap fun candidate =>
    ((similarity? candidate unknown).or (similarity? unknown candidate)).map (candidate, ·)
  (best scored).map Prod.fst

end DataSchema.Suggestion
