/-!
# Paths into documents

A path lists the object keys and list indexes that lead from the root of a document to a value.
Findings, conversion notes and merge errors carry one.
-/

namespace DataSchema

inductive Segment where
  | key (name : String)
  | index (position : Nat)
deriving DecidableEq, Repr

abbrev Path := List Segment

namespace Segment

/-- A segment on its own: a bare key, or an index between brackets. -/
def text : Segment → String
  | .key name => name
  | .index position => "[" ++ toString position ++ "]"

end Segment

namespace Path

/-- The segments behind the first one: keys follow a point, indexes stand between brackets. -/
def tailText (path : Path) : String :=
  String.join (path.map fun
    | .key name => "." ++ name
    | .index position => "[" ++ toString position ++ "]")

/-- The text of a path, such as `vlans[0].id`. -/
def text : Path → String
  | [] => "<root>"
  | first :: rest => first.text ++ tailText rest

/-- The path one step below. -/
def join (path : Path) (segment : Segment) : Path := path ++ [segment]

end Path

end DataSchema
