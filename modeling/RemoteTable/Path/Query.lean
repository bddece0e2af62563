import RemoteTable.Json.Basic

/-!
Queries over JSON documents.  A query starts at the document or at the node under test and follows
segments; each segment selects among the children of a node, or of a node and all its descendants.
-/

namespace RemoteTable
namespace Path

/-- How two operands of a condition are compared. -/
inductive Comparison where
  | equal
  | notEqual
  | less
  | lessOrEqual
  | greater
  | greaterOrEqual

mutual

/-- What is selected among the children of a node. -/
inductive Selector where
  | name (key : String)
  | wildcard
  | index (i : Int)
  | slice (start stop step : Option Int)
  | filter (c : Condition)

/-- A step of a query: selectors for the node, or for the node and all its descendants. -/
inductive Segment where
  | child (selectors : List Selector)
  | descendant (selectors : List Selector)

/-- A query from the document, or from the node under test. -/
inductive Query where
  | root (segments : List Segment)
  | current (segments : List Segment)

/-- An operand of a comparison, which denotes one document or nothing. -/
inductive Operand where
  | literal (j : Json)
  | first (q : Query)
  | length (o : Operand)
  | count (q : Query)
  | only (q : Query)

/-- A condition on the node under test. -/
inductive Condition where
  | nonempty (q : Query)
  | compare (op : Comparison) (left right : Operand)
  | wholeMatch (text pattern : Operand)
  | partMatch (text pattern : Operand)
  | not (c : Condition)
  | and (c d : Condition)
  | or (c d : Condition)

end

namespace Query

def segments : Query → List Segment
  | .root segments | .current segments => segments

/-- Whether the segments are child segments of one name or index each, so that the query selects one
node at most. -/
def isSingular (q : Query) : Bool :=
  q.segments.all fun s =>
    match s with
    | .child [.name _] | .child [.index _] => true
    | _ => false

/-- Whether some segment selects a position counted from the end alone. -/
def countsFromEnd (q : Query) : Bool :=
  q.segments.any fun s =>
    match s with
    | .child [.index i] => i < 0
    | _ => false

/-- What the nodes of a query denote in a comparison or as an argument: all of them, except that a
query for one node counts positions from the start only. -/
def asOperand (q : Query) (nodes : List Json) : List Json :=
  if q.isSingular && q.countsFromEnd then [] else nodes

end Query
end Path
end RemoteTable
