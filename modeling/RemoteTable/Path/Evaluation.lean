import RemoteTable.Json.Reading
import RemoteTable.Path.Query
import RemoteTable.Pattern.Search

/-!
What queries select.  Nodes come in document order for each selector, and a node that is selected
twice comes twice.  A descendant segment visits a node before its descendants.
-/

namespace RemoteTable
namespace Path

/-- The items of an array and the member values of an object. -/
def children : Json → List Json
  | .array items => items
  | .object members => members.map Prod.snd
  | _ => []

mutual

/-- What a selection gives for a node and then for its descendants. -/
def visit (select : Json → List Json) : Json → List Json
  | .array items => select (.array items) ++ visitItems select items
  | .object members => select (.object members) ++ visitMembers select members
  | .null => select .null
  | .bool b => select (.bool b)
  | .number n => select (.number n)
  | .string s => select (.string s)

def visitItems (select : Json → List Json) : List Json → List Json
  | [] => []
  | item :: items => visit select item ++ visitItems select items

def visitMembers (select : Json → List Json) : List (String × Json) → List Json
  | [] => []
  | (_, value) :: members => visit select value ++ visitMembers select members

end

/-- A position in an array, counted from the end when negative. -/
def item? (items : List Json) (i : Int) : Option Json :=
  if 0 ≤ i then items[i.toNat]?
  else if i.natAbs ≤ items.length then items[items.length - i.natAbs]?
  else none

/-- Every `step`-th position from `i`, going up to `stop` or down to it; the count bounds them. -/
def positions (i stop step : Int) : Nat → List Nat
  | 0 => []
  | count + 1 =>
    if (0 < step ∧ i < stop) ∨ (step < 0 ∧ stop < i) then
      i.toNat :: positions (i + step) stop step count
    else []

/-- The items of a slice: ends that are negative count from the end, ends that lie outside are moved
to the array, and a step of zero selects nothing. -/
def slice (items : List Json) (start stop step : Option Int) : List Json :=
  let n : Int := items.length
  let step := step.getD 1
  let fromEnd (i : Int) : Int := if 0 ≤ i then i else n + i
  let clamp (least greatest i : Int) : Int := min (max i least) greatest
  let (first, last) :=
    if 0 < step then
      (clamp 0 n (fromEnd (start.getD 0)), clamp 0 n (fromEnd (stop.getD n)))
    else
      (clamp (-1) (n - 1) (fromEnd (start.getD (n - 1))),
        clamp (-1) (n - 1) (fromEnd (stop.getD (-n - 1))))
  (positions first last step items.length).filterMap (items[·]?)

/-- Equality of operands: nothing equals only nothing, and numbers are compared as doubles. -/
def operandsEqual : Option Json → Option Json → Bool
  | none, none => true
  | some (.number a), some (.number b) => (real a).equal (real b)
  | some a, some b => a.equal b
  | _, _ => false
where
  real : Json.Number → Binary64
    | .integer i => Ieee.ofInt i
    | .real x => x

/-- The order of numbers and of strings; nothing else is ordered. -/
def operandsLess : Option Json → Option Json → Bool
  | some (.number a), some (.number b) => (operandsEqual.real a).less (operandsEqual.real b)
  | some (.string a), some (.string b) => a < b
  | _, _ => false

/-- Whether two operands are documents of the same kind. -/
def sameKind : Option Json → Option Json → Bool
  | some .null, some .null => true
  | some (.bool _), some (.bool _) => true
  | some (.number _), some (.number _) => true
  | some (.string _), some (.string _) => true
  | some (.array _), some (.array _) => true
  | some (.object _), some (.object _) => true
  | _, _ => false

/-- Whether a comparison holds.  Operands of different kinds are unequal and unordered. -/
def Comparison.holds (op : Comparison) (a b : Option Json) : Bool :=
  match op with
  | .equal => operandsEqual a b
  | .notEqual => !operandsEqual a b
  | .less => sameKind a b && operandsLess a b
  | .lessOrEqual => sameKind a b && (operandsLess a b || operandsEqual a b)
  | .greater => sameKind a b && !operandsLess a b && !operandsEqual a b
  | .greaterOrEqual => sameKind a b && !operandsLess a b

/-- The characters of a string, the items of an array or the members of an object. -/
def lengthOf? : Option Json → Option Json
  | some (.string s) => some (.integer s.length)
  | some (.array items) => some (.integer items.length)
  | some (.object members) => some (.integer members.length)
  | _ => none

/-- Whether a string contains what a regular expression describes, which stands in a group between
the two given texts.  Both must be strings.  A carriage return ends a line like a line feed. -/
def containsMatch (before after : String) : Option Json → Option Json → Bool
  | some (.string text), some (.string expression) =>
    Regex.occursIn ("(?R)" ++ before ++ "(" ++ expression ++ ")" ++ after) text
  | _, _ => false

mutual

/-- The children of a node that a selector selects. -/
def Selector.select (document : Json) : Selector → Json → List Json
  | .name key, node => (node.member? key).toList
  | .wildcard, node => children node
  | .index i, .array items => (item? items i).toList
  | .index _, _ => []
  | .slice start stop step, .array items => slice items start stop step
  | .slice _ _ _, _ => []
  | .filter c, node => (children node).filter fun child => c.holds document child

/-- The nodes that a list of selectors selects, selector by selector. -/
def selectAll (document : Json) : List Selector → Json → List Json
  | [], _ => []
  | s :: selectors, node => s.select document node ++ selectAll document selectors node

/-- The nodes that a segment leads to. -/
def Segment.select (document : Json) : Segment → Json → List Json
  | .child selectors, node => selectAll document selectors node
  | .descendant selectors, node => visit (fun child => selectAll document selectors child) node

/-- The nodes that segments lead to, one segment after another. -/
def follow (document : Json) : List Segment → List Json → List Json
  | [], nodes => nodes
  | s :: segments, nodes => follow document segments (nodes.flatMap fun n => s.select document n)

/-- The nodes that a query selects, given the node under test. -/
def Query.nodes (document : Json) : Query → Json → List Json
  | .root segments, _ => follow document segments [document]
  | .current segments, node => follow document segments [node]

/-- The document that an operand denotes. -/
def Operand.value? (document : Json) : Operand → Json → Option Json
  | .literal j, _ => some j
  | .first q, node => (q.asOperand (q.nodes document node)).head?
  | .length o, node => lengthOf? (o.value? document node)
  | .count q, node => some (.integer (q.asOperand (q.nodes document node)).length)
  | .only q, node =>
    match q.asOperand (q.nodes document node) with
    | [j] => some j
    | _ => none

/-- Whether a condition holds at a node. -/
def Condition.holds (document : Json) : Condition → Json → Bool
  | .nonempty q, node => !(q.nodes document node).isEmpty
  | .compare op l r, node => op.holds (l.value? document node) (r.value? document node)
  | .wholeMatch text pattern, node =>
    containsMatch "^" "$" (text.value? document node) (pattern.value? document node)
  | .partMatch text pattern, node =>
    containsMatch "" "" (text.value? document node) (pattern.value? document node)
  | .not c, node => !c.holds document node
  | .and c d, node => c.holds document node && d.holds document node
  | .or c d, node => c.holds document node || d.holds document node

end

end Path
end RemoteTable
