import RemoteTable.Pattern.Escape

/-!
Sets of characters in brackets.  Between the brackets stand characters, ranges, escapes, named ASCII
sets and further brackets; doubled marks combine what is before them with what is after them, from
left to right.
-/

namespace RemoteTable
namespace Regex

/-- A named ASCII set after its opening bracket, up to its own closing bracket. -/
def asciiClass : Text.Step Item
  | ':' :: cs =>
    let (negated, cs) :=
      match cs with
      | '^' :: rest => (true, rest)
      | cs => (false, cs)
    match cs.span (· ≠ ':') with
    | (name, ':' :: ']' :: rest) =>
      (Unicode.Ascii.named? (String.ofList name)).map fun s => (.ascii s negated, rest)
    | _ => none
  | _ => none

/-- A character or an escape that stands for one character. -/
def bracketItem (spaced : Bool) : Text.Step Item
  | [] => none
  | '\\' :: cs =>
    (escape spaced cs).bind fun (e, rest) =>
      match e with
      | .inl i => some (i, rest)
      | .inr _ => none
  | c :: cs => some (.letter ⟨c, false⟩, cs)

/-- The character that decides whether a hyphen makes a range, in spaced reading: the next one that
is neither blank nor the first mark of a comment, or else the one after the hyphen. -/
def decisiveFrom (inComment : Bool) : List Char → Option Char
  | [] => none
  | c :: cs =>
    if Text.isBlank c then decisiveFrom inComment cs
    else if c = '#' ∧ ¬ inComment then decisiveFrom true cs
    else some c

/-- The character that decides whether a hyphen before a text makes a range. -/
def decisive (spaced : Bool) (cs : List Char) : Option Char :=
  if spaced then (decisiveFrom false cs).orElse fun _ => cs.head? else cs.head?

/-- An item, or a range of characters. -/
def bracketRange (spaced : Bool) : Text.Step Item := fun cs =>
  (bracketItem spaced cs).bind fun (first, rest) =>
    match skip spaced rest with
    | '-' :: after =>
      let next := decisive spaced after
      if next = some ']' ∨ next = some '-' then some (first, '-' :: after)
      else
        (bracketItem spaced (skip spaced after)).bind fun (last, rest) =>
          match first, last with
          | .letter a, .letter b =>
            if a.char ≤ b.char then some (.range a b, rest) else none
          | _, _ => none
    | rest => some (first, rest)

/-- The members before a pending mark combined with those after it. -/
def combine (pending : Option (SetOperation × Members)) (items : List Item) : Members :=
  let right := Members.item (Item.ofList items.reverse)
  match pending with
  | some (op, left) => .combined op left right
  | none => right

/-- The mark that combines sets, at the start of a text. -/
def setOperation : Text.Step SetOperation
  | '&' :: '&' :: rest => some (.inter, rest)
  | '-' :: '-' :: rest => some (.diff, rest)
  | '~' :: '~' :: rest => some (.symmDiff, rest)
  | _ => none

/-- The hyphens that stand for themselves at the start of a set. -/
def leadingHyphens (spaced : Bool) (cs : List Char) : List Item × List Char :=
  let (hyphens, rest) := span spaced (· == '-') cs
  (hyphens.map fun c => .letter ⟨c, false⟩, rest)

mutual

/-- A set after its opening bracket; the first argument bounds how much is read.  A closing bracket
in the first place is a member. -/
def bracketed (spaced : Bool) : Nat → Text.Step Item
  | 0, _ => none
  | fuel + 1, cs =>
    let (negated, cs) :=
      match skip spaced cs with
      | '^' :: rest => (true, skip spaced rest)
      | cs => (false, cs)
    let found :=
      match leadingHyphens spaced cs with
      | ([], ']' :: rest) => members spaced fuel none [.letter ⟨']', false⟩] (skip spaced rest)
      | (hyphens, rest) => members spaced fuel none hyphens rest
    found.map fun (m, rest) => (.bracketed negated m, rest)

/-- The members of a set up to the closing bracket, after those already read, in reverse. -/
def members (spaced : Bool) : Nat → Option (SetOperation × Members) → List Item →
    Text.Step Members
  | 0, _, _, _ => none
  | fuel + 1, pending, items, cs =>
    match skip spaced cs with
    | [] => none
    | ']' :: rest => some (combine pending items, rest)
    | '[' :: rest =>
      ((asciiClass rest).orElse fun _ => bracketed spaced fuel rest).bind fun (i, rest) =>
        members spaced fuel pending (i :: items) rest
    | cs =>
      match setOperation cs with
      | some (op, rest) => members spaced fuel (some (op, combine pending items)) [] rest
      | none =>
        (bracketRange spaced cs).bind fun (i, rest) =>
          members spaced fuel pending (i :: items) rest

end

end Regex
end RemoteTable
