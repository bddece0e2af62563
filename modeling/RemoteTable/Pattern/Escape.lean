import RemoteTable.Pattern.Regex
import RemoteTable.Text.Blank
import RemoteTable.Text.Digits
import RemoteTable.Text.Step
import RemoteTable.Unicode.Kind

/-!
Escapes in regular expressions: what follows a backslash.  In spaced reading, blanks and comments
are skipped almost everywhere, even inside an escape.
-/

namespace RemoteTable
namespace Regex

/-- The text without leading blanks and comments; a comment goes from `#` to the end of its line. -/
def skipIgnored (inComment : Bool) : List Char → List Char
  | [] => []
  | c :: cs =>
    if inComment then skipIgnored (c ≠ '\n') cs
    else if Text.isBlank c then skipIgnored false cs
    else if c = '#' then skipIgnored true cs
    else c :: cs

/-- What spaced reading skips. -/
def skip (spaced : Bool) (cs : List Char) : List Char :=
  if spaced then skipIgnored false cs else cs

/-- At most `count` leading characters of a class, with what is skipped after each of them. -/
def spanUpTo (spaced : Bool) (p : Char → Bool) : Nat → List Char → List Char × List Char
  | 0, cs => ([], cs)
  | _, [] => ([], [])
  | count + 1, c :: cs =>
    if p c then
      let (taken, rest) := spanUpTo spaced p count (skip spaced cs)
      (c :: taken, rest)
    else ([], c :: cs)

/-- The leading characters of a class, with what is skipped after each of them. -/
def span (spaced : Bool) (p : Char → Bool) (cs : List Char) : List Char × List Char :=
  spanUpTo spaced p cs.length cs

/-- The character of a number that is one. -/
def character? (n : Nat) : Option Char :=
  if n < 0xD800 ∨ (0xE000 ≤ n ∧ n < 0x110000) then some (Char.ofNat n) else none

/-- A character by its number: so many hexadecimal digits, or any number of them in braces. -/
def hexadecimal (spaced : Bool) (width : Nat) : Text.Step Letter := fun cs =>
  match skip spaced cs with
  | '\x7b' :: cs =>
    match span spaced (· ≠ '\x7d') (skip spaced cs) with
    | ([], _) => none
    | (ds, _ :: rest) =>
      ((Text.hexNumber? ds).bind character?).map fun c => (⟨c, false⟩, skip spaced rest)
    | _ => none
  | cs =>
    let (ds, rest) := spanUpTo spaced (fun c => (Text.hexValue? c).isSome) width cs
    if ds.length = width then
      ((Text.hexNumber? ds).bind character?).map fun c => (⟨c, width == 2⟩, rest)
    else none

/-- The text before and after the first place where a test on what follows holds. -/
def cutAt (isCut : List Char → Bool) (length : Nat) (before : List Char) :
    List Char → Option (List Char × List Char)
  | [] => none
  | c :: cs =>
    if isCut (c :: cs) then some (before.reverse, (c :: cs).drop length)
    else cutAt isCut length (c :: before) cs

/-- The set that a name in braces stands for, or a property and its value with a sign between them,
and whether the sign is negative. -/
def propertySet? (name : List Char) : Option (CharSet × Bool) :=
  let cut (mark : List Char) := cutAt mark.isPrefixOf mark.length [] name
  match cut ['!', '='] with
  | some (property, value) => (Unicode.valued? property value).map fun s => (s, true)
  | none =>
    match (cut [':']).orElse fun _ => cut ['='] with
    | some (property, value) => (Unicode.valued? property value).map fun s => (s, false)
    | none => (Unicode.named? name).map fun s => (s, false)

/-- A property of characters: one letter, or a name in braces. -/
def property (spaced negated : Bool) : Text.Step Item := fun cs =>
  match skip spaced cs with
  | [] => none
  | '\x7b' :: cs =>
    match span spaced (· ≠ '\x7d') (skip spaced cs) with
    | (name, _ :: rest) =>
      (propertySet? name).map fun (s, unequal) => (.property s (negated != unequal), rest)
    | _ => none
  | c :: cs => (propertySet? [c]).map fun (s, _) => (.property s negated, skip spaced cs)

/-- The edge of a word with a name in braces. -/
def edgeNamed? (name : List Char) : Option WordEdge :=
  match String.ofList name with
  | "start" => some .start
  | "end" => some .finish
  | "start-half" => some .startHalf
  | "end-half" => some .finishHalf
  | _ => none

/-- The edge of a word that the name in braces after it may make more exact.  Braces that do not
begin with a name are left for a repetition. -/
def wordEdge (spaced : Bool) : Text.Step Mark := fun cs =>
  let isNamePart (c : Char) : Bool := c.isAlpha || c == '-'
  match cs with
  | '\x7b' :: inner =>
    match skip spaced inner with
    | [] => none
    | c :: rest =>
      if isNamePart c then
        match span spaced isNamePart (c :: rest) with
        | (name, '\x7d' :: rest) => (edgeNamed? name).map fun edge => (.word edge, rest)
        | _ => none
      else some (.word .either, cs)
  | cs => some (.word .either, cs)

/-- What an escape stands for: something for one character, or a condition. -/
abbrev Escaped := Item ⊕ Mark

/-- The control characters that letters stand for. -/
def control? : Char → Option Char
  | 'a' => some '\x07'
  | 'f' => some '\x0c'
  | 't' => some '\t'
  | 'n' => some '\n'
  | 'r' => some '\r'
  | 'v' => some '\x0b'
  | _ => none

/-- The kinds of characters that letters stand for. -/
def kind? : Char → Option (Kind × Bool)
  | 'd' => some (.digit, false)
  | 'D' => some (.digit, true)
  | 's' => some (.blank, false)
  | 'S' => some (.blank, true)
  | 'w' => some (.word, false)
  | 'W' => some (.word, true)
  | _ => none

/-- The conditions that characters stand for. -/
def mark? : Char → Option Mark
  | 'A' => some .textStart
  | 'z' => some .textEnd
  | 'B' => some (.word .neither)
  | '<' => some (.word .start)
  | '>' => some (.word .finish)
  | _ => none

/-- Whether a character after a backslash stands for itself. -/
def isPlainEscape (c : Char) : Bool :=
  c.toNat < 0x80 && !c.isAlphanum && c != '<' && c != '>'

/-- The control character, kind or condition of one character, or the character itself. -/
def escapedCharacter? (c : Char) : Option Escaped :=
  match control? c, kind? c, mark? c with
  | some c, _, _ => some (.inl (.letter ⟨c, false⟩))
  | _, some (k, negated), _ => some (.inl (.kind k negated))
  | _, _, some m => some (.inr m)
  | none, none, none => if isPlainEscape c then some (.inl (.letter ⟨c, false⟩)) else none

/-- An escape, after its backslash. -/
def escape (spaced : Bool) : Text.Step Escaped
  | [] => none
  | c :: cs =>
    let letter (width : Nat) : Option (Escaped × List Char) :=
      (hexadecimal spaced width cs).map fun (l, rest) => (.inl (.letter l), rest)
    match c with
    | 'x' => letter 2
    | 'u' => letter 4
    | 'U' => letter 8
    | 'p' => (property spaced false cs).map fun (i, rest) => (.inl i, rest)
    | 'P' => (property spaced true cs).map fun (i, rest) => (.inl i, rest)
    | 'b' => (wordEdge spaced cs).map fun (m, rest) => (.inr m, rest)
    | c => (escapedCharacter? c).map fun e => (e, cs)

end Regex
end RemoteTable
