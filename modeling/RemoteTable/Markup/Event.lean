import RemoteTable.Text.Blank

/-!
The events of a marked-up text: tags, runs of text between them, and everything else.  The events
of a malformed text end with one that says so; an end tag that does not close the innermost open
element is such a malformation.
-/

namespace RemoteTable
namespace Markup

/-- A piece of a marked-up text.  Text is as written, with its entities and without the blanks at
its ends. -/
inductive Event where
  | start (name : String)
  | empty (name : String)
  | close
  | text (raw : List Char)
  | verbatim (content : List Char)
  | skipped
  | malformed
deriving DecidableEq

/-- The blanks of markup. -/
def isSpace (c : Char) : Bool :=
  c == ' ' || c == '\t' || c == '\n' || c == '\r'

/-- Splits at the first `>` that the text before it, in reverse, allows to be the end. -/
def splitAtEnd (isEnd : List Char → Bool) (before : List Char) :
    List Char → Option (List Char × List Char)
  | [] => none
  | c :: cs =>
    if c = '>' ∧ isEnd before then some (before.reverse, cs)
    else splitAtEnd isEnd (c :: before) cs

/-- Splits a tag at the first `>` outside quotes. -/
def splitTag (quote : Option Char) (before : List Char) : List Char → Option (List Char × List Char)
  | [] => none
  | c :: cs =>
    match quote with
    | some q => splitTag (if c = q then none else some q) (c :: before) cs
    | none =>
      if c = '>' then some (before.reverse, cs)
      else splitTag (if c = '"' ∨ c = '\'' then some c else none) (c :: before) cs

/-- A comment ends with two hyphens that are not its opening ones. -/
def endsComment (before : List Char) : Bool :=
  4 < before.length && ['-', '-'].isPrefixOf before

def endsVerbatim (before : List Char) : Bool :=
  [']', ']'].isPrefixOf before

/-- A declaration of the document type ends where every inner `<` has its `>`. -/
def endsDoctype (before : List Char) : Bool :=
  before.count '<' == before.count '>'

def endsInstruction (before : List Char) : Bool :=
  ['?'].isPrefixOf before

def verbatimMark : List Char :=
  ['!', '[', 'C', 'D', 'A', 'T', 'A', '[']

/-- Whether a declaration begins with the word for the document type and goes on to name it. -/
def isDoctype (content : List Char) : Bool :=
  Text.lowered (content.take 8) == ['!', 'd', 'o', 'c', 't', 'y', 'p', 'e'] &&
    (content.drop 8).any (!isSpace ·)

/-- The event of markup that begins with `<!`, given the text from the exclamation mark on. -/
def declaration? : List Char → Option (Event × List Char)
  | '!' :: '[' :: cs =>
    (splitAtEnd endsVerbatim [] ('!' :: '[' :: cs)).bind fun (content, rest) =>
      if verbatimMark.isPrefixOf content then
        some (.verbatim ((content.drop 8).take (content.length - 10)), rest)
      else none
  | '!' :: '-' :: cs =>
    (splitAtEnd endsComment [] ('!' :: '-' :: cs)).bind fun (content, rest) =>
      if ['!', '-', '-'].isPrefixOf content then some (.skipped, rest) else none
  | '!' :: c :: cs =>
    if c = 'D' ∨ c = 'd' then
      (splitAtEnd endsDoctype [] ('!' :: c :: cs)).bind fun (content, rest) =>
        if isDoctype content then some (.skipped, rest) else none
    else none
  | _ => none

/-- An instruction, given the text from its question mark on. -/
def instruction? (cs : List Char) : Option (Event × List Char) :=
  (splitAtEnd endsInstruction [] cs).bind fun (content, rest) =>
    if content.length = 1 then none else some (.skipped, rest)

/-- The name at the start of a tag, up to the first blank. -/
def tagName (content : List Char) : String :=
  String.ofList (content.takeWhile (!isSpace ·))

/-- The name in an end tag, without the blanks after it; blanks alone stand for themselves and so
close nothing. -/
def closingName (content : List Char) : String :=
  match content.reverse.dropWhile isSpace with
  | [] => String.ofList content
  | name => String.ofList name.reverse

/-- The event of the markup after a `<`, with the names of the elements that are open after it. -/
def markup? (opened : List String) : List Char → Option (Event × List String × List Char)
  | [] => none
  | '!' :: cs => (declaration? ('!' :: cs)).map fun (e, rest) => (e, opened, rest)
  | '?' :: cs => (instruction? ('?' :: cs)).map fun (e, rest) => (e, opened, rest)
  | '/' :: cs =>
    (splitTag none [] cs).bind fun (content, rest) =>
      match opened with
      | innermost :: outer =>
        if closingName content = innermost then some (.close, outer, rest) else none
      | [] => none
  | cs =>
    (splitTag none [] cs).map fun (content, rest) =>
      if content.getLast? = some '/' then (.empty (tagName content.dropLast), opened, rest)
      else (.start (tagName content), tagName content :: opened, rest)

/-- The events of a text, given the names of the open elements; the count bounds the events. -/
def readEvents : Nat → List String → List Char → List Event
  | 0, _, _ => []
  | count + 1, opened, cs =>
    match cs.dropWhile isSpace with
    | [] => []
    | '<' :: rest =>
      match markup? opened rest with
      | some (e, opened, rest) => e :: readEvents count opened rest
      | none => [.malformed]
    | cs =>
      let raw := cs.takeWhile (· ≠ '<')
      .text (raw.reverse.dropWhile isSpace).reverse ::
        readEvents count opened (cs.dropWhile (· ≠ '<'))

/-- The events of a text, after the byte order mark that it may begin with. -/
def events (s : String) : List Event :=
  match s.toList with
  | '\ufeff' :: cs => readEvents (cs.length + 1) [] cs
  | cs => readEvents (cs.length + 1) [] cs

end Markup
end RemoteTable
