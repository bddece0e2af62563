/-!
Records of cells.  Commas separate the cells of a record and line ends separate records.  A cell
that begins with a quote extends to the next single quote, and a doubled quote inside it stands for
one; anywhere else a quote is an ordinary character.
-/

namespace RemoteTable
namespace Delimited

/-- Where reading stands: between records, at the start of a cell, in a plain cell, in a quoted one,
or after a quote in a quoted one. -/
inductive Place where
  | betweenRecords
  | cellStart
  | plain
  | quoted
  | afterQuote
deriving DecidableEq

def isLineEnd (c : Char) : Bool :=
  c == '\n' || c == '\r'

/-- The record of the cells so far and the cell in progress, both in reverse. -/
def closed (cell : List Char) (cells : List (List Char)) : List (List Char) :=
  (cell.reverse :: cells).reverse

/-- Reads records from a place, with the cell and the cells of the record so far in reverse.  The
end of the text closes an open record. -/
def readFrom (place : Place) (cell : List Char) (cells : List (List Char)) :
    List Char → List (List (List Char))
  | [] => if place = .betweenRecords then [] else [closed cell cells]
  | c :: cs =>
    if place = .quoted then
      if c = '"' then readFrom .afterQuote cell cells cs else readFrom .quoted (c :: cell) cells cs
    else if place = .afterQuote ∧ c = '"' then readFrom .quoted ('"' :: cell) cells cs
    else if place = .betweenRecords ∧ isLineEnd c then readFrom .betweenRecords [] [] cs
    else if c = ',' then readFrom .cellStart [] (cell.reverse :: cells) cs
    else if isLineEnd c then closed cell cells :: readFrom .betweenRecords [] [] cs
    else if c = '"' ∧ (place = .cellStart ∨ place = .betweenRecords) then
      readFrom .quoted [] cells cs
    else readFrom .plain (c :: cell) cells cs

/-- The text without a byte order mark in front of it. -/
def withoutByteOrderMark : List Char → List Char
  | '\ufeff' :: cs => cs
  | cs => cs

/-- The records of a text. -/
def records (s : String) : List (List (List Char)) :=
  readFrom .betweenRecords [] [] (withoutByteOrderMark s.toList)

end Delimited
end RemoteTable
