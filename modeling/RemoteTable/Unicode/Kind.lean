import RemoteTable.Unicode.Age
import RemoteTable.Unicode.Property
import RemoteTable.Unicode.Script
import RemoteTable.Unicode.Segmentation

/-!
Sets of characters by name: digits, blanks, the characters of words, and every set that a property
of Unicode and one of its values describe.
-/

namespace RemoteTable
namespace Unicode

def digits : CharSet :=
  Category.ofCodes ["Nd"]

def blanks : CharSet :=
  Property.list "White_Space"

/-- Letters, marks, digits, connecting punctuation and the characters that join letters. -/
def wordParts : CharSet :=
  CharSet.union Property.alphabetic
    (CharSet.union (Category.ofCodes ["Mn", "Mc", "Me", "Nd", "Pc"]) (Property.list "Join_Control"))

/-- Letters and numbers. -/
def alphanumerics : CharSet :=
  CharSet.union Property.alphabetic (Category.ofCodes ["Nd", "Nl", "No"])

namespace Ascii

def lower : CharSet :=
  CharSet.range 0x61 0x7A

def upper : CharSet :=
  CharSet.range 0x41 0x5A

def digits : CharSet :=
  CharSet.range 0x30 0x39

def letters : CharSet :=
  CharSet.union upper lower

def alphanumerics : CharSet :=
  CharSet.union digits letters

def wordParts : CharSet :=
  CharSet.union alphanumerics (CharSet.single '_')

def blanks : CharSet :=
  CharSet.union (CharSet.range 0x09 0x0D) (CharSet.single ' ')

/-- The set of ASCII characters with a name. -/
def named? : String → Option CharSet
  | "alnum" => some alphanumerics
  | "alpha" => some letters
  | "ascii" => some (CharSet.range 0x00 0x7F)
  | "blank" => some (CharSet.union (CharSet.single '\t') (CharSet.single ' '))
  | "cntrl" => some (CharSet.union (CharSet.range 0x00 0x1F) (CharSet.range 0x7F 0x7F))
  | "digit" => some digits
  | "graph" => some (CharSet.range 0x21 0x7E)
  | "lower" => some lower
  | "print" => some (CharSet.range 0x20 0x7E)
  | "punct" => some (CharSet.diff (CharSet.range 0x21 0x7E) alphanumerics)
  | "space" => some blanks
  | "upper" => some upper
  | "word" => some wordParts
  | "xdigit" =>
    some (CharSet.union digits (CharSet.union (CharSet.range 0x41 0x46) (CharSet.range 0x61 0x66)))
  | _ => none

end Ascii

/-- The set with a name alone: a property, or else a category, or else a script. -/
def named? (name : List Char) : Option CharSet :=
  let name := looseName name
  ((Property.named? name).orElse fun _ => Category.named? name).orElse fun _ => Script.named? name

/-- The set with a value of a property that has several. -/
def valued? (property value : List Char) : Option CharSet :=
  let value := looseName value
  match looseName property with
  | "generalcategory" | "gc" => Category.named? value
  | "script" | "sc" => Script.named? value
  | "scriptextensions" | "scx" => Script.extensionNamed? value
  | "age" => Age.named? value
  | "graphemeclusterbreak" | "gcb" =>
    Segmentation.named? Segmentation.graphemes Segmentation.graphemeNames value
  | "wordbreak" | "wb" =>
    Segmentation.named? Segmentation.wordParts Segmentation.wordPartNames value
  | "sentencebreak" | "sb" =>
    Segmentation.named? Segmentation.sentenceParts Segmentation.sentencePartNames value
  | _ => none

end Unicode
end RemoteTable
