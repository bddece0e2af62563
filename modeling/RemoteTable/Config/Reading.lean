import RemoteTable.Json.Basic
import RemoteTable.Remote.Table

/-!
Declarations read from JSON.  A record is an object, whose unknown members are ignored, or an array
of its components in their order, of which the last may be missing.  A choice is a name, or an
object whose only member has that name and the value null.
-/

namespace RemoteTable
namespace Config

/-- The component of each name in a record; an array must not be longer than the names. -/
def components? (names : List String) : Json → Option (String → Option Json)
  | .object members => some fun name => members.lookup name
  | .array items =>
    if items.length ≤ names.length then some fun name => (names.zip items).lookup name else none
  | _ => none

/-- A component that may be missing. -/
def orDefault {α : Type} (default : α) (read : Json → Option α) : Option Json → Option α
  | none => some default
  | some j => read j

/-- A component that must be there. -/
def required? {α : Type} (read : Json → Option α) (component : Option Json) : Option α :=
  component.bind read

/-- Null for nothing. -/
def optional? {α : Type} (read : Json → Option α) : Json → Option (Option α)
  | .null => some none
  | j => (read j).map some

def string? : Json → Option String
  | .string s => some s
  | _ => none

/-- A nonnegative integer below a bound. -/
def natural? (bound : Nat) : Json → Option Nat
  | .number (.integer i) => if 0 ≤ i ∧ i < bound then some i.toNat else none
  | _ => none

/-- A choice by its name. -/
def choice? {α : Type} (ofName? : String → Option α) : Json → Option α
  | .string name => ofName? name
  | .object [(name, .null)] => ofName? name
  | _ => none

def scalarType? : Json → Option ScalarType :=
  choice? ScalarType.ofName?

def direction? : Json → Option Direction :=
  choice? Direction.ofName?

def format? : Json → Option Format :=
  choice? Format.ofName?

def form? : Json → Option Form :=
  choice? Form.ofName?

/-- An object of strings. -/
def nameMapping? : Json → Option NameMapping
  | .object members => members.mapM fun (name, j) => (string? j).map fun remote => (name, remote)
  | _ => none

def list? {α : Type} (read : Json → Option α) : Json → Option (List α)
  | .array items => items.mapM read
  | _ => none

/-- A column; all but the name may be missing. -/
def field? (j : Json) : Option Field := do
  let part ← components? ["name", "type", "direction", "path"] j
  let name ← required? string? (part "name")
  let type? ← orDefault none (optional? scalarType?) (part "type")
  let direction ← orDefault .response direction? (part "direction")
  let path? ← orDefault none (optional? string?) (part "path")
  return ⟨name, type?, direction, path?⟩

/-- The object that a column is read from. -/
def encodeField (f : Field) : Json :=
  .object [("name", .string f.name),
    ("type", f.type?.elim .null fun t => .string t.name),
    ("direction", .string f.direction.name),
    ("path", f.path?.elim .null .string)]

/-- The characters of a method besides letters and digits. -/
def isMethodMark (c : Char) : Bool :=
  c ∈ ['!', '#', '$', '%', '&', '\'', '*', '+', '-', '.', '^', '_', '\x60', '|', '~']

/-- A method in upper case: at least one letter, digit or mark, with blanks around it ignored. -/
def method? : Json → Option String
  | .string s =>
    let cs := (Text.trim s.toList).map Char.toUpper
    if cs ≠ [] ∧ cs.all fun c => c.isAlphanum || isMethodMark c then some (String.ofList cs)
    else none
  | _ => none

/-- A connection; each missing component has its default. -/
def connection? (j : Json) : Option Connection := do
  let part ← components? ["url", "method", "connect_timeout_ms", "read_timeout_ms", "content_type",
    "name_mapping", "page_size", "first_page", "max_pages"] j
  let c : Connection := {}
  let word := natural? (twoTo 64)
  let url ← orDefault c.url string? (part "url")
  let method ← orDefault c.method method? (part "method")
  let connectTimeoutMs ← orDefault c.connectTimeoutMs word (part "connect_timeout_ms")
  let readTimeoutMs ← orDefault c.readTimeoutMs word (part "read_timeout_ms")
  let contentType ← orDefault c.contentType string? (part "content_type")
  let nameMapping ← orDefault c.nameMapping nameMapping? (part "name_mapping")
  let pageSize ← orDefault c.pageSize word (part "page_size")
  let firstPage ← orDefault c.firstPage word (part "first_page")
  let maxPages ← orDefault c.maxPages (natural? (twoTo 32)) (part "max_pages")
  return ⟨url, method, connectTimeoutMs, readTimeoutMs, contentType, nameMapping, pageSize,
    firstPage, maxPages⟩

/-- A table; its name and its columns must be there. -/
def table? (j : Json) : Option TableDeclaration := do
  let part ← components? ["name", "format", "array_path", "filter_form", "fields"] j
  let name ← required? string? (part "name")
  let format? ← orDefault none (optional? format?) (part "format")
  let arrayPath ← orDefault "" string? (part "array_path")
  let filterForm ← orDefault .dnf form? (part "filter_form")
  let fields ← required? (list? field?) (part "fields")
  return ⟨name, format?, arrayPath, filterForm, fields⟩

end Config
end RemoteTable
