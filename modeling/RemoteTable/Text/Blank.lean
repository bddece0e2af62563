/-!
Blank characters and the trimming of text.  A character is blank exactly when Unicode gives it
the property `White_Space`.
-/

namespace RemoteTable
namespace Text

/-- The characters with Unicode's property `White_Space`. -/
def isBlank (c : Char) : Bool :=
  let n := c.toNat
  (0x09 ≤ n && n ≤ 0x0D) || n == 0x20 || n == 0x85 || n == 0xA0 || n == 0x1680 ||
    (0x2000 ≤ n && n ≤ 0x200A) || n == 0x2028 || n == 0x2029 || n == 0x202F ||
    n == 0x205F || n == 0x3000

/-- The text without the characters of the class `p` at its two ends. -/
def stripBoth (p : Char → Bool) (cs : List Char) : List Char :=
  ((cs.dropWhile p).reverse.dropWhile p).reverse

/-- The text without its leading blanks. -/
def trimStart (cs : List Char) : List Char :=
  cs.dropWhile isBlank

/-- The text without its leading and trailing blanks. -/
def trim (cs : List Char) : List Char :=
  stripBoth isBlank cs

/-- Lower case for the letters A to Z; every other character stays. -/
def lowered (cs : List Char) : List Char :=
  cs.map Char.toLower

theorem dropWhile_eq_self {p : Char → Bool} {cs : List Char}
    (h : ∀ c, cs.head? = some c → p c = false) : cs.dropWhile p = cs := by
  cases cs with
  | nil => rfl
  | cons c cs => rw [List.dropWhile_cons, h c rfl]; rfl

theorem eq_false_of_head?_dropWhile {α : Type} {p : α → Bool} {cs : List α} {c : α}
    (h : (cs.dropWhile p).head? = some c) : p c = false := by
  have first := List.head?_dropWhile_not p cs
  rw [h] at first
  exact first

/-- A text without blanks at its ends is its own trim. -/
theorem trim_eq_self {cs : List Char} (first : ∀ c, cs.head? = some c → isBlank c = false)
    (last : ∀ c, cs.getLast? = some c → isBlank c = false) : trim cs = cs := by
  unfold trim stripBoth
  rw [dropWhile_eq_self first]
  have reversed : cs.reverse.dropWhile isBlank = cs.reverse := by
    refine dropWhile_eq_self fun c h => last c ?_
    rw [List.head?_reverse] at h
    exact h
  rw [reversed, List.reverse_reverse]

theorem trim_trim (cs : List Char) : trim (trim cs) = trim cs := by
  apply trim_eq_self
  · intro c h
    -- what is left of the end still begins as the text without its leading blanks
    obtain ⟨dropped, shape⟩ :=
      List.dropWhile_suffix isBlank (l := (cs.dropWhile isBlank).reverse)
    have first : (cs.dropWhile isBlank).head? = some c := by
      unfold trim stripBoth at h
      rw [List.head?_reverse] at h
      rw [← List.getLast?_reverse, ← shape, List.getLast?_append, h, Option.some_or]
    exact eq_false_of_head?_dropWhile first
  · intro c h
    unfold trim stripBoth at h
    rw [List.getLast?_reverse] at h
    exact eq_false_of_head?_dropWhile h

end Text
end RemoteTable
