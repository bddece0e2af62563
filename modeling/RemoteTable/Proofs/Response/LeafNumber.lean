import RemoteTable.Proofs.Number.Checked
import RemoteTable.Proofs.Number.Literal
import RemoteTable.Proofs.Response.LeafText

/-!
Which texts of leaves are numbers.

Three notations are tried in turn, of integers in 32 bits, of integers in 64 bits and of
floating-point literals, and they overlap.  `XmlBody.leaf_classifies` says for every text what comes of
it, in terms of the notations alone: the first step decides nothing that the second would not decide
likewise, an integer is given for every text that denotes one of 64 bits and for no other, and what is
left unchanged is exactly what is neither such an integer nor a literal with a finite value.
-/

namespace RemoteTable
namespace XmlBody

/-- The narrowest number that a text reads as: an integer of 32 bits, an integer of 64 bits or a finite
double; or else the text. -/
def narrowest (cs : List Char) : Json :=
  match Text.checkedInteger? 32 cs with
  | some i => .integer i
  | none =>
    match Text.checkedInteger? 64 cs with
    | some i => .integer i
    | none =>
      match (Text.float? cs : Option Binary64) with
      | some x => if x.isFinite then .number (.real x) else .string (String.ofList cs)
      | none => .string (String.ofList cs)

variable {cs : List Char}

/-- The steps of 32 and of 64 bits are one step of 64 bits. -/
theorem narrowest_eq_leaf (cs : List Char) : narrowest cs = leaf cs := by
  have wide := Text.checkedInteger?_eq_int64? cs
  unfold narrowest leaf
  cases narrow : Text.checkedInteger? 32 cs with
  | some i =>
    rw [Text.checkedInteger?_mono (by decide) narrow] at wide
    obtain ⟨i, read, rfl⟩ := Option.map_eq_some_iff.1 wide.symm
    rw [read]
  | none =>
    cases read : Text.int64? cs with
    | some i => rw [wide, read]; rfl
    | none => rw [wide, read]; rfl

theorem leaf_eq_integer_iff {n : Int} :
    leaf cs = .integer n ↔ Text.Denotes cs n ∧ IsInt64 n := by
  have spec := leaf_spec cs
  constructor
  · intro h
    rw [h] at spec
    cases spec with
    | integer i denoted => exact ⟨denoted, isInt64_toInt i⟩
  · rintro ⟨denoted, fits⟩
    have read : Text.int64? cs = some (Int64.ofInt n) := by
      rw [Text.int64?_eq_some_iff, Text.toInt_ofInt fits]
      exact denoted
    rw [leaf, read]
    exact congrArg Json.integer (Text.toInt_ofInt fits)

theorem leaf_eq_real_iff {x : Binary64} :
    leaf cs = .number (.real x) ↔ (∀ n, Text.Denotes cs n → ¬IsInt64 n) ∧ x.isFinite = true ∧
      ∃ negative m, Text.IsLiteral cs negative m ∧ m.rounded negative = x := by
  rw [← Text.int64?_eq_none_iff, ← Text.float?_eq_some_iff]
  have spec := leaf_spec cs
  constructor
  · intro h
    rw [h] at spec
    cases spec with
    | real x noInteger read finite => exact ⟨noInteger, finite, read⟩
  · rintro ⟨noInteger, finite, read⟩
    simp only [leaf, noInteger, read, finite, if_true]

theorem leaf_eq_string_iff {s : String} :
    leaf cs = .string s ↔ s = String.ofList cs ∧ (∀ n, Text.Denotes cs n → ¬IsInt64 n) ∧
      ∀ negative m, Text.IsLiteral cs negative m →
        (m.rounded negative : Binary64).isFinite = false := by
  have literals : (∀ negative m, Text.IsLiteral cs negative m →
      (m.rounded negative : Binary64).isFinite = false) ↔
        ∀ x : Binary64, Text.float? cs = some x → x.isFinite = false := by
    simp only [Text.float?_eq_some_iff]
    constructor
    · rintro infinite x ⟨negative, m, literal, rfl⟩
      exact infinite negative m literal
    · intro infinite negative m literal
      exact infinite _ ⟨negative, m, literal, rfl⟩
  rw [← Text.int64?_eq_none_iff, literals]
  have spec := leaf_spec cs
  constructor
  · intro h
    rw [h] at spec
    cases spec with
    | text noInteger noReal => exact ⟨rfl, noInteger, noReal⟩
  · rintro ⟨rfl, noInteger, noReal⟩
    cases read : (Text.float? cs : Option Binary64) with
    | some x => simp only [leaf, noInteger, read, noReal x read, Bool.false_eq_true, if_false]
    | none => simp only [leaf, noInteger, read]

/-- What comes of the text of a leaf.  It is an integer if the text denotes one of 64 bits, which
includes all that the step of 32 bits reads; else it is a double if the text is a literal with a finite
value; else it is the text.  A literal of usual length has a finite value up to half way from the
greatest double to the next power of two, and the words for infinity and for no number have none.
Every integer of 64 bits that is written out comes back. -/
theorem leaf_classifies (cs : List Char) :
    narrowest cs = leaf cs ∧
      (∀ i, Text.checkedInteger? 32 cs = some i → Text.checkedInteger? 64 cs = some i) ∧
      (∀ n, leaf cs = .integer n ↔ Text.Denotes cs n ∧ IsInt64 n) ∧
      (∀ x, leaf cs = .number (.real x) ↔
        (∀ n, Text.Denotes cs n → ¬IsInt64 n) ∧ x.isFinite = true ∧
          ∃ negative m, Text.IsLiteral cs negative m ∧ m.rounded negative = x) ∧
      (∀ s, leaf cs = .string s ↔
        s = String.ofList cs ∧ (∀ n, Text.Denotes cs n → ¬IsInt64 n) ∧
          ∀ negative m, Text.IsLiteral cs negative m →
            (m.rounded negative : Binary64).isFinite = false) ∧
      ((∃ n, leaf cs = .integer n) ∨ (∃ x : Binary64, leaf cs = .number (.real x)) ∨
        leaf cs = .string (String.ofList cs)) ∧
      (∀ negative mantissa places exponent,
        Text.IsLiteral cs negative (.decimal mantissa places exponent) →
          exponent.natAbs < 655360 ∨ cs.length ≤ 64000 →
            (((Text.Magnitude.decimal mantissa places exponent).rounded negative :
              Binary64).isFinite = true ↔
                (mantissa : ℚ) * 10 ^ (exponent - places) < (2 ^ 54 - 1) * 2 ^ 970)) ∧
      (Text.IsWord cs → leaf cs = .string (String.ofList cs)) ∧
      ∀ i : Int64, leaf (Text.signedDigits i.toInt) = .integer i.toInt := by
  refine ⟨narrowest_eq_leaf cs, fun i => Text.checkedInteger?_mono (by decide),
    fun n => leaf_eq_integer_iff, fun x => leaf_eq_real_iff, fun s => leaf_eq_string_iff, ?_, ?_,
    fun word => ?_, fun i => ?_⟩
  · have spec := leaf_spec cs
    generalize leaf cs = j at spec
    cases spec with
    | integer i denoted => exact .inl ⟨_, rfl⟩
    | real x noInteger read finite => exact .inr (.inl ⟨x, rfl⟩)
    | text noInteger noReal => exact .inr (.inr rfl)
  · exact fun negative mantissa places exponent literal usual => literal.isFinite_rounded_iff usual
  · exact leaf_eq_string_iff.2 ⟨rfl, fun n denoted => absurd denoted (word.not_denotes n),
      fun negative m => word.isFinite_rounded⟩
  · exact leaf_eq_integer_iff.2 ⟨Text.denotes_signedDigits i.toInt, isInt64_toInt i⟩

/-- Minus a half, ten times. -/
def sampleAmount : List Char :=
  ['-', '.', '5', 'E', '+', '1']

/-- The amount is a double, the least integer of 64 bits comes back, and a word in capitals stays as it
is. -/
theorem leaf_sampleAmount :
    leaf sampleAmount = .number (.real (.ofDecimal true 5 0)) ∧
      leaf (Text.signedDigits leastInt64) = .integer leastInt64 ∧
      leaf ['+', 'I', 'N', 'F'] = .string "+INF" := by
  obtain ⟨-, -, -, real, -, -, finite, -, written⟩ := leaf_classifies sampleAmount
  obtain ⟨-, -, -, -, -, -, -, word, -⟩ := leaf_classifies ['+', 'I', 'N', 'F']
  have digit {d : Char} (h : d.isDigit = true) : ∀ c ∈ [d], c.isDigit = true :=
    List.forall_mem_singleton.2 h
  have one : Text.Denotes ['+', '1'] 1 := .plus ['1'] (List.cons_ne_nil _ _) (digit rfl)
  have decimal : Text.IsDecimal ['.', '5', 'E', '+', '1'] 5 1 1 :=
    .point [] ['5'] (fun none => List.cons_ne_nil _ _ none.2) (List.forall_mem_nil _) (digit rfl)
      (.present 'E' (.inr rfl) one)
  have literal : Text.IsLiteral sampleAmount true (.decimal 5 1 1) := .minus (.decimal decimal)
  have rounded : (Text.Magnitude.decimal 5 1 1).rounded true = (.ofDecimal true 5 0 : Binary64) := by
    have value : Text.counted 1 = 1 := Text.counted_of_lt (by decide)
    rw [Text.Magnitude.rounded, value]
    rfl
  have small : ((5 : Nat) : ℚ) * 10 ^ ((1 : Int) - (1 : Nat)) < (2 ^ 54 - 1) * 2 ^ 970 :=
    lt_of_lt_of_le (by norm_num : _ < (2 : ℚ) ^ 54 - 1)
      (le_mul_of_one_le_right (by norm_num) (one_le_pow₀ (by norm_num)))
  have noInteger (n : Int) (denoted : Text.Denotes sampleAmount n) : False :=
    absurd (denoted.mem (by decide : '.' ∈ sampleAmount)) (by decide)
  refine ⟨(real _).2 ⟨fun n denoted => (noInteger n denoted).elim, ?_, true, _, literal, rounded⟩,
    written Int64.minValue, word ⟨false, .inl (.plus (.infinity (.inl rfl)))⟩⟩
  rw [← rounded]
  exact (finite true 5 1 1 literal (.inl (by decide))).2 small

end XmlBody
end RemoteTable
