import HostBridge.Kind
import Mathlib.Data.Nat.Digits.Defs
import Mathlib.Tactic.Ring

/-!
# Type strings

A host array names the kind of its elements by a short text: a byte-order mark, a class letter and
the width in bytes. The reader accepts this language and nothing else. The width is a numeral as for
any machine word, so it may have a plus sign and any number of leading zeros, and a numeral that is
no word is refused before anyone asks whether there is a kind of that width.

## Main definitions

* `Numeral.value`: the number that decimal digits stand for;
* `Numeral.Denotes`: the grammar of numerals, with the number that each of them denotes;
* `Kind.IsTypeString` and `Kind.classes`: the grammar of type strings, and the kinds they name.

## Main results

* `Numeral.digitsFrom?_eq_some_iff`: digits are read one by one, from the most significant on;
* `Numeral.word?_eq_some_iff`: the numerals that are read are those that denote a word;
* `Kind.ofTypeString?_exact`: the type strings that are read are those of the grammar, and each kind
  has one.
-/

namespace HostBridge

/-! ## Numerals -/

namespace Numeral

/-- The number that a string of decimal digits stands for, the most significant digit first. -/
def value (digits : List Char) : Nat :=
  Nat.ofDigits 10 (digits.reverse.map fun c => c.toNat - '0'.toNat)

/-- The grammar of numerals: at least one decimal digit, with or without a plus sign in front. -/
inductive Denotes : List Char → Nat → Prop
  | plain {digits : List Char} (hne : digits ≠ []) (hdigits : ∀ c ∈ digits, c.isDigit = true) :
      Denotes digits (value digits)
  | signed {digits : List Char} (hne : digits ≠ []) (hdigits : ∀ c ∈ digits, c.isDigit = true) :
      Denotes ('+' :: digits) (value digits)

@[simp]
theorem value_nil : value [] = 0 := rfl

/-- The first digit counts for as many tens as digits follow. -/
theorem value_cons (c : Char) (digits : List Char) :
    value (c :: digits) = (c.toNat - '0'.toNat) * 10 ^ digits.length + value digits := by
  simp only [value, List.reverse_cons, List.map_append, Nat.ofDigits_append, List.length_map,
    List.length_reverse, List.map_cons, List.map_nil, Nat.ofDigits_singleton]
  rw [Nat.add_comm, Nat.mul_comm]

theorem isDigit_iff {c : Char} : c.isDigit = true ↔ '0' ≤ c ∧ c ≤ '9' := by
  simp only [Char.isDigit, Char.le_def, Bool.and_eq_true, decide_eq_true_eq]

theorem digit?_of_isDigit {c : Char} (h : c.isDigit = true) :
    digit? c = some (c.toNat - '0'.toNat) :=
  if_pos (isDigit_iff.mp h)

theorem digit?_of_not_isDigit {c : Char} (h : ¬c.isDigit = true) : digit? c = none :=
  if_neg (mt isDigit_iff.mpr h)

/-- Digits extend the number that was read before them, and anything else ends the reading. -/
theorem digitsFrom?_eq_some_iff {start n : Nat} {text : List Char} :
    digitsFrom? start text = some n ↔
      (∀ c ∈ text, c.isDigit = true) ∧ start * 10 ^ text.length + value text = n := by
  induction text generalizing start with
  | nil => simp [digitsFrom?]
  | cons c rest ih =>
    by_cases hdigit : c.isDigit = true
    · have hshift : (10 * start + (c.toNat - '0'.toNat)) * 10 ^ rest.length + value rest =
          start * 10 ^ (rest.length + 1) + value (c :: rest) := by
        rw [value_cons, Nat.pow_succ]
        ring
      rw [digitsFrom?, digit?_of_isDigit hdigit, Option.bind_some, ih, hshift, List.length_cons,
        List.forall_mem_cons, and_iff_right hdigit]
    · rw [digitsFrom?, digit?_of_not_isDigit hdigit, Option.bind_none]
      simp [hdigit]

theorem digits?_eq_some_iff {n : Nat} {text : List Char} :
    digits? text = some n ↔ text ≠ [] ∧ (∀ c ∈ text, c.isDigit = true) ∧ value text = n := by
  cases text with
  | nil => simp [digits?]
  | cons c rest =>
    rw [digits?, digitsFrom?_eq_some_iff, Nat.zero_mul, Nat.zero_add]
    · simp
    · simp

/-- A text without a plus sign is read as it is. -/
theorem word?_of_ne_plus {text : List Char} (h : ∀ rest, text ≠ '+' :: rest) :
    word? text = (digits? text).filter (· < Word.modulus) := by
  unfold word?
  split
  · exact absurd rfl (h _)
  · rfl

/-- A text is read as a word exactly when it is a numeral that denotes that word. -/
theorem word?_eq_some_iff {n : Nat} {text : List Char} :
    word? text = some n ↔ Denotes text n ∧ n < Word.modulus := by
  have hword (digits : List Char) : (digits? digits).filter (· < Word.modulus) = some n ↔
      (digits ≠ [] ∧ (∀ c ∈ digits, c.isDigit = true) ∧ value digits = n) ∧ n < Word.modulus := by
    rw [Option.filter_eq_some_iff, digits?_eq_some_iff, decide_eq_true_eq]
  by_cases hplus : ∃ rest, text = '+' :: rest
  · obtain ⟨rest, rfl⟩ := hplus
    rw [show word? ('+' :: rest) = (digits? rest).filter (· < Word.modulus) from rfl, hword]
    refine and_congr_left fun _ => ⟨?_, ?_⟩
    · rintro ⟨hne, hdigits, rfl⟩
      exact .signed hne hdigits
    · intro h
      cases h with
      -- the sign itself is no digit
      | plain hne hdigits => exact absurd (hdigits '+' List.mem_cons_self) (by decide)
      | signed hne hdigits => exact ⟨hne, hdigits, rfl⟩
  · rw [word?_of_ne_plus (not_exists.mp hplus), hword]
    refine and_congr_left fun _ => ⟨?_, ?_⟩
    · rintro ⟨hne, hdigits, rfl⟩
      exact .plain hne hdigits
    · intro h
      cases h with
      | plain hne hdigits => exact ⟨hne, hdigits, rfl⟩
      | signed hne hdigits => exact absurd ⟨_, rfl⟩ hplus

end Numeral

/-! ## Type strings -/

namespace Kind

/-- The classes of kinds: a letter, a width in bytes, and the kind that they name. -/
def classes : List (Char × Nat × Kind) :=
  [('b', 1, bool), ('i', 1, int8), ('i', 2, int16), ('i', 4, int32), ('i', 8, int64),
    ('f', 4, float32), ('f', 8, float64), ('c', 8, complex64), ('c', 16, complex128)]

/-- The grammar of type strings: a byte-order mark for little-endian or order-free elements, a class
letter, and a numeral for the width. -/
inductive IsTypeString : String → Char → Nat → Prop
  | intro {text : String} {mark letter : Char} {size : List Char} {width : Nat}
      (htext : text.toList = mark :: letter :: size) (hmark : mark ∈ ['<', '|', '='])
      (hsize : Numeral.Denotes size width) : IsTypeString text letter width

theorem isNativeOrder_iff {mark : Char} : isNativeOrder mark = true ↔ mark ∈ ['<', '|', '='] := by
  simp [isNativeOrder, or_assoc]

/-- The kinds that are looked up by letter and width are those of the table. -/
theorem ofClass?_eq_some_iff {letter : Char} {width : Nat} {kind : Kind} :
    ofClass? letter width = some kind ↔ (letter, width, kind) ∈ classes := by
  constructor
  · intro h
    unfold ofClass? at h
    split at h <;> cases h <;> decide
  · intro h
    simp only [classes, List.mem_cons, List.not_mem_nil, or_false, Prod.mk.injEq] at h
    rcases h with h | h | h | h | h | h | h | h | h <;> obtain ⟨rfl, rfl, rfl⟩ := h <;> rfl

/-- No kind is so wide that its width is not a word. -/
theorem lt_modulus_of_mem_classes {letter : Char} {width : Nat} {kind : Kind}
    (h : (letter, width, kind) ∈ classes) : width < Word.modulus := by
  have hall : ∀ entry ∈ classes, entry.2.1 < Word.modulus := by decide
  exact hall _ h

theorem ofTypeString?_eq_some_iff {text : String} {kind : Kind} :
    ofTypeString? text = some kind ↔
      ∃ letter width, IsTypeString text letter width ∧ (letter, width, kind) ∈ classes := by
  constructor
  · intro h
    unfold ofTypeString? at h
    split at h
    · rename_i mark letter size htext
      obtain ⟨width, hwidth, hkind⟩ := Option.bind_eq_some_iff.mp h
      obtain ⟨hsize, -⟩ := Numeral.word?_eq_some_iff.mp hwidth
      split at hkind
      · rename_i hmark
        exact ⟨letter, width, .intro htext (isNativeOrder_iff.mp hmark) hsize,
          ofClass?_eq_some_iff.mp hkind⟩
      · cases hkind
    · cases h
  · rintro ⟨letter, width, ⟨htext, hmark, hsize⟩, hclass⟩
    have hwidth := Numeral.word?_eq_some_iff.mpr ⟨hsize, lt_modulus_of_mem_classes hclass⟩
    simp only [ofTypeString?, htext, hwidth, Option.bind_some, isNativeOrder_iff.mpr hmark, if_true]
    exact ofClass?_eq_some_iff.mpr hclass

/-- The type string of a kind is in the language, with the letter and the width of the kind. -/
theorem isTypeString_typeString (kind : Kind) :
    IsTypeString kind.typeString kind.classLetter kind.width := by
  have htext : kind.typeString.toList =
      kind.orderMark :: kind.classLetter :: (toString kind.width).toList := by
    rw [typeString, String.toList_append, String.toList_ofList]
    rfl
  have hmark : kind.orderMark ∈ ['<', '|', '='] := by cases kind <;> decide
  have hsize : Numeral.word? (toString kind.width).toList = some kind.width := by
    cases kind <;> decide +kernel
  exact .intro htext hmark (Numeral.word?_eq_some_iff.mp hsize).1

theorem mem_classes (kind : Kind) : (kind.classLetter, kind.width, kind) ∈ classes := by
  cases kind <;> decide

/-- The reader of type strings accepts exactly the language, and the type string of each kind is
read as that kind. -/
theorem ofTypeString?_exact :
    (∀ (text : String) (kind : Kind), ofTypeString? text = some kind ↔
      ∃ letter width, IsTypeString text letter width ∧ (letter, width, kind) ∈ classes) ∧
    -- Every other text is refused.
    (∀ text : String, ofTypeString? text = none ↔
      ¬∃ letter width kind, IsTypeString text letter width ∧ (letter, width, kind) ∈ classes) ∧
    -- The numeral in the type string of a kind denotes the width of the kind.
    ∀ kind : Kind, ofTypeString? kind.typeString = some kind ∧
      IsTypeString kind.typeString kind.classLetter kind.width := by
  refine ⟨fun text kind => ofTypeString?_eq_some_iff, ?_, ?_⟩
  · intro text
    rw [Option.eq_none_iff_forall_ne_some]
    simp only [ne_eq, ofTypeString?_eq_some_iff, not_exists]
    exact ⟨fun h letter width kind => h kind letter width,
      fun h kind letter width => h letter width kind⟩
  · intro kind
    have hstring := isTypeString_typeString kind
    exact ⟨ofTypeString?_eq_some_iff.mpr ⟨_, _, hstring, mem_classes kind⟩, hstring⟩

/-- A sign and zeros in front of the width do not matter, but a second sign does. -/
example : ofTypeString? "=c+00016" = some .complex128 ∧ ofTypeString? "=c++16" = none := by
  decide +kernel

end Kind

end HostBridge
