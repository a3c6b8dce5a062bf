import Mathlib.Algebra.Ring.Nat
import Mathlib.Data.List.Basic

/-!
The recognizers for names and subdomains, and the slug that the error messages
suggest.
-/

namespace Xcplane.Naming

/-- `char::is_whitespace`: the Unicode `White_Space` property. -/
def isWhitespace (c : Char) : Bool :=
  (0x09 ≤ c.toNat && c.toNat ≤ 0x0D) || c.toNat == 0x20 || c.toNat == 0x85 ||
    c.toNat == 0xA0 || c.toNat == 0x1680 || (0x2000 ≤ c.toNat && c.toNat ≤ 0x200A) ||
    c.toNat == 0x2028 || c.toNat == 0x2029 || c.toNat == 0x202F || c.toNat == 0x205F ||
    c.toNat == 0x3000

def trimChars (cs : List Char) : List Char :=
  ((cs.dropWhile isWhitespace).reverse.dropWhile isWhitespace).reverse

/-- `str::trim`. -/
def trim (s : String) : String :=
  String.ofList (trimChars s.toList)

def isAsciiLowerOrDigit (c : Char) : Bool :=
  c.isLower || c.isDigit

def isProperSubdomain (name : String) : Bool :=
  !name.isEmpty && decide (name.utf8ByteSize ≤ 63) &&
    name.toList.head?.any isAsciiLowerOrDigit &&
    name.toList.getLast?.any isAsciiLowerOrDigit &&
    name.toList.all fun c => isAsciiLowerOrDigit c || c == '-'

def isProper (name : String) : Bool :=
  !name.isEmpty && name.toList.head?.any Char.isAlphanum &&
    name.toList.getLast?.any Char.isAlphanum &&
    name.toList.all fun c => c.isAlphanum || c == '_'

/-- One character of a slug, by whether it starts or ends the string. -/
def slugChar (first last : Bool) (c : Char) : Char :=
  match first, last, c.isAlphanum with
  | _, _, true => c
  | true, _, false => 'a'
  | _, true, false => 'a'
  | _, _, _ => '_'

/-- The slug of the characters from byte position `p` of a string of `sl`
bytes. -/
def slugFrom (sl : Nat) : Nat → List Char → List Char
  | _, [] => []
  | p, c :: cs => slugChar (p == 0) (p + c.utf8Size == sl) c :: slugFrom sl (p + c.utf8Size) cs

def slug (s : String) : String :=
  match (trim s).toList with
  | [] => "good_nickname1"
  | cs => String.ofList (slugFrom (cs.map Char.utf8Size).sum 0 cs)

theorem toNat_of_isAlphanum {c : Char} (h : c.isAlphanum = true) :
    48 ≤ c.toNat ∧ c.toNat ≤ 122 := by
  have hranges : (((decide (c.val ≥ 'A'.val ∧ c.val ≤ 'Z'.val)) ||
      (decide (c.val ≥ 'a'.val) && decide (c.val ≤ 'z'.val))) ||
        (decide (c.val ≥ '0'.val) && decide (c.val ≤ '9'.val))) = true := h
  simp only [Bool.or_eq_true, Bool.and_eq_true, decide_eq_true_eq, ge_iff_le,
    UInt32.le_iff_toNat_le] at hranges
  have h0 : '0'.val.toNat = 48 := rfl
  have h9 : '9'.val.toNat = 57 := rfl
  have hA : 'A'.val.toNat = 65 := rfl
  have hZ : 'Z'.val.toNat = 90 := rfl
  have ha : 'a'.val.toNat = 97 := rfl
  have hz : 'z'.val.toNat = 122 := rfl
  have hc : c.toNat = c.val.toNat := rfl
  omega

theorem dropWhile_of_none {p : Char → Bool} {cs : List Char} (h : ∀ c ∈ cs, p c = false) :
    cs.dropWhile p = cs := by
  cases cs with
  | nil => rfl
  | cons c rest => rw [List.dropWhile_cons, h c List.mem_cons_self, if_neg Bool.false_ne_true]

/-- A string with a first character is not empty. -/
theorem not_isEmpty_of_head {name : String} {p : Char → Bool}
    (h : name.toList.head?.any p = true) : (!name.isEmpty) = true := by
  rw [Bool.not_eq_true', String.isEmpty_eq_false_iff]
  rintro rfl
  cases h

theorem isProper_iff (name : String) :
    isProper name = true ↔ name.toList.head?.any Char.isAlphanum = true ∧
      name.toList.getLast?.any Char.isAlphanum = true ∧
        ∀ c ∈ name.toList, (c.isAlphanum || c == '_') = true := by
  simp only [isProper, Bool.and_eq_true, List.all_eq_true, and_assoc]
  exact and_iff_right_of_imp fun h => not_isEmpty_of_head h.1

/-- The characters of names are visible. -/
theorem toNat_of_word {c : Char} (h : (c.isAlphanum || c == '_') = true) :
    48 ≤ c.toNat ∧ c.toNat ≤ 122 := by
  rcases Bool.or_eq_true_iff.mp h with halnum | hunderscore
  · exact toNat_of_isAlphanum halnum
  · rw [beq_iff_eq.mp hunderscore]
    decide

example : slug " my-node é " = "my_node_a" := by decide

end Xcplane.Naming
