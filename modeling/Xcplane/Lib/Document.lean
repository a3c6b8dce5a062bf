import Mathlib.Data.List.Basic
import Xcplane.Lib.AssocMap
import Xcplane.Lib.Result

/-!
Configuration documents of nested tables, as values: looking fields up with their
defaults, and changing them in place. A list of tables with headings of their own is not
the same as a list of values.
-/

namespace Xcplane.Lib.Document

inductive Item
  | string (text : String)
  | integer (n : Int)
  | boolean (b : Bool)
  | array (items : List Item)
  | table (entries : List (String × Item))
  | tables (list : List (List (String × Item)))

/-- The entries of a table, with distinct keys. -/
abbrev Table := List (String × Item)

/-- How documents are written and read: serialized and parsed for an edit, and written
after it and deserialized. -/
structure Texts where
  toString : Table → String
  parseDocument : String → Except String Table
  documentText : Table → String
  fromStr : String → Except String Table

/-- What was serialized is parsed as the same document. -/
def Texts.Serializes (T : Texts) (doc : Table) : Prop :=
  T.parseDocument (T.toString doc) = .ok doc

/-- What was written after an edit is read as the same document. -/
def Texts.Edits (T : Texts) (doc : Table) : Prop :=
  T.fromStr (T.documentText doc) = .ok doc

namespace Item

def asStr : Item → Option String
  | .string text => some text
  | _ => none

def asArrayOfTables : Item → Option (List Table)
  | .tables l => some l
  | _ => none

/-- A list of tables. Without any there are no headings, only an empty list. -/
def ofTables : List Table → Item
  | [] => .array []
  | t :: rest => .tables (t :: rest)

def toStr : Item → Except String String
  | .string text => .ok text
  | _ => .error "invalid type: expected a string"

def toBool : Item → Except String Bool
  | .boolean b => .ok b
  | _ => .error "invalid type: expected a boolean"

def toUnsigned (bound : Nat) : Item → Except String Nat
  | .integer n =>
      if 0 ≤ n ∧ n < bound then .ok n.toNat else .error "invalid value: integer out of range"
  | _ => .error "invalid type: expected an integer"

def toTable : Item → Except String Table
  | .table t => .ok t
  | _ => .error "invalid type: expected a map"

def toList {α : Type} (read : Item → Except String α) : Item → Except String (List α)
  | .array items => items.mapM read
  | .tables l => l.mapM fun t => read (.table t)
  | _ => .error "invalid type: expected a sequence"

end Item

section Fields

variable {α : Type}

def field (t : Table) (key : String) (read : Item → Except String α) : Except String α :=
  match t.lookup key with
  | some item => read item
  | none => .error ("missing field '" ++ key ++ "'")

def fieldOr (t : Table) (key : String) (read : Item → Except String α) (default : α) :
    Except String α :=
  match t.lookup key with
  | some item => read item
  | none => .ok default

/-- Changes the value of a key, or adds the key at the end. -/
def insert (t : Table) (key : String) (item : Item) : Table :=
  match t with
  | [] => [(key, item)]
  | (key', item') :: rest =>
      if key' = key then (key, item) :: rest else (key', item') :: insert rest key item

theorem field_of_lookup {t : Table} {key : String} {read : Item → Except String α} {item : Item}
    (h : t.lookup key = some item) : field t key read = read item := by
  rw [field, h]

theorem fieldOr_of_lookup {t : Table} {key : String} {read : Item → Except String α} {d : α}
    {item : Item} (h : t.lookup key = some item) : fieldOr t key read d = read item := by
  rw [fieldOr, h]

theorem lookup_insert (t : Table) (key : String) (item : Item) (k : String) :
    (insert t key item).lookup k = if k = key then some item else t.lookup k := by
  induction t with
  | nil => rw [insert, lookup_cons_ite]
  | cons e rest ih =>
      obtain ⟨key', item'⟩ := e
      rw [insert]
      by_cases hkey : key' = key
      · rw [if_pos hkey, lookup_cons_ite, lookup_cons_ite]
        by_cases hk : k = key
        · rw [if_pos hk, if_pos hk]
        · rw [if_neg hk, if_neg hk, if_neg (hkey ▸ hk)]
      · rw [if_neg hkey, lookup_cons_ite, lookup_cons_ite, ih]
        by_cases hk : k = key'
        · subst hk
          rw [if_pos rfl, if_pos rfl, if_neg hkey]
        · rw [if_neg hk, if_neg hk]

end Fields

section Reading

variable {α β : Type} {n bound : Nat}

@[simp] theorem toStr_string (text : String) : Item.toStr (.string text) = .ok text := rfl

theorem toUnsigned_natCast (h : n < bound) : Item.toUnsigned bound (.integer n) = .ok n := by
  rw [Item.toUnsigned, if_pos ⟨Int.natCast_nonneg n, by exact_mod_cast h⟩, Int.toNat_natCast]

theorem mapM_map_ok {γ : Type} {write : α → β} {read : β → Except String γ} {f : α → γ}
    {l : List α} (h : ∀ a ∈ l, read (write a) = .ok (f a)) :
    (l.map write).mapM read = .ok (l.map f) := by
  rw [mapM_eq_ok_iff, List.forall₂_map_left_iff, List.forall₂_map_right_iff, List.forall₂_same]
  exact h

/-- A list of tables is read back whether it is empty or not. -/
theorem toList_ofTables {write : α → Table} {read : Table → Except String β} {f : α → β}
    {l : List α} (h : ∀ a ∈ l, read (write a) = .ok (f a)) :
    (Item.ofTables (l.map write)).toList (fun item => item.toTable >>= read) = .ok (l.map f) := by
  cases l with
  | nil => rfl
  | cons a rest =>
      show ((a :: rest).map write).mapM (fun t => (Item.table t).toTable >>= read) = _
      exact mapM_map_ok h

theorem toList_array {write : α → Item} {read : Item → Except String β} {f : α → β}
    {l : List α} (h : ∀ a ∈ l, read (write a) = .ok (f a)) :
    (Item.array (l.map write)).toList read = .ok (l.map f) :=
  mapM_map_ok h

end Reading

end Xcplane.Lib.Document
