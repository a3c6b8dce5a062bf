import Mathlib.Data.List.Basic
import Mathlib.Data.String.Basic
import Xcplane.Lib.Occurrence

/-!
Bytes read as UTF-8: strictly, and with a replacement character for what is not, one for
each maximal beginning of a character. A search for ASCII characters finds the same in the
bytes.
-/

namespace Xcplane.Lib.Utf8

/-- What bytes are, taken together: a character, the beginning of one, or neither. -/
inductive Progress
  | complete (c : Char)
  | more
  | invalid
  deriving DecidableEq, Repr

def isContinuation (b : UInt8) : Bool :=
  0x80 ≤ b.toNat && b.toNat < 0xC0

/-- The second bytes of the longer sequences leave out overlong forms, surrogates and
numbers beyond Unicode. -/
def isSecond (a b : UInt8) : Bool :=
  if a.toNat = 0xE0 then 0xA0 ≤ b.toNat && b.toNat < 0xC0
  else if a.toNat = 0xED then 0x80 ≤ b.toNat && b.toNat < 0xA0
  else if a.toNat = 0xF0 then 0x90 ≤ b.toNat && b.toNat < 0xC0
  else if a.toNat = 0xF4 then 0x80 ≤ b.toNat && b.toNat < 0x90
  else isContinuation b

def progress : List UInt8 → Progress
  | [a] =>
      if a.toNat < 0x80 then .complete (.ofNat a.toNat)
      else if 0xC2 ≤ a.toNat ∧ a.toNat < 0xF5 then .more
      else .invalid
  | [a, b] =>
      if a.toNat < 0xE0 then
        if isContinuation b then .complete (.ofNat ((a.toNat - 0xC0) * 64 + (b.toNat - 0x80)))
        else .invalid
      else if isSecond a b then .more
      else .invalid
  | [a, b, c] =>
      if isContinuation c then
        if a.toNat < 0xF0 then
          .complete (.ofNat ((a.toNat - 0xE0) * 4096 + (b.toNat - 0x80) * 64 + (c.toNat - 0x80)))
        else .more
      else .invalid
  | [a, b, c, d] =>
      if isContinuation d then
        .complete (.ofNat ((a.toNat - 0xF0) * 262144 + (b.toNat - 0x80) * 4096 +
          (c.toNat - 0x80) * 64 + (d.toNat - 0x80)))
      else .invalid
  | _ => .invalid

/-- A character, or the bytes in place of one: as many as cannot be continued, or the
beginning of a character that the text ends with. -/
inductive Piece
  | valid (c : Char)
  | invalid (bytes : Nat)
  | incomplete
  deriving DecidableEq, Repr

/-- Where the byte goes that follows no beginning: the pieces it settles, and the beginning
it leaves. -/
def start (b : UInt8) : List Piece × List UInt8 :=
  match progress [b] with
  | .complete c => ([.valid c], [])
  | .more => ([], [b])
  | .invalid => ([.invalid 1], [])

/-- One byte after the beginning of a character. -/
def advance (pending : List UInt8) (b : UInt8) : List Piece × List UInt8 :=
  match pending with
  | [] => start b
  | _ :: _ =>
      match progress (pending ++ [b]) with
      | .complete c => ([.valid c], [])
      | .more => ([], pending ++ [b])
      | .invalid => (.invalid pending.length :: (start b).1, (start b).2)

def piecesFrom (pending : List UInt8) : List UInt8 → List Piece
  | [] => if pending = [] then [] else [.incomplete]
  | b :: rest => (advance pending b).1 ++ piecesFrom (advance pending b).2 rest

def pieces (bytes : List UInt8) : List Piece :=
  piecesFrom [] bytes

def replacement : Char := '\uFFFD'

def Piece.char : Piece → Char
  | .valid c => c
  | .invalid _ => replacement
  | .incomplete => replacement

/-- The text with the replacements. -/
def lossy (bytes : List UInt8) : List Char :=
  (pieces bytes).map Piece.char

/-- The text, or the index of the first byte that belongs to no character and how many
bytes there cannot be continued. -/
def strictFrom : Nat → List Piece → Except (Nat × Option Nat) (List Char)
  | _, [] => .ok []
  | index, .valid c :: rest => (strictFrom (index + c.utf8Size) rest).map (c :: ·)
  | index, .invalid bytes :: _ => .error (index, some bytes)
  | index, .incomplete :: _ => .error (index, none)

def strict (bytes : List UInt8) : Except (Nat × Option Nat) (List Char) :=
  strictFrom 0 (pieces bytes)

example : lossy [0x61, 0xE2, 0x82, 0xAC, 0xF0, 0x9F, 0x41, 0xC3] =
    ['a', '€', replacement, 'A', replacement] := by decide

example : strict [0x61, 0xC3, 0xA9, 0xF0, 0x9F, 0x41] = .error (3, some 2) := by decide

theorem chars_of_strictFrom {index : Nat} {l : List Piece} {s : List Char}
    (h : strictFrom index l = .ok s) : l.map Piece.char = s := by
  induction l generalizing index s with
  | nil => exact Except.ok.inj h
  | cons p rest ih =>
      cases p with
      | valid c =>
          rw [strictFrom] at h
          cases hrest : strictFrom (index + c.utf8Size) rest with
          | error e =>
              rw [hrest] at h
              cases h
          | ok s' =>
              rw [hrest] at h
              rw [List.map_cons, ih hrest]
              exact Except.ok.inj h
      | invalid bytes => cases h
      | incomplete => cases h

/-- Nothing is replaced in what is UTF-8. -/
theorem lossy_of_strict {bytes : List UInt8} {s : List Char} (h : strict bytes = .ok s) :
    lossy bytes = s :=
  chars_of_strictFrom h

section Ascii

def isAscii (b : UInt8) : Bool := b.toNat < 0x80

def isAsciiChar (c : Char) : Bool := c.toNat < 0x80

theorem progress_ascii {b : UInt8} (h : isAscii b = true) :
    progress [b] = .complete (.ofNat b.toNat) := by
  simp only [isAscii, decide_eq_true_eq] at h
  rw [progress, if_pos h]

theorem progress_ne_complete {b : UInt8} (h : isAscii b = false) (c : Char) :
    progress [b] ≠ .complete c := by
  simp only [isAscii, decide_eq_false_iff_not] at h
  rw [progress, if_neg h]
  split
  · rintro ⟨⟩
  · rintro ⟨⟩

theorem toNat_ofNat {n : Nat} (hvalid : n.isValidChar) : (Char.ofNat n).toNat = n := by
  rw [Char.ofNat, dif_pos hvalid]
  rfl

theorem isAsciiChar_ofNat {n : Nat} (hlow : 0x80 ≤ n) (hvalid : n.isValidChar) :
    isAsciiChar (.ofNat n) = false := by
  rw [isAsciiChar, toNat_ofNat hvalid, decide_eq_false_iff_not]
  omega

theorem utf8ByteSize_of_ascii {s : String} (h : ∀ c ∈ s.toList, isAsciiChar c = true) :
    s.utf8ByteSize = s.toList.length := by
  rw [← String.ofList_toList (s := s), String.utf8ByteSize_ofList, String.toList_ofList]
  generalize s.toList = cs at h
  induction cs with
  | nil => rfl
  | cons c rest ih =>
      obtain ⟨hc, hrest⟩ := List.forall_mem_cons.mp h
      have hlow : c.toNat < 0x80 := of_decide_eq_true hc
      have hsize : c.utf8Size = 1 := Char.utf8Size_eq_one_iff.mpr (Nat.le_of_lt_succ hlow)
      rw [String.utf8Len_cons, hsize, ih hrest, List.length_cons]

theorem not_ascii_replacement : isAsciiChar replacement = false := by decide

theorem not_ascii_of_isContinuation {b : UInt8} (h : isContinuation b = true) :
    isAscii b = false := by
  simp only [isContinuation, Bool.and_eq_true, decide_eq_true_eq] at h
  simp only [isAscii, decide_eq_false_iff_not]
  omega

theorem not_ascii_of_isSecond {a b : UInt8} (h : isSecond a b = true) : isAscii b = false := by
  simp only [isSecond, isContinuation] at h
  simp only [isAscii, decide_eq_false_iff_not]
  grind

theorem lead_of_more {a : UInt8} (h : progress [a] = .more) :
    0xC2 ≤ a.toNat ∧ a.toNat < 0xF5 := by
  simp only [progress] at h
  grind

theorem second_of_more {a b : UInt8} (h : progress [a, b] = .more) :
    0xE0 ≤ a.toNat ∧ isSecond a b = true := by
  simp only [progress] at h
  grind

theorem third_of_more {a b c : UInt8} (h : progress [a, b, c] = .more) :
    0xF0 ≤ a.toNat ∧ isContinuation c = true := by
  simp only [progress] at h
  grind

theorem progress_of_five (a₁ a₂ a₃ a₄ : UInt8) (rest : List UInt8) (b : UInt8) :
    progress (a₁ :: a₂ :: a₃ :: a₄ :: rest ++ [b]) = .invalid := by
  cases rest with
  | nil => rfl
  | cons _ _ => rfl

/-- What a beginning can be continued with is no ASCII byte. -/
theorem not_ascii_of_progress {pending : List UInt8} {b : UInt8} (hne : pending ≠ [])
    (h : progress (pending ++ [b]) ≠ .invalid) : isAscii b = false := by
  match pending, hne, h with
  | [a], _, h =>
      simp only [List.cons_append, List.nil_append, progress] at h
      by_cases hcont : isContinuation b = true
      · exact not_ascii_of_isContinuation hcont
      · by_cases hsecond : isSecond a b = true
        · exact not_ascii_of_isSecond hsecond
        · simp [hcont, hsecond] at h
  | [_, _], _, h =>
      simp only [List.cons_append, List.nil_append, progress] at h
      by_cases hcont : isContinuation b = true
      · exact not_ascii_of_isContinuation hcont
      · simp [hcont] at h
  | [_, _, _], _, h =>
      simp only [List.cons_append, List.nil_append, progress] at h
      by_cases hcont : isContinuation b = true
      · exact not_ascii_of_isContinuation hcont
      · simp [hcont] at h
  | a₁ :: a₂ :: a₃ :: a₄ :: rest, _, h =>
      exact absurd (progress_of_five a₁ a₂ a₃ a₄ rest b) h

/-- Bytes that were read one after the other without settling a piece. -/
structure Beginning (pending : List UInt8) : Prop where
  more : ∀ bytes, bytes ≠ [] → bytes <+: pending → progress bytes = .more
  not_ascii : ∀ b ∈ pending, isAscii b = false

theorem beginning_nil : Beginning [] where
  more bytes hne hprefix := absurd (List.prefix_nil.mp hprefix) hne
  not_ascii := by simp

theorem beginning_concat {pending : List UInt8} {b : UInt8} (h : Beginning pending)
    (hb : progress (pending ++ [b]) = .more) (hbyte : isAscii b = false) :
    Beginning (pending ++ [b]) where
  more := by
    intro bytes hne hprefix
    rcases List.prefix_concat_iff.mp hprefix with rfl | hprefix
    · exact hb
    · exact h.more bytes hne hprefix
  not_ascii := by
    intro a ha
    rcases List.mem_append.mp ha with ha | ha
    · exact h.not_ascii a ha
    · rw [List.mem_singleton.mp ha]
      exact hbyte

/-- A character of several bytes is not an ASCII one. -/
theorem not_ascii_of_complete {pending : List UInt8} {b : UInt8} {c : Char}
    (hne : pending ≠ []) (hpending : Beginning pending)
    (h : progress (pending ++ [b]) = .complete c) : isAsciiChar c = false := by
  match pending, hne, hpending, h with
  | [a₁], _, hpending, h =>
      obtain ⟨hlow, _⟩ := lead_of_more (hpending.more [a₁] (by simp) (by simp))
      simp only [List.cons_append, List.nil_append, progress, isContinuation, Bool.and_eq_true,
        decide_eq_true_eq] at h
      obtain ⟨hshort, hb, rfl⟩ : a₁.toNat < 0xE0 ∧ (0x80 ≤ b.toNat ∧ b.toNat < 0xC0) ∧
          .ofNat ((a₁.toNat - 0xC0) * 64 + (b.toNat - 0x80)) = c := by grind
      exact isAsciiChar_ofNat (by omega) (.inl (by omega))
  | [a₁, a₂], _, hpending, h =>
      obtain ⟨hlow, hsecond⟩ := second_of_more (hpending.more [a₁, a₂] (by simp) (by simp))
      simp only [isSecond, isContinuation] at hsecond
      simp only [List.cons_append, List.nil_append, progress, isContinuation, Bool.and_eq_true,
        decide_eq_true_eq] at h
      obtain ⟨hb, hshort, rfl⟩ : (0x80 ≤ b.toNat ∧ b.toNat < 0xC0) ∧ a₁.toNat < 0xF0 ∧
          .ofNat ((a₁.toNat - 0xE0) * 4096 + (a₂.toNat - 0x80) * 64 + (b.toNat - 0x80)) = c := by
        grind
      apply isAsciiChar_ofNat
      · grind
      · unfold Nat.isValidChar
        grind
  | [a₁, a₂, a₃], _, hpending, h =>
      obtain ⟨_, hhigh⟩ := lead_of_more (hpending.more [a₁] (by simp) (by simp))
      obtain ⟨_, hsecond⟩ := second_of_more (hpending.more [a₁, a₂] (by simp) (by simp))
      obtain ⟨hlow, hthird⟩ := third_of_more (hpending.more [a₁, a₂, a₃] (by simp) (by simp))
      simp only [isSecond, isContinuation] at hsecond
      simp only [isContinuation, Bool.and_eq_true, decide_eq_true_eq] at hthird
      simp only [List.cons_append, List.nil_append, progress, isContinuation, Bool.and_eq_true,
        decide_eq_true_eq] at h
      obtain ⟨hb, rfl⟩ : (0x80 ≤ b.toNat ∧ b.toNat < 0xC0) ∧
          .ofNat ((a₁.toNat - 0xF0) * 262144 + (a₂.toNat - 0x80) * 4096 +
            (a₃.toNat - 0x80) * 64 + (b.toNat - 0x80)) = c := by
        grind
      apply isAsciiChar_ofNat
      · grind
      · refine .inr ⟨?_, ?_⟩
        · grind
        · grind
  | a₁ :: a₂ :: a₃ :: a₄ :: rest, _, _, h =>
      rw [progress_of_five] at h
      cases h

end Ascii

section Search

variable {γ : Type} {pat : List γ} {ofByte : UInt8 → γ} {ofChar : Char → γ}

/-- The bytes and the characters are seen alike where they are ASCII, and as nothing of the
pattern elsewhere. -/
structure SeenAlike (pat : List γ) (ofByte : UInt8 → γ) (ofChar : Char → γ) : Prop where
  ascii : ∀ b, isAscii b = true → ofByte b = ofChar (.ofNat b.toNat)
  byte : ∀ b, isAscii b = false → ofByte b ∉ pat
  char : ∀ c, isAsciiChar c = false → ofChar c ∉ pat

theorem SeenAlike.bytes (h : SeenAlike pat ofByte ofChar) {bytes : List UInt8}
    (hne : bytes ≠ []) (hbytes : ∀ b ∈ bytes, isAscii b = false) :
    Untouched pat (bytes.map ofByte) := by
  apply untouched_of_notMem (by simpa using hne)
  simpa using fun b hb => h.byte b (hbytes b hb)

theorem SeenAlike.replaced (h : SeenAlike pat ofByte ofChar) {c : Char}
    (hc : isAsciiChar c = false) : Untouched pat [ofChar c] := by
  apply untouched_of_notMem (by simp)
  simpa using h.char c hc

variable (h : SeenAlike pat ofByte ofChar) {pending rest : List UInt8}
include h

/-- A byte after no beginning. -/
theorem aligned_start {b : UInt8}
    (ih : ∀ pending, Beginning pending → Aligned pat ((pending ++ rest).map ofByte)
      ((piecesFrom pending rest).map fun p => ofChar p.char)) :
    Aligned pat ((b :: rest).map ofByte)
      (((start b).1 ++ piecesFrom (start b).2 rest).map fun p => ofChar p.char) := by
  have hrest := ih [] beginning_nil
  cases hb : isAscii b with
  | true =>
      rw [start, progress_ascii hb, List.map_cons, h.ascii b hb]
      exact hrest.same _
  | false =>
      have hbytes : ∀ a ∈ [b], isAscii a = false := by simpa using hb
      cases hp : progress [b] with
      | complete c => exact absurd hp (progress_ne_complete hb c)
      | more =>
          rw [start, hp]
          exact ih [b] (beginning_concat beginning_nil hp hb)
      | invalid =>
          rw [start, hp]
          exact .stretch (h.bytes (List.cons_ne_nil b []) hbytes)
            (h.replaced not_ascii_replacement) hrest

/-- Characters outside ASCII come from bytes outside ASCII. -/
theorem aligned_piecesFrom {bytes : List UInt8} (hpending : Beginning pending) :
    Aligned pat ((pending ++ bytes).map ofByte)
      ((piecesFrom pending bytes).map fun p => ofChar p.char) := by
  induction bytes generalizing pending with
  | nil =>
      rw [piecesFrom, List.append_nil]
      split
      · rename_i hnil
        rw [hnil]
        exact .nil
      · rename_i hne
        rw [← List.append_nil (pending.map ofByte)]
        exact .stretch (h.bytes hne hpending.not_ascii) (h.replaced not_ascii_replacement) .nil
  | cons b rest ih =>
      rw [piecesFrom]
      cases pending with
      | nil => exact aligned_start h fun _ => ih
      | cons a pending =>
          have hne : a :: pending ≠ [] := List.cons_ne_nil a pending
          rw [advance]
          cases hp : progress (a :: pending ++ [b]) with
          | complete c =>
              have hb := not_ascii_of_progress hne (by rw [hp]; rintro ⟨⟩)
              have hc := not_ascii_of_complete hne hpending hp
              have hbytes : ∀ x ∈ a :: pending ++ [b], isAscii x = false := by
                intro x hx
                rcases List.mem_append.mp hx with hx | hx
                · exact hpending.not_ascii x hx
                · rw [List.mem_singleton.mp hx]
                  exact hb
              rw [List.append_cons (a :: pending) b rest, List.map_append]
              exact .stretch (h.bytes (by simp) hbytes) (h.replaced hc) (ih beginning_nil)
          | more =>
              have hb := not_ascii_of_progress hne (by rw [hp]; rintro ⟨⟩)
              rw [List.append_cons (a :: pending) b rest]
              exact ih (beginning_concat hpending hp hb)
          | invalid =>
              rw [List.map_append]
              exact .stretch (h.bytes hne hpending.not_ascii) (h.replaced not_ascii_replacement)
                (aligned_start h fun _ => ih)

theorem aligned_lossy (bytes : List UInt8) :
    Aligned pat (bytes.map ofByte) ((lossy bytes).map ofChar) := by
  rw [lossy, List.map_map]
  exact aligned_piecesFrom h beginning_nil

end Search

end Xcplane.Lib.Utf8
