import Xcplane.Lib.Utf8

/-!
The lowercase of a text, over the tables of a version of Unicode, and the search in the
lowercase of what was read as UTF-8: for most ASCII patterns, a search in the bytes.
-/

namespace Xcplane.Lib.Utf8

/-- The tables of a version of Unicode. Of the characters outside ASCII, two have ASCII
ones in their lowercase. -/
structure CaseTables where
  toLower : Char → List Char
  cased : Char → Bool
  caseIgnorable : Char → Bool
  ascii : ∀ c, isAsciiChar c = true → toLower c = [c.toLower]
  dottedI : toLower '\u0130' = ['i', '\u0307']
  kelvin : toLower '\u212A' = ['k']
  other : ∀ c, isAsciiChar c = false → c ≠ '\u0130' → c ≠ '\u212A' →
    ∃ d, toLower c = [d] ∧ isAsciiChar d = false

variable (T : CaseTables)

def caseIgnorableThenCased (l : List Char) : Bool :=
  (l.dropWhile T.caseIgnorable).head?.any T.cased

/-- What a character becomes, after the given ones in reverse and before the others: a
capital sigma at the end of a word has a form of its own. -/
def lowerAt (before : List Char) (c : Char) (after : List Char) : List Char :=
  if c = 'Σ' then
    if caseIgnorableThenCased T before && !caseIgnorableThenCased T after then ['ς'] else ['σ']
  else T.toLower c

def lowerFrom (before : List Char) : List Char → List Char
  | [] => []
  | c :: after => lowerAt T before c after ++ lowerFrom (c :: before) after

/-- `str::to_lowercase`. -/
def toLowercase (s : List Char) : List Char :=
  lowerFrom T [] s

section Ascii

variable {T : CaseTables}

theorem lowerFrom_of_ascii (before : List Char) {s : List Char}
    (h : ∀ c ∈ s, isAsciiChar c = true) : lowerFrom T before s = s.map Char.toLower := by
  induction s generalizing before with
  | nil => rfl
  | cons c s ih =>
      obtain ⟨hc, hs⟩ := List.forall_mem_cons.mp h
      have hsigma : c ≠ 'Σ' := by
        rintro rfl
        exact absurd hc (by decide)
      rw [lowerFrom, lowerAt, if_neg hsigma, T.ascii c hc, ih _ hs]
      rfl

/-- ASCII becomes what it does in every version of Unicode. -/
theorem toLowercase_of_ascii {s : List Char} (h : ∀ c ∈ s, isAsciiChar c = true) :
    toLowercase T s = s.map Char.toLower :=
  lowerFrom_of_ascii [] h

end Ascii

section Search

def seenChar (c : Char) : Option Char :=
  if isAsciiChar c then some c else none

def seenByte (b : UInt8) : Option Char :=
  if isAscii b then some (.ofNat b.toNat) else none

def loweredChar (c : Char) : Option Char :=
  if isAsciiChar c then some c.toLower else none

def loweredByte (b : UInt8) : Option Char :=
  if isAscii b then some (Char.ofNat b.toNat).toLower else none

/-- The pattern is ASCII, and what the lowercase of other characters has of ASCII neither
ends it nor lies beyond its end. -/
structure Searchable (pat : List Char) : Prop where
  ascii : ∀ c ∈ pat, isAsciiChar c = true
  nonempty : pat ≠ []
  last : pat.getLast? ≠ some 'i'
  kelvin : 'k' ∉ pat

variable {T} {pat : List Char}

theorem seenChar_eq_some_iff {c d : Char} (hd : isAsciiChar d = true) :
    seenChar c = some d ↔ c = d := by
  constructor
  · intro h
    unfold seenChar at h
    split at h
    · exact Option.some.inj h
    · cases h
  · rintro rfl
    rw [seenChar, if_pos hd]

theorem infix_map_seenChar_iff (hpat : ∀ c ∈ pat, isAsciiChar c = true) {s : List Char} :
    pat.map some <:+: s.map seenChar ↔ pat <:+: s := by
  rw [map_some_infix_iff (g := id) fun d hd _ => seenChar_eq_some_iff (hpat d hd), List.map_id]

theorem isAsciiChar_ofNat_lt {n : Nat} (h : n < 0x80) : isAsciiChar (.ofNat n) = true := by
  have hvalid : n.isValidChar := .inl (by omega)
  rw [isAsciiChar, toNat_ofNat hvalid, decide_eq_true_eq]
  exact h

theorem toLower_eq_of_not_ascii {c : Char} (h : isAsciiChar c = false) : c.toLower = c := by
  rw [isAsciiChar, decide_eq_false_iff_not] at h
  apply dif_neg
  rintro ⟨-, hle⟩
  exact h (Nat.lt_of_le_of_lt (UInt32.le_iff_toNat_le.mp hle) (by decide))

theorem isAsciiChar_toLower {c : Char} (h : isAsciiChar c = true) :
    isAsciiChar c.toLower = true := by
  rw [isAsciiChar, decide_eq_true_eq] at h ⊢
  by_cases hupper : c.val ≥ 'A'.val ∧ c.val ≤ 'Z'.val
  · have hlower : c.toLower.toNat = (c.val + ('a'.val - 'A'.val)).toNat :=
      congrArg Char.toNat (dif_pos hupper)
    have hle : c.val.toNat ≤ 'Z'.val.toNat := UInt32.le_iff_toNat_le.mp hupper.2
    have hZ : 'Z'.val.toNat = 90 := rfl
    have hstep : ('a'.val - 'A'.val).toNat = 32 := rfl
    rw [hlower, UInt32.toNat_add]
    omega
  · have hlower : c.toLower = c := dif_neg hupper
    rwa [hlower]

theorem seenChar_lower {c : Char} (h : isAsciiChar c = true) :
    seenChar c.toLower = loweredChar c := by
  rw [seenChar, loweredChar, if_pos h, if_pos (isAsciiChar_toLower h)]

theorem none_notMem : none ∉ pat.map some := by simp

theorem untouched_none : Untouched (pat.map some) [none] :=
  untouched_of_notMem (by simp) (by simp)

/-- A character outside ASCII leaves nothing of the pattern, in whatever case. -/
theorem untouched_lowerAt (hpat : Searchable pat) {before after : List Char} {c : Char}
    (hc : isAsciiChar c = false) :
    Untouched (pat.map some) ((lowerAt T before c after).map seenChar) := by
  have hopaque : ∀ d, isAsciiChar d = false → Untouched (pat.map some) ([d].map seenChar) := by
    intro d hd
    simp only [List.map_cons, List.map_nil, seenChar, hd]
    exact untouched_none
  rw [lowerAt]
  split
  · split
    · exact hopaque _ (by decide)
    · exact hopaque _ (by decide)
  · by_cases hdotted : c = '\u0130'
    · rw [hdotted, T.dottedI]
      refine ⟨by simp, ?_, by simp [seenChar, isAsciiChar]⟩
      intro x hx hmem
      rw [List.getLast?_map, Option.mem_def, Option.map_eq_some_iff] at hx
      obtain ⟨d, hd, rfl⟩ := hx
      rcases List.mem_cons.mp hmem with hmem | hmem
      · obtain rfl : d = 'i' := Option.some.inj hmem
        exact hpat.last hd
      · cases List.mem_singleton.mp hmem
    · by_cases hkelvin : c = '\u212A'
      · rw [hkelvin, T.kelvin]
        apply untouched_of_notMem (by simp)
        intro x hx hmem
        obtain ⟨d, hd, rfl⟩ := List.mem_map.mp hmem
        obtain rfl : d = 'k' := Option.some.inj (List.mem_singleton.mp hx)
        exact hpat.kelvin hd
      · obtain ⟨d, hd, hascii⟩ := T.other c hc hdotted hkelvin
        rw [hd]
        exact hopaque d hascii

theorem aligned_lowerFrom (hpat : Searchable pat) (before s : List Char) :
    Aligned (pat.map some) (s.map loweredChar) ((lowerFrom T before s).map seenChar) := by
  induction s generalizing before with
  | nil => exact .nil
  | cons c after ih =>
      rw [lowerFrom, List.map_append, List.map_cons]
      cases hc : isAsciiChar c with
      | true =>
          have hlower : lowerAt T before c after = [c.toLower] := by
            rw [lowerAt, if_neg, T.ascii c hc]
            rintro rfl
            exact absurd hc (by decide)
          rw [hlower, List.map_cons, List.map_nil, seenChar_lower hc]
          exact (ih (c :: before)).same _
      | false =>
          have hnone : loweredChar c = none := by rw [loweredChar, hc, if_neg Bool.false_ne_true]
          rw [hnone]
          exact .stretch untouched_none (untouched_lowerAt hpat hc) (ih (c :: before))

theorem isAsciiChar_ofByte {b : UInt8} (h : isAscii b = true) :
    isAsciiChar (.ofNat b.toNat) = true :=
  isAsciiChar_ofNat_lt (by simpa [isAscii] using h)

theorem seenAlike_seen : SeenAlike (pat.map some) seenByte seenChar where
  ascii b hb := by rw [seenByte, seenChar, if_pos hb, if_pos (isAsciiChar_ofByte hb)]
  byte b hb := by
    rw [seenByte, hb, if_neg Bool.false_ne_true]
    exact none_notMem
  char c hc := by
    rw [seenChar, hc, if_neg Bool.false_ne_true]
    exact none_notMem

theorem seenAlike_lowered : SeenAlike (pat.map some) loweredByte loweredChar where
  ascii b hb := by rw [loweredByte, loweredChar, if_pos hb, if_pos (isAsciiChar_ofByte hb)]
  byte b hb := by
    rw [loweredByte, hb, if_neg Bool.false_ne_true]
    exact none_notMem
  char c hc := by
    rw [loweredChar, hc, if_neg Bool.false_ne_true]
    exact none_notMem

theorem seenByte_eq_some_iff {b : UInt8} {c : Char} (hc : isAsciiChar c = true) :
    seenByte b = some c ↔ b = UInt8.ofNat c.toNat := by
  have hlow : c.toNat < 0x80 := by simpa [isAsciiChar] using hc
  have hbyte : (UInt8.ofNat c.toNat).toNat = c.toNat := by
    rw [UInt8.toNat_ofNat', Nat.mod_eq_of_lt (by omega)]
  constructor
  · intro h
    unfold seenByte at h
    split at h
    · rename_i hb
      have hb' : b.toNat < 0x80 := by simpa [isAscii] using hb
      have hvalid : b.toNat.isValidChar := .inl (by omega)
      rw [← Option.some.inj h, toNat_ofNat hvalid, UInt8.ofNat_toNat]
    · cases h
  · rintro rfl
    have hb : isAscii (UInt8.ofNat c.toNat) = true := by simpa [isAscii, hbyte] using hlow
    rw [seenByte, if_pos hb, hbyte, Char.ofNat_toNat]

/-- A text that begins with ASCII characters was read from these very bytes. -/
theorem prefix_lossy_iff (hpat : ∀ c ∈ pat, isAsciiChar c = true) (bytes : List UInt8) :
    pat <+: lossy bytes ↔ pat.map (fun c => UInt8.ofNat c.toNat) <+: bytes := by
  rw [← map_some_prefix_iff fun c hc _ => seenByte_eq_some_iff (hpat c hc),
    (aligned_lossy seenAlike_seen bytes).prefix_iff List.suffix_rfl,
    map_some_prefix_iff (g := id) fun d hd _ => seenChar_eq_some_iff (hpat d hd), List.map_id]

/-- The search in the lowercase of the text is one in the bytes. -/
theorem infix_toLowercase_lossy_iff (hpat : Searchable pat) (bytes : List UInt8) :
    pat <:+: toLowercase T (lossy bytes) ↔ pat.map some <:+: bytes.map loweredByte := by
  have hne : pat.map some ≠ [] := by simpa using hpat.nonempty
  rw [← infix_map_seenChar_iff hpat.ascii, toLowercase,
    ← (aligned_lowerFrom hpat [] (lossy bytes)).infix_iff hne,
    ← (aligned_lossy seenAlike_lowered bytes).infix_iff hne]

end Search

section Settled

/-- What is in the lowercase of a character is its own lowercase, as the two small sigmas
are. -/
structure Settling (T : CaseTables) : Prop where
  output : ∀ c, c ≠ 'Σ' → ∀ d ∈ T.toLower c, d ≠ 'Σ' ∧ T.toLower d = [d]
  sigma : T.toLower 'σ' = ['σ']
  finalSigma : T.toLower 'ς' = ['ς']

/-- The lowercase leaves the character alone wherever it stands. -/
def Settled (T : CaseTables) (c : Char) : Prop :=
  c ≠ 'Σ' ∧ T.toLower c = [c]

variable {T : CaseTables}

theorem settled_lowerAt (hT : Settling T) {before after : List Char} {c d : Char}
    (hd : d ∈ lowerAt T before c after) : Settled T d := by
  rw [lowerAt] at hd
  split at hd
  · split at hd
    · rw [List.mem_singleton.mp hd]
      exact ⟨by decide, hT.finalSigma⟩
    · rw [List.mem_singleton.mp hd]
      exact ⟨by decide, hT.sigma⟩
  · rename_i hsigma
    exact hT.output c hsigma d hd

theorem settled_lowerFrom (hT : Settling T) (before s : List Char) :
    ∀ d ∈ lowerFrom T before s, Settled T d := by
  induction s generalizing before with
  | nil => exact List.forall_mem_nil _
  | cons c after ih =>
      intro d hd
      rw [lowerFrom] at hd
      rcases List.mem_append.mp hd with hd | hd
      · exact settled_lowerAt hT hd
      · exact ih (c :: before) d hd

theorem lowerFrom_of_settled (before : List Char) {s : List Char}
    (h : ∀ c ∈ s, Settled T c) : lowerFrom T before s = s := by
  induction s generalizing before with
  | nil => rfl
  | cons c after ih =>
      obtain ⟨⟨hsigma, hlower⟩, hafter⟩ := List.forall_mem_cons.mp h
      rw [lowerFrom, lowerAt, if_neg hsigma, hlower, ih (c :: before) hafter]
      rfl

/-- A text is its own lowercase when it lies within the lowercase of some text. -/
theorem toLowercase_of_subset (hT : Settling T) {s t : List Char}
    (h : s ⊆ toLowercase T t) : toLowercase T s = s :=
  lowerFrom_of_settled [] fun c hc => settled_lowerFrom hT [] t c (h hc)

end Settled

/-- The lowercase of ASCII, and of what has ASCII in its lowercase. -/
def asciiTables : CaseTables where
  toLower c :=
    if c = '\u0130' then ['i', '\u0307'] else if c = '\u212A' then ['k'] else [c.toLower]
  cased := Char.isAlpha
  caseIgnorable c := c == '.'
  ascii c hc := by
    rw [if_neg, if_neg]
    · rintro rfl
      exact absurd hc (by decide)
    · rintro rfl
      exact absurd hc (by decide)
  dottedI := rfl
  kelvin := rfl
  other c hc hdotted hkelvin := by
    refine ⟨c, ?_, hc⟩
    rw [if_neg hdotted, if_neg hkelvin, toLower_eq_of_not_ascii hc]

theorem toLower_toLower (c : Char) : c.toLower.toLower = c.toLower := by
  by_cases hupper : c.val ≥ 'A'.val ∧ c.val ≤ 'Z'.val
  · have hval : c.toLower.val = c.val + ('a'.val - 'A'.val) := congrArg Char.val (dif_pos hupper)
    apply dif_neg
    rintro ⟨-, hle⟩
    have hA : 'A'.val.toNat ≤ c.val.toNat := UInt32.le_iff_toNat_le.mp hupper.1
    have hZ : c.val.toNat ≤ 'Z'.val.toNat := UInt32.le_iff_toNat_le.mp hupper.2
    have hle' : c.toLower.val.toNat ≤ 'Z'.val.toNat := UInt32.le_iff_toNat_le.mp hle
    have hnumA : 'A'.val.toNat = 65 := rfl
    have hnumZ : 'Z'.val.toNat = 90 := rfl
    have hstep : ('a'.val - 'A'.val).toNat = 32 := rfl
    rw [hval, UInt32.toNat_add] at hle'
    omega
  · exact congrArg Char.toLower (dif_neg hupper)

theorem toLower_ne_sigma {c : Char} (h : c ≠ 'Σ') : c.toLower ≠ 'Σ' := by
  cases hc : isAsciiChar c with
  | true =>
      intro heq
      have hascii := isAsciiChar_toLower hc
      rw [heq] at hascii
      exact absurd hascii (by decide)
  | false => rwa [toLower_eq_of_not_ascii hc]

theorem settling_asciiTables : Settling asciiTables where
  output c hsigma d hd := by
    by_cases hdotted : c = '\u0130'
    · subst hdotted
      rcases List.mem_cons.mp hd with rfl | hd
      · exact ⟨by decide, rfl⟩
      · rw [List.mem_singleton.mp hd]
        exact ⟨by decide, rfl⟩
    · by_cases hkelvin : c = '\u212A'
      · subst hkelvin
        rw [List.mem_singleton.mp hd]
        exact ⟨by decide, rfl⟩
      · have houtput : asciiTables.toLower c = [c.toLower] :=
          (if_neg hdotted).trans (if_neg hkelvin)
        rw [houtput] at hd
        obtain rfl := List.mem_singleton.mp hd
        refine ⟨toLower_ne_sigma hsigma, ?_⟩
        have hkept : ∀ d, isAsciiChar d = false → c.toLower = d → c = d := by
          intro d hd heq
          cases hc : isAsciiChar c with
          | true =>
              rw [← heq, isAsciiChar_toLower hc] at hd
              cases hd
          | false => rwa [toLower_eq_of_not_ascii hc] at heq
        have hsettled : asciiTables.toLower c.toLower = [c.toLower.toLower] :=
          (if_neg fun heq => hdotted (hkept _ (by decide) heq)).trans
            (if_neg fun heq => hkelvin (hkept _ (by decide) heq))
        rw [hsettled, toLower_toLower]
  sigma := rfl
  finalSigma := rfl

end Xcplane.Lib.Utf8
