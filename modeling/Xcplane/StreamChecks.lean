import Xcplane.Types
import Xcplane.Lib.Chunks
import Xcplane.Lib.Lowercase
import Xcplane.Lib.Result

/-!
What the checks of SSH and of Nginx make of the bytes a server sends, which arrive in
pieces. The check of SSH reads once; that of Nginx reads up to the end of the headers, and
then searches everything that came with it.
-/

namespace Xcplane.StreamChecks

open Xcplane.Types
open Xcplane.Lib
open Xcplane.Lib.Utf8

abbrev Bytes := List UInt8

section Checks

def sshReadSize : Nat := 256

def sshBanner : List Char := ['S', 'S', 'H', '-']

def sshBannerBytes : Bytes := sshBanner.map fun c => UInt8.ofNat c.toNat

/-- `Utf8Error`: the index of the first bytes that are not UTF-8, and how many they are. -/
def utf8ErrorText : Nat × Option Nat → String
  | (index, some bytes) =>
      "invalid utf-8 sequence of " ++ toString bytes ++ " bytes from index " ++ toString index
  | (index, none) => "incomplete utf-8 byte sequence from index " ++ toString index

/-- The check of SSH, over what its read and the later ones return. -/
def checkSshStream : List Bytes → Except BoxError Unit
  | [] => .error "Connection closed before SSH banner."
  | read :: _ =>
      match strict read with
      | .error e => .error (utf8ErrorText e)
      | .ok banner => ensure (decide (sshBanner <+: banner)) "Not an SSH server."

def tlsReadSize : Nat := 512

def headerCap : Nat := 16 * 1024

def crlf : Bytes := [13, 10]

def headerEnd : Bytes := [13, 10, 13, 10]

def okStatus : List Char := "200 OK".toList

def verifyHeader : List Char := "x-health-verify: my-origin-server".toList

def cfErrors : List String := ["520", "521", "522", "523", "524", "525", "526", "527"]

/-- What is said of the bytes that were read. -/
def judge (T : CaseTables) (buf : Bytes) : Except BoxError Unit :=
  match position crlf buf with
  | some pos =>
      let statusLine := lossy (buf.take pos)
      if okStatus <:+: statusLine then
        ensure (decide (verifyHeader <:+: toLowercase T (lossy buf)))
          ("Status 200 received, but the secret 'X-Health-Verify' header is missing " ++
            "(possible cache hit or wrong origin)")
      else if cfErrors.any fun code => decide (code.toList <:+: statusLine) then
        .error ("Cloudflare edge is up, but Nginx is having issues: " ++ .ofList statusLine)
      else .error ("HTTP Error: " ++ .ofList statusLine)
  | none => .error "No valid HTTP status line found in TLS response"

/-- The loop of the check of Nginx, over what its reads return. -/
def readHeaders (buf : Bytes) : List Bytes → Except BoxError Bytes
  | [] =>
      if headerEnd <:+: buf then .ok buf
      else if headerCap < buf.length then
        .error "Handshake with the server returned too large headers"
      else .ok buf
  | read :: rest =>
      if headerEnd <:+: buf then .ok buf
      else if headerCap < buf.length then
        .error "Handshake with the server returned too large headers"
      else readHeaders (buf ++ read) rest

def checkTlsStream (T : CaseTables) (reads : List Bytes) : Except BoxError Unit :=
  readHeaders [] reads >>= judge T

end Checks

section Statement

/-- The header block: up to the first empty line, or the whole stream without one. -/
def headerBlock (s : Bytes) : Bytes :=
  match position headerEnd s with
  | some i => s.take (i + headerEnd.length)
  | none => s

/-- The verdict on SSH does not depend on how the stream is cut. -/
def SshUncut (s : Bytes) : Prop :=
  ∀ reads reads', Cut sshReadSize s reads → Cut sshReadSize s reads' →
    (checkSshStream reads).isOk = (checkSshStream reads').isOk

/-- The verdict on Nginx depends neither on how the stream is cut nor on what follows the
header block. -/
structure TlsUncut (T : CaseTables) (s : Bytes) : Prop where
  cut : ∀ reads reads', Cut tlsReadSize s reads → Cut tlsReadSize s reads' →
    (checkTlsStream T reads).isOk = (checkTlsStream T reads').isOk
  body : ∀ reads reads', Cut tlsReadSize s reads → Cut tlsReadSize (headerBlock s) reads' →
    (checkTlsStream T reads).isOk = (checkTlsStream T reads').isOk

/-- The status line, up to the first line end, reports success. -/
def StatusOk (s : Bytes) : Prop :=
  ∃ pos ∈ position crlf s, okStatus <:+: lossy (s.take pos)

/-- The bytes carry the verification header, in any case of ASCII. -/
def Carries (buf : Bytes) : Prop :=
  verifyHeader.map some <:+: buf.map loweredByte

/-- The headers decide the verdict: a header block that cannot grow too large carries the
verification itself, or what can come with it does not either; one that can be read or
refused is not accepted when it is read. -/
def HeadersDecide (s : Bytes) : Prop :=
  ∀ i ∈ position headerEnd s, StatusOk s →
    (i + headerEnd.length ≤ headerCap + 1 →
      Carries (s.take (i + headerEnd.length)) ∨
        ¬ Carries (s.take (i + headerEnd.length + (tlsReadSize - 1)))) ∧
    (headerCap + 1 < i + headerEnd.length → i + headerEnd.length ≤ headerCap + tlsReadSize →
      ¬ Carries (s.take (headerCap + tlsReadSize)))

end Statement

section Ssh

variable {s read : Bytes} {rest reads : List Bytes}

theorem isOk_ensure {c : Bool} {e : BoxError} : (ensure c e).isOk = c := by
  cases c with
  | true => rfl
  | false => rfl

theorem banner_of_isOk (h : (checkSshStream (read :: rest)).isOk = true) :
    sshBannerBytes <+: read := by
  rw [checkSshStream] at h
  cases hread : strict read with
  | error e =>
      rw [hread] at h
      cases h
  | ok banner =>
      simp only [hread, isOk_ensure, decide_eq_true_eq] at h
      rw [← lossy_of_strict hread] at h
      exact (prefix_lossy_iff (List.all_eq_true.mp rfl) read).mp h

theorem checkSshStream_isOk_false (h : ¬ sshBannerBytes <+: s) (hcut : Cut sshReadSize s reads) :
    (checkSshStream reads).isOk = false := by
  cases reads with
  | nil => rfl
  | cons read rest =>
      rw [← Bool.not_eq_true]
      intro hok
      apply h
      rw [← hcut.flatten, List.flatten_cons]
      exact (banner_of_isOk hok).trans (List.prefix_append _ _)

/-- A banner is accepted when it comes in one piece, and refused after its first byte. -/
theorem sshUncut_iff : SshUncut s ↔ ¬ sshBannerBytes <+: s := by
  constructor
  · rintro h ⟨rest, rfl⟩
    have hwhole : Cut sshReadSize (sshBannerBytes ++ rest) ([sshBannerBytes] ++ singles rest) :=
      (cut_singleton (by decide) (by decide)).append (cut_singles rest (Nat.zero_lt_succ 255))
    have hsame := h _ _ hwhole (cut_singles _ (Nat.zero_lt_succ 255))
    have hok : (checkSshStream ([sshBannerBytes] ++ singles rest)).isOk = true := rfl
    have herr : (checkSshStream (singles (sshBannerBytes ++ rest))).isOk = false := rfl
    rw [hok, herr] at hsame
    cases hsame
  · intro h reads reads' hcut hcut'
    rw [checkSshStream_isOk_false h hcut, checkSshStream_isOk_false h hcut']

end Ssh

section Tls

variable {T : CaseTables} {s : Bytes} {reads : List Bytes}

/-- The loop ends when the buffer is judged or refused. -/
def enough (buf : Bytes) : Bool :=
  decide (headerEnd <:+: buf) || decide (headerCap < buf.length)

/-- There is too much in the buffer without the end of the headers. -/
def Refused (buf : Bytes) : Prop :=
  ¬ headerEnd <:+: buf ∧ headerCap < buf.length

instance (buf : Bytes) : Decidable (Refused buf) := by
  unfold Refused
  infer_instance

theorem readHeaders_eq (buf : Bytes) : readHeaders buf reads =
    if Refused (readUntil enough buf reads) then
      .error "Handshake with the server returned too large headers"
    else .ok (readUntil enough buf reads) := by
  induction reads generalizing buf with
  | nil =>
      rw [readHeaders, readUntil]
      by_cases hend : headerEnd <:+: buf
      · rw [if_pos hend, if_neg fun h => h.1 hend]
      · rw [if_neg hend]
        exact if_congr (and_iff_right hend).symm rfl rfl
  | cons read rest ih =>
      rw [readHeaders, readUntil, ih]
      by_cases hend : headerEnd <:+: buf
      · have henough : enough buf = true := by simp [enough, hend]
        rw [if_pos hend, henough, if_pos rfl, if_neg fun h => h.1 hend]
      · by_cases hcap : headerCap < buf.length
        · have henough : enough buf = true := by simp [enough, hcap]
          rw [if_neg hend, if_pos hcap, henough, if_pos rfl, if_pos ⟨hend, hcap⟩]
        · have henough : enough buf = false := by simp [enough, hend, hcap]
          rw [if_neg hend, if_neg hcap, henough, if_neg Bool.false_ne_true]

def healthy (T : CaseTables) (buf : Bytes) : Bool :=
  !decide (Refused buf) && (judge T buf).isOk

theorem checkTlsStream_isOk :
    (checkTlsStream T reads).isOk = healthy T (readUntil enough [] reads) := by
  rw [checkTlsStream, readHeaders_eq, healthy]
  split
  · rename_i hrefused
    simp [hrefused, bind, Except.bind, isOk_error]
  · rename_i hrefused
    simp [hrefused, bind, Except.bind]

theorem settles_enough : Settles enough := by
  intro p l hbegins h
  simp only [enough, Bool.or_eq_true, decide_eq_true_eq] at h ⊢
  rcases h with hend | hcap
  · exact .inl (hend.trans hbegins.isInfix)
  · exact .inr (Nat.lt_of_lt_of_le hcap hbegins.length_le)

/-- Being uncut is that all the places where reading can end are of one verdict. -/
theorem tlsUncut_iff_ends : TlsUncut T s ↔
    (∀ b, Ends enough tlsReadSize s b → ∀ b', Ends enough tlsReadSize s b' →
      healthy T (s.take b) = healthy T (s.take b')) ∧
    (∀ b, Ends enough tlsReadSize s b → ∀ b', Ends enough tlsReadSize (headerBlock s) b' →
      healthy T (s.take b) = healthy T ((headerBlock s).take b')) := by
  have hpos : 0 < tlsReadSize := Nat.zero_lt_succ 511
  have hpair : ∀ s' : Bytes, (∀ reads reads', Cut tlsReadSize s reads → Cut tlsReadSize s' reads' →
        (checkTlsStream T reads).isOk = (checkTlsStream T reads').isOk) ↔
      ∀ b, Ends enough tlsReadSize s b → ∀ b', Ends enough tlsReadSize s' b' →
        healthy T (s.take b) = healthy T (s'.take b') := by
    intro s'
    simp only [checkTlsStream_isOk]
    constructor
    · intro h
      rw [← forall_cut_iff hpos settles_enough (p := fun buf =>
        ∀ b', Ends enough tlsReadSize s' b' → healthy T buf = healthy T (s'.take b'))]
      intro reads hcut
      rw [← forall_cut_iff hpos settles_enough (p := fun buf =>
        healthy T (readUntil enough [] reads) = healthy T buf)]
      exact fun reads' hcut' => h reads reads' hcut hcut'
    · intro h reads reads' hcut hcut'
      obtain ⟨b, hb, hread⟩ := hcut.exists_ends enough
      obtain ⟨b', hb', hread'⟩ := hcut'.exists_ends enough
      rw [hread, hread']
      exact h b hb b' hb'
  constructor
  · intro h
    exact ⟨(hpair s).mp h.cut, (hpair _).mp h.body⟩
  · rintro ⟨hcut, hbody⟩
    exact ⟨(hpair s).mpr hcut, (hpair _).mpr hbody⟩

theorem enough_take_iff {b : Nat} (hb : b ≤ s.length) :
    enough (s.take b) = true ↔ headerEnd <:+: s.take b ∨ headerCap < b := by
  simp only [enough, Bool.or_eq_true, decide_eq_true_eq, List.length_take, min_eq_left hb]

theorem refused_take_iff {b : Nat} (hb : b ≤ s.length) :
    Refused (s.take b) ↔ ¬ headerEnd <:+: s.take b ∧ headerCap < b := by
  rw [Refused, List.length_take, min_eq_left hb]

section WithoutEnd

variable (h : position headerEnd s = none)
include h

theorem not_headerEnd_take (b : Nat) : ¬ headerEnd <:+: s.take b := by
  intro hb
  exact position_eq_none_iff.mp h (hb.trans (List.take_prefix b s).isInfix)

/-- Without an empty line the whole stream is judged, or refused. -/
theorem healthy_ends {b : Nat} (hb : Ends enough tlsReadSize s b) :
    healthy T (s.take b) = (decide (s.length ≤ headerCap) && (judge T s).isOk) := by
  have henough : ∀ a ≤ s.length, enough (s.take a) = true ↔ headerCap + 1 ≤ a := by
    intro a ha
    rw [enough_take_iff ha]
    exact or_iff_right (not_headerEnd_take h a)
  by_cases hcap : s.length ≤ headerCap
  · have hall : b = s.length := by
      apply hb.eq_length
      intro a ha
      rw [← Bool.not_eq_true, henough a ha]
      omega
    have hrefused : ¬ Refused s := fun hs => absurd hs.2 (Nat.not_lt.mpr hcap)
    rw [hall, List.take_length, healthy, decide_eq_false hrefused, decide_eq_true hcap]
    rfl
  · obtain ⟨hlow, hle, _⟩ := (ends_iff (Nat.succ_pos _) (by omega) henough).mp hb
    have hrefused : Refused (s.take b) := (refused_take_iff hle).mpr ⟨not_headerEnd_take h b, hlow⟩
    rw [healthy, decide_eq_true hrefused, decide_eq_false hcap]
    rfl

theorem tlsUncut_of_none : TlsUncut T s := by
  have hblock : headerBlock s = s := by rw [headerBlock, h]
  rw [tlsUncut_iff_ends, hblock, and_self]
  intro b hb b' hb'
  rw [healthy_ends h hb, healthy_ends h hb']

end WithoutEnd

section WithEnd

variable {i : Nat}

/-- Where reading stops: behind the empty line, or behind the cap. -/
def firstEnough (i : Nat) : Nat :=
  min (i + headerEnd.length) (headerCap + 1)

theorem headerEnd_take_iff (h : position headerEnd s = some i) (b : Nat) :
    headerEnd <:+: s.take b ↔ i + headerEnd.length ≤ b :=
  infix_take_iff h (List.cons_ne_nil _ _)

theorem headerEnd_le_length (h : position headerEnd s = some i) :
    i + headerEnd.length ≤ s.length := by
  rw [← headerEnd_take_iff h, List.take_length]
  by_contra hnone
  rw [position_eq_none_iff.mpr hnone] at h
  cases h

theorem ends_iff_firstEnough (h : position headerEnd s = some i) {b : Nat} :
    Ends enough tlsReadSize s b ↔
      firstEnough i ≤ b ∧ b ≤ s.length ∧ b < firstEnough i + tlsReadSize := by
  have hle := headerEnd_le_length h
  unfold firstEnough
  apply ends_iff
  · exact lt_min (Nat.add_pos_right i (Nat.zero_lt_succ 3)) (Nat.succ_pos _)
  · exact (min_le_left _ _).trans hle
  · intro a ha
    rw [enough_take_iff ha, headerEnd_take_iff h]
    omega

/-- The status line ends within the header block. -/
theorem exists_position_crlf (h : position headerEnd s = some i) :
    ∃ pos, position crlf s = some pos ∧ pos + crlf.length ≤ i + headerEnd.length := by
  have hcrlf : crlf <:+: s.take (i + headerEnd.length) := by
    have hend := (headerEnd_take_iff h _).mpr le_rfl
    exact List.IsInfix.trans ⟨[], crlf, rfl⟩ hend
  cases hpos : position crlf s with
  | none => exact absurd (hcrlf.trans (List.take_prefix _ s).isInfix) (position_eq_none_iff.mp hpos)
  | some pos => exact ⟨pos, rfl, (infix_take_iff hpos (List.cons_ne_nil _ _)).mp hcrlf⟩

theorem statusOk_take_iff (h : position headerEnd s = some i) {b : Nat}
    (hb : i + headerEnd.length ≤ b) : StatusOk (s.take b) ↔ StatusOk s := by
  obtain ⟨pos, hpos, hle⟩ := exists_position_crlf h
  have htake := position_take hpos (hle.trans hb)
  have hline : (s.take b).take pos = s.take pos := by
    rw [List.take_take, min_eq_left (by omega)]
  simp only [StatusOk, hpos, htake, Option.mem_some_iff, exists_eq_left', hline]

theorem searchable_verifyHeader : Searchable verifyHeader where
  ascii := List.all_eq_true.mp rfl
  nonempty := List.cons_ne_nil _ _
  last := by decide
  kelvin := by decide

theorem judge_isOk_iff : (judge T s).isOk = true ↔ StatusOk s ∧ Carries s := by
  rw [judge, Carries, ← infix_toLowercase_lossy_iff searchable_verifyHeader (T := T)]
  cases hpos : position crlf s with
  | none => simp [StatusOk, hpos, isOk_error]
  | some pos =>
      simp only [StatusOk, hpos, Option.mem_some_iff, exists_eq_left']
      split
      · rename_i hok
        rw [isOk_ensure, decide_eq_true_eq]
        exact (and_iff_right hok).symm
      · rename_i hfail
        apply iff_of_false
        · split
          · exact Bool.false_ne_true
          · exact Bool.false_ne_true
        · exact fun hs => hfail hs.1

/-- The verdict where reading can end. -/
theorem healthy_take_iff (h : position headerEnd s = some i) {b : Nat} (hlow : firstEnough i ≤ b)
    (hb : b ≤ s.length) : healthy T (s.take b) = true ↔
      i + headerEnd.length ≤ b ∧ StatusOk s ∧ Carries (s.take b) := by
  unfold firstEnough at hlow
  by_cases hend : i + headerEnd.length ≤ b
  · have hrefused : ¬ Refused (s.take b) := fun hs => hs.1 ((headerEnd_take_iff h b).mpr hend)
    rw [healthy, decide_eq_false hrefused, Bool.not_false, Bool.true_and, judge_isOk_iff,
      statusOk_take_iff h hend]
    exact (and_iff_right hend).symm
  · have hrefused : Refused (s.take b) := by
      rw [refused_take_iff hb, headerEnd_take_iff h]
      exact ⟨hend, by omega⟩
    rw [healthy, decide_eq_true hrefused]
    exact iff_of_false Bool.false_ne_true fun hs => hend hs.1

theorem Carries.mono {a b : Nat} (hab : a ≤ b) (h : Carries (s.take a)) : Carries (s.take b) := by
  have hbegins : s.take a <+: s.take b := List.take_prefix_take_left hab
  exact h.trans (hbegins.map loweredByte).isInfix

/-- Reading the header block by itself can end nowhere else, and with the same bytes. -/
theorem ends_of_headerBlock (h : position headerEnd s = some i) {b : Nat}
    (hb : Ends enough tlsReadSize (headerBlock s) b) :
    Ends enough tlsReadSize s b ∧ (headerBlock s).take b = s.take b := by
  have hblock : headerBlock s = s.take (i + headerEnd.length) := by rw [headerBlock, h]
  rw [hblock] at hb ⊢
  have hle := headerEnd_le_length h
  obtain ⟨hlow, hb, hbound⟩ := (ends_iff_firstEnough (position_take h le_rfl)).mp hb
  rw [List.length_take, min_eq_left hle] at hb
  refine ⟨(ends_iff_firstEnough h).mpr ⟨hlow, hb.trans hle, hbound⟩, ?_⟩
  rw [List.take_take, min_eq_left hb]

theorem tlsUncut_iff_of_some (h : position headerEnd s = some i) :
    TlsUncut T s ↔ ∀ b, Ends enough tlsReadSize s b → ∀ b', Ends enough tlsReadSize s b' →
      healthy T (s.take b) = true → healthy T (s.take b') = true := by
  rw [tlsUncut_iff_ends]
  constructor
  · intro hsame b hb b' hb' hhealthy
    rwa [← hsame.1 b hb b' hb']
  · intro hsame
    have hcut : ∀ b, Ends enough tlsReadSize s b → ∀ b', Ends enough tlsReadSize s b' →
        healthy T (s.take b) = healthy T (s.take b') := by
      intro b hb b' hb'
      exact Bool.eq_iff_iff.mpr ⟨hsame b hb b' hb', hsame b' hb' b hb⟩
    refine ⟨hcut, ?_⟩
    intro b hb b' hb'
    obtain ⟨hends, hbuf⟩ := ends_of_headerBlock h hb'
    rw [hbuf]
    exact hcut b hb b' hends

/-- What reading can bring at most is where it can end. -/
theorem ends_last (h : position headerEnd s = some i) :
    Ends enough tlsReadSize s (min s.length (firstEnough i + (tlsReadSize - 1))) := by
  have hle := headerEnd_le_length h
  have hfirst : firstEnough i ≤ i + headerEnd.length := min_le_left _ _
  have hread : tlsReadSize - 1 < tlsReadSize := Nat.lt_succ_self 511
  rw [ends_iff_firstEnough h]
  omega

theorem ends_first (h : position headerEnd s = some i) :
    Ends enough tlsReadSize s (firstEnough i) := by
  have hle := headerEnd_le_length h
  have hfirst : firstEnough i ≤ i + headerEnd.length := min_le_left _ _
  have hread : tlsReadSize - 1 < tlsReadSize := Nat.lt_succ_self 511
  rw [ends_iff_firstEnough h]
  omega

/-- The last place carries what the most that can be read carries. -/
theorem carries_last (i : Nat) :
    Carries (s.take (min s.length (firstEnough i + (tlsReadSize - 1)))) ↔
      Carries (s.take (firstEnough i + (tlsReadSize - 1))) := by
  rw [min_comm, ← List.take_take, List.take_length]

theorem headersDecide_of_uncut (h : position headerEnd s = some i) (huncut : TlsUncut T s) :
    HeadersDecide s := by
  intro j hj hok
  obtain rfl : i = j := Option.some.inj (h.symm.trans hj)
  have hle := headerEnd_le_length h
  have hlast := ends_last h
  have hfirst := ends_first h
  have hverdict := (tlsUncut_iff_of_some h).mp huncut _ hlast _ hfirst
  obtain ⟨hlow, hlastle, _⟩ := (ends_iff_firstEnough h).mp hlast
  obtain ⟨_, hfirstle, _⟩ := (ends_iff_firstEnough h).mp hfirst
  rw [healthy_take_iff h hlow hlastle, healthy_take_iff h le_rfl hfirstle, carries_last] at hverdict
  have hread : tlsReadSize - 1 + 1 = tlsReadSize := rfl
  constructor
  · intro hnear
    have heq : firstEnough i = i + headerEnd.length := min_eq_left hnear
    rw [heq] at hverdict
    rw [or_iff_not_imp_right, not_not]
    intro hcarries
    exact (hverdict ⟨by omega, hok, hcarries⟩).2.2
  · intro hfar hreach hcarries
    have heq : firstEnough i = headerCap + 1 := min_eq_right hfar.le
    rw [heq] at hverdict
    have hsum : headerCap + 1 + (tlsReadSize - 1) = headerCap + tlsReadSize := by omega
    rw [hsum] at hverdict
    have hstop := (hverdict ⟨by omega, hok, hcarries⟩).1
    omega

theorem uncut_of_headersDecide (h : position headerEnd s = some i) (hdecide : HeadersDecide s) :
    TlsUncut T s := by
  rw [tlsUncut_iff_of_some h]
  intro b hb b' hb'
  obtain ⟨hlow, hle, hbound⟩ := (ends_iff_firstEnough h).mp hb
  obtain ⟨hlow', hle', _⟩ := (ends_iff_firstEnough h).mp hb'
  rw [healthy_take_iff h hlow hle, healthy_take_iff h hlow' hle']
  rintro ⟨hstop, hok, hcarries⟩
  obtain ⟨hnear, hfar⟩ := hdecide i h hok
  have hread : tlsReadSize - 1 + 1 = tlsReadSize := rfl
  by_cases hcap : i + headerEnd.length ≤ headerCap + 1
  · have heq : firstEnough i = i + headerEnd.length := min_eq_left hcap
    rw [heq] at hlow' hbound
    refine ⟨hlow', hok, ?_⟩
    rcases hnear hcap with hblock | hnone
    · exact hblock.mono hlow'
    · exact absurd (hcarries.mono (by omega)) hnone
  · have heq : firstEnough i = headerCap + 1 := min_eq_right (by omega)
    rw [heq] at hbound
    exact absurd (hcarries.mono (by omega)) (hfar (by omega) (by omega))

end WithEnd

theorem tlsUncut_iff : TlsUncut T s ↔ HeadersDecide s := by
  cases h : position headerEnd s with
  | none =>
      apply iff_of_true (tlsUncut_of_none h)
      intro i hi
      rw [h] at hi
      cases hi
  | some i => exact ⟨headersDecide_of_uncut h, uncut_of_headersDecide h⟩

end Tls

/-- The verdicts depend on nothing but the bytes exactly where no banner of SSH is sent, and
where the headers decide. -/
theorem uncut_exactly (T : CaseTables) :
    (∀ s, SshUncut s ↔ ¬ sshBannerBytes <+: s) ∧ ∀ s, TlsUncut T s ↔ HeadersDecide s :=
  ⟨fun _ => sshUncut_iff, fun _ => tlsUncut_iff⟩

section Instances

def bytesOf (text : String) : Bytes :=
  text.toList.map fun c => UInt8.ofNat c.toNat

def banner : Bytes := bytesOf "SSH-2.0-OpenSSH_9.6\r\n"

def emptyHeaders : Bytes := bytesOf "HTTP/1.1 200 OK\r\n\r\n"

def body : Bytes := bytesOf "X-Health-Verify: my-origin-server"

theorem cut_pair (bound : Nat) (s s' : Bytes) (hs : s ≠ []) (hs' : s' ≠ [])
    (hle : s.length ≤ bound) (hle' : s'.length ≤ bound) : Cut bound (s ++ s') [s, s'] :=
  (cut_singleton hs hle).append (cut_singleton hs' hle')

/-- A banner is refused when its first byte comes alone. The header is found in a body, but
only where the body comes with the end of the headers. -/
theorem cut_changes_verdict :
    ¬ SshUncut banner ∧ ¬ TlsUncut asciiTables (emptyHeaders ++ body) := by
  constructor
  · intro h
    have hwhole : Cut sshReadSize banner [banner] := cut_singleton (by decide) (by decide)
    have hparts : Cut sshReadSize banner [banner.take 1, banner.drop 1] :=
      cut_pair _ (banner.take 1) (banner.drop 1) (by decide) (by decide) (by decide) (by decide)
    exact absurd (h _ _ hwhole hparts) (by decide)
  · intro h
    have hwhole : Cut tlsReadSize (emptyHeaders ++ body) [emptyHeaders ++ body] :=
      cut_singleton (by decide) (by decide)
    have hparts : Cut tlsReadSize (emptyHeaders ++ body) [emptyHeaders, body] :=
      cut_pair _ _ _ (by decide) (by decide) (by decide) (by decide)
    exact absurd (h.cut _ _ hwhole hparts) (by decide)

end Instances

end Xcplane.StreamChecks
