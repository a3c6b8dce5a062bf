import Xcplane.CloudConfig
import Xcplane.Lib.AddressBlock

/-!
Which addresses a server may have: the blocks that `is_global` names, and the addresses it
refuses although it names no block of theirs, or accepts although it does.
-/

namespace Xcplane.GlobalAddress

open Xcplane.Types
open Xcplane.CloudConfig
open Xcplane.Lib

section Blocks

def ofOctets (a b c d : Nat) : BitVec 32 :=
  .ofNat 32 (a * 2 ^ 24 + b * 2 ^ 16 + c * 2 ^ 8 + d)

def ofSegments (s0 s1 s2 : Nat) (last : Nat) : BitVec 128 :=
  .ofNat 128 (s0 * 2 ^ 112 + s1 * 2 ^ 96 + s2 * 2 ^ 80 + last)

/-- Private, loopback, link-local, multicast, unspecified, broadcast, CGNAT, benchmarking,
reserved. -/
def specialV4 : List (AddressBlock 32) :=
  [.around (ofOctets 10 0 0 0) 8, .around (ofOctets 172 16 0 0) 12,
    .around (ofOctets 192 168 0 0) 16,
    .around (ofOctets 127 0 0 0) 8,
    .around (ofOctets 169 254 0 0) 16,
    .around (ofOctets 224 0 0 0) 4,
    .around (ofOctets 0 0 0 0) 32,
    .around (ofOctets 255 255 255 255) 32,
    .around (ofOctets 100 64 0 0) 10,
    .around (ofOctets 198 18 0 0) 15,
    .around (ofOctets 240 0 0 0) 4]

def documentationV4 : List (AddressBlock 32) :=
  [.around (ofOctets 192 0 2 0) 24, .around (ofOctets 198 51 100 0) 24,
    .around (ofOctets 203 0 113 0) 24]

/-- The blocks that the two octets compared for `documentationV4` stand for. -/
def comparedV4 : List (AddressBlock 32) :=
  [.around (ofOctets 192 0 0 0) 16, .around (ofOctets 198 51 0 0) 16,
    .around (ofOctets 203 0 0 0) 16]

/-- Unspecified, loopback, link-local, multicast, unique-local, ORCHID, documentation. -/
def specialV6 : List (AddressBlock 128) :=
  [.around (ofSegments 0 0 0 0) 128,
    .around (ofSegments 0 0 0 1) 128,
    .around (ofSegments 0xfe80 0 0 0) 10,
    .around (ofSegments 0xff00 0 0 0) 8,
    .around (ofSegments 0xfc00 0 0 0) 7,
    .around (ofSegments 0x2001 0x0010 0 0) 28,
    .around (ofSegments 0x2001 0x0db8 0 0) 32, .around (ofSegments 0x3fff 0 0 0) 20]

def benchmarkingV6 : AddressBlock 128 := .around (ofSegments 0x2001 0x0002 0 0) 48

/-- One segment is compared for `benchmarkingV6` where it has two. -/
def comparedBenchmarkingV6 : AddressBlock 128 := .around (ofSegments 0x2001 0x0002 0 0) 32

def teredoV6 : AddressBlock 128 := .around (ofSegments 0x2001 0 0 0) 32

/-- A segment more is compared for `teredoV6` than it has. -/
def comparedTeredoV6 : AddressBlock 128 := .around (ofSegments 0x2001 0 0 0) 48

def unicastV6 : AddressBlock 128 := .around (ofSegments 0x2000 0 0 0) 3

/-- The address is in a block that the code or a comment of it names. -/
def Named : IpAddr → Prop
  | .v4 bits => (∃ block ∈ specialV4, bits ∈ block) ∨ ∃ block ∈ documentationV4, bits ∈ block
  | .v6 bits => (∃ block ∈ specialV6, bits ∈ block) ∨ bits ∈ benchmarkingV6 ∨
      bits ∈ teredoV6 ∨ bits ∉ unicastV6

/-- The address is in one of the named block and the compared block only. -/
def Misjudged : IpAddr → Prop
  | .v4 bits => ∃ blocks ∈ comparedV4.zip documentationV4, bits ∈ blocks.1 ∧ bits ∉ blocks.2
  | .v6 bits => (bits ∈ comparedBenchmarkingV6 ∧ bits ∉ benchmarkingV6) ∨
      (bits ∈ teredoV6 ∧ bits ∉ comparedTeredoV6)

instance : DecidablePred Named
  | .v4 bits => inferInstanceAs (Decidable
      ((∃ block ∈ specialV4, bits ∈ block) ∨ ∃ block ∈ documentationV4, bits ∈ block))
  | .v6 bits => inferInstanceAs (Decidable
      ((∃ block ∈ specialV6, bits ∈ block) ∨ bits ∈ benchmarkingV6 ∨ bits ∈ teredoV6 ∨
        bits ∉ unicastV6))

end Blocks

/-- One check more before the address is accepted. -/
theorem refusal_iff (refused : Prop) [Decidable refused] (accepted : Bool) :
    (if refused then false else accepted) = false ↔ refused ∨ accepted = false := by
  by_cases h : refused <;> simp [h]

theorem or_third_last {a b c d e : Prop} : a ∨ b ∨ c ∨ d ∨ e ↔ (a ∨ b ∨ d ∨ e) ∨ c := by
  tauto

theorem or_second_fourth_last {a b c d e f : Prop} :
    a ∨ b ∨ c ∨ d ∨ e ∨ f ↔ (a ∨ c ∨ e) ∨ b ∨ d ∨ f := by
  tauto

section FourOctets

theorem mem_single (bits : BitVec 32) (a b c d : Nat)
    (h : a * 2 ^ 24 + b * 2 ^ 16 + c * 2 ^ 8 + d < 2 ^ 32) :
    bits ∈ AddressBlock.around (ofOctets a b c d) 32 ↔
      bits.toNat = a * 2 ^ 24 + b * 2 ^ 16 + c * 2 ^ 8 + d := by
  rw [AddressBlock.mem_around, ofOctets, BitVec.toNat_ofNat, Nat.mod_eq_of_lt h, Nat.sub_self,
    Nat.pow_zero, Nat.div_one, Nat.div_one]

/-- Addresses compared by their first octet. -/
theorem mem_octet (bits : BitVec 32) (a length : Nat) (hlen : length ≤ 8) (ha : a < 256)
    (haligned : a % 2 ^ (8 - length) = 0) :
    bits ∈ AddressBlock.around (ofOctets a 0 0 0) length ↔
      a ≤ bits.toNat / 2 ^ 24 ∧ bits.toNat / 2 ^ 24 < a + 2 ^ (8 - length) := by
  have hbase : (ofOctets a 0 0 0).toNat = a * 2 ^ 24 := by
    rw [ofOctets, BitVec.toNat_ofNat]
    omega
  have hoctet : a * 2 ^ 24 / 2 ^ 24 % 2 ^ 8 = a := by omega
  have hlt := bits.isLt
  rw [AddressBlock.mem_around_unit 24 8 (8 - length) (by omega) (by omega), hbase, hoctet]
  · omega
  · rw [hbase, hoctet, haligned]

/-- Addresses compared by their first octet and a range of the second. -/
theorem mem_twoOctets (bits : BitVec 32) (a b length : Nat) (hmin : 8 ≤ length)
    (hlen : length ≤ 16) (ha : a < 256) (hb : b < 256)
    (haligned : b % 2 ^ (16 - length) = 0) :
    bits ∈ AddressBlock.around (ofOctets a b 0 0) length ↔
      bits.toNat / 2 ^ 24 = a ∧ b ≤ bits.toNat / 2 ^ 16 % 256 ∧
        bits.toNat / 2 ^ 16 % 256 < b + 2 ^ (16 - length) := by
  have hbase : (ofOctets a b 0 0).toNat = a * 2 ^ 24 + b * 2 ^ 16 := by
    rw [ofOctets, BitVec.toNat_ofNat]
    omega
  have hoctet : (a * 2 ^ 24 + b * 2 ^ 16) / 2 ^ 16 % 2 ^ 8 = b := by omega
  have hfirst : (a * 2 ^ 24 + b * 2 ^ 16) / 2 ^ (16 + 8) = a := by omega
  rw [AddressBlock.mem_around_unit 16 8 (16 - length) (by omega) (by omega), hbase, hoctet,
    hfirst]
  · exact Iff.rfl
  · rw [hbase, hoctet, haligned]

theorem mem_threeOctets (bits : BitVec 32) (a b c : Nat) (hc : c < 256) :
    bits ∈ AddressBlock.around (ofOctets a b c 0) 24 ↔
      bits ∈ AddressBlock.around (ofOctets a b 0 0) 16 ∧ bits.toNat / 2 ^ 8 % 256 = c := by
  rw [AddressBlock.mem_around, AddressBlock.mem_around, ofOctets, ofOctets, BitVec.toNat_ofNat,
    BitVec.toNat_ofNat]
  omega

theorem mem_octet_iff (bits : BitVec 32) (a : Nat) (ha : a < 256) :
    bits ∈ AddressBlock.around (ofOctets a 0 0 0) 8 ↔ bits.toNat / 2 ^ 24 = a := by
  rw [mem_octet bits a 8 le_rfl ha (Nat.mod_one a)]
  omega

theorem mem_twoOctets_iff (bits : BitVec 32) (a b : Nat) (ha : a < 256) (hb : b < 256) :
    bits ∈ AddressBlock.around (ofOctets a b 0 0) 16 ↔
      bits.toNat / 2 ^ 24 = a ∧ bits.toNat / 2 ^ 16 % 256 = b := by
  rw [mem_twoOctets bits a b 16 (by decide) le_rfl ha hb (Nat.mod_one b)]
  omega

theorem exists_specialV4_iff (bits : BitVec 32) :
    (∃ block ∈ specialV4, bits ∈ block) ↔
      (((((((bits.toNat / 2 ^ 24 = 10 ∨ bits.toNat / 2 ^ 24 = 172 ∧
          16 ≤ bits.toNat / 2 ^ 16 % 256 ∧ bits.toNat / 2 ^ 16 % 256 ≤ 31) ∨
        bits.toNat / 2 ^ 24 = 192 ∧ bits.toNat / 2 ^ 16 % 256 = 168) ∨
        bits.toNat / 2 ^ 24 = 127) ∨
        bits.toNat / 2 ^ 24 = 169 ∧ bits.toNat / 2 ^ 16 % 256 = 254) ∨
        224 ≤ bits.toNat / 2 ^ 24 ∧ bits.toNat / 2 ^ 24 ≤ 239) ∨
        bits.toNat = 0) ∨ bits.toNat = 2 ^ 32 - 1) ∨
      (bits.toNat / 2 ^ 24 = 100 ∧
        64 ≤ bits.toNat / 2 ^ 16 % 256 ∧ bits.toNat / 2 ^ 16 % 256 ≤ 127) ∨
      (bits.toNat / 2 ^ 24 = 198 ∧
        18 ≤ bits.toNat / 2 ^ 16 % 256 ∧ bits.toNat / 2 ^ 16 % 256 ≤ 19) ∨
      240 ≤ bits.toNat / 2 ^ 24 := by
  have hprivate : bits ∈ AddressBlock.around (ofOctets 172 16 0 0) 12 ↔
      bits.toNat / 2 ^ 24 = 172 ∧ 16 ≤ bits.toNat / 2 ^ 16 % 256 ∧
        bits.toNat / 2 ^ 16 % 256 ≤ 31 := by
    rw [mem_twoOctets bits 172 16 12] <;> omega
  have hcgnat : bits ∈ AddressBlock.around (ofOctets 100 64 0 0) 10 ↔
      bits.toNat / 2 ^ 24 = 100 ∧ 64 ≤ bits.toNat / 2 ^ 16 % 256 ∧
        bits.toNat / 2 ^ 16 % 256 ≤ 127 := by
    rw [mem_twoOctets bits 100 64 10] <;> omega
  have hbenchmarking : bits ∈ AddressBlock.around (ofOctets 198 18 0 0) 15 ↔
      bits.toNat / 2 ^ 24 = 198 ∧ 18 ≤ bits.toNat / 2 ^ 16 % 256 ∧
        bits.toNat / 2 ^ 16 % 256 ≤ 19 := by
    rw [mem_twoOctets bits 198 18 15] <;> omega
  have hmulticast : bits ∈ AddressBlock.around (ofOctets 224 0 0 0) 4 ↔
      224 ≤ bits.toNat / 2 ^ 24 ∧ bits.toNat / 2 ^ 24 ≤ 239 := by
    rw [mem_octet bits 224 4] <;> omega
  have hreserved : bits ∈ AddressBlock.around (ofOctets 240 0 0 0) 4 ↔
      240 ≤ bits.toNat / 2 ^ 24 := by
    have := bits.isLt
    rw [mem_octet bits 240 4] <;> omega
  have hunspecified : bits ∈ AddressBlock.around (ofOctets 0 0 0 0) 32 ↔ bits.toNat = 0 := by
    rw [mem_single] <;> omega
  have hbroadcast : bits ∈ AddressBlock.around (ofOctets 255 255 255 255) 32 ↔
      bits.toNat = 2 ^ 32 - 1 := by
    rw [mem_single] <;> omega
  simp (disch := decide) only [specialV4, List.exists_mem_cons_iff, List.not_mem_nil,
    false_and, exists_false, or_false, mem_octet_iff, mem_twoOctets_iff, hprivate, hcgnat,
    hbenchmarking, hmulticast, hreserved, hunspecified, hbroadcast, or_assoc]

theorem exists_comparedV4_iff (bits : BitVec 32) :
    (∃ block ∈ comparedV4, bits ∈ block) ↔
      (bits.toNat / 2 ^ 24 = 192 ∧ bits.toNat / 2 ^ 16 % 256 = 0 ∨
        bits.toNat / 2 ^ 24 = 198 ∧ bits.toNat / 2 ^ 16 % 256 = 51) ∨
      bits.toNat / 2 ^ 24 = 203 ∧ bits.toNat / 2 ^ 16 % 256 = 0 := by
  simp (disch := decide) only [comparedV4, List.exists_mem_cons_iff, List.not_mem_nil,
    false_and, exists_false, or_false, mem_twoOctets_iff, or_assoc]

theorem isGlobalV4_eq_false_iff (bits : BitVec 32) :
    isGlobalV4 bits = false ↔
      (∃ block ∈ specialV4, bits ∈ block) ∨ ∃ block ∈ comparedV4, bits ∈ block := by
  simp only [isGlobalV4, refusal_iff, Bool.or_eq_true, Bool.and_eq_true, beq_iff_eq,
    decide_eq_true_eq, and_assoc, Bool.true_eq_false, or_false]
  -- the documentation blocks are checked before the last two of the others
  rw [exists_specialV4_iff, exists_comparedV4_iff, or_third_last]

/-- No address compared with a documentation block is in another block. -/
theorem not_special_of_comparedV4 (bits : BitVec 32)
    (h : ∃ block ∈ comparedV4, bits ∈ block) : ¬ ∃ block ∈ specialV4, bits ∈ block := by
  rw [exists_comparedV4_iff] at h
  rw [exists_specialV4_iff]
  omega

theorem exists_documentationV4_iff (bits : BitVec 32) :
    (∃ block ∈ documentationV4, bits ∈ block) ↔
      (∃ block ∈ comparedV4, bits ∈ block) ∧ ¬ Misjudged (.v4 bits) := by
  simp (disch := decide) only [Misjudged, comparedV4, documentationV4, List.zip_cons_cons,
    List.zip_nil_right, List.exists_mem_cons_iff, List.not_mem_nil, false_and, exists_false,
    or_false, mem_threeOctets, mem_twoOctets_iff]
  omega

theorem isGlobalV4_named_iff (bits : BitVec 32) :
    (isGlobalV4 bits = false ↔ Named (.v4 bits)) ↔ ¬ Misjudged (.v4 bits) := by
  rw [isGlobalV4_eq_false_iff, Named, exists_documentationV4_iff]
  by_cases hcompared : ∃ block ∈ comparedV4, bits ∈ block
  · have hspecial := not_special_of_comparedV4 bits hcompared
    simp only [hspecial, hcompared, false_or, true_and, true_iff]
  · have hjudged : ¬ Misjudged (.v4 bits) := by
      rintro ⟨blocks, hblocks, hmem, _⟩
      exact hcompared ⟨blocks.1, (List.of_mem_zip hblocks).1, hmem⟩
    simp only [hcompared, hjudged, false_and, not_false_eq_true]

end FourOctets

section EightSegments

theorem segment_lt (bits : BitVec 128) (i : Nat) : segment bits i < 2 ^ 16 :=
  Nat.mod_lt _ (Nat.two_pow_pos 16)

theorem div_eq_segment (bits : BitVec 128) : bits.toNat / 2 ^ 112 = segment bits 0 := by
  have hlt := bits.isLt
  have hquot : bits.toNat / 2 ^ 112 < 2 ^ 16 := Nat.div_lt_of_lt_mul hlt
  exact (Nat.mod_eq_of_lt hquot).symm

theorem div_eq_two_segments (bits : BitVec 128) :
    bits.toNat / 2 ^ 96 = segment bits 0 * 2 ^ 16 + segment bits 1 := by
  rw [← div_eq_segment]
  simp only [CloudConfig.segment]
  omega

theorem toNat_ofSegments (s0 s1 s2 last : Nat) (h0 : s0 < 2 ^ 16) (h1 : s1 < 2 ^ 16)
    (h2 : s2 < 2 ^ 16) (hlast : last < 2 ^ 80) :
    (ofSegments s0 s1 s2 last).toNat = s0 * 2 ^ 112 + s1 * 2 ^ 96 + s2 * 2 ^ 80 + last := by
  rw [ofSegments, BitVec.toNat_ofNat]
  omega

theorem mem_segment (bits : BitVec 128) (s0 length : Nat) (hlen : length ≤ 16)
    (h0 : s0 < 2 ^ 16) (haligned : s0 % 2 ^ (16 - length) = 0) :
    bits ∈ AddressBlock.around (ofSegments s0 0 0 0) length ↔
      s0 ≤ segment bits 0 ∧ segment bits 0 < s0 + 2 ^ (16 - length) := by
  have hbase := toNat_ofSegments s0 0 0 0 h0 (by decide) (by decide) (by decide)
  have hunit : (ofSegments s0 0 0 0).toNat / 2 ^ 112 % 2 ^ 16 = s0 := by omega
  have hhigh (x : BitVec 128) : x.toNat / 2 ^ (112 + 16) = 0 := Nat.div_eq_of_lt x.isLt
  rw [AddressBlock.mem_around_unit 112 16 (16 - length) (by omega) (by omega), hunit, hhigh,
    hhigh]
  · exact and_iff_right rfl
  · rw [hunit, haligned]

/-- Addresses compared by their first segment and a range of the second. -/
theorem mem_twoSegments (bits : BitVec 128) (s0 s1 length : Nat) (hmin : 16 ≤ length)
    (hlen : length ≤ 32) (h0 : s0 < 2 ^ 16) (h1 : s1 < 2 ^ 16)
    (haligned : s1 % 2 ^ (32 - length) = 0) :
    bits ∈ AddressBlock.around (ofSegments s0 s1 0 0) length ↔
      segment bits 0 = s0 ∧ s1 ≤ segment bits 1 ∧
        segment bits 1 < s1 + 2 ^ (32 - length) := by
  have hbase := toNat_ofSegments s0 s1 0 0 h0 h1 (by decide) (by decide)
  have hunit : (ofSegments s0 s1 0 0).toNat / 2 ^ 96 % 2 ^ 16 = s1 := by omega
  have hfirst : (ofSegments s0 s1 0 0).toNat / 2 ^ (96 + 16) = s0 := by omega
  rw [AddressBlock.mem_around_unit 96 16 (32 - length) (by omega) (by omega), hunit, hfirst,
    Nat.add_comm 96 16]
  · rw [show 16 + 96 = 112 from rfl, div_eq_segment]
    exact Iff.rfl
  · rw [hunit, haligned]

theorem mem_threeSegments (bits : BitVec 128) (s0 s1 : Nat) (h0 : s0 < 2 ^ 16)
    (h1 : s1 < 2 ^ 16) :
    bits ∈ AddressBlock.around (ofSegments s0 s1 0 0) 48 ↔
      segment bits 0 = s0 ∧ segment bits 1 = s1 ∧ segment bits 2 = 0 := by
  have hbase := toNat_ofSegments s0 s1 0 0 h0 h1 (by decide) (by decide)
  have hunit : (ofSegments s0 s1 0 0).toNat / 2 ^ 80 % 2 ^ 16 = 0 := by omega
  have hfirst : (ofSegments s0 s1 0 0).toNat / 2 ^ (80 + 16) = s0 * 2 ^ 16 + s1 := by omega
  have hlt := segment_lt bits 1
  rw [AddressBlock.mem_around_unit 80 16 0 (by omega) (by omega), hunit, hfirst,
    show 80 + 16 = 96 from rfl, div_eq_two_segments]
  · rw [show bits.toNat / 2 ^ 80 % 2 ^ 16 = segment bits 2 from rfl]
    omega
  · rw [hunit, Nat.zero_mod]

theorem mem_loneAddress (bits : BitVec 128) (last : Nat) (hlast : last < 2 ^ 80) :
    bits ∈ AddressBlock.around (ofSegments 0 0 0 last) 128 ↔ bits.toNat = last := by
  have hbase := toNat_ofSegments 0 0 0 last (by decide) (by decide) (by decide) hlast
  rw [AddressBlock.mem_around, hbase]
  omega

/-- A segment whose highest bits are compared behind a mask. -/
theorem and_mask_iff (s k value : Nat) (hk : k ≤ 16) (hs : s < 2 ^ 16)
    (haligned : value % 2 ^ k = 0) :
    s &&& (2 ^ 16 - 2 ^ k) = value ↔ value ≤ s ∧ s < value + 2 ^ k := by
  rw [and_highMask k s hk hs, ← AddressBlock.div_eq_div_iff haligned (Nat.two_pow_pos k)]
  constructor
  · intro h
    rw [← h, Nat.mul_div_cancel _ (Nat.two_pow_pos k)]
  · intro h
    rw [h, Nat.div_mul_cancel (Nat.dvd_of_mod_eq_zero haligned)]

theorem exists_specialV6_iff (bits : BitVec 128) :
    (∃ block ∈ specialV6, bits ∈ block) ↔
      ((((bits.toNat = 0 ∨ bits.toNat = 1) ∨ segment bits 0 &&& 0xffc0 = 0xfe80) ∨
        segment bits 0 &&& 0xff00 = 0xff00) ∨ segment bits 0 &&& 0xfe00 = 0xfc00) ∨
      (segment bits 0 = 0x2001 ∧ 0x0010 ≤ segment bits 1 ∧ segment bits 1 ≤ 0x001f) ∨
      (segment bits 0 = 0x2001 ∧ segment bits 1 = 0x0db8 ∨
        segment bits 0 = 0x3fff ∧ segment bits 1 &&& 0xf000 = 0) := by
  have hs0 := segment_lt bits 0
  have hs1 := segment_lt bits 1
  have hunspecified : bits ∈ AddressBlock.around (ofSegments 0 0 0 0) 128 ↔ bits.toNat = 0 :=
    mem_loneAddress bits 0 (by decide)
  have hloopback : bits ∈ AddressBlock.around (ofSegments 0 0 0 1) 128 ↔ bits.toNat = 1 :=
    mem_loneAddress bits 1 (by decide)
  have hlinkLocal : bits ∈ AddressBlock.around (ofSegments 0xfe80 0 0 0) 10 ↔
      segment bits 0 &&& 0xffc0 = 0xfe80 :=
    (mem_segment bits 0xfe80 10 (by decide) (by decide) (by decide)).trans
      (and_mask_iff (segment bits 0) 6 0xfe80 (by decide) hs0 (by decide)).symm
  have hmulticast : bits ∈ AddressBlock.around (ofSegments 0xff00 0 0 0) 8 ↔
      segment bits 0 &&& 0xff00 = 0xff00 :=
    (mem_segment bits 0xff00 8 (by decide) (by decide) (by decide)).trans
      (and_mask_iff (segment bits 0) 8 0xff00 (by decide) hs0 (by decide)).symm
  have huniqueLocal : bits ∈ AddressBlock.around (ofSegments 0xfc00 0 0 0) 7 ↔
      segment bits 0 &&& 0xfe00 = 0xfc00 :=
    (mem_segment bits 0xfc00 7 (by decide) (by decide) (by decide)).trans
      (and_mask_iff (segment bits 0) 9 0xfc00 (by decide) hs0 (by decide)).symm
  have horchid : bits ∈ AddressBlock.around (ofSegments 0x2001 0x0010 0 0) 28 ↔
      segment bits 0 = 0x2001 ∧ 0x0010 ≤ segment bits 1 ∧ segment bits 1 ≤ 0x001f := by
    rw [mem_twoSegments bits 0x2001 0x0010 28] <;> omega
  have hdocumentation : bits ∈ AddressBlock.around (ofSegments 0x2001 0x0db8 0 0) 32 ↔
      segment bits 0 = 0x2001 ∧ segment bits 1 = 0x0db8 := by
    rw [mem_twoSegments bits 0x2001 0x0db8 32] <;> omega
  have hdocumentation' : bits ∈ AddressBlock.around (ofSegments 0x3fff 0 0 0) 20 ↔
      segment bits 0 = 0x3fff ∧ segment bits 1 &&& 0xf000 = 0 := by
    have hmask := and_mask_iff (segment bits 1) 12 0 (by decide) hs1 (by decide)
    rw [mem_twoSegments bits 0x3fff 0 20 (by decide) (by decide) (by decide) (by decide)
      (by decide), show 0xf000 = 2 ^ 16 - 2 ^ 12 from rfl, hmask]
  simp only [specialV6, List.exists_mem_cons_iff, List.not_mem_nil, false_and, exists_false,
    or_false, hunspecified, hloopback, hlinkLocal, hmulticast, huniqueLocal, horchid,
    hdocumentation, hdocumentation', or_assoc]

theorem mem_unicastV6 (bits : BitVec 128) :
    bits ∈ unicastV6 ↔ segment bits 0 &&& 0xe000 = 0x2000 :=
  (mem_segment bits 0x2000 3 (by decide) (by decide) (by decide)).trans
    (and_mask_iff (segment bits 0) 13 0x2000 (by decide) (segment_lt bits 0) (by decide)).symm

theorem mem_comparedBenchmarkingV6 (bits : BitVec 128) :
    bits ∈ comparedBenchmarkingV6 ↔ segment bits 0 = 0x2001 ∧ segment bits 1 = 0x0002 := by
  rw [comparedBenchmarkingV6, mem_twoSegments bits 0x2001 0x0002 32] <;> omega

theorem mem_comparedTeredoV6 (bits : BitVec 128) :
    bits ∈ comparedTeredoV6 ↔
      segment bits 0 = 0x2001 ∧ segment bits 1 = 0 ∧ segment bits 2 = 0 :=
  mem_threeSegments bits 0x2001 0 (by decide) (by decide)

theorem isGlobalV6_eq_false_iff (bits : BitVec 128) :
    isGlobalV6 bits = false ↔
      (∃ block ∈ specialV6, bits ∈ block) ∨ bits ∈ comparedBenchmarkingV6 ∨
        bits ∈ comparedTeredoV6 ∨ bits ∉ unicastV6 := by
  have hlast : (segment bits 0 &&& 0xe000 == 0x2000) = false ↔ bits ∉ unicastV6 := by
    rw [mem_unicastV6, beq_eq_false_iff_ne]
  rw [isGlobalV6]
  simp only [refusal_iff, hlast, Bool.or_eq_true, Bool.and_eq_true, beq_iff_eq,
    decide_eq_true_eq, and_assoc]
  rw [exists_specialV6_iff, mem_comparedBenchmarkingV6, mem_comparedTeredoV6,
    or_second_fourth_last]

/-- The two blocks compared with the wrong length are unicast and apart from the others. -/
theorem not_special_of_segments (bits : BitVec 128) (h0 : segment bits 0 = 0x2001)
    (h1 : segment bits 1 = 0 ∨ segment bits 1 = 0x0002) :
    (¬ ∃ block ∈ specialV6, bits ∈ block) ∧ bits ∈ unicastV6 := by
  have hnat : 0x2001 * 2 ^ 112 ≤ bits.toNat := by
    have := div_eq_segment bits
    omega
  rw [exists_specialV6_iff, mem_unicastV6, h0]
  constructor
  · rcases h1 with h1 | h1 <;> rw [h1] <;> simp <;> omega
  · rfl

theorem isGlobalV6_named_iff (bits : BitVec 128) :
    (isGlobalV6 bits = false ↔ Named (.v6 bits)) ↔ ¬ Misjudged (.v6 bits) := by
  have hbenchmarking : bits ∈ benchmarkingV6 ↔
      segment bits 0 = 0x2001 ∧ segment bits 1 = 0x0002 ∧ segment bits 2 = 0 :=
    mem_threeSegments bits 0x2001 0x0002 (by decide) (by decide)
  have hteredo : bits ∈ teredoV6 ↔ segment bits 0 = 0x2001 ∧ segment bits 1 = 0 := by
    rw [teredoV6, mem_twoSegments bits 0x2001 0 32] <;> omega
  rw [isGlobalV6_eq_false_iff, Named, Misjudged, mem_comparedBenchmarkingV6,
    mem_comparedTeredoV6, hbenchmarking, hteredo]
  by_cases h0 : segment bits 0 = 0x2001
  · by_cases h1 : segment bits 1 = 0 ∨ segment bits 1 = 0x0002
    · obtain ⟨hspecial, hunicast⟩ := not_special_of_segments bits h0 h1
      simp only [hspecial, hunicast, h0, false_or, true_and, not_true_eq_false, or_false]
      omega
    · obtain ⟨hteredo, hbenchmarking⟩ := not_or.mp h1
      simp only [hteredo, hbenchmarking, false_and, and_false, or_false, false_or,
        not_false_eq_true]
  · simp only [h0, false_and, false_or, or_false, not_false_eq_true]

end EightSegments

/-- `is_global` is right about an address exactly when the block it compares is the named
one. -/
theorem isGlobal_named_iff (ip : IpAddr) :
    (isGlobal ip = false ↔ Named ip) ↔ ¬ Misjudged ip := by
  cases ip with
  | v4 bits => exact isGlobalV4_named_iff bits
  | v6 bits => exact isGlobalV6_named_iff bits

/-- 198.51.7.9 is in no block and is refused. -/
theorem usable_address_refused :
    ¬ ∀ ip, isGlobal ip = false ↔ Named ip := by
  intro h
  have hrefused : isGlobal (.v4 (ofOctets 198 51 7 9)) = false := by decide +kernel
  have hunnamed : ¬ Named (.v4 (ofOctets 198 51 7 9)) := by decide +kernel
  exact hunnamed ((h _).mp hrefused)

/-- The Teredo address 2001:0:4136:: is accepted. -/
example : isGlobal (.v6 (ofSegments 0x2001 0 0x4136 0)) = true ∧
    Named (.v6 (ofSegments 0x2001 0 0x4136 0)) := by decide +kernel

end Xcplane.GlobalAddress
