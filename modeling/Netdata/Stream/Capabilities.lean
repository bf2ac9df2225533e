import Mathlib.Data.Fintype.Basic
import Mathlib.Tactic.DeriveFintype
/-!
# Capability negotiation

`stream_our_capabilities` and `convert_stream_version_to_capabilities`
(`src/streaming/rrdpush.c`) over 32-bit masks. A version travels as an
`int32_t`, a mask as the same 32 bits, so both are `BitVec 32` here and the
legacy comparisons read the version through `toInt`.

The `STREAM_CAP_*` bits, the `STREAM_OLD_VERSION_*` numbers and the
compressors a build includes come from `rrdpush.h`, which this tree does not
hold. A `StreamHeader` is any choice of them with distinct single bits above
`STREAM_OLD_VERSION_LZ4` and below the sign bit of the version they travel in;
every theorem holds for all of them.

- `convert_stream_version_to_capabilities_sound`: a negotiated mask is part of
  what we support, carries at most one framing version, and carries ML data
  only with interpolated values.
- `negotiation_agrees`: when the child reads back the parent's answer it ends
  with the parent's mask, unless one of the two masks is empty.
- `has_framing_convert`: a negotiated mask holds a framing version iff it is the
  highest one of the peer's mask and we support it; `vcaps_strips_shared_framing`:
  so a framing version both sides share can be lost.
- `legacy_version_answer`: a child announcing a legacy version gets back, from
  `stream_capabilities_to_vn`, the highest legacy version not above its own whose
  capability we support.
- `capabilities_text_round_trip`: the text `stream_capabilities_to_string` logs lists the
  items of `stream_capabilities_to_json_array`, and names every capability of a negotiated
  mask and nothing else.
- `has_convert_legacy`: a mask negotiated from a legacy version holds only the capabilities
  the legacy versions stand for.
-/

namespace Netdata.Stream

/-- The `STREAM_CAP_*` constants, in the order of `capability_names`, and
`STREAM_CAP_INVALID`. -/
inductive Cap where
  | V1 | V2 | VN | VCAPS | HLABELS | CLAIM | CLABELS | LZ4 | FUNCTIONS | REPLICATION
  | BINARY | INTERPOLATED | IEEE754 | DATA_WITH_ML | DYNCFG | SLOTS | ZSTD | GZIP | BROTLI
  | INVALID
  deriving DecidableEq, Repr, Fintype

/-- `capability_names`: the text of every capability but `STREAM_CAP_INVALID`, in the table's
order. -/
def capability_names : List (Cap × String) :=
  [(.V1, "V1"), (.V2, "V2"), (.VN, "VN"), (.VCAPS, "VCAPS"), (.HLABELS, "HLABELS"),
    (.CLAIM, "CLAIM"), (.CLABELS, "CLABELS"), (.LZ4, "LZ4"), (.FUNCTIONS, "FUNCTIONS"),
    (.REPLICATION, "REPLICATION"), (.BINARY, "BINARY"), (.INTERPOLATED, "INTERPOLATED"),
    (.IEEE754, "IEEE754"), (.DATA_WITH_ML, "ML"), (.DYNCFG, "DYNCFG"), (.SLOTS, "SLOTS"),
    (.ZSTD, "ZSTD"), (.GZIP, "GZIP"), (.BROTLI, "BROTLI")]

/-- Not in the source: the capability a word of a capability text names, if any. -/
def capability_named (w : List Char) : Option Cap :=
  (capability_names.find? fun p => p.2.toList = w).map Prod.fst

/-- The names are distinct: each one is read back as its own capability. -/
theorem capability_named_name : ∀ p ∈ capability_names, capability_named p.2.toList = some p.1 := by
  decide

theorem capability_named_nil : capability_named [] = none := by decide

theorem space_not_mem_name : ∀ p ∈ capability_names, ' ' ∉ p.2.toList := by decide

theorem mem_capability_names (c : Cap) : (∃ p ∈ capability_names, p.1 = c) ↔ c ≠ .INVALID := by
  revert c; decide

/-- Words each followed by a separator they do not hold split back into the words, and the
empty word after the last separator. -/
theorem splitOn_flatMap_sep {sep : Char} : ∀ {ws : List (List Char)}, (∀ w ∈ ws, sep ∉ w) →
    (ws.flatMap (· ++ [sep])).splitOn sep = ws ++ [[]]
  | [], _ => rfl
  | w :: ws, h => by
    rw [List.flatMap_cons, List.append_assoc, List.singleton_append, List.splitOn,
      List.splitOnP_first (· == sep) w
        (fun c hc he => h w (List.mem_cons_self _ _) (beq_iff_eq.1 he ▸ hc)) sep (beq_self_eq_true _),
      ← List.splitOn, splitOn_flatMap_sep fun w' hw' => h w' (List.mem_cons_of_mem _ hw')]
    rfl

/-- What `rrdpush.h` fixes: the bit of every capability, the old version
numbers (in the order the legacy branches test them), which compressors the build includes (`STREAM_CAP_LZ4_AVAILABLE`,
`STREAM_CAP_COMPRESSIONS_AVAILABLE`) and whether `NETDATA_TEST_DYNCFG` is on. -/
structure StreamHeader where
  bit : Cap → Nat
  bit_injective : Function.Injective bit
  bit_lt : ∀ c, bit c < 31
  STREAM_OLD_VERSION_CLAIM : Int
  STREAM_OLD_VERSION_CLABELS : Int
  STREAM_OLD_VERSION_LZ4 : Int
  old_version_lt_bit : ∀ c, STREAM_OLD_VERSION_LZ4 < 2 ^ bit c
  old_versions_ordered : 1 < STREAM_OLD_VERSION_CLAIM ∧
    STREAM_OLD_VERSION_CLAIM ≤ STREAM_OLD_VERSION_CLABELS ∧
    STREAM_OLD_VERSION_CLABELS ≤ STREAM_OLD_VERSION_LZ4
  compressor_built : Cap → Bool
  NETDATA_TEST_DYNCFG : Bool

/-- What `stream_our_capabilities` reads of a host: whether ML runs on it,
whether its receiver negotiated `STREAM_CAP_DATA_WITH_ML`, and the
`disabled_capabilities` of its sender, when it has one. -/
structure HostCaps where
  ml_host_running : Bool
  receiver_has_data_with_ml : Bool
  sender_disabled_capabilities : Option (BitVec 32)
  deriving DecidableEq, Repr

namespace StreamHeader

variable (H : StreamHeader)

/-- `STREAM_CAP_<c>`. -/
def cap (c : Cap) : BitVec 32 := BitVec.twoPow 32 (H.bit c)

/-- Whether a mask holds capability `c`. -/
def has (x : BitVec 32) (c : Cap) : Bool := x.getLsbD (H.bit c)

/-- `STREAM_CAP_<c>_AVAILABLE`: the compressor's bit when the build has it. -/
def available (c : Cap) : BitVec 32 := if H.compressor_built c then H.cap c else 0

def STREAM_CAP_LZ4_AVAILABLE : BitVec 32 := H.available .LZ4

def STREAM_CAP_COMPRESSIONS_AVAILABLE : BitVec 32 :=
  H.available .LZ4 ||| H.available .ZSTD ||| H.available .GZIP ||| H.available .BROTLI

def stream_our_capabilities (globally_disabled_capabilities : BitVec 32)
    (host : Option HostCaps) (sender : Bool) : BitVec 32 :=
  let disabled_capabilities :=
    match host, sender with
    | some h, true =>
      (if !h.ml_host_running && !h.receiver_has_data_with_ml
        then globally_disabled_capabilities ||| H.cap .DATA_WITH_ML
        else globally_disabled_capabilities) ||| h.sender_disabled_capabilities.getD 0
    | _, _ => globally_disabled_capabilities
  (H.cap .V1 ||| H.cap .V2 ||| H.cap .VN ||| H.cap .VCAPS ||| H.cap .HLABELS |||
    H.cap .CLAIM ||| H.cap .CLABELS ||| H.cap .FUNCTIONS ||| H.cap .REPLICATION |||
    H.cap .BINARY ||| H.cap .INTERPOLATED ||| H.cap .SLOTS |||
    H.STREAM_CAP_COMPRESSIONS_AVAILABLE |||
    (if H.NETDATA_TEST_DYNCFG then H.cap .DYNCFG else 0) |||
    H.cap .IEEE754 ||| H.cap .DATA_WITH_ML ||| 0) &&& ~~~disabled_capabilities

/-- The first half of `convert_stream_version_to_capabilities`: the mask a
version stands for. Legacy numbers map to fixed sets; a version above
`STREAM_OLD_VERSION_LZ4` is a mask already. -/
def version_capabilities (version : BitVec 32) : BitVec 32 :=
  if version.toInt ≤ 1 then H.cap .V1
  else if version.toInt < H.STREAM_OLD_VERSION_CLAIM then H.cap .V2 ||| H.cap .HLABELS
  else if version.toInt ≤ H.STREAM_OLD_VERSION_CLAIM then
    H.cap .VN ||| H.cap .HLABELS ||| H.cap .CLAIM
  else if version.toInt ≤ H.STREAM_OLD_VERSION_CLABELS then
    H.cap .VN ||| H.cap .HLABELS ||| H.cap .CLAIM ||| H.cap .CLABELS
  else if version.toInt ≤ H.STREAM_OLD_VERSION_LZ4 then
    H.cap .VN ||| H.cap .HLABELS ||| H.cap .CLAIM ||| H.cap .CLABELS |||
      H.STREAM_CAP_LZ4_AVAILABLE
  else version

/-- The framing reductions: a higher framing version strips the lower ones. -/
def strip_lower_versions (caps : BitVec 32) : BitVec 32 :=
  let caps := if caps &&& H.cap .VCAPS ≠ 0
    then caps &&& ~~~(H.cap .V1 ||| H.cap .V2 ||| H.cap .VN) else caps
  let caps := if caps &&& H.cap .VN ≠ 0 then caps &&& ~~~(H.cap .V1 ||| H.cap .V2) else caps
  if caps &&& H.cap .V2 ≠ 0 then caps &&& ~~~H.cap .V1 else caps

def convert_stream_version_to_capabilities (globally_disabled_capabilities : BitVec 32)
    (version : BitVec 32) (host : Option HostCaps) (sender : Bool) : BitVec 32 :=
  let common_caps := H.strip_lower_versions (H.version_capabilities version) &&&
    H.stream_our_capabilities globally_disabled_capabilities host sender
  if common_caps &&& H.cap .INTERPOLATED = 0 then common_caps &&& ~~~H.cap .DATA_WITH_ML
  else common_caps

/-- `stream_capabilities_to_vn`: the legacy version number a parent answers an old child
with, for the mask they negotiated. -/
def stream_capabilities_to_vn (caps : BitVec 32) : Int :=
  if H.has caps .LZ4 then H.STREAM_OLD_VERSION_LZ4
  else if H.has caps .CLABELS then H.STREAM_OLD_VERSION_CLABELS
  else H.STREAM_OLD_VERSION_CLAIM

/-- `stream_capabilities_to_string`: the name of every capability of the mask, each followed by
a space, in the table's order. -/
def stream_capabilities_to_string (caps : BitVec 32) : String :=
  capability_names.foldl
    (fun wb (cap, str) => if caps &&& H.cap cap ≠ 0 then wb ++ str ++ " " else wb) ""

/-- `stream_capabilities_to_json_array`: the items of the array, the same names. -/
def stream_capabilities_to_json_array (caps : BitVec 32) : List String :=
  capability_names.foldl
    (fun items (cap, str) => if caps &&& H.cap cap ≠ 0 then items ++ [str] else items) []

/-- Not in the source: a capability text read back, the capabilities its words name. -/
def capabilities_of_text (s : String) : BitVec 32 :=
  ((s.toList.splitOn ' ').filterMap capability_named).foldl (· ||| H.cap ·) 0

/-- How many of the framing versions V1, V2, VN, VCAPS a mask holds. -/
def framing_count (x : BitVec 32) : Nat :=
  [Cap.V1, .V2, .VN, .VCAPS].countP (H.has x)

/-- The highest framing version a mask holds: `VCAPS`, then `VN`, `V2`, `V1`. -/
def highest_framing (x : BitVec 32) : Option Cap :=
  [Cap.VCAPS, .VN, .V2, .V1].find? (H.has x)

/-! ## Masks bit by bit -/

variable {H}

theorem bit_lt_32 (c : Cap) : H.bit c < 32 := Nat.lt_succ_of_lt (H.bit_lt c)

@[simp] theorem has_cap (c c' : Cap) : H.has (H.cap c) c' = decide (c = c') := by
  simp only [has, cap, BitVec.getLsbD_twoPow, bit_lt_32, decide_True, Bool.true_and]
  exact decide_eq_decide.2 H.bit_injective.eq_iff

@[simp] theorem has_and (x y : BitVec 32) (c : Cap) :
    H.has (x &&& y) c = (H.has x c && H.has y c) := BitVec.getLsbD_and

@[simp] theorem has_or (x y : BitVec 32) (c : Cap) :
    H.has (x ||| y) c = (H.has x c || H.has y c) := BitVec.getLsbD_or

@[simp] theorem has_not (x : BitVec 32) (c : Cap) : H.has (~~~x) c = !H.has x c := by
  simp [has, bit_lt_32]

@[simp] theorem has_zero (c : Cap) : H.has 0 c = false := BitVec.getLsbD_zero

theorem and_cap_eq_zero_iff (x : BitVec 32) (c : Cap) : x &&& H.cap c = 0 ↔ H.has x c = false := by
  rw [cap, BitVec.and_twoPow]
  split
  · rename_i h
    simp only [has, h, Bool.true_eq_false, iff_false]
    intro h0
    simpa [bit_lt_32] using congrArg (BitVec.getLsbD · (H.bit c)) h0
  · simp_all [has]

theorem getLsbD_cap (c : Cap) (i : Nat) : (H.cap c).getLsbD i = decide (H.bit c = i) := by
  simp [cap, BitVec.getLsbD_twoPow, bit_lt_32]

/-- Bit `i` survives the framing reductions unless it is a framing version
below one the mask holds. -/
theorem getLsbD_strip_lower_versions (x : BitVec 32) (i : Nat) :
    (H.strip_lower_versions x).getLsbD i = (x.getLsbD i &&
      !(decide (H.bit .V1 = i) && (H.has x .VCAPS || H.has x .VN || H.has x .V2)) &&
      !(decide (H.bit .V2 = i) && (H.has x .VCAPS || H.has x .VN)) &&
      !(decide (H.bit .VN = i) && H.has x .VCAPS)) := by
  unfold strip_lower_versions
  simp only [ne_eq, and_cap_eq_zero_iff]
  by_cases hi : i < 32
  · by_cases h1 : H.has x .VCAPS <;> by_cases h2 : H.has x .VN <;>
      by_cases h3 : H.has x .V2 <;> simp_all [getLsbD_cap, Bool.and_assoc]
  · simp (disch := omega) [BitVec.getLsbD_ge]

theorem has_strip_lower_versions (x : BitVec 32) (c : Cap) :
    H.has (H.strip_lower_versions x) c = (H.has x c &&
      !(decide (c = .V1) && (H.has x .VCAPS || H.has x .VN || H.has x .V2)) &&
      !(decide (c = .V2) && (H.has x .VCAPS || H.has x .VN)) &&
      !(decide (c = .VN) && H.has x .VCAPS)) := by
  simp only [has, getLsbD_strip_lower_versions, H.bit_injective.eq_iff, eq_comm (a := c)]

theorem framing_count_strip_lower_versions_le (x : BitVec 32) :
    H.framing_count (H.strip_lower_versions x) ≤ 1 := by
  simp only [framing_count, List.countP_cons, List.countP_nil, has_strip_lower_versions]
  cases H.has x .V1 <;> cases H.has x .V2 <;> cases H.has x .VN <;> cases H.has x .VCAPS <;> decide

/-- A mask with at most one framing version has nothing to strip. -/
theorem strip_lower_versions_of_framing_count_le {x : BitVec 32} (h : H.framing_count x ≤ 1) :
    H.strip_lower_versions x = x := by
  ext ⟨i, _⟩
  rw [getLsbD_strip_lower_versions]
  cases hx : x.getLsbD i
  · simp
  have key : ∀ c, H.bit c = i → H.has x c = true := fun c hc => by rw [has, hc, hx]
  have k1 := key .V1
  have k2 := key .V2
  have k3 := key .VN
  simp only [framing_count, List.countP_cons, List.countP_nil] at h
  revert k1 k2 k3 h
  cases H.has x .V1 <;> cases H.has x .V2 <;> cases H.has x .VN <;> cases H.has x .VCAPS <;>
    simp +contextual

/-! ## What a negotiation yields -/

/-- The mask before the ML strip: the version's capabilities, reduced, that we
also support. -/
theorem convert_eq (g v : BitVec 32) (host : Option HostCaps) (sender : Bool) :
    H.convert_stream_version_to_capabilities g v host sender =
      if H.has (H.strip_lower_versions (H.version_capabilities v) &&&
          H.stream_our_capabilities g host sender) .INTERPOLATED = false
      then H.strip_lower_versions (H.version_capabilities v) &&&
          H.stream_our_capabilities g host sender &&& ~~~H.cap .DATA_WITH_ML
      else H.strip_lower_versions (H.version_capabilities v) &&&
          H.stream_our_capabilities g host sender := by
  simp only [convert_stream_version_to_capabilities, and_cap_eq_zero_iff]

theorem getLsbD_convert {g v : BitVec 32} {host : Option HostCaps} {sender : Bool} {i : Nat}
    (h : (H.convert_stream_version_to_capabilities g v host sender).getLsbD i) :
    (H.strip_lower_versions (H.version_capabilities v)).getLsbD i ∧
      (H.stream_our_capabilities g host sender).getLsbD i := by
  rw [convert_eq] at h
  split at h <;> simp_all

theorem has_convert_of_ne {c : Cap} (hc : c ≠ .DATA_WITH_ML) (g v : BitVec 32)
    (host : Option HostCaps) (sender : Bool) :
    H.has (H.convert_stream_version_to_capabilities g v host sender) c =
      (H.has (H.strip_lower_versions (H.version_capabilities v)) c &&
        H.has (H.stream_our_capabilities g host sender) c) := by
  rw [convert_eq]
  split <;> simp [hc.symm]

/-- We never support `STREAM_CAP_INVALID`. -/
theorem has_ours_invalid (g : BitVec 32) (host : Option HostCaps) (sender : Bool) :
    H.has (H.stream_our_capabilities g host sender) .INVALID = false := by
  have h0 : H.has 0#32 .INVALID = false := BitVec.getLsbD_zero
  have ha : ∀ c, c ≠ .INVALID → H.has (H.available c) .INVALID = false := fun c hc => by
    unfold available; split <;> simp [hc, h0]
  have hd : H.has (if H.NETDATA_TEST_DYNCFG then H.cap .DYNCFG else 0#32) .INVALID = false := by
    split <;> simp [h0]
  unfold stream_our_capabilities STREAM_CAP_COMPRESSIONS_AVAILABLE
  simp [ha, hd]

/-- So no negotiation yields it. -/
theorem has_convert_invalid (g v : BitVec 32) (host : Option HostCaps) (sender : Bool) :
    H.has (H.convert_stream_version_to_capabilities g v host sender) .INVALID = false := by
  rw [has_convert_of_ne (by decide), has_ours_invalid, Bool.and_false]

theorem convert_within_ours (g v : BitVec 32) (host : Option HostCaps) (sender : Bool) :
    H.convert_stream_version_to_capabilities g v host sender &&&
      H.stream_our_capabilities g host sender =
    H.convert_stream_version_to_capabilities g v host sender := by
  ext ⟨i, _⟩
  rw [BitVec.getLsbD_and]
  cases h : (H.convert_stream_version_to_capabilities g v host sender).getLsbD i
  · rfl
  · simp [(getLsbD_convert h).2]

theorem framing_count_mono {x y : BitVec 32}
    (h : ∀ c ∈ [Cap.V1, .V2, .VN, .VCAPS], H.has x c → H.has y c) :
    H.framing_count x ≤ H.framing_count y :=
  List.countP_mono_left h

theorem framing_count_convert_le (g v : BitVec 32) (host : Option HostCaps) (sender : Bool) :
    H.framing_count (H.convert_stream_version_to_capabilities g v host sender) ≤ 1 := by
  refine (framing_count_mono fun c hc hx => ?_).trans
    (framing_count_strip_lower_versions_le (H.version_capabilities v))
  have hne : c ≠ .DATA_WITH_ML := by rintro rfl; simp at hc
  rw [has_convert_of_ne hne, Bool.and_eq_true] at hx
  exact hx.1

theorem has_interpolated_of_has_ml {g v : BitVec 32} {host : Option HostCaps} {sender : Bool}
    (h : H.has (H.convert_stream_version_to_capabilities g v host sender) .DATA_WITH_ML) :
    H.has (H.convert_stream_version_to_capabilities g v host sender) .INTERPOLATED := by
  rw [convert_eq] at h ⊢
  split at h
  · simp at h
  · simp_all

/-- Whatever version a peer announces and whatever is disabled, the negotiated
mask is part of what we support, holds at most one framing version, and holds
`DATA_WITH_ML` only together with `INTERPOLATED`. -/
theorem convert_stream_version_to_capabilities_sound (H : StreamHeader) (g version : BitVec 32)
    (host : Option HostCaps) (sender : Bool) :
    H.convert_stream_version_to_capabilities g version host sender &&&
        H.stream_our_capabilities g host sender =
      H.convert_stream_version_to_capabilities g version host sender ∧
    H.framing_count (H.convert_stream_version_to_capabilities g version host sender) ≤ 1 ∧
    (H.has (H.convert_stream_version_to_capabilities g version host sender) .DATA_WITH_ML →
      H.has (H.convert_stream_version_to_capabilities g version host sender) .INTERPOLATED) :=
  ⟨convert_within_ours g version host sender, framing_count_convert_le g version host sender,
    has_interpolated_of_has_ml⟩

/-! ## The framing version that survives

The reductions run on the version's mask before the intersection with ours, so the only
framing version a negotiation can keep is the highest one the peer's mask holds: when we do
not support that one, none is kept, even where both sides share a lower one. -/

theorem find?_and_of_find? {p q : Cap → Bool} {l : List Cap} {c : Cap} (h : l.find? p = some c)
    (hq : q c) : l.find? (fun d => p d && q d) = some c := by
  induction l with
  | nil => simp at h
  | cons a l ih =>
    by_cases ha : p a
    · simp only [List.find?_cons, ha] at h
      cases h
      simp [ha, hq]
    · simp only [List.find?_cons, ha] at h
      simp [List.find?_cons, ha, ih h]

/-- The framing reductions keep exactly the highest framing version. -/
theorem has_strip_lower_versions_framing (x : BitVec 32) {c : Cap}
    (hc : c ∈ [Cap.V1, .V2, .VN, .VCAPS]) :
    H.has (H.strip_lower_versions x) c = decide (H.highest_framing x = some c) := by
  simp only [List.mem_cons, List.mem_singleton, List.not_mem_nil, or_false] at hc
  rw [has_strip_lower_versions]
  simp only [highest_framing, List.find?]
  rcases hc with rfl | rfl | rfl | rfl <;>
    by_cases h1 : H.has x .V1 <;> by_cases h2 : H.has x .V2 <;> by_cases h3 : H.has x .VN <;>
      by_cases h4 : H.has x .VCAPS <;> simp [h1, h2, h3, h4]

/-- A negotiated mask holds framing version `c` iff `c` is the highest one of the version's
mask and we support it. -/
theorem has_framing_convert (g v : BitVec 32) (host : Option HostCaps) (sender : Bool) {c : Cap}
    (hc : c ∈ [Cap.V1, .V2, .VN, .VCAPS]) :
    H.has (H.convert_stream_version_to_capabilities g v host sender) c =
      (decide (H.highest_framing (H.version_capabilities v) = some c) &&
        H.has (H.stream_our_capabilities g host sender) c) := by
  have hne : c ≠ .DATA_WITH_ML := by rintro rfl; simp at hc
  rw [has_convert_of_ne hne, has_strip_lower_versions_framing _ hc]

/-- When we support the highest framing version of the peer's mask, it is also the highest
one both sides share, and the negotiated mask keeps it. -/
theorem convert_keeps_highest_shared {g v : BitVec 32} {host : Option HostCaps} {sender : Bool}
    {c : Cap} (hv : H.highest_framing (H.version_capabilities v) = some c)
    (hours : H.has (H.stream_our_capabilities g host sender) c) :
    H.highest_framing (H.version_capabilities v &&& H.stream_our_capabilities g host sender) =
        some c ∧
      H.has (H.convert_stream_version_to_capabilities g v host sender) c := by
  have hc : c ∈ [Cap.V1, .V2, .VN, .VCAPS] := by
    have := List.mem_of_find?_eq_some hv
    simp only [List.mem_cons, List.mem_singleton, List.not_mem_nil, or_false] at this ⊢
    tauto
  refine ⟨?_, by rw [has_framing_convert _ _ _ _ hc, hv]; simpa using hours⟩
  simpa only [highest_framing, ← has_and] using find?_and_of_find? hv hours

/-! ## Both peers end with one mask -/

theorem getLsbD_of_strip_lower_versions {x : BitVec 32} {i : Nat}
    (h : (H.strip_lower_versions x).getLsbD i) : x.getLsbD i := by
  rw [getLsbD_strip_lower_versions] at h
  simp_all

theorem and_not_cap_of_not_has {x : BitVec 32} {c : Cap} (h : H.has x c = false) :
    x &&& ~~~H.cap c = x := by
  ext ⟨i, hi⟩
  simp only [BitVec.getLsbD_and, BitVec.getLsbD_not, getLsbD_cap, hi, decide_True, Bool.true_and]
  by_cases e : H.bit c = i
  · subst e; simp_all [has]
  · simp [e]

/-- Every bit we may support is a capability's bit. -/
theorem getLsbD_ours_bit {g : BitVec 32} {host : Option HostCaps} {sender : Bool} {i : Nat}
    (h : (H.stream_our_capabilities g host sender).getLsbD i) : ∃ c, H.bit c = i := by
  by_contra hne
  push_neg at hne
  have hc : ∀ c, (H.cap c).getLsbD i = false := fun c => by simp [getLsbD_cap, hne c]
  have ha : ∀ c, (H.available c).getLsbD i = false := fun c => by
    unfold available; split <;> simp [hc]
  have hd : (if H.NETDATA_TEST_DYNCFG then H.cap .DYNCFG else 0#32).getLsbD i = false := by
    split <;> simp [hc]
  unfold stream_our_capabilities STREAM_CAP_COMPRESSIONS_AVAILABLE at h
  simp [hc, ha, hd] at h

/-- A mask of capability bits is a positive `int32_t` above every legacy
version number, unless it is empty. -/
theorem lz4_lt_toInt {x : BitVec 32} (hx : ∀ i, x.getLsbD i → ∃ c, H.bit c = i) (h0 : x ≠ 0) :
    H.STREAM_OLD_VERSION_LZ4 < x.toInt := by
  obtain ⟨i, hi⟩ : ∃ i, x.getLsbD i := by
    by_contra hne
    push_neg at hne
    exact h0 (BitVec.eq_of_getLsbD_eq fun j => by simp [hne])
  obtain ⟨c, rfl⟩ := hx i hi
  have hge : 2 ^ H.bit c ≤ x.toNat := Nat.testBit_implies_ge hi
  have hlt : x.toNat < 2 ^ 31 := Nat.lt_pow_two_of_testBit _ fun j hj => by
    by_contra hb
    obtain ⟨c', rfl⟩ := hx j (by simpa using hb)
    exact absurd hj (Nat.not_le.2 (H.bit_lt c'))
  rw [BitVec.toInt_eq_toNat_cond, if_pos (by omega)]
  calc H.STREAM_OLD_VERSION_LZ4 < 2 ^ H.bit c := H.old_version_lt_bit c
    _ ≤ x.toNat := by exact_mod_cast hge

theorem version_capabilities_of_lz4_lt {v : BitVec 32} (h : H.STREAM_OLD_VERSION_LZ4 < v.toInt) :
    H.version_capabilities v = v := by
  obtain ⟨h1, h2, h3⟩ := H.old_versions_ordered
  unfold version_capabilities
  rw [if_neg (by omega), if_neg (by omega), if_neg (by omega), if_neg (by omega), if_neg (by omega)]

/-- The child sends its mask `C` as its version; the parent answers with
`P`, its own conversion of `C`; the child converts `P` against the same `C`.
When neither mask is empty, the child ends with `P`. -/
theorem negotiation_agrees (H : StreamHeader) (g_child g_parent : BitVec 32) (host : HostCaps)
    (hC : H.stream_our_capabilities g_child (some host) true ≠ 0)
    (hP : H.convert_stream_version_to_capabilities g_parent
      (H.stream_our_capabilities g_child (some host) true) none false ≠ 0) :
    H.convert_stream_version_to_capabilities g_child
        (H.convert_stream_version_to_capabilities g_parent
          (H.stream_our_capabilities g_child (some host) true) none false) (some host) true =
      H.convert_stream_version_to_capabilities g_parent
        (H.stream_our_capabilities g_child (some host) true) none false := by
  set C := H.stream_our_capabilities g_child (some host) true
  set P := H.convert_stream_version_to_capabilities g_parent C none false with hPdef
  have hvC : H.version_capabilities C = C :=
    version_capabilities_of_lz4_lt (lz4_lt_toInt (fun _ => getLsbD_ours_bit) hC)
  have hPC : ∀ i, P.getLsbD i → C.getLsbD i := fun i hi => by
    have := (getLsbD_convert hi).1
    rw [hvC] at this
    exact getLsbD_of_strip_lower_versions this
  have hvP : H.version_capabilities P = P :=
    version_capabilities_of_lz4_lt (lz4_lt_toInt (fun i hi => getLsbD_ours_bit (hPC i hi)) hP)
  have hPandC : P &&& C = P := by
    ext ⟨i, _⟩
    rw [BitVec.getLsbD_and]
    cases h : P.getLsbD i
    · rfl
    · simp [hPC i h]
  rw [convert_eq, hvP, strip_lower_versions_of_framing_count_le (framing_count_convert_le _ _ _ _),
    hPandC]
  split
  · rename_i hi
    refine and_not_cap_of_not_has ?_
    by_contra hml
    exact absurd (has_interpolated_of_has_ml (Bool.not_eq_false _ ▸ hml)) (by rw [← hPdef, hi]; simp)
  · rfl

/-! ## The answer to a legacy version -/

theorem has_available (c c' : Cap) :
    H.has (H.available c) c' = (H.compressor_built c && decide (c = c')) := by
  unfold available
  split
  · simp [*]
  · rw [Bool.not_eq_true] at *
    simp only [*, Bool.false_and]
    exact BitVec.getLsbD_zero

/-- We support LZ4 only in a build that has it. -/
theorem built_of_has_ours_lz4 {g : BitVec 32} {host : Option HostCaps} {sender : Bool}
    (h : H.has (H.stream_our_capabilities g host sender) .LZ4) : H.compressor_built .LZ4 := by
  have hd : H.has (if H.NETDATA_TEST_DYNCFG then H.cap .DYNCFG else 0#32) .LZ4 = false := by
    split
    · simp
    · exact BitVec.getLsbD_zero
  unfold stream_our_capabilities STREAM_CAP_COMPRESSIONS_AVAILABLE at h
  exact (by simpa [has_available, hd] using h : _ ∧ _).1

/-- A child announcing one of the legacy versions `STREAM_OLD_VERSION_CLAIM`, `_CLABELS` or
`_LZ4` gets back the highest of them that is not above its own and whose capability we
support: LZ4, chart labels, or the claim version in any case; so never a version above its
own. -/
theorem legacy_version_answer (H : StreamHeader) (g : BitVec 32) (host : Option HostCaps)
    (sender : Bool) {version : BitVec 32}
    (hdistinct : H.STREAM_OLD_VERSION_CLAIM < H.STREAM_OLD_VERSION_CLABELS ∧
      H.STREAM_OLD_VERSION_CLABELS < H.STREAM_OLD_VERSION_LZ4)
    (hv : version.toInt = H.STREAM_OLD_VERSION_CLAIM ∨
      version.toInt = H.STREAM_OLD_VERSION_CLABELS ∨ version.toInt = H.STREAM_OLD_VERSION_LZ4) :
    H.stream_capabilities_to_vn (H.convert_stream_version_to_capabilities g version host sender) =
      (if H.has (H.stream_our_capabilities g host sender) .LZ4 ∧
          H.STREAM_OLD_VERSION_LZ4 ≤ version.toInt then H.STREAM_OLD_VERSION_LZ4
        else if H.has (H.stream_our_capabilities g host sender) .CLABELS ∧
          H.STREAM_OLD_VERSION_CLABELS ≤ version.toInt then H.STREAM_OLD_VERSION_CLABELS
        else H.STREAM_OLD_VERSION_CLAIM) ∧
    H.stream_capabilities_to_vn (H.convert_stream_version_to_capabilities g version host sender) ≤
      version.toInt := by
  obtain ⟨h1, h2, h3⟩ := H.old_versions_ordered
  have hbuilt := @built_of_has_ours_lz4 H g host sender
  have hcaps : ∀ c, c = .LZ4 ∨ c = .CLABELS →
      H.has (H.convert_stream_version_to_capabilities g version host sender) c =
        (H.has (H.version_capabilities version) c && H.has (H.stream_our_capabilities g host sender) c) := by
    rintro c (rfl | rfl) <;> rw [has_convert_of_ne (by decide), has_strip_lower_versions] <;> simp
  unfold stream_capabilities_to_vn
  rw [hcaps _ (.inl rfl), hcaps _ (.inr rfl)]
  unfold version_capabilities
  rcases hv with hv | hv | hv <;> rw [hv] <;> simp (disch := omega) only [if_pos, if_neg] <;>
    simp only [has_or, has_cap, STREAM_CAP_LZ4_AVAILABLE, has_available]
  all_goals
    cases hl : H.has (H.stream_our_capabilities g host sender) .LZ4 <;>
      cases H.has (H.stream_our_capabilities g host sender) .CLABELS <;> simp [hl, hbuilt] <;> omega

/-! ## The capability text -/

theorem foldl_to_string (caps : BitVec 32) : ∀ (l : List (Cap × String)) (wb : String),
    (l.foldl (fun wb (cap, str) => if caps &&& H.cap cap ≠ 0 then wb ++ str ++ " " else wb)
        wb).toList = wb.toList ++ (l.filter fun p => H.has caps p.1).flatMap fun p => p.2.toList ++ [' ']
  | [], wb => by simp
  | (c, s) :: l, wb => by
    rw [List.foldl_cons, foldl_to_string caps l, List.filter_cons]
    simp only [ne_eq, and_cap_eq_zero_iff, Bool.not_eq_false]
    split <;> simp_all

theorem foldl_to_json_array (caps : BitVec 32) : ∀ (l : List (Cap × String)) (items : List String),
    l.foldl (fun items (cap, str) => if caps &&& H.cap cap ≠ 0 then items ++ [str] else items) items =
      items ++ (l.filter fun p => H.has caps p.1).map Prod.snd
  | [], items => by simp
  | (c, s) :: l, items => by
    rw [List.foldl_cons, foldl_to_json_array caps l, List.filter_cons]
    simp only [ne_eq, and_cap_eq_zero_iff, Bool.not_eq_false]
    split <;> simp_all

theorem getLsbD_foldl_or_cap : ∀ (l : List Cap) (acc : BitVec 32) (i : Nat),
    (l.foldl (· ||| H.cap ·) acc).getLsbD i = (acc.getLsbD i || l.any fun c => H.bit c = i)
  | [], acc, i => by simp
  | c :: l, acc, i => by
    rw [List.foldl_cons, getLsbD_foldl_or_cap l, BitVec.getLsbD_or, getLsbD_cap, List.any_cons,
      Bool.or_assoc]

/-- A text reads back to capability bits only. -/
theorem getLsbD_capabilities_of_text {s : String} {i : Nat}
    (h : (H.capabilities_of_text s).getLsbD i) : ∃ c, H.bit c = i := by
  have h0 : (0 : BitVec 32).getLsbD i = false := BitVec.getLsbD_zero
  simp only [capabilities_of_text, getLsbD_foldl_or_cap, h0, Bool.false_or, List.any_eq_true,
    decide_eq_true_eq] at h
  obtain ⟨c, -, hc⟩ := h
  exact ⟨c, hc⟩

theorem capabilities_of_text_names (l : List (Cap × String)) (hl : ∀ p ∈ l, p ∈ capability_names) :
    H.capabilities_of_text ⟨l.flatMap fun p => p.2.toList ++ [' ']⟩ =
      (l.map Prod.fst).foldl (· ||| H.cap ·) 0 := by
  have hsplit : (l.flatMap fun p => p.2.toList ++ [' ']).splitOn ' ' = l.map (·.2.toList) ++ [[]] := by
    rw [← @splitOn_flatMap_sep ' ' (l.map (·.2.toList)) fun w hw => by
      obtain ⟨p, hp, rfl⟩ := List.mem_map.1 hw
      exact space_not_mem_name p (hl p hp), List.flatMap_map]
  rw [capabilities_of_text, String.toList, hsplit, List.filterMap_append, List.filterMap_map]
  simp only [List.filterMap_cons, List.filterMap_nil, capability_named_nil, List.append_nil]
  exact congrArg _ (List.filterMap_eq_map_iff_forall_eq_some.2 fun p hp =>
    capability_named_name p (hl p hp))

theorem stream_capabilities_to_string_toList (caps : BitVec 32) :
    (H.stream_capabilities_to_string caps).toList =
      (capability_names.filter fun p => H.has caps p.1).flatMap fun p => p.2.toList ++ [' '] := by
  rw [stream_capabilities_to_string, foldl_to_string]
  rfl

theorem stream_capabilities_to_json_array_eq (caps : BitVec 32) :
    H.stream_capabilities_to_json_array caps =
      (capability_names.filter fun p => H.has caps p.1).map Prod.snd := by
  rw [stream_capabilities_to_json_array, foldl_to_json_array]
  rfl

theorem has_capabilities_of_text_to_string (caps : BitVec 32) (c : Cap) :
    H.has (H.capabilities_of_text (H.stream_capabilities_to_string caps)) c =
      (H.has caps c && c != .INVALID) := by
  have e : H.stream_capabilities_to_string caps = ⟨(H.stream_capabilities_to_string caps).toList⟩ := rfl
  rw [e, stream_capabilities_to_string_toList,
    capabilities_of_text_names _ fun p hp => (List.mem_filter.1 hp).1, has, getLsbD_foldl_or_cap]
  have h0 : (0 : BitVec 32).getLsbD (H.bit c) = false := BitVec.getLsbD_zero
  rw [h0, Bool.false_or, Bool.eq_iff_iff]
  simp only [List.any_map, List.any_eq_true, List.mem_filter, Function.comp, decide_eq_true_eq,
    List.mem_map, exists_eq_right, H.bit_injective.eq_iff, Bool.and_eq_true, bne_iff_ne, ne_eq,
    ← mem_capability_names]
  constructor
  · rintro ⟨p, ⟨hp, hc⟩, rfl⟩
    exact ⟨hc, p, hp, rfl⟩
  · rintro ⟨hc, p, hp, rfl⟩
    exact ⟨p, ⟨hp, hc⟩, rfl⟩

/-- A negotiated mask reads back from its text. -/
theorem capabilities_of_text_convert (g v : BitVec 32) (host : Option HostCaps) (sender : Bool) :
    H.capabilities_of_text (H.stream_capabilities_to_string
        (H.convert_stream_version_to_capabilities g v host sender)) =
      H.convert_stream_version_to_capabilities g v host sender := by
  ext ⟨i, _⟩
  by_cases hb : ∃ c, H.bit c = i
  · obtain ⟨c, rfl⟩ := hb
    show H.has _ c = H.has _ c
    rw [has_capabilities_of_text_to_string]
    by_cases hc : c = .INVALID
    · rw [hc, has_convert_invalid]
      rfl
    · simp [hc]
  · rw [Bool.eq_iff_iff]
    exact ⟨fun h => absurd (getLsbD_capabilities_of_text h) hb,
      fun h => absurd (getLsbD_ours_bit (getLsbD_convert h).2) hb⟩

/-- The capability text lists, each followed by a space, the items of the JSON array; read
back, it gives every capability of the mask that has a name, and a negotiated mask exactly. -/
theorem capabilities_text_round_trip (H : StreamHeader) (caps : BitVec 32) :
    (H.stream_capabilities_to_string caps).toList =
      (H.stream_capabilities_to_json_array caps).flatMap (·.toList ++ [' ']) ∧
    (∀ c, H.has (H.capabilities_of_text (H.stream_capabilities_to_string caps)) c =
      (H.has caps c && c != .INVALID)) ∧
    ∀ (g v : BitVec 32) (host : Option HostCaps) (sender : Bool),
      H.capabilities_of_text (H.stream_capabilities_to_string
          (H.convert_stream_version_to_capabilities g v host sender)) =
        H.convert_stream_version_to_capabilities g v host sender := by
  refine ⟨?_, has_capabilities_of_text_to_string caps, capabilities_of_text_convert⟩
  rw [stream_capabilities_to_string_toList, stream_capabilities_to_json_array_eq, List.flatMap_map]

/-! ## What a legacy version negotiates -/

/-- Apart from `DATA_WITH_ML`, a negotiated mask holds only what the version stands for. -/
theorem has_version_of_has_convert {g v : BitVec 32} {host : Option HostCaps} {sender : Bool}
    {c : Cap} (hml : c ≠ .DATA_WITH_ML)
    (h : H.has (H.convert_stream_version_to_capabilities g v host sender) c) :
    H.has (H.version_capabilities v) c := by
  rw [has_convert_of_ne hml, has_strip_lower_versions] at h
  simp_all

theorem has_version_capabilities_legacy {v : BitVec 32} (hv : v.toInt ≤ H.STREAM_OLD_VERSION_LZ4)
    {c : Cap} (hc : c ∉ [Cap.V1, .V2, .VN, .HLABELS, .CLAIM, .CLABELS, .LZ4]) :
    H.has (H.version_capabilities v) c = false := by
  simp only [List.mem_cons, List.mem_singleton, List.not_mem_nil, or_false, not_or] at hc
  obtain ⟨h1, h2, h3, h4, h5, h6, h7⟩ := hc
  unfold version_capabilities
  repeat' split
  all_goals first
    | omega
    | simp only [has_or, has_cap, STREAM_CAP_LZ4_AVAILABLE, has_available, Ne.symm h1, Ne.symm h2,
        Ne.symm h3, Ne.symm h4, Ne.symm h5, Ne.symm h6, Ne.symm h7, decide_False, Bool.or_false,
        Bool.and_false]

/-- A mask negotiated from a legacy version holds only the capabilities legacy versions stand for. -/
theorem has_convert_legacy {g v : BitVec 32} {host : Option HostCaps} {sender : Bool}
    (hv : v.toInt ≤ H.STREAM_OLD_VERSION_LZ4) {c : Cap}
    (hc : c ∉ [Cap.V1, .V2, .VN, .HLABELS, .CLAIM, .CLABELS, .LZ4]) :
    H.has (H.convert_stream_version_to_capabilities g v host sender) c = false := by
  have hne : ∀ c, c ≠ .DATA_WITH_ML → c ∉ [Cap.V1, .V2, .VN, .HLABELS, .CLAIM, .CLABELS, .LZ4] →
      H.has (H.convert_stream_version_to_capabilities g v host sender) c = false :=
    fun c hml hc => Bool.eq_false_iff.2 fun h =>
      absurd (has_version_of_has_convert hml h) (by rw [has_version_capabilities_legacy hv hc]; decide)
  by_cases hml : c = .DATA_WITH_ML
  · subst hml
    by_contra h
    exact absurd (has_interpolated_of_has_ml (Bool.not_eq_false _ ▸ h)) (by
      rw [hne .INTERPOLATED (by decide) (by decide)]; decide)
  · exact hne c hml hc

end StreamHeader

/-- A header that lays the bits out in the order of `capability_names` from
bit 3, with `STREAM_CAP_INVALID` at bit 30, old versions 3, 4 and 5, and every
compressor built. -/
def StreamHeader.tableOrder : StreamHeader where
  bit
    | .V1 => 3 | .V2 => 4 | .VN => 5 | .VCAPS => 6 | .HLABELS => 7 | .CLAIM => 8
    | .CLABELS => 9 | .LZ4 => 10 | .FUNCTIONS => 11 | .REPLICATION => 12 | .BINARY => 13
    | .INTERPOLATED => 14 | .IEEE754 => 15 | .DATA_WITH_ML => 16 | .DYNCFG => 17
    | .SLOTS => 18 | .ZSTD => 19 | .GZIP => 20 | .BROTLI => 21 | .INVALID => 30
  bit_injective := by decide
  bit_lt c := by cases c <;> decide
  STREAM_OLD_VERSION_CLAIM := 3
  STREAM_OLD_VERSION_CLABELS := 4
  STREAM_OLD_VERSION_LZ4 := 5
  old_version_lt_bit c := by cases c <;> decide
  old_versions_ordered := by decide
  compressor_built _ := true
  NETDATA_TEST_DYNCFG := false

/-- A child with every default, a parent with every default: both end with the
same mask. -/
theorem negotiation_agrees_by_default :
    StreamHeader.tableOrder.stream_our_capabilities 0 (some ⟨true, true, none⟩) true ≠ 0 ∧
    StreamHeader.tableOrder.convert_stream_version_to_capabilities 0
      (StreamHeader.tableOrder.stream_our_capabilities 0 (some ⟨true, true, none⟩) true)
      none false ≠ 0 ∧
    StreamHeader.tableOrder.convert_stream_version_to_capabilities 0
        (StreamHeader.tableOrder.convert_stream_version_to_capabilities 0
          (StreamHeader.tableOrder.stream_our_capabilities 0 (some ⟨true, true, none⟩) true)
          none false) (some ⟨true, true, none⟩) true =
      StreamHeader.tableOrder.convert_stream_version_to_capabilities 0
        (StreamHeader.tableOrder.stream_our_capabilities 0 (some ⟨true, true, none⟩) true)
        none false :=
  ⟨by decide, by decide, StreamHeader.negotiation_agrees _ _ _ _ (by decide) (by decide)⟩

/-- A child announcing version 5, the LZ4 version of `tableOrder`, to a parent with every
default gets 5 back. -/
theorem legacy_version_answer_lz4_child :
    (StreamHeader.tableOrder.STREAM_OLD_VERSION_CLAIM <
        StreamHeader.tableOrder.STREAM_OLD_VERSION_CLABELS ∧
      StreamHeader.tableOrder.STREAM_OLD_VERSION_CLABELS <
        StreamHeader.tableOrder.STREAM_OLD_VERSION_LZ4) ∧
    (5#32).toInt = StreamHeader.tableOrder.STREAM_OLD_VERSION_LZ4 ∧
    StreamHeader.tableOrder.stream_capabilities_to_vn
        (StreamHeader.tableOrder.convert_stream_version_to_capabilities 0 5#32 none false) =
      (if StreamHeader.tableOrder.has (StreamHeader.tableOrder.stream_our_capabilities 0 none false)
            .LZ4 ∧ StreamHeader.tableOrder.STREAM_OLD_VERSION_LZ4 ≤ (5#32).toInt
        then StreamHeader.tableOrder.STREAM_OLD_VERSION_LZ4
        else if StreamHeader.tableOrder.has
            (StreamHeader.tableOrder.stream_our_capabilities 0 none false) .CLABELS ∧
          StreamHeader.tableOrder.STREAM_OLD_VERSION_CLABELS ≤ (5#32).toInt
        then StreamHeader.tableOrder.STREAM_OLD_VERSION_CLABELS
        else StreamHeader.tableOrder.STREAM_OLD_VERSION_CLAIM) ∧
    StreamHeader.tableOrder.stream_capabilities_to_vn
        (StreamHeader.tableOrder.convert_stream_version_to_capabilities 0 5#32 none false) ≤
      (5#32).toInt :=
  ⟨by decide, by decide, StreamHeader.legacy_version_answer _ _ _ _ (by decide) (.inr (.inr (by decide)))⟩

/-- A peer announces `VN | V2` to a side with every default: `VN` is kept. -/
theorem convert_keeps_vn :
    StreamHeader.tableOrder.highest_framing (StreamHeader.tableOrder.version_capabilities
        (StreamHeader.tableOrder.cap .VN ||| StreamHeader.tableOrder.cap .V2)) = some .VN ∧
    StreamHeader.tableOrder.has (StreamHeader.tableOrder.stream_our_capabilities 0 none false) .VN ∧
    StreamHeader.tableOrder.highest_framing (StreamHeader.tableOrder.version_capabilities
        (StreamHeader.tableOrder.cap .VN ||| StreamHeader.tableOrder.cap .V2) &&&
        StreamHeader.tableOrder.stream_our_capabilities 0 none false) = some .VN ∧
      StreamHeader.tableOrder.has (StreamHeader.tableOrder.convert_stream_version_to_capabilities 0
        (StreamHeader.tableOrder.cap .VN ||| StreamHeader.tableOrder.cap .V2) none false) .VN :=
  ⟨by decide, by decide, StreamHeader.convert_keeps_highest_shared (by decide) (by decide)⟩

/-- A peer announces `VCAPS | VN`; this side has `VCAPS` disabled. Both support `VN`, the
highest framing version they share, yet the reductions strip it before the intersection and
the negotiated mask holds no framing version. -/
theorem vcaps_strips_shared_framing :
    StreamHeader.tableOrder.highest_framing
        (StreamHeader.tableOrder.version_capabilities
            (StreamHeader.tableOrder.cap .VCAPS ||| StreamHeader.tableOrder.cap .VN) &&&
          StreamHeader.tableOrder.stream_our_capabilities
            (StreamHeader.tableOrder.cap .VCAPS) none false) = some .VN ∧
    StreamHeader.tableOrder.framing_count
        (StreamHeader.tableOrder.convert_stream_version_to_capabilities
          (StreamHeader.tableOrder.cap .VCAPS)
          (StreamHeader.tableOrder.cap .VCAPS ||| StreamHeader.tableOrder.cap .VN) none false) = 0 := by
  decide

/-- A parent that disables every capability answers the empty mask; the
child reads it as the legacy version 0, takes `V1`, and keeps it. -/
theorem negotiation_disagrees_on_empty_answer :
    StreamHeader.tableOrder.convert_stream_version_to_capabilities 0
        (StreamHeader.tableOrder.convert_stream_version_to_capabilities (~~~0)
          (StreamHeader.tableOrder.stream_our_capabilities 0 (some ⟨true, true, none⟩) true)
          none false) (some ⟨true, true, none⟩) true ≠
      StreamHeader.tableOrder.convert_stream_version_to_capabilities (~~~0)
        (StreamHeader.tableOrder.stream_our_capabilities 0 (some ⟨true, true, none⟩) true)
        none false := by
  decide

end Netdata.Stream
