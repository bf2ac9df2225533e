import Mathlib.Data.List.Basic
import Mathlib.Algebra.Group.Nat.Basic
/-!
# The values the diskspace collector charts

`calculate_values_and_show_charts` (`src/collectors/diskspace.plugin/plugin_diskspace.c`):
from one `statvfs` result, the block and inode counts of a mount point, and the two charts
(`disk_space`, `disk_inodes`) they are stored in. `fsblkcnt_t` and `fsfilcnt_t` are unsigned
64-bit counters, so the differences are taken modulo `2^64`; a value is stored as a
`collected_number`, the signed reading of the same 64 bits.

- `calculate_exact`: on a consistent `statvfs` (free below total, available below free) with
  counts below `2^63`, every value the call stores is the plain difference, so
  `charted_values_nonneg` (`Rounds`) holds over every run whose answers are consistent.
- `reserved_wraps_after_first_chart`: the first chart turns `do_space` to YES, and from then on
  an `f_bavail` above `f_bfree` is charted as a negative `reserved_for_root`, and an
  unsupported-inodes answer (`f_favail == (fsfilcnt_t)-1`) as a negative `avail`.
-/

namespace Netdata.Diskspace

/-- `CONFIG_BOOLEAN_NO`, `CONFIG_BOOLEAN_YES`, `CONFIG_BOOLEAN_AUTO`. -/
inductive CONFIG_BOOLEAN where
  | NO | YES | AUTO
  deriving DecidableEq, Repr

/-- The fields of `struct statvfs` the collector reads. -/
structure statvfs where
  f_bsize : BitVec 64
  f_frsize : BitVec 64
  f_blocks : BitVec 64
  f_bfree : BitVec 64
  f_bavail : BitVec 64
  f_files : BitVec 64
  f_ffree : BitVec 64
  f_favail : BitVec 64
  deriving DecidableEq, Repr

/-- A chart of one mount point: its `update_every`, the multiplier of its dimensions, and the
values `rrddim_set_by_pointer` last gave its `avail`, `used` and `reserved_for_root`. -/
structure RRDSET where
  update_every : Int
  multiplier : Int
  avail : Int
  used : Int
  reserved : Int
  deriving DecidableEq, Repr

/-- A `STRING *` field of an entry: `NULL`, or a string and the references the entry holds
through the field. -/
inductive STRING_PTR where
  | NULL
  | ref (s : String) (held : Int)
  deriving DecidableEq, Repr

/-- `string_strdupz`: the string, with one reference. -/
def string_strdupz (s : String) : STRING_PTR := .ref s 1

/-- `string_freez`: one reference given back, the pointer left as it was; `NULL` is left alone.
-/
def string_freez : STRING_PTR → STRING_PTR
  | .NULL => .NULL
  | .ref s held => .ref s (held - 1)

/-- `string2str`: the text the pointer leads to, empty for `NULL`. -/
def string2str : STRING_PTR → String
  | .NULL => ""
  | .ref s _ => s

/-- `struct mount_point_metadata`, but for its chart labels; the `rd_*` dimensions live and
die with their chart, so they are the chart's three values. -/
structure mount_point_metadata where
  do_space : CONFIG_BOOLEAN
  do_inodes : CONFIG_BOOLEAN
  shown_error : Bool
  updated : Bool
  slow : Bool
  function_ready : Bool
  filesystem : STRING_PTR
  mountroot : STRING_PTR
  collected : Nat
  st_space : Option RRDSET
  st_inodes : Option RRDSET
  deriving DecidableEq, Repr

/-- `(collected_number)x`: the signed reading of an unsigned counter. -/
def collected_number (x : BitVec 64) : Int := x.toInt

section Code

-- `netdata_zero_metrics_enabled == CONFIG_BOOLEAN_YES`.
variable (zero_metrics : Bool)

/-- One of the two chart blocks of `calculate_values_and_show_charts`, for its `do_*` setting,
its chart and its three values: whether it renders, and the setting and chart it leaves. A
missing chart, or one of another `update_every`, is found or created anew
(`rrdset_find_active_bytype_localhost`, `rrdset_create_localhost`) and the setting becomes YES.
-/
def show_group (update_every multiplier : Int) (do_group : CONFIG_BOOLEAN) (st : Option RRDSET)
    (avail used reserved : BitVec 64) : Bool × CONFIG_BOOLEAN × Option RRDSET :=
  if do_group = .YES ∨
      do_group = .AUTO ∧ (avail ≠ 0 ∨ reserved ≠ 0 ∨ used ≠ 0 ∨ zero_metrics = true) then
    let (do_group, st) :=
      match st with
      | some st => if st.update_every = update_every then (do_group, st)
        else (.YES, ⟨update_every, multiplier, 0, 0, 0⟩)
      | none => (.YES, ⟨update_every, multiplier, 0, 0, 0⟩)
    (true, do_group, some { st with
      avail := collected_number avail, used := collected_number used,
      reserved := collected_number reserved })
  else (false, do_group, st)

def calculate_values_and_show_charts (m : mount_point_metadata) (buff_statvfs : statvfs)
    (update_every : Int) : mount_point_metadata :=
  let bsize := if buff_statvfs.f_frsize ≠ 0 then buff_statvfs.f_frsize else buff_statvfs.f_bsize
  let bavail := buff_statvfs.f_bavail
  let btotal := buff_statvfs.f_blocks
  let bavail_root := buff_statvfs.f_bfree
  let breserved_root := bavail_root - bavail
  let bused := if btotal ≥ bavail_root then btotal - bavail_root else bavail_root - btotal
  let favail := buff_statvfs.f_favail
  let ftotal := buff_statvfs.f_files
  let favail_root := buff_statvfs.f_ffree
  let freserved_root := favail_root - favail
  let fused := ftotal - favail_root
  let do_inodes := if m.do_inodes = .AUTO ∧ favail = -1 then .NO else m.do_inodes
  let (space_rendered, do_space, st_space) :=
    show_group zero_metrics update_every (collected_number bsize) m.do_space m.st_space
      bavail bused breserved_root
  let (inodes_rendered, do_inodes, st_inodes) :=
    show_group zero_metrics update_every 1 do_inodes m.st_inodes favail fused freserved_root
  let rendered := space_rendered || inodes_rendered
  { m with
    do_space, do_inodes, st_space, st_inodes
    function_ready := rendered
    collected := if rendered then m.collected + 1 else m.collected }

end Code

/-! ## Consistent counts are charted exactly -/

/-- A `statvfs` answer that adds up: available blocks below free ones, available inodes below
free ones below the total, and every count below `2^63`, where a `collected_number` reads the
counter back. -/
def statvfs.consistent (b : statvfs) : Prop :=
  b.f_bavail ≤ b.f_bfree ∧ b.f_favail ≤ b.f_ffree ∧ b.f_ffree ≤ b.f_files ∧
    b.f_blocks.toNat < 2 ^ 63 ∧ b.f_bfree.toNat < 2 ^ 63 ∧ b.f_files.toNat < 2 ^ 63

instance (b : statvfs) : Decidable b.consistent := inferInstanceAs (Decidable (_ ∧ _))

theorem collected_number_of_lt {x : BitVec 64} (h : x.toNat < 2 ^ 63) :
    collected_number x = x.toNat := by
  rw [collected_number, BitVec.toInt_eq_toNat_cond, if_pos (by omega)]

/-- A group that renders stores its three values; one that does not keeps its chart. -/
theorem show_group_chart (zero_metrics : Bool) (update_every multiplier : Int)
    (do_group : CONFIG_BOOLEAN) (st : Option RRDSET) (avail used reserved : BitVec 64) :
    (show_group zero_metrics update_every multiplier do_group st avail used reserved).2.2 = st ∨
      ∃ c : RRDSET,
        (show_group zero_metrics update_every multiplier do_group st avail used reserved).2.2 =
          some { c with avail := collected_number avail, used := collected_number used,
                        reserved := collected_number reserved } := by
  unfold show_group
  split
  · exact .inr ⟨_, rfl⟩
  · exact .inl rfl

/-- A group that does not render keeps its chart. -/
theorem show_group_kept {zero_metrics : Bool} {update_every multiplier : Int}
    {do_group : CONFIG_BOOLEAN} {st : Option RRDSET} {avail used reserved : BitVec 64}
    (h : (show_group zero_metrics update_every multiplier do_group st avail used reserved).1 = false) :
    (show_group zero_metrics update_every multiplier do_group st avail used reserved).2.2 = st := by
  unfold show_group at h ⊢
  split
  · rw [if_pos ‹_›] at h; cases h
  · rfl

variable {zero_metrics : Bool}

theorem calculate_exact (m : mount_point_metadata) (b : statvfs) (update_every : Int)
    (hb : b.consistent) :
    let m' := calculate_values_and_show_charts zero_metrics m b update_every
    (m'.st_space = m.st_space ∨ ∃ c : RRDSET, m'.st_space = some { c with
        avail := b.f_bavail.toNat, used := ((b.f_blocks.toNat : Int) - b.f_bfree.toNat).natAbs,
        reserved := ((b.f_bfree.toNat - b.f_bavail.toNat : Nat) : Int) }) ∧
    (m'.st_inodes = m.st_inodes ∨ ∃ c : RRDSET, m'.st_inodes = some { c with
        avail := b.f_favail.toNat, used := ((b.f_files.toNat - b.f_ffree.toNat : Nat) : Int),
        reserved := ((b.f_ffree.toNat - b.f_favail.toNat : Nat) : Int) }) := by
  obtain ⟨hba, hfa, hff, hbl, hbf, hfi⟩ := hb
  rw [BitVec.le_def] at hba hfa hff
  have hused : collected_number
      (if b.f_blocks ≥ b.f_bfree then b.f_blocks - b.f_bfree else b.f_bfree - b.f_blocks) =
      (((b.f_blocks.toNat : Int) - b.f_bfree.toNat).natAbs : Int) := by
    split <;> rename_i h <;> simp only [ge_iff_le, BitVec.le_def] at h
    · rw [collected_number_of_lt (by rw [BitVec.toNat_sub_of_le (BitVec.le_def.2 h)]; omega),
        BitVec.toNat_sub_of_le (BitVec.le_def.2 h)]
      omega
    · rw [collected_number_of_lt (by rw [BitVec.toNat_sub_of_le (BitVec.le_def.2 (by omega))]; omega),
        BitVec.toNat_sub_of_le (BitVec.le_def.2 (by omega))]
      omega
  have hsub : ∀ {x y : BitVec 64}, y.toNat ≤ x.toNat → x.toNat < 2 ^ 63 →
      collected_number (x - y) = ((x.toNat - y.toNat : Nat) : Int) := fun h hx => by
    rw [collected_number_of_lt (by rw [BitVec.toNat_sub_of_le (BitVec.le_def.2 h)]; omega),
      BitVec.toNat_sub_of_le (BitVec.le_def.2 h)]
  refine ⟨?_, ?_⟩
  · rcases show_group_chart zero_metrics update_every _ m.do_space m.st_space b.f_bavail
      _ (b.f_bfree - b.f_bavail) with h | ⟨c, h⟩
    · exact .inl h
    · refine .inr ⟨c, ?_⟩
      rw [show (calculate_values_and_show_charts zero_metrics m b update_every).st_space = _ from h,
        hused, hsub hba hbf, collected_number_of_lt (by omega)]
  · rcases show_group_chart zero_metrics update_every 1 _ m.st_inodes b.f_favail
      (b.f_files - b.f_ffree) (b.f_ffree - b.f_favail) with h | ⟨c, h⟩
    · exact .inl h
    · refine .inr ⟨c, ?_⟩
      rw [show (calculate_values_and_show_charts zero_metrics m b update_every).st_inodes = _ from h,
        hsub hff hfi, hsub hfa (by omega), collected_number_of_lt (by omega)]

/-- Every value a chart holds is non-negative. -/
def RRDSET.nonneg (c : RRDSET) : Prop := 0 ≤ c.avail ∧ 0 ≤ c.used ∧ 0 ≤ c.reserved

/-- The charts of a mount point hold no negative value. -/
def charts_nonneg (m : mount_point_metadata) : Prop :=
  (∀ c, m.st_space = some c → c.nonneg) ∧ (∀ c, m.st_inodes = some c → c.nonneg)

theorem calculate_nonneg {m : mount_point_metadata} {b : statvfs} (update_every : Int)
    (hb : b.consistent) (hm : charts_nonneg m) :
    charts_nonneg (calculate_values_and_show_charts zero_metrics m b update_every) := by
  obtain ⟨hs, hi⟩ := calculate_exact m b update_every hb
  refine ⟨fun c hc => ?_, fun c hc => ?_⟩
  · rcases hs with h | ⟨c', h⟩
    · exact hm.1 c (h ▸ hc)
    · cases h.symm.trans hc; exact ⟨Int.ofNat_zero_le _, Int.ofNat_zero_le _, Int.ofNat_zero_le _⟩
  · rcases hi with h | ⟨c', h⟩
    · exact hm.2 c (h ▸ hc)
    · cases h.symm.trans hc; exact ⟨Int.ofNat_zero_le _, Int.ofNat_zero_le _, Int.ofNat_zero_le _⟩

/-! ## Once a chart exists -/

/-- A mount point as `do_disk_space_stats` first stores it, with the default AUTO settings. -/
def fresh_mount_point : mount_point_metadata :=
  ⟨.AUTO, .AUTO, false, false, false, false, string_strdupz "ext4", string_strdupz "/", 0, none,
    none⟩

/-- 40 of 100 blocks available, 50 free; 5 of 10 inodes free and available. -/
def first_statvfs : statvfs := ⟨4096, 0, 100, 50, 40, 10, 5, 5⟩

/-- One available block more than free ones, and inodes reported as unsupported. -/
def inconsistent_statvfs : statvfs := ⟨4096, 0, 100, 0, 1, 10, 5, -1⟩

theorem reserved_wraps_after_first_chart :
    (calculate_values_and_show_charts false fresh_mount_point first_statvfs 1).do_space = .YES ∧
    (calculate_values_and_show_charts false fresh_mount_point first_statvfs 1).do_inodes = .YES ∧
    ((calculate_values_and_show_charts false
        (calculate_values_and_show_charts false fresh_mount_point first_statvfs 1)
        inconsistent_statvfs 1).st_space.map RRDSET.reserved = some (-1)) ∧
    ((calculate_values_and_show_charts false
        (calculate_values_and_show_charts false fresh_mount_point first_statvfs 1)
        inconsistent_statvfs 1).st_inodes.map RRDSET.avail = some (-1)) := by
  decide

end Netdata.Diskspace
