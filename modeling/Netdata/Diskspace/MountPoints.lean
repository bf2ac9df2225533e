import Netdata.Diskspace.Rounds
import Mathlib.Algebra.Order.Field.Rat
import Mathlib.Algebra.Order.Field.Basic
import Mathlib.Tactic.Linarith
import Mathlib.Tactic.Ring
/-!
# The `mount-points` function

`diskspace_function_mount_points` (`src/collectors/diskspace.plugin/plugin_diskspace.c`) answers
the `mount-points` function with a table: a row for each entry of `dict_mountpoints` that has
rendered a chart (`function_ready`), in the dictionary's order, and for each numeric column the
largest value, which the table gives the column's bar as its `max`. A row reads the charts
with `rrddim_get_last_stored_value`, which is database code, not in the source: `NAN` for a
missing dimension, else the value last stored, which also raises the column's maximum. An
`RRD_ALGORITHM_ABSOLUTE` dimension stores the collected number times its multiplier over its
divisor. A `NETDATA_DOUBLE` is a rational here, `NAN` is `none`, and every conversion and
operation rounds its exact result within a relative error `eps` (`DoubleRounding`).

- `mount_points_table`: the rows are the `function_ready` entries in dictionary order, and the
  `max` of each numeric column is the largest of 0 and the column's numbers.
- `utilization_within_percent`: when no chart holds a negative value, which
  `charted_values_nonneg` shows of every run whose `statvfs` answers add up, every `Used%` and
  `iUsed%` of the table, and the `max` of both columns, lie between 0 and 100, up to the
  rounding of the product, the sum and the quotient that compute them.
-/

namespace Netdata.Diskspace

/-! ## Doubles -/

/-- The rounding of `NETDATA_DOUBLE` arithmetic: each conversion of an integer and each `+`, `*`
and `/` gives its exact result rounded by `fl`, within a relative error `eps` below 1, as
rounding to the nearest double does with `eps = 2^-53` between the smallest and the largest
normal double. -/
structure DoubleRounding where
  fl : ℚ → ℚ
  eps : ℚ
  eps_lt_one : eps < 1
  rel_err : ∀ x, |fl x - x| ≤ eps * |x|

/-- No rounding at all. -/
def DoubleRounding.exact : DoubleRounding :=
  ⟨id, 0, zero_lt_one, fun x => le_of_eq (by rw [id, sub_self, abs_zero, zero_mul])⟩

namespace DoubleRounding

variable (R : DoubleRounding)

theorem eps_nonneg : 0 ≤ R.eps := by
  simpa using (abs_nonneg _).trans (R.rel_err 1)

theorem one_sub_eps_nonneg : 0 ≤ 1 - R.eps := sub_nonneg.2 R.eps_lt_one.le

/-- A rounded value is its exact value times a factor between `1 - eps` and `1 + eps`. -/
theorem exists_fl_eq_mul (x : ℚ) : ∃ r, 1 - R.eps ≤ r ∧ r ≤ 1 + R.eps ∧ R.fl x = r * x := by
  rcases eq_or_ne x 0 with rfl | hx
  · have h0 := R.rel_err 0
    rw [sub_zero, abs_zero, mul_zero, abs_nonpos_iff] at h0
    exact ⟨1, sub_le_self _ R.eps_nonneg, le_add_of_nonneg_right R.eps_nonneg, by
      rw [h0, mul_zero]⟩
  · have h : |R.fl x / x - 1| ≤ R.eps := by
      rw [div_sub_one hx, abs_div, div_le_iff₀ (abs_pos.2 hx)]
      exact R.rel_err x
    obtain ⟨h₁, h₂⟩ := abs_sub_le_iff.1 h
    exact ⟨R.fl x / x, sub_le_comm.1 h₂, sub_le_iff_le_add'.1 h₁, (div_mul_cancel₀ _ hx).symm⟩

theorem fl_nonneg {x : ℚ} (hx : 0 ≤ x) : 0 ≤ R.fl x := by
  obtain ⟨r, hr, -, e⟩ := R.exists_fl_eq_mul x
  rw [e]
  exact mul_nonneg (R.one_sub_eps_nonneg.trans hr) hx

theorem fl_nonpos {x : ℚ} (hx : x ≤ 0) : R.fl x ≤ 0 := by
  obtain ⟨r, hr, -, e⟩ := R.exists_fl_eq_mul x
  rw [e]
  exact mul_nonpos_of_nonneg_of_nonpos (R.one_sub_eps_nonneg.trans hr) hx

theorem fl_le {x : ℚ} (hx : 0 ≤ x) : R.fl x ≤ (1 + R.eps) * x := by
  obtain ⟨r, -, hr, e⟩ := R.exists_fl_eq_mul x
  rw [e]
  exact mul_le_mul_of_nonneg_right hr hx

theorem le_fl {x : ℚ} (hx : 0 ≤ x) : (1 - R.eps) * x ≤ R.fl x := by
  obtain ⟨r, hr, -, e⟩ := R.exists_fl_eq_mul x
  rw [e]
  exact mul_le_mul_of_nonneg_right hr hx

/-- Rounding keeps the sign: two numbers of one sign round to two numbers of one sign. -/
theorem mul_fl_nonneg {x y : ℚ} (h : 0 ≤ x * y) : 0 ≤ R.fl x * R.fl y := by
  obtain ⟨r, hr, -, ex⟩ := R.exists_fl_eq_mul x
  obtain ⟨s, hs, -, ey⟩ := R.exists_fl_eq_mul y
  calc 0 ≤ r * s * (x * y) :=
        mul_nonneg (mul_nonneg (R.one_sub_eps_nonneg.trans hr) (R.one_sub_eps_nonneg.trans hs)) h
    _ = R.fl x * R.fl y := by rw [ex, ey]; ring

end DoubleRounding

/-! ## The table -/

section Table

variable (R : DoubleRounding)

/-- `rd->collector.last_stored_value` of an `RRD_ALGORITHM_ABSOLUTE` dimension of `st` with
divisor `divisor`, once `rrdset_done` has stored the collected number `collected`:
`(NETDATA_DOUBLE)collected * (NETDATA_DOUBLE)multiplier / (NETDATA_DOUBLE)divisor`. -/
def last_stored_value (st : RRDSET) (divisor : Int) (collected : Int) : ℚ :=
  R.fl (R.fl (R.fl collected * R.fl st.multiplier) / R.fl divisor)

/-- `MAX(max, value)` when `value` is a number; `NAN` leaves `max` as it is. -/
def raise_max (max_value : ℚ) : Option ℚ → ℚ
  | none => max_value
  | some value => max max_value value

/-- `rrddim_get_last_stored_value(rd, &max, 1.0)`: the dimension's value, `NAN` when it is
missing, and `max` raised by it; the value is divided by 1.0, which leaves a double as it is. -/
def rrddim_get_last_stored_value (rd : Option ℚ) (max_value : ℚ) : Option ℚ × ℚ :=
  (rd, raise_max max_value rd)

/-- The utilisation of a chart: `NAN` unless avail and used are numbers, else
`used * 100.0 / (avail + used)`, or 0 when the sum is not positive. -/
def utilization : Option ℚ → Option ℚ → Option ℚ
  | some avail, some used =>
    some (if R.fl (avail + used) > 0 then R.fl (R.fl (used * 100) / R.fl (avail + used)) else 0)
  | _, _ => none

/-- The four numbers of one chart in a row. -/
structure Columns where
  util : Option ℚ
  avail : Option ℚ
  used : Option ℚ
  reserved : Option ℚ
  deriving DecidableEq, Repr

/-- The largest of each of one chart's four columns so far. -/
structure Maxima where
  util : ℚ
  avail : ℚ
  used : ℚ
  reserved : ℚ
  deriving DecidableEq, Repr

/-- Every maximum raised by the numbers of one chart. -/
def Maxima.raise (mx : Maxima) (c : Columns) : Maxima :=
  ⟨raise_max mx.util c.util, raise_max mx.avail c.avail, raise_max mx.used c.used,
    raise_max mx.reserved c.reserved⟩

/-- One chart's half of a row: `rrddim_get_last_stored_value` on its three dimensions, which
are missing with the chart, then the utilisation, each raising its maximum. -/
def chart_columns (divisor : Int) (st : Option RRDSET) (mx : Maxima) : Columns × Maxima :=
  let value := fun (dim : RRDSET → Int) => st.map fun st => last_stored_value R st divisor (dim st)
  let (avail, max_avail) := rrddim_get_last_stored_value (value (·.avail)) mx.avail
  let (used, max_used) := rrddim_get_last_stored_value (value (·.used)) mx.used
  let (reserved, max_reserved) := rrddim_get_last_stored_value (value (·.reserved)) mx.reserved
  let util := utilization R avail used
  (⟨util, avail, used, reserved⟩, ⟨raise_max mx.util util, max_avail, max_used, max_reserved⟩)

/-- A row of `data`: the mount point, what `string2str` reads of its filesystem and root
pointers, and the numbers of its `disk_space` and `disk_inodes` charts. -/
structure Row where
  name : String
  filesystem : String
  mountroot : String
  space : Columns
  inodes : Columns
  deriving DecidableEq, Repr

/-- The divisor `rrddim_add` gives the dimensions of `disk_space`, whose unit is GiB; those of
`disk_inodes` have 1. -/
def GiB : Int := 1024 * 1024 * 1024

/-- The body of the `dfe_start_write` loop for the entry `name`: no row for an entry that is not
`function_ready`, else its row, with the maxima of both charts raised. -/
def mount_point_row (name : String) (mp : mount_point_metadata) (mx : Maxima × Maxima) :
    Option Row × (Maxima × Maxima) :=
  if !mp.function_ready then (none, mx)
  else
    let (space, max_space) := chart_columns R GiB mp.st_space mx.1
    let (inodes, max_inodes) := chart_columns R 1 mp.st_inodes mx.2
    (some ⟨name, string2str mp.filesystem, string2str mp.mountroot, space, inodes⟩,
      (max_space, max_inodes))

/-- One entry of the walk of `dict_mountpoints`: its row, if any, after the others. -/
def walk_entry (d : Dict) (acc : List Row × (Maxima × Maxima)) (k : String) :
    List Row × (Maxima × Maxima) :=
  match d.get k with
  | none => acc
  | some mp =>
    let (row, mx) := mount_point_row R k mp acc.2
    (acc.1 ++ row.toList, mx)

/-- The rows and the maxima after the walk, which starts them at 0. -/
def mount_point_rows (d : Dict) : List Row × (Maxima × Maxima) :=
  d.keys.foldl (walk_entry R d) ([], (⟨0, 0, 0, 0⟩, ⟨0, 0, 0, 0⟩))

/-- A numeric field of `columns`: its name, its units and the `max` of its bar. -/
structure Field where
  name : String
  units : String
  max : ℚ
  deriving DecidableEq, Repr

/-- The four numeric fields of one chart. -/
def Maxima.fields (mx : Maxima) (util avail used reserved units : String) : List Field :=
  [⟨util, "%", mx.util⟩, ⟨avail, units, mx.avail⟩, ⟨used, units, mx.used⟩,
    ⟨reserved, units, mx.reserved⟩]

/-- `diskspace_function_mount_points`: the `data` rows and the numeric fields of `columns`. -/
def diskspace_function_mount_points (d : Dict) : List Row × List Field :=
  let (rows, max_space, max_inodes) := mount_point_rows R d
  (rows, max_space.fields "Used%" "Avail" "Used" "Reserved" "GiB" ++
    max_inodes.fields "iUsed%" "iAvail" "iUsed" "iReserved" "inodes")

end Table

/-! ## The walk keeps the maxima of its rows -/

section Walk

variable (R : DoubleRounding)

/-- The largest of 0 and the numbers of one column. -/
def column_max (rows : List Row) (col : Row → Option ℚ) : ℚ := (rows.filterMap col).foldl max 0

/-- The maxima of one chart's columns over a list of rows. -/
def Maxima.of (chart : Row → Columns) (rows : List Row) : Maxima :=
  ⟨column_max rows (chart · |>.util), column_max rows (chart · |>.avail),
    column_max rows (chart · |>.used), column_max rows (chart · |>.reserved)⟩

theorem column_max_append (rows : List Row) (r : Row) (col : Row → Option ℚ) :
    column_max (rows ++ [r]) col = raise_max (column_max rows col) (col r) := by
  unfold column_max
  rcases h : col r with _ | v <;> simp [List.filterMap_append, List.filterMap_cons, h, raise_max]

theorem Maxima.of_append (chart : Row → Columns) (rows : List Row) (r : Row) :
    Maxima.of chart (rows ++ [r]) = (Maxima.of chart rows).raise (chart r) := by
  simp only [Maxima.of, Maxima.raise, column_max_append]

/-- The maxima after one chart's half of a row are the old ones raised by its numbers. -/
theorem chart_columns_snd (divisor : Int) (st : Option RRDSET) (mx : Maxima) :
    (chart_columns R divisor st mx).2 = mx.raise (chart_columns R divisor st mx).1 := rfl

/-- What the walk keeps: its maxima are those of its rows, and each row is the row of a
`function_ready` entry under its name. -/
structure WalkInv (d : Dict) (acc : List Row × (Maxima × Maxima)) : Prop where
  maxima : acc.2 = (Maxima.of Row.space acc.1, Maxima.of Row.inodes acc.1)
  rows : ∀ r ∈ acc.1, ∃ mp, d.get r.name = some mp ∧ mp.function_ready ∧
    (∃ mx, r.space = (chart_columns R GiB mp.st_space mx).1) ∧
    ∃ mx, r.inodes = (chart_columns R 1 mp.st_inodes mx).1

theorem walk_entry_spec {d : Dict} {acc : List Row × (Maxima × Maxima)} (h : WalkInv R d acc)
    (k : String) :
    WalkInv R d (walk_entry R d acc k) ∧ (walk_entry R d acc k).1.map (·.name) =
      acc.1.map (·.name) ++ if (d.get k).any (·.function_ready) then [k] else [] := by
  unfold walk_entry
  rcases hk : d.get k with _ | mp
  · simpa using h
  · by_cases hr : mp.function_ready
    · have h₁ : Maxima.of Row.space acc.1 = acc.2.1 := by rw [h.maxima]
      have h₂ : Maxima.of Row.inodes acc.1 = acc.2.2 := by rw [h.maxima]
      simp only [mount_point_row, hr, Bool.not_true, Bool.false_eq_true, if_false,
        Option.toList_some, Option.any_some, if_true, List.map_append, List.map_cons,
        List.map_nil, and_true]
      refine ⟨?_, ?_⟩
      · rw [Maxima.of_append, Maxima.of_append, h₁, h₂]; rfl
      · simp only [List.mem_append, List.mem_singleton]
        rintro r (hr' | rfl)
        · exact h.rows r hr'
        · exact ⟨mp, hk, hr, ⟨acc.2.1, rfl⟩, acc.2.2, rfl⟩
    · simpa [mount_point_row, hr] using h

theorem walk_spec (d : Dict) : ∀ (ks : List String) {acc : List Row × (Maxima × Maxima)},
    WalkInv R d acc → WalkInv R d (ks.foldl (walk_entry R d) acc) ∧
      (ks.foldl (walk_entry R d) acc).1.map (·.name) =
        acc.1.map (·.name) ++ ks.filter fun k => (d.get k).any (·.function_ready)
  | [], _, h => by simpa using h
  | k :: ks, _, h => by
    obtain ⟨h₁, e₁⟩ := walk_entry_spec R h k
    obtain ⟨h₂, e₂⟩ := walk_spec d ks h₁
    refine ⟨h₂, ?_⟩
    rw [List.foldl_cons, e₂, e₁, List.filter_cons]
    split <;> simp

theorem mount_point_rows_spec (d : Dict) :
    WalkInv R d (mount_point_rows R d) ∧ (mount_point_rows R d).1.map (·.name) =
      d.keys.filter fun k => (d.get k).any (·.function_ready) := by
  simpa using @walk_spec R d d.keys ([], (⟨0, 0, 0, 0⟩, ⟨0, 0, 0, 0⟩)) ⟨rfl, fun _ h => nomatch h⟩

/-- For every dictionary, the table has one row per `function_ready` entry, in the dictionary's
order, and the `max` of its eight numeric fields (`Used%`, `Avail`, `Used`, `Reserved`, then
the same of the inodes) is the largest of 0 and the numbers of that column. -/
theorem mount_points_table (d : Dict) :
    (diskspace_function_mount_points R d).1.map (·.name) =
        d.keys.filter (fun k => (d.get k).any (·.function_ready)) ∧
      (diskspace_function_mount_points R d).2.map (·.max) =
        [Row.space, Row.inodes].flatMap fun chart =>
          [Columns.util, Columns.avail, Columns.used, Columns.reserved].map fun col =>
            column_max (diskspace_function_mount_points R d).1 (col ∘ chart) := by
  obtain ⟨h, e⟩ := mount_point_rows_spec R d
  have hmx := h.maxima
  unfold diskspace_function_mount_points
  rcases hr : mount_point_rows R d with ⟨rows, ms, mi⟩
  rw [hr] at e hmx
  simp only [Prod.mk.injEq] at hmx
  refine ⟨e, ?_⟩
  simp [hmx.1, hmx.2, Maxima.fields, Maxima.of, Function.comp_def]

end Walk

/-! ## Utilisation is a percentage, up to rounding -/

section Percent

variable (R : DoubleRounding)

/-- 100, widened by the rounding of `used * 100.0`, of `avail + used` and of their quotient. -/
def util_bound : ℚ := 100 * (1 + R.eps) ^ 2 / (1 - R.eps)

theorem util_bound_nonneg : 0 ≤ util_bound R :=
  div_nonneg (mul_nonneg (by norm_num) (sq_nonneg _)) R.one_sub_eps_nonneg

/-- Two values stored from non-negative collected numbers by dimensions of one chart have one
sign, whatever the sign of its multiplier and divisor. -/
theorem last_stored_value_same_sign (st : RRDSET) (divisor : Int) {a b : Int} (ha : 0 ≤ a)
    (hb : 0 ≤ b) : 0 ≤ last_stored_value R st divisor a * last_stored_value R st divisor b := by
  have h₁ : 0 ≤ R.fl a * R.fl b :=
    R.mul_fl_nonneg (mul_nonneg (by exact_mod_cast ha) (by exact_mod_cast hb))
  have h₂ : 0 ≤ R.fl (R.fl a * R.fl st.multiplier) * R.fl (R.fl b * R.fl st.multiplier) :=
    R.mul_fl_nonneg (by
      calc 0 ≤ R.fl a * R.fl b * (R.fl st.multiplier * R.fl st.multiplier) :=
            mul_nonneg h₁ (mul_self_nonneg _)
        _ = _ := by ring)
  exact R.mul_fl_nonneg (by rw [div_mul_div_comm]; exact div_nonneg h₂ (mul_self_nonneg _))

/-- The rounded quotient of `used * 100.0` by a positive rounded `avail + used`, both
non-negative, is at most 100 widened by the first two roundings. -/
theorem quotient_le {avail used : ℚ} (ha : 0 ≤ avail) (hu : 0 ≤ used)
    (hpos : 0 < R.fl (avail + used)) :
    R.fl (used * 100) / R.fl (avail + used) ≤ 100 * (1 + R.eps) / (1 - R.eps) := by
  have he : 0 < 1 - R.eps := sub_pos.2 R.eps_lt_one
  have h100 : 0 ≤ 100 * (1 + R.eps) := mul_nonneg (by norm_num) (add_nonneg zero_le_one R.eps_nonneg)
  rw [div_le_div_iff₀ hpos he]
  calc R.fl (used * 100) * (1 - R.eps) ≤ (1 + R.eps) * (used * 100) * (1 - R.eps) :=
        mul_le_mul_of_nonneg_right (R.fl_le (mul_nonneg hu (by norm_num))) he.le
    _ ≤ 100 * (1 + R.eps) * ((1 - R.eps) * (avail + used)) := by
        linarith [mul_nonneg (mul_nonneg h100 he.le) ha]
    _ ≤ 100 * (1 + R.eps) * R.fl (avail + used) :=
        mul_le_mul_of_nonneg_left (R.le_fl (add_nonneg ha hu)) h100

/-- The utilisation of two numbers of one sign is between 0 and `util_bound`. -/
theorem utilization_le {avail used x : ℚ} (hau : 0 ≤ avail * used)
    (h : utilization R (some avail) (some used) = some x) : 0 ≤ x ∧ x ≤ util_bound R := by
  simp only [utilization, Option.some.injEq] at h
  subst h
  split_ifs with hpos
  · have hsum : 0 < avail + used :=
      lt_of_not_le fun h => absurd (R.fl_nonpos h) (not_le.2 hpos)
    obtain ⟨ha, hu⟩ : 0 ≤ avail ∧ 0 ≤ used :=
      (mul_nonneg_iff.1 hau).resolve_right fun h => by linarith [h.1, h.2]
    have hq0 : 0 ≤ R.fl (used * 100) / R.fl (avail + used) :=
      div_nonneg (R.fl_nonneg (mul_nonneg hu (by norm_num))) hpos.le
    refine ⟨R.fl_nonneg hq0, ?_⟩
    calc R.fl (R.fl (used * 100) / R.fl (avail + used))
        ≤ (1 + R.eps) * (R.fl (used * 100) / R.fl (avail + used)) := R.fl_le hq0
      _ ≤ (1 + R.eps) * (100 * (1 + R.eps) / (1 - R.eps)) :=
        mul_le_mul_of_nonneg_left (quotient_le R ha hu hpos) (add_nonneg zero_le_one R.eps_nonneg)
      _ = util_bound R := by unfold util_bound; ring
  · exact ⟨le_rfl, util_bound_nonneg R⟩

/-- The utilisation of a chart that holds no negative value is between 0 and `util_bound`. -/
theorem chart_columns_util {divisor : Int} {st : Option RRDSET}
    (hst : ∀ c, st = some c → c.nonneg) (mx : Maxima) {x : ℚ}
    (h : (chart_columns R divisor st mx).1.util = some x) : 0 ≤ x ∧ x ≤ util_bound R := by
  rcases st with _ | c
  · simp [chart_columns, rrddim_get_last_stored_value, utilization] at h
  · obtain ⟨ha, hu, -⟩ := hst c rfl
    exact utilization_le R (last_stored_value_same_sign R c divisor ha hu) h

end Percent

theorem foldl_max_mem {b : ℚ} : ∀ {l : List ℚ} {a : ℚ}, 0 ≤ a → a ≤ b →
    (∀ x ∈ l, 0 ≤ x ∧ x ≤ b) → 0 ≤ l.foldl max a ∧ l.foldl max a ≤ b
  | [], _, h0, hb, _ => ⟨h0, hb⟩
  | x :: l, a, h0, hb, hl =>
    @foldl_max_mem b l (max a x) (le_max_of_le_left h0)
      (max_le hb (hl x (List.mem_cons_self _ _)).2) fun y hy => hl y (List.mem_cons_of_mem _ hy)

/-- The one field of a chart whose units are percent is its utilisation. -/
theorem Maxima.max_of_percent {mx : Maxima} {util avail used reserved units : String}
    (hunits : units ≠ "%") {f : Field} (hf : f ∈ mx.fields util avail used reserved units)
    (h : f.units = "%") : f.max = mx.util := by
  simp only [Maxima.fields, List.mem_cons, List.mem_singleton, List.not_mem_nil, or_false] at hf
  rcases hf with rfl | rfl | rfl | rfl
  · rfl
  all_goals exact absurd h hunits

/-- When no chart of the dictionary holds a negative value, every `Used%` and `iUsed%` of the
table, and the `max` of both columns, are between 0 and 100 widened by three roundings. -/
theorem utilization_within_percent (R : DoubleRounding) (d : Dict) (hd : d.nonneg) :
    (∀ r ∈ (diskspace_function_mount_points R d).1, ∀ x,
      r.space.util = some x ∨ r.inodes.util = some x →
        0 ≤ x ∧ x ≤ 100 * (1 + R.eps) ^ 2 / (1 - R.eps)) ∧
    ∀ f ∈ (diskspace_function_mount_points R d).2, f.units = "%" →
      0 ≤ f.max ∧ f.max ≤ 100 * (1 + R.eps) ^ 2 / (1 - R.eps) := by
  obtain ⟨h, -⟩ := mount_point_rows_spec R d
  have hrows : ∀ r ∈ (mount_point_rows R d).1, ∀ x,
      r.space.util = some x ∨ r.inodes.util = some x → 0 ≤ x ∧ x ≤ util_bound R := by
    intro r hr x hx
    obtain ⟨mp, hmp, -, ⟨mx, hs⟩, mx', hi⟩ := h.rows r hr
    rcases hx with hx | hx
    · exact chart_columns_util R (hd _ _ hmp).1 mx (hs ▸ hx)
    · exact chart_columns_util R (hd _ _ hmp).2 mx' (hi ▸ hx)
  have hcol : ∀ chart : Row → Columns, (∀ r ∈ (mount_point_rows R d).1, ∀ x,
      (chart r).util = some x → 0 ≤ x ∧ x ≤ util_bound R) →
      0 ≤ (Maxima.of chart (mount_point_rows R d).1).util ∧
        (Maxima.of chart (mount_point_rows R d).1).util ≤ util_bound R := fun chart hc =>
    foldl_max_mem le_rfl (util_bound_nonneg R) fun x hx => by
      obtain ⟨r, hr, hx⟩ := List.mem_filterMap.1 hx
      exact hc r hr x hx
  have hmx := h.maxima
  unfold diskspace_function_mount_points
  rcases hr : mount_point_rows R d with ⟨rows, ms, mi⟩
  rw [hr] at hmx hrows hcol
  simp only [Prod.mk.injEq] at hmx
  refine ⟨hrows, fun f hf hu => ?_⟩
  rcases List.mem_append.1 hf with hf | hf
  · rw [Maxima.max_of_percent (by decide) hf hu, hmx.1]
    exact hcol Row.space fun r hr x hx => hrows r hr x (.inl hx)
  · rw [Maxima.max_of_percent (by decide) hf hu, hmx.2]
    exact hcol Row.inodes fun r hr x hx => hrows r hr x (.inr hx)

/-- A root filesystem whose space chart holds 10 blocks available, 30 used and 5 reserved. -/
def root_dict : Dict :=
  Dict.empty.set "/" ⟨.YES, .AUTO, false, true, false, true, string_strdupz "ext4",
    string_strdupz "/", 1, some ⟨1, 4096, 10, 30, 5⟩, none⟩

theorem root_utilization_within_percent :
    root_dict.nonneg ∧
      (∀ r ∈ (diskspace_function_mount_points .exact root_dict).1, ∀ x,
        r.space.util = some x ∨ r.inodes.util = some x →
          0 ≤ x ∧ x ≤ 100 * (1 + DoubleRounding.exact.eps) ^ 2 / (1 - DoubleRounding.exact.eps)) ∧
      ∀ f ∈ (diskspace_function_mount_points .exact root_dict).2, f.units = "%" →
        0 ≤ f.max ∧ f.max ≤ 100 * (1 + DoubleRounding.exact.eps) ^ 2 / (1 - DoubleRounding.exact.eps) :=
  have hd : root_dict.nonneg := fun k m h => by
    rw [root_dict, Dict.get_set] at h
    split at h
    · cases h
      exact ⟨fun c hc => by cases hc; exact ⟨by decide, by decide, by decide⟩, fun c hc => nomatch hc⟩
    · cases h
  ⟨hd, utilization_within_percent .exact root_dict hd⟩

end Netdata.Diskspace
