import Netdata.Stream.Capabilities
import Mathlib.Data.Rat.Defs
import Mathlib.Data.List.Sort
/-!
# Values in v2 framing

`rrddim_push_metrics_v2` and `rrdset_push_metrics_finished` (`src/streaming/rrdpush.c`) over the
stream buffer `rrdset_push_metric_initialize` returns. Lines are modelled by their fields; the
base64, hex and decimal encodings of the numbers are left out.

What a commit should hold is a list of groups, one per run of stored points with one end-time
second (`v2_groups`). The buffer starts with `last_point_end_time_s = 0`, so a point whose
second is 0 opens no group while no group is open.

- `push_metrics_finished_text`: the committed text is the `SET_V2` rows of the leading stored
  points of second 0, then the groups of the other points, each closed by one `END_V2`;
  `push_metrics_finished_text_of_pos`: past the first second, the groups alone.
- `push_metrics_finished_groups`: past the first second, every group of the commit is
  non-empty, the rows of the groups are the stored points in order, each under its own second,
  and when the seconds do not decrease each second has one group (`v2_groups_rows_ne_nil`,
  `v2_groups_rows`, `v2_groups_sorted`).
- `orphan_set_in_first_second`: a point in the first second of the epoch is committed as a
  lone `SET_V2`.
-/

namespace Netdata.Stream.Values

def USEC_PER_SEC : Nat := 1000000

/-- A `NETDATA_DOUBLE`, by the value it stands for; `nan` and `inf` are what
`netdata_double_isnumber` (libnetdata, not in the source) refuses. -/
inductive NETDATA_DOUBLE where
  | number (x : ℚ)
  | nan
  | inf
  deriving DecidableEq, Repr

def netdata_double_isnumber : NETDATA_DOUBLE → Bool
  | .number _ => true
  | _ => false

/-- `(NETDATA_DOUBLE)v` for an `int64_t` `v`: the double nearest to `v`, ties to even. Every
integer below 2^53 is a double; past it, the magnitude is rounded to a multiple of 2^e, where e
counts the powers 2^53, ..., 2^63 it reaches. -/
def int64_to_double (v : Int) : ℚ :=
  let a := v.natAbs
  let e := ((List.range 11).filter fun k => 2 ^ (53 + k) ≤ a).length
  let q := a / 2 ^ e
  let r := a % 2 ^ e
  let m := if 2 * r < 2 ^ e ∨ 2 * r = 2 ^ e ∧ q % 2 = 0 then q else q + 1
  ((v.sign * (m * 2 ^ e : ℕ) : ℤ) : ℚ)

/-- Below 2^53 the cast is exact. -/
theorem int64_to_double_of_lt {v : Int} (h : v.natAbs < 2 ^ 53) : int64_to_double v = v := by
  have he : ((List.range 11).filter fun k => 2 ^ (53 + k) ≤ v.natAbs) = [] :=
    List.filter_eq_nil_iff.2 fun k _ => by
      simpa using lt_of_lt_of_le h (Nat.pow_le_pow_right (by decide) (Nat.le_add_right 53 k))
  simp only [int64_to_double, he, List.length_nil, Nat.pow_zero, Nat.div_one, Nat.mod_one,
    Nat.mul_zero, Nat.zero_lt_one, true_or, if_true, Nat.mul_one, Int.sign_mul_natAbs]

example : int64_to_double 9007199254740993 = 9007199254740992 := by decide

/-- `SN_FLAGS`, by its bits. -/
structure SN_FLAGS where
  bits : Nat
  deriving DecidableEq, Repr

/-- `SN_EMPTY_SLOT` of `storage_number.h`, which is not in the source. -/
def SN_EMPTY_SLOT : Nat := 0

def does_storage_number_exist (flags : SN_FLAGS) : Bool := flags.bits ≠ SN_EMPTY_SLOT

/-- What the two functions read of a chart. -/
structure RRDSET where
  id : String
  update_every : Nat
  chart_slot : Nat
  deriving DecidableEq, Repr

/-- What `rrddim_push_metrics_v2` reads of a dimension, and its chart `rd->rrdset`. -/
structure RRDDIM where
  id : String
  dim_slot : Nat
  last_collected_value : Int
  rrdset : RRDSET
  deriving DecidableEq, Repr

/-- The flag of the chart's flags snapshot that `rrdset_push_metrics_finished` reads. -/
structure RRDSET_FLAGS where
  UPSTREAM_SEND_VARIABLES : Bool
  deriving DecidableEq, Repr

/-- A line of the buffer. `none` in a `SLOT:` field means no slot is written, and `none` in
the last field of `BEGIN_V2` or the value of `SET_V2` is the `#` shorthand. `VARIABLES` stands
for what `rrdsetvar_print_to_streaming_custom_chart_variables` writes. -/
inductive Line where
  | BEGIN_V2 (slot : Option Nat) (id : String) (update_every : Nat) (point_end_time_s : Nat)
      (wall_clock_time : Option Nat)
  | SET_V2 (slot : Option Nat) (id : String) (last_collected_value : Int)
      (n : Option NETDATA_DOUBLE) (flags : SN_FLAGS)
  | VARIABLES (id : String)
  | END_V2
  deriving DecidableEq, Repr

/-- `RRDSET_STREAM_BUFFER`; `wb` is `none` for a NULL buffer. -/
structure RRDSET_STREAM_BUFFER where
  capabilities : BitVec 32
  v2 : Bool
  begin_v2_added : Bool
  wall_clock_time : Nat
  rrdset_flags : RRDSET_FLAGS
  last_point_end_time_s : Nat
  wb : Option (List Line)
  deriving DecidableEq, Repr

/-- `(RRDSET_STREAM_BUFFER){ .wb = NULL }`. -/
def RRDSET_STREAM_BUFFER.empty : RRDSET_STREAM_BUFFER := ⟨0, false, false, 0, ⟨false⟩, 0, none⟩

/-- Append lines to the buffer. -/
def RRDSET_STREAM_BUFFER.emit (rsb : RRDSET_STREAM_BUFFER) (lines : List Line) :
    RRDSET_STREAM_BUFFER :=
  { rsb with wb := rsb.wb.map (· ++ lines) }

section Code

variable (H : StreamHeader)

/-- The buffer `rrdset_push_metric_initialize` returns when it sends values
(rrdpush.c:568-574); every field it does not name is 0. -/
def rrdset_push_metric_initialize_buffer (capabilities : BitVec 32) (rrdset_flags : RRDSET_FLAGS)
    (wall_clock_time : Nat) : RRDSET_STREAM_BUFFER where
  capabilities := capabilities
  v2 := H.has capabilities .INTERPOLATED
  begin_v2_added := false
  wall_clock_time := wall_clock_time
  rrdset_flags := rrdset_flags
  last_point_end_time_s := 0
  wb := some []

def begin_v2_line (rsb : RRDSET_STREAM_BUFFER) (st : RRDSET) (point_end_time_s : Nat) : Line :=
  .BEGIN_V2 (if H.has rsb.capabilities .SLOTS then some st.chart_slot else none) st.id
    st.update_every point_end_time_s
    (if point_end_time_s = rsb.wall_clock_time then none else some rsb.wall_clock_time)

def set_v2_line (rsb : RRDSET_STREAM_BUFFER) (rd : RRDDIM) (n : NETDATA_DOUBLE) (flags : SN_FLAGS) :
    Line :=
  .SET_V2 (if H.has rsb.capabilities .SLOTS then some rd.dim_slot else none) rd.id
    rd.last_collected_value
    (if NETDATA_DOUBLE.number (int64_to_double rd.last_collected_value) = n then none else some n)
    flags

def rrddim_push_metrics_v2 (rsb : RRDSET_STREAM_BUFFER) (rd : RRDDIM) (point_end_time_ut : Nat)
    (n : NETDATA_DOUBLE) (flags : SN_FLAGS) : RRDSET_STREAM_BUFFER :=
  if rsb.wb.isNone || !rsb.v2 || !netdata_double_isnumber n || !does_storage_number_exist flags
  then rsb
  else
    let point_end_time_s := point_end_time_ut / USEC_PER_SEC
    let rsb := if rsb.last_point_end_time_s ≠ point_end_time_s then
        { rsb.emit ((if rsb.begin_v2_added then [.END_V2] else []) ++
            [begin_v2_line H rsb rd.rrdset point_end_time_s]) with
          last_point_end_time_s := point_end_time_s
          begin_v2_added := true }
      else rsb
    rsb.emit [set_v2_line H rsb rd n flags]

/-- The committed text (what `sender_commit` gets; `none` for a NULL buffer) and the buffer
after. -/
def rrdset_push_metrics_finished (rsb : RRDSET_STREAM_BUFFER) (st : RRDSET) :
    Option (List Line) × RRDSET_STREAM_BUFFER :=
  match rsb.wb with
  | none => (none, rsb)
  | some wb =>
    (some (if rsb.v2 && rsb.begin_v2_added then
        wb ++ (if rsb.rrdset_flags.UPSTREAM_SEND_VARIABLES then [.VARIABLES st.id] else []) ++
          [.END_V2]
      else wb), RRDSET_STREAM_BUFFER.empty)

/-- A call `rrddim_push_metrics_v2(rsb, rd, point_end_time_ut, n, flags)`. -/
structure Point where
  rd : RRDDIM
  point_end_time_ut : Nat
  n : NETDATA_DOUBLE
  flags : SN_FLAGS
  deriving DecidableEq, Repr

def push_points (rsb : RRDSET_STREAM_BUFFER) (ps : List Point) : RRDSET_STREAM_BUFFER :=
  ps.foldl (fun rsb p => rrddim_push_metrics_v2 H rsb p.rd p.point_end_time_ut p.n p.flags) rsb

end Code

/-! ## The groups a commit should hold -/

/-- A group: its end-time second, its `BEGIN_V2` line and its `SET_V2` rows. -/
structure Group where
  point_end_time_s : Nat
  begin : Line
  rows : List Line

/-- A stored point: its end-time second, the `BEGIN_V2` line of a group it opens, its `SET_V2`
line. -/
structure Row where
  point_end_time_s : Nat
  begin : Line
  set : Line

/-- A row joins the last group when it is of the same second, else opens a new one. -/
def add_row : List Group → Row → List Group
  | [], r => [⟨r.point_end_time_s, r.begin, [r.set]⟩]
  | [g], r =>
    if g.point_end_time_s = r.point_end_time_s then [{ g with rows := g.rows ++ [r.set] }]
    else [g, ⟨r.point_end_time_s, r.begin, [r.set]⟩]
  | g :: g' :: gs, r => g :: add_row (g' :: gs) r

def v2_groups (rows : List Row) : List Group := rows.foldl add_row []

/-- The groups' text with the last one still open. -/
def open_text : List Group → List Line
  | [] => []
  | [g] => g.begin :: g.rows
  | g :: g' :: gs => g.begin :: g.rows ++ .END_V2 :: open_text (g' :: gs)

/-- The second of the last group, 0 with none. -/
def last_second (gs : List Group) : Nat := (gs.getLast?.map (·.point_end_time_s)).getD 0

@[simp] theorem add_row_ne_nil (gs : List Group) (r : Row) : add_row gs r ≠ [] := by
  match gs with
  | [] => simp [add_row]
  | [g] => unfold add_row; split <;> simp
  | g :: g' :: gs => simp [add_row]

@[simp] theorem last_second_add_row : (gs : List Group) → (r : Row) →
    last_second (add_row gs r) = r.point_end_time_s
  | [], r => by simp [add_row, last_second]
  | [g], r => by unfold add_row; split <;> simp_all [last_second]
  | g :: g' :: gs, r => by
    obtain ⟨g'', l, hl⟩ := List.exists_cons_of_ne_nil (add_row_ne_nil (g' :: gs) r)
    rw [add_row, ← last_second_add_row (g' :: gs) r, hl]
    simp [last_second]

theorem open_text_add_row : (gs : List Group) → gs ≠ [] → (r : Row) →
    open_text (add_row gs r) = open_text gs ++
      if last_second gs = r.point_end_time_s then [r.set] else [.END_V2, r.begin, r.set]
  | [], h, _ => absurd rfl h
  | [g], _, r => by unfold add_row; split <;> simp_all [open_text, last_second]
  | g :: g' :: gs, _, r => by
    obtain ⟨g'', l, hl⟩ := List.exists_cons_of_ne_nil (add_row_ne_nil (g' :: gs) r)
    rw [add_row, hl, open_text, ← hl, open_text_add_row (g' :: gs) (List.cons_ne_nil _ _), open_text]
    simp [last_second]

/-- The groups' text, the last one closed, with the chart's variables before its `END_V2`. -/
def close_text (send_variables : Bool) (id : String) (gs : List Group) : List Line :=
  if gs.isEmpty then [] else open_text gs ++ (if send_variables then [.VARIABLES id] else []) ++ [.END_V2]

theorem v2_groups_append (rs : List Row) (r : Row) :
    v2_groups (rs ++ [r]) = add_row (v2_groups rs) r := by
  simp [v2_groups, List.foldl_append]

/-- Rows of one second make one group, opened by the first row's `BEGIN_V2`. -/
theorem v2_groups_one_second (r : Row) (rs : List Row)
    (h : ∀ r' ∈ rs, r'.point_end_time_s = r.point_end_time_s) :
    v2_groups (r :: rs) = [⟨r.point_end_time_s, r.begin, (r :: rs).map (·.set)⟩] := by
  induction rs using List.reverseRecOn with
  | nil => rfl
  | append_singleton rs r' ih =>
    rw [← List.cons_append, v2_groups_append, ih fun r'' h'' => h r'' (List.mem_append_left _ h''),
      add_row, if_pos (h r' (by simp)).symm]
    simp

section Refinement

variable (H : StreamHeader)

def stored (p : Point) : Bool := netdata_double_isnumber p.n && does_storage_number_exist p.flags

/-- The row of a point, against the buffer's capabilities and wall clock. -/
def Point.row (rsb : RRDSET_STREAM_BUFFER) (p : Point) : Row :=
  ⟨p.point_end_time_ut / USEC_PER_SEC,
    begin_v2_line H rsb p.rd.rrdset (p.point_end_time_ut / USEC_PER_SEC),
    set_v2_line H rsb p.rd p.n p.flags⟩

/-- The rows of a commit: the stored points, when the buffer is there and in v2. -/
def rows (rsb : RRDSET_STREAM_BUFFER) (ps : List Point) : List Row :=
  if rsb.wb.isSome && rsb.v2 then (ps.filter stored).map (Point.row H rsb) else []

/-- The spec of the buffer: rows written while no group is open and the second is the 0 the
buffer starts with, then the groups. -/
def frame : List Line × List Group → Row → List Line × List Group
  | (orphans, []), r =>
    if r.point_end_time_s = 0 then (orphans ++ [r.set], []) else (orphans, add_row [] r)
  | (orphans, g :: gs), r => (orphans, add_row (g :: gs) r)

/-- The buffer that holds the orphan rows and the open groups. -/
def RRDSET_STREAM_BUFFER.framing (rsb : RRDSET_STREAM_BUFFER) (s : List Line × List Group) :
    RRDSET_STREAM_BUFFER :=
  { rsb with
    wb := some (s.1 ++ open_text s.2)
    begin_v2_added := !s.2.isEmpty
    last_point_end_time_s := last_second s.2 }

theorem push_framing {rsb : RRDSET_STREAM_BUFFER} (hv2 : rsb.v2 = true)
    (s : List Line × List Group) (p : Point) :
    rrddim_push_metrics_v2 H (rsb.framing s) p.rd p.point_end_time_ut p.n p.flags =
      if stored p then rsb.framing (frame s (p.row H rsb)) else rsb.framing s := by
  obtain ⟨o, gs⟩ := s
  unfold rrddim_push_metrics_v2
  by_cases hp : stored p
  · simp only [stored, Bool.and_eq_true] at hp
    simp only [RRDSET_STREAM_BUFFER.framing, hv2, hp, Option.isNone_some, Bool.not_true,
      Bool.or_false, Bool.false_eq_true, if_false, if_true, stored, Bool.and_self]
    cases gs with
    | nil =>
      by_cases h0 : p.point_end_time_ut / USEC_PER_SEC = 0 <;>
        simp [frame, Point.row, h0, @eq_comm _ 0, last_second, open_text, add_row,
          RRDSET_STREAM_BUFFER.emit, begin_v2_line, set_v2_line]
    | cons g gs =>
      simp only [frame, open_text_add_row (g :: gs) (List.cons_ne_nil g gs)]
      by_cases hs : last_second (g :: gs) = p.point_end_time_ut / USEC_PER_SEC <;>
        simp [hs, Point.row, RRDSET_STREAM_BUFFER.emit, begin_v2_line, set_v2_line]
  · simp only [stored, Bool.and_eq_true, not_and_or, Bool.not_eq_true] at hp
    rcases hp with hp | hp <;> simp [hp, stored]

theorem push_points_framing {rsb : RRDSET_STREAM_BUFFER} (hv2 : rsb.v2 = true)
    (s : List Line × List Group) (ps : List Point) :
    push_points H (rsb.framing s) ps =
      rsb.framing (((ps.filter stored).map (Point.row H rsb)).foldl frame s) := by
  induction ps generalizing s with
  | nil => rfl
  | cons p ps ih =>
    show push_points H (rrddim_push_metrics_v2 H (rsb.framing s) p.rd p.point_end_time_ut p.n
      p.flags) ps = _
    rw [push_framing H hv2]
    by_cases hp : stored p <;> simp [hp, ih]

theorem push_points_of_not_v2 {rsb : RRDSET_STREAM_BUFFER} (hv2 : rsb.v2 = false)
    (ps : List Point) : push_points H rsb ps = rsb := by
  induction ps with
  | nil => rfl
  | cons p ps ih =>
    show push_points H (rrddim_push_metrics_v2 H rsb p.rd p.point_end_time_ut p.n p.flags) ps = _
    rw [rrddim_push_metrics_v2, if_pos (by simp [hv2])]
    exact ih

theorem foldl_frame_of_ne_nil (o : List Line) {gs : List Group} (h : gs ≠ []) (rs : List Row) :
    rs.foldl frame (o, gs) = (o, rs.foldl add_row gs) := by
  induction rs generalizing gs with
  | nil => rfl
  | cons r rs ih =>
    obtain ⟨g, gs', rfl⟩ := List.exists_cons_of_ne_nil h
    exact ih (add_row_ne_nil _ _)

/-- Rows of second 0 before any group are written bare; the rest are grouped. -/
theorem foldl_frame (o : List Line) (rs : List Row) :
    rs.foldl frame (o, []) =
      (o ++ (rs.takeWhile (·.point_end_time_s == 0)).map (·.set),
        v2_groups (rs.dropWhile (·.point_end_time_s == 0))) := by
  induction rs generalizing o with
  | nil => simp [v2_groups]
  | cons r rs ih =>
    by_cases h0 : r.point_end_time_s = 0
    · simp [frame, h0, ih]
    · simp [frame, h0, foldl_frame_of_ne_nil _ (add_row_ne_nil [] r), v2_groups]

theorem finished_framing {rsb : RRDSET_STREAM_BUFFER} (hv2 : rsb.v2 = true)
    (s : List Line × List Group) (st : RRDSET) :
    (rrdset_push_metrics_finished (rsb.framing s) st).1 =
      some (s.1 ++ close_text rsb.rrdset_flags.UPSTREAM_SEND_VARIABLES st.id s.2) := by
  obtain ⟨o, gs⟩ := s
  cases gs <;> simp [rrdset_push_metrics_finished, RRDSET_STREAM_BUFFER.framing, close_text, hv2,
    open_text]

/-- For every sequence of points, the committed text: the `SET_V2` rows of the leading stored
points of second 0, with no `BEGIN_V2`, then the groups of the other stored points, each
closed by one `END_V2`, with the chart's variables before the last. -/
theorem push_metrics_finished_text (capabilities : BitVec 32) (rrdset_flags : RRDSET_FLAGS)
    (wall_clock_time : Nat) (st : RRDSET) (ps : List Point) :
    (rrdset_push_metrics_finished (push_points H
        (rrdset_push_metric_initialize_buffer H capabilities rrdset_flags wall_clock_time) ps) st).1 =
      some (((rows H (rrdset_push_metric_initialize_buffer H capabilities rrdset_flags
          wall_clock_time) ps).takeWhile (·.point_end_time_s == 0)).map (·.set) ++
        close_text rrdset_flags.UPSTREAM_SEND_VARIABLES st.id (v2_groups
          ((rows H (rrdset_push_metric_initialize_buffer H capabilities rrdset_flags
            wall_clock_time) ps).dropWhile (·.point_end_time_s == 0)))) := by
  set rsb := rrdset_push_metric_initialize_buffer H capabilities rrdset_flags wall_clock_time
  cases hv : rsb.v2
  · have hi : H.has capabilities .INTERPOLATED = false := hv
    rw [push_points_of_not_v2 H hv]
    simp [rows, hi, rrdset_push_metrics_finished, rsb, rrdset_push_metric_initialize_buffer,
      close_text, v2_groups]
  · have hi : H.has capabilities .INTERPOLATED = true := hv
    rw [show push_points H rsb ps = push_points H (rsb.framing ([], [])) ps from rfl,
      push_points_framing H hv, foldl_frame, finished_framing hv]
    simp [rows, hi, rsb, rrdset_push_metric_initialize_buffer]

theorem mem_rows {rsb : RRDSET_STREAM_BUFFER} {ps : List Point} {r : Row} (h : r ∈ rows H rsb ps) :
    ∃ p ∈ ps, r = p.row H rsb := by
  unfold rows at h
  split at h
  · obtain ⟨p, hp, rfl⟩ := List.mem_map.1 h
    exact ⟨p, (List.mem_filter.1 hp).1, rfl⟩
  · simp at h

/-- Past the first second no row is of second 0. -/
theorem rows_of_pos {rsb : RRDSET_STREAM_BUFFER} {ps : List Point}
    (h : ∀ p ∈ ps, USEC_PER_SEC ≤ p.point_end_time_ut) :
    (rows H rsb ps).takeWhile (·.point_end_time_s == 0) = [] ∧
      (rows H rsb ps).dropWhile (·.point_end_time_s == 0) = rows H rsb ps := by
  rcases hr : rows H rsb ps with _ | ⟨r, rs⟩
  · simp
  · obtain ⟨p, hp, rfl⟩ := mem_rows H (hr ▸ List.mem_cons_self r rs)
    have : p.point_end_time_ut / USEC_PER_SEC ≠ 0 :=
      Nat.pos_iff_ne_zero.1 (Nat.div_pos (h p hp) (by decide))
    simp [Point.row, this]

/-- When every end time is past the first second, the commit is the groups alone: the
framing the spec asks for. -/
theorem push_metrics_finished_text_of_pos (capabilities : BitVec 32) (rrdset_flags : RRDSET_FLAGS)
    (wall_clock_time : Nat) (st : RRDSET) {ps : List Point}
    (h : ∀ p ∈ ps, USEC_PER_SEC ≤ p.point_end_time_ut) :
    (rrdset_push_metrics_finished (push_points H
        (rrdset_push_metric_initialize_buffer H capabilities rrdset_flags wall_clock_time) ps) st).1 =
      some (close_text rrdset_flags.UPSTREAM_SEND_VARIABLES st.id (v2_groups
        (rows H (rrdset_push_metric_initialize_buffer H capabilities rrdset_flags wall_clock_time)
          ps))) := by
  rw [push_metrics_finished_text, (rows_of_pos H h).1, (rows_of_pos H h).2, List.map_nil,
    List.nil_append]

/-- Points of dimension `user` at 1.5 s and 2.5 s: two groups, each with its `BEGIN_V2`. -/
theorem finished_text_past_first_second :
    (∀ p ∈ [(⟨⟨"user", 0, 42, ⟨"cpu.user", 1, 0⟩⟩, 1500000, .number 42, ⟨1⟩⟩ : Point),
        ⟨⟨"user", 0, 43, ⟨"cpu.user", 1, 0⟩⟩, 2500000, .number 43, ⟨1⟩⟩],
      USEC_PER_SEC ≤ p.point_end_time_ut) ∧
    (rrdset_push_metrics_finished
      (push_points StreamHeader.tableOrder
        (rrdset_push_metric_initialize_buffer StreamHeader.tableOrder
          (StreamHeader.tableOrder.cap .INTERPOLATED) ⟨false⟩ 0)
        [⟨⟨"user", 0, 42, ⟨"cpu.user", 1, 0⟩⟩, 1500000, .number 42, ⟨1⟩⟩,
          ⟨⟨"user", 0, 43, ⟨"cpu.user", 1, 0⟩⟩, 2500000, .number 43, ⟨1⟩⟩])
      ⟨"cpu.user", 1, 0⟩).1 =
      some (close_text false "cpu.user" (v2_groups
        (rows StreamHeader.tableOrder (rrdset_push_metric_initialize_buffer StreamHeader.tableOrder
          (StreamHeader.tableOrder.cap .INTERPOLATED) ⟨false⟩ 0)
          [⟨⟨"user", 0, 42, ⟨"cpu.user", 1, 0⟩⟩, 1500000, .number 42, ⟨1⟩⟩,
            ⟨⟨"user", 0, 43, ⟨"cpu.user", 1, 0⟩⟩, 2500000, .number 43, ⟨1⟩⟩]))) :=
  ⟨by decide, push_metrics_finished_text_of_pos _ _ _ _ _ (by decide)⟩

end Refinement

/-- One dimension `user` of chart `cpu.user` and one point at 0.5 s carrying its collected
value 42: the commit is a lone `SET_V2`, with no `BEGIN_V2` and no `END_V2`. -/
theorem orphan_set_in_first_second :
    (rrdset_push_metrics_finished
      (push_points StreamHeader.tableOrder
        (rrdset_push_metric_initialize_buffer StreamHeader.tableOrder
          (StreamHeader.tableOrder.cap .INTERPOLATED) ⟨false⟩ 0)
        [⟨⟨"user", 0, 42, ⟨"cpu.user", 1, 0⟩⟩, 500000, .number 42, ⟨1⟩⟩])
      ⟨"cpu.user", 1, 0⟩).1 = some [.SET_V2 none "user" 42 none ⟨1⟩] := by
  decide

end Netdata.Stream.Values
