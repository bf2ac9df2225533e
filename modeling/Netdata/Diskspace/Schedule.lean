import Mathlib.Data.List.Basic
/-!
# The diskspace plugin's clocks

`diskspace_slow_worker` (`src/collectors/diskspace.plugin/plugin_diskspace.c`) wakes up on a
heartbeat of one second. While `real_step` is below `step` it only counts the second; once it
reaches `step` it starts `real_step` again and runs a round over the slow mount points. A round
that took longer than `step` widens the period to one and a half times the round's whole seconds,
rounded up to a multiple of `SLOW_UPDATE_EVERY`. Times are microseconds, as the source keeps them.

- `reachable_inv`: in every run, `step` is `slow_update_every` seconds, the period is never
  below `SLOW_UPDATE_EVERY` seconds, and `real_step` is a whole number of seconds up to `step`.
- `rounds_on_schedule`: from every clock of a run, the next round comes on heartbeat number
  `until_round + 1`, none earlier; right after a round, on heartbeat number `slow_update_every`.
- `period_never_shrinks`: no turn of a run shortens the period.
- `overrun_widens_step`: after a round longer than `step`, the new period is a multiple of five
  seconds and longer than the round.

The main loop rereads the mount table with `mountinfo_reload(0)` once a round, which rereads it
only when the last read is `check for new mount points every` seconds old.

- `mount_table_rereads`: with the periods `diskspace_main` sets, two rereads are at least that
  period apart, and after every round the table in use was read less than that period ago.
-/

namespace Netdata.Diskspace

def USEC_PER_SEC : Nat := 1000000

def SLOW_UPDATE_EVERY : Nat := 5

/-- The worker's clock: `slow_update_every` in seconds, `step` and `real_step` in
microseconds. -/
structure SlowClock where
  slow_update_every : Nat
  step : Nat
  real_step : Nat
  deriving DecidableEq, Repr

namespace SlowClock

/-- The clock before the loop, from the plugin's `update_every`. -/
def init (update_every : Nat) : SlowClock :=
  let slow_update_every := if update_every > SLOW_UPDATE_EVERY then update_every else SLOW_UPDATE_EVERY
  ⟨slow_update_every, slow_update_every * USEC_PER_SEC, USEC_PER_SEC⟩

/-- The test after `heartbeat_next`: whether the round runs, and the clock after the test. -/
def beat (c : SlowClock) : Bool × SlowClock :=
  if c.real_step < c.step then (false, { c with real_step := c.real_step + USEC_PER_SEC })
  else (true, { c with real_step := USEC_PER_SEC })

/-- The period `slow_update_every` takes after a round of `dt` microseconds that overran. -/
def widened (dt : Nat) : Nat :=
  let slow_update_every := dt / USEC_PER_SEC * 3 / 2
  if slow_update_every % SLOW_UPDATE_EVERY ≠ 0 then
    slow_update_every + (SLOW_UPDATE_EVERY - slow_update_every % SLOW_UPDATE_EVERY)
  else slow_update_every

/-- The end of a round of `dt` microseconds. -/
def after_round (c : SlowClock) (dt : Nat) : SlowClock :=
  if dt > c.step then { c with slow_update_every := widened dt, step := widened dt * USEC_PER_SEC }
  else c

/-- One turn of the loop: the heartbeat and, when the round runs, its length, or `none` when
`dict_mountpoints` is not created yet and the turn ends before the round. -/
def turn (c : SlowClock) (dt : Option Nat) : SlowClock :=
  match c.beat, dt with
  | (true, c'), some dt => c'.after_round dt
  | (_, c'), _ => c'

def run (c : SlowClock) (dts : List (Option Nat)) : SlowClock := dts.foldl turn c

/-- How many heartbeats the loop only counts before the one that runs the next round. -/
def until_round (c : SlowClock) : Nat := (c.step - c.real_step) / USEC_PER_SEC

/-- The outcomes of `n` heartbeats that run no round in between. -/
def beats : Nat → SlowClock → List Bool
  | 0, _ => []
  | n + 1, c => c.beat.1 :: beats n c.beat.2

/-! ## The invariant of a run -/

/-- What holds of the clock at every heartbeat. -/
structure Inv (c : SlowClock) : Prop where
  step_eq : c.step = c.slow_update_every * USEC_PER_SEC
  five_le : SLOW_UPDATE_EVERY ≤ c.slow_update_every
  whole_seconds : c.real_step % USEC_PER_SEC = 0
  one_le : USEC_PER_SEC ≤ c.real_step
  le_step : c.real_step ≤ c.step

theorem Inv.init (update_every : Nat) : (SlowClock.init update_every).Inv := by
  unfold SlowClock.init
  split <;> constructor <;> dsimp only [USEC_PER_SEC, SLOW_UPDATE_EVERY] at * <;> omega

theorem Inv.beat {c : SlowClock} (h : c.Inv) : c.beat.2.Inv := by
  obtain ⟨h1, h2, h3, h4, h5⟩ := h
  unfold SlowClock.beat
  split <;> constructor <;> dsimp only [USEC_PER_SEC, SLOW_UPDATE_EVERY] at * <;> omega

/-- A widened period is a multiple of five seconds above the round's whole seconds; once the
round is past five seconds, one second more at least. -/
theorem widened_spec (dt : Nat) : widened dt % SLOW_UPDATE_EVERY = 0 ∧
    dt / USEC_PER_SEC * 3 / 2 ≤ widened dt := by
  simp only [widened, SLOW_UPDATE_EVERY]
  split <;> omega

theorem lt_widened {dt : Nat} (h : 5 * USEC_PER_SEC < dt) : dt < widened dt * USEC_PER_SEC := by
  have := (widened_spec dt).2
  simp only [USEC_PER_SEC] at *
  omega

/-- A round longer than the period is longer than five seconds. -/
theorem Inv.five_lt {c : SlowClock} (h : c.Inv) {dt : Nat} (hdt : c.step < dt) :
    5 * USEC_PER_SEC < dt := by
  have := h.five_le; have := h.step_eq
  dsimp only [USEC_PER_SEC, SLOW_UPDATE_EVERY] at *; omega

theorem Inv.after_round {c : SlowClock} (h : c.Inv) (dt : Nat) : (c.after_round dt).Inv := by
  unfold SlowClock.after_round
  split
  · rename_i hdt
    have hw := lt_widened (h.five_lt hdt)
    have hm := (widened_spec dt).1
    obtain ⟨h1, h2, h3, h4, h5⟩ := h
    constructor <;> dsimp only [USEC_PER_SEC, SLOW_UPDATE_EVERY] at * <;> omega
  · exact h

theorem Inv.turn {c : SlowClock} (h : c.Inv) (dt : Option Nat) : (c.turn dt).Inv := by
  have hb := h.beat
  unfold SlowClock.turn
  generalize c.beat = b at hb ⊢
  obtain ⟨_ | _, c'⟩ := b <;> cases dt
  all_goals first | exact hb | exact hb.after_round _

/-- The clock of every run satisfies the invariant. -/
theorem reachable_inv (update_every : Nat) (dts : List (Option Nat)) :
    ((SlowClock.init update_every).run dts).Inv := by
  unfold SlowClock.run
  induction dts using List.reverseRecOn with
  | nil => exact Inv.init update_every
  | append_singleton dts dt ih => rw [List.foldl_append, List.foldl_cons, List.foldl_nil]; exact ih.turn dt

/-! ## When the rounds run -/

theorem beat_of_lt {c : SlowClock} (h : c.real_step < c.step) :
    c.beat = (false, { c with real_step := c.real_step + USEC_PER_SEC }) := if_pos h

theorem beat_of_le {c : SlowClock} (h : c.step ≤ c.real_step) :
    c.beat = (true, { c with real_step := USEC_PER_SEC }) := if_neg (Nat.not_lt.2 h)

/-- `until_round` counts the whole seconds `real_step` still has to go to reach `step`. -/
theorem Inv.until_round_mul {c : SlowClock} (h : c.Inv) :
    c.real_step + c.until_round * USEC_PER_SEC = c.step := by
  obtain ⟨h1, _, h3, _, h5⟩ := h
  unfold until_round
  rw [h1] at h5 ⊢
  dsimp only [USEC_PER_SEC] at *
  omega

/-- From a clock that satisfies the invariant, the heartbeats run no round until the
`until_round + 1`-th, which runs one. -/
theorem beats_until_round : ∀ (n : Nat) {c : SlowClock}, c.Inv →
    c.until_round = n → c.beats (n + 1) = List.replicate n false ++ [true]
  | 0, c, hi, hn => by
    have := hi.until_round_mul
    rw [beats, beats, beat_of_le (by rw [hn] at this; omega)]
    rfl
  | n + 1, c, hi, hn => by
    have hc := hi.until_round_mul
    rw [hn] at hc
    have hb := beat_of_lt (show c.real_step < c.step by dsimp only [USEC_PER_SEC] at hc; omega)
    have hi' := hb ▸ hi.beat
    have hc' := hi'.until_round_mul
    rw [beats, hb, beats_until_round n hi' (by dsimp only [USEC_PER_SEC] at hc hc' ⊢; omega)]
    rfl

theorem after_round_real_step (c : SlowClock) (dt : Nat) :
    (c.after_round dt).real_step = c.real_step := by
  unfold after_round; split <;> rfl

/-- A turn whose heartbeat runs a round leaves the next round `slow_update_every` heartbeats
away, whatever the round widened the period to. -/
theorem Inv.until_round_after_round {c : SlowClock} (hi : c.Inv) (hb : c.beat.1 = true)
    (dt : Option Nat) : (c.turn dt).until_round = (c.turn dt).slow_update_every - 1 := by
  have hr : c.beat = (true, { c with real_step := USEC_PER_SEC }) :=
    beat_of_le (Nat.not_lt.1 fun hlt => by simp [beat_of_lt hlt] at hb)
  have hs : (c.turn dt).real_step = USEC_PER_SEC := by
    unfold SlowClock.turn
    rw [hr]
    cases dt
    · rfl
    · exact after_round_real_step _ _
  rw [until_round, hs, (hi.turn dt).step_eq, ← Nat.sub_one_mul,
    Nat.mul_div_cancel _ (by decide)]

/-- In every run, from the clock at any heartbeat, the next round comes on heartbeat number
`until_round + 1` and no round runs before it; that is at most `slow_update_every` heartbeats
away, and exactly that many right after a round, which leaves `real_step` at one second. -/
theorem rounds_on_schedule (update_every : Nat) (dts : List (Option Nat)) :
    ((init update_every).run dts).beats (((init update_every).run dts).until_round + 1) =
        List.replicate ((init update_every).run dts).until_round false ++ [true] ∧
      ((init update_every).run dts).until_round < ((init update_every).run dts).slow_update_every ∧
      ∀ dt, ((init update_every).run dts).beat.1 = true →
        (((init update_every).run dts).turn dt).until_round =
          (((init update_every).run dts).turn dt).slow_update_every - 1 := by
  have hi := reachable_inv update_every dts
  refine ⟨beats_until_round _ hi rfl, ?_, fun dt hb => hi.until_round_after_round hb dt⟩
  have := hi.until_round_mul
  have := hi.one_le
  rw [hi.step_eq] at *
  dsimp only [USEC_PER_SEC] at *
  omega

/-! ## The period -/

theorem beat_step (c : SlowClock) : c.beat.2.step = c.step := by
  unfold SlowClock.beat; split <;> rfl

theorem step_le_after_round {c : SlowClock} (h : c.Inv) (dt : Nat) :
    c.step ≤ (c.after_round dt).step := by
  unfold SlowClock.after_round
  split
  · rename_i hdt
    exact (Nat.le_of_lt hdt).trans (lt_widened (h.five_lt hdt)).le
  · exact le_rfl

theorem turn_step_le {c : SlowClock} (h : c.Inv) (dt : Option Nat) : c.step ≤ (c.turn dt).step := by
  have hs := beat_step c
  have hb := h.beat
  unfold SlowClock.turn
  generalize c.beat = b at hs hb ⊢
  obtain ⟨_ | _, c'⟩ := b <;> cases dt
  all_goals first | exact hs.ge | exact hs ▸ step_le_after_round hb _

theorem run_step_le : ∀ (dts : List (Option Nat)) {c : SlowClock}, c.Inv → c.step ≤ (c.run dts).step
  | [], _, _ => le_rfl
  | dt :: dts, _, h => (turn_step_le h dt).trans (run_step_le dts (h.turn dt))

/-- In every run the period is `slow_update_every` whole seconds, never below
`SLOW_UPDATE_EVERY`, and no later turn shortens it. -/
theorem period_never_shrinks (update_every : Nat) (dts dts' : List (Option Nat)) :
    SLOW_UPDATE_EVERY ≤ ((init update_every).run dts).slow_update_every ∧
      ((init update_every).run dts).step =
        ((init update_every).run dts).slow_update_every * USEC_PER_SEC ∧
      ((init update_every).run dts).step ≤ ((init update_every).run (dts ++ dts')).step := by
  have hi := reachable_inv update_every dts
  refine ⟨hi.five_le, hi.step_eq, ?_⟩
  rw [show (init update_every).run (dts ++ dts') = ((init update_every).run dts).run dts' from
    List.foldl_append _ _ _ _]
  exact run_step_le dts' hi

/-- In every run, a turn whose round took longer than the period leaves a period that is a
multiple of five seconds and longer than the round. -/
theorem overrun_widens_step (update_every : Nat) (dts : List (Option Nat)) (dt : Nat)
    (hround : ((init update_every).run dts).beat.1 = true)
    (hover : ((init update_every).run dts).step < dt) :
    (((init update_every).run dts).turn (some dt)).slow_update_every % SLOW_UPDATE_EVERY = 0 ∧
      dt < (((init update_every).run dts).turn (some dt)).step := by
  have hi := reachable_inv update_every dts
  set c := (init update_every).run dts
  have hb : c.beat = (true, { c with real_step := USEC_PER_SEC }) :=
    beat_of_le (Nat.not_lt.1 fun hlt => by simp [beat_of_lt hlt] at hround)
  simp only [turn, hb, after_round, hover, if_true]
  exact ⟨(widened_spec dt).1, lt_widened (hi.five_lt hover)⟩

/-- A first round of eight seconds, at the fifth heartbeat of a worker started with a period of
five seconds, widens the period to fifteen seconds. -/
theorem overrun_widens_step_first_round :
    ((init 5).run [none, none, none, none]).beat.1 = true ∧
      ((init 5).run [none, none, none, none]).step < 8000000 ∧
      (((init 5).run [none, none, none, none]).turn (some 8000000)).slow_update_every % SLOW_UPDATE_EVERY = 0 ∧
      8000000 < (((init 5).run [none, none, none, none]).turn (some 8000000)).step :=
  ⟨by decide, by decide, overrun_widens_step 5 _ 8000000 (by decide) (by decide)⟩

end SlowClock

/-! ## Rereading the mount table -/

/-- The `(int)` cast of a `long long`. -/
def int_cast (n : Int) : Int := (BitVec.ofInt 32 n).toInt

/-- The periods `diskspace_main` sets before its loop, from `config_get_number` of its section
(by name and default): `update every`, raised to the host's `rrd_update_every`, and
`check for new mount points every`, raised to `update every`. -/
def main_periods (rrd_update_every : Int) (config_get_number : String → Int → Int)
    (check_for_new_mountpoints_every : Int) : Int × Int :=
  let update_every := int_cast (config_get_number "update every" rrd_update_every)
  let update_every := if update_every < rrd_update_every then rrd_update_every else update_every
  let check_for_new_mountpoints_every := int_cast
    (config_get_number "check for new mount points every" check_for_new_mountpoints_every)
  (update_every, if check_for_new_mountpoints_every < update_every then update_every
    else check_for_new_mountpoints_every)

/-- `mountinfo_reload(force)` at `now`, what `now_realtime_sec()` reads: whether it rereads the
mount table, and `last_loaded` after. -/
def mountinfo_reload (check_for_new_mountpoints_every last_loaded : Int) (force : Bool)
    (now : Int) : Bool × Int :=
  if force || now - last_loaded ≥ check_for_new_mountpoints_every then (true, now)
  else (false, last_loaded)

/-- The main loop's calls `mountinfo_reload(0)`, one a round, at the times `nows`: the times it
rereads the table, and `last_loaded` after. -/
def reloads (check_for_new_mountpoints_every last_loaded : Int) : List Int → List Int × Int
  | [] => ([], last_loaded)
  | now :: nows =>
    match mountinfo_reload check_for_new_mountpoints_every last_loaded false now with
    | (true, last_loaded) =>
      let r := reloads check_for_new_mountpoints_every last_loaded nows
      (now :: r.1, r.2)
    | (false, last_loaded) => reloads check_for_new_mountpoints_every last_loaded nows

theorem main_periods_le (rrd_update_every : Int) (config_get_number : String → Int → Int)
    (c : Int) : rrd_update_every ≤ (main_periods rrd_update_every config_get_number c).1 ∧
      (main_periods rrd_update_every config_get_number c).1 ≤
        (main_periods rrd_update_every config_get_number c).2 := by
  unfold main_periods
  dsimp only
  split_ifs <;> constructor <;> omega

/-- A call without `force` rereads the table when the last read is `every` seconds old or
older, and otherwise keeps a table read less than `every` seconds ago. -/
theorem mountinfo_reload_spec (every last_loaded now : Int) :
    mountinfo_reload every last_loaded false now =
      if last_loaded + every ≤ now then (true, now) else (false, last_loaded) := by
  unfold mountinfo_reload
  simp only [Bool.false_or, decide_eq_true_eq]
  split_ifs <;> first | rfl | omega

theorem reloads_chain (every : Int) : ∀ (last_loaded : Int) (nows : List Int),
    List.Chain (fun a b => a + every ≤ b) last_loaded (reloads every last_loaded nows).1
  | _, [] => .nil
  | last_loaded, now :: nows => by
    rw [reloads, mountinfo_reload_spec]
    split_ifs with h
    · exact .cons h (reloads_chain every now nows)
    · exact reloads_chain every last_loaded nows

theorem reloads_append_last (every : Int) : ∀ (last_loaded : Int) (nows : List Int) (now : Int),
    (reloads every last_loaded (nows ++ [now])).2 =
      (mountinfo_reload every (reloads every last_loaded nows).2 false now).2
  | last_loaded, [], now => by
    rw [List.nil_append, reloads, reloads]
    split <;> simp_all [reloads]
  | last_loaded, n :: nows, now => by
    rw [List.cons_append, reloads, reloads]
    split <;> exact reloads_append_last every _ nows now

/-- Over every run of the main loop, with the periods `diskspace_main` sets for a host whose
`rrd_update_every` is positive, the mount table is reread at most once every
`check for new mount points every` seconds, a period of at least `update every` and of at least
`rrd_update_every` seconds; and after every round the table in use was read less than that
period ago. -/
theorem mount_table_rereads (rrd_update_every : Int) (config_get_number : String → Int → Int)
    (check_for_new_mountpoints_every : Int) (hrrd : 0 < rrd_update_every) (nows : List Int) :
    rrd_update_every ≤
        (main_periods rrd_update_every config_get_number check_for_new_mountpoints_every).1 ∧
      (main_periods rrd_update_every config_get_number check_for_new_mountpoints_every).1 ≤
        (main_periods rrd_update_every config_get_number check_for_new_mountpoints_every).2 ∧
      List.Chain (fun a b => a +
          (main_periods rrd_update_every config_get_number check_for_new_mountpoints_every).2 ≤ b)
        0 (reloads (main_periods rrd_update_every config_get_number
          check_for_new_mountpoints_every).2 0 nows).1 ∧
      ∀ pre now post, nows = pre ++ now :: post →
        now - (reloads (main_periods rrd_update_every config_get_number
          check_for_new_mountpoints_every).2 0 (pre ++ [now])).2 <
        (main_periods rrd_update_every config_get_number check_for_new_mountpoints_every).2 := by
  obtain ⟨h1, h2⟩ := main_periods_le rrd_update_every config_get_number
    check_for_new_mountpoints_every
  refine ⟨h1, h2, reloads_chain _ 0 nows, fun pre now _ _ => ?_⟩
  rw [reloads_append_last, mountinfo_reload_spec]
  split_ifs with h
  · omega
  · simp only at h ⊢
    omega

/-- A host collecting every second, with the default period of fifteen seconds and rounds at
100, 105, 110 and 116 seconds. -/
theorem rereads_with_defaults :
    (0 : Int) < 1 ∧ (1 ≤ (main_periods 1 (fun _ d => d) 15).1 ∧
      (main_periods 1 (fun _ d => d) 15).1 ≤ (main_periods 1 (fun _ d => d) 15).2 ∧
      List.Chain (fun a b => a + (main_periods 1 (fun _ d => d) 15).2 ≤ b) 0
        (reloads (main_periods 1 (fun _ d => d) 15).2 0 [100, 105, 110, 116]).1 ∧
      ∀ pre now post, [100, 105, 110, 116] = pre ++ now :: post →
        now - (reloads (main_periods 1 (fun _ d => d) 15).2 0 (pre ++ [now])).2 <
          (main_periods 1 (fun _ d => d) 15).2) :=
  ⟨by decide, mount_table_rereads 1 (fun _ d => d) 15 (by decide) [100, 105, 110, 116]⟩

end Netdata.Diskspace
