import Mathlib.Data.List.Basic
/-!
# Publishing charts to the sender

How collector ticks (`rrdset_push_metric_initialize`, the value pushes and
`rrdset_push_metrics_finished`) and `rrdset_push_chart_definition_now` put a host's charts into
the sender buffer (`src/streaming/rrdpush.c`), concurrently with each other, with the
replication subsystem's completion of a chart, with changes to what decides a chart's
classification, and with the sender disconnecting and connecting again. Each atomic load,
flag set, flag clear and counter update is a step. A critical section under the sender's
commit mutex (`sender_start` to `sender_commit`) is one step when nothing in it is seen by
other threads before the commit; `rrdpush_send_chart_definition` keeps its flag updates as
steps, since other threads read those flags without the mutex.

- `replicating_charts_counts_flags`: in every run, the replicating-charts counter plus one for
  a definition sender between its flag set and its increment is the number of charts with
  `SENDER_REPLICATION_IN_PROGRESS`.
- `counter_behind_flags`: inside that window the counter is one short.
- `values_before_definition_after_reconnect`: a tick that passed its checks before a reconnect
  commits values to the new connection before any definition of the chart.
- `values_after_definition_end`: a tick that found replication finished commits values after
  another thread's definition restarted replication.
- `step_keeps_classification`: no step clears `UPSTREAM_SEND` or `UPSTREAM_IGNORE`.
- `send_and_ignore`: a rename between two classifications leaves both `UPSTREAM_SEND` and
  `UPSTREAM_IGNORE` set, and the chart's definition is committed.
-/

namespace Netdata.Stream.Publication

/-- The records of the sender buffer, by the chart (`st`) and dimension (`rd`) they name; a
`SET` row names the chart of its `BEGIN`. Labels, functions, variables and values are left out. -/
inductive Record where
  | CHART (st : Nat)
  | DIMENSION (st rd : Nat)
  | CHART_DEFINITION_END (st : Nat)
  | FUNCTIONS
  | BEGIN (st : Nat)
  | SET (st rd : Nat)
  | END
  | BEGIN_V2 (st : Nat)
  | SET_V2 (st rd : Nat)
  | END_V2
  deriving DecidableEq, Repr

/-- The chart flags the streaming code reads and writes. -/
structure RRDSET_FLAGS where
  ANOMALY_DETECTION : Bool
  RECEIVER_REPLICATION_FINISHED : Bool
  UPSTREAM_SEND : Bool
  UPSTREAM_IGNORE : Bool
  SENDER_REPLICATION_IN_PROGRESS : Bool
  SENDER_REPLICATION_FINISHED : Bool
  deriving DecidableEq, Repr, Inhabited

/-- A dimension: its id, and the chart version its exposed marker was set at. -/
structure RRDDIM where
  id : Nat
  exposed : Nat
  deriving DecidableEq, Repr, Inhabited

/-- A chart: its flags, dimensions, metadata version, the version its exposed marker was set
at, and whether `send_charts_matching` matches its id or name as they are now. -/
structure RRDSET where
  flags : RRDSET_FLAGS
  dims : List RRDDIM
  version : Nat
  exposed : Nat
  charts_matching : Bool
  deriving DecidableEq, Repr, Inhabited

/-- Modelled from the spec: a chart is exposed upstream while its marker holds its current
metadata version (`rrdset_check_upstream_exposed`); a definition change or a reconnect moves
the version on, so the chart has to publish its definition again. -/
def RRDSET.exposed_upstream (c : RRDSET) : Bool := c.exposed = c.version

/-- Modelled from the spec: `rrddim_check_upstream_exposed_collector`, the same test for a
dimension's marker. -/
def RRDSET.dim_exposed (c : RRDSET) (d : RRDDIM) : Bool := d.exposed = c.version

/-- Where a thread is: in `rrdset_push_metric_initialize` at the load of the host flags, the
global functions commit, `rrdset_check_upstream_exposed` and `rrdset_flag_get`; in
`rrdset_push_chart_definition_now` at its checks; in `should_send_chart_matching` at the flag
set and the second read; in `rrdpush_send_chart_definition` from `sender_start` to the exposed
markers; at the commit of the tick's values. -/
inductive Pc where
  | idle
  | load_flags
  | functions
  | exposed
  | flags
  | now
  | classify
  | reread
  | sender_start
  | write
  | check_in_progress
  | set_in_progress
  | clear_finished
  | plus_one
  | commit
  | mark_exposed
  | values
  deriving DecidableEq, Repr, Inhabited

/-- A thread's locals: its place, whether it runs a collector tick (or
`rrdset_push_chart_definition_now`), its chart, and what it has read or written so far. -/
structure Thread where
  pc : Pc
  collector : Bool
  st : Nat
  exposed_upstream : Bool
  rrdset_flags : RRDSET_FLAGS
  version : Nat
  wb : List Record
  replication_progress : Bool
  deriving DecidableEq, Repr, Inhabited

/-- A host and its sender: charts, threads, host flags, the capabilities of the current
connection, the connection's number, the commit mutex's owner, the replicating-charts counter,
and every record committed, with the connection it was committed to. -/
structure RRDHOST where
  charts : List RRDSET
  threads : Nat → Thread
  READY_4_METRICS : Bool
  CONNECTED : Bool
  GLOBAL_FUNCTIONS_UPDATED : Bool
  ml_streaming_enabled : Bool
  REPLICATION : Bool
  INTERPOLATED : Bool
  connection : Nat
  sender_mutex : Option Nat
  replicating_charts : Int
  buffer : List (Nat × Record)

def RRDHOST.chart (h : RRDHOST) (st : Nat) : RRDSET := (h.charts[st]?).getD default

def RRDHOST.setChart (h : RRDHOST) (st : Nat) (c : RRDSET) : RRDHOST :=
  { h with charts := h.charts.set st c }

def RRDHOST.setThread (h : RRDHOST) (i : Nat) (t : Thread) : RRDHOST :=
  { h with threads := Function.update h.threads i t }

/-- Modelled from the spec: `sender_commit` appends the records to the buffer of the current
connection (while disconnected they are flushed on connect) and releases the commit mutex. -/
def RRDHOST.sender_commit (h : RRDHOST) (wb : List Record) : RRDHOST :=
  { h with
    buffer := if h.CONNECTED then h.buffer ++ wb.map (h.connection, ·) else h.buffer
    sender_mutex := none }

/-- `should_send_chart_matching` up to its flag set: the answer from the flags read, or
`none` when neither `UPSTREAM_SEND` nor `UPSTREAM_IGNORE` is set and the chart is classified. -/
def should_send_chart_matching (flags : RRDSET_FLAGS) : Option Bool :=
  if !flags.RECEIVER_REPLICATION_FINISHED then some false
  else if !(flags.UPSTREAM_SEND || flags.UPSTREAM_IGNORE) then none
  else some flags.UPSTREAM_SEND

/-- The classification `should_send_chart_matching` sets: by the ML streaming setting for an
anomaly-detection chart, by `send_charts_matching` otherwise. -/
def upstream_send (h : RRDHOST) (flags : RRDSET_FLAGS) (c : RRDSET) : Bool :=
  if flags.ANOMALY_DETECTION then h.ml_streaming_enabled else c.charts_matching

/-- Where a thread goes once its chart is to be sent: a collector whose chart is exposed sends
its values; otherwise the definition comes first. -/
def Thread.sending (t : Thread) : Pc :=
  if t.collector && t.exposed_upstream then .values else .sender_start

/-- `should_send_chart_matching` on the flags just read. -/
def Thread.matching (t : Thread) (flags : RRDSET_FLAGS) : Thread :=
  match should_send_chart_matching flags with
  | some true => { t with pc := t.sending }
  | some false => { t with pc := .idle }
  | none => { t with pc := .classify, rrdset_flags := flags }

/-- The definition `rrdpush_send_chart_definition` writes. -/
def definition (h : RRDHOST) (st : Nat) (c : RRDSET) : List Record :=
  .CHART st :: c.dims.map (fun d => .DIMENSION st d.id) ++
    (if h.REPLICATION then [.CHART_DEFINITION_END st] else [])

/-- The value group of a tick: v2 rows for every dimension (`rrddim_push_metrics_v2` has no
exposed test), or v1 rows for the exposed dimensions (`rrdpush_send_chart_metrics`). -/
def value_group (h : RRDHOST) (st : Nat) (c : RRDSET) : List Record :=
  if h.INTERPOLATED then
    if c.dims = [] then [] else .BEGIN_V2 st :: c.dims.map (fun d => .SET_V2 st d.id) ++ [.END_V2]
  else .BEGIN st :: (c.dims.filter c.dim_exposed).map (fun d => .SET st d.id) ++ [.END]

/-- After a v1 group, a dimension that was not exposed has its metadata marked updated
(`rrddim_metadata_updated`), which moves the chart's version on. -/
def after_values (h : RRDHOST) (c : RRDSET) : RRDSET :=
  if !h.INTERPOLATED && c.dims.any (fun d => !c.dim_exposed d) then { c with version := c.version + 1 }
  else c

def RRDSET_FLAGS.classify (f : RRDSET_FLAGS) (send : Bool) : RRDSET_FLAGS :=
  if send then { f with UPSTREAM_SEND := true } else { f with UPSTREAM_IGNORE := true }

/-- The next step of thread `i`. -/
def thread_step (h : RRDHOST) (i : Nat) : Option RRDHOST :=
  let t := h.threads i
  let c := h.chart t.st
  match t.pc with
  | .idle => none
  | .load_flags =>
    some (h.setThread i { t with
      pc := if !h.READY_4_METRICS then .idle
        else if h.GLOBAL_FUNCTIONS_UPDATED then .functions else .exposed })
  | .functions =>
    if h.sender_mutex = none then some ((h.sender_commit [.FUNCTIONS]).setThread i { t with pc := .exposed })
    else none
  | .exposed => some (h.setThread i { t with pc := .flags, exposed_upstream := c.exposed_upstream })
  | .flags =>
    some (h.setThread i
      (if t.exposed_upstream && !c.flags.SENDER_REPLICATION_FINISHED then { t with pc := .idle }
       else t.matching c.flags))
  | .now =>
    some (h.setThread i (if !h.CONNECTED then { t with pc := .idle } else t.matching c.flags))
  | .classify =>
    some ((h.setChart t.st { c with flags := c.flags.classify (upstream_send h t.rrdset_flags c) }).setThread i
      { t with pc := .reread })
  | .reread =>
    some (h.setThread i { t with pc := if c.flags.UPSTREAM_SEND then t.sending else .idle })
  | .sender_start =>
    if h.sender_mutex = none then some ({ h with sender_mutex := some i }.setThread i { t with pc := .write })
    else none
  | .write =>
    some (h.setThread i { t with
      pc := if h.REPLICATION then .check_in_progress else .commit
      version := c.version
      wb := definition h t.st c
      replication_progress := false })
  | .check_in_progress =>
    some (h.setThread i { t with
      pc := if c.flags.SENDER_REPLICATION_IN_PROGRESS then .commit else .set_in_progress
      replication_progress := true })
  | .set_in_progress =>
    some ((h.setChart t.st { c with flags := { c.flags with SENDER_REPLICATION_IN_PROGRESS := true } }).setThread i
      { t with pc := .clear_finished })
  | .clear_finished =>
    some ((h.setChart t.st { c with flags := { c.flags with SENDER_REPLICATION_FINISHED := false } }).setThread i
      { t with pc := .plus_one })
  | .plus_one =>
    some ({ h with replicating_charts := h.replicating_charts + 1 }.setThread i { t with pc := .commit })
  | .commit => some ((h.sender_commit t.wb).setThread i { t with pc := .mark_exposed })
  | .mark_exposed =>
    some ((h.setChart t.st { c with dims := c.dims.map ({ · with exposed := t.version }), exposed := t.version }).setThread i
      { t with pc := if t.collector && !t.replication_progress then .values else .idle })
  | .values =>
    if h.sender_mutex = none then
      some (((h.setChart t.st (after_values h c)).sender_commit (value_group h t.st c)).setThread i
        { t with pc := .idle })
    else none

/-- A chart as it is created: no classification, no replication, nothing exposed. -/
structure NewChart where
  dims : List Nat
  anomaly_detection : Bool
  receiver_replication_finished : Bool
  charts_matching : Bool
  deriving DecidableEq, Repr

def NewChart.create (n : NewChart) : RRDSET :=
  ⟨⟨n.anomaly_detection, n.receiver_replication_finished, false, false, false, false⟩,
    n.dims.map (⟨·, 0⟩), 1, 0, n.charts_matching⟩

def RRDHOST.init (charts : List NewChart) : RRDHOST :=
  ⟨charts.map NewChart.create, fun _ => { (default : Thread) with pc := .idle }, false, false, false, false, false, false, 0, none, 0, []⟩

inductive Event where
  | thread (i : Nat)
  /-- Idle thread `i` starts a collector tick on chart `st`. -/
  | tick (i st : Nat)
  /-- Idle thread `i` calls `rrdset_push_chart_definition_now` on chart `st`. -/
  | definition_now (i st : Nat)
  /-- Modelled from the spec: the replication subsystem finishes chart `st` (sets
  `SENDER_REPLICATION_FINISHED`, clears `SENDER_REPLICATION_IN_PROGRESS`, and decrements the
  counter). -/
  | replication_finished (st : Nat)
  /-- The chart's id or name, or the host's `send_charts_matching`, changes. -/
  | rename (st : Nat) (charts_matching : Bool)
  | ml_streaming (enabled : Bool)
  /-- A dimension is added to chart `st`, which changes its definition. -/
  | add_dim (st rd : Nat)
  | receiver_replication_finished (st : Nat)
  | global_functions_updated (updated : Bool)
  /-- Modelled from the spec: the sender loses its connection; under the commit mutex it
  clears `READY_4_METRICS`, drops what was not sent, clears every chart's
  `SENDER_REPLICATION_FINISHED` and makes every chart publish its definition again. -/
  | disconnect
  /-- Modelled from the spec: the sender connects with these capabilities. -/
  | connect (replication interpolated : Bool)
  /-- Modelled from the spec: the sender is ready for metrics. -/
  | ready
  deriving DecidableEq, Repr

def RRDHOST.start (h : RRDHOST) (i st : Nat) (pc : Pc) (collector : Bool) : Option RRDHOST :=
  if (h.threads i).pc = .idle ∧ st < h.charts.length then
    some (h.setThread i { (default : Thread) with pc, collector, st })
  else none

def RRDSET.reconnect (c : RRDSET) : RRDSET :=
  { c with version := c.version + 1, flags := { c.flags with SENDER_REPLICATION_FINISHED := false } }

def step (h : RRDHOST) : Event → Option RRDHOST
  | .thread i => thread_step h i
  | .tick i st => h.start i st .load_flags true
  | .definition_now i st => h.start i st .now false
  | .replication_finished st =>
    let c := h.chart st
    if c.flags.SENDER_REPLICATION_IN_PROGRESS then
      some ({ h with replicating_charts := h.replicating_charts - 1 }.setChart st { c with flags := { c.flags with
          SENDER_REPLICATION_IN_PROGRESS := false, SENDER_REPLICATION_FINISHED := true } })
    else none
  | .rename st b => some (h.setChart st { h.chart st with charts_matching := b })
  | .ml_streaming b => some { h with ml_streaming_enabled := b }
  | .add_dim st rd =>
    let c := h.chart st
    some (h.setChart st { c with dims := c.dims ++ [⟨rd, 0⟩], version := c.version + 1 })
  | .receiver_replication_finished st =>
    let c := h.chart st
    some (h.setChart st { c with flags := { c.flags with RECEIVER_REPLICATION_FINISHED := true } })
  | .global_functions_updated b => some { h with GLOBAL_FUNCTIONS_UPDATED := b }
  | .disconnect =>
    if h.CONNECTED ∧ h.sender_mutex = none then
      some { h with
        CONNECTED := false, READY_4_METRICS := false, connection := h.connection + 1
        charts := h.charts.map RRDSET.reconnect }
    else none
  | .connect replication interpolated =>
    if !h.CONNECTED then
      some { h with CONNECTED := true, REPLICATION := replication, INTERPOLATED := interpolated }
    else none
  | .ready => if h.CONNECTED then some { h with READY_4_METRICS := true } else none

inductive Reachable : RRDHOST → Prop where
  | init (charts : List NewChart) : Reachable (RRDHOST.init charts)
  | step {h h' : RRDHOST} (e : Event) : Reachable h → step h e = some h' → Reachable h'

def run (h : RRDHOST) (es : List Event) : RRDHOST := es.foldl (fun h e => (step h e).getD h) h

theorem reachable_run {h : RRDHOST} (hr : Reachable h) (es : List Event) : Reachable (run h es) := by
  induction es generalizing h with
  | nil => exact hr
  | cons e es ih =>
    show Reachable (run ((step h e).getD h) es)
    apply ih
    cases hs : step h e with
    | none => exact hr
    | some h' => exact .step e hr hs

/-! ## The replicating-charts counter -/

/-- The places between `sender_start` and `sender_commit` of a definition. -/
def Pc.holds : Pc → Bool
  | .write | .check_in_progress | .set_in_progress | .clear_finished | .plus_one | .commit => true
  | _ => false

/-- Between `rrdset_flag_set(st, RRDSET_FLAG_SENDER_REPLICATION_IN_PROGRESS)` and
`rrdhost_sender_replicating_charts_plus_one`. -/
def Pc.window : Pc → Bool
  | .clear_finished | .plus_one => true
  | _ => false

theorem Pc.window_of_holds {p : Pc} (h : p.holds = false) : p.window = false := by
  cases p <;> simp_all [Pc.window, Pc.holds]

/-- Every chart's `SENDER_REPLICATION_IN_PROGRESS`. -/
def RRDHOST.in_progress (h : RRDHOST) : List Bool :=
  h.charts.map (·.flags.SENDER_REPLICATION_IN_PROGRESS)

/-- The number of charts with `SENDER_REPLICATION_IN_PROGRESS`. -/
def RRDHOST.flagged (h : RRDHOST) : Nat := h.in_progress.count true

/-- One if the owner of the commit mutex is between its flag set and its increment. -/
def RRDHOST.pending (h : RRDHOST) : Nat :=
  match h.sender_mutex with
  | some i => if (h.threads i).pc.window then 1 else 0
  | none => 0

/-- The commit mutex is held exactly by the thread inside a definition, and every busy thread
works on a chart of the host. -/
structure LockInv (h : RRDHOST) : Prop where
  owner : ∀ i, (h.threads i).pc.holds → h.sender_mutex = some i
  locked : ∀ i, h.sender_mutex = some i → (h.threads i).pc.holds
  chart : ∀ i, (h.threads i).pc ≠ .idle → (h.threads i).st < h.charts.length

structure CounterInv (h : RRDHOST) extends LockInv h : Prop where
  fresh : ∀ i, (h.threads i).pc = .set_in_progress → h.in_progress[(h.threads i).st]? = some false
  counter : h.replicating_charts + h.pending = h.flagged

@[simp] theorem setThread_threads (h : RRDHOST) (i : Nat) (t : Thread) :
    (h.setThread i t).threads = Function.update h.threads i t := rfl

@[simp] theorem setThread_charts (h : RRDHOST) (i : Nat) (t : Thread) :
    (h.setThread i t).charts = h.charts := rfl

@[simp] theorem setThread_sender_mutex (h : RRDHOST) (i : Nat) (t : Thread) :
    (h.setThread i t).sender_mutex = h.sender_mutex := rfl

@[simp] theorem setThread_in_progress (h : RRDHOST) (i : Nat) (t : Thread) :
    (h.setThread i t).in_progress = h.in_progress := rfl

@[simp] theorem setThread_replicating_charts (h : RRDHOST) (i : Nat) (t : Thread) :
    (h.setThread i t).replicating_charts = h.replicating_charts := rfl

@[simp] theorem setChart_threads (h : RRDHOST) (st : Nat) (c : RRDSET) :
    (h.setChart st c).threads = h.threads := rfl

@[simp] theorem setChart_sender_mutex (h : RRDHOST) (st : Nat) (c : RRDSET) :
    (h.setChart st c).sender_mutex = h.sender_mutex := rfl

@[simp] theorem setChart_replicating_charts (h : RRDHOST) (st : Nat) (c : RRDSET) :
    (h.setChart st c).replicating_charts = h.replicating_charts := rfl

@[simp] theorem sender_commit_threads (h : RRDHOST) (wb : List Record) :
    (h.sender_commit wb).threads = h.threads := rfl

@[simp] theorem sender_commit_in_progress (h : RRDHOST) (wb : List Record) :
    (h.sender_commit wb).in_progress = h.in_progress := rfl

@[simp] theorem sender_commit_chart (h : RRDHOST) (wb : List Record) (st : Nat) :
    (h.sender_commit wb).chart st = h.chart st := rfl

theorem in_progress_length (h : RRDHOST) : h.in_progress.length = h.charts.length := by
  simp [RRDHOST.in_progress]

theorem in_progress_getElem? {h : RRDHOST} {st : Nat} (hst : st < h.charts.length) :
    h.in_progress[st]? = some (h.chart st).flags.SENDER_REPLICATION_IN_PROGRESS := by
  simp [RRDHOST.in_progress, RRDHOST.chart, hst]

theorem in_progress_setChart (h : RRDHOST) (st : Nat) (c : RRDSET) :
    (h.setChart st c).in_progress = h.in_progress.set st c.flags.SENDER_REPLICATION_IN_PROGRESS := by
  simp [RRDHOST.in_progress, RRDHOST.setChart, List.map_set]

/-- A chart update that keeps the chart's flag keeps every flag. -/
theorem in_progress_setChart_of_eq {h : RRDHOST} {st : Nat} {c : RRDSET}
    (hc : c.flags.SENDER_REPLICATION_IN_PROGRESS = (h.chart st).flags.SENDER_REPLICATION_IN_PROGRESS) :
    (h.setChart st c).in_progress = h.in_progress := by
  rw [in_progress_setChart]
  apply List.ext_getElem?
  intro j
  rw [List.getElem?_set]
  split
  · subst_vars
    split
    · rw [in_progress_getElem? (by rwa [in_progress_length] at *), hc]
    · rw [List.getElem?_eq_none (by omega)]
  · rfl

theorem LockInv.congr {h h' : RRDHOST} (hl : LockInv h) (ht : h'.threads = h.threads)
    (hlen : h'.charts.length = h.charts.length) (hm : h'.sender_mutex = h.sender_mutex) : LockInv h' :=
  ⟨by simpa only [ht, hm] using hl.owner, by simpa only [ht, hm] using hl.locked,
    by simpa only [ht, hlen] using hl.chart⟩

theorem LockInv.unique {h : RRDHOST} (hl : LockInv h) {i j : Nat} (hi : (h.threads i).pc.holds)
    (hj : (h.threads j).pc.holds) : j = i := by
  have := (hl.owner i hi).symm.trans (hl.owner j hj)
  simpa using this.symm

/-- Thread `i` moves, inside or outside the mutex, without taking or leaving it. -/
theorem LockInv.move {h : RRDHOST} (hl : LockInv h) {i : Nat} {t' : Thread}
    (hchart : t'.pc ≠ .idle → t'.st < h.charts.length) (hholds : t'.pc.holds = (h.threads i).pc.holds) :
    LockInv (h.setThread i t') := by
  refine ⟨fun j hj => ?_, fun j hj => ?_, fun j hj => ?_⟩ <;> by_cases hji : j = i
  · subst hji; simp only [setThread_threads, Function.update_same, hholds] at hj; exact hl.owner j hj
  · simp only [setThread_threads, Function.update_noteq hji] at hj; exact hl.owner j hj
  · subst hji; simpa [hholds] using hl.locked j hj
  · simpa [Function.update_noteq hji] using hl.locked j hj
  · subst hji; simp only [setThread_threads, Function.update_same] at hj ⊢; exact hchart hj
  · simp only [setThread_threads, Function.update_noteq hji] at hj ⊢; exact hl.chart j hj

theorem CounterInv.congr {h h' : RRDHOST} (hi : CounterInv h) (ht : h'.threads = h.threads)
    (hp : h'.in_progress = h.in_progress) (hm : h'.sender_mutex = h.sender_mutex)
    (hc : h'.replicating_charts = h.replicating_charts) : CounterInv h' := by
  have hl : h'.charts.length = h.charts.length := by
    rw [← in_progress_length, ← in_progress_length, hp]
  have hpend : h'.pending = h.pending := by simp only [RRDHOST.pending, hm, ht]
  exact ⟨hi.toLockInv.congr ht hl hm, by simpa only [ht, hp] using hi.fresh,
    by simpa only [hc, hpend, RRDHOST.flagged, hp] using hi.counter⟩

/-- Thread `i` moves and changes no flag and no counter. -/
theorem CounterInv.move {h : RRDHOST} (hi : CounterInv h) (i : Nat) {t' : Thread}
    (hchart : t'.pc ≠ .idle → t'.st < h.charts.length) (hholds : t'.pc.holds = (h.threads i).pc.holds)
    (hwin : t'.pc.window = (h.threads i).pc.window)
    (hfresh : t'.pc = .set_in_progress → h.in_progress[t'.st]? = some false) :
    CounterInv (h.setThread i t') := by
  have hpend : (h.setThread i t').pending = h.pending := by
    simp only [RRDHOST.pending, setThread_sender_mutex, setThread_threads]
    cases h.sender_mutex with
    | none => rfl
    | some k =>
      by_cases hk : k = i
      · subst hk; simp [hwin]
      · simp [Function.update_noteq hk]
  refine ⟨hi.toLockInv.move hchart hholds, fun j hj => ?_, ?_⟩
  · by_cases hji : j = i
    · subst hji; simp only [setThread_threads, Function.update_same] at hj ⊢; exact hfresh hj
    · simp only [setThread_threads, Function.update_noteq hji] at hj ⊢; exact hi.fresh j hj
  · rw [hpend, setThread_replicating_charts, RRDHOST.flagged, setThread_in_progress]
    exact hi.counter

/-- A step outside the mutex, from a busy place to a place outside the mutex. -/
theorem CounterInv.quiet {h : RRDHOST} (hi : CounterInv h) (i : Nat) {t' : Thread}
    (hpc : (h.threads i).pc ≠ .idle) (hst : t'.st = (h.threads i).st)
    (hold : (h.threads i).pc.holds = false) (hnew : t'.pc.holds = false) : CounterInv (h.setThread i t') := by
  exact hi.move i (fun _ => hst ▸ hi.chart i hpc) (by rw [hold, hnew])
    (by rw [Pc.window_of_holds hold, Pc.window_of_holds hnew])
    (fun h => by simp [h, Pc.holds] at hnew)

/-- `sender_start` takes the free mutex. -/
theorem CounterInv.acquire {h : RRDHOST} (hi : CounterInv h) {i : Nat} {t' : Thread}
    (hm : h.sender_mutex = none) (hpc : (h.threads i).pc ≠ .idle) (hst : t'.st = (h.threads i).st)
    (ht' : t'.pc = .write) : CounterInv ({ h with sender_mutex := some i }.setThread i t') := by
  have free : ∀ j, (h.threads j).pc.holds = false := fun j => by
    cases hj : (h.threads j).pc.holds
    · rfl
    · simp [hi.owner j hj] at hm
  refine ⟨⟨fun j hj => ?_, fun j hj => ?_, fun j hj => ?_⟩, fun j hj => ?_, ?_⟩
  · by_cases hji : j = i
    · subst hji; rfl
    · simp [Function.update_noteq hji, free j] at hj
  · simp only [setThread_sender_mutex, Option.some_inj] at hj
    subst hj; simp [ht', Pc.holds]
  · by_cases hji : j = i
    · subst hji; simpa [hst] using hi.chart j hpc
    · simp only [setThread_threads, Function.update_noteq hji] at hj ⊢; exact hi.chart j hj
  · by_cases hji : j = i
    · subst hji; simp [ht'] at hj
    · simp only [setThread_threads, Function.update_noteq hji] at hj ⊢; exact hi.fresh j hj
  · have := hi.counter
    simp only [RRDHOST.pending, hm] at this
    simp [RRDHOST.pending, ht', Pc.window, RRDHOST.flagged, RRDHOST.in_progress] at this ⊢
    exact this

/-- `sender_commit` leaves the mutex. -/
theorem CounterInv.release {h : RRDHOST} (hi : CounterInv h) {i : Nat} {t' : Thread}
    (hp : (h.threads i).pc = .commit) (hst : t'.st = (h.threads i).st) (ht' : t'.pc = .mark_exposed)
    (wb : List Record) : CounterInv ((h.sender_commit wb).setThread i t') := by
  have hm : h.sender_mutex = some i := hi.owner i (by simp [hp, Pc.holds])
  refine ⟨⟨fun j hj => ?_, fun j hj => ?_, fun j hj => ?_⟩, fun j hj => ?_, ?_⟩
  · by_cases hji : j = i
    · subst hji; simp [ht', Pc.holds] at hj
    · simp only [setThread_threads, sender_commit_threads, Function.update_noteq hji] at hj
      exact absurd (hi.unique (by simp [hp, Pc.holds]) hj) hji
  · simp [RRDHOST.sender_commit] at hj
  · by_cases hji : j = i
    · subst hji; simpa [hst] using hi.chart j (by simp [hp])
    · simp only [setThread_threads, sender_commit_threads, Function.update_noteq hji] at hj ⊢
      exact hi.chart j hj
  · by_cases hji : j = i
    · subst hji; simp [ht'] at hj
    · simp only [setThread_threads, sender_commit_threads, Function.update_noteq hji] at hj ⊢
      exact hi.fresh j hj
  · have := hi.counter
    simp only [RRDHOST.pending, hm, hp, Pc.window] at this
    simpa [RRDHOST.pending, RRDHOST.sender_commit, RRDHOST.flagged, RRDHOST.in_progress] using this

/-- The flag set: one more chart flagged, and the setter enters the window. -/
theorem CounterInv.flag_set {h : RRDHOST} (hi : CounterInv h) {i : Nat}
    (hp : (h.threads i).pc = .set_in_progress) :
    CounterInv ((h.setChart (h.threads i).st { h.chart (h.threads i).st with
        flags := { (h.chart (h.threads i).st).flags with SENDER_REPLICATION_IN_PROGRESS := true } }).setThread i
      { h.threads i with pc := .clear_finished }) := by
  have hf := hi.fresh i hp
  have hlt : (h.threads i).st < h.in_progress.length := (List.getElem?_eq_some_iff.1 hf).1
  have hm : h.sender_mutex = some i := hi.owner i (by simp [hp, Pc.holds])
  refine ⟨(hi.toLockInv.congr (by rfl) (by simp [RRDHOST.setChart]) (by rfl)).move
    (fun _ => by simpa [RRDHOST.setChart] using hi.chart i (by simp [hp])) (by simp [hp, Pc.holds]),
    fun j hj => ?_, ?_⟩
  · by_cases hji : j = i
    · subst hji; simp at hj
    · simp only [setThread_threads, setChart_threads, Function.update_noteq hji] at hj
      exact absurd (hi.unique (by simp [hp, Pc.holds]) (by simp [hj, Pc.holds])) hji
  · have hc := hi.counter
    have hget : h.in_progress[(h.threads i).st] = false := by
      simpa [List.getElem?_eq_getElem hlt] using hf
    simp [RRDHOST.pending, hm, hp, Pc.window, RRDHOST.flagged, in_progress_setChart,
      List.count_set _ _ _ _ hlt, hget] at hc ⊢
    omega

/-- `rrdhost_sender_replicating_charts_plus_one`: the setter leaves the window. -/
theorem CounterInv.plus_one {h : RRDHOST} (hi : CounterInv h) {i : Nat} (hp : (h.threads i).pc = .plus_one) :
    CounterInv ({ h with replicating_charts := h.replicating_charts + 1 }.setThread i
      { h.threads i with pc := .commit }) := by
  have hm : h.sender_mutex = some i := hi.owner i (by simp [hp, Pc.holds])
  refine ⟨(hi.toLockInv.congr (by rfl) (by rfl) (by rfl)).move (fun _ => hi.chart i (by simp [hp]))
    (by simp [hp, Pc.holds]), fun j hj => ?_, ?_⟩
  · by_cases hji : j = i
    · subst hji; simp at hj
    · simp only [setThread_threads, Function.update_noteq hji] at hj ⊢; exact hi.fresh j hj
  · have hc := hi.counter
    simp [RRDHOST.pending, hm, hp, Pc.window, RRDHOST.flagged, RRDHOST.in_progress] at hc ⊢
    omega

/-- The replication subsystem finishes a flagged chart: one chart fewer, one less counted. -/
theorem CounterInv.complete {h : RRDHOST} (hi : CounterInv h) {st : Nat}
    (hip : (h.chart st).flags.SENDER_REPLICATION_IN_PROGRESS = true) :
    CounterInv ({ h with replicating_charts := h.replicating_charts - 1 }.setChart st { h.chart st with
      flags := { (h.chart st).flags with
        SENDER_REPLICATION_IN_PROGRESS := false, SENDER_REPLICATION_FINISHED := true } }) := by
  have hlt : st < h.charts.length := by
    by_contra hn
    simp [RRDHOST.chart, List.getElem?_eq_none (Nat.le_of_not_lt hn)] at hip
  have hget : h.in_progress[st]? = some true := hip ▸ in_progress_getElem? hlt
  refine ⟨hi.toLockInv.congr (by rfl) (by simp [RRDHOST.setChart]) (by rfl), fun j hj => ?_, ?_⟩
  · have hf := hi.fresh j hj
    simp only [setChart_threads, in_progress_setChart, List.getElem?_set] at hf ⊢
    split
    · simp_all [in_progress_length]
    · exact hf
  · have hc := hi.counter
    have hlt' : st < h.in_progress.length := by rwa [in_progress_length]
    have hget' : h.in_progress[st] = true := by simpa [List.getElem?_eq_getElem hlt'] using hget
    have hpos : 0 < h.in_progress.count true := List.count_pos_iff.2 (List.getElem?_mem hget)
    have e : ({ h with replicating_charts := h.replicating_charts - 1 } : RRDHOST).in_progress =
      h.in_progress := rfl
    simp [RRDHOST.pending, RRDHOST.flagged, in_progress_setChart, e, List.count_set _ _ _ _ hlt', hget']
      at hc ⊢
    omega

/-- An idle thread starts a job on a chart of the host. -/
theorem CounterInv.start {h h' : RRDHOST} (hi : CounterInv h) {i st : Nat} {pc : Pc} {collector : Bool}
    (hpc : pc.holds = false) (hs : h.start i st pc collector = some h') : CounterInv h' := by
  unfold RRDHOST.start at hs
  split at hs <;> cases hs
  obtain ⟨hidle, hst⟩ := ‹_ ∧ _›
  refine hi.move i (fun _ => hst) ?_ ?_ fun h => ?_
  · show pc.holds = _; rw [hpc, hidle]; rfl
  · show pc.window = _; rw [Pc.window_of_holds hpc, hidle]; rfl
  · change pc = _ at h; subst h; exact absurd hpc (by decide)

theorem matching_st (t : Thread) (f : RRDSET_FLAGS) : (t.matching f).st = t.st := by
  unfold Thread.matching; split <;> rfl

theorem matching_holds (t : Thread) (f : RRDSET_FLAGS) : (t.matching f).pc.holds = false := by
  unfold Thread.matching Thread.sending; split <;> (try split) <;> rfl

theorem sending_holds (t : Thread) : t.sending.holds = false := by
  unfold Thread.sending; split <;> rfl

theorem classify_in_progress (f : RRDSET_FLAGS) (b : Bool) :
    (f.classify b).SENDER_REPLICATION_IN_PROGRESS = f.SENDER_REPLICATION_IN_PROGRESS := by
  unfold RRDSET_FLAGS.classify; split <;> rfl

theorem after_values_flags (h : RRDHOST) (c : RRDSET) : (after_values h c).flags = c.flags := by
  unfold after_values; split <;> rfl

theorem CounterInv.thread {h h' : RRDHOST} (hi : CounterInv h) {i : Nat} (hs : thread_step h i = some h') :
    CounterInv h' := by
  dsimp only [thread_step] at hs
  split at hs <;> rename_i hp
  case h_1 => cases hs
  case h_2 =>
    cases hs
    exact hi.quiet i (by simp [hp]) (by rfl) (by simp [hp, Pc.holds]) (by split_ifs <;> rfl)
  case h_3 =>
    split at hs <;> cases hs
    exact (hi.congr (by rfl) (by rfl) (by simp [RRDHOST.sender_commit, *]) (by rfl)).quiet i
      (by simp [hp]) rfl (by simp [hp, Pc.holds]) (by rfl)
  case h_4 => cases hs; exact hi.quiet i (by simp [hp]) (by rfl) (by simp [hp, Pc.holds]) (by rfl)
  case h_5 | h_6 =>
    cases hs
    exact hi.quiet i (by simp [hp]) (by split <;> simp [matching_st]) (by simp [hp, Pc.holds])
      (by split <;> first | rfl | exact matching_holds _ _)
  case h_7 =>
    cases hs
    exact (hi.congr (by rfl) (in_progress_setChart_of_eq (by simp [classify_in_progress])) (by rfl)
      (by rfl)).quiet i (by simp [hp]) (by rfl) (by simp [hp, Pc.holds]) (by rfl)
  case h_8 =>
    cases hs
    exact hi.quiet i (by simp [hp]) (by rfl) (by simp [hp, Pc.holds]) (by split <;> first | rfl | exact sending_holds _)
  case h_9 =>
    split at hs <;> cases hs
    exact hi.acquire ‹_› (by simp [hp]) rfl rfl
  case h_10 =>
    cases hs
    exact hi.move i (fun _ => hi.chart i (by simp [hp])) (by split <;> simp [hp, Pc.holds])
      (by split <;> simp [hp, Pc.window]) (by split <;> simp)
  case h_11 =>
    cases hs
    exact hi.move i (fun _ => hi.chart i (by simp [hp])) (by split <;> simp [hp, Pc.holds])
      (by split <;> simp [hp, Pc.window])
      (by split <;> simp_all [in_progress_getElem? (hi.chart i (by simp [hp]))])
  case h_12 => cases hs; exact hi.flag_set hp
  case h_13 =>
    cases hs
    exact (hi.congr (by rfl) (in_progress_setChart_of_eq (by rfl)) (by rfl) (by rfl)).move i
      (fun _ => by simpa [RRDHOST.setChart] using hi.chart i (by simp [hp])) (by simp [hp, Pc.holds])
      (by simp [hp, Pc.window]) (by simp)
  case h_14 => cases hs; exact hi.plus_one hp
  case h_15 => cases hs; exact hi.release hp (by rfl) (by rfl) _
  case h_16 =>
    cases hs
    exact (hi.congr (by rfl) (in_progress_setChart_of_eq (by rfl)) (by rfl) (by rfl)).quiet i (by simp [hp]) (by rfl)
      (by simp [hp, Pc.holds]) (by split <;> rfl)
  case h_17 =>
    split at hs <;> cases hs
    have hp' : ((h.setChart (h.threads i).st (after_values h (h.chart (h.threads i).st))).sender_commit
        (value_group h (h.threads i).st (h.chart (h.threads i).st))).in_progress = h.in_progress :=
      in_progress_setChart_of_eq (by simp [after_values_flags])
    exact (hi.congr (by rfl) hp' (by simp [RRDHOST.sender_commit, *]) (by rfl)).quiet i (by simp [hp]) (by rfl) (by simp [hp, Pc.holds]) (by rfl)

theorem CounterInv.after_step {h h' : RRDHOST} (hi : CounterInv h) {e : Event}
    (hs : step h e = some h') : CounterInv h' := by
  cases e with
  | thread i => exact hi.thread hs
  | tick i st => exact hi.start (by rfl) hs
  | definition_now i st => exact hi.start (by rfl) hs
  | replication_finished st =>
    simp only [step] at hs
    split at hs <;> cases hs
    exact hi.complete ‹_›
  | rename st b => cases hs; exact hi.congr (by rfl) (in_progress_setChart_of_eq (by rfl)) (by rfl) (by rfl)
  | ml_streaming b => cases hs; exact hi.congr (by rfl) (by rfl) (by rfl) (by rfl)
  | add_dim st rd => cases hs; exact hi.congr (by rfl) (in_progress_setChart_of_eq (by rfl)) (by rfl) (by rfl)
  | receiver_replication_finished st =>
    cases hs; exact hi.congr (by rfl) (in_progress_setChart_of_eq (by rfl)) (by rfl) (by rfl)
  | global_functions_updated b => cases hs; exact hi.congr (by rfl) (by rfl) (by rfl) (by rfl)
  | disconnect =>
    simp only [step] at hs
    split at hs <;> cases hs
    exact hi.congr (by rfl) (by simp [RRDHOST.in_progress, RRDSET.reconnect, Function.comp_def]) (by rfl)
      (by rfl)
  | connect r v =>
    simp only [step] at hs
    split at hs <;> cases hs
    exact hi.congr (by rfl) (by rfl) (by rfl) (by rfl)
  | ready =>
    simp only [step] at hs
    split at hs <;> cases hs
    exact hi.congr (by rfl) (by rfl) (by rfl) (by rfl)

theorem CounterInv.init (charts : List NewChart) : CounterInv (RRDHOST.init charts) := by
  refine ⟨⟨fun i h => ?_, fun i h => ?_, fun i h => ?_⟩, fun i h => ?_, ?_⟩ <;>
    simp_all [RRDHOST.init, Pc.holds, RRDHOST.pending, RRDHOST.flagged, RRDHOST.in_progress,
      NewChart.create, Function.comp_def, List.count_replicate]

/-- In every run, the replicating-charts counter, plus one while the definition sender holding
the commit mutex is between its flag set and its increment, is the number of charts with
`SENDER_REPLICATION_IN_PROGRESS`. -/
theorem replicating_charts_counts_flags {h : RRDHOST} (hr : Reachable h) :
    h.replicating_charts + h.pending = h.flagged := by
  suffices CounterInv h from this.counter
  induction hr with
  | init charts => exact .init charts
  | step _ _ hs ih => exact ih.after_step hs

/-! ## A classification is never taken back -/

/-- Every flag `UPSTREAM_SEND` or `UPSTREAM_IGNORE` set in `h` is still set in `h'`. -/
def Keeps (h h' : RRDHOST) : Prop :=
  ∀ st, ((h.chart st).flags.UPSTREAM_SEND → (h'.chart st).flags.UPSTREAM_SEND) ∧
    ((h.chart st).flags.UPSTREAM_IGNORE → (h'.chart st).flags.UPSTREAM_IGNORE)

theorem Keeps.of_charts {h h' : RRDHOST} (hc : h'.charts = h.charts) : Keeps h h' := fun st => by
  simp [RRDHOST.chart, hc]

theorem Keeps.setChart {h h' : RRDHOST} {st : Nat} {c : RRDSET} (hc : h'.charts = (h.setChart st c).charts)
    (hs : (h.chart st).flags.UPSTREAM_SEND → c.flags.UPSTREAM_SEND)
    (hi : (h.chart st).flags.UPSTREAM_IGNORE → c.flags.UPSTREAM_IGNORE) : Keeps h h' := fun j => by
  simp only [RRDHOST.chart, hc, RRDHOST.setChart, List.getElem?_set]
  split
  · subst_vars
    split
    · simpa [RRDHOST.chart, *] using And.intro hs hi
    · rw [List.getElem?_eq_none (by omega)]; exact ⟨id, id⟩
  · exact ⟨id, id⟩

theorem classify_upstream (f : RRDSET_FLAGS) (b : Bool) :
    (f.UPSTREAM_SEND → (f.classify b).UPSTREAM_SEND) ∧ (f.UPSTREAM_IGNORE → (f.classify b).UPSTREAM_IGNORE) := by
  unfold RRDSET_FLAGS.classify; split <;> simp

theorem keeps_thread_step {h h' : RRDHOST} {i : Nat} (hs : thread_step h i = some h') : Keeps h h' := by
  dsimp only [thread_step] at hs
  split at hs
  all_goals (try split at hs) <;> cases hs
  all_goals first
    | exact Keeps.of_charts rfl
    | exact Keeps.setChart rfl (classify_upstream _ _).1 (classify_upstream _ _).2
    | exact Keeps.setChart rfl (by simp [after_values_flags]) (by simp [after_values_flags])

/-- No step clears a chart's `UPSTREAM_SEND` or `UPSTREAM_IGNORE`: once a chart is classified,
the other flag can still be added (`send_and_ignore`), but neither is taken back. -/
theorem step_keeps_classification {h h' : RRDHOST} {e : Event} (hs : step h e = some h') : Keeps h h' := by
  cases e with
  | thread i => exact keeps_thread_step hs
  | tick i st => simp only [step, RRDHOST.start] at hs; split at hs <;> cases hs; exact Keeps.of_charts rfl
  | definition_now i st =>
    simp only [step, RRDHOST.start] at hs; split at hs <;> cases hs; exact Keeps.of_charts rfl
  | replication_finished st =>
    simp only [step] at hs; split at hs <;> cases hs; exact Keeps.setChart rfl id id
  | rename st b => cases hs; exact Keeps.setChart rfl id id
  | ml_streaming b => cases hs; exact Keeps.of_charts rfl
  | add_dim st rd => cases hs; exact Keeps.setChart rfl id id
  | receiver_replication_finished st => cases hs; exact Keeps.setChart rfl id id
  | global_functions_updated b => cases hs; exact Keeps.of_charts rfl
  | disconnect =>
    simp only [step] at hs
    split at hs <;> cases hs
    intro j
    cases hj : h.charts[j]? <;> simp [RRDHOST.chart, hj, RRDSET.reconnect]
  | connect r v => simp only [step] at hs; split at hs <;> cases hs; exact Keeps.of_charts rfl
  | ready => simp only [step] at hs; split at hs <;> cases hs; exact Keeps.of_charts rfl

theorem Keeps.trans {h₁ h₂ h₃ : RRDHOST} (h₁₂ : Keeps h₁ h₂) (h₂₃ : Keeps h₂ h₃) : Keeps h₁ h₃ :=
  fun st => ⟨fun h => (h₂₃ st).1 ((h₁₂ st).1 h), fun h => (h₂₃ st).2 ((h₁₂ st).2 h)⟩

/-- Over every run, from any host, no chart loses `UPSTREAM_SEND` or `UPSTREAM_IGNORE` once it
has it; an event that cannot happen leaves the host as it is. -/
theorem run_keeps_classification (h : RRDHOST) : ∀ es : List Event, Keeps h (run h es)
  | [] => fun _ => ⟨id, id⟩
  | e :: es => by
    have h₁ : Keeps h ((step h e).getD h) := by
      cases hs : step h e with
      | none => exact fun _ => ⟨id, id⟩
      | some h' => exact step_keeps_classification hs
    exact h₁.trans (run_keeps_classification _ es)

/-- One chart with one dimension, on a child, classified by `send_charts_matching`. -/
def one_chart : List NewChart := [⟨[0], false, true, true⟩]

/-- A connection with replication and interpolated values, then thread 1 runs
`rrdset_push_chart_definition_now` on chart 0 up to its flag set. -/
def definition_to_flag_set : List Event :=
  [.connect true true, .ready, .definition_now 1 0] ++ List.replicate 7 (.thread 1)

theorem replicating_charts_counts_flags_at_flag_set :
    (run (.init one_chart) definition_to_flag_set).replicating_charts +
        (run (.init one_chart) definition_to_flag_set).pending =
      (run (.init one_chart) definition_to_flag_set).flagged :=
  replicating_charts_counts_flags (reachable_run (.init _) _)

/-- Between the flag set and the increment, the counter is one short of the flagged charts. -/
theorem counter_behind_flags : ∃ h, Reachable h ∧ h.replicating_charts ≠ h.flagged :=
  ⟨run (.init one_chart) definition_to_flag_set, reachable_run (.init _) _, by decide⟩

/-! ## Races on the wire -/

/-- The chart a record names. -/
def Record.chart : Record → Option Nat
  | .CHART st | .DIMENSION st _ | .CHART_DEFINITION_END st | .BEGIN st | .SET st _ | .BEGIN_V2 st
  | .SET_V2 st _ => some st
  | _ => none

/-- The first record naming chart `st` on connection `conn`. -/
def first_record (h : RRDHOST) (conn st : Nat) : Option Record :=
  ((h.buffer.filter fun x => x.1 = conn && x.2.chart = some st).head?).map Prod.snd

/-- Thread 1 publishes chart 0's definition, and replication of the chart finishes. -/
def published : List Event :=
  [.connect true true, .ready, .definition_now 1 0] ++ List.replicate 11 (.thread 1) ++
    [.replication_finished 0]

/-- A collector tick on chart 0 passes its checks (ready, exposed, replication finished) and is
about to commit its values. -/
def tick_checked : List Event := .tick 0 0 :: List.replicate 3 (.thread 0)

/-- The sender reconnects before the tick commits: the values reach the new connection before
any definition of the chart. -/
theorem values_before_definition_after_reconnect :
    ∃ h, Reachable h ∧ first_record h 1 0 = some (.BEGIN_V2 0) :=
  ⟨run (.init one_chart) (published ++ tick_checked ++ [.disconnect, .connect true true, .ready, .thread 0]),
    reachable_run (.init _) _, by decide⟩

/-- Thread 1 sends the definition again before the tick commits: the values follow a
`CHART_DEFINITION_END` while the chart's replication is in progress, on the same connection. -/
theorem values_after_definition_end :
    ∃ h, Reachable h ∧ (h.chart 0).flags.SENDER_REPLICATION_IN_PROGRESS = true ∧
      h.buffer = [(0, .CHART 0), (0, .DIMENSION 0 0), (0, .CHART_DEFINITION_END 0), (0, .CHART 0),
        (0, .DIMENSION 0 0), (0, .CHART_DEFINITION_END 0), (0, .BEGIN_V2 0), (0, .SET_V2 0 0), (0, .END_V2)] :=
  ⟨run (.init one_chart) (published ++ tick_checked ++ .definition_now 1 0 :: List.replicate 9 (.thread 1) ++
      [.thread 0]),
    reachable_run (.init _) _, by decide, by decide⟩

/-- A tick and `rrdset_push_chart_definition_now` both find chart 0 unclassified; the tick sets
`UPSTREAM_SEND`, the chart is renamed out of `send_charts_matching`, and the other thread sets
`UPSTREAM_IGNORE`. -/
def rename_race : List Event :=
  [.connect true true, .ready] ++ tick_checked ++
    [.definition_now 1 0, .thread 1, .thread 0, .rename 0 false, .thread 1, .thread 1]

/-- After the race the chart has both flags, and the definition is then committed. -/
theorem send_and_ignore :
    ∃ h, Reachable h ∧ (h.chart 0).flags.UPSTREAM_SEND = true ∧ (h.chart 0).flags.UPSTREAM_IGNORE = true ∧
      h.buffer = [] ∧ (0, .CHART 0) ∈ (run h (List.replicate 7 (.thread 1))).buffer :=
  ⟨run (.init one_chart) rename_race, reachable_run (.init _) _, by decide, by decide, by decide, by decide⟩

end Netdata.Stream.Publication
