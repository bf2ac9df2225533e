import Mathlib.Data.List.Basic
import Mathlib.Tactic.IntervalCases
/-!
# The signal loop

`signal_handler` and `signals_handle` (`src/daemon/signals.c`). The handler
runs to completion whenever a signal arrives (every signal is blocked while it
runs), so a delivery is one atomic step that may fall between any two steps of
the main loop; when the main loop is blocked in `pause()`, the delivery also
wakes it.

- `scan_drains`: when the loop wakes up and no further signal arrives, it blocks
  in `pause()` again only with every counter back at 0, or it exits.
- `pause_with_pending_signal`: the scan finds nothing, a `SIGUSR1` arrives
  before `pause()` blocks, and the main loop blocks with that signal still
  counted; its action waits for the next, unrelated signal.
-/

namespace Netdata.Daemon

inductive SIGNAL_ACTION where
  | NETDATA_SIGNAL_END_OF_LIST
  | NETDATA_SIGNAL_IGNORE
  | NETDATA_SIGNAL_EXIT_CLEANLY
  | NETDATA_SIGNAL_SAVE_DATABASE
  | NETDATA_SIGNAL_REOPEN_LOGS
  | NETDATA_SIGNAL_RELOAD_HEALTH
  | NETDATA_SIGNAL_FATAL
  | NETDATA_SIGNAL_CHILD
  deriving DecidableEq, Repr

open SIGNAL_ACTION

/-- The signal numbers `signals_waiting` names; `NONE` is the terminator's 0. -/
inductive Signo where
  | NONE | SIGPIPE | SIGINT | SIGQUIT | SIGTERM | SIGHUP | SIGUSR1 | SIGUSR2 | SIGBUS | SIGCHLD
  deriving DecidableEq, Repr

/-- An entry of `signals_waiting`; the name only feeds log lines. -/
structure SignalEntry where
  signo : Signo
  count : Nat
  action : SIGNAL_ACTION
  deriving DecidableEq, Repr

def signals_waiting : List SignalEntry :=
  [⟨.SIGPIPE, 0, NETDATA_SIGNAL_IGNORE⟩,
   ⟨.SIGINT, 0, NETDATA_SIGNAL_EXIT_CLEANLY⟩,
   ⟨.SIGQUIT, 0, NETDATA_SIGNAL_EXIT_CLEANLY⟩,
   ⟨.SIGTERM, 0, NETDATA_SIGNAL_EXIT_CLEANLY⟩,
   ⟨.SIGHUP, 0, NETDATA_SIGNAL_REOPEN_LOGS⟩,
   ⟨.SIGUSR1, 0, NETDATA_SIGNAL_SAVE_DATABASE⟩,
   ⟨.SIGUSR2, 0, NETDATA_SIGNAL_RELOAD_HEALTH⟩,
   ⟨.SIGBUS, 0, NETDATA_SIGNAL_FATAL⟩,
   ⟨.SIGCHLD, 0, NETDATA_SIGNAL_CHILD⟩,
   ⟨.NONE, 0, NETDATA_SIGNAL_END_OF_LIST⟩]

/-- Find the entry of `signo` before the terminator and count one more. -/
def signal_handler : List SignalEntry → Signo → List SignalEntry
  | [], _ => []
  | e :: es, signo =>
    if e.action = NETDATA_SIGNAL_END_OF_LIST then e :: es
    else if e.signo = signo then { e with count := e.count + 1 } :: es
    else e :: signal_handler es signo

/-- `signals_init` installs `signal_handler` for every entry that is not
ignored; only those signals reach it. -/
def handled (signo : Signo) : Bool :=
  signals_waiting.any fun e => e.signo = signo &&
    e.action != NETDATA_SIGNAL_IGNORE && e.action != NETDATA_SIGNAL_END_OF_LIST

/-- Where the main thread is in `signals_handle`: blocked in `pause()`, at the
test of `while(found)`, at the test of entry `i` in the `for` loop, about to
clear entry `i` and run its action, or gone after an exit action. -/
inductive Pc where
  | pause
  | outer
  | check (i : Nat)
  | clear (i : Nat)
  | exited
  deriving DecidableEq, Repr

structure State where
  signals_waiting : List SignalEntry
  found : Bool
  pc : Pc
  deriving DecidableEq, Repr

/-- The main thread is about to block in `pause()` when the program starts. -/
def init : State := ⟨signals_waiting, false, .pause⟩

/-- Whether an action ends the process (`netdata_cleanup_and_exit`, `fatal`). -/
def exits (a : SIGNAL_ACTION) : Bool :=
  a = NETDATA_SIGNAL_EXIT_CLEANLY || a = NETDATA_SIGNAL_FATAL

/-- One step of the main thread. In `pause()` it waits for a delivery. -/
def main_step (s : State) : State :=
  match s.pc with
  | .pause => s
  | .outer => if s.found then { s with found := false, pc := .check 0 } else { s with pc := .pause }
  | .check i =>
    match s.signals_waiting[i]? with
    | none => { s with pc := .outer }
    | some e =>
      if e.action = NETDATA_SIGNAL_END_OF_LIST then { s with pc := .outer }
      else if e.count ≠ 0 then { s with found := true, pc := .clear i }
      else { s with pc := .check (i + 1) }
  | .clear i =>
    match s.signals_waiting[i]? with
    | none => { s with pc := .check (i + 1) }
    | some e =>
      { s with
        signals_waiting := s.signals_waiting.set i { e with count := 0 }
        pc := if exits e.action then .exited else .check (i + 1) }
  | .exited => s

/-- A delivery of `signo`: the handler runs; `pause()` returns `-1`/`EINTR`
and the loop starts with `found = 1`. -/
def deliver (s : State) (signo : Signo) : State :=
  let s := { s with signals_waiting := signal_handler s.signals_waiting signo }
  if s.pc = .pause then { s with found := true, pc := .outer } else s

inductive Event where
  | main
  | signal (signo : Signo)
  deriving DecidableEq, Repr

def step (s : State) : Event → State
  | .main => main_step s
  | .signal signo => deliver s signo

/-- An event that can happen: the main thread's next step, or a signal with a
handler installed. -/
def Event.allowed : Event → Bool
  | .main => true
  | .signal signo => handled signo

def run (s : State) (es : List Event) : State := es.foldl step s

inductive Reachable : State → Prop where
  | init : Reachable init
  | step {s : State} (e : Event) : Reachable s → e.allowed → Reachable (step s e)

/-! ## The table keeps its shape -/

/-- The signal and the action of every entry, without the counters. -/
def shape (w : List SignalEntry) : List (Signo × SIGNAL_ACTION) :=
  w.map fun e => (e.signo, e.action)

theorem shape_signal_handler (w : List SignalEntry) (signo : Signo) :
    shape (signal_handler w signo) = shape w := by
  induction w with
  | nil => rfl
  | cons e es ih =>
    simp only [signal_handler]
    split_ifs <;> simp_all [shape]

theorem shape_set_count {w : List SignalEntry} {i : Nat} {e : SignalEntry} (h : w[i]? = some e)
    (n : Nat) : shape (w.set i { e with count := n }) = shape w := by
  simp only [shape, List.map_set]
  apply List.ext_getElem?
  intro j
  rw [List.getElem?_set]
  split
  · subst_vars
    obtain ⟨hj, rfl⟩ := List.getElem?_eq_some_iff.1 h
    simp [hj]
  · rfl

theorem reachable_run {s : State} (h : Reachable s) :
    ∀ es : List Event, (∀ e ∈ es, e.allowed) → Reachable (run s es) := by
  intro es hes
  induction es generalizing s with
  | nil => exact h
  | cons e es ih =>
    exact ih (.step e h (hes e (List.mem_cons_self _ _))) fun e' he' => hes e' (List.mem_cons_of_mem _ he')

/-! ## A scan with no signal arriving -/

/-- The counter of entry `j`, 0 past the table's end. -/
def State.count (s : State) (j : Nat) : Nat := ((s.signals_waiting[j]?).map (·.count)).getD 0

/-- A table as the handler and the loop keep it: the signals and actions of `signals_waiting`,
and a terminator that is never counted. -/
structure Table (w : List SignalEntry) : Prop where
  same_shape : shape w = shape signals_waiting
  terminator : ∀ e ∈ w, e.action = NETDATA_SIGNAL_END_OF_LIST → e.count = 0

theorem mem_signal_handler {w : List SignalEntry} {signo : Signo} {x : SignalEntry}
    (hx : x ∈ signal_handler w signo) :
    x ∈ w ∨ ∃ e ∈ w, e.action ≠ NETDATA_SIGNAL_END_OF_LIST ∧ x = { e with count := e.count + 1 } := by
  induction w with
  | nil => simp [signal_handler] at hx
  | cons e es ih =>
    simp only [signal_handler] at hx
    split_ifs at hx with h1 h2
    · exact .inl hx
    · rcases List.mem_cons.1 hx with rfl | hx
      · exact .inr ⟨e, List.mem_cons_self _ _, h1, rfl⟩
      · exact .inl (List.mem_cons_of_mem _ hx)
    · rcases List.mem_cons.1 hx with rfl | hx
      · exact .inl (List.mem_cons_self _ _)
      · rcases ih hx with hx | ⟨e', he', hne, rfl⟩
        · exact .inl (List.mem_cons_of_mem _ hx)
        · exact .inr ⟨e', List.mem_cons_of_mem _ he', hne, rfl⟩

theorem Table.signal_handler {w : List SignalEntry} (ht : Table w) (signo : Signo) :
    Table (signal_handler w signo) := by
  refine ⟨(shape_signal_handler w signo).trans ht.same_shape, fun x hx hend => ?_⟩
  rcases mem_signal_handler hx with hx | ⟨e, -, hne, rfl⟩
  · exact ht.terminator x hx hend
  · exact absurd hend hne

theorem Table.set_count {w : List SignalEntry} (ht : Table w) {i : Nat} {e : SignalEntry}
    (h : w[i]? = some e) : Table (w.set i { e with count := 0 }) := by
  refine ⟨(shape_set_count h 0).trans ht.same_shape, fun x hx hend => ?_⟩
  rcases List.mem_or_eq_of_mem_set hx with hx | rfl
  · exact ht.terminator x hx hend
  · rfl

theorem Table.after_step {s : State} (ht : Table s.signals_waiting) (ev : Event) :
    Table (step s ev).signals_waiting := by
  cases ev with
  | signal signo =>
    simp only [step, deliver]
    split <;> exact ht.signal_handler signo
  | main =>
    simp only [step, main_step]
    split
    · exact ht
    · split <;> exact ht
    · split
      · exact ht
      · split_ifs <;> exact ht
    · split
      · exact ht
      · exact ht.set_count ‹_›
    · exact ht

theorem reachable_table {s : State} (h : Reachable s) : Table s.signals_waiting := by
  induction h with
  | init => exact ⟨rfl, by decide⟩
  | step ev _ _ ih => exact ih.after_step ev

theorem Table.length {w : List SignalEntry} (ht : Table w) : w.length = 10 := by
  simpa [shape] using congrArg List.length ht.same_shape

/-- Entry `j` of a table exists, and is the terminator iff `j = 9`. -/
theorem Table.entry {w : List SignalEntry} (ht : Table w) {j : Nat} (hj : j < 10) :
    ∃ e, w[j]? = some e ∧ (e.action = NETDATA_SIGNAL_END_OF_LIST ↔ j = 9) := by
  have hs := congrArg (·[j]?) ht.same_shape
  obtain ⟨e, he⟩ : ∃ e, w[j]? = some e :=
    ⟨w.get ⟨j, by rw [ht.length]; exact hj⟩, List.getElem?_eq_some_iff.2 ⟨_, rfl⟩⟩
  simp only [shape, List.getElem?_map, he] at hs
  refine ⟨e, he, ?_⟩
  interval_cases j <;> simp_all [signals_waiting]

theorem exists_from_succ {c : Nat → Nat} {i : Nat} (h : c i = 0) :
    (∃ j, i + 1 ≤ j ∧ c j ≠ 0) ↔ ∃ j, i ≤ j ∧ c j ≠ 0 := by
  refine ⟨fun ⟨j, hj, hc⟩ => ⟨j, by omega, hc⟩, fun ⟨j, hj, hc⟩ => ⟨j, ?_, hc⟩⟩
  rcases Nat.eq_or_lt_of_le hj with rfl | hj
  · exact absurd h hc
  · exact hj

theorem iterate_main_step_succ (n : Nat) (s : State) :
    main_step^[n + 1] s = main_step^[n] (main_step s) := rfl

/-- One scan of the table from entry `i` on, with no signal arriving: the loop exits, or it comes
back to `while(found)` with every counter from `i` on cleared, the counters before `i` as they
were, and `found` set iff it was or a counter from `i` on was not 0. -/
theorem scan {k : Nat} : ∀ (s : State) (i : Nat), i + k = 9 → s.pc = .check i →
    Table s.signals_waiting → ∃ n, (main_step^[n] s).pc = .exited ∨
      ((main_step^[n] s).pc = .outer ∧ Table (main_step^[n] s).signals_waiting ∧
        (∀ j, i ≤ j → (main_step^[n] s).count j = 0) ∧
        (∀ j < i, (main_step^[n] s).count j = s.count j) ∧
        ((main_step^[n] s).found = true ↔ s.found = true ∨ ∃ j, i ≤ j ∧ s.count j ≠ 0)) := by
  induction k with
  | zero =>
    intro s i hi hpc ht
    obtain rfl : i = 9 := by omega
    obtain ⟨e, he, hend⟩ := ht.entry (show 9 < 10 by omega)
    have h1 : main_step s = { s with pc := .outer } := by simp [main_step, hpc, he, hend.2 rfl]
    have hz : ∀ j, 9 ≤ j → s.count j = 0 := fun j hj => by
      rcases Nat.eq_or_lt_of_le hj with rfl | hj
      · simp [State.count, he, ht.terminator e (List.getElem?_mem he) (hend.2 rfl)]
      · rw [State.count, List.getElem?_eq_none (by rw [ht.length]; omega)]; rfl
    refine ⟨1, .inr ?_⟩
    rw [Function.iterate_one, h1]
    refine ⟨rfl, ht, hz, fun _ _ => rfl, ⟨.inl, ?_⟩⟩
    rintro (h | ⟨j, hj, hj'⟩)
    · exact h
    · exact absurd (hz j hj) hj'
  | succ k ih =>
    intro s i hi hpc ht
    obtain ⟨e, he, hend⟩ := ht.entry (show i < 10 by omega)
    have hne : e.action ≠ NETDATA_SIGNAL_END_OF_LIST := fun h => by have := hend.1 h; omega
    by_cases hc : e.count = 0
    · -- nothing pending at `i`: on to `i + 1`
      have h1 : main_step s = { s with pc := .check (i + 1) } := by simp [main_step, hpc, he, hne, hc]
      obtain ⟨n, hn⟩ := ih { s with pc := .check (i + 1) } (i + 1) (by omega) rfl ht
      refine ⟨n + 1, ?_⟩
      rw [iterate_main_step_succ, h1]
      rcases hn with hn | ⟨hpc', ht', hz, hsame, hfound⟩
      · exact .inl hn
      have hci : s.count i = 0 := by simp [State.count, he, hc]
      refine .inr ⟨hpc', ht', fun j hj => ?_, fun j hj => hsame j (by omega), ?_⟩
      · rcases Nat.eq_or_lt_of_le hj with rfl | hj
        · rw [hsame i (by omega)]; exact hci
        · exact hz j hj
      · rw [hfound, ← exists_from_succ hci]; rfl
    · -- a signal is pending at `i`: clear it and run its action
      set s2 : State := { s with signals_waiting := s.signals_waiting.set i { e with count := 0 }
                                 found := true
                                 pc := if exits e.action then .exited else .check (i + 1) }
      have h2 : main_step (main_step s) = s2 := by simp [main_step, hpc, he, hne, hc, s2]
      by_cases hx : exits e.action
      · exact ⟨2, .inl (by rw [iterate_main_step_succ, iterate_main_step_succ]; simp [h2, s2, hx])⟩
      have hcount : ∀ j, s2.count j = if j = i then 0 else s.count j := fun j => by
        by_cases hj : j = i
        · subst hj; simp [s2, State.count, List.getElem?_set, he, (List.getElem?_eq_some_iff.1 he).1]
        · simp [s2, State.count, List.getElem?_set, Ne.symm hj, hj]
      obtain ⟨n, hn⟩ := ih s2 (i + 1) (by omega) (by simp [s2, hx]) (ht.set_count he)
      refine ⟨n + 2, ?_⟩
      rw [show n + 2 = n + 1 + 1 from rfl, iterate_main_step_succ, iterate_main_step_succ, h2]
      rcases hn with hn | ⟨hpc', ht', hz, hsame, hfound⟩
      · exact .inl hn
      refine .inr ⟨hpc', ht', fun j hj => ?_, fun j hj => ?_, ?_⟩
      · rcases Nat.eq_or_lt_of_le hj with rfl | hj
        · rw [hsame i (by omega), hcount]; simp
        · exact hz j hj
      · rw [hsame j (by omega), hcount, if_neg (by omega)]
      · simp only [hfound, s2, true_or, true_iff]
        exact .inr ⟨i, le_refl i, by simp [State.count, he, hc]⟩

/-- The counters of a table that are all 0 by `State.count`. -/
theorem all_zero {s : State} (hz : ∀ j, s.count j = 0) : ∀ e ∈ s.signals_waiting, e.count = 0 := by
  intro e he
  obtain ⟨j, hj⟩ := List.getElem?_of_mem he
  simpa [State.count, hj] using hz j

/-- The main loop, left alone, either exits or blocks in `pause()` with every counter at 0. -/
def Drained (s : State) : Prop :=
  ∃ n, (main_step^[n] s).pc = .exited ∨
    ((main_step^[n] s).pc = .pause ∧ ∀ e ∈ (main_step^[n] s).signals_waiting, e.count = 0)

theorem Drained.of_iterate {s : State} {n : Nat} (h : Drained (main_step^[n] s)) : Drained s := by
  obtain ⟨m, hm⟩ := h
  exact ⟨m + n, by rwa [Function.iterate_add_apply]⟩

/-- At `while(found)` with `found = 0` and nothing counted, the loop pauses at once. -/
theorem drained_of_quiet {s : State} (hpc : s.pc = .outer) (hf : s.found = false)
    (hz : ∀ j, s.count j = 0) : Drained s := by
  have h1 : main_step^[1] s = { s with pc := .pause } := by simp [main_step, hpc, hf]
  exact ⟨1, .inr ⟨by rw [h1], by rw [h1]; exact all_zero hz⟩⟩

/-- A scan from `while(found)` with `found = 1`: the loop exits, or comes back with every
counter cleared and `found` telling whether one was not 0. -/
theorem outer_scan {s : State} (hpc : s.pc = .outer) (hf : s.found = true) (ht : Table s.signals_waiting) :
    (∃ n, (main_step^[n] s).pc = .exited) ∨
      ∃ n, (main_step^[n] s).pc = .outer ∧ Table (main_step^[n] s).signals_waiting ∧
        (∀ j, (main_step^[n] s).count j = 0) ∧ ((main_step^[n] s).found = true ↔ ∃ j, s.count j ≠ 0) := by
  have h1 : main_step s = { s with found := false, pc := .check 0 } := by simp [main_step, hpc, hf]
  obtain ⟨n, hn | ⟨hpc', ht', hz, -, hfound⟩⟩ :=
    @scan 9 { s with found := false, pc := .check 0 } 0 rfl rfl ht
  · exact .inl ⟨n + 1, by rw [iterate_main_step_succ, h1]; exact hn⟩
  · refine .inr ⟨n + 1, ?_, ?_, ?_, ?_⟩ <;> rw [iterate_main_step_succ, h1]
    · exact hpc'
    · exact ht'
    · exact fun j => hz j (Nat.zero_le j)
    · rw [hfound]; simp; rfl

/-- When the loop wakes up, or comes back to `while(found)` after a scan that found a signal,
and no further signal arrives, it blocks in `pause()` again only with every counter at 0, unless
an action made it exit. -/
theorem scan_drains {s : State} (hr : Reachable s) (hpc : s.pc = .outer) (hf : s.found = true) :
    Drained s := by
  have ht := reachable_table hr
  rcases outer_scan hpc hf ht with ⟨n, hn⟩ | ⟨n, hpc', ht', hz, -⟩
  · exact ⟨n, .inl hn⟩
  refine Drained.of_iterate (?_ : Drained (main_step^[n] s))
  cases hf' : (main_step^[n] s).found
  · exact drained_of_quiet hpc' hf' hz
  -- the scan found a signal: a second scan finds nothing
  rcases outer_scan hpc' hf' ht' with ⟨m, hm⟩ | ⟨m, hpc'', -, hz', hfound'⟩
  · exact ⟨m, .inl hm⟩
  refine Drained.of_iterate (drained_of_quiet hpc'' ?_ hz')
  cases h : (main_step^[m] (main_step^[n] s)).found
  · rfl
  · obtain ⟨j, hj⟩ := hfound'.1 h
    exact absurd (hz j) hj

/-- A `SIGUSR1` wakes the loop from `pause()`. -/
theorem usr1_wakeup_drains :
    Reachable (run init [.signal .SIGUSR1]) ∧ (run init [.signal .SIGUSR1]).pc = .outer ∧
      (run init [.signal .SIGUSR1]).found = true ∧ Drained (run init [.signal .SIGUSR1]) :=
  ⟨reachable_run .init _ (by decide), by decide, by decide,
    scan_drains (reachable_run .init _ (by decide)) (by decide) (by decide)⟩

/-! ## A signal left for later -/

/-- `SIGHUP` wakes the loop, two scans run (the second finds nothing), and a
`SIGUSR1` arrives while the loop is back at `while(found)`, after the scan. -/
def late_signal : List Event :=
  [.signal .SIGHUP] ++ List.replicate 23 .main ++ [.signal .SIGUSR1, .main]

/-- The main loop blocks in `pause()` while `SIGUSR1` is still counted: its
action waits for the next signal. -/
theorem pause_with_pending_signal :
    ∃ s, Reachable s ∧ s.pc = .pause ∧ ∃ e ∈ s.signals_waiting, e.signo = .SIGUSR1 ∧ e.count = 1 :=
  ⟨run init late_signal, reachable_run .init late_signal (by decide),
    by decide, ⟨.SIGUSR1, 1, .NETDATA_SIGNAL_SAVE_DATABASE⟩, by decide, rfl, rfl⟩

end Netdata.Daemon
