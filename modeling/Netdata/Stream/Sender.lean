import Mathlib.Data.List.Basic
/-!
# Spawning and stopping the sender thread

`rrdpush_sender_thread_spawn` and `rrdpush_sender_thread_stop` (`src/streaming/rrdpush.c`),
called by any number of collector threads (through `rrdset_push_metric_initialize`) and
stoppers, with the sender threads' own start and exit. Every read or write of shared state is
a step; a thread blocked on the sender lock has no step.

- `sender_spawn_safe`: at most one sender thread is alive, and `RRDPUSH_SENDER_SPAWN` is set
  iff one is, except while the spawner that created it still holds the sender lock before
  setting the flag.
- `created_sender_before_flag`: that window is reachable: a sender thread runs while the flag
  is clear.
-/

namespace Netdata.Stream.Sender

/-- Where a caller is: in `rrdset_push_metric_initialize` before its load of the host flags;
in `rrdpush_sender_thread_spawn` at the lock, the flag check, `netdata_thread_create`, the flag
set and the unlock; in `rrdpush_sender_thread_stop` at the lock, the flag check (which sets
`exit.shutdown` and cancels the thread), the unlock, and the wait loop on `sender->tid`. -/
inductive Pc where
  | idle
  | load_flags
  | spawn_lock
  | spawn_check
  | spawn_create
  | spawn_flag
  | spawn_unlock
  | stop_lock
  | stop_check
  | stop_unlock
  | wait_lock
  | wait_check
  | wait_unlock (again : Bool)
  deriving DecidableEq, Repr

/-- The places where the caller holds the sender lock. -/
def Pc.holds : Pc → Bool
  | .spawn_check | .spawn_create | .spawn_flag | .spawn_unlock
  | .stop_check | .stop_unlock | .wait_check | .wait_unlock _ => true
  | _ => false

structure Caller where
  pc : Pc
  wait : Bool
  deriving DecidableEq, Repr

/-- One host's sender: the host flags `rrdset_push_metric_initialize` reads, the sender lock
(its owner), `sender->tid` (0 for none), `exit.shutdown`, the sender threads alive, the id the
next created thread gets, and the callers, by thread. -/
structure Host where
  READY_4_METRICS : Bool
  RECEIVER_DISCONNECTED : Bool
  SPAWN : Bool
  sender_lock : Option Nat
  tid : Nat
  shutdown : Bool
  alive : List Nat
  next_thread : Nat
  callers : Nat → Caller

def Host.init : Host := ⟨false, false, false, none, 0, false, [], 1, fun _ => ⟨.idle, false⟩⟩

def Host.goto (h : Host) (i : Nat) (pc : Pc) : Host :=
  { h with callers := Function.update h.callers i { h.callers i with pc } }

/-- Take the sender lock, or block. -/
def Host.lock (h : Host) (i : Nat) (pc : Pc) : Option Host :=
  if h.sender_lock = none then some { h.goto i pc with sender_lock := some i } else none

def Host.unlock (h : Host) (i : Nat) (pc : Pc) : Host :=
  { h.goto i pc with sender_lock := none }

/-- The next step of caller `i`; `ok` is whether `netdata_thread_create` succeeds. -/
def caller_step (h : Host) (i : Nat) (ok : Bool) : Option Host :=
  match (h.callers i).pc with
  | .idle => none
  | .load_flags =>
    some (h.goto i
      (if !h.READY_4_METRICS && !(h.SPAWN || h.RECEIVER_DISCONNECTED) then .spawn_lock else .idle))
  | .spawn_lock => h.lock i .spawn_check
  | .spawn_check => some (h.goto i (if h.SPAWN then .spawn_unlock else .spawn_create))
  | .spawn_create =>
    if ok then
      some { h.goto i .spawn_flag with
        alive := h.alive ++ [h.next_thread], next_thread := h.next_thread + 1 }
    else some (h.goto i .spawn_unlock)
  | .spawn_flag => some { h.goto i .spawn_unlock with SPAWN := true }
  | .spawn_unlock => some (h.unlock i .idle)
  | .stop_lock => h.lock i .stop_check
  | .stop_check => some { h.goto i .stop_unlock with shutdown := h.shutdown || h.SPAWN }
  | .stop_unlock => some (h.unlock i (if (h.callers i).wait then .wait_lock else .idle))
  | .wait_lock => h.lock i .wait_check
  | .wait_check => some (h.goto i (.wait_unlock (h.tid ≠ 0)))
  | .wait_unlock again => some (h.unlock i (if again then .wait_lock else .idle))

inductive Event where
  /-- Idle caller `i` starts a collector tick. -/
  | tick (i : Nat)
  /-- Idle caller `i` calls `rrdpush_sender_thread_stop(host, reason, wait)`. -/
  | stop (i : Nat) (wait : Bool)
  | caller (i : Nat) (ok : Bool)
  /-- Modelled from the spec: sender thread `t` records its `tid`. -/
  | start (t : Nat)
  /-- Modelled from the spec: sender thread `t` exits, clearing `RRDPUSH_SENDER_SPAWN` and
  `sender->tid` under the sender lock. -/
  | exit (t : Nat)
  /-- The rest of the agent sets the flags `rrdset_push_metric_initialize` tests. -/
  | flags (ready disconnected : Bool)
  deriving DecidableEq, Repr

def step (h : Host) : Event → Option Host
  | .tick i => if (h.callers i).pc = .idle then some (h.goto i .load_flags) else none
  | .stop i wait =>
    if (h.callers i).pc = .idle then
      some { h with callers := Function.update h.callers i ⟨.stop_lock, wait⟩ }
    else none
  | .caller i ok => caller_step h i ok
  | .start t => if t ∈ h.alive then some { h with tid := t } else none
  | .exit t =>
    if t ∈ h.alive ∧ h.sender_lock = none then
      some { h with SPAWN := false, tid := 0, alive := h.alive.erase t }
    else none
  | .flags ready disconnected =>
    some { h with READY_4_METRICS := ready, RECEIVER_DISCONNECTED := disconnected }

inductive Reachable : Host → Prop where
  | init : Reachable Host.init
  | step {h h' : Host} (e : Event) : Reachable h → step h e = some h' → Reachable h'

def run (h : Host) (es : List Event) : Host := es.foldl (fun h e => (step h e).getD h) h

theorem reachable_run {h : Host} (hr : Reachable h) (es : List Event) : Reachable (run h es) := by
  induction es generalizing h with
  | nil => exact hr
  | cons e es ih =>
    show Reachable (run ((step h e).getD h) es)
    apply ih
    cases hs : step h e with
    | none => exact hr
    | some h' => exact .step e hr hs

/-! ## The spawn gate -/

/-- The spawner holding the lock between `netdata_thread_create` and the flag set. -/
def Host.creating (h : Host) : Prop :=
  ∃ i, h.sender_lock = some i ∧ (h.callers i).pc = .spawn_flag

structure SpawnInv (h : Host) : Prop where
  owner : ∀ i, (h.callers i).pc.holds → h.sender_lock = some i
  clear : ∀ i, (h.callers i).pc = .spawn_create ∨ (h.callers i).pc = .spawn_flag → h.SPAWN = false
  created : ∀ i, (h.callers i).pc = .spawn_flag → h.alive.length = 1
  one : h.alive.length ≤ 1
  spawn : h.SPAWN = true → h.alive.length = 1
  window : h.alive ≠ [] → h.SPAWN = false → h.creating

theorem SpawnInv.init : SpawnInv Host.init :=
  ⟨by simp [Host.init, Pc.holds], by simp [Host.init], by simp [Host.init], by simp [Host.init],
    by simp [Host.init], by simp [Host.init]⟩

@[simp] theorem goto_pc (h : Host) (i : Nat) (pc : Pc) (j : Nat) :
    ((h.goto i pc).callers j).pc = if j = i then pc else (h.callers j).pc := by
  by_cases hj : j = i
  · subst hj; simp [Host.goto]
  · simp [Host.goto, hj]

@[simp] theorem goto_alive (h : Host) (i : Nat) (pc : Pc) : (h.goto i pc).alive = h.alive := rfl
@[simp] theorem goto_SPAWN (h : Host) (i : Nat) (pc : Pc) : (h.goto i pc).SPAWN = h.SPAWN := rfl
@[simp] theorem goto_sender_lock (h : Host) (i : Nat) (pc : Pc) :
    (h.goto i pc).sender_lock = h.sender_lock := rfl

theorem SpawnInv.not_holds {h : Host} (hi : SpawnInv h) {j : Nat} (hj : h.sender_lock ≠ some j) :
    (h.callers j).pc.holds = false := by
  cases hh : (h.callers j).pc.holds
  · rfl
  · exact absurd (hi.owner j hh) hj

theorem SpawnInv.not_creating {h : Host} (hi : SpawnInv h) (hc : ¬ h.creating) :
    h.alive = [] ∨ h.SPAWN = true := by
  by_cases ha : h.alive = []
  · exact .inl ha
  · cases hs : h.SPAWN
    · exact absurd (hi.window ha hs) hc
    · exact .inr rfl

/-- A caller moves without touching the lock, the flag or the threads. -/
theorem SpawnInv.move {h h' : Host} (hi : SpawnInv h) {i : Nat} {pc : Pc}
    (hpc : ∀ j, (h'.callers j).pc = if j = i then pc else (h.callers j).pc)
    (hl : h'.sender_lock = h.sender_lock)
    (hs : h'.SPAWN = h.SPAWN) (ha : h'.alive = h.alive)
    (hold : pc.holds → (h.callers i).pc.holds) (hclear : pc = .spawn_create → h.SPAWN = false)
    (hflag : pc ≠ .spawn_flag) (hnot : (h.callers i).pc ≠ .spawn_flag) : SpawnInv h' := by
  refine ⟨fun j hj => ?_, fun j hj => ?_, fun j hj => ?_, ha ▸ hi.one, ha ▸ hs ▸ hi.spawn,
    fun hne hsp => ?_⟩
  · rw [hpc] at hj; rw [hl]
    split at hj
    · subst_vars; exact hi.owner _ (hold hj)
    · exact hi.owner j hj
  · rw [hpc] at hj; rw [hs]
    split at hj
    · exact hclear (hj.resolve_right hflag)
    · exact hi.clear j hj
  · rw [hpc] at hj; rw [ha]
    split at hj
    · exact absurd hj hflag
    · exact hi.created j hj
  · obtain ⟨k, hk, hkf⟩ := hi.window (ha ▸ hne) (hs ▸ hsp)
    have hki : k ≠ i := by rintro rfl; exact hnot hkf
    exact ⟨k, hl ▸ hk, by rw [hpc, if_neg hki]; exact hkf⟩

/-- A caller takes the free lock. -/
theorem SpawnInv.acquire {h : Host} (hi : SpawnInv h) {i : Nat} {pc : Pc} (hl : h.sender_lock = none)
    (hpc : pc ≠ .spawn_create ∧ pc ≠ .spawn_flag) :
    SpawnInv { h.goto i pc with sender_lock := some i } := by
  have free : ∀ j, (h.callers j).pc.holds = false := fun j => hi.not_holds (by simp [hl])
  have hw := hi.not_creating (by rintro ⟨k, hk, -⟩; simp [hl] at hk)
  refine ⟨fun j hj => ?_, fun j hj => ?_, fun j hj => ?_, hi.one, hi.spawn, fun hne hsp => ?_⟩
  · simp only [goto_pc] at hj
    split at hj
    · subst_vars; rfl
    · simp [free j] at hj
  · simp only [goto_pc] at hj
    split at hj
    · exact absurd hj (by tauto)
    · exact hi.clear j hj
  · simp only [goto_pc] at hj
    split at hj
    · exact absurd hj hpc.2
    · exact hi.created j hj
  · simp_all

theorem SpawnInv.of_lock {h h' : Host} (hi : SpawnInv h) {i : Nat} {pc : Pc} (hs : h.lock i pc = some h')
    (hpc : pc ≠ .spawn_create ∧ pc ≠ .spawn_flag) : SpawnInv h' := by
  unfold Host.lock at hs
  split at hs <;> cases hs
  exact hi.acquire ‹_› hpc

/-- The owner leaves the lock, outside the spawn's window. -/
theorem SpawnInv.release {h : Host} (hi : SpawnInv h) {i : Nat} {pc : Pc} (hl : h.sender_lock = some i)
    (hnot : (h.callers i).pc ≠ .spawn_flag) (hpc : pc.holds = false) :
    SpawnInv { h.goto i pc with sender_lock := none } := by
  have other : ∀ j, j ≠ i → (h.callers j).pc.holds = false :=
    fun j hj => hi.not_holds (by simp [hl, Ne.symm hj])
  have hw := hi.not_creating (by
    rintro ⟨k, hk, hkf⟩
    rw [hl, Option.some_inj] at hk
    exact hnot (hk ▸ hkf))
  refine ⟨fun j hj => ?_, fun j hj => ?_, fun j hj => ?_, hi.one, hi.spawn, fun hne hsp => ?_⟩
  · simp only [goto_pc] at hj
    split at hj
    · simp [hpc] at hj
    · simp [other j ‹_›] at hj
  · simp only [goto_pc] at hj
    split at hj
    · rcases hj with rfl | rfl <;> simp [Pc.holds] at hpc
    · rcases hj with hj | hj <;> have := other j ‹_› <;> simp [hj, Pc.holds] at this
  · simp only [goto_pc] at hj
    split at hj
    · subst hj; simp [Pc.holds] at hpc
    · have := other j ‹_›; simp [hj, Pc.holds] at this
  · simp_all

/-- `netdata_thread_create` succeeds: the flag is clear, so no thread was alive. -/
theorem SpawnInv.create {h : Host} (hi : SpawnInv h) {i : Nat} (hp : (h.callers i).pc = .spawn_create) :
    SpawnInv { h.goto i .spawn_flag with
      alive := h.alive ++ [h.next_thread], next_thread := h.next_thread + 1 } := by
  have hl : h.sender_lock = some i := hi.owner i (by simp [hp, Pc.holds])
  have hsp : h.SPAWN = false := hi.clear i (.inl hp)
  have ha : h.alive = [] := by
    by_contra hne
    obtain ⟨k, hk, hkf⟩ := hi.window hne hsp
    rw [hl, Option.some_inj] at hk
    subst hk; simp [hp] at hkf
  have other : ∀ j, j ≠ i → (h.callers j).pc.holds = false :=
    fun j hj => hi.not_holds (by simp [hl, Ne.symm hj])
  refine ⟨fun j hj => ?_, fun _ _ => hsp, fun _ _ => by simp [ha], by simp [ha], by simp [hsp],
    fun _ _ => ⟨i, hl, by simp⟩⟩
  simp only [goto_pc] at hj
  split at hj
  · subst_vars; exact hl
  · simp [other j ‹_›] at hj

/-- The flag set, by the thread's creator, with the thread alive. -/
theorem SpawnInv.flag {h : Host} (hi : SpawnInv h) {i : Nat} (hp : (h.callers i).pc = .spawn_flag) :
    SpawnInv { h.goto i .spawn_unlock with SPAWN := true } := by
  have hl : h.sender_lock = some i := hi.owner i (by simp [hp, Pc.holds])
  have other : ∀ j, j ≠ i → (h.callers j).pc.holds = false :=
    fun j hj => hi.not_holds (by simp [hl, Ne.symm hj])
  refine ⟨fun j hj => ?_, fun j hj => ?_, fun j hj => ?_, hi.one, fun _ => hi.created i hp,
    fun _ hs => absurd hs (by simp)⟩ <;> simp only [goto_pc] at hj <;> split at hj
  · subst_vars; exact hl
  · simp [other j ‹_›] at hj
  · simp at hj
  · rcases hj with hj | hj <;> have := other j ‹_› <;> simp [hj, Pc.holds] at this
  · simp at hj
  · have := other j ‹_›; simp [hj, Pc.holds] at this

/-- A sender thread exits with the lock free: the flag was set, and it was the only one. -/
theorem SpawnInv.exit {h : Host} (hi : SpawnInv h) {t : Nat} (ht : t ∈ h.alive)
    (hl : h.sender_lock = none) : SpawnInv { h with SPAWN := false, tid := 0, alive := h.alive.erase t } := by
  have free : ∀ j, (h.callers j).pc.holds = false := fun j => hi.not_holds (by simp [hl])
  have hsp : h.SPAWN = true :=
    (hi.not_creating (by rintro ⟨k, hk, -⟩; simp [hl] at hk)).resolve_left (List.ne_nil_of_mem ht)
  have he : h.alive.erase t = [] := by
    rw [← List.length_eq_zero, List.length_erase_of_mem ht, hi.spawn hsp]
  refine ⟨fun j hj => ?_, fun _ _ => rfl, fun j hj => ?_, by simp [he], fun h => absurd h (by simp),
    fun hne => absurd he hne⟩
  · simp [free j] at hj
  · have := free j
    simp only at hj
    simp [hj, Pc.holds] at this

theorem SpawnInv.caller {h h' : Host} (hi : SpawnInv h) {i : Nat} {ok : Bool}
    (hs : caller_step h i ok = some h') : SpawnInv h' := by
  have owned : (h.callers i).pc.holds → h.sender_lock = some i := hi.owner i
  unfold caller_step at hs
  split at hs <;> rename_i hp
  case h_1 => cases hs
  case h_2 =>
    cases hs
    exact hi.move (goto_pc _ _ _) rfl rfl rfl (by split <;> simp [Pc.holds]) (by split <;> simp)
      (by split <;> simp) (by simp [hp])
  case h_3 | h_8 | h_11 => exact hi.of_lock hs (by simp)
  case h_4 =>
    cases hs
    exact hi.move (goto_pc _ _ _) rfl rfl rfl (fun _ => by simp [hp, Pc.holds]) (by split <;> simp_all)
      (by split <;> simp) (by simp [hp])
  case h_5 =>
    split at hs <;> cases hs
    · exact hi.create hp
    · exact hi.move (goto_pc _ _ _) rfl rfl rfl (fun _ => by simp [hp, Pc.holds]) (by simp) (by simp)
        (by simp [hp])
  case h_6 => cases hs; exact hi.flag hp
  case h_7 => cases hs; exact hi.release (owned (by simp [hp, Pc.holds])) (by simp [hp]) rfl
  case h_9 | h_12 =>
    cases hs
    exact hi.move (goto_pc _ _ _) rfl rfl rfl (fun _ => by simp [hp, Pc.holds]) (by simp) (by simp)
      (by simp [hp])
  case h_10 | h_13 =>
    cases hs
    exact hi.release (owned (by simp [hp, Pc.holds])) (by simp [hp]) (by split <;> rfl)

theorem SpawnInv.after_step {h h' : Host} (hi : SpawnInv h) {e : Event} (hs : step h e = some h') :
    SpawnInv h' := by
  cases e with
  | tick i =>
    simp only [step] at hs
    split at hs <;> cases hs
    exact hi.move (goto_pc _ _ _) rfl rfl rfl (by simp [Pc.holds]) (by simp) (by simp) (by simp [*])
  | stop i wait =>
    simp only [step] at hs
    split at hs <;> cases hs
    have hpc : ∀ j, (Function.update h.callers i ⟨.stop_lock, wait⟩ j).pc =
        if j = i then .stop_lock else (h.callers j).pc := by
      intro j
      by_cases hj : j = i
      · subst hj; simp
      · simp [hj]
    exact hi.move hpc rfl rfl rfl (by simp [Pc.holds]) (by simp) (by simp) (by simp [*])
  | caller i ok => exact hi.caller hs
  | start t =>
    simp only [step] at hs
    split at hs <;> cases hs
    exact ⟨hi.1, hi.2, hi.3, hi.4, hi.5, hi.6⟩
  | exit t =>
    simp only [step] at hs
    split at hs <;> cases hs
    exact hi.exit ‹_ ∧ _›.1 ‹_ ∧ _›.2
  | flags ready disconnected =>
    cases hs
    exact ⟨hi.1, hi.2, hi.3, hi.4, hi.5, hi.6⟩

/-- In every run at most one sender thread is alive, and `RRDPUSH_SENDER_SPAWN` is set iff one
is and its creator, holding the sender lock, is not between `netdata_thread_create` and the flag
set. -/
theorem sender_spawn_safe {h : Host} (hr : Reachable h) :
    h.alive.length ≤ 1 ∧ (h.SPAWN = true ↔ h.alive ≠ [] ∧ ¬ h.creating) := by
  have hi : SpawnInv h := by
    induction hr with
    | init => exact .init
    | step _ _ hs ih => exact ih.after_step hs
  refine ⟨hi.one, fun hs => ⟨?_, ?_⟩, fun ⟨hne, hc⟩ => ?_⟩
  · simp [← List.length_pos, hi.spawn hs]
  · rintro ⟨k, -, hk⟩
    simp [hi.clear k (.inr hk)] at hs
  · cases hs : h.SPAWN
    · exact absurd (hi.window hne hs) hc
    · rfl

/-- A collector finds the host not ready and no sender, and spawns one. -/
def first_spawn : List Event :=
  [.tick 0, .caller 0 true, .caller 0 true, .caller 0 true, .caller 0 true]

theorem sender_spawn_safe_on_first_spawn :
    (run .init first_spawn).alive.length ≤ 1 ∧
      ((run .init first_spawn).SPAWN = true ↔
        (run .init first_spawn).alive ≠ [] ∧ ¬ (run .init first_spawn).creating) :=
  sender_spawn_safe (reachable_run .init _)

/-- Before the spawner sets the flag, the new thread is alive and `RRDPUSH_SENDER_SPAWN` is
clear, so a collector loading the host flags then reads "no sender". -/
theorem created_sender_before_flag :
    ∃ h, Reachable h ∧ h.alive ≠ [] ∧ h.SPAWN = false :=
  ⟨run .init first_spawn, reachable_run .init _, by decide, by decide⟩

end Netdata.Stream.Sender
