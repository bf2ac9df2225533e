import Mathlib.Data.List.Basic
/-!
# Accepting an inbound stream

The end of `rrdpush_receiver_thread_spawn` (`src/streaming/rrdpush.c`), once a request has
passed its checks: the global rate limiter, the duplicate-detection path for a host that
already has a receiver, and the hand-off of the socket to a new receiver thread. Requests run
concurrently, one per web server thread; receivers attach to their host, handle messages and
leave, each in its own thread. Every lock the source takes around a read or a write of shared
state makes that read or write one step.

- `limiter_refines`: in every run, the limiter's verdicts, in the order requests take its
  spinlock, are those `limiter_run` gives on their arrival seconds. A request passes iff at
  least `web_client_streaming_rate_t` seconds have passed since the mark: the arrival of the
  latest request that passed, whatever became of it afterwards (409 and 500 included), or,
  before any passed, of the first request, which is itself refused.
- `first_request_refused`: the first request after start-up gets 503 from the limiter.
- `stale_check_stops_fresh_receiver`: a request finds the receiver silent for 30 s, the
  receiver then handles a message, and the request stops it anyway.
-/

namespace Netdata.Stream.Receiver

def HTTP_RESP_OK : Nat := 200
def HTTP_RESP_CONFLICT : Nat := 409
def HTTP_RESP_INTERNAL_SERVER_ERROR : Nat := 500
def HTTP_RESP_SERVICE_UNAVAILABLE : Nat := 503

/-! ## The rate limiter -/

/-- The limiter's section under its spinlock, for a request whose `now_realtime_sec()` was
`now`: whether the request passes, and the new `last_stream_accepted_t`. With
`web_client_streaming_rate_t ≤ 0` there is no limiter. -/
def rate_limit (web_client_streaming_rate_t last_stream_accepted_t now : Int) : Bool × Int :=
  if web_client_streaming_rate_t > 0 then
    let last := if last_stream_accepted_t = 0 then now else last_stream_accepted_t
    if now - last < web_client_streaming_rate_t then (false, last) else (true, now)
  else (true, last_stream_accepted_t)

/-- The limiter as a rule on arrival seconds, with its mark as an `Option`: `none` before the
first request; then the arrival of the latest request that passed, or of the first one. -/
def limiter_spec (r : Int) (mark : Option Int) (now : Int) : Bool × Option Int :=
  match mark with
  | none => (false, some now)
  | some m => if now - m < r then (false, some m) else (true, some now)

/-- The verdicts `limiter_spec` gives a sequence of arrivals, and the mark after them. -/
def limiter_run (r : Int) (nows : List Int) : List Bool × Option Int :=
  nows.foldl (fun acc now => (acc.1 ++ [(limiter_spec r acc.2 now).1], (limiter_spec r acc.2 now).2))
    ([], none)

theorem limiter_run_append (r : Int) (nows : List Int) (now : Int) :
    limiter_run r (nows ++ [now]) =
      ((limiter_run r nows).1 ++ [(limiter_spec r (limiter_run r nows).2 now).1],
        (limiter_spec r (limiter_run r nows).2 now).2) := by
  simp [limiter_run, List.foldl_append]

/-- The mark is one of the arrivals. -/
theorem limiter_run_mark_mem {r : Int} {nows : List Int} {m : Int}
    (h : (limiter_run r nows).2 = some m) : m ∈ nows := by
  induction nows using List.reverseRecOn generalizing m with
  | nil => simp [limiter_run] at h
  | append_singleton nows now ih =>
    rw [limiter_run_append] at h
    simp only [limiter_spec] at h
    split at h
    · cases h; simp
    · split at h <;> cases h
      · exact List.mem_append_left _ (ih ‹_›)
      · simp

/-- The code's `last_stream_accepted_t` is the mark, with 0 for `none`: arrival seconds are
never 0, so the test `last_stream_accepted_t == 0` is the test for `none`. -/
theorem rate_limit_eq_limiter_spec {r now : Int} {mark : Option Int} (hr : 0 < r)
    (hm : mark ≠ some 0) :
    rate_limit r (mark.getD 0) now = ((limiter_spec r mark now).1, (limiter_spec r mark now).2.getD 0) := by
  cases mark with
  | none => simp [rate_limit, limiter_spec, hr]
  | some m =>
    have hm : m ≠ 0 := fun h => hm (h ▸ rfl)
    simp only [rate_limit, limiter_spec, hr, hm, if_false, Option.getD_some]
    split_ifs <;> rfl

/-! ## Requests and receivers -/

/-- Where a request is in the rest of `rrdpush_receiver_thread_spawn`: before the limiter;
before the look-up of the host's receiver; about to stop a receiver found silent for `age`
seconds; waiting in `stop_streaming_receiver` for it to leave; about to take the socket over
and create the receiver thread; returned an HTTP code. -/
inductive Pc where
  | rate_limit
  | duplicate
  | stop (age : Nat)
  | wait
  | spawn
  | done (code : Nat)
  deriving DecidableEq, Repr

/-- A request: `now_realtime_sec()` as the limiter reads it, and `rpt->last_msg_t`, set to
`now_monotonic_sec()` when the request starts. -/
structure Request where
  now : Int
  last_msg_t : Nat
  pc : Pc
  deriving DecidableEq, Repr

/-- `host->receiver`: the receiver of request `rpt`, its `last_msg_t`, and `exit.shutdown`. -/
structure Attached where
  rpt : Nat
  last_msg_t : Nat
  shutdown : Bool
  deriving DecidableEq, Repr

/-- One mirrored host and the requests for its `machine_guid`. `spawned` lists the receiver
threads created and not yet attached, by request. `limited` (each pass through the limiter,
with its verdict) and `stopped` (each receiver `stop_streaming_receiver` signaled, with its age
then) record the run for the statements below. -/
structure World where
  now_monotonic : Nat
  last_stream_accepted_t : Int
  requests : List Request
  receiver : Option Attached
  spawned : List Nat
  limited : List (Int × Bool)
  stopped : List (Nat × Nat)
  deriving DecidableEq, Repr

def World.init : World := ⟨0, 0, [], none, [], [], []⟩

def World.setPc (w : World) (i : Nat) (q : Request) (pc : Pc) : World :=
  { w with requests := w.requests.set i { q with pc } }

/-- Modelled from the spec (`stop_streaming_receiver` is not in the source): signal the
receiver attached to the host at the time of the call to stop. Whether it leaves before the
call gives up is the `wait` step's. -/
def stop_streaming_receiver (w : World) : World :=
  { w with
    receiver := w.receiver.map ({ · with shutdown := true })
    stopped := w.stopped ++ (w.receiver.map fun a => (a.rpt, w.now_monotonic - a.last_msg_t)).toList }

/-- The next step of request `i`. `ok` is what the model leaves to the rest of the system:
whether `stop_streaming_receiver` sees the receiver leave before it gives up, and whether
`netdata_thread_create` succeeds. -/
def request_step (r : Int) (w : World) (i : Nat) (q : Request) (ok : Bool) : Option World :=
  match q.pc with
  | .rate_limit =>
    let (pass, last) := rate_limit r w.last_stream_accepted_t q.now
    some { w.setPc i q (if pass then .duplicate else .done HTTP_RESP_SERVICE_UNAVAILABLE) with
      last_stream_accepted_t := last, limited := w.limited ++ [(q.now, pass)] }
  | .duplicate =>
    match w.receiver with
    | none => some (w.setPc i q .spawn)
    | some a =>
      let age := w.now_monotonic - a.last_msg_t
      some (w.setPc i q (if age < 30 then .done HTTP_RESP_CONFLICT else .stop age))
  | .stop _ => some ((stop_streaming_receiver w).setPc i q .wait)
  | .wait =>
    if ok then (if w.receiver = none then some (w.setPc i q .spawn) else none)
    else some (w.setPc i q (.done HTTP_RESP_CONFLICT))
  | .spawn =>
    if ok then some { w.setPc i q (.done HTTP_RESP_OK) with spawned := w.spawned ++ [i] }
    else some (w.setPc i q (.done HTTP_RESP_INTERNAL_SERVER_ERROR))
  | .done _ => none

inductive Event where
  /-- A request for the host arrives; `now` is its realtime second, which is never 0. -/
  | arrive (now : Int)
  | request (i : Nat) (ok : Bool)
  /-- The monotonic clock moves on a second. -/
  | tick
  /-- Modelled from the spec: the receiver thread of request `j` attaches under
  `host->receiver_lock`, or leaves if the host has a receiver. -/
  | attach (j : Nat)
  /-- Modelled from the spec: the attached receiver handles a message and sets its
  `last_msg_t`. -/
  | message
  /-- Modelled from the spec: the attached receiver leaves and clears `host->receiver` under
  the lock. -/
  | detach
  deriving DecidableEq, Repr

def step (r : Int) (w : World) : Event → Option World
  | .arrive now =>
    if now ≠ 0 then some { w with requests := w.requests ++ [⟨now, w.now_monotonic, .rate_limit⟩] }
    else none
  | .request i ok => w.requests[i]?.bind fun q => request_step r w i q ok
  | .tick => some { w with now_monotonic := w.now_monotonic + 1 }
  | .attach j =>
    if j ∈ w.spawned then
      some { w with
        spawned := w.spawned.erase j
        receiver := match w.receiver with
          | none => w.requests[j]?.map fun q => ⟨j, q.last_msg_t, false⟩
          | some a => some a }
    else none
  | .message => w.receiver.map fun a => { w with receiver := some { a with last_msg_t := w.now_monotonic } }
  | .detach => w.receiver.map fun _ => { w with receiver := none }

inductive Reachable (r : Int) : World → Prop where
  | init : Reachable r World.init
  | step {w w' : World} (e : Event) : Reachable r w → step r w e = some w' → Reachable r w'

/-- A run; an event that cannot happen changes nothing. -/
def run (r : Int) (w : World) (es : List Event) : World :=
  es.foldl (fun w e => (step r w e).getD w) w

theorem reachable_run {r : Int} {w : World} (h : Reachable r w) (es : List Event) :
    Reachable r (run r w es) := by
  induction es generalizing w with
  | nil => exact h
  | cons e es ih =>
    show Reachable r (run r ((step r w e).getD w) es)
    apply ih
    cases hs : step r w e with
    | none => exact h
    | some w' => exact .step e h hs

/-! ## The limiter over every run -/

/-- What the limiter's statement needs of a state. -/
structure LimiterInv (r : Int) (w : World) : Prop where
  arrivals : ∀ q ∈ w.requests, q.now ≠ 0
  passes : ∀ x ∈ w.limited, x.1 ≠ 0
  verdicts : w.limited.map Prod.snd = (limiter_run r (w.limited.map Prod.fst)).1
  mark : w.last_stream_accepted_t = (limiter_run r (w.limited.map Prod.fst)).2.getD 0

theorem LimiterInv.init (r : Int) : LimiterInv r World.init :=
  ⟨by simp [World.init], by simp [World.init], rfl, rfl⟩

theorem mem_set_now {l : List Request} {i : Nat} {q x : Request} {p : Pc}
    (hx : x ∈ l.set i { q with pc := p }) : x ∈ l ∨ x.now = q.now := by
  rcases List.mem_or_eq_of_mem_set hx with h | rfl
  · exact .inl h
  · exact .inr rfl

/-- A step that does not pass a request through the limiter keeps the limiter's state. -/
theorem LimiterInv.frame {r : Int} {w w' : World} (hi : LimiterInv r w)
    (harr : ∀ q ∈ w'.requests, q.now ≠ 0) (hl : w'.limited = w.limited)
    (hlast : w'.last_stream_accepted_t = w.last_stream_accepted_t) : LimiterInv r w' :=
  ⟨harr, hl ▸ hi.passes, hl ▸ hi.verdicts, hl ▸ hlast ▸ hi.mark⟩

theorem LimiterInv.setPc {r : Int} {w : World} (hi : LimiterInv r w) {i : Nat} {q : Request}
    (hq : w.requests[i]? = some q) (pc : Pc) : ∀ x ∈ (w.setPc i q pc).requests, x.now ≠ 0 := by
  intro x hx
  rcases mem_set_now hx with h | h
  · exact hi.arrivals x h
  · exact h ▸ hi.arrivals q (List.getElem?_mem hq)

/-- The pass through the limiter: the code's step is `limiter_spec`'s. -/
theorem LimiterInv.pass {r : Int} (hr : 0 < r) {w : World} (hi : LimiterInv r w) {i : Nat}
    {q : Request} (hq : w.requests[i]? = some q) (pc : Pc) :
    LimiterInv r { w.setPc i q pc with
      last_stream_accepted_t := (rate_limit r w.last_stream_accepted_t q.now).2
      limited := w.limited ++ [(q.now, (rate_limit r w.last_stream_accepted_t q.now).1)] } := by
  have hnow : q.now ≠ 0 := hi.arrivals q (List.getElem?_mem hq)
  have hm : (limiter_run r (w.limited.map Prod.fst)).2 ≠ some 0 := fun h => by
    obtain ⟨x, hx, hx0⟩ := List.mem_map.1 (limiter_run_mark_mem h)
    have := hi.passes x hx
    omega
  have hcode := @rate_limit_eq_limiter_spec r q.now _ hr hm
  rw [← hi.mark] at hcode
  refine ⟨hi.setPc hq pc, ?_, ?_, ?_⟩
  · intro x hx
    rcases List.mem_append.1 hx with h | h
    · exact hi.passes x h
    · rw [List.mem_singleton.1 h]; exact hnow
  · simp [limiter_run_append, hi.verdicts, hcode]
  · simp [limiter_run_append, hcode]

theorem LimiterInv.after_step {r : Int} (hr : 0 < r) {w w' : World} (hi : LimiterInv r w) {e : Event}
    (hs : step r w e = some w') : LimiterInv r w' := by
  cases e with
  | arrive now =>
    simp only [step] at hs
    split at hs <;> cases hs
    refine hi.frame (fun x hx => ?_) rfl rfl
    rcases List.mem_append.1 hx with h | h
    · exact hi.arrivals x h
    · rw [List.mem_singleton.1 h]; assumption
  | request i ok =>
    obtain ⟨q, hq, hs⟩ := Option.bind_eq_some.1 hs
    simp only [request_step] at hs
    split at hs
    case h_1 => cases hs; exact hi.pass hr hq _
    -- every other branch only moves the request on
    all_goals
      repeat' split at hs
      all_goals cases hs <;> exact hi.frame (hi.setPc hq _) rfl rfl
  | tick => cases hs; exact hi.frame hi.arrivals rfl rfl
  | attach j =>
    simp only [step] at hs
    split at hs <;> cases hs
    exact hi.frame hi.arrivals rfl rfl
  | message =>
    obtain ⟨a, -, rfl⟩ := Option.map_eq_some'.1 hs
    exact hi.frame hi.arrivals rfl rfl
  | detach =>
    obtain ⟨a, -, rfl⟩ := Option.map_eq_some'.1 hs
    exact hi.frame hi.arrivals rfl rfl

/-- In every run, the limiter's verdicts, in the order requests take its spinlock, are the
verdicts of `limiter_run` on their arrival seconds. What became of a request that passed (200,
409 or 500) has no part in them. -/
theorem limiter_refines {r : Int} (hr : 0 < r) {w : World} (hw : Reachable r w) :
    w.limited.map Prod.snd = (limiter_run r (w.limited.map Prod.fst)).1 := by
  suffices LimiterInv r w from this.verdicts
  induction hw with
  | init => exact .init r
  | step _ _ hs ih => exact ih.after_step hr hs

/-- Two requests 20 s apart: both are refused, the first because it starts the mark. -/
theorem limiter_refines_on_two_requests :
    (0 : Int) < 30 ∧
      (run 30 .init [.arrive 100, .request 0 true, .arrive 120, .request 1 true]).limited.map Prod.snd =
        (limiter_run 30 ((run 30 .init
          [.arrive 100, .request 0 true, .arrive 120, .request 1 true]).limited.map Prod.fst)).1 :=
  ⟨by decide, limiter_refines (by decide) (reachable_run .init _)⟩

/-- The first request after start-up is refused by the limiter, although no request was
accepted before it. -/
theorem first_request_refused :
    ∃ w, Reachable 30 w ∧ (∃ q ∈ w.requests, q.pc = .done HTTP_RESP_SERVICE_UNAVAILABLE) ∧
      ∀ q ∈ w.requests, q.pc ≠ .done HTTP_RESP_OK :=
  ⟨run 30 .init [.arrive 100, .request 0 true], reachable_run .init _, by decide, by decide⟩

/-! ## Duplicate detection -/

/-- The first request attaches a receiver; thirty seconds later a second request finds it
stale, the receiver handles a message, and the second request stops it. -/
def stale_race : List Event :=
  [.arrive 100, .request 0 true, .request 0 true, .request 0 true, .attach 0] ++
    List.replicate 30 .tick ++ [.arrive 200, .request 1 true, .request 1 true, .message, .request 1 true]

/-- `stop_streaming_receiver` signals a receiver that handled a message less than 30 s before:
the age the duplicate check read is 30 s old news by then. -/
theorem stale_check_stops_fresh_receiver :
    ∃ w, Reachable 0 w ∧ ∃ x ∈ w.stopped, x.2 < 30 :=
  ⟨run 0 .init stale_race, reachable_run .init _, by decide⟩

end Netdata.Stream.Receiver
