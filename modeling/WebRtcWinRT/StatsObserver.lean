import Mathlib.Data.List.Basic

/-!
# The stats polling chain of `WebRTCStatsObserver`

`Start()` sets `status_` to `kStarted` under `crit_sect_` and, when it found
`kStopped`, calls `PollStats()`. `PollStats()` runs `GetAllStats()` unlocked,
then under the lock either posts `MSG_POLL_STATS` to its own thread, whose
delivery to `OnMessage` calls `PollStats()` again, or, when the status is no
longer `kStarted`, sets `kStopped` and ends the chain. `Stop()` only turns
`kStarted` into `kStopping`. The `Toggle*` calls set a flag and then call
`EvaluatePollNecessity()`, which calls `Start()` or `Stop()`.

Each locked section is one atomic step of a thread, and so are the entries of
`PollStats()` and the delivery of a message; any number of threads interleave
them. A live chain is a thread between `Start()`'s locked section and
`PollStats()`, a thread inside `PollStats()` before its locked check, or a
posted message not yet delivered. With `pci_` non-null there is exactly one
live chain while the status is not `kStopped`, and none when it is. The
flags are read without the lock; each `Toggle*` is one step here, its flag
write together with the `Start()` or `Stop()` it leads to. Nothing resets
`webrtc_stats_observer_winrt_`, so once an observer is registered every later
`Toggle*` call, the destructor's included, ends in `Start()`.
-/

namespace WebRtcWinRT.StatsObserver

/-- `status_`. -/
inductive Status
  | kStopped
  | kStarted
  | kStopping
  deriving DecidableEq, Repr

/-- Where a thread is in the observer's polling code. -/
inductive Frame
  /-- Outside `Start()` and `PollStats()`. -/
  | idle
  /-- In `Start()`, after the locked section set `performStart`, before `PollStats()`. -/
  | startPerform
  /-- In `PollStats()` after the `pci_` check, before the locked status check. -/
  | polling
  deriving DecidableEq, Repr

/-- The state of a `WebRTCStatsObserver` and of the threads that call it. -/
structure WebRTCStatsObserver where
  /-- Whether `pci_` is non-null. -/
  pci : Bool
  /-- `status_`. -/
  status : Status
  /-- `etw_stats_enabled_`. -/
  etwStatsEnabled : Bool
  /-- Whether `webrtc_stats_observer_winrt_` is non-null. -/
  webrtcStatsObserverWinrt : Bool
  /-- `rtc_stats_enabled_`. -/
  rtcStatsEnabled : Bool
  /-- `conn_health_stats_enabled_`. -/
  connHealthStatsEnabled : Bool
  /-- The frame of each thread. -/
  threads : List Frame
  /-- One entry per posted `MSG_POLL_STATS` not yet delivered: the thread it was posted to. -/
  posted : List Nat
  deriving DecidableEq, Repr

/-- An atomic step of thread `t`. -/
inductive Event
  /-- The locked section of `Start()`. -/
  | start (t : Nat)
  /-- `Start()`'s call of `PollStats()`, up to the end of `GetAllStats()`. -/
  | startPollStats (t : Nat)
  /-- Delivery of `MSG_POLL_STATS` to `OnMessage`, and its call of `PollStats()`. -/
  | onMessage (t : Nat)
  /-- The locked section at the end of `PollStats()`. -/
  | pollStatsLocked (t : Nat)
  /-- `Stop()`. -/
  | stop (t : Nat)
  | toggleETWStats (t : Nat) (enable : Bool)
  /-- `ToggleConnectionHealthStats(observer)`; `observer` is whether the pointer is non-null. -/
  | toggleConnectionHealthStats (t : Nat) (observer : Bool)
  /-- `ToggleRTCStats(observer)`; `observer` is whether the pointer is non-null. -/
  | toggleRTCStats (t : Nat) (observer : Bool)
  deriving DecidableEq, Repr

/-- The step is a `Toggle*` call. -/
def Event.isToggle : Event → Bool
  | .toggleETWStats _ _ | .toggleConnectionHealthStats _ _ | .toggleRTCStats _ _ => true
  | _ => false

namespace WebRTCStatsObserver

/-- The constructor, with `threads` threads that may call the observer. -/
def create (pci : Bool) (threads : Nat) : WebRTCStatsObserver :=
  ⟨pci, .kStopped, false, false, false, false, List.replicate threads .idle, []⟩

/-- Thread `t` enters `PollStats()`: past the `pci_` check it runs
`GetAllStats()`; with `pci_` null it returns at once. -/
def pollStats (t : Nat) (o : WebRTCStatsObserver) : WebRTCStatsObserver :=
  { o with threads := o.threads.set t (if o.pci then .polling else .idle) }

/-- The locked section of `Start()` on thread `t`. -/
def start (t : Nat) (o : WebRTCStatsObserver) : Option WebRTCStatsObserver :=
  if o.threads[t]? = some .idle then
    let performStart := o.status = .kStopped
    some { o with
      status := .kStarted
      threads := o.threads.set t (if performStart then .startPerform else .idle) }
  else none

/-- `Start()`'s call of `PollStats()` on a thread that set `performStart`. -/
def startPollStats (t : Nat) (o : WebRTCStatsObserver) : Option WebRTCStatsObserver :=
  if o.threads[t]? = some .startPerform then some (o.pollStats t) else none

/-- `OnMessage(MSG_POLL_STATS)`: thread `t`, outside the observer, takes a
message posted to it and calls `PollStats()`. -/
def onMessage (t : Nat) (o : WebRTCStatsObserver) : Option WebRTCStatsObserver :=
  if o.threads[t]? = some .idle ∧ t ∈ o.posted then
    some ({ o with posted := o.posted.erase t }.pollStats t)
  else none

/-- The locked section at the end of `PollStats()` on thread `t`: `kStopped`
unless the status is still `kStarted`, in which case `MSG_POLL_STATS` is
posted to the current thread. -/
def pollStatsLocked (t : Nat) (o : WebRTCStatsObserver) : Option WebRTCStatsObserver :=
  if o.threads[t]? = some .polling then
    if o.status ≠ .kStarted then
      some { o with status := .kStopped, threads := o.threads.set t .idle }
    else some { o with posted := o.posted ++ [t], threads := o.threads.set t .idle }
  else none

/-- `Stop()` on thread `t`. -/
def stop (t : Nat) (o : WebRTCStatsObserver) : Option WebRTCStatsObserver :=
  if o.threads[t]? = some .idle then
    some { o with status := if o.status = .kStarted then .kStopping else o.status }
  else none

/-- `EvaluatePollNecessity()` on thread `t`. -/
def evaluatePollNecessity (t : Nat) (o : WebRTCStatsObserver) : Option WebRTCStatsObserver :=
  if o.etwStatsEnabled || o.webrtcStatsObserverWinrt || o.rtcStatsEnabled ||
      o.connHealthStatsEnabled then o.start t
  else o.stop t

/-- `ToggleETWStats(enable)` on thread `t`. -/
def toggleETWStats (t : Nat) (enable : Bool) (o : WebRTCStatsObserver) :
    Option WebRTCStatsObserver :=
  evaluatePollNecessity t { o with etwStatsEnabled := enable }

/-- `ToggleConnectionHealthStats(observer)` on thread `t`. -/
def toggleConnectionHealthStats (t : Nat) (observer : Bool) (o : WebRTCStatsObserver) :
    Option WebRTCStatsObserver :=
  evaluatePollNecessity t
    (if observer then { o with webrtcStatsObserverWinrt := true, connHealthStatsEnabled := true }
    else { o with connHealthStatsEnabled := false })

/-- `ToggleRTCStats(observer)` on thread `t`. -/
def toggleRTCStats (t : Nat) (observer : Bool) (o : WebRTCStatsObserver) :
    Option WebRTCStatsObserver :=
  evaluatePollNecessity t
    (if observer then { o with webrtcStatsObserverWinrt := true, rtcStatsEnabled := true }
    else { o with rtcStatsEnabled := false })

/-- One step; `none` when thread `t` is not where the step starts. -/
def step (o : WebRTCStatsObserver) : Event → Option WebRTCStatsObserver
  | .start t => o.start t
  | .startPollStats t => o.startPollStats t
  | .onMessage t => o.onMessage t
  | .pollStatsLocked t => o.pollStatsLocked t
  | .stop t => o.stop t
  | .toggleETWStats t enable => o.toggleETWStats t enable
  | .toggleConnectionHealthStats t observer => o.toggleConnectionHealthStats t observer
  | .toggleRTCStats t observer => o.toggleRTCStats t observer

/-- An interleaving of steps; `none` as soon as one cannot happen. -/
def run (o : WebRTCStatsObserver) : List Event → Option WebRTCStatsObserver
  | [] => some o
  | e :: es => (o.step e).bind (run · es)

/-- The number of live polling chains. -/
def chains (o : WebRTCStatsObserver) : Nat :=
  o.threads.countP (· != .idle) + o.posted.length

/-- Replacing one thread's frame changes a count over the threads by the old frame out and the new
one in. -/
theorem countP_set_of_getElem? {l : List Frame} {t : Nat} {f : Frame} (h : l[t]? = some f)
    (p : Frame → Bool) (a : Frame) :
    (l.set t a).countP p + (if p f then 1 else 0) = l.countP p + (if p a then 1 else 0) := by
  obtain ⟨ht, hf⟩ := List.getElem?_eq_some_iff.mp h
  have hle := List.boole_getElem_le_countP p l t ht
  rw [List.countP_set p l t a ht, hf] at *
  omega

variable {t : Nat} {o o' : WebRTCStatsObserver}

/-- `Start()` keeps `pci_`, sets `kStarted`, and begins a chain exactly when it found `kStopped`. -/
theorem start_spec (h : o.start t = some o') :
    o'.pci = o.pci ∧ o'.status = .kStarted ∧
      chains o' = chains o + (if o.status = .kStopped then 1 else 0) := by
  unfold start at h
  split at h
  · rename_i ht
    cases h
    have := countP_set_of_getElem? ht (· != .idle)
      (if o.status = .kStopped then .startPerform else .idle)
    refine ⟨rfl, rfl, ?_⟩
    by_cases hs : o.status = .kStopped <;> simp [chains, hs] at this ⊢ <;> omega
  · cases h

/-- Entering `PollStats()` turns the thread's frame into a live chain exactly
when `pci_` is non-null. -/
theorem chains_pollStats {f : Frame} (ht : o.threads[t]? = some f) :
    chains (o.pollStats t) + (if f != .idle then 1 else 0) =
      chains o + (if o.pci then 1 else 0) := by
  have hc := countP_set_of_getElem? ht (· != .idle) (if o.pci then .polling else .idle)
  have hp : ((if o.pci then Frame.polling else .idle) != .idle) = o.pci := by
    cases o.pci <;> rfl
  simp only [chains, pollStats, hp] at hc ⊢
  omega

/-- Entering `PollStats()` keeps the status; with `pci_` null it ends the thread's chain. -/
theorem startPollStats_spec (h : o.startPollStats t = some o') :
    o'.pci = o.pci ∧ o'.status = o.status ∧
      chains o' + 1 = chains o + (if o.pci then 1 else 0) := by
  unfold startPollStats at h
  split at h
  · cases h
    exact ⟨rfl, rfl, chains_pollStats ‹_›⟩
  · cases h

/-- Delivering `MSG_POLL_STATS` keeps the status; with `pci_` null it ends the message's chain. -/
theorem onMessage_spec (h : o.onMessage t = some o') :
    o'.pci = o.pci ∧ o'.status = o.status ∧
      chains o' + 1 = chains o + (if o.pci then 1 else 0) := by
  unfold onMessage at h
  split at h
  · rename_i ht
    cases h
    have hc := chains_pollStats (o := { o with posted := o.posted.erase t }) ht.1
    have hpost : chains { o with posted := o.posted.erase t } + 1 = chains o := by
      have := List.length_pos_of_mem ht.2
      simp only [chains, List.length_erase_of_mem ht.2]
      omega
    refine ⟨rfl, rfl, ?_⟩
    simp only [bne_self_eq_false, Bool.false_eq_true, if_false, Nat.add_zero] at hc
    omega
  · cases h

/-- The locked check of `PollStats()` ends the chain and sets `kStopped` unless the status is
`kStarted`, and otherwise posts the chain on. -/
theorem pollStatsLocked_spec (h : o.pollStatsLocked t = some o') :
    o'.pci = o.pci ∧
      (o.status ≠ .kStarted → o'.status = .kStopped ∧ chains o' + 1 = chains o) ∧
      (o.status = .kStarted → o'.status = .kStarted ∧ chains o' = chains o) := by
  unfold pollStatsLocked at h
  split at h
  · rename_i ht
    have hc : (o.threads.set t .idle).countP (· != .idle) + 1 = o.threads.countP (· != .idle) := by
      simpa using countP_set_of_getElem? ht (· != .idle) .idle
    split at h <;> cases h
    · rename_i hs
      exact ⟨rfl, fun _ => ⟨rfl, by dsimp only [chains]; omega⟩, fun h => absurd h hs⟩
    · rename_i hs
      refine ⟨rfl, fun h => absurd (not_not.mp hs) h, fun h => ⟨h, ?_⟩⟩
      dsimp only [chains]
      rw [List.length_append, List.length_singleton]
      omega
  · cases h

/-- `Stop()` turns `kStarted` into `kStopping` and touches no chain. -/
theorem stop_spec (h : o.stop t = some o') :
    o'.pci = o.pci ∧ o'.status = (if o.status = .kStarted then .kStopping else o.status) ∧
      chains o' = chains o := by
  unfold stop at h
  split at h
  · cases h; exact ⟨rfl, rfl, rfl⟩
  · cases h

/-- `EvaluatePollNecessity()` is a `Start()` or a `Stop()` on the observer
with the flags as they are. -/
theorem evaluatePollNecessity_cases (h : o.evaluatePollNecessity t = some o') :
    o.start t = some o' ∨ o.stop t = some o' := by
  unfold evaluatePollNecessity at h
  split at h
  · exact .inl h
  · exact .inr h

/-- With `pci_` non-null, no live chain while `kStopped` and exactly one
otherwise. It reads neither the flags nor which thread is where. -/
structure ChainInv (o : WebRTCStatsObserver) : Prop where
  pci : o.pci = true
  chains : chains o = if o.status = .kStopped then 0 else 1

/-- `Start()` keeps one live chain exactly while polling is on. -/
theorem ChainInv.start (h : ChainInv o) (hs : o.start t = some o') : ChainInv o' := by
  obtain ⟨hp, hst, hc⟩ := start_spec hs
  refine ⟨hp ▸ h.pci, ?_⟩
  rw [hc, hst, h.chains]
  by_cases hs : o.status = .kStopped <;> simp [hs]

/-- Entering `PollStats()` keeps one live chain exactly while polling is on. -/
theorem ChainInv.startPollStats (h : ChainInv o) (hs : o.startPollStats t = some o') :
    ChainInv o' := by
  obtain ⟨hp, hst, hc⟩ := startPollStats_spec hs
  refine ⟨hp ▸ h.pci, ?_⟩
  rw [hst, ← h.chains, ← Nat.add_right_cancel_iff, hc, h.pci, if_pos rfl]

/-- Delivering `MSG_POLL_STATS` keeps one live chain exactly while polling is on. -/
theorem ChainInv.onMessage (h : ChainInv o) (hs : o.onMessage t = some o') : ChainInv o' := by
  obtain ⟨hp, hst, hc⟩ := onMessage_spec hs
  refine ⟨hp ▸ h.pci, ?_⟩
  rw [hst, ← h.chains, ← Nat.add_right_cancel_iff, hc, h.pci, if_pos rfl]

/-- The locked check of `PollStats()` keeps one live chain exactly while polling is on. -/
theorem ChainInv.pollStatsLocked (h : ChainInv o) (hs : o.pollStatsLocked t = some o') :
    ChainInv o' := by
  obtain ⟨hp, hoff, hon⟩ := pollStatsLocked_spec hs
  refine ⟨hp ▸ h.pci, ?_⟩
  by_cases hst : o.status = .kStarted
  · obtain ⟨hst', hc⟩ := hon hst
    rw [hc, h.chains, hst, hst']
  · obtain ⟨hst', hc⟩ := hoff hst
    have := h.chains
    rw [hst', if_pos rfl]
    split at this <;> omega

/-- `Stop()` keeps one live chain exactly while polling is on. -/
theorem ChainInv.stop (h : ChainInv o) (hs : o.stop t = some o') : ChainInv o' := by
  obtain ⟨hp, hst, hc⟩ := stop_spec hs
  refine ⟨hp ▸ h.pci, ?_⟩
  rw [hc, h.chains, hst]
  by_cases h1 : o.status = .kStarted <;> simp [h1]

/-- `EvaluatePollNecessity()` keeps the invariant of the observer it starts
from, whatever its flags. -/
theorem ChainInv.evaluatePollNecessity {o₁ : WebRTCStatsObserver} (h : ChainInv o)
    (hs : o₁.evaluatePollNecessity t = some o') (hpci : o₁.pci = o.pci)
    (hst : o₁.status = o.status) (hth : o₁.threads = o.threads) (hpo : o₁.posted = o.posted) :
    ChainInv o' := by
  have h₁ : ChainInv o₁ :=
    ⟨hpci ▸ h.pci, by simp only [WebRTCStatsObserver.chains, hth, hpo, hst]; exact h.chains⟩
  rcases evaluatePollNecessity_cases hs with hs | hs
  · exact h₁.start hs
  · exact h₁.stop hs

/-- Every step keeps the invariant. -/
theorem ChainInv.step (h : ChainInv o) {e : Event} (hs : o.step e = some o') : ChainInv o' := by
  cases e with
  | start t => exact h.start hs
  | startPollStats t => exact h.startPollStats hs
  | onMessage t => exact h.onMessage hs
  | pollStatsLocked t => exact h.pollStatsLocked hs
  | stop t => exact h.stop hs
  | toggleETWStats t enable => exact h.evaluatePollNecessity hs rfl rfl rfl rfl
  | toggleConnectionHealthStats t observer =>
    cases observer <;> exact h.evaluatePollNecessity hs rfl rfl rfl rfl
  | toggleRTCStats t observer =>
    cases observer <;> exact h.evaluatePollNecessity hs rfl rfl rfl rfl

/-- Every interleaving keeps one live chain exactly while polling is on. -/
theorem ChainInv.run (h : ChainInv o) {es : List Event} (hr : o.run es = some o') :
    ChainInv o' := by
  induction es generalizing o with
  | nil => cases hr; exact h
  | cons e es ih =>
    obtain ⟨o₁, h₁, hr⟩ := Option.bind_eq_some.mp hr
    exact ih (h.step h₁) hr

/-- A new observer with `pci_` set has no chain and is stopped. -/
theorem create_chainInv (n : Nat) : ChainInv (create true n) :=
  ⟨rfl, by simp [chains, create, List.countP_replicate]⟩

/-- With `pci_` non-null, in every interleaving of `Start`, `Stop`, the
`Toggle*` calls and the steps of the polling chain, on any number of threads,
there is no live polling chain while `status_` is `kStopped`, and exactly one
while it is `kStarted` or `kStopping`. -/
theorem polling_chain_unique (n : Nat) (es : List Event) {o : WebRTCStatsObserver}
    (hr : (create true n).run es = some o) :
    (o.status = .kStopped → chains o = 0) ∧ (o.status ≠ .kStopped → chains o = 1) := by
  have h := ((create_chainInv n).run hr).chains
  exact ⟨fun hs => by rw [h, if_pos hs], fun hs => by rw [h, if_neg hs]⟩

/-- Two threads racing `Start()`, `Stop()` and the polling steps leave one chain. -/
theorem polling_chain_unique_two_threads :
    ((⟨true, .kStarted, false, true, true, false, [.idle, .idle], [1]⟩ : WebRTCStatsObserver).status =
        .kStopped → chains ⟨true, .kStarted, false, true, true, false, [.idle, .idle], [1]⟩ = 0) ∧
      ((⟨true, .kStarted, false, true, true, false, [.idle, .idle], [1]⟩ : WebRTCStatsObserver).status ≠
        .kStopped → chains ⟨true, .kStarted, false, true, true, false, [.idle, .idle], [1]⟩ = 1) :=
  polling_chain_unique 2 [.toggleRTCStats 1 true, .stop 0, .start 0, .startPollStats 1,
    .pollStatsLocked 1] rfl

/-- Writing a thread's own frame back leaves the threads as they are. -/
theorem set_self_of_getElem? {l : List Frame} {t : Nat} {f : Frame} (h : l[t]? = some f) :
    l.set t f = l := by
  refine List.ext_getElem? fun i => ?_
  rw [List.getElem?_set']
  split
  · subst_vars; simp [h]
  · rfl

/-- `Start()` leaves the flags as they are and ends with `kStarted`; on a
running chain it leaves the threads and the posted messages untouched. -/
theorem start_of_running (h : o.start t = some o') :
    o'.webrtcStatsObserverWinrt = o.webrtcStatsObserverWinrt ∧ o'.status = .kStarted ∧
      (o.status ≠ .kStopped → o'.threads = o.threads ∧ o'.posted = o.posted) := by
  unfold start at h
  split at h
  · rename_i ht
    cases h
    exact ⟨rfl, rfl, fun hs => ⟨by rw [if_neg hs]; exact set_self_of_getElem? ht, rfl⟩⟩
  · cases h

/-- Only the `Toggle*` calls write `webrtc_stats_observer_winrt_`. -/
theorem step_observer_of_not_toggle {e : Event} (he : e.isToggle = false)
    (hs : o.step e = some o') : o'.webrtcStatsObserverWinrt = o.webrtcStatsObserverWinrt := by
  cases e <;> simp only [Event.isToggle, Bool.true_eq_false] at he <;>
    simp only [step, start, startPollStats, onMessage, pollStatsLocked, stop, pollStats] at hs <;>
    split_ifs at hs <;> cases hs <;> rfl

/-- With an observer registered, `EvaluatePollNecessity()` is `Start()`: it
keeps the observer and ends with `kStarted`. -/
theorem evaluatePollNecessity_of_observer (hs : o.evaluatePollNecessity t = some o')
    (hobs : o.webrtcStatsObserverWinrt = true) :
    o'.webrtcStatsObserverWinrt = true ∧ o'.status = .kStarted ∧
      (o.status ≠ .kStopped → o'.threads = o.threads ∧ o'.posted = o.posted) := by
  unfold evaluatePollNecessity at hs
  rw [if_pos (by simp [hobs])] at hs
  obtain ⟨h₁, h₂, h₃⟩ := start_of_running hs
  exact ⟨h₁.trans hobs, h₂, h₃⟩

/-- With an observer registered, a `Toggle*` call keeps it registered and calls
`Start()`, never `Stop()`. -/
theorem toggle_of_observer (hobs : o.webrtcStatsObserverWinrt = true) {e : Event}
    (he : e.isToggle = true) (hs : o.step e = some o') :
    o'.webrtcStatsObserverWinrt = true ∧ o'.status = .kStarted ∧
      (o.status ≠ .kStopped → o'.threads = o.threads ∧ o'.posted = o.posted) := by
  cases e with
  | toggleETWStats t enable => exact (evaluatePollNecessity_of_observer hs hobs :)
  | toggleConnectionHealthStats t observer =>
    cases observer
    · exact (evaluatePollNecessity_of_observer hs hobs :)
    · exact (evaluatePollNecessity_of_observer hs rfl :)
  | toggleRTCStats t observer =>
    cases observer
    · exact (evaluatePollNecessity_of_observer hs hobs :)
    · exact (evaluatePollNecessity_of_observer hs rfl :)
  | _ => cases he

/-- No step unregisters a registered observer. -/
theorem step_keeps_observer (hobs : o.webrtcStatsObserverWinrt = true) {e : Event}
    (hs : o.step e = some o') : o'.webrtcStatsObserverWinrt = true := by
  cases he : e.isToggle
  · rw [step_observer_of_not_toggle he hs, hobs]
  · exact (toggle_of_observer hobs he hs).1

/-- No run unregisters a registered observer. -/
theorem run_keeps_observer (hobs : o.webrtcStatsObserverWinrt = true) {es : List Event}
    (hrun : o.run es = some o') : o'.webrtcStatsObserverWinrt = true := by
  induction es generalizing o with
  | nil => cases hrun; exact hobs
  | cons e es ih =>
    obtain ⟨o₁, h₁, hr⟩ := Option.bind_eq_some.mp hrun
    exact ih (step_keeps_observer hobs h₁) hr

/-- `webrtc_stats_observer_winrt_` is never reset: once an observer has been
registered it stays registered over every run, so in every `Toggle*` call
that follows `EvaluatePollNecessity()` calls `Start()`, never `Stop()`. The
call ends with `status_` at `kStarted` and, on a running chain, leaves the
threads and the posted `MSG_POLL_STATS` untouched. The destructor's three
`Toggle*` calls, which its comment says will trigger `Stop()`, are such
calls. -/
theorem registered_observer_always_starts (hobs : o.webrtcStatsObserverWinrt = true)
    (es : List Event) (hrun : o.run es = some o') :
    o'.webrtcStatsObserverWinrt = true ∧
      ∀ e, e.isToggle = true → ∀ o'', o'.step e = some o'' →
        o''.status = .kStarted ∧
          (o'.status ≠ .kStopped → o''.threads = o'.threads ∧ o''.posted = o'.posted) := by
  have hkeep := run_keeps_observer hobs hrun
  exact ⟨hkeep, fun e he o'' hs => (toggle_of_observer hkeep he hs).2⟩

/-- The destructor's calls on a running chain at thread 0 with an observer
registered: after `ToggleETWStats(false)` and `ToggleConnectionHealthStats(null)`,
`ToggleRTCStats(null)` still ends in `Start()`. -/
theorem registered_observer_always_starts_destructor :
    (⟨true, .kStarted, false, true, false, false, [.idle], [0]⟩ : WebRTCStatsObserver).status =
        .kStarted ∧
      ((⟨true, .kStarted, false, true, true, false, [.idle], [0]⟩ : WebRTCStatsObserver).status ≠
          .kStopped →
        (⟨true, .kStarted, false, true, false, false, [.idle], [0]⟩ : WebRTCStatsObserver).threads =
            (⟨true, .kStarted, false, true, true, false, [.idle], [0]⟩ : WebRTCStatsObserver).threads ∧
          (⟨true, .kStarted, false, true, false, false, [.idle], [0]⟩ : WebRTCStatsObserver).posted =
            (⟨true, .kStarted, false, true, true, false, [.idle], [0]⟩ : WebRTCStatsObserver).posted) :=
  (registered_observer_always_starts (o := ⟨true, .kStarted, false, true, true, false, [.idle], [0]⟩)
    rfl [.toggleETWStats 0 false, .toggleConnectionHealthStats 0 false] rfl).2
    (.toggleRTCStats 0 false) rfl _ rfl

end WebRTCStatsObserver

end WebRtcWinRT.StatsObserver
