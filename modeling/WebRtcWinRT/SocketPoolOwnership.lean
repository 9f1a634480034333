import WebRtcWinRT.SocketPoolRoundRobin
import WebRtcWinRT.SocketWorkerLedger

/-!
# Socket ownership across the pool

`AddSocket` hands a socket to the worker under the cursor; `RemoveSocket`
asks the workers in index order, and the first that answers `true` queues the
removal; each worker's merge deletes what was queued at it. When every handle
fits in `unsigned int` and no two live sockets of the pool share one, the
pool follows a ledger of one worker ledger per slot: an accepted socket is
held by the worker it was delegated to, a removal is granted exactly for a
socket some worker holds and is queued at that worker alone, and a merge
deletes exactly what was queued at its worker.

A worker compares handles truncated to `unsigned int` against its pending
adds, so with larger handles a worker that does not hold the socket can
answer for it: the removal is then queued at that worker, under another
socket's handle, and the worker that holds the socket is never asked.
-/

namespace WebRtcWinRT.SocketPoolOwnership

open UdpSocket SocketWorker SocketPool UdpSocketManagerWinRT SocketWorkerLedger
  SocketPoolShutdown SocketPoolRoundRobin

/-- A `RemoveSocket` that finds nothing leaves the worker as it is. -/
theorem removeSocket_of_not_found {s : UdpSocketWinRT} {w : UdpSocketManagerWinRTImpl}
    (h : (UdpSocketManagerWinRTImpl.removeSocket s w).1 = false) :
    (UdpSocketManagerWinRTImpl.removeSocket s w).2 = w := by
  dsimp only [UdpSocketManagerWinRTImpl.removeSocket] at h ⊢
  split_ifs at h ⊢
  rfl

/-- `RemoveSocket` only queues a removal: the sockets a worker owns stay as they are. -/
theorem live_removeSocket (s : UdpSocketWinRT) (w : UdpSocketManagerWinRTImpl) :
    live (UdpSocketManagerWinRTImpl.removeSocket s w).2 = live w := by
  dsimp only [UdpSocketManagerWinRTImpl.removeSocket]
  split_ifs <;> rfl

/-- After `AddSocket` a worker owns what it owned and the added socket. -/
theorem mem_live_addSocket (FD_SETSIZE : Nat) {s t : UdpSocketWinRT}
    {w : UdpSocketManagerWinRTImpl} (ht : t ∈ live (UdpSocketManagerWinRTImpl.addSocket FD_SETSIZE s w).2) :
    t ∈ live w ∨ t = s := by
  unfold UdpSocketManagerWinRTImpl.addSocket at ht
  split_ifs at ht
  · exact .inl ht
  · simp only [live, List.mem_append, List.mem_singleton] at ht ⊢
    rcases ht with (ht | rfl) | ht
    exacts [.inl (.inl ht), .inr rfl, .inl (.inr ht)]

/-- A dispatch whose callbacks call nothing leaves the worker as it was. -/
theorem dispatch_no_calls (FD_SETSIZE : Nat)
    {hasIncoming : UdpSocketWinRT → UdpSocketManagerWinRTImpl → List WorkerCall}
    {readable : List SOCKET} {w : UdpSocketManagerWinRTImpl} {es : Entries}
    (h : ∀ e ∈ es, hasIncoming e.2 w = []) :
    (UdpSocketManagerWinRTImpl.dispatch FD_SETSIZE hasIncoming readable es w).1 = w := by
  induction es with
  | nil => rfl
  | cons e es ih =>
    have ih := ih fun e he => h e (.tail _ he)
    simp only [UdpSocketManagerWinRTImpl.dispatch, h e (.head _)]
    split
    · exact ih
    · exact ih

/-- With callbacks that call nothing back, a `Process` cycle leaves the worker
as its merge left it. -/
theorem process_no_calls (FD_SETSIZE : Nat) (select : List SOCKET → SelectResult)
    {hasIncoming : UdpSocketWinRT → UdpSocketManagerWinRTImpl → List WorkerCall}
    {w : UdpSocketManagerWinRTImpl}
    (h : ∀ s ∈ w.updateSocketMap.1.socketMap.values, hasIncoming s w.updateSocketMap.1 = []) :
    (UdpSocketManagerWinRTImpl.process FD_SETSIZE select hasIncoming w).1 = w.updateSocketMap.1 := by
  dsimp only [UdpSocketManagerWinRTImpl.process]
  split
  · rfl
  · split
    · rfl
    · exact dispatch_no_calls FD_SETSIZE fun e he => h e.2 (List.mem_map_of_mem _ he)

/-- What a step of the pool shows: the worker an `AddSocket` was delegated to
and its answer, a `RemoveSocket`'s answer, or what a worker's merge did to
sockets. -/
inductive PoolObservation
  | added (i : Nat) (s : UdpSocketWinRT) (accepted : Bool)
  | removed (s : UdpSocketWinRT) (granted : Bool)
  | merged (i : Nat) (events : List SocketEvent)

/-- The ledgers with the one of worker `i` replaced. -/
def setLedger (PL : Nat → Ledger) (i : Nat) (L : Ledger) : Nat → Ledger :=
  fun k => if k = i then L else PL k

/-- The pool ledger's reading of an observation, over `N` workers, `none`
when it does not allow it. An add is read by the ledger of the worker it was
delegated to; a removal is granted exactly for a socket one of the workers
holds, and dooms it there alone; a merge is read by its worker's ledger. -/
def observe (N : Nat) (PL : Nat → Ledger) : PoolObservation → Option (Nat → Ledger)
  | .added i s accepted => ((PL i).observe (.added s accepted)).map (setLedger PL i)
  | .removed s granted =>
    if granted = decide (∃ i < N, s ∈ (PL i).held) then
      some fun k =>
        if k < N ∧ s ∈ (PL k).held then ⟨(PL k).held.erase s, (PL k).doomed ++ [s]⟩ else PL k
    else none
  | .merged i events => ((PL i).observe (.merged events)).map (setLedger PL i)

/-- The pool ledger replays the observations of a run, in order. -/
def replay (N : Nat) (PL : Nat → Ledger) : List PoolObservation → Option (Nat → Ledger)
  | [] => some PL
  | o :: os => (observe N PL o).bind (replay N · os)

/-- Replaying two stretches of observations is replaying the first and then the second. -/
theorem replay_append (N : Nat) (PL : Nat → Ledger) (os os' : List PoolObservation) :
    replay N PL (os ++ os') = (replay N PL os).bind (replay N · os') := by
  induction os generalizing PL with
  | nil => rfl
  | cons o os ih =>
    simp only [List.cons_append, replay]
    cases observe N PL o with
    | none => rfl
    | some PL₁ => exact ih PL₁

/-- A removal of a socket that worker `j` alone holds is granted and dooms it
there. -/
theorem observe_removed_held {N j : Nat} {PL : Nat → Ledger} {s : UdpSocketWinRT} (hj : j < N)
    (hsj : s ∈ (PL j).held) (huniq : ∀ k < N, s ∈ (PL k).held → k = j) :
    observe N PL (.removed s true) =
      some (setLedger PL j ⟨(PL j).held.erase s, (PL j).doomed ++ [s]⟩) := by
  simp only [observe, decide_eq_true (⟨j, hj, hsj⟩ : ∃ i < N, s ∈ (PL i).held), if_true]
  congr 1
  funext k
  by_cases hk : k = j
  · subst hk; simp [setLedger, hj, hsj]
  · have : ¬ (k < N ∧ s ∈ (PL k).held) := fun hk' => hk (huniq k hk'.1 hk'.2)
    simp [setLedger, hk, this]

/-- A removal of a socket no worker holds is refused and changes no ledger. -/
theorem observe_removed_unheld {N : Nat} {PL : Nat → Ledger} {s : UdpSocketWinRT}
    (hown : ¬ ∃ i < N, s ∈ (PL i).held) : observe N PL (.removed s false) = some PL := by
  simp only [observe, decide_eq_false hown, if_true]
  congr 1
  funext k
  have : ¬ (k < N ∧ s ∈ (PL k).held) := fun hk => hown ⟨k, hk⟩
  simp [this]

variable (FD_SETSIZE : Nat)

/-- One step of the pool, with what it shows. -/
def observedStep (m : UdpSocketManagerWinRT) :
    PoolOp → Option (UdpSocketManagerWinRT × List PoolObservation)
  | .start t => (m.start t).map fun _ => (m, [])
  | .stop t => (m.stop t).map fun _ => (m, [])
  | .addSocket s =>
    (m.addSocket FD_SETSIZE s).map fun r => (r.2, [.added m.nextSocketMgrToAssign.toNat s r.1])
  | .removeSocket s => (m.removeSocket s).map fun r => (r.2.2, [.removed s r.2.1])
  | .process i select hasIncoming =>
    some (m.process FD_SETSIZE i select hasIncoming,
      ((m.worker? i).map fun w => [.merged i w.updateSocketMap.2]).getD [])

/-- A run of the pool, with what each step showed. -/
def observedRun (m : UdpSocketManagerWinRT) :
    List PoolOp → Option (UdpSocketManagerWinRT × List PoolObservation)
  | [] => some (m, [])
  | op :: ops => (observedStep FD_SETSIZE m op).bind fun r =>
    (observedRun r.1 ops).map fun r' => (r'.1, r.2 ++ r'.2)

/-- The observed step moves the pool as its step does. -/
theorem observedStep_fst (m : UdpSocketManagerWinRT) (op : PoolOp) :
    (observedStep FD_SETSIZE m op).map (·.1) = m.step FD_SETSIZE op := by
  cases op <;> simp [observedStep, UdpSocketManagerWinRT.step, Option.map_map, Function.comp_def]

/-- What the observed run leaves is what the run leaves. -/
theorem observedRun_fst (m : UdpSocketManagerWinRT) (ops : List PoolOp) :
    (observedRun FD_SETSIZE m ops).map (·.1) = m.run FD_SETSIZE ops := by
  induction ops generalizing m with
  | nil => rfl
  | cons op ops ih =>
    rw [UdpSocketManagerWinRT.run, ← observedStep_fst, observedRun]
    cases observedStep FD_SETSIZE m op with
    | none => rfl
    | some r => simp [← ih r.1, Option.map_map, Function.comp_def]

/-- The callers' side for one step, in the state it is made in: an
`AddSocket` or a `RemoveSocket` keeps the contract of every worker of the
pool, so its handle fits in `unsigned int` and is no other live socket's; the
callbacks of a `Process` cycle call nothing back. -/
def PoolOk (m : UdpSocketManagerWinRT) : PoolOp → Prop
  | .addSocket s => ∀ i < m.numberOfSocketMgr.toNat, ∀ w ∈ m.worker? i, ClientOk w (.addSocket s)
  | .removeSocket s =>
    ∀ i < m.numberOfSocketMgr.toNat, ∀ w ∈ m.worker? i, ClientOk w (.removeSocket s)
  | .process i _ hasIncoming =>
    ∀ w ∈ m.worker? i, ∀ s ∈ w.updateSocketMap.1.socketMap.values,
      (hasIncoming s w.updateSocketMap.1).isEmpty
  | .start _ | .stop _ => True

/-- The contract kept at every step of a run. -/
def PoolRunOk : UdpSocketManagerWinRT → List PoolOp → Prop
  | _, [] => True
  | m, op :: ops => PoolOk m op ∧ ∀ m' ∈ m.step FD_SETSIZE op, PoolRunOk m' ops

instance decPoolOk (m : UdpSocketManagerWinRT) : (op : PoolOp) → Decidable (PoolOk m op)
  | .addSocket _ => inferInstanceAs (Decidable (∀ i < _, _))
  | .removeSocket _ => inferInstanceAs (Decidable (∀ i < _, _))
  | .process _ _ _ => inferInstanceAs (Decidable (∀ w ∈ _, _))
  | .start _ => inferInstanceAs (Decidable True)
  | .stop _ => inferInstanceAs (Decidable True)

instance decPoolRunOk : (m : UdpSocketManagerWinRT) → (ops : List PoolOp) →
    Decidable (PoolRunOk FD_SETSIZE m ops)
  | _, [] => inferInstanceAs (Decidable True)
  | m, op :: ops =>
    have := fun m' => decPoolRunOk m' ops
    inferInstanceAs (Decidable (_ ∧ ∀ m' ∈ m.step FD_SETSIZE op, _))

/-- A loop whose every call answers its initial value runs to the end. -/
theorem scanWorkers_all {σ : Type} {init : Bool} {call : Nat → σ → Option (Bool × σ)}
    (P : σ → Prop) {is : List Nat}
    (hcall : ∀ i ∈ is, ∀ x, P x → ∃ x', call i x = some (init, x') ∧ P x') {x : σ} (hx : P x) :
    ∃ x', scanWorkers init call is x = some (is, init, x') ∧ P x' := by
  induction is generalizing x with
  | nil => exact ⟨x, rfl, hx⟩
  | cons i is ih =>
    obtain ⟨x₁, hc, hx₁⟩ := hcall i (.head _) x hx
    obtain ⟨x', he, hx'⟩ := ih (fun j hj => hcall j (.tail _ hj)) hx₁
    exact ⟨x', by simp [scanWorkers, hc, he], hx'⟩

/-- A loop whose calls answer the initial value before `j`, and the other
value at `j`, stops at `j`. -/
theorem scanWorkers_stop {σ : Type} {init : Bool} {call : Nat → σ → Option (Bool × σ)}
    (P Q : σ → Prop) {pre : List Nat} {j : Nat} (post : List Nat)
    (hpre : ∀ i ∈ pre, ∀ x, P x → ∃ x', call i x = some (init, x') ∧ P x')
    (hj : ∀ x, P x → ∃ x', call j x = some (!init, x') ∧ Q x') {x : σ} (hx : P x) :
    ∃ x', scanWorkers init call (pre ++ j :: post) x = some (pre ++ [j], !init, x') ∧ Q x' := by
  induction pre generalizing x with
  | nil =>
    obtain ⟨x', hc, hx'⟩ := hj x hx
    exact ⟨x', by cases init <;> simp [scanWorkers, hc], hx'⟩
  | cons i pre ih =>
    obtain ⟨x₁, hc, hx₁⟩ := hpre i (.head _) x hx
    obtain ⟨x', he, hx'⟩ := ih (fun k hk => hpre k (.tail _ hk)) hx₁
    exact ⟨x', by simp [scanWorkers, hc, he], hx'⟩

/-- The indices below `N` are those below `j`, then `j`, then those above it. -/
theorem range_split {j N : Nat} (hj : j < N) :
    List.range N = List.range j ++ j :: List.range' (j + 1) (N - (j + 1)) := by
  obtain ⟨k, rfl⟩ : ∃ k, N = j + 1 + k := ⟨N - (j + 1), by omega⟩
  rw [show j + 1 + k - (j + 1) = k by omega, List.range_eq_range', List.range_eq_range',
    show j + 1 + k = k + 1 + j by omega, ← List.range'_append_1 0 j (k + 1), List.range'_succ,
    Nat.zero_add]

/-- The pool `m` of `N` workers is in the state the per-worker ledgers `PL`
describe: each worker refines its ledger, the slots past the pool are empty,
and no handle is owned by two workers. -/
structure PoolRefines (N : Nat) (m : UdpSocketManagerWinRT) (PL : Nat → Ledger) : Prop where
  inv : PoolInv N m
  workers : ∀ i < N, ∃ w, m.worker? i = some w ∧ Refines w (PL i)
  empty : ∀ i, N ≤ i → m.worker? i = none
  disjoint : ∀ i < N, ∀ j < N, ∀ w ∈ m.worker? i, ∀ w' ∈ m.worker? j,
    ∀ t ∈ live w, ∀ u ∈ live w', t.fd = u.fd → i = j

variable {N : Nat} {m : UdpSocketManagerWinRT} {PL : Nat → Ledger}

/-- Each worker of the pool refines its own ledger. -/
theorem PoolRefines.refines (h : PoolRefines N m PL) {i : Nat} (hi : i < N)
    {w : UdpSocketManagerWinRTImpl} (hw : m.worker? i = some w) : Refines w (PL i) := by
  obtain ⟨w', hw', hR⟩ := h.workers i hi
  rw [hw, Option.some.injEq] at hw'
  exact hw' ▸ hR

/-- A socket is held by at most one worker. -/
theorem PoolRefines.held_unique (h : PoolRefines N m PL) {s : UdpSocketWinRT} {i j : Nat}
    (hi : i < N) (hj : j < N) (hsi : s ∈ (PL i).held) (hsj : s ∈ (PL j).held) : i = j := by
  obtain ⟨w, hw, hR⟩ := h.workers i hi
  obtain ⟨w', hw', hR'⟩ := h.workers j hj
  exact h.disjoint i hi j hj w hw w' hw' s ((hR.mem s).mpr (.inl hsi)) s
    ((hR'.mem s).mpr (.inl hsj)) rfl

/-- The pool after worker `j` became `w'`, which refines `L'` and whose
sockets share no handle with another worker's. -/
theorem PoolRefines.update (h : PoolRefines N m PL) {m' : UdpSocketManagerWinRT} {j : Nat}
    (hj : j < N) {w' : UdpSocketManagerWinRTImpl} {L' : Ledger} (hinv : PoolInv N m')
    (hworkers : ∀ k, m'.worker? k = if k = j then some w' else m.worker? k)
    (hR : Refines w' L')
    (hfresh : ∀ t ∈ live w', ∀ k < N, k ≠ j → ∀ v ∈ m.worker? k, ∀ u ∈ live v, t.fd ≠ u.fd) :
    PoolRefines N m' (setLedger PL j L') where
  inv := hinv
  workers k hk := by
    rw [hworkers k, setLedger]
    split
    · exact ⟨w', rfl, hR⟩
    · exact h.workers k hk
  empty k hk := by rw [hworkers k, if_neg (by omega)]; exact h.empty k hk
  disjoint i hi i' hi' v hv v' hv' t ht u hu he := by
    rw [Option.mem_def, hworkers] at hv hv'
    by_cases hij : i = j <;> by_cases hij' : i' = j
    · omega
    · rw [if_pos hij, Option.some.injEq] at hv
      rw [if_neg hij'] at hv'
      exact absurd he (hfresh t (hv ▸ ht) i' hi' hij' v' hv' u hu)
    · rw [if_neg hij] at hv
      rw [if_pos hij', Option.some.injEq] at hv'
      exact absurd he.symm (hfresh u (hv' ▸ hu) i hi hij v hv t ht)
    · rw [if_neg hij] at hv
      rw [if_neg hij'] at hv'
      exact h.disjoint i hi i' hi' v hv v' hv' t ht u hu he

/-- A pool whose workers are those of `m` refines the same ledgers. -/
theorem PoolRefines.congr (h : PoolRefines N m PL) {m' : UdpSocketManagerWinRT}
    (hinv : PoolInv N m') (hworkers : ∀ k, m'.worker? k = m.worker? k) : PoolRefines N m' PL where
  inv := hinv
  workers k hk := by rw [hworkers]; exact h.workers k hk
  empty k hk := by rw [hworkers]; exact h.empty k hk
  disjoint i hi j hj v hv v' hv' := by
    rw [Option.mem_def, hworkers] at hv hv'
    exact h.disjoint i hi j hj v hv v' hv'

/-- Worker `j`'s sockets after a step that adds none share no handle with
another worker's. -/
theorem PoolRefines.fresh_of_subset (h : PoolRefines N m PL) {j : Nat} (hj : j < N)
    {w w' : UdpSocketManagerWinRTImpl} (hw : m.worker? j = some w)
    (hsub : ∀ t ∈ live w', t ∈ live w) :
    ∀ t ∈ live w', ∀ k < N, k ≠ j → ∀ v ∈ m.worker? k, ∀ u ∈ live v, t.fd ≠ u.fd :=
  fun t ht k hk hkj v hv u hu he => hkj (h.disjoint j hj k hk w hw v hv t (hsub t ht) u hu he).symm

/-- Storing a worker in a slot within the pool's bounds changes that slot only. -/
theorem worker?_setWorker_of_lt {i : Nat} (hi : i < MAX_NUMBER_OF_SOCKET_MANAGERS_LINUX)
    (w : UdpSocketManagerWinRTImpl) (k : Nat) :
    (m.setWorker i w).worker? k = if k = i then some w else m.worker? k := by
  rw [worker?_setWorker]
  by_cases hk : k = i
  · rw [if_pos ⟨hk, hk ▸ hi⟩, if_pos hk]
  · rw [if_neg (fun h => hk h.1), if_neg hk]

/-- An allowed `AddSocket` is an observation the pool ledger accepts, and keeps the refinement. -/
theorem PoolRefines.addSocket (h : PoolRefines N m PL) {s : UdpSocketWinRT}
    (hok : PoolOk m (.addSocket s)) :
    ∃ r m' PL', m.addSocket FD_SETSIZE s = some (r, m') ∧
      observe N PL (.added m.nextSocketMgrToAssign.toNat s r) = some PL' ∧ PoolRefines N m' PL' := by
  obtain ⟨w, hw⟩ := h.inv.worker?_cursor
  have hc := h.inv.cursor
  have h8 : N ≤ MAX_NUMBER_OF_SOCKET_MANAGERS_LINUX := h.inv.count ▸ h.inv.slots.le_max
  have hR := h.refines hc hw
  have hcl : ClientOk w (.addSocket s) := hok _ (h.inv.count ▸ hc) w hw
  refine ⟨(w.addSocket FD_SETSIZE s).1,
    advanceCursor (m.setWorker m.nextSocketMgrToAssign.toNat (w.addSocket FD_SETSIZE s).2), _,
    by simp [UdpSocketManagerWinRT.addSocket, hw], rfl,
    h.update hc ((h.inv.setWorker _ _).advanceCursor.1)
      (fun k => by rw [advanceCursor_worker?, worker?_setWorker_of_lt (by omega)])
      (hR.addSocket hcl) fun t ht k hk hkc v hv u hu he => ?_⟩
  rcases mem_live_addSocket FD_SETSIZE ht with ht | rfl
  · exact hkc (h.disjoint _ hc k hk w hw v hv t ht u hu he).symm
  · exact (hok k (h.inv.count ▸ hk) v hv).2 u hu he.symm

/-- An allowed `RemoveSocket` is an observation the pool ledger accepts, and keeps the refinement.
-/
theorem PoolRefines.removeSocket (h : PoolRefines N m PL) {s : UdpSocketWinRT}
    (hok : PoolOk m (.removeSocket s)) :
    ∃ c r m' PL', m.removeSocket s = some (c, r, m') ∧ observe N PL (.removed s r) = some PL' ∧
      PoolRefines N m' PL' := by
  obtain ⟨c, r, m', he, hs', hn, hc, ha⟩ := h.inv.slots.removeSocket s
  have hinv' : PoolInv N m' :=
    ⟨hs', hn ▸ h.inv.count, h.inv.pos, ha ▸ h.inv.alternator, hc ▸ h.inv.cursor⟩
  have hscan := he
  rw [UdpSocketManagerWinRT.removeSocket, workerIndices, h.inv.count] at hscan
  -- what worker `i` answers, and what it becomes
  have hworker : ∀ i < N, ∃ w, m.worker? i = some w ∧
      (w.removeSocket s).1 = decide (s ∈ (PL i).held) ∧
      Refines (w.removeSocket s).2
        (if s ∈ (PL i).held then ⟨(PL i).held.erase s, (PL i).doomed ++ [s]⟩ else PL i) := by
    intro i hi
    obtain ⟨w, hw, hR⟩ := h.workers i hi
    exact ⟨w, hw, hR.removeSocket (hok i (h.inv.count ▸ hi) w hw)⟩
  -- a worker that does not hold `s` answers `false` and stays as it was
  have hkeep : ∀ i < N, s ∉ (PL i).held → ∀ x : UdpSocketManagerWinRT,
      (∀ k, x.worker? k = m.worker? k) →
      ∃ x', (x.worker? i).map (fun w => let r := w.removeSocket s; (r.1, x.setWorker i r.2)) =
        some (false, x') ∧ ∀ k, x'.worker? k = m.worker? k := by
    intro i hi hsi x hx
    obtain ⟨w, hw, hans, -⟩ := hworker i hi
    have hans : (w.removeSocket s).1 = false := by simpa [hsi] using hans
    refine ⟨x.setWorker i w, by simp [hx, hw, hans, removeSocket_of_not_found hans], fun k => ?_⟩
    rw [worker?_setWorker, hx]
    split
    · rename_i hk; rw [hk.1, hw]
    · rfl
  by_cases hown : ∃ i < N, s ∈ (PL i).held
  · obtain ⟨j, hj, hsj⟩ := hown
    obtain ⟨wj, hwj, hans, hRj⟩ := hworker j hj
    have hj8 : j < MAX_NUMBER_OF_SOCKET_MANAGERS_LINUX :=
      lt_of_lt_of_le hj (h.inv.count ▸ h.inv.slots.le_max)
    obtain ⟨x', hstop, hx'⟩ := @scanWorkers_stop UdpSocketManagerWinRT false _
      (fun x => ∀ k, x.worker? k = m.worker? k)
      (fun x => ∀ k, x.worker? k = if k = j then some (wj.removeSocket s).2 else m.worker? k)
      _ j (List.range' (j + 1) (N - (j + 1)))
      (fun i hi x hx => hkeep i (lt_trans (List.mem_range.mp hi) hj)
        (fun hsi => Nat.ne_of_lt (List.mem_range.mp hi) (h.held_unique (lt_trans
          (List.mem_range.mp hi) hj) hj hsi hsj)) x hx)
      (fun x hx => ⟨x.setWorker j (wj.removeSocket s).2,
        by simp [hx, hwj, hans, hsj], fun k => by rw [worker?_setWorker_of_lt hj8, hx]⟩)
      m (fun _ => rfl)
    rw [range_split hj] at hscan
    obtain ⟨-, rfl, rfl⟩ : _ = c ∧ true = r ∧ x' = m' := by
      simpa using hstop.symm.trans hscan
    rw [if_pos hsj] at hRj
    exact ⟨c, true, x', _, he,
      observe_removed_held hj hsj fun k hk hsk => h.held_unique hk hj hsk hsj,
      h.update hj hinv' hx' hRj (h.fresh_of_subset hj hwj fun t ht => by rwa [live_removeSocket] at ht)⟩
  · obtain ⟨x', hall, hx'⟩ := @scanWorkers_all UdpSocketManagerWinRT false _
      (fun x => ∀ k, x.worker? k = m.worker? k) (List.range N)
      (fun i hi x hx => hkeep i (List.mem_range.mp hi)
        (fun hsi => hown ⟨i, List.mem_range.mp hi, hsi⟩) x hx) m (fun _ => rfl)
    obtain ⟨-, rfl, rfl⟩ : _ = c ∧ false = r ∧ x' = m' := by
      simpa using hall.symm.trans hscan
    exact ⟨c, false, x', PL, he, observe_removed_unheld hown, h.congr hinv' hx'⟩

/-- An allowed `Process` turn merges as the pool ledger accepts, and keeps the refinement. -/
theorem PoolRefines.process (h : PoolRefines N m PL) {i : Nat} {select : List SOCKET → SelectResult}
    {hasIncoming : UdpSocketWinRT → UdpSocketManagerWinRTImpl → List WorkerCall}
    (hok : PoolOk m (.process i select hasIncoming)) :
    ∃ PL', replay N PL (((m.worker? i).map fun w => [.merged i w.updateSocketMap.2]).getD []) =
        some PL' ∧ PoolRefines N (m.process FD_SETSIZE i select hasIncoming) PL' := by
  by_cases hi : i < N
  · obtain ⟨w, hw, hR⟩ := h.workers i hi
    obtain ⟨hev, hR'⟩ := hR.updateSocketMap
    have hcalls : ∀ s ∈ w.updateSocketMap.1.socketMap.values,
        hasIncoming s w.updateSocketMap.1 = [] := fun s hs => List.isEmpty_iff.mp (hok w hw s hs)
    have hproc : m.process FD_SETSIZE i select hasIncoming = m.setWorker i w.updateSocketMap.1 := by
      simp only [UdpSocketManagerWinRT.process, hw, process_no_calls FD_SETSIZE select hcalls]
    refine ⟨setLedger PL i ⟨(PL i).held, []⟩, by simp [hw, replay, observe, Ledger.observe, hev], ?_⟩
    rw [hproc]
    exact h.update hi (h.inv.setWorker _ _)
      (worker?_setWorker_of_lt (lt_of_lt_of_le hi (h.inv.count ▸ h.inv.slots.le_max)) _) hR'
      (h.fresh_of_subset hi hw fun t ht =>
        (hR.mem t).mpr (.inl (((hR'.mem t).mp ht).resolve_right (List.not_mem_nil t))))
  · have hnone := h.empty i (by omega)
    refine ⟨PL, by simp [hnone, replay], ?_⟩
    simpa [UdpSocketManagerWinRT.process, hnone] using h

/-- Every call the contract allows is one the pool's ledger allows. -/
theorem PoolRefines.step (h : PoolRefines N m PL) {op : PoolOp} (hok : PoolOk m op) :
    ∃ m' obs PL', observedStep FD_SETSIZE m op = some (m', obs) ∧ replay N PL obs = some PL' ∧
      PoolRefines N m' PL' := by
  cases op with
  | start t =>
    exact ⟨m, [], PL, by simp [observedStep, UdpSocketManagerWinRT.start,
      scanWorkers_of_slotsOk h.inv.slots], rfl, h⟩
  | stop t =>
    exact ⟨m, [], PL, by simp [observedStep, UdpSocketManagerWinRT.stop,
      scanWorkers_of_slotsOk h.inv.slots], rfl, h⟩
  | addSocket s =>
    obtain ⟨r, m', PL', he, ho, h'⟩ := h.addSocket FD_SETSIZE hok
    exact ⟨m', [.added m.nextSocketMgrToAssign.toNat s r], PL', by simp [observedStep, he],
      by simp [replay, ho], h'⟩
  | removeSocket s =>
    obtain ⟨c, r, m', PL', he, ho, h'⟩ := h.removeSocket hok
    exact ⟨m', [.removed s r], PL', by simp [observedStep, he], by simp [replay, ho], h'⟩
  | process i select hasIncoming =>
    obtain ⟨PL', ho, h'⟩ := h.process FD_SETSIZE hok
    exact ⟨_, _, PL', rfl, ho, h'⟩

/-- A whole run the contract allows is a run the pool's ledger allows. -/
theorem PoolRefines.run (h : PoolRefines N m PL) {ops : List PoolOp}
    (hok : PoolRunOk FD_SETSIZE m ops) :
    ∃ m' obs PL', observedRun FD_SETSIZE m ops = some (m', obs) ∧ replay N PL obs = some PL' ∧
      PoolRefines N m' PL' := by
  induction ops generalizing m PL with
  | nil => exact ⟨m, [], PL, rfl, rfl, h⟩
  | cons op ops ih =>
    obtain ⟨m₁, obs₁, PL₁, hs, hr, h₁⟩ := h.step FD_SETSIZE hok.1
    have hstep : m.step FD_SETSIZE op = some m₁ := by rw [← observedStep_fst, hs]; rfl
    obtain ⟨m', obs', PL', hs', hr', h'⟩ := ih h₁ (hok.2 m₁ hstep)
    exact ⟨m', obs₁ ++ obs', PL', by simp [observedRun, hs, hs'],
      by rw [replay_append, hr]; exact hr', h'⟩

/-- After a successful `Init` the slots below `_numberOfSocketMgr` hold new workers and the others
are empty. -/
theorem socketMgr_init {id : Int} {n base : UInt8} {created : Nat → Bool}
    (hinit : (init id n created (create base)).1 = true) (i : Fin MAX_NUMBER_OF_SOCKET_MANAGERS_LINUX) :
    (init id n created (create base)).2.socketMgr i =
      if i.val < (init id n created (create base)).2.numberOfSocketMgr.toNat then
        some (UdpSocketManagerWinRTImpl.create (created i))
      else none := by
  unfold init at hinit ⊢
  split at hinit
  · simp at hinit
  · rename_i hok
    simp only [if_neg hok]
    rfl

/-- A successful `Init` with `n ≥ 1` leaves new workers, each refining an
empty ledger. -/
theorem init_poolRefines {id : Int} {n base : UInt8} {created : Nat → Bool}
    (hinit : (init id n created (create base)).1 = true) (hn : 1 ≤ n.toNat) :
    PoolRefines (min n.toNat MAX_NUMBER_OF_SOCKET_MANAGERS_LINUX) (init id n created (create base)).2
      (fun _ => Ledger.empty) := by
  have hinv := (init_poolInv hinit hn).1
  have hw : ∀ i, (init id n created (create base)).2.worker? i =
      if i < min n.toNat MAX_NUMBER_OF_SOCKET_MANAGERS_LINUX then
        some (UdpSocketManagerWinRTImpl.create (created i))
      else none := by
    intro i
    unfold worker?
    split
    · rw [socketMgr_init hinit, hinv.count]
    · rename_i hi
      rw [if_neg (by omega)]
  refine ⟨hinv, fun i hi => ⟨_, by rw [hw, if_pos hi], Refines.of_create _⟩,
    fun i hi => by rw [hw, if_neg (by omega)], ?_⟩
  intro i hi j hj v hv v' hv' t ht
  rw [Option.mem_def, hw, if_pos hi, Option.some.injEq] at hv
  subst hv
  simp [live, UdpSocketManagerWinRTImpl.create, SocketMap.values, SocketMap.empty] at ht

/-- When every handle fits in `unsigned int` and no two live sockets of the
pool share one, every run after a successful `Init(id, n)` with `n ≥ 1`
follows the pool's ledger: each accepted socket is held by the worker
`AddSocket` delegated it to; `RemoveSocket` returns `true` exactly for a
socket some worker holds, and the removal is queued at that worker alone;
each merge deletes exactly the sockets queued at its worker. Throughout, each
worker refines its ledger and no handle is owned by two workers. -/
theorem pool_follows_ledger {id : Int} {n base : UInt8} {created : Nat → Bool}
    (hinit : (init id n created (create base)).1 = true) (hn : 1 ≤ n.toNat) (ops : List PoolOp)
    (hok : PoolRunOk FD_SETSIZE (init id n created (create base)).2 ops) :
    ∃ m obs PL, (init id n created (create base)).2.run FD_SETSIZE ops = some m ∧
      observedRun FD_SETSIZE (init id n created (create base)).2 ops = some (m, obs) ∧
      replay (min n.toNat MAX_NUMBER_OF_SOCKET_MANAGERS_LINUX) (fun _ => Ledger.empty) obs =
        some PL ∧
      PoolRefines (min n.toNat MAX_NUMBER_OF_SOCKET_MANAGERS_LINUX) m PL := by
  obtain ⟨m, obs, PL, hr, hrep, h⟩ := (init_poolRefines hinit hn).run FD_SETSIZE hok
  exact ⟨m, obs, PL, by rw [← observedRun_fst, hr]; rfl, hr, hrep, h⟩

/-- Two workers, three sockets, one merge and two removals: every observation is one the ledger
allows. -/
theorem pool_follows_ledger_two_workers :
    ∃ m obs PL, (init 0 2 (fun _ => true) (create 0)).2.run 64
        [.addSocket ⟨0, 10⟩, .addSocket ⟨1, 11⟩, .addSocket ⟨2, 12⟩, .removeSocket ⟨2, 12⟩,
          .process 1 (fun _ => .ready []) (fun _ _ => []), .removeSocket ⟨0, 10⟩] = some m ∧
      observedRun 64 (init 0 2 (fun _ => true) (create 0)).2
        [.addSocket ⟨0, 10⟩, .addSocket ⟨1, 11⟩, .addSocket ⟨2, 12⟩, .removeSocket ⟨2, 12⟩,
          .process 1 (fun _ => .ready []) (fun _ _ => []), .removeSocket ⟨0, 10⟩] = some (m, obs) ∧
      replay (min (2 : UInt8).toNat MAX_NUMBER_OF_SOCKET_MANAGERS_LINUX) (fun _ => Ledger.empty) obs =
        some PL ∧
      PoolRefines (min (2 : UInt8).toNat MAX_NUMBER_OF_SOCKET_MANAGERS_LINUX) m PL :=
  @pool_follows_ledger 64 0 2 0 (fun _ => true) rfl (by decide) _ (by decide)

/-- Two workers; sockets with handles `0` and `1` go to worker 0, the socket
with handle `2 ^ 32` to worker 1. Removing it, the manager asks worker 0
alone, which answers `true` and queues handle `0`; worker 1, which holds the
socket, queues nothing, and worker 0's next merge deletes the socket with
handle `0`. -/
theorem removeSocket_queued_at_other_worker :
    (init 0 2 (fun _ => true) (create 0)).1 = true ∧
      ∃ m, (init 0 2 (fun _ => true) (create 0)).2.run 64
          [.addSocket ⟨0, 0⟩, .addSocket ⟨1, 1⟩, .addSocket ⟨2, 0x100000000⟩] = some m ∧
        (m.worker? 1).map (·.addList) = some [⟨2, 0x100000000⟩] ∧
        ∃ m', m.removeSocket ⟨2, 0x100000000⟩ = some ([0], true, m') ∧
          (m'.worker? 0).map (·.removeList) = some [0] ∧
          (m'.worker? 1).map (·.removeList) = some [] ∧
          (m'.worker? 0).map (·.updateSocketMap.2) =
            some [.readyForDeletion ⟨0, 0⟩, .delete ⟨0, 0⟩] :=
  ⟨rfl, _, rfl, by decide, _, rfl, by decide, by decide, by decide⟩

end WebRtcWinRT.SocketPoolOwnership
