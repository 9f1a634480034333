import WebRtcWinRT.SocketWorker

/-!
# The pool `UdpSocketManagerWinRT`

The manager owns up to `MAX_NUMBER_OF_SOCKET_MANAGERS_LINUX` workers, made by
`Init`. It hands each new socket to the worker under a round-robin cursor
that moves every second call, and fans `Start`, `Stop` and `RemoveSocket` out
to its workers in index order. Every method runs under `_critSect`, so each
call is one atomic step, and the workers' own `Process` cycles interleave
with them. A call that reads a null slot of `_socketMgr`, or one past its
end, has undefined behaviour and returns `none` here.
-/

namespace WebRtcWinRT.SocketPool

open UdpSocket SocketWorker

/-- `MAX_NUMBER_OF_SOCKET_MANAGERS_LINUX`, the length of `_socketMgr`. -/
def MAX_NUMBER_OF_SOCKET_MANAGERS_LINUX : Nat := 8

/-- The state of a `UdpSocketManagerWinRT`. -/
structure UdpSocketManagerWinRT where
  /-- `_id`, an `int32_t` that stays `-1` until `Init`. -/
  id : Int
  /-- `_numOfWorkThreads`, a field of the base class `UdpSocketManager`. -/
  numOfWorkThreads : UInt8
  /-- `_numberOfSocketMgr`, the number of workers. -/
  numberOfSocketMgr : UInt8
  /-- `_incSocketMgrNextTime`, whether the next `AddSocket` moves the cursor. -/
  incSocketMgrNextTime : UInt8
  /-- `_nextSocketMgrToAssign`, the round-robin cursor. -/
  nextSocketMgrToAssign : UInt8
  /-- `_socketMgr`, the worker slots; `none` is a null pointer. -/
  socketMgr : Fin MAX_NUMBER_OF_SOCKET_MANAGERS_LINUX → Option SocketWorker.UdpSocketManagerWinRTImpl

/-- A step of a run on the pool: a call on the manager, or one `Process`
cycle of the thread of the worker in slot `i`. -/
inductive PoolOp
  /-- `Start()`; `threadStarted i` is what worker `i`'s `ThreadWrapper::Start()` returns. -/
  | start (threadStarted : Nat → Bool)
  /-- `Stop()`; `threadStopped i` is what worker `i`'s `ThreadWrapper::Stop()` returns. -/
  | stop (threadStopped : Nat → Bool)
  | addSocket (s : UdpSocketWinRT)
  | removeSocket (s : UdpSocketWinRT)
  | process (i : Nat) (select : List SOCKET → SelectResult)
      (hasIncoming : UdpSocketWinRT → SocketWorker.UdpSocketManagerWinRTImpl → List WorkerCall)

/-- The loop `for (int i = 0; i < _numberOfSocketMgr && retVal == init; i++)
retVal = call(i);` of `Start`, `Stop` and `RemoveSocket`, whose `retVal`
starts at `init`: the workers called in order, the last `retVal`, and the
manager after the calls; `none` when a call reads an empty slot. -/
def scanWorkers {σ : Type} (init : Bool) (call : Nat → σ → Option (Bool × σ)) :
    List Nat → σ → Option (List Nat × Bool × σ)
  | [], m => some ([], init, m)
  | i :: is, m =>
    match call i m with
    | none => none
    | some (r, m₁) =>
      if r = init then (scanWorkers init call is m₁).map fun c => (i :: c.1, c.2)
      else some ([i], r, m₁)

/-- When every call keeps an invariant of the state and reads a filled slot,
the loop reads only filled slots and keeps the invariant. -/
theorem scanWorkers_some {σ : Type} {init : Bool} {call : Nat → σ → Option (Bool × σ)}
    (P : σ → Prop) {is : List Nat}
    (hcall : ∀ i ∈ is, ∀ x, P x → ∃ r x', call i x = some (r, x') ∧ P x') {x : σ} (hx : P x) :
    ∃ c r x', scanWorkers init call is x = some (c, r, x') ∧ P x' := by
  induction is generalizing x with
  | nil => exact ⟨[], init, x, rfl, hx⟩
  | cons i is ih =>
    obtain ⟨r, x₁, hc, hx₁⟩ := hcall i (.head _) x hx
    simp only [scanWorkers, hc]
    split
    · obtain ⟨c, r', x', he, hx'⟩ := ih (fun j hj => hcall j (.tail _ hj)) hx₁
      exact ⟨_, _, _, by rw [he]; rfl, hx'⟩
    · exact ⟨_, _, _, rfl, hx₁⟩

namespace UdpSocketManagerWinRT

variable (FD_SETSIZE : Nat)

/-- The constructor. `_numOfWorkThreads` is set by the constructor of the
base class, which is not part of this code, and is a parameter. -/
def create (numOfWorkThreads : UInt8) : UdpSocketManagerWinRT :=
  ⟨-1, numOfWorkThreads, 255, 0, 0, fun _ => none⟩

/-- `_socketMgr[i]`: the worker in slot `i`; `none` for a null slot or an
index past the array. -/
def worker? (m : UdpSocketManagerWinRT) (i : Nat) : Option SocketWorker.UdpSocketManagerWinRTImpl :=
  if h : i < MAX_NUMBER_OF_SOCKET_MANAGERS_LINUX then m.socketMgr ⟨i, h⟩ else none

/-- The pool after the worker in slot `i` became `w`. -/
def setWorker (m : UdpSocketManagerWinRT) (i : Nat) (w : SocketWorker.UdpSocketManagerWinRTImpl) :
    UdpSocketManagerWinRT :=
  { m with socketMgr := fun j => if j.val = i then some w else m.socketMgr j }

/-- `Init(id, numOfWorkThreads)`: refused once `_id` or `_numOfWorkThreads`
is set; otherwise the pool gets `numOfWorkThreads` workers, at most
`MAX_NUMBER_OF_SOCKET_MANAGERS_LINUX`, each new in its slot. `created i` is
whether `CreateThread` returned a thread for worker `i`. -/
def init (id : Int) (numOfWorkThreads : UInt8) (created : Nat → Bool)
    (m : UdpSocketManagerWinRT) : Bool × UdpSocketManagerWinRT :=
  if m.id ≠ -1 ∨ m.numOfWorkThreads ≠ 0 then (false, m)
  else
    let n : UInt8 :=
      if MAX_NUMBER_OF_SOCKET_MANAGERS_LINUX < numOfWorkThreads.toNat then
        MAX_NUMBER_OF_SOCKET_MANAGERS_LINUX.toUInt8
      else numOfWorkThreads
    (true, { m with
      id := id
      numOfWorkThreads := numOfWorkThreads
      numberOfSocketMgr := n
      socketMgr := fun i =>
        if i.val < n.toNat then some (SocketWorker.UdpSocketManagerWinRTImpl.create (created i))
        else m.socketMgr i })

/-- The worker indices the loops of `Start`, `Stop`, `RemoveSocket` and the
destructor run over. -/
def workerIndices (m : UdpSocketManagerWinRT) : List Nat := List.range m.numberOfSocketMgr.toNat

/-- `Start()`: `Start()` on each worker in turn, up to the first that fails. -/
def start (threadStarted : Nat → Bool) (m : UdpSocketManagerWinRT) : Option (List Nat × Bool) :=
  (scanWorkers true (fun i (_ : Unit) => (m.worker? i).map fun w => (w.start (threadStarted i), ()))
    m.workerIndices ()).map fun r => (r.1, r.2.1)

/-- `Stop()`: `Stop()` on each worker in turn, up to the first that fails. -/
def stop (threadStopped : Nat → Bool) (m : UdpSocketManagerWinRT) : Option (List Nat × Bool) :=
  (scanWorkers true (fun i (_ : Unit) => (m.worker? i).map fun w => (w.stop (threadStopped i), ()))
    m.workerIndices ()).map fun r => (r.1, r.2.1)

/-- The cursor after an `AddSocket`: the alternator flips, and every second
call the cursor moves to the next worker, back to 0 past the last. -/
def advanceCursor (m : UdpSocketManagerWinRT) : UdpSocketManagerWinRT :=
  if m.incSocketMgrNextTime = 0 then { m with incSocketMgrNextTime := m.incSocketMgrNextTime + 1 }
  else
    let next := m.nextSocketMgrToAssign + 1
    { m with
      incSocketMgrNextTime := 0
      nextSocketMgrToAssign := if next ≥ m.numberOfSocketMgr then 0 else next }

/-- `AddSocket(s)`: delegated to the worker under the cursor, whose answer is
returned; the cursor moves whatever that answer is. -/
def addSocket (s : UdpSocketWinRT) (m : UdpSocketManagerWinRT) : Option (Bool × UdpSocketManagerWinRT) :=
  (m.worker? m.nextSocketMgrToAssign.toNat).map fun w =>
    let r := w.addSocket FD_SETSIZE s
    (r.1, advanceCursor (m.setWorker m.nextSocketMgrToAssign.toNat r.2))

/-- `RemoveSocket(s)`: `RemoveSocket(s)` on each worker in turn, up to the
first that finds it; the workers asked, the answer, and the pool after. -/
def removeSocket (s : UdpSocketWinRT) (m : UdpSocketManagerWinRT) :
    Option (List Nat × Bool × UdpSocketManagerWinRT) :=
  scanWorkers false
    (fun i m' => (m'.worker? i).map fun w =>
      let r := w.removeSocket s
      (r.1, m'.setWorker i r.2))
    m.workerIndices m

/-- One `Process` cycle of the thread of the worker in slot `i`; a slot with
no worker has no thread, and nothing happens. -/
def process (i : Nat) (select : List SOCKET → SelectResult)
    (hasIncoming : UdpSocketWinRT → SocketWorker.UdpSocketManagerWinRTImpl → List WorkerCall)
    (m : UdpSocketManagerWinRT) : UdpSocketManagerWinRT :=
  match m.worker? i with
  | some w => m.setWorker i (w.process FD_SETSIZE select hasIncoming).1
  | none => m

/-- The destructor: `Stop()`, then `delete` of each worker, whose own
destructor deletes its sockets; deleting a null slot does nothing. The
workers asked to stop, and what was done to sockets. -/
def destroy (threadStopped : Nat → Bool) (m : UdpSocketManagerWinRT) :
    Option (List Nat × List SocketEvent) :=
  (m.stop threadStopped).map fun r =>
    (r.1, m.workerIndices.flatMap fun i => ((m.worker? i).map (·.destroy)).getD [])

/-- One step of a run; `none` when a manager call reads an empty slot. -/
def step (m : UdpSocketManagerWinRT) : PoolOp → Option UdpSocketManagerWinRT
  | .start t => (m.start t).map fun _ => m
  | .stop t => (m.stop t).map fun _ => m
  | .addSocket s => (m.addSocket FD_SETSIZE s).map (·.2)
  | .removeSocket s => (m.removeSocket s).map (·.2.2)
  | .process i select hasIncoming => some (m.process FD_SETSIZE i select hasIncoming)

/-- A run of steps; `none` as soon as one step reads an empty slot. -/
def run (m : UdpSocketManagerWinRT) : List PoolOp → Option UdpSocketManagerWinRT
  | [] => some m
  | op :: ops => (m.step FD_SETSIZE op).bind (run · ops)

/-- Storing a worker in slot `i` changes what slot `i` reads, if `i` is in the pool's bounds, and no
other slot. -/
theorem worker?_setWorker (m : UdpSocketManagerWinRT) (i : Nat)
    (w : SocketWorker.UdpSocketManagerWinRTImpl) (j : Nat) :
    (m.setWorker i w).worker? j =
      if j = i ∧ j < MAX_NUMBER_OF_SOCKET_MANAGERS_LINUX then some w else m.worker? j := by
  unfold worker? setWorker
  rcases eq_or_ne j i with rfl | hji
  · by_cases hj : j < MAX_NUMBER_OF_SOCKET_MANAGERS_LINUX <;> simp [hj]
  · by_cases hj : j < MAX_NUMBER_OF_SOCKET_MANAGERS_LINUX <;> simp [hj, hji]

/-- Storing a worker leaves `_numberOfSocketMgr` as it is. -/
@[simp] theorem setWorker_numberOfSocketMgr (m : UdpSocketManagerWinRT) (i : Nat) (w) :
    (m.setWorker i w).numberOfSocketMgr = m.numberOfSocketMgr := rfl

/-- Storing a worker leaves `_nextSocketMgrToAssign` as it is. -/
@[simp] theorem setWorker_nextSocketMgrToAssign (m : UdpSocketManagerWinRT) (i : Nat) (w) :
    (m.setWorker i w).nextSocketMgrToAssign = m.nextSocketMgrToAssign := rfl

/-- Storing a worker leaves `_incSocketMgrNextTime` as it is. -/
@[simp] theorem setWorker_incSocketMgrNextTime (m : UdpSocketManagerWinRT) (i : Nat) (w) :
    (m.setWorker i w).incSocketMgrNextTime = m.incSocketMgrNextTime := rfl

/-- Moving the round-robin cursor leaves `_numberOfSocketMgr` as it is. -/
@[simp] theorem advanceCursor_numberOfSocketMgr (m : UdpSocketManagerWinRT) :
    (advanceCursor m).numberOfSocketMgr = m.numberOfSocketMgr := by
  unfold advanceCursor; split <;> rfl

/-- Moving the round-robin cursor leaves every slot as it is. -/
@[simp] theorem advanceCursor_worker? (m : UdpSocketManagerWinRT) (j : Nat) :
    (advanceCursor m).worker? j = m.worker? j := by
  unfold advanceCursor; split <;> rfl

/-- A worker's `Process` turn leaves `_numberOfSocketMgr` as it is. -/
@[simp] theorem process_numberOfSocketMgr (i select hasIncoming) (m : UdpSocketManagerWinRT) :
    (m.process FD_SETSIZE i select hasIncoming).numberOfSocketMgr = m.numberOfSocketMgr := by
  unfold process; split <;> rfl

/-- A worker's `Process` turn leaves `_nextSocketMgrToAssign` as it is. -/
@[simp] theorem process_nextSocketMgrToAssign (i select hasIncoming) (m : UdpSocketManagerWinRT) :
    (m.process FD_SETSIZE i select hasIncoming).nextSocketMgrToAssign = m.nextSocketMgrToAssign := by
  unfold process; split <;> rfl

/-- A worker's `Process` turn leaves `_incSocketMgrNextTime` as it is. -/
@[simp] theorem process_incSocketMgrNextTime (i select hasIncoming) (m : UdpSocketManagerWinRT) :
    (m.process FD_SETSIZE i select hasIncoming).incSocketMgrNextTime = m.incSocketMgrNextTime := by
  unfold process; split <;> rfl

/-- A worker in each of the first `_numberOfSocketMgr` slots, and no more
workers than slots. -/
structure SlotsOk (m : UdpSocketManagerWinRT) : Prop where
  le_max : m.numberOfSocketMgr.toNat ≤ MAX_NUMBER_OF_SOCKET_MANAGERS_LINUX
  slots : ∀ i < m.numberOfSocketMgr.toNat, (m.worker? i).isSome

/-- Storing a worker keeps every slot below `_numberOfSocketMgr` filled. -/
theorem SlotsOk.setWorker {m : UdpSocketManagerWinRT} (h : SlotsOk m) (i : Nat) (w) :
    SlotsOk (m.setWorker i w) := by
  refine ⟨h.le_max, fun j hj => ?_⟩
  rw [worker?_setWorker]
  split
  · rfl
  · exact h.slots j hj

/-- A worker's `Process` turn keeps every slot below `_numberOfSocketMgr` filled. -/
theorem SlotsOk.process {m : UdpSocketManagerWinRT} (h : SlotsOk m) (i select hasIncoming) :
    SlotsOk (m.process FD_SETSIZE i select hasIncoming) := by
  unfold UdpSocketManagerWinRT.process
  split
  · exact h.setWorker i _
  · exact h

/-- Moving the round-robin cursor keeps every slot below `_numberOfSocketMgr` filled. -/
theorem SlotsOk.advanceCursor {m : UdpSocketManagerWinRT} (h : SlotsOk m) :
    SlotsOk (advanceCursor m) :=
  ⟨by simpa using h.le_max, by simpa using h.slots⟩

/-- `RemoveSocket` on a pool whose slots are filled reads filled slots only,
and changes nothing but workers. -/
theorem SlotsOk.removeSocket {m : UdpSocketManagerWinRT} (h : SlotsOk m) (s : UdpSocketWinRT) :
    ∃ c r m', m.removeSocket s = some (c, r, m') ∧ SlotsOk m' ∧
      m'.numberOfSocketMgr = m.numberOfSocketMgr ∧
      m'.nextSocketMgrToAssign = m.nextSocketMgrToAssign ∧
      m'.incSocketMgrNextTime = m.incSocketMgrNextTime := by
  unfold UdpSocketManagerWinRT.removeSocket
  refine scanWorkers_some (fun m' : UdpSocketManagerWinRT => SlotsOk m' ∧
      m'.numberOfSocketMgr = m.numberOfSocketMgr ∧
      m'.nextSocketMgrToAssign = m.nextSocketMgrToAssign ∧
      m'.incSocketMgrNextTime = m.incSocketMgrNextTime)
    (fun i hi m' ⟨hm', hn, hc, ha⟩ => ?_) ⟨h, rfl, rfl, rfl⟩
  obtain ⟨w, hw⟩ := Option.isSome_iff_exists.mp
    (hm'.slots i (hn ▸ List.mem_range.mp hi))
  exact ⟨(w.removeSocket s).1, m'.setWorker i (w.removeSocket s).2, by simp [hw],
    hm'.setWorker i _, hn, hc, ha⟩

/-- Every step keeps the slots filled: a step that reads a slot past them has
no result. -/
theorem SlotsOk.step {m m' : UdpSocketManagerWinRT} (h : SlotsOk m) {op : PoolOp}
    (hs : m.step FD_SETSIZE op = some m') : SlotsOk m' := by
  cases op with
  | start t =>
    obtain ⟨_, -, rfl⟩ := Option.map_eq_some'.mp hs
    exact h
  | stop t =>
    obtain ⟨_, -, rfl⟩ := Option.map_eq_some'.mp hs
    exact h
  | addSocket s =>
    simp only [UdpSocketManagerWinRT.step, UdpSocketManagerWinRT.addSocket, Option.map_map,
      Option.map_eq_some'] at hs
    obtain ⟨w, -, rfl⟩ := hs
    exact (h.setWorker _ _).advanceCursor
  | removeSocket s =>
    obtain ⟨c, r, m₁, he, h₁, -⟩ := h.removeSocket s
    simp only [UdpSocketManagerWinRT.step, he, Option.map_some', Option.some.injEq] at hs
    exact hs ▸ h₁
  | process i select hasIncoming =>
    cases hs
    exact h.process FD_SETSIZE i select hasIncoming

/-- The slots stay filled along every run. -/
theorem SlotsOk.run {m m' : UdpSocketManagerWinRT} (h : SlotsOk m) {ops : List PoolOp}
    (hr : m.run FD_SETSIZE ops = some m') : SlotsOk m' := by
  induction ops generalizing m with
  | nil => cases hr; exact h
  | cons op ops ih =>
    obtain ⟨m₁, h₁, hr⟩ := Option.bind_eq_some.mp hr
    exact ih (h.step FD_SETSIZE h₁) hr

/-- A successful `Init` fills the slots it counts, whatever the slots held. -/
theorem init_slotsOk {id : Int} {n : UInt8} {created : Nat → Bool} {m : UdpSocketManagerWinRT}
    (h : (init id n created m).1 = true) : SlotsOk (init id n created m).2 := by
  have h8 : MAX_NUMBER_OF_SOCKET_MANAGERS_LINUX.toUInt8.toNat = 8 := rfl
  unfold init at h ⊢
  split
  · simp_all
  · refine ⟨?_, fun i hi => ?_⟩
    · dsimp only
      split <;> simp only [h8, MAX_NUMBER_OF_SOCKET_MANAGERS_LINUX] at * <;> omega
    · have hi8 : i < MAX_NUMBER_OF_SOCKET_MANAGERS_LINUX := by
        dsimp only at hi
        split at hi <;> simp only [h8, MAX_NUMBER_OF_SOCKET_MANAGERS_LINUX] at * <;> omega
      simp [worker?, hi8, hi]

end UdpSocketManagerWinRT

end WebRtcWinRT.SocketPool
