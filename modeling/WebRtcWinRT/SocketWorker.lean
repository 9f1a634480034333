import WebRtcWinRT.UdpSocket

/-!
# The worker `UdpSocketManagerWinRTImpl`

A worker owns the sockets it polls: the live set `_socketMap`, the pending
adds `_addList` and the pending removals `_removeList`. `AddSocket` and
`RemoveSocket` run on the caller's thread under `_critSectList` and only
append to the two lists; the worker's own thread folds them into the map at
the start of each `Process` cycle (`UpdateSocketMap`), then polls the map with
`select` and calls `HasIncoming()` on the readable sockets. Each call is one
atomic step here. `FD_SETSIZE`, the platform thread and `select` are
parameters; the `fd_set` member `_readFds` is a local of the cycle, since
every cycle starts it with `FD_ZERO`.
-/

namespace WebRtcWinRT.SocketWorker

open UdpSocket

/-- The state of one `UdpSocketManagerWinRTImpl`. -/
structure UdpSocketManagerWinRTImpl where
  /-- `_thread`: whether `ThreadWrapper::CreateThread` returned a thread. -/
  thread : Bool
  /-- `_socketMap`: the live set, polled by `Process`. -/
  socketMap : SocketMap
  /-- `_addList`: sockets accepted since the last merge, in order. -/
  addList : List UdpSocketWinRT
  /-- `_removeList`: handles queued for removal since the last merge. -/
  removeList : List SOCKET

/-- What `select` does to `_readFds`: it fails with `SOCKET_ERROR`, or it
leaves in the set the handles that are readable. -/
inductive SelectResult
  | socketError
  | ready (readable : List SOCKET)

/-- A call that a `HasIncoming()` callback makes back into the same worker. -/
inductive WorkerCall
  | addSocket (s : UdpSocketWinRT)
  | removeSocket (s : UdpSocketWinRT)

/-- `ReadyForDeletion()` and then `delete`, on the socket that one turn of the
remove loop of `UpdateSocketMap` found. -/
def deletion : Option UdpSocketWinRT → List SocketEvent
  | some s => [.readyForDeletion s, .delete s]
  | none => []

/-- The add loop of `UpdateSocketMap`: `_socketMap[s->GetFd()] = s` for each
pending socket, in list order. -/
def insertAll : List UdpSocketWinRT → SocketMap → SocketMap
  | [], m => m
  | s :: ss, m => insertAll ss (m.insert s.fd s)

namespace UdpSocketManagerWinRTImpl

variable (FD_SETSIZE : Nat)

/-- The constructor: empty lists and map; `created` is whether
`CreateThread` returned a thread. -/
def create (created : Bool) : UdpSocketManagerWinRTImpl := ⟨created, .empty, [], []⟩

/-- `Start()`, given what `ThreadWrapper::Start()` returns. -/
def start (w : UdpSocketManagerWinRTImpl) (threadStarted : Bool) : Bool :=
  w.thread && threadStarted

/-- `Stop()`, given what `ThreadWrapper::Stop()` returns; with no thread it
succeeds. -/
def stop (w : UdpSocketManagerWinRTImpl) (threadStopped : Bool) : Bool :=
  !w.thread || threadStopped

/-- `AddSocket(s)`: refused for `INVALID_SOCKET` or when the live map already
holds `FD_SETSIZE` sockets; otherwise queued on `_addList`. -/
def addSocket (s : UdpSocketWinRT) (w : UdpSocketManagerWinRTImpl) :
    Bool × UdpSocketManagerWinRTImpl :=
  if s.fd = INVALID_SOCKET ∨ FD_SETSIZE ≤ w.socketMap.size then (false, w)
  else (true, { w with addList := w.addList ++ [s] })

/-- `RemoveSocket(s)`. The scan of `_addList` compares and queues the handles
as `unsigned int`, the low 32 bits; the lookup in `_socketMap` uses the whole
`SOCKET`. -/
def removeSocket (s : UdpSocketWinRT) (w : UdpSocketManagerWinRTImpl) :
    Bool × UdpSocketManagerWinRTImpl :=
  let removeFD : UInt32 := s.fd.toUInt32
  if w.addList.any (fun a => a.fd.toUInt32 = removeFD) then
    (true, { w with removeList := w.removeList ++ [removeFD.toUInt64] })
  else if (w.socketMap.find s.fd).isSome then
    (true, { w with removeList := w.removeList ++ [s.fd] })
  else (false, w)

/-- One turn of the remove loop of `UpdateSocketMap` for `removeFD`: the first
`_addList` entry with that handle is erased, then the `_socketMap` entry; the
socket to delete is the map's if there is one, else the list's. -/
def removeOne (removeFD : SOCKET) (w : UdpSocketManagerWinRTImpl) :
    UdpSocketManagerWinRTImpl × Option UdpSocketWinRT :=
  let addList := w.addList.eraseP (·.fd = removeFD)
  match w.socketMap.find removeFD with
  | some s => ({ w with addList, socketMap := w.socketMap.erase removeFD }, some s)
  | none => ({ w with addList }, w.addList.find? (·.fd = removeFD))

/-- The remove loop of `UpdateSocketMap`, over the queued handles in order. -/
def removeAll : List SOCKET → UdpSocketManagerWinRTImpl →
    UdpSocketManagerWinRTImpl × List SocketEvent
  | [], w => (w, [])
  | fd :: fds, w =>
    let r := removeOne fd w
    let rest := removeAll fds r.1
    (rest.1, deletion r.2 ++ rest.2)

/-- `UpdateSocketMap()`: the queued removals, then the queued adds; both lists
end empty. -/
def updateSocketMap (w : UdpSocketManagerWinRTImpl) :
    UdpSocketManagerWinRTImpl × List SocketEvent :=
  let r := removeAll w.removeList w
  let w₁ := r.1
  ({ w₁ with socketMap := insertAll w₁.addList w₁.socketMap, addList := [], removeList := [] },
    r.2)

/-- One call made on the worker; its result is dropped. -/
def runCall : WorkerCall → UdpSocketManagerWinRTImpl → UdpSocketManagerWinRTImpl
  | .addSocket s, w => (addSocket FD_SETSIZE s w).2
  | .removeSocket s, w => (removeSocket s w).2

/-- The calls of one callback, run on the worker in order. -/
def runCalls : List WorkerCall → UdpSocketManagerWinRTImpl → UdpSocketManagerWinRTImpl
  | [], w => w
  | c :: cs, w => runCalls cs (runCall FD_SETSIZE c w)

end UdpSocketManagerWinRTImpl

/-- `FD_SET(fd, set)` of winsock: a handle not yet in the set is appended
while the set holds fewer than `FD_SETSIZE` handles, and dropped past that. -/
def fdSet (FD_SETSIZE : Nat) (fd : SOCKET) (set : List SOCKET) : List SOCKET :=
  if fd ∈ set then set else if set.length < FD_SETSIZE then set ++ [fd] else set

/-- The build loop of `Process`: `FD_SET` of every key of the map, in key
order, into a set cleared by `FD_ZERO`. -/
def readFds (FD_SETSIZE : Nat) (m : SocketMap) : List SOCKET :=
  m.entries.foldl (fun set e => fdSet FD_SETSIZE e.1 set) []

namespace UdpSocketManagerWinRTImpl

variable (FD_SETSIZE : Nat)

/-- The dispatch loop of `Process` over the map's entries: `HasIncoming()` on
each socket whose handle `FD_ISSET` finds among the readable ones. The
callback's calls back into the worker run before the loop moves on. -/
def dispatch (hasIncoming : UdpSocketWinRT → UdpSocketManagerWinRTImpl → List WorkerCall)
    (readable : List SOCKET) :
    Entries → UdpSocketManagerWinRTImpl → UdpSocketManagerWinRTImpl × List SocketEvent
  | [], w => (w, [])
  | (fd, s) :: es, w =>
    if fd ∈ readable then
      let r := dispatch hasIncoming readable es (runCalls FD_SETSIZE (hasIncoming s w) w)
      (r.1, .hasIncoming s :: r.2)
    else dispatch hasIncoming readable es w

/-- `Process()`, one cycle of the worker's thread: merge, build `_readFds`,
`select`, dispatch. With an empty map, or when `select` returns
`SOCKET_ERROR`, the cycle sleeps and returns. -/
def process (select : List SOCKET → SelectResult)
    (hasIncoming : UdpSocketWinRT → UdpSocketManagerWinRTImpl → List WorkerCall)
    (w : UdpSocketManagerWinRTImpl) : UdpSocketManagerWinRTImpl × List SocketEvent :=
  let m := w.updateSocketMap
  if m.1.socketMap.entries = [] then m
  else
    match select (readFds FD_SETSIZE m.1.socketMap) with
    | .socketError => m
    | .ready readable =>
      let d := dispatch FD_SETSIZE hasIncoming readable m.1.socketMap.entries m.1
      (d.1, m.2 ++ d.2)

/-- The destructor: a last `UpdateSocketMap`, then `delete` of every socket
left in the map, in key order. -/
def destroy (w : UdpSocketManagerWinRTImpl) : List SocketEvent :=
  let m := w.updateSocketMap
  m.2 ++ m.1.socketMap.values.map .delete

end UdpSocketManagerWinRTImpl

/-- Every entry of the map is keyed by its own socket's handle, as
`_socketMap[s->GetFd()] = s` keys it. -/
def KeysMatch (m : SocketMap) : Prop := ∀ e ∈ m.entries, e.1 = e.2.fd

/-- A map keyed by its sockets' handles holds each socket once. -/
theorem KeysMatch.values_nodup {m : SocketMap} (h : KeysMatch m) : m.values.Nodup := by
  exact m.sorted.nodup.map_on fun x hx y hy hxy => m.sorted.eq_of_key_eq hx hy (by rw [h x hx, h y hy, hxy])

/-- In a map keyed by its sockets' handles, a socket is a value exactly when it sits under its own
handle. -/
theorem KeysMatch.mem_values_iff {m : SocketMap} (h : KeysMatch m) {x : UdpSocketWinRT} :
    x ∈ m.values ↔ (x.fd, x) ∈ m.entries := by
  simp only [SocketMap.values, List.mem_map]
  constructor
  · rintro ⟨e, he, rfl⟩
    rwa [← h e he]
  · exact fun hx => ⟨_, hx, rfl⟩

/-- A map keyed by its sockets' handles holds each handle once. -/
theorem KeysMatch.fds_nodup {m : SocketMap} (h : KeysMatch m) : (m.values.map (·.fd)).Nodup := by
  have : m.values.map (·.fd) = m.entries.map (·.1) := by
    simp only [SocketMap.values, List.map_map]
    exact List.map_congr_left fun e he => (h e he).symm
  exact this ▸ m.sorted.keys_nodup

/-- Erasing a handle removes exactly the socket with that handle. -/
theorem mem_values_erase {m : SocketMap} (h : KeysMatch m) {k : SOCKET} {x : UdpSocketWinRT} :
    x ∈ (m.erase k).values ↔ x ∈ m.values ∧ x.fd ≠ k := by
  have h' : KeysMatch (m.erase k) := fun e he => h e (SocketMap.mem_erase.mp he).1
  rw [h'.mem_values_iff, h.mem_values_iff, SocketMap.mem_erase]

/-- Inserting sockets under their handles keeps the map keyed by handles. -/
theorem insertAll_keysMatch (ss : List UdpSocketWinRT) {m : SocketMap} (h : KeysMatch m) :
    KeysMatch (insertAll ss m) := by
  induction ss generalizing m with
  | nil => exact h
  | cons s ss ih =>
    refine ih fun e he => ?_
    rcases SocketMap.mem_insert.mp he with rfl | ⟨he, -⟩
    · rfl
    · exact h e he

namespace UdpSocketManagerWinRTImpl

variable (FD_SETSIZE : Nat)

/-- `AddSocket` leaves `_socketMap` as it is. -/
@[simp] theorem addSocket_socketMap (s : UdpSocketWinRT) (w : UdpSocketManagerWinRTImpl) :
    (addSocket FD_SETSIZE s w).2.socketMap = w.socketMap := by
  unfold addSocket; split <;> rfl

/-- `RemoveSocket` leaves `_socketMap` as it is. -/
@[simp] theorem removeSocket_socketMap (s : UdpSocketWinRT) (w : UdpSocketManagerWinRTImpl) :
    (removeSocket s w).2.socketMap = w.socketMap := by
  simp only [removeSocket]; split_ifs <;> rfl

/-- The merge empties `_addList`. -/
@[simp] theorem updateSocketMap_addList (w : UdpSocketManagerWinRTImpl) :
    w.updateSocketMap.1.addList = [] := rfl

/-- The merge empties `_removeList`. -/
@[simp] theorem updateSocketMap_removeList (w : UdpSocketManagerWinRTImpl) :
    w.updateSocketMap.1.removeList = [] := rfl

/-- A callback's calls back into the worker never touch `_socketMap`: both
`AddSocket` and `RemoveSocket` only append to the pending lists. -/
@[simp] theorem runCalls_socketMap (cs : List WorkerCall) (w : UdpSocketManagerWinRTImpl) :
    (runCalls FD_SETSIZE cs w).socketMap = w.socketMap := by
  induction cs generalizing w with
  | nil => rfl
  | cons c cs ih => cases c <;> simp [runCalls, runCall, ih]

/-- Removing one handle keeps the map keyed by handles. -/
theorem removeOne_keysMatch (fd : SOCKET) {w : UdpSocketManagerWinRTImpl}
    (h : KeysMatch w.socketMap) : KeysMatch (removeOne fd w).1.socketMap := by
  unfold removeOne
  split
  · exact fun e he => h e (SocketMap.mem_erase.mp he).1
  · exact h

/-- Removing the queued handles keeps the map keyed by handles. -/
theorem removeAll_keysMatch (fds : List SOCKET) {w : UdpSocketManagerWinRTImpl}
    (h : KeysMatch w.socketMap) : KeysMatch (removeAll fds w).1.socketMap := by
  induction fds generalizing w with
  | nil => exact h
  | cons fd fds ih => exact ih (removeOne_keysMatch fd h)

/-- The merge keeps the map keyed by handles. -/
theorem updateSocketMap_keysMatch {w : UdpSocketManagerWinRTImpl} (h : KeysMatch w.socketMap) :
    KeysMatch w.updateSocketMap.1.socketMap :=
  insertAll_keysMatch _ (removeAll_keysMatch _ h)

/-- The dispatch loop leaves `_socketMap` as it is, whatever the callbacks call back. -/
@[simp] theorem dispatch_socketMap (hasIncoming : UdpSocketWinRT → UdpSocketManagerWinRTImpl → List WorkerCall)
    (readable : List SOCKET) (es : Entries) (w : UdpSocketManagerWinRTImpl) :
    (dispatch FD_SETSIZE hasIncoming readable es w).1.socketMap = w.socketMap := by
  induction es generalizing w with
  | nil => rfl
  | cons e es ih =>
    obtain ⟨fd, s⟩ := e
    simp only [dispatch]
    split <;> simp [ih]

/-- A `Process` cycle leaves the map its merge built: nothing after the merge
touches `_socketMap`. -/
theorem process_socketMap (select : List SOCKET → SelectResult)
    (hasIncoming : UdpSocketWinRT → UdpSocketManagerWinRTImpl → List WorkerCall)
    (w : UdpSocketManagerWinRTImpl) :
    (process FD_SETSIZE select hasIncoming w).1.socketMap = w.updateSocketMap.1.socketMap := by
  simp only [process]
  split
  · rfl
  · split <;> simp

end UdpSocketManagerWinRTImpl

open UdpSocketManagerWinRTImpl in
/-- The worker states a run reaches from the constructor, by any interleaving
of callers' `AddSocket` and `RemoveSocket` with `Process` cycles. -/
inductive Reachable (FD_SETSIZE : Nat) : UdpSocketManagerWinRTImpl → Prop
  | create (created : Bool) : Reachable FD_SETSIZE (create created)
  | call {w} (c : WorkerCall) : Reachable FD_SETSIZE w →
      Reachable FD_SETSIZE (runCall FD_SETSIZE c w)
  | process {w} (select : List SOCKET → SelectResult)
      (hasIncoming : UdpSocketWinRT → UdpSocketManagerWinRTImpl → List WorkerCall) :
      Reachable FD_SETSIZE w →
      Reachable FD_SETSIZE (process FD_SETSIZE select hasIncoming w).1

/-- Every reachable worker's map is keyed by its sockets' handles. -/
theorem Reachable.keysMatch {FD_SETSIZE : Nat} {w : UdpSocketManagerWinRTImpl}
    (h : Reachable FD_SETSIZE w) : KeysMatch w.socketMap := by
  induction h with
  | create => simp [KeysMatch, UdpSocketManagerWinRTImpl.create, SocketMap.empty]
  | call c _ ih =>
    cases c <;> simpa [UdpSocketManagerWinRTImpl.runCall] using ih
  | process select hasIncoming _ ih =>
    rw [UdpSocketManagerWinRTImpl.process_socketMap]
    exact UdpSocketManagerWinRTImpl.updateSocketMap_keysMatch ih

end WebRtcWinRT.SocketWorker
