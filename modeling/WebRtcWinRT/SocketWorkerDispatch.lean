import WebRtcWinRT.SocketWorker

/-!
# Readiness dispatch of a `Process` cycle

The dispatch loop of `Process` calls `HasIncoming()` on exactly the sockets of
the post-merge map whose handles `select` left readable, once each and in key
order, whatever the callbacks call back into the worker; a cycle whose
`select` fails, or that has no socket to poll, calls none. The loop is
modelled over the entries the merge left: that is the map it iterates, since
no call a callback can make touches `_socketMap`.
-/

namespace WebRtcWinRT.SocketWorkerDispatch

open UdpSocket SocketWorker UdpSocketManagerWinRTImpl

/-- The sockets that `HasIncoming()` was called on, in call order. -/
def incoming : List SocketEvent → List UdpSocketWinRT :=
  List.filterMap fun
    | .hasIncoming s => some s
    | _ => none

/-- The sockets dispatched in two stretches of events, in order. -/
@[simp] theorem incoming_append (l₁ l₂ : List SocketEvent) :
    incoming (l₁ ++ l₂) = incoming l₁ ++ incoming l₂ :=
  List.filterMap_append _ _ _

/-- A `HasIncoming` call dispatches its socket. -/
@[simp] theorem incoming_cons_hasIncoming (s : UdpSocketWinRT) (l : List SocketEvent) :
    incoming (.hasIncoming s :: l) = s :: incoming l := rfl

/-- Deleting a socket dispatches nothing. -/
@[simp] theorem incoming_deletion (d : Option UdpSocketWinRT) : incoming (deletion d) = [] := by
  cases d <;> rfl

variable (FD_SETSIZE : Nat)

/-- Removing queued sockets dispatches nothing. -/
theorem removeAll_incoming (fds : List SOCKET) (w : UdpSocketManagerWinRTImpl) :
    incoming (removeAll fds w).2 = [] := by
  induction fds generalizing w with
  | nil => rfl
  | cons fd fds ih => simp [removeAll, ih]

/-- A merge destroys sockets but never reports one readable. -/
theorem updateSocketMap_incoming (w : UdpSocketManagerWinRTImpl) :
    incoming w.updateSocketMap.2 = [] :=
  removeAll_incoming _ _

/-- The dispatch loop calls `HasIncoming` on exactly the readable sockets of its entries, in order,
whatever the calls do to the worker. -/
theorem dispatch_incoming (hasIncoming : UdpSocketWinRT → UdpSocketManagerWinRTImpl → List WorkerCall)
    (readable : List SOCKET) (es : Entries) (w : UdpSocketManagerWinRTImpl) :
    incoming (dispatch FD_SETSIZE hasIncoming readable es w).2 =
      (es.filter (·.1 ∈ readable)).map (·.2) := by
  induction es generalizing w with
  | nil => rfl
  | cons e es ih =>
    obtain ⟨fd, s⟩ := e
    simp only [dispatch]
    split <;> simp [*]

/-- Every readable socket of the post-merge map gets one `HasIncoming()` and
no other socket gets one, whatever ready set `select` reports and whatever
the callbacks call back into the worker; when `select` fails, or when the
map is empty (the filter then has nothing to keep), none is called. -/
theorem process_dispatches_readable (select : List SOCKET → SelectResult)
    (hasIncoming : UdpSocketWinRT → UdpSocketManagerWinRTImpl → List WorkerCall)
    {w : UdpSocketManagerWinRTImpl} (hw : Reachable FD_SETSIZE w) :
    incoming (process FD_SETSIZE select hasIncoming w).2 =
        (match select (readFds FD_SETSIZE w.updateSocketMap.1.socketMap) with
          | .socketError => []
          | .ready readable =>
            (w.updateSocketMap.1.socketMap.entries.filter (·.1 ∈ readable)).map (·.2)) ∧
      (incoming (process FD_SETSIZE select hasIncoming w).2).Nodup := by
  have hnd := (updateSocketMap_keysMatch hw.keysMatch).values_nodup
  have key : incoming (process FD_SETSIZE select hasIncoming w).2 =
      match select (readFds FD_SETSIZE w.updateSocketMap.1.socketMap) with
      | .socketError => []
      | .ready readable =>
        (w.updateSocketMap.1.socketMap.entries.filter (·.1 ∈ readable)).map (·.2) := by
    simp only [process]
    split
    · rename_i hempty
      rw [updateSocketMap_incoming]
      split <;> simp [hempty]
    · split <;> simp [*, updateSocketMap_incoming, dispatch_incoming]
  refine ⟨key, key ▸ ?_⟩
  split
  · exact List.nodup_nil
  · exact hnd.sublist ((List.filter_sublist _).map _)

/-- A readable socket whose `HasIncoming` removes another socket: both readable entries of the copy
are still dispatched. -/
theorem process_dispatches_readable_reentrant :
    incoming (process 64 (fun _ => .ready [5]) (fun _ _ => [.removeSocket ⟨0, 4⟩]) (runCall 64 (.addSocket ⟨1, 5⟩) (runCall 64 (.addSocket ⟨0, 4⟩) (create true)))).2 =
        (match ((fun _ => .ready [5]) : List SOCKET → SelectResult) (readFds 64 (runCall 64 (.addSocket ⟨1, 5⟩) (runCall 64 (.addSocket ⟨0, 4⟩) (create true))).updateSocketMap.1.socketMap) with
          | .socketError => []
          | .ready readable =>
            ((runCall 64 (.addSocket ⟨1, 5⟩) (runCall 64 (.addSocket ⟨0, 4⟩) (create true))).updateSocketMap.1.socketMap.entries.filter (·.1 ∈ readable)).map (·.2)) ∧
      (incoming (process 64 (fun _ => .ready [5]) (fun _ _ => [.removeSocket ⟨0, 4⟩]) (runCall 64 (.addSocket ⟨1, 5⟩) (runCall 64 (.addSocket ⟨0, 4⟩) (create true)))).2).Nodup :=
  process_dispatches_readable 64 _ _ (.call _ (.call _ (.create true)))

end WebRtcWinRT.SocketWorkerDispatch
