import Mathlib.Data.List.Perm.Subperm
import WebRtcWinRT.SocketWorker

/-!
# Capacity of a worker's live set

`AddSocket` refuses a socket only when `_socketMap` already holds `FD_SETSIZE`
sockets; the sockets it accepted since the last merge, still on `_addList`,
are not counted. Between two merges a worker can therefore accept any number
of sockets, the merge puts all of them in the live map, and the build loop of
`Process` can place only `FD_SETSIZE` handles in `_readFds`: the others are
never polled.
-/

namespace WebRtcWinRT.SocketWorkerCapacity

open UdpSocket SocketWorker UdpSocketManagerWinRTImpl

variable (FD_SETSIZE : Nat)

/-- `AddSocket` of each socket in turn, with no merge in between: the results
and the worker after the calls. -/
def addSockets : List UdpSocketWinRT → UdpSocketManagerWinRTImpl →
    List Bool × UdpSocketManagerWinRTImpl
  | [], w => ([], w)
  | s :: ss, w =>
    let r := addSocket FD_SETSIZE s w
    let rest := addSockets ss r.2
    (r.1 :: rest.1, rest.2)

/-- While the live map is below capacity, every valid socket is accepted, and
all of them wait on `_addList`. -/
theorem addSockets_below_capacity (ss : List UdpSocketWinRT) (w : UdpSocketManagerWinRTImpl)
    (hw : w.socketMap.size < FD_SETSIZE) (hvalid : ∀ s ∈ ss, s.fd ≠ INVALID_SOCKET) :
    addSockets FD_SETSIZE ss w = (ss.map fun _ => true, { w with addList := w.addList ++ ss }) := by
  induction ss generalizing w with
  | nil => simp [addSockets]
  | cons s ss ih =>
    have hs : ¬(s.fd = INVALID_SOCKET ∨ FD_SETSIZE ≤ w.socketMap.size) := by
      simp only [not_or]; exact ⟨hvalid s (.head _), by omega⟩
    have hrest := ih { w with addList := w.addList ++ [s] } hw fun t ht => hvalid t (.tail _ ht)
    simp [addSockets, addSocket, hs, hrest]

/-- Inserting sockets with distinct new handles grows the map by their number. -/
theorem size_insertAll (ss : List UdpSocketWinRT) (m : SocketMap)
    (hnd : (ss.map (·.fd)).Nodup) (hfresh : ∀ s ∈ ss, m.find s.fd = none) :
    (insertAll ss m).size = m.size + ss.length := by
  induction ss generalizing m with
  | nil => rfl
  | cons s ss ih =>
    simp only [List.map_cons, List.nodup_cons, List.mem_map] at hnd
    rw [insertAll, ih _ hnd.2, SocketMap.size_insert _ (hfresh s (.head _))]
    · simp; omega
    · intro t ht
      refine SocketMap.find_eq_none_iff.mpr fun v hv => ?_
      rcases SocketMap.mem_insert.mp hv with he | ⟨hv, -⟩
      · exact hnd.1 ⟨t, ht, (Prod.mk.inj he).1⟩
      · exact SocketMap.find_eq_none_iff.mp (hfresh t (.tail _ ht)) v hv

/-- `FD_SET` never grows a set past `FD_SETSIZE` entries, or past its own size when already larger.
-/
theorem length_fdSet_le (fd : SOCKET) (set : List SOCKET) :
    (fdSet FD_SETSIZE fd set).length ≤ max FD_SETSIZE set.length := by
  unfold fdSet
  split_ifs
  · omega
  · simp only [List.length_append, List.length_singleton]; omega
  · omega

/-- `_readFds` never holds more than `FD_SETSIZE` handles. -/
theorem length_readFds_le (m : SocketMap) : (readFds FD_SETSIZE m).length ≤ FD_SETSIZE := by
  suffices ∀ (es : Entries) (set : List SOCKET), set.length ≤ FD_SETSIZE →
      (es.foldl (fun set e => fdSet FD_SETSIZE e.1 set) set).length ≤ FD_SETSIZE from
    this _ _ (Nat.zero_le _)
  intro es
  induction es with
  | nil => exact fun _ h => h
  | cons e es ih =>
    intro set h
    exact ih _ ((length_fdSet_le _ _ _).trans (by omega))

/-- `FD_SETSIZE + 1` sockets with distinct valid handles, added to a fresh
worker before its first merge, are all accepted; the merge then puts all of
them in the live map, past `FD_SETSIZE`, and one of them is left out of the
`_readFds` that `Process` builds. -/
theorem addSocket_overfills_live_set (hF : 0 < FD_SETSIZE) (created : Bool)
    (socks : List UdpSocketWinRT) (hlen : socks.length = FD_SETSIZE + 1)
    (hnd : (socks.map (·.fd)).Nodup) (hvalid : ∀ s ∈ socks, s.fd ≠ INVALID_SOCKET) :
    (addSockets FD_SETSIZE socks (create created)).1 = socks.map (fun _ => true) ∧
      FD_SETSIZE < (addSockets FD_SETSIZE socks (create created)).2.updateSocketMap.1.socketMap.size ∧
      ∃ s ∈ socks, s.fd ∉
        readFds FD_SETSIZE (addSockets FD_SETSIZE socks (create created)).2.updateSocketMap.1.socketMap := by
  rw [addSockets_below_capacity FD_SETSIZE socks (create created) hF hvalid]
  have hsize : (insertAll socks SocketMap.empty).size = FD_SETSIZE + 1 := by
    rw [size_insertAll socks .empty hnd fun _ _ => rfl]
    simp [SocketMap.size, hlen]
  refine ⟨rfl, by simp [updateSocketMap, removeAll, create, hsize], ?_⟩
  by_contra hall
  push_neg at hall
  have := ((hnd.subperm fun fd hfd => by
    obtain ⟨s, hs, rfl⟩ := List.mem_map.mp hfd
    simpa [updateSocketMap, removeAll, create] using hall s hs).length_le).trans
    (length_readFds_le FD_SETSIZE _)
  simp only [List.length_map, hlen] at this
  omega

/-- With `FD_SETSIZE` 2, three sockets added before a merge are all accepted, and one is left out of
`_readFds`. -/
theorem addSocket_overfills_live_set_two :
    (addSockets 2 [⟨0, 10⟩, ⟨1, 11⟩, ⟨2, 12⟩] (create true)).1 = ([⟨0, 10⟩, ⟨1, 11⟩, ⟨2, 12⟩] : List UdpSocketWinRT).map (fun _ => true) ∧
      2 < (addSockets 2 [⟨0, 10⟩, ⟨1, 11⟩, ⟨2, 12⟩] (create true)).2.updateSocketMap.1.socketMap.size ∧
      ∃ s ∈ ([⟨0, 10⟩, ⟨1, 11⟩, ⟨2, 12⟩] : List UdpSocketWinRT), s.fd ∉
        readFds 2 (addSockets 2 [⟨0, 10⟩, ⟨1, 11⟩, ⟨2, 12⟩] (create true)).2.updateSocketMap.1.socketMap :=
  addSocket_overfills_live_set 2 (by decide) true _ rfl (by decide) (by decide)

end WebRtcWinRT.SocketWorkerCapacity
