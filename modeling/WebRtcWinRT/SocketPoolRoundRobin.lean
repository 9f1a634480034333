import WebRtcWinRT.SocketPoolShutdown

/-!
# Round-robin assignment and slot safety

After a successful `Init` with at least one worker, every call reads a filled
slot, and the cursor pair counts the `AddSocket` calls:
`2 * _nextSocketMgrToAssign + _incSocketMgrNextTime` is their number modulo
twice the pool size, so the `k`-th call goes to worker `⌊k / 2⌋ mod N`
whatever the calls returned and whatever else ran in between. With zero
workers `Init` succeeds all the same, and the first `AddSocket` reads the null
slot 0.
-/

namespace WebRtcWinRT.SocketPoolRoundRobin

open UdpSocket SocketWorker SocketPool UdpSocketManagerWinRT SocketPoolShutdown

/-- The number of `AddSocket` calls in a run. -/
def adds : List PoolOp → Nat
  | [] => 0
  | .addSocket _ :: ops => adds ops + 1
  | _ :: ops => adds ops

/-- The `AddSocket` calls of a run, counted call by call. -/
theorem adds_cons (op : PoolOp) (ops : List PoolOp) : adds (op :: ops) = adds [op] + adds ops := by
  cases op <;> simp only [adds] <;> omega

/-- The cursor pair read as one counter. -/
def ticks (m : UdpSocketManagerWinRT) : Nat :=
  2 * m.nextSocketMgrToAssign.toNat + m.incSocketMgrNextTime.toNat

/-- A pool of `N` workers after a successful `Init`, as every later call
leaves it. -/
structure PoolInv (N : Nat) (m : UdpSocketManagerWinRT) : Prop where
  slots : SlotsOk m
  count : m.numberOfSocketMgr.toNat = N
  pos : 0 < N
  alternator : m.incSocketMgrNextTime.toNat ≤ 1
  cursor : m.nextSocketMgrToAssign.toNat < N

variable {N : Nat} {m : UdpSocketManagerWinRT}

/-- The cursor pair, read as one counter, stays below twice the pool's size. -/
theorem PoolInv.ticks_lt (h : PoolInv N m) : ticks m < 2 * N := by
  have := h.alternator; have := h.cursor; unfold ticks; omega

/-- The cursor always points at a filled slot. -/
theorem PoolInv.worker?_cursor (h : PoolInv N m) :
    ∃ w, m.worker? m.nextSocketMgrToAssign.toNat = some w :=
  Option.isSome_iff_exists.mp (h.slots.slots _ (h.count ▸ h.cursor))

/-- Storing a worker keeps the pool's invariant. -/
theorem PoolInv.setWorker (h : PoolInv N m) (i : Nat) (w : UdpSocketManagerWinRTImpl) :
    PoolInv N (m.setWorker i w) :=
  ⟨h.slots.setWorker i w, h.count, h.pos, h.alternator, h.cursor⟩

/-- The alternator flips; every second call the cursor moves on, wrapping
after the last worker: one tick of a counter modulo `2 * N`. -/
theorem PoolInv.advanceCursor (h : PoolInv N m) :
    PoolInv N (advanceCursor m) ∧ ticks (advanceCursor m) = (ticks m + 1) % (2 * N) := by
  obtain ⟨hs, hc, hpos, halt, hcur⟩ := h
  have hle : m.numberOfSocketMgr.toNat ≤ 8 := hs.le_max
  unfold UdpSocketManagerWinRT.advanceCursor ticks
  split
  · rename_i h0
    have h0' : m.incSocketMgrNextTime.toNat = 0 := by rw [h0]; rfl
    have h1 : (m.incSocketMgrNextTime + 1).toNat = 1 := by
      show (m.incSocketMgrNextTime.toNat + 1) % 256 = 1; omega
    refine ⟨⟨⟨hs.le_max, hs.slots⟩, hc, hpos, by simp only [h1]; omega, hcur⟩, ?_⟩
    simp only [h1, h0']
    rw [Nat.mod_eq_of_lt (by omega)]
  · rename_i h0
    have h1 : m.incSocketMgrNextTime.toNat = 1 := by
      have : m.incSocketMgrNextTime.toNat ≠ 0 := fun h => h0 (UInt8.toNat.inj h)
      omega
    have hnext : (m.nextSocketMgrToAssign + 1).toNat = m.nextSocketMgrToAssign.toNat + 1 := by
      show (m.nextSocketMgrToAssign.toNat + 1) % 256 = _; omega
    have hge : (m.nextSocketMgrToAssign + 1 ≥ m.numberOfSocketMgr) ↔
        N ≤ m.nextSocketMgrToAssign.toNat + 1 := by
      show m.numberOfSocketMgr.toNat ≤ (m.nextSocketMgrToAssign + 1).toNat ↔ _
      rw [hnext, hc]
    dsimp only
    split
    · rename_i hw
      have hN : m.nextSocketMgrToAssign.toNat + 1 = N := by have := hge.mp hw; omega
      refine ⟨⟨⟨hs.le_max, hs.slots⟩, hc, hpos, by simp, by simp; omega⟩, ?_⟩
      simp only [h1]
      rw [show 2 * m.nextSocketMgrToAssign.toNat + 1 + 1 = 2 * N by omega, Nat.mod_self]
      rfl
    · rename_i hw
      have hN : m.nextSocketMgrToAssign.toNat + 1 < N := by
        have := mt hge.mpr hw; omega
      refine ⟨⟨⟨hs.le_max, hs.slots⟩, hc, hpos, by simp, by simp only [hnext]; omega⟩, ?_⟩
      simp only [h1, hnext]
      rw [Nat.mod_eq_of_lt (by omega)]
      simp; omega

/-- A worker's `Process` turn keeps the pool's invariant. -/
theorem PoolInv.process (h : PoolInv N m) (FD_SETSIZE i select hasIncoming) :
    PoolInv N (m.process FD_SETSIZE i select hasIncoming) := by
  refine ⟨h.slots.process FD_SETSIZE i select hasIncoming, ?_, h.pos, ?_, ?_⟩ <;>
    simp [h.count, h.alternator, h.cursor]

variable (FD_SETSIZE : Nat)

/-- Every call reads a filled slot and keeps the pool's invariant; only
`AddSocket` ticks the cursor. -/
theorem PoolInv.step (h : PoolInv N m) (op : PoolOp) :
    ∃ m', m.step FD_SETSIZE op = some m' ∧ PoolInv N m' ∧
      ticks m' = (ticks m + adds [op]) % (2 * N) := by
  have hlt := Nat.mod_eq_of_lt h.ticks_lt
  cases op with
  | start t =>
    exact ⟨m, by simp [UdpSocketManagerWinRT.step, UdpSocketManagerWinRT.start,
      scanWorkers_of_slotsOk h.slots], h, by simp [adds, hlt]⟩
  | stop t =>
    exact ⟨m, by simp [UdpSocketManagerWinRT.step, UdpSocketManagerWinRT.stop,
      scanWorkers_of_slotsOk h.slots], h, by simp [adds, hlt]⟩
  | addSocket s =>
    obtain ⟨w, hw⟩ := h.worker?_cursor
    obtain ⟨hinv, htick⟩ := (h.setWorker m.nextSocketMgrToAssign.toNat
      (w.addSocket FD_SETSIZE s).2).advanceCursor
    exact ⟨_, by simp [UdpSocketManagerWinRT.step, UdpSocketManagerWinRT.addSocket, hw], hinv,
      by rw [htick]; rfl⟩
  | removeSocket s =>
    obtain ⟨c, r, m', he, hs, hn, hc, ha⟩ := h.slots.removeSocket s
    refine ⟨m', by simp [UdpSocketManagerWinRT.step, he],
      ⟨hs, hn ▸ h.count, h.pos, ha ▸ h.alternator, hc ▸ h.cursor⟩, ?_⟩
    show _ = (ticks m + 0) % (2 * N)
    rw [Nat.add_zero, hlt]
    simp only [ticks, hc, ha]
  | process i select hasIncoming =>
    refine ⟨_, rfl, h.process FD_SETSIZE i select hasIncoming, ?_⟩
    simp only [ticks, process_nextSocketMgrToAssign, process_incSocketMgrNextTime, adds,
      Nat.add_zero]
    exact hlt.symm

/-- A whole run keeps the invariant, and the cursor counts its `AddSocket`
calls. -/
theorem PoolInv.run (h : PoolInv N m) (ops : List PoolOp) :
    ∃ m', m.run FD_SETSIZE ops = some m' ∧ PoolInv N m' ∧
      ticks m' = (ticks m + adds ops) % (2 * N) := by
  induction ops generalizing m with
  | nil => exact ⟨m, rfl, h, (Nat.mod_eq_of_lt h.ticks_lt).symm⟩
  | cons op ops ih =>
    obtain ⟨m₁, h₁, hinv₁, ht₁⟩ := h.step FD_SETSIZE op
    obtain ⟨m', h', hinv', ht'⟩ := ih hinv₁
    refine ⟨m', by simp [UdpSocketManagerWinRT.run, h₁, h'], hinv', ?_⟩
    rw [ht', ht₁, Nat.mod_add_mod, Nat.add_assoc, ← adds_cons]

/-- A successful `Init` with `n ≥ 1` leaves `min n MAX` workers and the cursor
at its start. -/
theorem init_poolInv {id : Int} {n base : UInt8} {created : Nat → Bool}
    (hinit : (init id n created (create base)).1 = true) (hn : 1 ≤ n.toNat) :
    PoolInv (min n.toNat MAX_NUMBER_OF_SOCKET_MANAGERS_LINUX) (init id n created (create base)).2 ∧
      ticks (init id n created (create base)).2 = 0 := by
  have hslots := init_slotsOk hinit
  unfold init at hinit hslots ⊢
  split at hinit
  · simp at hinit
  · rename_i hok
    simp only [if_neg hok] at hslots ⊢
    have h8 : MAX_NUMBER_OF_SOCKET_MANAGERS_LINUX.toUInt8.toNat = 8 := rfl
    have hcount : (if MAX_NUMBER_OF_SOCKET_MANAGERS_LINUX < n.toNat then
        MAX_NUMBER_OF_SOCKET_MANAGERS_LINUX.toUInt8 else n).toNat =
        min n.toNat MAX_NUMBER_OF_SOCKET_MANAGERS_LINUX := by
      split <;> simp only [h8, MAX_NUMBER_OF_SOCKET_MANAGERS_LINUX] at * <;> omega
    refine ⟨⟨hslots, hcount, ?_, ?_, ?_⟩, rfl⟩ <;>
      simp [create, MAX_NUMBER_OF_SOCKET_MANAGERS_LINUX] <;> omega

/-- After a successful `Init(id, n)` with `n ≥ 1`, every run that follows is
defined, the cursor pair counts its `AddSocket` calls modulo `2 * N`, and the
next `AddSocket`, the `k`-th counting from 0, is delegated to worker
`⌊k / 2⌋ mod N`: it returns that worker's answer, and that worker alone
changes. -/
theorem addSocket_round_robin {id : Int} {n base : UInt8} {created : Nat → Bool}
    (hinit : (init id n created (create base)).1 = true) (hn : 1 ≤ n.toNat)
    (ops : List PoolOp) :
    ∃ m, (init id n created (create base)).2.run FD_SETSIZE ops = some m ∧
      2 * m.nextSocketMgrToAssign.toNat + m.incSocketMgrNextTime.toNat =
        adds ops % (2 * min n.toNat MAX_NUMBER_OF_SOCKET_MANAGERS_LINUX) ∧
      m.incSocketMgrNextTime.toNat ≤ 1 ∧
      ∀ s, ∃ w,
        m.worker? (adds ops / 2 % min n.toNat MAX_NUMBER_OF_SOCKET_MANAGERS_LINUX) = some w ∧
        m.addSocket FD_SETSIZE s = some ((w.addSocket FD_SETSIZE s).1,
          advanceCursor (m.setWorker (adds ops / 2 % min n.toNat MAX_NUMBER_OF_SOCKET_MANAGERS_LINUX)
            (w.addSocket FD_SETSIZE s).2)) := by
  obtain ⟨h₀, ht₀⟩ := init_poolInv hinit hn
  obtain ⟨m, hrun, hinv, ht⟩ := h₀.run FD_SETSIZE ops
  rw [ht₀, Nat.zero_add] at ht
  have hcur : m.nextSocketMgrToAssign.toNat =
      adds ops / 2 % min n.toNat MAX_NUMBER_OF_SOCKET_MANAGERS_LINUX := by
    rw [← Nat.mod_mul_right_div_self, ← ht]
    have := hinv.alternator
    unfold ticks
    omega
  refine ⟨m, hrun, ht, hinv.alternator, fun s => ?_⟩
  obtain ⟨w, hw⟩ := hinv.worker?_cursor
  rw [hcur] at hw
  exact ⟨w, hw, by simp [UdpSocketManagerWinRT.addSocket, hcur, hw]⟩

/-- Five sockets over three workers: the cursor pair has counted five ticks. -/
theorem addSocket_round_robin_sixth_of_three :
    ∃ m, (init 0 3 (fun _ => true) (create 0)).2.run 64
        [.addSocket ⟨0, 10⟩, .addSocket ⟨1, 11⟩, .addSocket ⟨2, 12⟩, .addSocket ⟨3, 13⟩,
          .addSocket ⟨4, 14⟩] = some m ∧
      2 * m.nextSocketMgrToAssign.toNat + m.incSocketMgrNextTime.toNat =
        adds [.addSocket ⟨0, 10⟩, .addSocket ⟨1, 11⟩, .addSocket ⟨2, 12⟩, .addSocket ⟨3, 13⟩,
          .addSocket ⟨4, 14⟩] % (2 * min (3 : UInt8).toNat MAX_NUMBER_OF_SOCKET_MANAGERS_LINUX) ∧
      m.incSocketMgrNextTime.toNat ≤ 1 ∧
      ∀ s, ∃ w,
        m.worker? (adds [.addSocket ⟨0, 10⟩, .addSocket ⟨1, 11⟩, .addSocket ⟨2, 12⟩,
          .addSocket ⟨3, 13⟩, .addSocket ⟨4, 14⟩] / 2 %
            min (3 : UInt8).toNat MAX_NUMBER_OF_SOCKET_MANAGERS_LINUX) = some w ∧
        m.addSocket 64 s = some ((w.addSocket 64 s).1,
          advanceCursor (m.setWorker (adds [.addSocket ⟨0, 10⟩, .addSocket ⟨1, 11⟩,
            .addSocket ⟨2, 12⟩, .addSocket ⟨3, 13⟩, .addSocket ⟨4, 14⟩] / 2 %
              min (3 : UInt8).toNat MAX_NUMBER_OF_SOCKET_MANAGERS_LINUX) (w.addSocket 64 s).2)) :=
  addSocket_round_robin 64 (by decide) (by decide) _

/-- After a successful `Init(id, n)` with `n ≥ 1`, every run of calls is
defined: each reads a slot below `min n MAX` that `Init` filled, the cursor
stays on a worker, and the destructor's calls are defined too. -/
theorem pool_reads_filled_slots {id : Int} {n base : UInt8} {created : Nat → Bool}
    (hinit : (init id n created (create base)).1 = true) (hn : 1 ≤ n.toNat)
    (ops : List PoolOp) (threadStopped : Nat → Bool) :
    ∃ m, (init id n created (create base)).2.run FD_SETSIZE ops = some m ∧
      m.numberOfSocketMgr.toNat = min n.toNat MAX_NUMBER_OF_SOCKET_MANAGERS_LINUX ∧
      m.nextSocketMgrToAssign.toNat < m.numberOfSocketMgr.toNat ∧
      (∀ i < m.numberOfSocketMgr.toNat, (m.worker? i).isSome) ∧
      (m.destroy threadStopped).isSome := by
  obtain ⟨m, hrun, hinv, -⟩ := (init_poolInv hinit hn).1.run FD_SETSIZE ops
  exact ⟨m, hrun, hinv.count, hinv.count ▸ hinv.cursor, hinv.slots.slots,
    by simp [UdpSocketManagerWinRT.destroy, UdpSocketManagerWinRT.stop,
      scanWorkers_of_slotsOk hinv.slots]⟩

/-- Three workers, an add, a remove and a stop: every slot the pool reads is filled. -/
theorem pool_reads_filled_slots_three :
    ∃ m, (init 0 3 (fun _ => true) (create 0)).2.run 64
        [.addSocket ⟨0, 10⟩, .removeSocket ⟨0, 10⟩, .stop fun _ => true] = some m ∧
      m.numberOfSocketMgr.toNat = min (3 : UInt8).toNat MAX_NUMBER_OF_SOCKET_MANAGERS_LINUX ∧
      m.nextSocketMgrToAssign.toNat < m.numberOfSocketMgr.toNat ∧
      (∀ i < m.numberOfSocketMgr.toNat, (m.worker? i).isSome) ∧
      (m.destroy fun _ => true).isSome :=
  pool_reads_filled_slots 64 (by decide) (by decide) _ _

/-- `Init` accepts a pool of zero workers, and the first `AddSocket` then
reads the null slot 0, past the pool's end. -/
theorem init_zero_workers_addSocket_null_slot (id : Int) (s : UdpSocketWinRT) :
    (init id 0 (fun _ => true) (create 0)).1 = true ∧
      (init id 0 (fun _ => true) (create 0)).2.numberOfSocketMgr = 0 ∧
      (init id 0 (fun _ => true) (create 0)).2.nextSocketMgrToAssign = 0 ∧
      (init id 0 (fun _ => true) (create 0)).2.worker? 0 = none ∧
      (init id 0 (fun _ => true) (create 0)).2.run FD_SETSIZE [.addSocket s] = none :=
  ⟨rfl, rfl, rfl, rfl, rfl⟩

end WebRtcWinRT.SocketPoolRoundRobin
