import WebRtcWinRT.SocketPool

/-!
# Fan-out loops and shutdown

`Start`, `Stop` and `RemoveSocket` share one loop, `scanWorkers`, which goes
on only while the answer keeps its first value. On a pool whose slots are
filled, `Start` and `Stop` therefore call the workers in index order up to and
including the first that answers `false`, and no further, and answer whether
every worker they called answered `true`. A worker after a failing one is
never asked to stop, and the destructor deletes it right after `Stop`
returns.
-/

namespace WebRtcWinRT.SocketPoolShutdown

open UdpSocket SocketWorker SocketPool UdpSocketManagerWinRT

/-- The loop depends only on the calls at the indices it runs over. -/
theorem scanWorkers_congr {σ : Type} {init : Bool} {call call' : Nat → σ → Option (Bool × σ)}
    {is : List Nat} (h : ∀ i ∈ is, call i = call' i) (x : σ) :
    scanWorkers init call is x = scanWorkers init call' is x := by
  induction is generalizing x with
  | nil => rfl
  | cons i is ih => simp only [scanWorkers, h i (.head _), ih fun j hj => h j (.tail _ hj)]

/-- The loop over `s, s + 1, …` with calls that only answer: it calls the
workers up to the first whose answer differs from `true`, and its result is
whether every answer was `true`. -/
theorem scanWorkers_range' (ok : Nat → Bool) (s n : Nat) :
    scanWorkers true (fun i (_ : Unit) => some (ok i, ())) (List.range' s n) () =
      some ((List.range' s n).filter (fun i => (List.range' s (i - s)).all ok),
        (List.range' s n).all ok, ()) := by
  induction n generalizing s with
  | zero => rfl
  | succ n ih =>
    have hrest : ∀ i ∈ List.range' (s + 1) n,
        (List.range' s (i - s)).all ok = (ok s && (List.range' (s + 1) (i - (s + 1))).all ok) := by
      intro i hi
      have : i - s = (i - (s + 1)) + 1 := by rw [List.mem_range'_1] at hi; omega
      rw [this, List.range'_succ, List.all_cons]
    rw [List.range'_succ, List.filter_cons_of_pos (by simp), List.all_cons]
    cases hs : ok s
    · rw [List.filter_eq_nil_iff.mpr fun i hi => by simp [hrest i hi, hs]]
      simp [scanWorkers, hs]
    · rw [List.filter_congr fun i hi => by rw [hrest i hi, hs, Bool.true_and]]
      simp [scanWorkers, hs, ih]

/-- On a pool whose slots are filled, a loop of calls that only read the
workers calls them up to the first that answers `false`, and answers whether
all of them answered `true`. -/
theorem scanWorkers_of_slotsOk {m : UdpSocketManagerWinRT} (h : SlotsOk m)
    (answer : Nat → UdpSocketManagerWinRTImpl → Bool) :
    scanWorkers true (fun i (_ : Unit) => (m.worker? i).map fun w => (answer i w, ()))
        m.workerIndices () =
      some (m.workerIndices.filter fun i => (List.range i).all fun j => (m.worker? j).all (answer j),
        m.workerIndices.all fun i => (m.worker? i).all (answer i), ()) := by
  have hcall : ∀ i ∈ m.workerIndices,
      (fun (_ : Unit) => (m.worker? i).map fun w => (answer i w, ())) =
        fun _ => some ((m.worker? i).all (answer i), ()) := by
    intro i hi
    obtain ⟨w, hw⟩ := Option.isSome_iff_exists.mp (h.slots i (List.mem_range.mp hi))
    simp [hw]
  rw [scanWorkers_congr hcall, workerIndices, List.range_eq_range', scanWorkers_range']
  simp [List.range_eq_range']

/-- What worker `i`'s `Stop()` returns when its thread's `Stop()` returns
`threadStopped i`; an empty slot, which a pool with filled slots never reads,
counts as stopped. -/
def stopResult (threadStopped : Nat → Bool) (m : UdpSocketManagerWinRT) (i : Nat) : Bool :=
  (m.worker? i).all fun w => w.stop (threadStopped i)

variable (FD_SETSIZE : Nat)

/-- In every state a run reaches after a successful `Init`, `Stop` calls the
workers in index order up to and including the first whose `Stop()` fails,
and no further, and returns whether all of them stopped. The destructor asks
the same workers to stop, then deletes every worker. -/
theorem stop_calls_through_first_failure {id : Int} {n base : UInt8} {created : Nat → Bool}
    (hinit : (init id n created (create base)).1 = true) (ops : List PoolOp)
    {m : UdpSocketManagerWinRT} (hrun : (init id n created (create base)).2.run FD_SETSIZE ops = some m)
    (threadStopped : Nat → Bool) :
    m.stop threadStopped =
        some (m.workerIndices.filter fun i => (List.range i).all (stopResult threadStopped m),
          m.workerIndices.all (stopResult threadStopped m)) ∧
      m.destroy threadStopped =
        some (m.workerIndices.filter fun i => (List.range i).all (stopResult threadStopped m),
          m.workerIndices.flatMap fun i => ((m.worker? i).map (·.destroy)).getD []) := by
  have hstop := scanWorkers_of_slotsOk ((init_slotsOk hinit).run FD_SETSIZE hrun)
    fun i w => w.stop (threadStopped i)
  refine ⟨?_, ?_⟩ <;>
    simp only [UdpSocketManagerWinRT.destroy, UdpSocketManagerWinRT.stop, hstop, Option.map_some'] <;>
    rfl

/-- Three workers, the second failing to stop: the third is never asked. -/
theorem stop_calls_through_first_failure_three :
    (init 0 3 (fun _ => true) (create 0)).2.stop (fun i => i != 1) =
        some ((init 0 3 (fun _ => true) (create 0)).2.workerIndices.filter fun i =>
            (List.range i).all (stopResult (fun i => i != 1) (init 0 3 (fun _ => true) (create 0)).2),
          (init 0 3 (fun _ => true) (create 0)).2.workerIndices.all
            (stopResult (fun i => i != 1) (init 0 3 (fun _ => true) (create 0)).2)) ∧
      (init 0 3 (fun _ => true) (create 0)).2.destroy (fun i => i != 1) =
        some ((init 0 3 (fun _ => true) (create 0)).2.workerIndices.filter fun i =>
            (List.range i).all (stopResult (fun i => i != 1) (init 0 3 (fun _ => true) (create 0)).2),
          (init 0 3 (fun _ => true) (create 0)).2.workerIndices.flatMap fun i =>
            (((init 0 3 (fun _ => true) (create 0)).2.worker? i).map (·.destroy)).getD []) :=
  @stop_calls_through_first_failure 64 0 3 0 (fun _ => true) rfl [] _ rfl _

/-- Of three running workers, the second fails to stop: `Stop` never calls the
third, and returns `false`; the destructor deletes all three. -/
theorem stop_skips_workers_after_failure :
    (init 0 3 (fun _ => true) (create 0)).1 = true ∧
      ((init 0 3 (fun _ => true) (create 0)).2.worker? 2).map (·.thread) = some true ∧
      (init 0 3 (fun _ => true) (create 0)).2.stop (fun i => i != 1) = some ([0, 1], false) ∧
      ((init 0 3 (fun _ => true) (create 0)).2.destroy fun i => i != 1).map (·.1) = some [0, 1] := by
  decide

end WebRtcWinRT.SocketPoolShutdown
