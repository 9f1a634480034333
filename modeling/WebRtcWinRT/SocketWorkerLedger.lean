import Mathlib.Data.List.Perm.Basic
import WebRtcWinRT.SocketWorker

/-!
# Socket ownership: the worker refines a ledger

A worker owns every socket it accepted until it destroys it. The ledger says
what that means: the sockets held, and the sockets whose removal was granted
and that the next merge destroys, each with `ReadyForDeletion()` just before
its `delete`. The worker is shown to follow the ledger along every run whose
caller keeps its side of the contract: handles that fit in `unsigned int`,
distinct among the sockets the worker still owns, and no socket used after
its removal was granted. Past 32 bits the contract cannot be kept: the scan
of `_addList` in `RemoveSocket` compares and queues truncated handles, and a
run below shows a merge destroying a socket that was never removed.
-/

namespace WebRtcWinRT.SocketWorkerLedger

open UdpSocket SocketWorker UdpSocketManagerWinRTImpl

/-- The sockets a worker owns: the pending adds, then the live map. -/
def live (w : UdpSocketManagerWinRTImpl) : List UdpSocketWinRT :=
  w.addList ++ w.socketMap.values

/-- With distinct handles, erasing the first socket with a handle removes exactly that handle. -/
theorem mem_eraseP_fd {l : List UdpSocketWinRT} (hl : (l.map (·.fd)).Nodup) {k : SOCKET}
    {x : UdpSocketWinRT} : x ∈ l.eraseP (·.fd = k) ↔ x ∈ l ∧ x.fd ≠ k := by
  refine ⟨fun hx => ⟨List.mem_of_mem_eraseP hx, fun hxk => ?_⟩,
    fun ⟨hx, hxk⟩ => (List.mem_eraseP_of_neg (by simpa using hxk)).mpr hx⟩
  obtain ⟨b, l₁, l₂, -, hb, rfl, he⟩ := List.exists_of_eraseP
    (p := fun a : UdpSocketWinRT => decide (a.fd = k)) (List.mem_of_mem_eraseP hx) (by simpa using hxk)
  simp only [decide_eq_true_eq] at hb
  rw [he] at hx
  simp only [List.map_append, List.map_cons] at hl
  have := (List.nodup_middle.mp hl).not_mem
  simp only [List.mem_append, List.mem_map] at this
  rcases List.mem_append.mp hx with hx | hx
  · exact this (.inl ⟨x, hx, hxk.trans hb.symm⟩)
  · exact this (.inr ⟨x, hx, hxk.trans hb.symm⟩)

/-- A turn of the remove loop takes out of the owned sockets exactly those
with the handle it was given. -/
theorem mem_live_removeOne {w : UdpSocketManagerWinRTImpl}
    (hA : (w.addList.map (·.fd)).Nodup) (hkeys : KeysMatch w.socketMap) (k : SOCKET)
    (x : UdpSocketWinRT) : x ∈ live (removeOne k w).1 ↔ x ∈ live w ∧ x.fd ≠ k := by
  unfold removeOne live
  split
  · simp only [List.mem_append, mem_eraseP_fd hA, mem_values_erase hkeys]
    exact or_and_right.symm
  · rename_i hk
    have hv : x ∈ w.socketMap.values → x.fd ≠ k := fun hx he =>
      SocketMap.find_eq_none_iff.mp hk x (he ▸ hkeys.mem_values_iff.mp hx)
    simp only [List.mem_append, mem_eraseP_fd hA]
    rw [or_and_right]
    exact or_congr_right ⟨fun hx => ⟨hx, hv hx⟩, And.left⟩

/-- For a handle of an owned socket, the turn deletes that socket. -/
theorem removeOne_deletes {w : UdpSocketManagerWinRTImpl}
    (hfd : ((live w).map (·.fd)).Nodup) (hkeys : KeysMatch w.socketMap)
    {t : UdpSocketWinRT} (ht : t ∈ live w) : (removeOne t.fd w).2 = some t := by
  have hinj := List.inj_on_of_nodup_map hfd
  unfold removeOne
  split
  · rename_i s hs
    have hmem := SocketMap.find_eq_some_iff.mp hs
    have hsf : s.fd = t.fd := (hkeys _ hmem).symm
    have hsv : s ∈ live w :=
      List.mem_append_right _ (hkeys.mem_values_iff.mpr (hsf ▸ hmem))
    rw [hinj hsv ht hsf]
  · rename_i hk
    have htA : t ∈ w.addList := by
      rcases List.mem_append.mp ht with ht | ht
      · exact ht
      · exact absurd (hkeys.mem_values_iff.mp ht) (SocketMap.find_eq_none_iff.mp hk t)
    obtain ⟨a, ha⟩ := Option.isSome_iff_exists.mp
      (List.find?_isSome.mpr ⟨t, htA, by simp⟩ : (w.addList.find? (·.fd = t.fd)).isSome)
    have haf : a.fd = t.fd := by simpa using List.find?_some ha
    rw [ha, hinj (List.mem_append_left _ (List.mem_of_find?_eq_some ha)) ht haf]

/-- Removing one handle only shrinks what a worker owns. -/
theorem live_removeOne_sublist (k : SOCKET) (w : UdpSocketManagerWinRTImpl) :
    (live (removeOne k w).1).Sublist (live w) := by
  unfold removeOne live
  split
  · exact (List.eraseP_sublist _).append ((List.filter_sublist _).map _)
  · exact (List.eraseP_sublist _).append (List.Sublist.refl _)

/-- Distinct handles over two lists are distinct within the first and between the two. -/
theorem fds_of_append {A V : List UdpSocketWinRT} (h : ((A ++ V).map (·.fd)).Nodup) :
    (A.map (·.fd)).Nodup ∧ ∀ x ∈ A, ∀ y ∈ V, x.fd ≠ y.fd := by
  rw [List.map_append, List.nodup_append] at h
  refine ⟨h.1, fun x hx y hy he => h.2.2 (List.mem_map_of_mem _ hx) ?_⟩
  rw [he]
  exact List.mem_map_of_mem _ hy

/-- The remove loop, run over the handles of owned sockets `D`, deletes each of
them in turn, `ReadyForDeletion()` first, and leaves exactly the others owned. -/
theorem removeAll_doomed (D : List UdpSocketWinRT) {w : UdpSocketManagerWinRTImpl}
    {H : List UdpSocketWinRT} (hmem : ∀ t, t ∈ live w ↔ t ∈ H ∨ t ∈ D) (hnd : (H ++ D).Nodup)
    (hfd : ((live w).map (·.fd)).Nodup) (hkeys : KeysMatch w.socketMap) :
    (removeAll (D.map (·.fd)) w).2 = D.flatMap (fun d => deletion (some d)) ∧
      (∀ t, t ∈ live (removeAll (D.map (·.fd)) w).1 ↔ t ∈ H) ∧
      ((live (removeAll (D.map (·.fd)) w).1).map (·.fd)).Nodup ∧
      KeysMatch (removeAll (D.map (·.fd)) w).1.socketMap := by
  induction D generalizing w with
  | nil => exact ⟨rfl, fun t => by simpa using hmem t, hfd, hkeys⟩
  | cons d D ih =>
    have hd : d ∈ live w := (hmem d).mpr (.inr (.head _))
    have hdH : d ∉ H ∧ d ∉ D := by
      rw [List.nodup_middle, List.nodup_cons, List.mem_append] at hnd
      exact not_or.mp hnd.1
    have hinj := List.inj_on_of_nodup_map hfd
    have hmem' : ∀ t, t ∈ live (removeOne d.fd w).1 ↔ t ∈ H ∨ t ∈ D := by
      intro t
      rw [mem_live_removeOne (fds_of_append hfd).1 hkeys, hmem, List.mem_cons]
      constructor
      · rintro ⟨ht | ht | ht, hne⟩
        · exact .inl ht
        · exact absurd (congrArg _ ht) hne
        · exact .inr ht
      · intro ht
        refine ⟨ht.imp_right Or.inr, fun he => ?_⟩
        have := hinj ((hmem t).mpr (ht.imp_right (List.mem_cons_of_mem _))) hd he
        subst this
        exact ht.elim hdH.1 hdH.2
    obtain ⟨hev, hrest⟩ := ih hmem' (hnd.sublist (by simp))
      (hfd.sublist ((live_removeOne_sublist _ _).map _)) (removeOne_keysMatch _ hkeys)
    refine ⟨?_, hrest⟩
    simp only [List.map_cons, removeAll, removeOne_deletes hfd hkeys hd, hev, List.flatMap_cons]

/-- Inserting a socket under its handle replaces the socket with that handle, if any. -/
theorem mem_values_insert {m : SocketMap} (hkeys : KeysMatch m) (s : UdpSocketWinRT)
    {x : UdpSocketWinRT} : x ∈ (m.insert s.fd s).values ↔ x = s ∨ (x ∈ m.values ∧ x.fd ≠ s.fd) := by
  have h' : KeysMatch (m.insert s.fd s) := insertAll_keysMatch [s] hkeys
  rw [h'.mem_values_iff, SocketMap.mem_insert, hkeys.mem_values_iff]
  constructor
  · rintro (he | h)
    · exact .inl (Prod.mk.inj he).2
    · exact .inr h
  · rintro (rfl | h)
    · exact .inl rfl
    · exact .inr h

/-- The add loop puts every pending socket in the map, next to the sockets
already there, when no two of them share a handle. -/
theorem mem_values_insertAll (A : List UdpSocketWinRT) {m : SocketMap} (hkeys : KeysMatch m)
    (hA : (A.map (·.fd)).Nodup) (hdisj : ∀ x ∈ A, ∀ y ∈ m.values, x.fd ≠ y.fd)
    (x : UdpSocketWinRT) : x ∈ (insertAll A m).values ↔ x ∈ A ∨ x ∈ m.values := by
  induction A generalizing m with
  | nil => simp [insertAll]
  | cons a A ih =>
    rw [List.map_cons, List.nodup_cons, List.mem_map] at hA
    have hfresh : ∀ y ∈ m.values, y.fd ≠ a.fd := fun y hy he => hdisj a (.head _) y hy he.symm
    have hdisj' : ∀ x ∈ A, ∀ y ∈ (m.insert a.fd a).values, x.fd ≠ y.fd := by
      intro x hx y hy
      rcases (mem_values_insert hkeys a).mp hy with rfl | ⟨hy, -⟩
      · exact fun he => hA.1 ⟨x, hx, he⟩
      · exact hdisj x (.tail _ hx) y hy
    rw [insertAll, @ih (m.insert a.fd a) (insertAll_keysMatch [a] hkeys) hA.2 hdisj',
      mem_values_insert hkeys,
      List.mem_cons]
    constructor
    · rintro (hx | rfl | ⟨hx, -⟩)
      · exact .inl (.inr hx)
      · exact .inl (.inl rfl)
      · exact .inr hx
    · rintro ((rfl | hx) | hx)
      · exact .inr (.inl rfl)
      · exact .inl hx
      · exact .inr (.inr ⟨hx, hfresh x hx⟩)

/-- A merge destroys exactly the sockets whose handles were queued, in queue
order and each with `ReadyForDeletion()` first, and moves every other owned
socket into the live map. -/
theorem updateSocketMap_doomed {w : UdpSocketManagerWinRTImpl} {H D : List UdpSocketWinRT}
    (hmem : ∀ t, t ∈ live w ↔ t ∈ H ∨ t ∈ D) (hnd : (H ++ D).Nodup)
    (hfd : ((live w).map (·.fd)).Nodup) (hkeys : KeysMatch w.socketMap)
    (hrem : w.removeList = D.map (·.fd)) :
    w.updateSocketMap.2 = D.flatMap (fun d => deletion (some d)) ∧
      (∀ t, t ∈ live w.updateSocketMap.1 ↔ t ∈ H) ∧
      ((live w.updateSocketMap.1).map (·.fd)).Nodup ∧
      KeysMatch w.updateSocketMap.1.socketMap ∧
      w.updateSocketMap.1.addList = [] ∧ w.updateSocketMap.1.removeList = [] := by
  obtain ⟨hev, hmem₁, hfd₁, hkeys₁⟩ := removeAll_doomed D hmem hnd hfd hkeys
  obtain ⟨hA, hdisj⟩ := fds_of_append hfd₁
  have hkeys' := insertAll_keysMatch (removeAll (D.map (·.fd)) w).1.addList hkeys₁
  simp only [updateSocketMap, hrem, live, List.nil_append]
  refine ⟨hev, fun t => ?_, hkeys'.fds_nodup, hkeys', trivial, trivial⟩
  rw [mem_values_insertAll _ hkeys₁ hA hdisj, ← List.mem_append]
  exact hmem₁ t

/-- A step of a run on one worker, as ownership sees it: a caller's call, or
the merge that starts a `Process` cycle. The rest of a cycle only calls
`HasIncoming()`, and what a callback calls back is a step of its own. -/
inductive WorkerOp
  | addSocket (s : UdpSocketWinRT)
  | removeSocket (s : UdpSocketWinRT)
  | updateSocketMap

/-- What a step shows: a call's result, or what a merge did to sockets. -/
inductive Observation
  | added (s : UdpSocketWinRT) (accepted : Bool)
  | removed (s : UdpSocketWinRT) (granted : Bool)
  | merged (events : List SocketEvent)
  deriving DecidableEq

/-- The ownership ledger of a worker. -/
structure Ledger where
  /-- Sockets accepted and not yet passed to a granted `RemoveSocket`. -/
  held : List UdpSocketWinRT
  /-- Sockets whose removal was granted since the last merge, in order. -/
  doomed : List UdpSocketWinRT
  deriving DecidableEq

namespace Ledger

/-- The ledger of a new worker. -/
def empty : Ledger := ⟨[], []⟩

/-- The ledger's reading of one observation, `none` when it does not allow
it. An add may be refused, and an accepted socket is held; a removal is
granted exactly for a held socket, which is then doomed; a merge destroys
exactly the doomed sockets, in order, each with `ReadyForDeletion()` just
before its `delete`, and no other. -/
def observe (L : Ledger) : Observation → Option Ledger
  | .added s accepted => some (if accepted then ⟨L.held ++ [s], L.doomed⟩ else L)
  | .removed s granted =>
    if granted = decide (s ∈ L.held) then
      some (if granted then ⟨L.held.erase s, L.doomed ++ [s]⟩ else L)
    else none
  | .merged events =>
    if events = L.doomed.flatMap (fun d => deletion (some d)) then some ⟨L.held, []⟩ else none

/-- The ledger replays the observations of a run, in order. -/
def replay (L : Ledger) : List Observation → Option Ledger
  | [] => some L
  | o :: os => (L.observe o).bind (replay · os)

end Ledger

variable (FD_SETSIZE : Nat)

/-- One step of the worker, with what it shows. -/
def step (w : UdpSocketManagerWinRTImpl) : WorkerOp → UdpSocketManagerWinRTImpl × Observation
  | .addSocket s => let r := addSocket FD_SETSIZE s w; (r.2, .added s r.1)
  | .removeSocket s => let r := removeSocket s w; (r.2, .removed s r.1)
  | .updateSocketMap => let r := w.updateSocketMap; (r.1, .merged r.2)

/-- A run of steps from `w`: the worker after them, and what each showed. -/
def run (w : UdpSocketManagerWinRTImpl) :
    List WorkerOp → UdpSocketManagerWinRTImpl × List Observation
  | [] => (w, [])
  | op :: ops =>
    let r := step FD_SETSIZE w op
    let rest := run r.1 ops
    (rest.1, r.2 :: rest.2)

/-- The caller's side of the contract for one step, in the state the step is
made in: a handle that fits in `unsigned int` and differs from the handles of
the other sockets the worker owns, and no socket passed again once its
removal was granted. -/
def ClientOk (w : UdpSocketManagerWinRTImpl) : WorkerOp → Prop
  | .addSocket s => s.fd.toNat < 4294967296 ∧ ∀ t ∈ live w, t.fd ≠ s.fd
  | .removeSocket s =>
    s.fd.toNat < 4294967296 ∧ s.fd ∉ w.removeList ∧ ∀ t ∈ live w, t.fd = s.fd → t = s
  | .updateSocketMap => True

/-- The contract kept at every step of a run. -/
def RunOk : UdpSocketManagerWinRTImpl → List WorkerOp → Prop
  | _, [] => True
  | w, op :: ops => ClientOk w op ∧ RunOk (step FD_SETSIZE w op).1 ops

instance decClientOk : (w : UdpSocketManagerWinRTImpl) → (op : WorkerOp) → Decidable (ClientOk w op)
  | _, .addSocket _ => inferInstanceAs (Decidable (_ ∧ _))
  | _, .removeSocket _ => inferInstanceAs (Decidable (_ ∧ _))
  | _, .updateSocketMap => inferInstanceAs (Decidable True)

instance decRunOk : (w : UdpSocketManagerWinRTImpl) → (ops : List WorkerOp) →
    Decidable (RunOk FD_SETSIZE w ops)
  | _, [] => inferInstanceAs (Decidable True)
  | w, op :: ops =>
    have := decRunOk (step FD_SETSIZE w op).1 ops
    inferInstanceAs (Decidable (_ ∧ _))

/-- The worker `w` is in the state that the ledger `L` describes. -/
structure Refines (w : UdpSocketManagerWinRTImpl) (L : Ledger) : Prop where
  /-- The owned sockets are the held and the doomed ones. -/
  mem : ∀ t, t ∈ live w ↔ t ∈ L.held ∨ t ∈ L.doomed
  /-- The ledger names each socket once. -/
  ledger_nodup : (L.held ++ L.doomed).Nodup
  /-- No two owned sockets share a handle, nor is one owned twice. -/
  fds_nodup : ((live w).map (·.fd)).Nodup
  /-- Every owned handle fits in `unsigned int`. -/
  small : ∀ t ∈ live w, t.fd.toNat < 4294967296
  /-- The queued handles are those of the doomed sockets, in order. -/
  removeList_eq : w.removeList = L.doomed.map (·.fd)
  /-- The map is keyed by its sockets' handles. -/
  keys : KeysMatch w.socketMap

namespace Refines

variable {FD_SETSIZE} {w : UdpSocketManagerWinRTImpl} {L : Ledger}

/-- A new worker refines the empty ledger. -/
theorem of_create (created : Bool) : Refines (create created) Ledger.empty where
  mem := by simp [live, create, SocketMap.values, SocketMap.empty, Ledger.empty]
  ledger_nodup := List.nodup_nil
  fds_nodup := by simp [live, create, SocketMap.values, SocketMap.empty]
  small := by simp [live, create, SocketMap.values, SocketMap.empty]
  removeList_eq := rfl
  keys := by simp [KeysMatch, create, SocketMap.empty]

/-- Each owned socket sits in exactly one of `_addList` and `_socketMap`. -/
theorem owned_once (hR : Refines w L) (t : UdpSocketWinRT) :
    t ∈ L.held ∨ t ∈ L.doomed ↔
      (t ∈ w.addList ∧ t ∉ w.socketMap.values) ∨ (t ∉ w.addList ∧ t ∈ w.socketMap.values) := by
  have hdisj := (fds_of_append hR.fds_nodup).2
  rw [← hR.mem t, live, List.mem_append]
  constructor
  · rintro (h | h)
    · exact .inl ⟨h, fun h' => hdisj t h t h' rfl⟩
    · exact .inr ⟨fun h' => hdisj t h' t h rfl, h⟩
  · rintro (⟨h, -⟩ | ⟨-, h⟩)
    · exact .inl h
    · exact .inr h

/-- A granted removal moves the socket from held to doomed and queues its
handle. -/
theorem grant (hR : Refines w L) {s : UdpSocketWinRT} (hs : s ∈ L.held) :
    Refines { w with removeList := w.removeList ++ [s.fd] } ⟨L.held.erase s, L.doomed ++ [s]⟩ where
  mem t := by
    have hnd := (List.nodup_append.mp hR.ledger_nodup).1
    rw [show live { w with removeList := w.removeList ++ [s.fd] } = live w from rfl, hR.mem,
      hnd.mem_erase_iff, List.mem_append, List.mem_singleton]
    by_cases h : t = s
    · subst h; simp [hs]
    · simp [h]
  ledger_nodup := by
    have hp : (L.held.erase s ++ (L.doomed ++ [s])).Perm (L.held ++ L.doomed) := by
      rw [← List.append_assoc]
      exact (List.perm_append_singleton _ _).trans ((List.perm_cons_erase hs).append_right _).symm
    exact hp.nodup_iff.mpr hR.ledger_nodup
  fds_nodup := hR.fds_nodup
  small := hR.small
  removeList_eq := by simp [hR.removeList_eq]
  keys := hR.keys

/-- An allowed `AddSocket` refines the ledger holding the socket when it is accepted. -/
theorem addSocket (hR : Refines w L) {s : UdpSocketWinRT}
    (hok : ClientOk w (.addSocket s)) :
    Refines (addSocket FD_SETSIZE s w).2
      (if (addSocket FD_SETSIZE s w).1 then ⟨L.held ++ [s], L.doomed⟩ else L) := by
  by_cases h : s.fd = INVALID_SOCKET ∨ FD_SETSIZE ≤ w.socketMap.size
  · simpa [UdpSocketManagerWinRTImpl.addSocket, h] using hR
  simp only [UdpSocketManagerWinRTImpl.addSocket, h, if_false, if_true]
  obtain ⟨hsmall, hfresh⟩ := hok
  have hp : (live { w with addList := w.addList ++ [s] }).Perm (s :: live w) := by
    simp only [live, List.append_assoc, List.singleton_append]
    exact List.perm_middle
  have hs : s ∉ L.held ++ L.doomed := fun hs =>
    hfresh s ((hR.mem s).mpr (List.mem_append.mp hs)) rfl
  refine ⟨fun t => ?_, ?_, ?_, fun t ht => ?_, hR.removeList_eq, hR.keys⟩
  · rw [hp.mem_iff, List.mem_cons, hR.mem, List.mem_append, List.mem_singleton, ← or_assoc,
      @or_comm (t = s)]
  · rw [List.append_assoc, List.singleton_append, List.nodup_middle]
    exact List.nodup_cons.mpr ⟨hs, hR.ledger_nodup⟩
  · rw [(hp.map _).nodup_iff, List.map_cons, List.nodup_cons, List.mem_map]
    exact ⟨fun ⟨t, ht, he⟩ => hfresh t ht he, hR.fds_nodup⟩
  · rcases List.mem_cons.mp (hp.mem_iff.mp ht) with rfl | ht
    · exact hsmall
    · exact hR.small t ht

/-- An allowed `RemoveSocket` answers whether the ledger holds the socket, and refines the ledger
that dooms it. -/
theorem removeSocket (hR : Refines w L) {s : UdpSocketWinRT}
    (hok : ClientOk w (.removeSocket s)) :
    (removeSocket s w).1 = decide (s ∈ L.held) ∧
      Refines (removeSocket s w).2
        (if s ∈ L.held then ⟨L.held.erase s, L.doomed ++ [s]⟩ else L) := by
  obtain ⟨hsmall, hnotq, huniq⟩ := hok
  have hsd : s ∉ L.doomed := fun h => hnotq (hR.removeList_eq ▸ List.mem_map_of_mem _ h)
  have hheld : s ∈ L.held ↔ s ∈ w.addList ∨ s ∈ w.socketMap.values := by
    rw [← List.mem_append, ← live, hR.mem]
    exact ⟨.inl, fun h => h.resolve_right hsd⟩
  have hA : (w.addList.any fun a => a.fd.toUInt32 = s.fd.toUInt32) = true ↔ s ∈ w.addList := by
    simp only [List.any_eq_true, decide_eq_true_eq]
    refine ⟨fun ⟨a, ha, he⟩ => ?_, fun h => ⟨s, h, rfl⟩⟩
    have hal := List.mem_append_left w.socketMap.values ha
    rw [toUInt32_eq_iff (hR.small a hal) hsmall] at he
    rwa [← huniq a hal he]
  have hM : (w.socketMap.find s.fd).isSome = true ↔ s ∈ w.socketMap.values := by
    rw [Option.isSome_iff_exists, hR.keys.mem_values_iff]
    refine ⟨fun ⟨v, hv⟩ => ?_, fun h => ⟨s, SocketMap.find_eq_some_iff.mpr h⟩⟩
    have hmem := SocketMap.find_eq_some_iff.mp hv
    have hvs : v.fd = s.fd := (hR.keys _ hmem).symm
    have hvl : v ∈ live w := List.mem_append_right _ (hR.keys.mem_values_iff.mpr (hvs ▸ hmem))
    rwa [huniq v hvl hvs] at hmem
  simp only [UdpSocketManagerWinRTImpl.removeSocket]
  by_cases h₁ : s ∈ w.addList
  · have hs : s ∈ L.held := hheld.mpr (.inl h₁)
    simp only [hA.mpr h₁, if_true, hs, decide_eq_true hs, toUInt32_toUInt64_of_lt hsmall]
    exact ⟨rfl, hR.grant hs⟩
  by_cases h₂ : s ∈ w.socketMap.values
  · have hs : s ∈ L.held := hheld.mpr (.inr h₂)
    simp only [hM.mpr h₂, hs, decide_eq_true hs, if_true, if_false,
      Bool.eq_false_iff.mpr (mt hA.mp h₁)]
    exact ⟨rfl, hR.grant hs⟩
  · have hs : s ∉ L.held := fun hs => (hheld.mp hs).elim h₁ h₂
    simp only [Bool.eq_false_iff.mpr (mt hA.mp h₁), Bool.eq_false_iff.mpr (mt hM.mp h₂), hs,
      decide_eq_false hs, if_false]
    exact ⟨rfl, hR⟩

/-- The merge deletes exactly the doomed sockets, each after `ReadyForDeletion`, and refines the
ledger with nothing doomed. -/
theorem updateSocketMap (hR : Refines w L) :
    w.updateSocketMap.2 = L.doomed.flatMap (fun d => deletion (some d)) ∧
      Refines w.updateSocketMap.1 ⟨L.held, []⟩ := by
  obtain ⟨hev, hmem, hfd, hkeys, -, hrem⟩ :=
    updateSocketMap_doomed hR.mem hR.ledger_nodup hR.fds_nodup hR.keys hR.removeList_eq
  refine ⟨hev, fun t => by simpa using hmem t, by simpa using (List.nodup_append.mp hR.ledger_nodup).1,
    hfd, fun t ht => hR.small t ((hR.mem t).mpr (.inl ((hmem t).mp ht))), by simp [hrem], hkeys⟩

/-- One step of the worker is one step the ledger allows. -/
theorem step (hR : Refines w L) {op : WorkerOp} (hok : ClientOk w op) :
    ∃ L', L.observe (step FD_SETSIZE w op).2 = some L' ∧ Refines (step FD_SETSIZE w op).1 L' := by
  cases op with
  | addSocket s => exact ⟨_, rfl, hR.addSocket hok⟩
  | removeSocket s =>
    obtain ⟨hres, hR'⟩ := hR.removeSocket hok
    refine ⟨_, ?_, hR'⟩
    by_cases hs : s ∈ L.held <;> simp [SocketWorkerLedger.step, Ledger.observe, hres, hs]
  | updateSocketMap =>
    obtain ⟨hev, hR'⟩ := hR.updateSocketMap
    exact ⟨_, by simp [SocketWorkerLedger.step, Ledger.observe, hev], hR'⟩

/-- A whole run of the worker is a run the ledger allows. -/
theorem run (hR : Refines w L) {ops : List WorkerOp} (hok : RunOk FD_SETSIZE w ops) :
    ∃ L', L.replay (run FD_SETSIZE w ops).2 = some L' ∧ Refines (run FD_SETSIZE w ops).1 L' := by
  induction ops generalizing w L with
  | nil => exact ⟨L, rfl, hR⟩
  | cons op ops ih =>
    obtain ⟨L₁, hobs, hR₁⟩ := @Refines.step FD_SETSIZE _ _ hR _ hok.1
    obtain ⟨L', hrep, hR'⟩ := ih hR₁ hok.2
    exact ⟨L', by simp [SocketWorkerLedger.run, Ledger.replay, hobs, hrep], hR'⟩

/-- The destructor destroys what the ledger says is owned: the doomed sockets
with `ReadyForDeletion()` first, the held ones with `delete` alone. -/
theorem destroy (hR : Refines w L) :
    w.destroy.Perm (L.doomed.flatMap (fun d => deletion (some d)) ++ L.held.map .delete) := by
  obtain ⟨hev, hR'⟩ := hR.updateSocketMap
  simp only [UdpSocketManagerWinRTImpl.destroy, hev]
  refine List.Perm.append_left _ (List.Perm.map _ ?_)
  rw [List.perm_ext_iff_of_nodup hR'.keys.values_nodup (List.nodup_append.mp hR.ledger_nodup).1]
  intro t
  simpa [live] using hR'.mem t

end Refines

/-- Along every run from a new worker in which the caller keeps its side of
the contract, every step is one the ownership ledger allows, each owned
socket sits in exactly one of `_addList` and `_socketMap`, and the destructor
deletes exactly the sockets the ledger still counts as owned. -/
theorem worker_follows_ledger (created : Bool) (ops : List WorkerOp)
    (hok : RunOk FD_SETSIZE (create created) ops) :
    ∃ L, Ledger.empty.replay (run FD_SETSIZE (create created) ops).2 = some L ∧
      (∀ t, t ∈ L.held ∨ t ∈ L.doomed ↔
        (t ∈ (run FD_SETSIZE (create created) ops).1.addList ∧
            t ∉ (run FD_SETSIZE (create created) ops).1.socketMap.values) ∨
          (t ∉ (run FD_SETSIZE (create created) ops).1.addList ∧
            t ∈ (run FD_SETSIZE (create created) ops).1.socketMap.values)) ∧
      (run FD_SETSIZE (create created) ops).1.destroy.Perm
        (L.doomed.flatMap (fun d => deletion (some d)) ++ L.held.map .delete) := by
  obtain ⟨L, hrep, hR⟩ := (Refines.of_create created).run hok
  exact ⟨L, hrep, hR.owned_once, hR.destroy⟩

/-- Three sockets, two merges, a handle reused after its removal: the run follows the ledger. -/
theorem worker_follows_ledger_three_sockets :
    ∃ L, Ledger.empty.replay (run 64 (create true)
        [.addSocket ⟨1, 7⟩, .addSocket ⟨2, 8⟩, .removeSocket ⟨1, 7⟩, .updateSocketMap,
          .addSocket ⟨3, 7⟩, .removeSocket ⟨2, 8⟩, .updateSocketMap]).2 = some L ∧
      (∀ t, t ∈ L.held ∨ t ∈ L.doomed ↔
        (t ∈ (run 64 (create true)
            [.addSocket ⟨1, 7⟩, .addSocket ⟨2, 8⟩, .removeSocket ⟨1, 7⟩, .updateSocketMap,
              .addSocket ⟨3, 7⟩, .removeSocket ⟨2, 8⟩, .updateSocketMap]).1.addList ∧
            t ∉ (run 64 (create true)
              [.addSocket ⟨1, 7⟩, .addSocket ⟨2, 8⟩, .removeSocket ⟨1, 7⟩, .updateSocketMap,
                .addSocket ⟨3, 7⟩, .removeSocket ⟨2, 8⟩, .updateSocketMap]).1.socketMap.values) ∨
          (t ∉ (run 64 (create true)
              [.addSocket ⟨1, 7⟩, .addSocket ⟨2, 8⟩, .removeSocket ⟨1, 7⟩, .updateSocketMap,
                .addSocket ⟨3, 7⟩, .removeSocket ⟨2, 8⟩, .updateSocketMap]).1.addList ∧
            t ∈ (run 64 (create true)
              [.addSocket ⟨1, 7⟩, .addSocket ⟨2, 8⟩, .removeSocket ⟨1, 7⟩, .updateSocketMap,
                .addSocket ⟨3, 7⟩, .removeSocket ⟨2, 8⟩, .updateSocketMap]).1.socketMap.values)) ∧
      (run 64 (create true)
          [.addSocket ⟨1, 7⟩, .addSocket ⟨2, 8⟩, .removeSocket ⟨1, 7⟩, .updateSocketMap,
            .addSocket ⟨3, 7⟩, .removeSocket ⟨2, 8⟩, .updateSocketMap]).1.destroy.Perm
        (L.doomed.flatMap (fun d => deletion (some d)) ++ L.held.map .delete) :=
  worker_follows_ledger 64 true _ (by decide)

/-- A socket whose handle needs more than 32 bits, removed while pending,
queues only the low half of its handle: the merge then deletes the pending
socket whose handle is that low half, which was never removed, and the
removed socket stays live until the destructor deletes it without
`ReadyForDeletion()`. The ledger refuses the run. -/
theorem removeSocket_truncation_deletes_other_socket :
    (run 64 (create true) [.addSocket ⟨0, 0⟩, .addSocket ⟨1, 0x100000000⟩,
        .removeSocket ⟨1, 0x100000000⟩, .updateSocketMap]).2 =
      [.added ⟨0, 0⟩ true, .added ⟨1, 0x100000000⟩ true, .removed ⟨1, 0x100000000⟩ true,
        .merged [.readyForDeletion ⟨0, 0⟩, .delete ⟨0, 0⟩]] ∧
    (run 64 (create true) [.addSocket ⟨0, 0⟩, .addSocket ⟨1, 0x100000000⟩,
        .removeSocket ⟨1, 0x100000000⟩, .updateSocketMap]).1.destroy =
      [.delete ⟨1, 0x100000000⟩] ∧
    Ledger.empty.replay (run 64 (create true) [.addSocket ⟨0, 0⟩, .addSocket ⟨1, 0x100000000⟩,
        .removeSocket ⟨1, 0x100000000⟩, .updateSocketMap]).2 = none := by
  decide

end WebRtcWinRT.SocketWorkerLedger
