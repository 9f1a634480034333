import WebRtcWinRT.MediaStreamSource

/-!
# The list of live media stream sources

`CreateMediaSource` appends each new source to `gMediaStreamList`, whose
reference keeps the source alive; `OnClosed(sender)`, the `Closed` handler of
every source's `MediaStreamSource`, removes the first entry whose
`_mediaStreamSource` is `sender` and nulls that pointer. Each
`MediaStreamSource` belongs to the one source that made it, and no other code
changes a source's `_mediaStreamSource`. Over every run of creations, frames,
sample requests and closings, in any order and with any `sender`, the list
holds exactly the sources not yet closed, each once, in creation order; and a
source dropped from it hands out nothing more, since its `_mediaStreamSource`
stays null and `OnSampleRequested` returns at its first check.
-/

namespace WebRtcWinRT.MediaStreamList

open MediaStreamSource

/-- The sources made so far, in creation order (a source's index stands for
the `MediaStreamSource` it made), and `gMediaStreamList`, as indices. -/
structure Registry where
  sources : List RTMediaStreamSource
  gMediaStreamList : List Nat
  deriving DecidableEq, Repr

/-- Source `k` exists and its `_mediaStreamSource` is non-null. -/
def isOpen (sources : List RTMediaStreamSource) (k : Nat) : Bool :=
  sources[k]?.any (·.mediaStreamSource)

/-- `obj->_mediaStreamSource = nullptr`. -/
def close (s : RTMediaStreamSource) : RTMediaStreamSource := { s with mediaStreamSource := false }

/-- The loop of `OnClosed(sender)` over `gMediaStreamList`: the first entry
whose source's `_mediaStreamSource` is `sender` is removed, and that pointer
nulled. -/
def closeLoop (sender : Nat) (sources : List RTMediaStreamSource) :
    List Nat → List Nat × List RTMediaStreamSource
  | [] => ([], sources)
  | k :: ks =>
    if k = sender ∧ isOpen sources k then (ks, sources.modify close k)
    else
      let r := closeLoop sender sources ks
      (k :: r.1, r.2)

/-- A call into the sources. -/
inductive Call
  /-- `CreateMediaSource(track, frameRate, id)` with the clock reading `now`. -/
  | createMediaSource (frameRate : UInt32) (now : Int)
  /-- A frame or a sample request on source `i`. -/
  | source (i : Nat) (e : Event)
  /-- `OnClosed(sender, args)`. -/
  | onClosed (sender : Nat)
  deriving DecidableEq, Repr

namespace Registry

variable (durationOf : UInt32 → Int)

/-- No source yet, and an empty list. -/
def init : Registry := ⟨[], []⟩

/-- One call, with what it hands out, tagged with its source. -/
def step (r : Registry) : Call → Registry × List (Nat × Output)
  | .createMediaSource frameRate now =>
    let c := RTMediaStreamSource.createMediaSource frameRate now
    (⟨r.sources ++ [c.1], r.gMediaStreamList ++ [r.sources.length]⟩,
      c.2.map (r.sources.length, ·))
  | .source i e =>
    match r.sources[i]? with
    | some s =>
      let x := RTMediaStreamSource.step durationOf s e
      ({ r with sources := r.sources.set i x.1 }, x.2.map (i, ·))
    | none => (r, [])
  | .onClosed sender =>
    let x := closeLoop sender r.sources r.gMediaStreamList
    (⟨x.2, x.1⟩, [])

/-- A run of calls, with everything handed out, in order. -/
def run (r : Registry) : List Call → Registry × List (Nat × Output)
  | [] => (r, [])
  | c :: cs =>
    let x := step durationOf r c
    let y := run x.1 cs
    (y.1, x.2 ++ y.2)

end Registry

/-- `OnClosed(sender)` removes `sender` from the list and closes it when it is
listed and open, and otherwise changes nothing. -/
theorem closeLoop_eq (sender : Nat) (sources : List RTMediaStreamSource) (L : List Nat) :
    closeLoop sender sources L =
      if isOpen sources sender ∧ sender ∈ L then (L.erase sender, sources.modify close sender)
      else (L, sources) := by
  induction L with
  | nil => simp [closeLoop]
  | cons k ks ih =>
    rw [closeLoop]
    by_cases hk : k = sender ∧ isOpen sources k
    · obtain ⟨rfl, ho⟩ := hk
      simp [ho]
    · rw [if_neg hk, ih]
      by_cases hs : isOpen sources sender ∧ sender ∈ ks
      · have hne : k ≠ sender := fun h => hk ⟨h, h ▸ hs.1⟩
        simp [hs, hne, List.erase_cons]
      · have : ¬ (isOpen sources sender ∧ sender ∈ k :: ks) := fun ⟨ho, hm⟩ =>
          (List.mem_cons.mp hm).elim (fun h => hk ⟨h.symm, h ▸ ho⟩) (fun h => hs ⟨ho, h⟩)
        rw [if_neg hs, if_neg this]

/-- Appending an open source opens exactly its new index. -/
theorem isOpen_append_singleton {sources : List RTMediaStreamSource} {s : RTMediaStreamSource}
    (hs : s.mediaStreamSource = true) (k : Nat) :
    isOpen (sources ++ [s]) k = (isOpen sources k || k == sources.length) := by
  unfold isOpen
  rw [List.getElem?_append]
  split
  · rename_i hk
    rw [List.getElem?_eq_getElem hk, beq_false_of_ne (Nat.ne_of_lt hk)]
    simp
  · rename_i hk
    rw [List.getElem?_eq_none (Nat.le_of_not_lt hk)]
    by_cases he : k = sources.length
    · subst he; simp [hs]
    · rw [List.getElem?_eq_none (by simp only [List.length_singleton]; omega)]
      simp [he]

/-- Replacing a source by one with the same `_mediaStreamSource` keeps which sources are open. -/
theorem isOpen_set {sources : List RTMediaStreamSource} {i : Nat} {s s' : RTMediaStreamSource}
    (hi : sources[i]? = some s) (hs : s'.mediaStreamSource = s.mediaStreamSource) :
    isOpen (sources.set i s') = isOpen sources := by
  funext k
  unfold isOpen
  rw [List.getElem?_set]
  split
  · subst_vars
    rw [hi, if_pos (List.getElem?_eq_some_iff.mp hi).1]
    simp [hs]
  · rfl

/-- Closing a source closes exactly its index. -/
theorem isOpen_modify_close (sources : List RTMediaStreamSource) (sender k : Nat) :
    isOpen (sources.modify close sender) k = (isOpen sources k && k != sender) := by
  unfold isOpen
  rw [List.getElem?_modify]
  by_cases hk : sender = k
  · subst hk; cases sources[sender]? <;> simp [close]
  · simp [hk, Ne.symm hk]

/-- `gMediaStreamList` holds exactly the open sources, in creation order. -/
def ListInv (r : Registry) : Prop :=
  r.gMediaStreamList = (List.range r.sources.length).filter (isOpen r.sources)

variable (durationOf : UInt32 → Int) {r : Registry}

/-- Every call keeps `g_mediaStreamList` the list of the open sources, in order. -/
theorem ListInv.step (h : ListInv r) (c : Call) : ListInv (r.step durationOf c).1 := by
  unfold ListInv at h ⊢
  cases c with
  | createMediaSource frameRate now =>
    simp only [Registry.step, List.length_append, List.length_singleton, List.range_succ,
      List.filter_append, h]
    have ho : ∀ k, isOpen (r.sources ++ [(RTMediaStreamSource.createMediaSource frameRate now).1]) k =
        (isOpen r.sources k || k == r.sources.length) := isOpen_append_singleton rfl
    congr 1
    · exact List.filter_congr fun k hk => by simp [ho, Nat.ne_of_lt (List.mem_range.mp hk)]
    · simp [ho]
  | source i e =>
    simp only [Registry.step]
    split
    · rename_i s hs
      rw [isOpen_set hs (RTMediaStreamSource.step_mediaStreamSource durationOf s e),
        List.length_set]
      exact h
    · exact h
  | onClosed sender =>
    simp only [Registry.step]
    rw [closeLoop_eq]
    split
    · rename_i hs
      have hnd : r.gMediaStreamList.Nodup := h ▸ (List.nodup_range _).filter _
      rw [hnd.erase_eq_filter, h, List.filter_filter, List.length_modify]
      exact List.filter_congr fun k _ => by rw [isOpen_modify_close, Bool.and_comm]
    · exact h

/-- Every run keeps `g_mediaStreamList` the list of the open sources, in order. -/
theorem ListInv.run (h : ListInv r) (calls : List Call) : ListInv (r.run durationOf calls).1 := by
  induction calls generalizing r with
  | nil => exact h
  | cons c cs ih => exact ih (h.step durationOf c)

/-- Source `k` exists and its `_mediaStreamSource` is null. -/
def Closed (r : Registry) (k : Nat) : Prop :=
  k < r.sources.length ∧ isOpen r.sources k = false

variable {k : Nat}

/-- A call keeps a closed source closed and hands out nothing tagged with it:
a new source goes to the end, only the source called changes, and it keeps
its null `_mediaStreamSource`. -/
theorem Closed.step (h : Closed r k) (c : Call) :
    Closed (r.step durationOf c).1 k ∧ ∀ o, (k, o) ∉ (r.step durationOf c).2 := by
  obtain ⟨hk, hc⟩ := h
  cases c with
  | createMediaSource frameRate now =>
    have ho : isOpen (r.sources ++ [(RTMediaStreamSource.createMediaSource frameRate now).1]) k =
        (isOpen r.sources k || k == r.sources.length) := isOpen_append_singleton rfl k
    rw [hc, Bool.false_or, beq_eq_false_iff_ne.mpr (Nat.ne_of_lt hk)] at ho
    refine ⟨⟨by simp only [Registry.step, List.length_append]; omega, ho⟩, fun o => ?_⟩
    simp only [Registry.step, RTMediaStreamSource.createMediaSource, List.map_cons, List.map_nil,
      List.mem_singleton, Prod.mk.injEq, not_and]
    exact fun he => absurd he (Nat.ne_of_lt hk)
  | source i e =>
    simp only [Registry.step]
    split
    · rename_i s hs
      refine ⟨⟨(List.length_set ..).symm ▸ hk,
        isOpen_set hs (RTMediaStreamSource.step_mediaStreamSource durationOf s e) ▸ hc⟩, ?_⟩
      rintro o ho
      obtain ⟨o', ho', he⟩ := List.mem_map.mp ho
      obtain ⟨rfl, -⟩ := Prod.mk.inj he
      have hs' : s.mediaStreamSource = false := by simpa [isOpen, hs] using hc
      rw [RTMediaStreamSource.step_snd_of_closed durationOf s e hs'] at ho'
      exact List.not_mem_nil _ ho'
    · exact ⟨⟨hk, hc⟩, fun _ => List.not_mem_nil _⟩
  | onClosed sender =>
    simp only [Registry.step]
    rw [closeLoop_eq]
    split
    · exact ⟨⟨(List.length_modify ..).symm ▸ hk, by rw [isOpen_modify_close, hc, Bool.false_and]⟩,
        fun _ => List.not_mem_nil _⟩
    · exact ⟨⟨hk, hc⟩, fun _ => List.not_mem_nil _⟩

/-- A closed source hands out nothing over any later run. -/
theorem Closed.run (h : Closed r k) (calls : List Call) (o : Output) :
    (k, o) ∉ (r.run durationOf calls).2 := by
  induction calls generalizing r with
  | nil => exact List.not_mem_nil _
  | cons c cs ih =>
    simp only [Registry.run, List.mem_append, not_or]
    exact ⟨(h.step durationOf c).2 o, ih (h.step durationOf c).1⟩

/-- Once a created source has left `gMediaStreamList`, it hands out nothing
more, whatever calls follow: `OnClosed` nulled its `_mediaStreamSource`, which
nothing sets again, so every later `OnSampleRequested` returns at its first
check and no sample or report is tagged with it. -/
theorem dropped_source_hands_out_nothing (pre calls : List Call)
    (hk : k < (Registry.init.run durationOf pre).1.sources.length)
    (hdrop : k ∉ (Registry.init.run durationOf pre).1.gMediaStreamList) (o : Output) :
    (k, o) ∉ ((Registry.init.run durationOf pre).1.run durationOf calls).2 := by
  have hlist : ListInv (Registry.init.run durationOf pre).1 :=
    ListInv.run durationOf (r := Registry.init) rfl pre
  refine Closed.run durationOf ⟨hk, Bool.eq_false_iff.mpr fun hopen => hdrop ?_⟩ calls o
  rw [hlist]
  exact List.mem_filter.mpr ⟨List.mem_range.mpr hk, hopen⟩

/-- A source closed right after its creation hands out no sample. -/
theorem dropped_source_hands_out_nothing_after_close :
    0 < (Registry.init.run (fun _ => 333333) [.createMediaSource 30 0, .onClosed 0]).1.sources.length ∧
      0 ∉ (Registry.init.run (fun _ => 333333)
        [.createMediaSource 30 0, .onClosed 0]).1.gMediaStreamList ∧
      (0, .sample 0 333333 320 240 none) ∉
        ((Registry.init.run (fun _ => 333333) [.createMediaSource 30 0, .onClosed 0]).1.run
          (fun _ => 333333) [.source 0 (.sampleRequested 2000 ⟨true, true, true, true⟩)]).2 :=
  ⟨by decide, by decide, dropped_source_hands_out_nothing _ _ _ (by decide) (by decide) _⟩

end WebRtcWinRT.MediaStreamList
