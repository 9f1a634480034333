import Mathlib.Data.List.Basic

/-!
# Samples, resolution and frame-rate reports of `RTMediaStreamSource`

`RTCRenderer::RenderFrame` hands each decoded frame to `ProcessReceivedFrame`,
which keeps it as `_frame` and sets `_isNewFrame`. Each `SampleRequested` of
the `MediaStreamSource` runs `OnSampleRequested`: under `_lock` it creates a
sample stamped `_timeStamp` and advances `_timeStamp` by one frame duration,
counts the frame if it is new and, more than a second after the last report,
reports the count through `FrameCounterHelper::FireEvent`; it then sets the
stream descriptor to the frame's size, reporting a change through
`ResolutionHelper::FireEvent`, and hands out a buffer of the descriptor's size
with the frame converted into it.

Each handler is one step, both holding `_lock`; the clock is read before the
lock, so the clock readings of successive steps are arbitrary. `OnClosed` only
nulls `_mediaStreamSource`, which only the unlocked check at the top of
`OnSampleRequested` reads, so the runs here, without it, have every sequence
of samples and reports a source hands out. Over every run the samples are
stamped, in order, with a sublist of the multiples of the duration, a multiple
being skipped where `MFCreate2DMediaBuffer` failed; when frame sizes fit `uint32`,
every buffer has the size last reported and so has the frame converted into
it; the reported counts add up to at most one more than the frames received,
the one more being the `_isNewFrame` the constructor sets before any frame
arrives; and there is at most one report per 1001 ms of clock. `ConvertFrame`
itself and the buffer's contents are not modelled.
-/

namespace WebRtcWinRT.MediaStreamSource

/-- What the source reads of a `cricket::VideoFrame`: `GetWidth()` and
`GetHeight()`, both `size_t`. -/
structure VideoFrame where
  width : Nat
  height : Nat
  deriving DecidableEq, Repr

/-- Both sizes of the frame fit `uint32`. -/
def VideoFrame.Fits (f : VideoFrame) : Prop := f.width < 4294967296 ∧ f.height < 4294967296

instance : DecidablePred VideoFrame.Fits := fun _ => inferInstanceAs (Decidable (_ ∧ _))

/-- The fields of an `RTMediaStreamSource` that its handlers read and write. -/
structure RTMediaStreamSource where
  /-- `_mediaStreamSource` is non-null. -/
  mediaStreamSource : Bool
  /-- `_timeStamp`, in units of 100 ns. -/
  timeStamp : Int
  /-- `_isNewFrame`. -/
  isNewFrame : Bool
  /-- `_frameRate`. -/
  frameRate : UInt32
  /-- `_frameCounter`. -/
  frameCounter : Nat
  /-- `_lastTimeFPSCalculated`, in milliseconds. -/
  lastTimeFPSCalculated : Int
  /-- `_frame`; `none` while null. -/
  frame : Option VideoFrame
  /-- `_videoDesc->EncodingProperties->Width`. -/
  width : UInt32
  /-- `_videoDesc->EncodingProperties->Height`. -/
  height : UInt32
  deriving DecidableEq, Repr

/-- What the source hands out. -/
inductive Output
  /-- `FrameCounterHelper::FireEvent(_id, count)`. -/
  | framesPerSecondChanged (count : Nat)
  /-- `ResolutionHelper::FireEvent(_id, width, height)`. -/
  | resolutionChanged (width height : UInt32)
  /-- `SetSample` of a sample: its time and duration, the size of its buffer,
  and the frame `ConvertFrame` converts into the buffer, if any. -/
  | sample (time duration : Int) (width height : UInt32) (converted : Option VideoFrame)
  deriving DecidableEq, Repr

/-- The platform's answers during `OnSampleRequested`. -/
structure SampleRequest where
  /-- `args->Request` is non-null. -/
  request : Bool
  /-- `QueryInterface` for `IMFMediaStreamSourceSampleRequest` succeeds. -/
  queryInterface : Bool
  /-- `MFCreateSample` succeeds. -/
  createSample : Bool
  /-- `MFCreate2DMediaBuffer` succeeds. -/
  createBuffer : Bool
  deriving DecidableEq, Repr

/-- A call into the source: a frame from `RTCRenderer::RenderFrame`, or a
`SampleRequested` event with the clock reading `now`. -/
inductive Event
  | processReceivedFrame (frame : VideoFrame)
  | sampleRequested (now : Int) (req : SampleRequest)
  deriving DecidableEq, Repr

namespace RTMediaStreamSource

/-- `CreateMediaSource(track, frameRate, id)` with the clock reading `now`:
the constructor's fields, a 320×240 descriptor, and the `ResolutionChanged`
it fires for that size. -/
def createMediaSource (frameRate : UInt32) (now : Int) : RTMediaStreamSource × List Output :=
  (⟨true, 0, true, frameRate, 0, now, none, 320, 240⟩, [.resolutionChanged 320 240])

/-- `ProcessReceivedFrame(frame)`. -/
def processReceivedFrame (frame : VideoFrame) (s : RTMediaStreamSource) : RTMediaStreamSource :=
  { s with frame := some frame, isNewFrame := true }

/-- The frame-rate calculation of `OnSampleRequested`: a new frame is counted,
and more than a second after the last report the count is reported and
restarted. -/
def countFrame (now : Int) (s : RTMediaStreamSource) : RTMediaStreamSource × List Output :=
  if s.isNewFrame then
    let frameCounter := s.frameCounter + 1
    if now - s.lastTimeFPSCalculated > 1000 then
      ({ s with isNewFrame := false, frameCounter := 0, lastTimeFPSCalculated := now },
        [.framesPerSecondChanged frameCounter])
    else ({ s with isNewFrame := false, frameCounter := frameCounter }, [])
  else (s, [])

/-- The descriptor update of `OnSampleRequested`: to the frame's size when it
differs, the `uint32` fields taking the `size_t` sizes truncated. -/
def updateResolution (s : RTMediaStreamSource) : RTMediaStreamSource × List Output :=
  match s.frame with
  | some f =>
    if s.width.toNat ≠ f.width ∨ s.height.toNat ≠ f.height then
      ({ s with width := f.width.toUInt32, height := f.height.toUInt32 },
        [.resolutionChanged f.width.toUInt32 f.height.toUInt32])
    else (s, [])
  | none => (s, [])

variable (durationOf : UInt32 → Int)

/-- `OnSampleRequested` once `MFCreateSample` has succeeded: the sample is
stamped `_timeStamp`, which advances by the duration; then the frame count,
the descriptor, and, when `MFCreate2DMediaBuffer` succeeds, `SetSample` of a
buffer of the descriptor's size holding the converted frame. `durationOf` is
`(LONGLONG)((1.0 / _frameRate) * 1000 * 1000 * 10)`. -/
def produceSample (now : Int) (createBuffer : Bool) (s : RTMediaStreamSource) :
    RTMediaStreamSource × List Output :=
  let duration := durationOf s.frameRate
  let counted := countFrame now { s with timeStamp := s.timeStamp + duration }
  let resized := updateResolution counted.1
  if createBuffer then
    (resized.1, counted.2 ++ resized.2 ++
      [.sample s.timeStamp duration resized.1.width resized.1.height resized.1.frame])
  else (resized.1, counted.2 ++ resized.2)

/-- `OnSampleRequested(sender, args)` with the clock reading `now`. -/
def onSampleRequested (now : Int) (req : SampleRequest) (s : RTMediaStreamSource) :
    RTMediaStreamSource × List Output :=
  if !s.mediaStreamSource then (s, [])
  else if !req.request then (s, [])
  else if !req.queryInterface then (s, [])
  else if !req.createSample then (s, [])
  else produceSample durationOf now req.createBuffer s

/-- One call into the source, with what it hands out. -/
def step (s : RTMediaStreamSource) : Event → RTMediaStreamSource × List Output
  | .processReceivedFrame frame => (s.processReceivedFrame frame, [])
  | .sampleRequested now req => s.onSampleRequested durationOf now req

/-- A run of calls, with everything handed out, in order. -/
def run (s : RTMediaStreamSource) : List Event → RTMediaStreamSource × List Output
  | [] => (s, [])
  | e :: es =>
    let r := step durationOf s e
    let r' := run r.1 es
    (r'.1, r.2 ++ r'.2)

/-- A source made by `CreateMediaSource(frameRate)` at `t0`, after the calls
`es`: its state and everything it handed out since its creation. -/
def runCreated (frameRate : UInt32) (t0 : Int) (es : List Event) :
    RTMediaStreamSource × List Output :=
  let c := createMediaSource frameRate t0
  let r := run durationOf c.1 es
  (r.1, c.2 ++ r.2)

end RTMediaStreamSource

/-- The time and duration of each sample handed out. -/
def samples (os : List Output) : List (Int × Int) :=
  os.filterMap fun
    | .sample time duration _ _ _ => some (time, duration)
    | _ => none

/-- The counts reported through `FramesPerSecondChanged`. -/
def reports (os : List Output) : List Nat :=
  os.filterMap fun
    | .framesPerSecondChanged count => some count
    | _ => none

/-- The size last reported through `ResolutionChanged`, from `cur` on. -/
def lastResolution (cur : Option (UInt32 × UInt32)) : List Output → Option (UInt32 × UInt32)
  | [] => cur
  | .resolutionChanged w h :: os => lastResolution (some (w, h)) os
  | _ :: os => lastResolution cur os

/-- From the size `cur` last reported on, each reported size differs from the
one before, each buffer has the size last reported, and a frame converted into
a buffer has the buffer's size. -/
def resolutionOk (cur : Option (UInt32 × UInt32)) : List Output → Bool
  | [] => true
  | .framesPerSecondChanged _ :: os => resolutionOk cur os
  | .resolutionChanged w h :: os => decide (cur ≠ some (w, h)) && resolutionOk (some (w, h)) os
  | .sample _ _ w h converted :: os =>
    decide (cur = some (w, h)) && decide (∀ f ∈ converted, f.width = w.toNat ∧ f.height = h.toNat) &&
      resolutionOk cur os

/-- The frames a run receives. -/
def frames (es : List Event) : List VideoFrame :=
  es.filterMap fun
    | .processReceivedFrame f => some f
    | _ => none

/-- The latest clock reading of a run's sample requests, or `t` if later. -/
def latestNow (t : Int) (es : List Event) : Int :=
  es.foldl (fun t e => match e with
    | .sampleRequested now _ => max t now
    | _ => t) t

section Views

variable {os : List Output} {es : List Event}

/-- Nothing handed out holds no sample. -/
@[simp] theorem samples_nil : samples [] = [] := rfl

/-- A frame-rate report is not a sample. -/
@[simp] theorem samples_cons_framesPerSecondChanged {n : Nat} :
    samples (.framesPerSecondChanged n :: os) = samples os := rfl

/-- A resolution report is not a sample. -/
@[simp] theorem samples_cons_resolutionChanged {w h : UInt32} :
    samples (.resolutionChanged w h :: os) = samples os := rfl

/-- A sample contributes its time and duration. -/
@[simp] theorem samples_cons_sample {t d : Int} {w h : UInt32} {c : Option VideoFrame} :
    samples (.sample t d w h c :: os) = (t, d) :: samples os := rfl

/-- Nothing handed out holds no frame-rate report. -/
@[simp] theorem reports_nil : reports [] = [] := rfl

/-- A frame-rate report contributes its count. -/
@[simp] theorem reports_cons_framesPerSecondChanged {n : Nat} :
    reports (.framesPerSecondChanged n :: os) = n :: reports os := rfl

/-- A resolution report is not a frame-rate report. -/
@[simp] theorem reports_cons_resolutionChanged {w h : UInt32} :
    reports (.resolutionChanged w h :: os) = reports os := rfl

/-- A sample is not a frame-rate report. -/
@[simp] theorem reports_cons_sample {t d : Int} {w h : UInt32} {c : Option VideoFrame} :
    reports (.sample t d w h c :: os) = reports os := rfl

/-- The empty run receives no frame. -/
@[simp] theorem frames_nil : frames [] = [] := rfl

/-- A received frame is one of the run's frames. -/
@[simp] theorem frames_cons_processReceivedFrame {f : VideoFrame} :
    frames (.processReceivedFrame f :: es) = f :: frames es := rfl

/-- A sample request brings no frame. -/
@[simp] theorem frames_cons_sampleRequested {now : Int} {req : SampleRequest} :
    frames (.sampleRequested now req :: es) = frames es := rfl

/-- With no request, the latest reading is the one given. -/
@[simp] theorem latestNow_nil (t : Int) : latestNow t [] = t := rfl

/-- A frame carries no clock reading. -/
@[simp] theorem latestNow_cons_processReceivedFrame (t : Int) {f : VideoFrame} :
    latestNow t (.processReceivedFrame f :: es) = latestNow t es := rfl

/-- A request's clock reading counts towards the latest one. -/
@[simp] theorem latestNow_cons_sampleRequested (t : Int) {now : Int} {req : SampleRequest} :
    latestNow t (.sampleRequested now req :: es) = latestNow (max t now) es := rfl

end Views

/-- The samples of two stretches of output, in order. -/
@[simp] theorem samples_append (xs ys : List Output) :
    samples (xs ++ ys) = samples xs ++ samples ys := List.filterMap_append _ _ _

/-- The frame-rate reports of two stretches of output, in order. -/
@[simp] theorem reports_append (xs ys : List Output) :
    reports (xs ++ ys) = reports xs ++ reports ys := List.filterMap_append _ _ _

/-- The frames of two stretches of a run, in order. -/
@[simp] theorem frames_append (xs ys : List Event) :
    frames (xs ++ ys) = frames xs ++ frames ys := List.filterMap_append _ _ _

/-- The latest reading of a run, taken stretch by stretch. -/
theorem latestNow_append (t : Int) (xs ys : List Event) :
    latestNow t (xs ++ ys) = latestNow (latestNow t xs) ys := List.foldl_append _ _ _ _

/-- The size last reported after two stretches of output is the second's, from the first's on. -/
theorem lastResolution_append (cur : Option (UInt32 × UInt32)) (xs ys : List Output) :
    lastResolution cur (xs ++ ys) = lastResolution (lastResolution cur xs) ys := by
  induction xs generalizing cur with
  | nil => rfl
  | cons o os ih => cases o <;> exact ih _

/-- Two stretches of output are consistent when each is, the second from the size the first last
reported. -/
theorem resolutionOk_append (cur : Option (UInt32 × UInt32)) (xs ys : List Output) :
    resolutionOk cur (xs ++ ys) = (resolutionOk cur xs && resolutionOk (lastResolution cur xs) ys) := by
  induction xs generalizing cur with
  | nil => rfl
  | cons o os ih =>
    cases o <;> simp only [List.cons_append, List.append_eq, resolutionOk, lastResolution, ih,
      Bool.and_assoc]

namespace RTMediaStreamSource

variable (durationOf : UInt32 → Int) {now : Int} {s : RTMediaStreamSource}

/-- The frame count leaves `_mediaStreamSource` as it is. -/
@[simp] theorem countFrame_mediaStreamSource :
    (countFrame now s).1.mediaStreamSource = s.mediaStreamSource := by
  unfold countFrame; split_ifs <;> rfl

/-- The frame count leaves `_frameRate` as it is. -/
@[simp] theorem countFrame_frameRate : (countFrame now s).1.frameRate = s.frameRate := by
  unfold countFrame; split_ifs <;> rfl

/-- The frame count leaves `_timeStamp` as it is. -/
@[simp] theorem countFrame_timeStamp : (countFrame now s).1.timeStamp = s.timeStamp := by
  unfold countFrame; split_ifs <;> rfl

/-- The frame count leaves `_frame` as it is. -/
@[simp] theorem countFrame_frame : (countFrame now s).1.frame = s.frame := by
  unfold countFrame; split_ifs <;> rfl

/-- The frame count leaves the descriptor's width as it is. -/
@[simp] theorem countFrame_width : (countFrame now s).1.width = s.width := by
  unfold countFrame; split_ifs <;> rfl

/-- The frame count leaves the descriptor's height as it is. -/
@[simp] theorem countFrame_height : (countFrame now s).1.height = s.height := by
  unfold countFrame; split_ifs <;> rfl

/-- The frame count hands out no sample. -/
@[simp] theorem samples_countFrame : samples (countFrame now s).2 = [] := by
  unfold countFrame; split_ifs <;> rfl

/-- The frame count reports no size. -/
@[simp] theorem lastResolution_countFrame (cur : Option (UInt32 × UInt32)) :
    lastResolution cur (countFrame now s).2 = cur := by
  unfold countFrame; split_ifs <;> rfl

/-- What the frame count hands out is consistent from any size on. -/
@[simp] theorem resolutionOk_countFrame (cur : Option (UInt32 × UInt32)) :
    resolutionOk cur (countFrame now s).2 = true := by
  unfold countFrame; split_ifs <;> rfl

/-- A report is made only more than a second after the last one, and moves
the time of the last report to the clock reading. -/
theorem countFrame_report (now : Int) (s : RTMediaStreamSource) :
    (reports (countFrame now s).2 = [] ∧
        (countFrame now s).1.lastTimeFPSCalculated = s.lastTimeFPSCalculated) ∨
      ((reports (countFrame now s).2).length = 1 ∧ s.lastTimeFPSCalculated + 1000 < now ∧
        (countFrame now s).1.lastTimeFPSCalculated = now) := by
  unfold countFrame
  split_ifs with h₁ h₂
  · exact .inr ⟨rfl, by omega, rfl⟩
  · exact .inl ⟨rfl, rfl⟩
  · exact .inl ⟨rfl, rfl⟩

/-- The descriptor update leaves `_mediaStreamSource` as it is. -/
@[simp] theorem updateResolution_mediaStreamSource :
    (updateResolution s).1.mediaStreamSource = s.mediaStreamSource := by
  unfold updateResolution; split <;> (try split_ifs) <;> rfl

/-- The descriptor update leaves `_frameRate` as it is. -/
@[simp] theorem updateResolution_frameRate : (updateResolution s).1.frameRate = s.frameRate := by
  unfold updateResolution; split <;> (try split_ifs) <;> rfl

/-- The descriptor update leaves `_timeStamp` as it is. -/
@[simp] theorem updateResolution_timeStamp : (updateResolution s).1.timeStamp = s.timeStamp := by
  unfold updateResolution; split <;> (try split_ifs) <;> rfl

/-- The descriptor update leaves `_isNewFrame` as it is. -/
@[simp] theorem updateResolution_isNewFrame : (updateResolution s).1.isNewFrame = s.isNewFrame := by
  unfold updateResolution; split <;> (try split_ifs) <;> rfl

/-- The descriptor update leaves `_frameCounter` as it is. -/
@[simp] theorem updateResolution_frameCounter :
    (updateResolution s).1.frameCounter = s.frameCounter := by
  unfold updateResolution; split <;> (try split_ifs) <;> rfl

/-- The descriptor update leaves `_lastTimeFPSCalculated` as it is. -/
@[simp] theorem updateResolution_lastTimeFPSCalculated :
    (updateResolution s).1.lastTimeFPSCalculated = s.lastTimeFPSCalculated := by
  unfold updateResolution; split <;> (try split_ifs) <;> rfl

/-- The descriptor update leaves `_frame` as it is. -/
@[simp] theorem updateResolution_frame : (updateResolution s).1.frame = s.frame := by
  unfold updateResolution; split <;> (try split_ifs) <;> rfl

/-- The descriptor update hands out no sample. -/
@[simp] theorem samples_updateResolution : samples (updateResolution s).2 = [] := by
  unfold updateResolution; split <;> (try split_ifs) <;> rfl

/-- The descriptor update reports no frame count. -/
@[simp] theorem reports_updateResolution : reports (updateResolution s).2 = [] := by
  unfold updateResolution; split <;> (try split_ifs) <;> rfl

/-- With a frame whose sizes fit, the descriptor ends at the frame's size,
reporting it only when it changed. -/
theorem updateResolution_spec (hfit : ∀ f ∈ s.frame, f.Fits) :
    resolutionOk (some (s.width, s.height)) (updateResolution s).2 = true ∧
      lastResolution (some (s.width, s.height)) (updateResolution s).2 =
        some ((updateResolution s).1.width, (updateResolution s).1.height) ∧
      ∀ f ∈ (updateResolution s).1.frame,
        f.width = (updateResolution s).1.width.toNat ∧ f.height = (updateResolution s).1.height.toNat := by
  unfold updateResolution
  split
  · rename_i f hf
    obtain ⟨hw, hh⟩ := hfit f hf
    have hw' : f.width.toUInt32.toNat = f.width := UInt32.toNat_ofNat_of_lt hw
    have hh' : f.height.toUInt32.toNat = f.height := UInt32.toNat_ofNat_of_lt hh
    split_ifs with hne
    · refine ⟨?_, rfl, fun g hg => ?_⟩
      · have : (s.width, s.height) ≠ (f.width.toUInt32, f.height.toUInt32) := fun he => by
          simp only [Prod.mk.injEq] at he
          rw [he.1, he.2, hw', hh'] at hne
          exact hne.elim (· rfl) (· rfl)
        simpa only [resolutionOk, Bool.and_true, decide_eq_true_eq] using
          fun he => this (Option.some.inj he)
      · cases Option.mem_def.mp (hf ▸ hg : g ∈ some f)
        exact ⟨hw'.symm, hh'.symm⟩
    · refine ⟨rfl, rfl, fun g hg => ?_⟩
      cases Option.mem_def.mp (hf ▸ hg : g ∈ some f)
      push_neg at hne
      exact ⟨hne.1.symm, hne.2.symm⟩
  · exact ⟨rfl, rfl, fun g hg => by simp_all⟩

/-- What `produceSample` hands out, in terms of its parts. -/
theorem produceSample_eq (now : Int) (createBuffer : Bool) (s : RTMediaStreamSource) :
    produceSample durationOf now createBuffer s =
      let counted := countFrame now { s with timeStamp := s.timeStamp + durationOf s.frameRate }
      let resized := updateResolution counted.1
      (resized.1, counted.2 ++ resized.2 ++
        if createBuffer then
          [.sample s.timeStamp (durationOf s.frameRate) resized.1.width resized.1.height
            resized.1.frame]
        else []) := by
  unfold produceSample
  split <;> simp

/-- The state after a produced sample: the frame count and then the descriptor update, on the
advanced `_timeStamp`. -/
@[simp] theorem produceSample_fst (now : Int) (createBuffer : Bool) (s : RTMediaStreamSource) :
    (produceSample durationOf now createBuffer s).1 =
      (updateResolution
        (countFrame now { s with timeStamp := s.timeStamp + durationOf s.frameRate }).1).1 := by
  unfold produceSample; split <;> rfl

/-- The only reports of a request are those of its frame count. -/
@[simp] theorem reports_produceSample (now : Int) (createBuffer : Bool) (s : RTMediaStreamSource) :
    reports (produceSample durationOf now createBuffer s).2 =
      reports (countFrame now { s with timeStamp := s.timeStamp + durationOf s.frameRate }).2 := by
  rw [produceSample_eq]
  cases createBuffer <;> simp only [reports_append, reports_updateResolution, List.append_nil,
    Bool.false_eq_true, ↓reduceIte]
  exact List.append_nil _

/-- Each call is a frame, a request that returns before `MFCreateSample`
succeeds, or a request that produces a sample. -/
theorem step_cases (s : RTMediaStreamSource) (e : Event) :
    (∃ f, e = .processReceivedFrame f ∧ step durationOf s e = (s.processReceivedFrame f, [])) ∨
      ∃ now req, e = .sampleRequested now req ∧
        (step durationOf s e = (s, []) ∨
          step durationOf s e = s.produceSample durationOf now req.createBuffer) := by
  cases e with
  | processReceivedFrame f => exact .inl ⟨f, rfl, rfl⟩
  | sampleRequested now req =>
    refine .inr ⟨now, req, rfl, ?_⟩
    simp only [step, onSampleRequested]
    cases s.mediaStreamSource <;> cases req.request <;> cases req.queryInterface <;>
      cases req.createSample <;> first | exact .inl rfl | exact .inr rfl

/-- A property of the calls so far, the state and everything handed out so far
that every call keeps holds after every run. -/
theorem run_induction (P : List Event → RTMediaStreamSource → List Output → Prop)
    (hstep : ∀ pre s outs e, P pre s outs →
      P (pre ++ [e]) (step durationOf s e).1 (outs ++ (step durationOf s e).2))
    (pre : List Event) {s : RTMediaStreamSource} {outs : List Output} (h : P pre s outs)
    (es : List Event) :
    P (pre ++ es) (run durationOf s es).1 (outs ++ (run durationOf s es).2) := by
  induction es generalizing pre s outs with
  | nil => simpa [run] using h
  | cons e es ih => simpa [run, List.append_assoc] using ih _ (hstep pre s outs e h)

/-- No call changes `_frameRate`. -/
@[simp] theorem step_frameRate (s : RTMediaStreamSource) (e : Event) :
    (step durationOf s e).1.frameRate = s.frameRate := by
  rcases step_cases durationOf s e with ⟨f, -, h⟩ | ⟨now, req, -, h | h⟩ <;>
    simp [h, processReceivedFrame]

/-- Only `OnClosed` changes `_mediaStreamSource`. -/
@[simp] theorem step_mediaStreamSource (s : RTMediaStreamSource) (e : Event) :
    (step durationOf s e).1.mediaStreamSource = s.mediaStreamSource := by
  rcases step_cases durationOf s e with ⟨f, -, h⟩ | ⟨now, req, -, h | h⟩ <;>
    simp [h, processReceivedFrame]

/-- Once `_mediaStreamSource` is null, `OnSampleRequested` returns at its
first check: the source hands out nothing. -/
theorem step_snd_of_closed (s : RTMediaStreamSource) (e : Event)
    (h : s.mediaStreamSource = false) : (step durationOf s e).2 = [] := by
  cases e <;> simp [step, onSampleRequested, h]

end RTMediaStreamSource

end WebRtcWinRT.MediaStreamSource
