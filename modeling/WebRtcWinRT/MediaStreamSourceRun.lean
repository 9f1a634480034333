import Mathlib
import WebRtcWinRT.MediaStreamSource

/-!
# What a media stream source hands out over a run

Four invariants of a source and of everything it has handed out since
`CreateMediaSource`, each kept by every call: `_timeStamp` counts the samples
created and the samples handed out carry its successive values; the
descriptor has the size last reported; the frames counted, reported or not,
are at most one more than the frames received; and reports move the time of
the last report forward by more than a second each. The conclusions hold over
every run, whatever the clock readings and the platform's answers.
-/

namespace WebRtcWinRT.MediaStreamSourceRun

open MediaStreamSource RTMediaStreamSource

variable (durationOf : UInt32 → Int) {s : RTMediaStreamSource} {outs : List Output}

/-- `_timeStamp` is `n` durations `d`, and the samples handed out were stamped
with a sublist of the first `n` multiples of `d`, each lasting `d`. -/
def TimeInv (d : Int) (s : RTMediaStreamSource) (outs : List Output) : Prop :=
  ∃ n : Nat, s.timeStamp = n * d ∧
    (samples outs).Sublist ((List.range n).map fun k : Nat => ((k : Int) * d, d))

/-- Every call keeps the sample times on the multiples of the duration. -/
theorem TimeInv.step {d : Int} (hd : durationOf s.frameRate = d) (h : TimeInv d s outs)
    (e : Event) : TimeInv d (step durationOf s e).1 (outs ++ (step durationOf s e).2) := by
  rcases step_cases durationOf s e with ⟨f, -, he⟩ | ⟨now, req, -, he | he⟩ <;> rw [he]
  · simpa only [List.append_nil] using h
  · simpa using h
  · obtain ⟨n, ht, hsub⟩ := h
    refine ⟨n + 1, ?_, ?_⟩
    · simp only [produceSample_eq, updateResolution_timeStamp, countFrame_timeStamp, hd, ht]
      push_cast
      rw [Int.add_mul, Int.one_mul]
    · rw [samples_append, List.range_succ, List.map_append]
      refine hsub.append ?_
      simp only [produceSample_eq, samples_append, samples_countFrame, samples_updateResolution,
        List.nil_append]
      cases req.createBuffer
      · exact List.nil_sublist _
      · simp [hd, ht]

/-- A request past `MFCreateSample` whose `MFCreate2DMediaBuffer` fails
advances `_timeStamp` by the duration and hands out no sample. -/
theorem step_without_buffer (now : Int) {req : SampleRequest} (hm : s.mediaStreamSource = true)
    (h₁ : req.request = true) (h₂ : req.queryInterface = true) (h₃ : req.createSample = true)
    (h₄ : req.createBuffer = false) :
    (step durationOf s (.sampleRequested now req)).1.timeStamp =
        s.timeStamp + durationOf s.frameRate ∧
      samples (step durationOf s (.sampleRequested now req)).2 = [] := by
  have : step durationOf s (.sampleRequested now req) = produceSample durationOf now false s := by
    simp [step, onSampleRequested, hm, h₁, h₂, h₃, h₄]
  rw [this, produceSample_eq]
  simp

/-- Over every run of a created source, `_timeStamp` is a whole number `n` of
durations `d`, and the samples handed out were stamped, in order, with a
sublist of `0, d, ..., (n - 1) * d`, each lasting `d`. Multiples are skipped:
after any run, a request whose `MFCreate2DMediaBuffer` fails after
`MFCreateSample` succeeded advances `_timeStamp` by `d` and hands out no
sample. -/
theorem samples_stamped_by_duration (frameRate : UInt32) (t0 : Int) (es : List Event) :
    (∃ n : Nat, (runCreated durationOf frameRate t0 es).1.timeStamp = n * durationOf frameRate ∧
      (samples (runCreated durationOf frameRate t0 es).2).Sublist
        ((List.range n).map fun k : Nat => ((k : Int) * durationOf frameRate,
          durationOf frameRate))) ∧
      ∀ now req, req.request = true → req.queryInterface = true → req.createSample = true →
        req.createBuffer = false →
        (step durationOf (runCreated durationOf frameRate t0 es).1 (.sampleRequested now req)).1.timeStamp =
            (runCreated durationOf frameRate t0 es).1.timeStamp + durationOf frameRate ∧
          samples (step durationOf (runCreated durationOf frameRate t0 es).1
            (.sampleRequested now req)).2 = [] := by
  have h0 : (createMediaSource frameRate t0).1.mediaStreamSource = true ∧
      (createMediaSource frameRate t0).1.frameRate = frameRate ∧
      TimeInv (durationOf frameRate) (createMediaSource frameRate t0).1
        (createMediaSource frameRate t0).2 :=
    ⟨rfl, rfl, 0, by simp [createMediaSource], List.nil_sublist _⟩
  obtain ⟨hm, hf, h⟩ := run_induction durationOf
    (fun _ s outs => s.mediaStreamSource = true ∧ s.frameRate = frameRate ∧
      TimeInv (durationOf frameRate) s outs)
    (fun _ _ _ e ⟨hm, hf, h⟩ => ⟨by rw [step_mediaStreamSource, hm], by rw [step_frameRate, hf],
      h.step durationOf (by rw [hf]) e⟩)
    [] h0 es
  refine ⟨h, fun now req h₁ h₂ h₃ h₄ => ?_⟩
  have := step_without_buffer durationOf now hm h₁ h₂ h₃ h₄
  rwa [hf] at this

/-- A request without a buffer after a frame and a request with one: the
second request's multiple of the duration is skipped. -/
theorem samples_stamped_by_duration_skip :
    (step (fun r => 10000000 / (r.toNat : Int)) (runCreated (fun r => 10000000 / (r.toNat : Int))
        30 0 [.processReceivedFrame ⟨640, 480⟩, .sampleRequested 0 ⟨true, true, true, true⟩]).1
        (.sampleRequested 33 ⟨true, true, true, false⟩)).1.timeStamp =
        (runCreated (fun r => 10000000 / (r.toNat : Int)) 30 0
          [.processReceivedFrame ⟨640, 480⟩, .sampleRequested 0 ⟨true, true, true, true⟩]).1.timeStamp +
          10000000 / ((30 : UInt32).toNat : Int) ∧
      samples (step (fun r => 10000000 / (r.toNat : Int)) (runCreated
        (fun r => 10000000 / (r.toNat : Int)) 30 0
          [.processReceivedFrame ⟨640, 480⟩, .sampleRequested 0 ⟨true, true, true, true⟩]).1
        (.sampleRequested 33 ⟨true, true, true, false⟩)).2 = [] :=
  (samples_stamped_by_duration (fun r => 10000000 / (r.toNat : Int)) 30 0
    [.processReceivedFrame ⟨640, 480⟩, .sampleRequested 0 ⟨true, true, true, true⟩]).2
    33 ⟨true, true, true, false⟩ rfl rfl rfl rfl

/-- What was handed out satisfies `resolutionOk`, the size last reported is
the descriptor's, and the frame held fits `uint32`. -/
structure ResolutionInv (s : RTMediaStreamSource) (outs : List Output) : Prop where
  ok : resolutionOk none outs = true
  last : lastResolution none outs = some (s.width, s.height)
  fits : ∀ f ∈ s.frame, f.Fits

/-- Every call whose frame fits keeps the reported sizes consistent. -/
theorem ResolutionInv.step (h : ResolutionInv s outs) {e : Event}
    (hfit : ∀ f ∈ frames [e], f.Fits) :
    ResolutionInv (step durationOf s e).1 (outs ++ (step durationOf s e).2) := by
  rcases step_cases durationOf s e with ⟨f, rfl, he⟩ | ⟨now, req, -, he | he⟩ <;> rw [he]
  · exact ⟨by simpa using h.ok, by simpa [lastResolution_append] using h.last,
      by simpa [processReceivedFrame] using hfit⟩
  · simpa using h
  · obtain ⟨hok, hlast, hconv⟩ := updateResolution_spec (s := (countFrame now
      { s with timeStamp := s.timeStamp + durationOf s.frameRate }).1)
      (by rw [countFrame_frame]; exact h.fits)
    simp only [countFrame_width, countFrame_height] at hok hlast
    refine ⟨?_, ?_, by rw [produceSample_fst, updateResolution_frame, countFrame_frame]; exact h.fits⟩
    · rw [produceSample_eq]
      simp only [resolutionOk_append, lastResolution_append, h.ok, h.last, hok, hlast,
        lastResolution_countFrame, resolutionOk_countFrame, Bool.true_and]
      cases req.createBuffer
      · rfl
      · simpa only [resolutionOk, decide_True, Bool.true_and, Bool.and_true, decide_eq_true_eq]
          using hconv
    · rw [produceSample_eq]
      simp only [lastResolution_append, h.last, hlast, lastResolution_countFrame]
      cases req.createBuffer <;> rfl

/-- Over every run of a created source whose frames' sizes fit `uint32`, the
first thing handed out is the `ResolutionChanged` to 320×240 at creation, the
sizes reported through `ResolutionChanged` each differ from the one before,
every buffer handed out has the size last reported, and every frame converted
into a buffer has the buffer's size. -/
theorem buffers_have_reported_resolution (frameRate : UInt32) (t0 : Int) {es : List Event}
    (hfit : ∀ f ∈ frames es, f.Fits) :
    (∃ rest, (runCreated durationOf frameRate t0 es).2 = .resolutionChanged 320 240 :: rest) ∧
      resolutionOk none (runCreated durationOf frameRate t0 es).2 = true := by
  refine ⟨⟨_, rfl⟩, ?_⟩
  have h0 : (∀ f ∈ frames [], f.Fits) → ResolutionInv (createMediaSource frameRate t0).1
      (createMediaSource frameRate t0).2 := fun _ => ⟨rfl, rfl, by simp [createMediaSource]⟩
  exact (run_induction durationOf
    (fun pre s outs => (∀ f ∈ frames pre, f.Fits) → ResolutionInv s outs)
    (fun pre _ _ e h hpre => (h fun f hf => hpre f (by simp [hf])).step durationOf
      fun f hf => hpre f (by simp [hf]))
    [] h0 es hfit).ok

/-- Two frames of different sizes, each taken by a request. -/
theorem buffers_have_reported_resolution_two_frames :
    (∀ f ∈ frames [.processReceivedFrame ⟨640, 480⟩, .sampleRequested 0 ⟨true, true, true, true⟩,
        .processReceivedFrame ⟨1280, 720⟩, .sampleRequested 33 ⟨true, true, true, true⟩], f.Fits) ∧
      (∃ rest, (runCreated (fun r => 10000000 / (r.toNat : Int)) 30 0
        [.processReceivedFrame ⟨640, 480⟩, .sampleRequested 0 ⟨true, true, true, true⟩,
          .processReceivedFrame ⟨1280, 720⟩, .sampleRequested 33 ⟨true, true, true, true⟩]).2 =
          .resolutionChanged 320 240 :: rest) ∧
      resolutionOk none (runCreated (fun r => 10000000 / (r.toNat : Int)) 30 0
        [.processReceivedFrame ⟨640, 480⟩, .sampleRequested 0 ⟨true, true, true, true⟩,
          .processReceivedFrame ⟨1280, 720⟩, .sampleRequested 33 ⟨true, true, true, true⟩]).2 = true :=
  ⟨by decide, buffers_have_reported_resolution _ 30 0 (by decide)⟩

/-- A new frame moves from the flag into the counter, and a report moves the
counter into the reported counts: their total is kept. -/
theorem countFrame_total (now : Int) (s : RTMediaStreamSource) :
    (reports (countFrame now s).2).sum + (countFrame now s).1.frameCounter +
        (if (countFrame now s).1.isNewFrame then 1 else 0) =
      s.frameCounter + (if s.isNewFrame then 1 else 0) := by
  unfold countFrame
  by_cases h₁ : s.isNewFrame <;> by_cases h₂ : now - s.lastTimeFPSCalculated > 1000 <;>
    simp [h₁, h₂]

/-- The frames counted, reported or pending, and the pending new frame add up
to at most one more than the frames received. -/
def CountInv (received : Nat) (s : RTMediaStreamSource) (outs : List Output) : Prop :=
  (reports outs).sum + s.frameCounter + (if s.isNewFrame then 1 else 0) ≤ received + 1

/-- Every call keeps the frames counted within one of the frames received. -/
theorem CountInv.step {received : Nat} (h : CountInv received s outs) (e : Event) :
    CountInv (received + (frames [e]).length) (step durationOf s e).1
      (outs ++ (step durationOf s e).2) := by
  rcases step_cases durationOf s e with ⟨f, rfl, he⟩ | ⟨now, req, rfl, he | he⟩ <;> rw [he]
  · unfold CountInv at h ⊢
    simp only [processReceivedFrame, frames_cons_processReceivedFrame, frames_nil,
      List.length_singleton, List.append_nil, if_true]
    split at h <;> omega
  · simpa using h
  · have := countFrame_total now { s with timeStamp := s.timeStamp + durationOf s.frameRate }
    unfold CountInv at h ⊢
    simp only [reports_append, List.sum_append, reports_produceSample, produceSample_fst,
      updateResolution_frameCounter, updateResolution_isNewFrame] at this ⊢
    simp only [frames_cons_sampleRequested, frames_nil, List.length_nil, Nat.add_zero]
    omega

/-- Over every run of a created source, the counts reported through
`FramesPerSecondChanged` add up to at most one more than the frames received.
A frame that arrives while the previous one is still pending replaces it
uncounted: after any run with a new frame pending, `ProcessReceivedFrame`
leaves `_frameCounter` as it is and the frame still pending, and hands out
nothing. -/
theorem reported_frames_at_most_one_extra (frameRate : UInt32) (t0 : Int) (es : List Event) :
    (reports (runCreated durationOf frameRate t0 es).2).sum ≤ (frames es).length + 1 ∧
      ∀ f, (runCreated durationOf frameRate t0 es).1.isNewFrame = true →
        (step durationOf (runCreated durationOf frameRate t0 es).1 (.processReceivedFrame f)).1.frameCounter =
            (runCreated durationOf frameRate t0 es).1.frameCounter ∧
          (step durationOf (runCreated durationOf frameRate t0 es).1
            (.processReceivedFrame f)).1.isNewFrame = true ∧
          (step durationOf (runCreated durationOf frameRate t0 es).1 (.processReceivedFrame f)).2 = [] := by
  have h0 : CountInv (frames []).length (createMediaSource frameRate t0).1
      (createMediaSource frameRate t0).2 := by
    simp [CountInv, createMediaSource]
  have := run_induction durationOf (fun pre s outs => CountInv (frames pre).length s outs)
    (fun pre _ _ e h => by simpa using h.step durationOf e) [] h0 es
  unfold CountInv at this
  simp only [List.nil_append] at this
  refine ⟨?_, fun _ _ => ⟨rfl, rfl, rfl⟩⟩
  simp only [runCreated]
  omega

/-- The constructor's pending `_isNewFrame` reaches the bound: a first request
two seconds after creation, before any frame arrives, reports one frame. -/
theorem reported_frames_at_most_one_extra_reached :
    reports (runCreated (fun r => 10000000 / (r.toNat : Int)) 30 0
        [.sampleRequested 2000 ⟨true, true, true, true⟩]).2 = [1] ∧
      (reports (runCreated (fun r => 10000000 / (r.toNat : Int)) 30 0
          [.sampleRequested 2000 ⟨true, true, true, true⟩]).2).sum ≤
        (frames [.sampleRequested 2000 ⟨true, true, true, true⟩]).length + 1 :=
  ⟨by decide, (reported_frames_at_most_one_extra (fun r => 10000000 / (r.toNat : Int)) 30 0
    [.sampleRequested 2000 ⟨true, true, true, true⟩]).1⟩

/-- Each report moved the time of the last report forward by more than a
second, from the creation time `t0`, and never past the latest clock
reading `L`. -/
def RateInv (t0 L : Int) (s : RTMediaStreamSource) (outs : List Output) : Prop :=
  t0 + 1001 * (reports outs).length ≤ s.lastTimeFPSCalculated ∧ s.lastTimeFPSCalculated ≤ L

/-- Every call keeps the reports more than a second apart and no later than the latest reading. -/
theorem RateInv.step {t0 L : Int} (h : RateInv t0 L s outs) (e : Event) :
    RateInv t0 (latestNow L [e]) (step durationOf s e).1 (outs ++ (step durationOf s e).2) := by
  rcases step_cases durationOf s e with ⟨f, rfl, he⟩ | ⟨now, req, rfl, he | he⟩ <;> rw [he]
  · simpa only [List.append_nil] using h
  · simp only [RateInv, latestNow_cons_sampleRequested, latestNow_nil, List.append_nil]
    exact ⟨h.1, h.2.trans (Int.le_max_left _ _)⟩
  · obtain ⟨h₁, h₂⟩ := h
    simp only [RateInv, latestNow_cons_sampleRequested, latestNow_nil, reports_append, reports_produceSample,
      produceSample_fst, updateResolution_lastTimeFPSCalculated, List.length_append]
    rcases countFrame_report now { s with timeStamp := s.timeStamp + durationOf s.frameRate } with
      ⟨hr, hl⟩ | ⟨hr, hlt, hl⟩
    · rw [hr, hl]
      simp only [List.length_nil]
      omega
    · rw [hr, hl]
      dsimp only at hlt
      omega

/-- Over every run of a created source, `FramesPerSecondChanged` is reported
at most once per 1001 ms of clock: the creation time `t0` plus 1001 ms per
report is at most the latest clock reading of a request. -/
theorem frame_reports_at_most_one_per_second (frameRate : UInt32) (t0 : Int) (es : List Event) :
    t0 + 1001 * (reports (runCreated durationOf frameRate t0 es).2).length ≤ latestNow t0 es := by
  have h0 : RateInv t0 (latestNow t0 []) (createMediaSource frameRate t0).1
      (createMediaSource frameRate t0).2 := by
    simp [RateInv, createMediaSource]
  have := run_induction durationOf (fun pre s outs => RateInv t0 (latestNow t0 pre) s outs)
    (fun pre _ _ e h => by simpa only [latestNow_append] using h.step durationOf e)
    [] h0 es
  exact this.1.trans this.2

end WebRtcWinRT.MediaStreamSourceRun
