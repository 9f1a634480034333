import WebRtcWinRT.CaptureModeSelection

/-!
# Starting, stopping and failing capture devices

`VideoCaptureWinRT::StartCapture` builds a `MediaEncodingProfile` from the
requested capability and calls `CaptureDevice::StartCapture`, which records
the profile's size, frame rate and subtype as `frame_info_`, makes a media
sink, and chains `InitializeAsync`, `SetMediaStreamPropertiesAsync` and
`StartRecordToCustomSinkAsync`; `StopCapture` and the `Failed` handler stop
the recording. Each platform call succeeds, throws when called, or returns an
operation that fails. The first continuation of the chain runs only on a
value, the second receives the task and never reads it, and the third reads
it. A task whose exception no `get()` or `wait()` observed ends the process
when the task library releases it, so a failed `SetMediaStreamPropertiesAsync`
operation ends the process. `StartCapture` and `StopCapture` turn an exception
into `-1`; `OnCaptureDeviceFailed` does not catch. The stream properties the
selection loop chooses reach only `SetMediaStreamPropertiesAsync`, whose
answer is a parameter here.

A successful start reports through `CaptureSettings` the requested size and
the raw type its subtype maps back to: the requested one, except that
`kVideoARGB` is started as RGB24 and `kVideoI420` comes back as its alias
`kVideoIYUV`. A start returns `0` exactly when all three platform calls
succeed on a stopped device. Over every run a started capture has its media
sink; an exception escapes the failure handler exactly when a capture was
running and stopping it failed, and otherwise no capture is left running. The
destructor's `Cleanup` receives the stop's task and never reads it: a stop
that throws on the call escapes the destructor, and one that fails in its
operation ends the process through the task library.
-/

namespace WebRtcWinRT.CaptureLifecycle

open CaptureModeSelection

/-- How an asynchronous platform call ends. -/
inductive AsyncResult
  /-- The call and its operation succeed. -/
  | ok
  /-- The call itself throws. -/
  | throwsOnCall
  /-- The call returns an operation that completes with an error. -/
  | failsAsync
  deriving DecidableEq, Repr

/-- How a call ends without returning: a `Platform::Exception`, or the end of
the process. -/
inductive Fault
  /-- The device's `ERROR_INVALID_STATE`. -/
  | invalidState
  /-- An exception the platform raised. -/
  | platform
  /-- Not an exception a caller can catch: a task's exception that no `get()`
  or `wait()` observed, which makes the task library end the process when it
  releases the task. -/
  | unobservedTaskException
  deriving DecidableEq, Repr

/-- The raw type `CaptureDevice::StartCapture` records for the profile's
subtype: the `_wcsicmp` chain against `MediaEncodingSubtypes`. -/
def rawTypeOf (subtype : String) : RawVideoType :=
  if wcsicmpEq subtype "YV12" then .kVideoYV12
  else if wcsicmpEq subtype "YUY2" then .kVideoYUY2
  else if wcsicmpEq subtype "IYUV" then .kVideoIYUV
  else if wcsicmpEq subtype "RGB24" then .kVideoRGB24
  else if wcsicmpEq subtype "RGB32" then .kVideoARGB
  else if wcsicmpEq subtype "MJPG" then .kVideoMJPEG
  else if wcsicmpEq subtype "NV12" then .kVideoNV12
  else .kVideoUnknown

/-- The fields of a `CaptureDevice` its methods read and write. -/
structure CaptureDevice where
  /-- `media_sink_` is non-null. -/
  mediaSink : Bool
  /-- `capture_started_`. -/
  captureStarted : Bool
  /-- `frame_info_`. -/
  frameInfo : VideoCaptureCapability
  deriving DecidableEq, Repr

/-- The platform's answers during `CaptureDevice::StartCapture`. -/
structure StartAnswers where
  /-- `media_sink_->InitializeAsync(...)`. -/
  initializeAsync : AsyncResult
  /-- `SetMediaStreamPropertiesAsync(VideoRecord, video_encoding_properties)`. -/
  setMediaStreamPropertiesAsync : AsyncResult
  /-- `StartRecordToCustomSinkAsync(...)`. -/
  startRecordToCustomSinkAsync : AsyncResult
  deriving DecidableEq, Repr

namespace CaptureDevice

/-- `CaptureDevice(listener)`, with `frame_info_` as `VideoCaptureCapability()`
leaves it. -/
def create : CaptureDevice := ⟨false, false, ⟨0, 0, 0, .kVideoUnknown⟩⟩

/-- `CleanupSink()`. -/
def cleanupSink (d : CaptureDevice) : CaptureDevice :=
  if d.mediaSink then { d with mediaSink := false, captureStarted := false } else d

/-- `frame_info_` as `StartCapture` sets it from the profile's video
properties: `int` fields assigned from `unsigned int` ones, and the frame rate
as the float quotient truncated, the expression of the selection loop's
`prop_fps`. -/
def frameInfoOf (propFps : VideoEncodingProperties → Int) (video : VideoEncodingProperties) :
    VideoCaptureCapability :=
  ⟨toSigned video.width, toSigned video.height, propFps video, rawTypeOf video.subtype⟩

/-- The end of `StartCapture`'s chain from `StartRecordToCustomSinkAsync`,
whose continuation reads the task: `capture_started_` on success,
`CleanupSink()` and the exception when the operation failed. -/
def startRecord (startRecordToCustomSinkAsync : AsyncResult) (d : CaptureDevice) :
    CaptureDevice × Except Fault Unit :=
  match startRecordToCustomSinkAsync with
  | .throwsOnCall => (d, .error .platform)
  | .failsAsync => (d.cleanupSink, .error .platform)
  | .ok => ({ d with captureStarted := true }, .ok ())

/-- `StartCapture(media_encoding_profile, video_encoding_properties)`, with
`video` the profile's video properties; how it ends other than by returning,
if it does. The continuation after `SetMediaStreamPropertiesAsync` receives
its task and never calls `get()`: the chain goes on, and an operation that
failed leaves an exception no one observes. -/
def startCapture (propFps : VideoEncodingProperties → Int) (video : VideoEncodingProperties)
    (ans : StartAnswers) (d : CaptureDevice) : CaptureDevice × Except Fault Unit :=
  if d.captureStarted then (d, .error .invalidState)
  else
    let d := { d.cleanupSink with frameInfo := frameInfoOf propFps video, mediaSink := true }
    match ans.initializeAsync with
    | .throwsOnCall | .failsAsync => (d, .error .platform)
    | .ok =>
      match ans.setMediaStreamPropertiesAsync with
      | .throwsOnCall => (d, .error .platform)
      | .ok => d.startRecord ans.startRecordToCustomSinkAsync
      | .failsAsync => ((d.startRecord ans.startRecordToCustomSinkAsync).1, .error .unobservedTaskException)

/-- `StopCapture()`, with `stopRecordAsync` the answer of `StopRecordAsync()`. -/
def stopCapture (stopRecordAsync : AsyncResult) (d : CaptureDevice) :
    CaptureDevice × Except Fault Unit :=
  if !d.captureStarted then (d, .error .invalidState)
  else
    match stopRecordAsync with
    | .throwsOnCall => (d, .error .platform)
    | .failsAsync => (d.cleanupSink, .error .platform)
    | .ok => (d.cleanupSink, .ok ())

/-- `Cleanup()`, with `mediaCapture` whether `media_capture_` is non-null and
`stopRecordAsync` the answer of `StopRecordAsync()`; how it ends other than by
returning, if it does. The continuation on the stop receives the task and
never reads it, so `wait()` returns even when the operation failed, and that
failure, never observed, ends the process. -/
def cleanup (mediaCapture : Bool) (stopRecordAsync : AsyncResult) (d : CaptureDevice) :
    CaptureDevice × Except Fault Unit :=
  if !mediaCapture then (d, .ok ())
  else if d.captureStarted then
    match stopRecordAsync with
    | .throwsOnCall => (d, .error .platform)
    | .failsAsync => (d.cleanupSink, .error .unobservedTaskException)
    | .ok => (d.cleanupSink, .ok ())
  else (d.cleanupSink, .ok ())

end CaptureDevice

/-- The `device_` of a `VideoCaptureWinRT`; `none` while null. -/
structure VideoCaptureWinRT where
  device : Option CaptureDevice
  deriving DecidableEq, Repr

/-- The video properties of the profile `StartCapture` builds:
`CreateUncompressed(subtype, capability.width, capability.height)`, frame rate
`capability.maxFPS / 1`. -/
def profileVideo (capability : VideoCaptureCapability) (subtype : String) :
    VideoEncodingProperties :=
  ⟨subtype, toUnsigned capability.width, toUnsigned capability.height,
    toUnsigned capability.maxFPS, 1⟩

/-- `try { ... } catch (Platform::Exception^ e) { ... return -1; } return 0;`
around a device call: an exception becomes `-1`, and the end of the process
is not caught. -/
def catchPlatformException : Except Fault Unit → Except Fault Int
  | .ok () => .ok 0
  | .error .unobservedTaskException => .error .unobservedTaskException
  | .error _ => .ok (-1)

/-- Whether a call ended the process. -/
def endsProcess : Except Fault Int → Bool
  | .error .unobservedTaskException => true
  | _ => false

/-- A call into a `VideoCaptureWinRT`, with the platform's answers. -/
inductive Call
  /-- `Init(id, device_unique_id)`: whether the name is too long, and whether
  the device search found a device. -/
  | init (nameTooLong found : Bool)
  | startCapture (capability : VideoCaptureCapability) (ans : StartAnswers)
  /-- `StopCapture()`, with the answer of `StopRecordAsync()`. -/
  | stopCapture (stopRecordAsync : AsyncResult)
  /-- `OnCaptureDeviceFailed(code, message)` from the `Failed` event, with the
  answer of `StopRecordAsync()`. -/
  | onCaptureDeviceFailed (stopRecordAsync : AsyncResult)
  deriving DecidableEq, Repr

namespace VideoCaptureWinRT

variable (propFps : VideoEncodingProperties → Int)

/-- `VideoCaptureWinRT(id)`. -/
def create : VideoCaptureWinRT := ⟨none⟩

/-- `Init(id, device_unique_id)`: a new `CaptureDevice` replaces `device_`
when a device was found. -/
def init (nameTooLong found : Bool) (v : VideoCaptureWinRT) : VideoCaptureWinRT × Int :=
  if nameTooLong then (v, -1)
  else if found then (⟨some CaptureDevice.create⟩, 0)
  else (v, -1)

/-- `StartCapture(capability)`: the return code, or how the call ended
otherwise; `none` where it calls through a null `device_`. -/
def startCapture (capability : VideoCaptureCapability) (ans : StartAnswers)
    (v : VideoCaptureWinRT) : Option (VideoCaptureWinRT × Except Fault Int) :=
  match subtypeOf capability.rawType with
  | none => some (v, .ok (-1))
  | some subtype =>
    v.device.map fun d =>
      let r := d.startCapture propFps (profileVideo capability subtype) ans
      (⟨some r.1⟩, catchPlatformException r.2)

/-- `StopCapture()`: the return code, or how the call ended otherwise; `none`
where it calls through a null `device_`. -/
def stopCapture (stopRecordAsync : AsyncResult) (v : VideoCaptureWinRT) :
    Option (VideoCaptureWinRT × Except Fault Int) :=
  v.device.map fun d =>
    let r := d.stopCapture stopRecordAsync
    (⟨some r.1⟩, catchPlatformException r.2)

/-- `CaptureSettings(settings)`; `none` where it reads a null `device_`. -/
def captureSettings (v : VideoCaptureWinRT) : Option VideoCaptureCapability :=
  v.device.map (·.frameInfo)

/-- `OnCaptureDeviceFailed(code, message)`: stops a running capture, with no
`try` around the call; the exception that escapes, if any. -/
def onCaptureDeviceFailed (stopRecordAsync : AsyncResult) (v : VideoCaptureWinRT) :
    VideoCaptureWinRT × Except Fault Unit :=
  match v.device with
  | some d =>
    if d.captureStarted then
      let r := d.stopCapture stopRecordAsync
      (⟨some r.1⟩, r.2)
    else (v, .ok ())
  | none => (v, .ok ())

/-- `~VideoCaptureWinRT()`: `Cleanup()` on a non-null `device_`; the device
after it, and how the destructor ends other than by returning, if it does. -/
def destroy (mediaCapture : Bool) (stopRecordAsync : AsyncResult) (v : VideoCaptureWinRT) :
    Option CaptureDevice × Except Fault Unit :=
  match v.device with
  | some d => let r := d.cleanup mediaCapture stopRecordAsync; (some r.1, r.2)
  | none => (none, .ok ())

/-- One call: the state and the return code, or how the call ended otherwise;
`none` where the call goes through a null `device_`. -/
def step (v : VideoCaptureWinRT) : Call → Option (VideoCaptureWinRT × Except Fault Int)
  | .init nameTooLong found => let r := v.init nameTooLong found; some (r.1, .ok r.2)
  | .startCapture capability ans => v.startCapture propFps capability ans
  | .stopCapture a => v.stopCapture a
  | .onCaptureDeviceFailed a =>
    let r := v.onCaptureDeviceFailed a
    some (r.1, r.2.map fun _ => 0)

/-- A run of calls; `none` as soon as one goes through a null `device_`, and
when the process has ended before the run is over. -/
def run (v : VideoCaptureWinRT) : List Call → Option VideoCaptureWinRT
  | [] => some v
  | c :: cs => (v.step propFps c).bind fun r => if endsProcess r.2 then none else run r.1 cs

end VideoCaptureWinRT

variable (propFps : VideoEncodingProperties → Int)

/-- An `int` in range survives the round trip through `unsigned int`. -/
theorem toSigned_toUnsigned {x : Int} (hlo : -2147483648 ≤ x) (hhi : x < 2147483648) :
    toSigned (toUnsigned x) = x := by
  have hlt : (x % 4294967296).toNat < UInt32.size := by
    show _ < 4294967296
    omega
  unfold toSigned toUnsigned
  rw [UInt32.toNat_ofNat_of_lt hlt]
  split <;> omega

/-- A start on a stopped device whose three platform calls succeed leaves it
started with a sink and the profile's settings. -/
theorem CaptureDevice.startCapture_all_ok {d : CaptureDevice} (hs : d.captureStarted = false)
    (video : VideoEncodingProperties) :
    d.startCapture propFps video ⟨.ok, .ok, .ok⟩ =
      ({ d.cleanupSink with
          frameInfo := CaptureDevice.frameInfoOf propFps video
          mediaSink := true
          captureStarted := true }, .ok ()) := by
  simp [CaptureDevice.startCapture, CaptureDevice.startRecord, hs]

/-- A device start returns normally exactly when the device was stopped and
all three platform calls succeed. -/
theorem CaptureDevice.startCapture_ok_iff {d : CaptureDevice} {video : VideoEncodingProperties}
    {ans : StartAnswers} :
    (d.startCapture propFps video ans).2 = .ok () ↔
      d.captureStarted = false ∧ ans = ⟨.ok, .ok, .ok⟩ := by
  obtain ⟨i, m, r⟩ := ans
  unfold CaptureDevice.startCapture
  cases d.captureStarted
  · cases i <;> cases m <;> cases r <;> simp [CaptureDevice.startRecord]
  · simp

/-- A device start that throws nothing leaves the device started, with its
sink, and with the profile's settings. -/
theorem CaptureDevice.startCapture_ok {video : VideoEncodingProperties} {ans : StartAnswers}
    {d d' : CaptureDevice} (h : d.startCapture propFps video ans = (d', .ok ())) :
    d'.captureStarted = true ∧ d'.mediaSink = true ∧
      d'.frameInfo = CaptureDevice.frameInfoOf propFps video := by
  obtain ⟨hs, rfl⟩ := (CaptureDevice.startCapture_ok_iff propFps).mp (congrArg Prod.snd h)
  rw [CaptureDevice.startCapture_all_ok propFps hs] at h
  cases h
  exact ⟨rfl, rfl, rfl⟩

/-- The code a caught call returns is `0` exactly when nothing was thrown. -/
theorem catchPlatformException_eq_zero {e : Except Fault Unit} :
    catchPlatformException e = .ok 0 ↔ e = .ok () := by
  rcases e with ((_ | _ | _) | _) <;> simp [catchPlatformException]

/-- A start that returns `0` leaves a started device whose settings are the
profile's. -/
theorem startCapture_ok {capability : VideoCaptureCapability} {ans : StartAnswers}
    {v v' : VideoCaptureWinRT} (h : v.startCapture propFps capability ans = some (v', .ok 0)) :
    ∃ subtype, subtypeOf capability.rawType = some subtype ∧
      ∃ d, v'.device = some d ∧ d.captureStarted = true ∧ d.mediaSink = true ∧
        d.frameInfo = CaptureDevice.frameInfoOf propFps (profileVideo capability subtype) := by
  unfold VideoCaptureWinRT.startCapture at h
  split at h
  · cases h
  · rename_i subtype hs
    obtain ⟨d, -, hd⟩ := Option.map_eq_some'.mp h
    obtain ⟨rfl, hr⟩ := Prod.mk.inj hd
    exact ⟨subtype, hs, _, rfl,
      CaptureDevice.startCapture_ok propFps (Prod.ext rfl (catchPlatformException_eq_zero.mp hr))⟩

/-- After `StartCapture(capability)` returns `0`, `CaptureSettings` reports a
running capture with the requested width and height and the requested raw
type, except that a `kVideoARGB` request runs as `kVideoRGB24`, its subtype
being `Rgb24`, and `kVideoI420` comes back as `kVideoIYUV`. -/
theorem captureSettings_after_start {capability : VideoCaptureCapability} {ans : StartAnswers} {v v' : VideoCaptureWinRT}
    (hw : -2147483648 ≤ capability.width ∧ capability.width < 2147483648)
    (hh : -2147483648 ≤ capability.height ∧ capability.height < 2147483648)
    (h : v.startCapture propFps capability ans = some (v', .ok 0)) :
    ∃ d, v'.device = some d ∧ d.captureStarted = true ∧
      d.frameInfo.width = capability.width ∧ d.frameInfo.height = capability.height ∧
      d.frameInfo.rawType = match capability.rawType with
        | .kVideoARGB => .kVideoRGB24
        | .kVideoI420 => .kVideoIYUV
        | r => r := by
  obtain ⟨subtype, hs, d, hd, hst, -, hfi⟩ := startCapture_ok propFps h
  refine ⟨d, hd, hst, ?_, ?_, ?_⟩
  · rw [hfi]; exact toSigned_toUnsigned hw.1 hw.2
  · rw [hfi]; exact toSigned_toUnsigned hh.1 hh.2
  · rw [hfi]
    cases hr : capability.rawType <;> rw [hr] at hs <;> cases hs <;> rfl

/-- An ARGB request on a new device runs as RGB24. -/
theorem captureSettings_after_start_argb :
    (-2147483648 ≤ (640 : Int) ∧ (640 : Int) < 2147483648) ∧
      (-2147483648 ≤ (480 : Int) ∧ (480 : Int) < 2147483648) ∧
      (⟨some CaptureDevice.create⟩ : VideoCaptureWinRT).startCapture (fun _ => 30)
          ⟨640, 480, 30, .kVideoARGB⟩ ⟨.ok, .ok, .ok⟩ =
        some (⟨some ⟨true, true, ⟨640, 480, 30, .kVideoRGB24⟩⟩⟩, .ok 0) ∧
      ∃ d, (⟨some ⟨true, true, ⟨640, 480, 30, .kVideoRGB24⟩⟩⟩ : VideoCaptureWinRT).device = some d ∧
        d.captureStarted = true ∧ d.frameInfo.width = 640 ∧ d.frameInfo.height = 480 ∧
        d.frameInfo.rawType = .kVideoRGB24 :=
  ⟨by decide, by decide, rfl,
    @captureSettings_after_start (fun _ => 30) ⟨640, 480, 30, .kVideoARGB⟩ ⟨.ok, .ok, .ok⟩
      ⟨some CaptureDevice.create⟩ ⟨some ⟨true, true, ⟨640, 480, 30, .kVideoRGB24⟩⟩⟩
      (by decide) (by decide) rfl⟩

/-- A started device has a media sink. -/
def CaptureDevice.SinkOk (d : CaptureDevice) : Prop := d.captureStarted = true → d.mediaSink = true

/-- `CleanupSink()` on a device that has its sink while started leaves no
sink and no capture. -/
theorem CaptureDevice.cleanupSink_stopped {d : CaptureDevice} (h : d.SinkOk) :
    d.cleanupSink.mediaSink = false ∧ d.cleanupSink.captureStarted = false := by
  unfold CaptureDevice.cleanupSink
  cases hs : d.mediaSink
  · cases hc : d.captureStarted
    · simp [hs, hc]
    · exact absurd (h hc) (by simp [hs])
  · simp

/-- `CleanupSink()` keeps a started device's sink. -/
theorem CaptureDevice.cleanupSink_sinkOk {d : CaptureDevice} (h : d.SinkOk) :
    d.cleanupSink.SinkOk := fun hs => absurd hs (by simp [(CaptureDevice.cleanupSink_stopped h).2])

/-- The end of the start chain keeps the sink the start made. -/
theorem CaptureDevice.startRecord_sinkOk {d : CaptureDevice} (h : d.mediaSink = true)
    (a : AsyncResult) : (d.startRecord a).1.SinkOk := by
  cases a <;> simp [CaptureDevice.startRecord, CaptureDevice.SinkOk, CaptureDevice.cleanupSink, h]

/-- A device start keeps a started device's sink. -/
theorem CaptureDevice.startCapture_sinkOk {d : CaptureDevice} (h : d.SinkOk)
    (video : VideoEncodingProperties) (ans : StartAnswers) :
    (d.startCapture propFps video ans).1.SinkOk := by
  have hr := CaptureDevice.startRecord_sinkOk
    (d := { d.cleanupSink with
      frameInfo := CaptureDevice.frameInfoOf propFps video
      mediaSink := true }) rfl ans.startRecordToCustomSinkAsync
  unfold CaptureDevice.startCapture
  split_ifs
  · exact h
  · dsimp only
    split <;> (try split) <;> first | exact hr | exact fun _ => rfl

/-- A device stop keeps a started device's sink. -/
theorem CaptureDevice.stopCapture_sinkOk {d : CaptureDevice} (h : d.SinkOk) (a : AsyncResult) :
    (d.stopCapture a).1.SinkOk := by
  unfold CaptureDevice.stopCapture
  split
  · exact h
  · split <;> first | exact h | exact CaptureDevice.cleanupSink_sinkOk h

/-- Every device a `VideoCaptureWinRT` holds has its sink while started. -/
def SinkInv (v : VideoCaptureWinRT) : Prop := ∀ d ∈ v.device, d.SinkOk

/-- `OnCaptureDeviceFailed` keeps every held device's sink. -/
theorem SinkInv.onCaptureDeviceFailed {v : VideoCaptureWinRT} (h : SinkInv v) (a : AsyncResult) :
    SinkInv (v.onCaptureDeviceFailed a).1 := by
  unfold VideoCaptureWinRT.onCaptureDeviceFailed
  split
  · rename_i d₀ hd₀
    split
    · rintro d hd
      cases Option.mem_def.mp hd
      exact CaptureDevice.stopCapture_sinkOk (h d₀ hd₀) a
    · exact h
  · exact h

/-- Each call keeps every held device's sink. -/
theorem SinkInv.step {v : VideoCaptureWinRT} (h : SinkInv v) {c : Call}
    {r : VideoCaptureWinRT × Except Fault Int} (hs : v.step propFps c = some r) : SinkInv r.1 := by
  cases c with
  | init nameTooLong found =>
    simp only [VideoCaptureWinRT.step, VideoCaptureWinRT.init, Option.some.injEq] at hs
    subst hs
    split_ifs
    · exact h
    · intro d hd
      cases Option.mem_def.mp hd
      simp [CaptureDevice.SinkOk, CaptureDevice.create]
    · exact h
  | startCapture capability ans =>
    rw [VideoCaptureWinRT.step, VideoCaptureWinRT.startCapture] at hs
    split at hs
    · cases hs; exact h
    · obtain ⟨d₀, hd₀, rfl⟩ := Option.map_eq_some'.mp hs
      rintro d hd
      cases Option.mem_def.mp hd
      exact CaptureDevice.startCapture_sinkOk propFps (h d₀ hd₀) _ _
  | stopCapture a =>
    obtain ⟨d₀, hd₀, rfl⟩ := Option.map_eq_some'.mp hs
    rintro d hd
    cases Option.mem_def.mp hd
    exact CaptureDevice.stopCapture_sinkOk (h d₀ hd₀) a
  | onCaptureDeviceFailed a =>
    cases hs
    exact h.onCaptureDeviceFailed a

/-- Every run keeps every held device's sink. -/
theorem SinkInv.run {v₀ : VideoCaptureWinRT} (h : SinkInv v₀) {calls : List Call}
    {v : VideoCaptureWinRT} (hr : v₀.run propFps calls = some v) : SinkInv v := by
  induction calls generalizing v₀ with
  | nil => cases hr; exact h
  | cons c cs ih =>
    obtain ⟨r, hs, hr⟩ := Option.bind_eq_some.mp hr
    split at hr
    · cases hr
    · exact ih (h.step propFps hs) hr

/-- A new `VideoCaptureWinRT` holds no device. -/
theorem sinkInv_create : SinkInv VideoCaptureWinRT.create := fun _ hd => nomatch hd

/-- Over every run of `Init`, `StartCapture`, `StopCapture` and failure
events, with any answers from the platform, a started capture device has its
media sink. -/
theorem started_capture_has_sink (calls : List Call) {v : VideoCaptureWinRT}
    (hr : VideoCaptureWinRT.create.run propFps calls = some v) :
    ∀ d ∈ v.device, d.captureStarted = true → d.mediaSink = true :=
  sinkInv_create.run propFps hr

/-- A started NV12 capture has its sink. -/
theorem started_capture_has_sink_after_start :
    VideoCaptureWinRT.create.run (fun _ => 30)
        [.init false true, .startCapture ⟨640, 480, 30, .kVideoNV12⟩ ⟨.ok, .ok, .ok⟩] =
      some ⟨some ⟨true, true, ⟨640, 480, 30, .kVideoNV12⟩⟩⟩ ∧
      ∀ d ∈ (⟨some ⟨true, true, ⟨640, 480, 30, .kVideoNV12⟩⟩⟩ : VideoCaptureWinRT).device,
        d.captureStarted = true → d.mediaSink = true :=
  ⟨by decide, started_capture_has_sink (fun _ => 30)
    [.init false true, .startCapture ⟨640, 480, 30, .kVideoNV12⟩ ⟨.ok, .ok, .ok⟩] (by decide)⟩

/-- A device stop on a started device fails exactly when `StopRecordAsync()`
does not succeed, on the call or in its operation. -/
theorem CaptureDevice.stopCapture_error_iff {d : CaptureDevice} (hs : d.captureStarted = true)
    (a : AsyncResult) : (d.stopCapture a).2 = .error .platform ↔ a ≠ .ok := by
  cases a <;> simp [CaptureDevice.stopCapture, hs]

/-- A device stop that returns normally leaves no capture running. -/
theorem CaptureDevice.stopCapture_ok_stopped {d : CaptureDevice} (h : d.SinkOk) {a : AsyncResult}
    (hok : (d.stopCapture a).2 = .ok ()) : (d.stopCapture a).1.captureStarted = false := by
  cases hs : d.captureStarted
  · simp [CaptureDevice.stopCapture, hs] at hok
  · cases a <;>
      simp [CaptureDevice.stopCapture, hs, (CaptureDevice.cleanupSink_stopped h).2] at hok ⊢

/-- Over every run from the constructor, `OnCaptureDeviceFailed` lets an
exception escape exactly when a capture was running and stopping it failed,
on the call or in its operation; in that case `StopCapture` would have
returned `-1`. When nothing escapes, no capture is left running. -/
theorem onCaptureDeviceFailed_escapes_iff (calls : List Call) {v : VideoCaptureWinRT}
    (hr : VideoCaptureWinRT.create.run propFps calls = some v) (a : AsyncResult) :
    ((v.onCaptureDeviceFailed a).2 = .error .platform ↔
        (∃ d ∈ v.device, d.captureStarted = true) ∧ a ≠ .ok) ∧
      ((v.onCaptureDeviceFailed a).2 = .error .platform →
        (v.stopCapture a).map Prod.snd = some (.ok (-1))) ∧
      ((v.onCaptureDeviceFailed a).2 = .ok () →
        ∀ d ∈ (v.onCaptureDeviceFailed a).1.device, d.captureStarted = false) := by
  have hinv : SinkInv v := sinkInv_create.run propFps hr
  unfold VideoCaptureWinRT.onCaptureDeviceFailed VideoCaptureWinRT.stopCapture
  cases hv : v.device with
  | none => simp [hv]
  | some d =>
    cases hs : d.captureStarted
    · simp [hv, hs]
    · simp only [hs, if_true, Option.mem_def, Option.some.injEq, exists_eq_left', true_and,
        Option.map_some']
      refine ⟨CaptureDevice.stopCapture_error_iff hs a, fun h => by rw [h]; rfl,
        fun hok d' hd' => ?_⟩
      cases hd'
      exact CaptureDevice.stopCapture_ok_stopped (hinv d hv) hok

/-- A started capture whose stop fails in its operation: the handler lets the
exception escape and `StopCapture` returns `-1`. -/
theorem onCaptureDeviceFailed_escapes_iff_started :
    VideoCaptureWinRT.create.run (fun _ => 30)
        [.init false true, .startCapture ⟨640, 480, 30, .kVideoNV12⟩ ⟨.ok, .ok, .ok⟩] =
      some ⟨some ⟨true, true, ⟨640, 480, 30, .kVideoNV12⟩⟩⟩ ∧
      ((⟨some ⟨true, true, ⟨640, 480, 30, .kVideoNV12⟩⟩⟩ : VideoCaptureWinRT).stopCapture
        .failsAsync).map Prod.snd = some (.ok (-1)) :=
  ⟨by decide, (onCaptureDeviceFailed_escapes_iff (fun _ => 30)
    [.init false true, .startCapture ⟨640, 480, 30, .kVideoNV12⟩ ⟨.ok, .ok, .ok⟩] (by decide)
    .failsAsync).2.1 rfl⟩

/-- After any run of calls from the constructor, the destructor lets an
exception escape, which ends the process, exactly when the device holds a
`MediaCapture`, its capture is started, and `StopRecordAsync()` throws on the
call. When instead the stop's operation fails, `Cleanup`'s continuation never
reads it, and the task library ends the process. In every other case the
destructor returns, and a device holding a `MediaCapture` is left with no sink
and no capture. -/
theorem destructor_escapes_iff (calls : List Call) {v : VideoCaptureWinRT}
    (hr : VideoCaptureWinRT.create.run propFps calls = some v) (mediaCapture : Bool)
    (a : AsyncResult) :
    ((v.destroy mediaCapture a).2 = .error .platform ↔
        (∃ d ∈ v.device, d.captureStarted = true) ∧ mediaCapture = true ∧ a = .throwsOnCall) ∧
      ((v.destroy mediaCapture a).2 = .error .unobservedTaskException ↔
        (∃ d ∈ v.device, d.captureStarted = true) ∧ mediaCapture = true ∧ a = .failsAsync) ∧
      ((v.destroy mediaCapture a).2 = .ok () ↔
        ¬((∃ d ∈ v.device, d.captureStarted = true) ∧ mediaCapture = true ∧ a ≠ .ok)) ∧
      ((v.destroy mediaCapture a).2 = .ok () → mediaCapture = true →
        ∀ d ∈ (v.destroy mediaCapture a).1, d.mediaSink = false ∧ d.captureStarted = false) := by
  have hinv : SinkInv v := sinkInv_create.run propFps hr
  unfold VideoCaptureWinRT.destroy
  cases hv : v.device with
  | none => simp
  | some d =>
    have hstop := CaptureDevice.cleanupSink_stopped (hinv d hv)
    unfold CaptureDevice.cleanup
    cases mediaCapture
    · simp
    · cases hs : d.captureStarted <;> cases a <;> simp [hs, hstop]

/-- A started capture whose stop fails in its operation: the destructor ends
the process through the task library. -/
theorem destructor_escapes_iff_started :
    VideoCaptureWinRT.create.run (fun _ => 30)
        [.init false true, .startCapture ⟨640, 480, 30, .kVideoNV12⟩ ⟨.ok, .ok, .ok⟩] =
      some ⟨some ⟨true, true, ⟨640, 480, 30, .kVideoNV12⟩⟩⟩ ∧
      (((⟨some ⟨true, true, ⟨640, 480, 30, .kVideoNV12⟩⟩⟩ : VideoCaptureWinRT).destroy true
          .failsAsync).2 = .error .unobservedTaskException ↔
        (∃ d ∈ (⟨some ⟨true, true, ⟨640, 480, 30, .kVideoNV12⟩⟩⟩ : VideoCaptureWinRT).device,
          d.captureStarted = true) ∧ true = true ∧ AsyncResult.failsAsync = .failsAsync) :=
  ⟨by decide, (destructor_escapes_iff (fun _ => 30)
    [.init false true, .startCapture ⟨640, 480, 30, .kVideoNV12⟩ ⟨.ok, .ok, .ok⟩] (by decide)
    true .failsAsync).2.1⟩

end WebRtcWinRT.CaptureLifecycle
