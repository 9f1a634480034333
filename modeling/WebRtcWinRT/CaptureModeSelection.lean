import Mathlib.Data.List.Basic
import Mathlib.Data.Prod.Lex
import Mathlib.Order.Basic

/-!
# Capture-mode selection in `VideoCaptureWinRT::StartCapture`

`StartCapture` maps the requested raw type to a media subtype, or returns
`-1`, and then scans the device's stream properties. Among those whose subtype
matches case-insensitively, it keeps the one with the smallest width
difference, then height difference, then frame-rate difference, replacing the
kept one only on a strict improvement. Each difference is computed as the code
computes it: the width and height in `unsigned int` arithmetic read back as
`int`, the frame rate through the float quotient the loop truncates, which is
a parameter here. When every difference stays below `INT_MAX`, the kept
property is the first in list order whose triple of differences is least
lexicographically, and none is kept exactly when no subtype matches.
-/

namespace WebRtcWinRT.CaptureModeSelection

/-- The values of `RawVideoType` that `video_capture_winrt.cc` names. -/
inductive RawVideoType
  | kVideoI420
  | kVideoYV12
  | kVideoYUY2
  | kVideoIYUV
  | kVideoARGB
  | kVideoRGB24
  | kVideoMJPEG
  | kVideoNV12
  | kVideoUnknown
  deriving DecidableEq, Repr

/-- The fields of `VideoCaptureCapability` that `StartCapture` reads. -/
structure VideoCaptureCapability where
  /-- `width`, an `int32_t`. -/
  width : Int
  /-- `height`, an `int32_t`. -/
  height : Int
  /-- `maxFPS`, an `int32_t`. -/
  maxFPS : Int
  /-- `rawType`. -/
  rawType : RawVideoType
  deriving DecidableEq, Repr

/-- The fields of a stream's `IVideoEncodingProperties` that the loop reads. -/
structure VideoEncodingProperties where
  /-- `Subtype`. -/
  subtype : String
  /-- `Width`, an `unsigned int`. -/
  width : UInt32
  /-- `Height`, an `unsigned int`. -/
  height : UInt32
  /-- `FrameRate->Numerator`. -/
  frameRateNumerator : UInt32
  /-- `FrameRate->Denominator`. -/
  frameRateDenominator : UInt32
  deriving DecidableEq, Repr

/-- `INT_MAX`. -/
def INT_MAX : Int := 2147483647

/-- The `switch` on `capability.rawType`: the `MediaEncodingSubtypes` string,
or `none` where `StartCapture` returns `-1`. -/
def subtypeOf : RawVideoType → Option String
  | .kVideoYV12 => some "YV12"
  | .kVideoYUY2 => some "YUY2"
  | .kVideoI420 | .kVideoIYUV => some "IYUV"
  | .kVideoRGB24 => some "RGB24"
  | .kVideoARGB => some "RGB24"
  | .kVideoMJPEG => some "MJPG"
  | .kVideoNV12 => some "NV12"
  | .kVideoUnknown => none

/-- `_wcsicmp(a, b) == 0`: equal after lowering the case of every character. -/
def wcsicmpEq (a b : String) : Bool := a.data.map Char.toLower == b.data.map Char.toLower

/-- An `int` converted to `unsigned int`. -/
def toUnsigned (x : Int) : UInt32 := UInt32.ofNat (x % 4294967296).toNat

/-- `static_cast<int>` of an `unsigned int`, two's complement. -/
def toSigned (x : UInt32) : Int := if x.toNat < 2147483648 then x.toNat else x.toNat - 4294967296

/-- `abs` of an `int`; `abs(INT_MIN)`, undefined in C, is `2 ^ 31` here,
above `INT_MAX`. -/
def cAbs (x : Int) : Int := x.natAbs

/-- `width_diff`: `abs(static_cast<int>(prop->Width - capability.width))`. -/
def widthDiff (capability : VideoCaptureCapability) (prop : VideoEncodingProperties) : Int :=
  cAbs (toSigned (prop.width - toUnsigned capability.width))

/-- `height_diff`: `abs(static_cast<int>(prop->Height - capability.height))`. -/
def heightDiff (capability : VideoCaptureCapability) (prop : VideoEncodingProperties) : Int :=
  cAbs (toSigned (prop.height - toUnsigned capability.height))

/-- `fps_diff`: `abs(prop_fps - capability.maxFPS)`, where `propFps prop` is
the loop's `prop_fps`, the float quotient `Numerator / Denominator` truncated
to `int`. -/
def fpsDiff (propFps : VideoEncodingProperties → Int) (capability : VideoCaptureCapability)
    (prop : VideoEncodingProperties) : Int :=
  cAbs (propFps prop - capability.maxFPS)

/-- The loop's variables: `video_encoding_properties` (`none` while null) and
the three minima. -/
structure Selection where
  /-- `video_encoding_properties`. -/
  videoEncodingProperties : Option VideoEncodingProperties
  /-- `min_width_diff`. -/
  minWidthDiff : Int
  /-- `min_height_diff`. -/
  minHeightDiff : Int
  /-- `min_fps_diff`. -/
  minFpsDiff : Int
  deriving DecidableEq, Repr

/-- The loop's variables before the first iteration. -/
def Selection.init : Selection := ⟨none, INT_MAX, INT_MAX, INT_MAX⟩

section Loop

variable (propFps : VideoEncodingProperties → Int) (capability : VideoCaptureCapability)
  (subtype : String)

/-- One iteration of the `for` loop over `streamProperties`. -/
def selectStep (st : Selection) (prop : VideoEncodingProperties) : Selection :=
  if !wcsicmpEq prop.subtype subtype then st
  else
    let width_diff := widthDiff capability prop
    let height_diff := heightDiff capability prop
    let fps_diff := fpsDiff propFps capability prop
    if width_diff < st.minWidthDiff then ⟨some prop, width_diff, height_diff, fps_diff⟩
    else if width_diff = st.minWidthDiff then
      if height_diff < st.minHeightDiff then
        { st with videoEncodingProperties := some prop, minHeightDiff := height_diff,
                  minFpsDiff := fps_diff }
      else if height_diff = st.minHeightDiff then
        if fps_diff < st.minFpsDiff then
          { st with videoEncodingProperties := some prop, minFpsDiff := fps_diff }
        else st
      else st
    else st

/-- The selection loop of `StartCapture` over the stream properties. -/
def selectionLoop (streamProperties : List VideoEncodingProperties) : Selection :=
  streamProperties.foldl (selectStep propFps capability subtype) Selection.init

end Loop

/-- `StartCapture(capability)` up to the call of `device_->StartCapture`:
`none` where it returns `-1`, otherwise the `video_encoding_properties` it
passes to the device. -/
def startCapture (propFps : VideoEncodingProperties → Int) (capability : VideoCaptureCapability)
    (streamProperties : List VideoEncodingProperties) : Option (Option VideoEncodingProperties) :=
  (subtypeOf capability.rawType).map fun subtype =>
    (selectionLoop propFps capability subtype streamProperties).videoEncodingProperties

/-- The triple of differences, ordered lexicographically. -/
def diffs (propFps : VideoEncodingProperties → Int) (capability : VideoCaptureCapability)
    (prop : VideoEncodingProperties) : Int ×ₗ Int ×ₗ Int :=
  toLex (widthDiff capability prop, toLex (heightDiff capability prop, fpsDiff propFps capability prop))

/-- The triple as exact integers, `|Width - capability.width|`,
`|Height - capability.height|` and `|prop_fps - capability.maxFPS|`, with no
`unsigned int` wrap: the order the claim about the loop is worded in. -/
def exactDiffs (propFps : VideoEncodingProperties → Int) (capability : VideoCaptureCapability)
    (prop : VideoEncodingProperties) : Int ×ₗ Int ×ₗ Int :=
  toLex ((((prop.width.toNat : Int) - capability.width).natAbs : Int),
    toLex ((((prop.height.toNat : Int) - capability.height).natAbs : Int),
      fpsDiff propFps capability prop))

/-- `p` is the first element of `l` whose key is least: strictly below the
keys before it, and at most the keys after it. -/
def IsFirstMinimum {α β : Type} [LT β] [LE β] (key : α → β) (l : List α) (p : α) : Prop :=
  ∃ pre post, l = pre ++ p :: post ∧ (∀ r ∈ pre, key p < key r) ∧ ∀ r ∈ post, key p ≤ key r

section FirstMinimum

variable {α β : Type} [LinearOrder β] {key : α → β}

/-- The one element of a singleton is its first minimum. -/
theorem isFirstMinimum_singleton (q : α) : IsFirstMinimum key [q] q :=
  ⟨[], [], rfl, by simp, by simp⟩

/-- The first minimum of a longer list: the new element when strictly
smaller, the old minimum otherwise. -/
theorem IsFirstMinimum.append_singleton {l : List α} {p : α} (h : IsFirstMinimum key l p)
    (q : α) : IsFirstMinimum key (l ++ [q]) (if key q < key p then q else p) := by
  obtain ⟨pre, post, rfl, hpre, hpost⟩ := h
  split
  · rename_i hq
    refine ⟨pre ++ p :: post, [], by simp, fun r hr => ?_, by simp⟩
    rcases List.mem_append.mp hr with hr | hr
    · exact hq.trans (hpre r hr)
    · rcases List.mem_cons.mp hr with rfl | hr
      · exact hq
      · exact hq.trans_le (hpost r hr)
  · rename_i hq
    refine ⟨pre, post ++ [q], by simp, hpre, fun r hr => ?_⟩
    rcases List.mem_append.mp hr with hr | hr
    · exact hpost r hr
    · rw [List.mem_singleton.mp hr]; exact not_lt.mp hq

/-- A first minimum's key is at most the key of every element of the list. -/
theorem IsFirstMinimum.le_of_mem {l : List α} {p r : α} (h : IsFirstMinimum key l p)
    (hr : r ∈ l) : key p ≤ key r := by
  obtain ⟨pre, post, rfl, hpre, hpost⟩ := h
  rcases List.mem_append.mp hr with hr | hr
  · exact (hpre r hr).le
  · rcases List.mem_cons.mp hr with rfl | hr
    · exact le_rfl
    · exact hpost r hr

end FirstMinimum

section Loop

variable {propFps : VideoEncodingProperties → Int} {capability : VideoCaptureCapability}
  {subtype : String}

/-- The loop's variables once `prop` is kept. -/
def kept (propFps : VideoEncodingProperties → Int) (capability : VideoCaptureCapability)
    (prop : VideoEncodingProperties) : Selection :=
  ⟨some prop, widthDiff capability prop, heightDiff capability prop, fpsDiff propFps capability prop⟩

/-- The nested comparisons of the loop are the lexicographic order. -/
theorem lex_lt_iff (w h f w' h' f' : Int) :
    toLex (w, toLex (h, f)) < toLex (w', toLex (h', f')) ↔
      w < w' ∨ w = w' ∧ (h < h' ∨ h = h' ∧ f < f') := by
  simp only [Prod.Lex.lt_iff]

/-- On a matching property, an iteration keeps it exactly when its
differences are lexicographically below the minima. -/
theorem selectStep_of_match (st : Selection) {prop : VideoEncodingProperties}
    (hm : wcsicmpEq prop.subtype subtype = true) :
    selectStep propFps capability subtype st prop =
      if diffs propFps capability prop <
          toLex (st.minWidthDiff, toLex (st.minHeightDiff, st.minFpsDiff))
      then kept propFps capability prop else st := by
  obtain ⟨v, mw, mh, mf⟩ := st
  simp only [diffs, lex_lt_iff]
  unfold selectStep kept
  simp only [hm, Bool.not_true, Bool.false_eq_true, if_false]
  rcases lt_trichotomy (widthDiff capability prop) mw with hw | rfl | hw
  · simp [hw]
  · rcases lt_trichotomy (heightDiff capability prop) mh with hh | rfl | hh
    · simp [hh]
    · by_cases hf : fpsDiff propFps capability prop < mf <;> simp [hf]
    · simp [hh.not_lt, hh.ne']
  · simp [hw.not_lt, hw.ne']

/-- A property of another subtype leaves the loop's variables as they are. -/
theorem selectStep_of_not_match (st : Selection) {prop : VideoEncodingProperties}
    (hm : wcsicmpEq prop.subtype subtype = false) :
    selectStep propFps capability subtype st prop = st := by
  simp [selectStep, hm]

/-- The loop skips what does not match: it is the loop over the matching
properties alone. -/
theorem selectionLoop_filter (streamProperties : List VideoEncodingProperties) (st : Selection) :
    streamProperties.foldl (selectStep propFps capability subtype) st =
      (streamProperties.filter fun p => wcsicmpEq p.subtype subtype).foldl
        (selectStep propFps capability subtype) st := by
  induction streamProperties generalizing st with
  | nil => rfl
  | cons p ps ih =>
    cases hm : wcsicmpEq p.subtype subtype
    · simp [List.filter_cons, hm, selectStep_of_not_match _ hm, ih]
    · simp [List.filter_cons, hm, ih]

/-- Over matching properties whose differences stay below `INT_MAX`, the
loop keeps nothing on no property, and otherwise the first lexicographic
minimum, with its differences as the minima. -/
theorem foldl_selectStep (l : List VideoEncodingProperties)
    (hm : ∀ p ∈ l, wcsicmpEq p.subtype subtype = true)
    (hlt : ∀ p ∈ l, widthDiff capability p < INT_MAX ∧ heightDiff capability p < INT_MAX ∧
      fpsDiff propFps capability p < INT_MAX) :
    (l = [] ∧ l.foldl (selectStep propFps capability subtype) Selection.init = Selection.init) ∨
      ∃ p, IsFirstMinimum (diffs propFps capability) l p ∧
        l.foldl (selectStep propFps capability subtype) Selection.init = kept propFps capability p := by
  induction l using List.reverseRecOn with
  | nil => exact .inl ⟨rfl, rfl⟩
  | append_singleton l q ih =>
    have hq := hm q (by simp)
    rw [List.foldl_append, List.foldl_cons, List.foldl_nil, selectStep_of_match _ hq]
    refine .inr ?_
    rcases ih (fun p hp => hm p (by simp [hp])) (fun p hp => hlt p (by simp [hp])) with
      ⟨rfl, hinit⟩ | ⟨p, hp, hkept⟩
    · obtain ⟨hw, -, -⟩ := hlt q (by simp)
      refine ⟨q, isFirstMinimum_singleton q, ?_⟩
      rw [hinit, if_pos]
      rw [diffs, lex_lt_iff]
      exact .inl hw
    · refine ⟨_, hp.append_singleton q, ?_⟩
      have hmins : toLex ((kept propFps capability p).minWidthDiff,
          toLex ((kept propFps capability p).minHeightDiff, (kept propFps capability p).minFpsDiff)) =
          diffs propFps capability p := rfl
      rw [hkept, hmins]
      exact (apply_ite (kept propFps capability) _ _ _).symm

end Loop

/-- For every list of stream properties and every capability with a supported
raw type whose differences stay below `INT_MAX` on the matching properties,
`StartCapture` hands the device the first matching property, in list order,
whose triple (width, height, frame-rate difference) is lexicographically
least, and hands it none exactly when no property's subtype matches. -/
theorem startCapture_first_minimum (propFps : VideoEncodingProperties → Int)
    (capability : VideoCaptureCapability) (streamProperties : List VideoEncodingProperties)
    {subtype : String} (hs : subtypeOf capability.rawType = some subtype)
    (hlt : ∀ p ∈ streamProperties, wcsicmpEq p.subtype subtype = true →
      widthDiff capability p < INT_MAX ∧ heightDiff capability p < INT_MAX ∧
        fpsDiff propFps capability p < INT_MAX) :
    ∃ selected, startCapture propFps capability streamProperties = some selected ∧
      (selected = none ↔ ∀ p ∈ streamProperties, wcsicmpEq p.subtype subtype = false) ∧
      ∀ p, selected = some p → IsFirstMinimum (diffs propFps capability)
        (streamProperties.filter fun p => wcsicmpEq p.subtype subtype) p := by
  refine ⟨(selectionLoop propFps capability subtype streamProperties).videoEncodingProperties,
    by simp [startCapture, hs], ?_⟩
  rw [selectionLoop, selectionLoop_filter]
  have hnil : streamProperties.filter (fun p => wcsicmpEq p.subtype subtype) = [] ↔
      ∀ p ∈ streamProperties, wcsicmpEq p.subtype subtype = false := by
    simp [List.filter_eq_nil_iff]
  rcases foldl_selectStep _ (fun p hp => (List.mem_filter.mp hp).2)
      (fun p hp => hlt p (List.mem_filter.mp hp).1 (List.mem_filter.mp hp).2) with
    ⟨hl, hinit⟩ | ⟨p, hp, hkept⟩
  · rw [hinit]
    exact ⟨iff_of_true rfl (hnil.mp hl), fun _ h => nomatch h⟩
  · rw [hkept]
    refine ⟨iff_of_false (nomatch ·) fun h => ?_, fun q hq => ?_⟩
    · obtain ⟨pre, post, hl, -, -⟩ := hp
      rw [hnil.mpr h] at hl
      simp at hl
    · cases hq
      exact hp

/-- Four modes, one of another subtype: the loop keeps the first NV12 mode closest to 640×480 at 30
fps. -/
theorem startCapture_first_minimum_nv12 :
    ∃ selected, startCapture (fun p => (p.frameRateNumerator.toNat / p.frameRateDenominator.toNat : Nat))
        ⟨640, 480, 30, .kVideoNV12⟩
        [⟨"YUY2", 640, 480, 30, 1⟩, ⟨"nv12", 1280, 720, 30, 1⟩, ⟨"NV12", 640, 480, 15, 1⟩,
        ⟨"NV12", 640, 480, 30, 1⟩] = some selected ∧
      (selected = none ↔ ∀ p ∈ ([⟨"YUY2", 640, 480, 30, 1⟩, ⟨"nv12", 1280, 720, 30, 1⟩, ⟨"NV12", 640, 480, 15, 1⟩,
        ⟨"NV12", 640, 480, 30, 1⟩] : List VideoEncodingProperties),
        wcsicmpEq p.subtype "NV12" = false) ∧
      ∀ p, selected = some p →
        IsFirstMinimum (diffs (fun p => (p.frameRateNumerator.toNat / p.frameRateDenominator.toNat : Nat))
          ⟨640, 480, 30, .kVideoNV12⟩)
        (([⟨"YUY2", 640, 480, 30, 1⟩, ⟨"nv12", 1280, 720, 30, 1⟩, ⟨"NV12", 640, 480, 15, 1⟩,
        ⟨"NV12", 640, 480, 30, 1⟩] : List VideoEncodingProperties).filter fun p => wcsicmpEq p.subtype "NV12") p :=
  startCapture_first_minimum _ _ _ rfl (by decide)

/-- The loop's width difference wraps in `unsigned int`. Asked for a width of
`INT_MIN`, with NV12 modes 640 and 1280 wide whose differences, as the loop
computes them, are all below `INT_MAX`, `StartCapture` hands the device the
1280-wide mode, which is not the first minimum of the exact differences:
the 640-wide mode is nearer to the requested width. -/
theorem startCapture_wraps_width_difference :
    (∀ p ∈ ([⟨"NV12", 640, 480, 30, 1⟩, ⟨"NV12", 1280, 480, 30, 1⟩] : List VideoEncodingProperties),
      wcsicmpEq p.subtype "NV12" = true →
        widthDiff ⟨-2147483648, 480, 30, .kVideoNV12⟩ p < INT_MAX ∧
          heightDiff ⟨-2147483648, 480, 30, .kVideoNV12⟩ p < INT_MAX ∧
          fpsDiff (fun p => (p.frameRateNumerator.toNat / p.frameRateDenominator.toNat : Nat))
            ⟨-2147483648, 480, 30, .kVideoNV12⟩ p < INT_MAX) ∧
      startCapture (fun p => (p.frameRateNumerator.toNat / p.frameRateDenominator.toNat : Nat))
          ⟨-2147483648, 480, 30, .kVideoNV12⟩
          [⟨"NV12", 640, 480, 30, 1⟩, ⟨"NV12", 1280, 480, 30, 1⟩] =
        some (some ⟨"NV12", 1280, 480, 30, 1⟩) ∧
      ¬ IsFirstMinimum
        (exactDiffs (fun p => (p.frameRateNumerator.toNat / p.frameRateDenominator.toNat : Nat))
          ⟨-2147483648, 480, 30, .kVideoNV12⟩)
        (([⟨"NV12", 640, 480, 30, 1⟩, ⟨"NV12", 1280, 480, 30, 1⟩] : List VideoEncodingProperties).filter
          fun p => wcsicmpEq p.subtype "NV12")
        ⟨"NV12", 1280, 480, 30, 1⟩ := by
  refine ⟨by decide, by decide, fun h => ?_⟩
  have hle := h.le_of_mem (r := ⟨"NV12", 640, 480, 30, 1⟩) (by decide)
  simp only [exactDiffs, Prod.Lex.le_iff] at hle
  revert hle
  decide

end WebRtcWinRT.CaptureModeSelection
