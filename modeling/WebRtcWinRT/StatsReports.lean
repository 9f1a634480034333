import Mathlib
import WebRtcWinRT.StatsObserver

/-!
# The reports of `WebRTCStatsObserver::OnComplete`

On each turn of the polling chain `GetAllStats()` keeps the connection
health statistics of the last round as `conn_health_stats_prev`, resets
`conn_health_stats_` and asks `pci_` for stats, whose answer comes back as
`OnComplete(reports)`. For each report `OnComplete` writes ETW events when
ETW stats are on (for sessions, tracks, and the `ssrc` reports of a track of
a local or remote stream), records the values of candidate pairs into
`conn_health_stats_` when connection health stats are on, and collects the
report for `OnRTCStatsReportsReady` when RTC stats are on. At the end it
turns the byte counters into kbps against the previous round and hands the
statistics to `OnConnectionHealthStats`.

`ConnectionHealthStats` is declared in a header that is not among the
sources: its timestamp has the type `τ` of `StatsReport::timestamp()`, and
`static_cast<int64>(a - b)` of two timestamps is the parameter `elapsedMs`,
`none` where the cast is undefined. Where the code reads a value as a type
it does not have, or where its `int64` arithmetic overflows or divides by
zero, the model answers `none`. Each `OnComplete` is one step, reading the
flags of the observer as they are at that step.
-/

namespace WebRtcWinRT.StatsReports

open StatsObserver

/-- `StatsReport::StatsType`: the four types `OnComplete` tests, and the rest. -/
inductive StatsType
  | session
  | track
  | ssrc
  | candidatePair
  /-- Any other type. -/
  | other
  deriving DecidableEq, Repr

/-- `StatsReport::StatsValueName`: the names `OnComplete` reads, and the rest. -/
inductive StatsValueName
  | activeConnection
  | bytesReceived
  | bytesSent
  | rtt
  | remoteCandidateType
  | localCandidateType
  | trackId
  /-- Any other name, by its place in the enumeration. -/
  | other (n : Nat)
  deriving DecidableEq, Repr

/-- `StatsReport::Value`: its type and the payload of that type. -/
inductive Value
  | int (v : Int)
  | int64 (v : Int)
  /-- A `float`, by its bits. -/
  | float (bits : UInt32)
  | bool (b : Bool)
  | staticString (s : String)
  | string (s : String)
  /-- A `kId` value. -/
  | id (s : String)
  deriving DecidableEq, Repr

namespace Value

/-- `bool_val()`; `none` on a value of another type, whose union it would
read at the wrong member. -/
def boolVal : Value → Option Bool
  | .bool b => some b
  | _ => none

/-- `int64_val()`; `none` on a value of another type. -/
def int64Val : Value → Option Int
  | .int64 v => some v
  | _ => none

/-- `string_val()`; `none` on a value of another type. -/
def stringVal : Value → Option String
  | .string s => some s
  | _ => none

/-- The value has the type `OnComplete` reads a value of this name as. -/
def HasTypeFor : StatsValueName → Value → Bool
  | .activeConnection, .bool _ => true
  | .bytesReceived, .int64 _ | .bytesSent, .int64 _ | .rtt, .int64 _ => true
  | .remoteCandidateType, .string _ | .localCandidateType, .string _ | .trackId, .string _ => true
  | .other _, _ => true
  | _, _ => false

end Value

/-- The parts of a `StatsReport` that `OnComplete` reads. -/
structure StatsReport (τ : Type) where
  /-- `id()->ToString()`, the stat group name. -/
  id : String
  /-- `id()->type()`. -/
  type : StatsType
  /-- `timestamp()`. -/
  timestamp : τ
  /-- `values()`, in the order the loops visit them. -/
  values : List (StatsValueName × Value)
  deriving DecidableEq, Repr

/-- `ConnectionHealthStats`. -/
structure ConnectionHealthStats (τ : Type) where
  timestamp : τ
  receivedBytes : Int
  receivedKbps : Int
  sentBytes : Int
  sentKbps : Int
  rtt : Int
  localCandidateType : String
  remoteCandidateType : String
  deriving DecidableEq, Repr

/-- What `OnComplete` asks the platform: the ids of the tracks of `pci_`'s
local and remote streams, `GetMemUsage()`, and the `float` that the `double`
of `GetCPUUsage()` becomes, by its bits. -/
structure Platform where
  trackIds : List String
  memUsage : Int
  cpuUsage : UInt32
  deriving DecidableEq, Repr

/-- What `OnComplete` hands out. -/
inductive Output (τ : Type)
  /-- `EventWriteStatsReport*(stat_group_name, timestamp, stat_name, value)`. -/
  | statsReport (group : String) (timestamp : τ) (name : StatsValueName) (value : Value)
  /-- `EventWriteStatsReportInt64(stat_group_name, timestamp, "MemUsage", memUsage)`. -/
  | memUsage (group : String) (timestamp : τ) (memUsage : Int)
  /-- `EventWriteStatsReportFloat(stat_group_name, timestamp, "CPUUsage", cpuUsage)`. -/
  | cpuUsage (group : String) (timestamp : τ) (cpuUsage : UInt32)
  /-- `OnRTCStatsReportsReady(rtcStatsReports)`. -/
  | rtcStatsReportsReady (reports : List (StatsReport τ))
  /-- `OnConnectionHealthStats(conn_health_stats_)`. -/
  | connectionHealthStats (stats : ConnectionHealthStats τ)
  deriving DecidableEq, Repr

/-- `conn_health_stats_` and `conn_health_stats_prev`. -/
structure Health (τ : Type) where
  connHealthStats : ConnectionHealthStats τ
  connHealthStatsPrev : ConnectionHealthStats τ
  deriving DecidableEq, Repr

section Model

variable {τ : Type}

/-- `FindValue(name)`: the value of that name. -/
def StatsReport.findValue (r : StatsReport τ) (name : StatsValueName) : Option Value :=
  (r.values.find? (·.1 == name)).map (·.2)

/-- Whether the report goes to the ETW plugin: sessions and tracks, and the
`ssrc` reports whose `TrackId` names a track of a local or remote stream. -/
def sendToEtwPlugin (trackIds : List String) (r : StatsReport τ) : Option Bool :=
  match r.type with
  | .session | .track => some true
  | .ssrc =>
    match r.findValue .trackId with
    | some v => v.stringVal.map fun id => decide (id ∈ trackIds)
    | none => some false
  | _ => some false

/-- The event the `switch` on the value's type writes; none for a `kId`. -/
def valueEvent (r : StatsReport τ) (nv : StatsValueName × Value) : Option (Output τ) :=
  match nv.2 with
  | .id _ => none
  | v => some (.statsReport r.id r.timestamp nv.1 v)

/-- The events written for a report sent to the ETW plugin: one per value,
then `MemUsage` and `CPUUsage`. -/
def etwEvents (p : Platform) (r : StatsReport τ) : List (Output τ) :=
  r.values.filterMap (valueEvent r) ++
    [.memUsage r.id r.timestamp p.memUsage, .cpuUsage r.id r.timestamp p.cpuUsage]

/-- The loop over the values of a candidate pair: an `ActiveConnection` that
is `false` breaks it; the byte counters are recorded with the report's
timestamp, the round-trip time and candidate types without it. -/
def candidatePairLoop (timestamp : τ) :
    List (StatsValueName × Value) → ConnectionHealthStats τ → Option (ConnectionHealthStats τ)
  | [], s => some s
  | (name, v) :: vs, s =>
    match name with
    | .activeConnection =>
      v.boolVal.bind fun b => if b then candidatePairLoop timestamp vs s else some s
    | .bytesReceived => v.int64Val.bind fun x =>
      candidatePairLoop timestamp vs { s with timestamp := timestamp, receivedBytes := x }
    | .bytesSent => v.int64Val.bind fun x =>
      candidatePairLoop timestamp vs { s with timestamp := timestamp, sentBytes := x }
    | .rtt => v.int64Val.bind fun x => candidatePairLoop timestamp vs { s with rtt := x }
    | .remoteCandidateType => v.stringVal.bind fun x =>
      candidatePairLoop timestamp vs { s with remoteCandidateType := x }
    | .localCandidateType => v.stringVal.bind fun x =>
      candidatePairLoop timestamp vs { s with localCandidateType := x }
    | _ => candidatePairLoop timestamp vs s

/-- The ETW part of one turn of the loop over `reports`: the events written. -/
def writeEtw (o : WebRTCStatsObserver) (p : Platform) (r : StatsReport τ) :
    Option (List (Output τ)) :=
  if o.etwStatsEnabled then
    (sendToEtwPlugin p.trackIds r).map fun send => if send then etwEvents p r else []
  else some []

/-- The connection-health part of one turn: with connection health stats on
and an observer set, a candidate pair's values are recorded. -/
def recordHealth (o : WebRTCStatsObserver) (cur : ConnectionHealthStats τ) (r : StatsReport τ) :
    Option (ConnectionHealthStats τ) :=
  if o.connHealthStatsEnabled && o.webrtcStatsObserverWinrt && r.type == .candidatePair then
    candidatePairLoop r.timestamp r.values cur
  else some cur

/-- One turn of the loop over `reports`: the ETW events it writes, and
`conn_health_stats_` after it. -/
def onReport (o : WebRTCStatsObserver) (p : Platform) (cur : ConnectionHealthStats τ)
    (r : StatsReport τ) : Option (ConnectionHealthStats τ × List (Output τ)) :=
  (writeEtw o p r).bind fun events => (recordHealth o cur r).map fun cur => (cur, events)

/-- The loop over `reports`. -/
def reportLoop (o : WebRTCStatsObserver) (p : Platform) :
    ConnectionHealthStats τ → List (StatsReport τ) →
      Option (ConnectionHealthStats τ × List (Output τ))
  | cur, [] => some (cur, [])
  | cur, r :: rs => (onReport o p cur r).bind fun x =>
    (reportLoop o p x.1 rs).map fun y => (y.1, x.2 ++ y.2)

/-- Whether `x` fits `int64`. -/
def inInt64 (x : Int) : Bool := decide (-9223372036854775808 ≤ x ∧ x ≤ 9223372036854775807)

/-- `8 * 1000 * (bytes - prevBytes) / time_elapsed_ms / 1024` in `int64`;
`none` where a step overflows or divides by zero. -/
def kbps (bytes prevBytes timeElapsedMs : Int) : Option Int :=
  let diff := bytes - prevBytes
  let scaled := 8 * 1000 * diff
  if inInt64 diff && inInt64 scaled && timeElapsedMs != 0 &&
      inInt64 (scaled.tdiv timeElapsedMs) then
    some ((scaled.tdiv timeElapsedMs).tdiv 1024)
  else none

variable [Zero τ]

/-- `ConnectionHealthStats()` and `Reset()`: everything zero or empty. -/
def ConnectionHealthStats.reset : ConnectionHealthStats τ := ⟨0, 0, 0, 0, 0, 0, "", ""⟩

/-- The constructor's statistics. -/
def Health.init : Health τ := ⟨.reset, .reset⟩

/-- `GetAllStats()`, up to its `GetStats` call, whose answer is a later
`OnComplete`. -/
def getAllStats (o : WebRTCStatsObserver) (h : Health τ) : Health τ :=
  if o.connHealthStatsEnabled then ⟨.reset, h.connHealthStats⟩ else h

variable [DecidableEq τ] (elapsedMs : τ → τ → Option Int)

/-- The end of `OnComplete` for connection health: against a previous round
with a timestamp, when the timestamp moved, a byte counter that rose is
turned into kbps. -/
def updateRates (prev cur : ConnectionHealthStats τ) : Option (ConnectionHealthStats τ) :=
  if prev.timestamp ≠ 0 ∧ cur.timestamp ≠ prev.timestamp then
    (elapsedMs cur.timestamp prev.timestamp).bind fun timeElapsedMs =>
      let sent := if prev.sentBytes < cur.sentBytes then
          (kbps cur.sentBytes prev.sentBytes timeElapsedMs).map fun k => { cur with sentKbps := k }
        else some cur
      sent.bind fun cur =>
        if prev.receivedBytes < cur.receivedBytes then
          (kbps cur.receivedBytes prev.receivedBytes timeElapsedMs).map
            fun k => { cur with receivedKbps := k }
        else some cur
  else some cur

/-- `OnComplete(reports)`: the statistics after it and what it hands out, in
order; `none` where its behaviour is undefined. -/
def onComplete (o : WebRTCStatsObserver) (p : Platform) (h : Health τ)
    (reports : List (StatsReport τ)) : Option (Health τ × List (Output τ)) :=
  (reportLoop o p h.connHealthStats reports).bind fun x =>
    let rtcStatsReports := if o.rtcStatsEnabled && o.webrtcStatsObserverWinrt then reports else []
    let rtcOut := if rtcStatsReports.isEmpty then [] else [Output.rtcStatsReportsReady rtcStatsReports]
    if o.connHealthStatsEnabled && o.webrtcStatsObserverWinrt then
      (updateRates elapsedMs h.connHealthStatsPrev x.1).map fun cur =>
        (⟨cur, h.connHealthStatsPrev⟩, x.2 ++ rtcOut ++ [.connectionHealthStats cur])
    else some (⟨x.1, h.connHealthStatsPrev⟩, x.2 ++ rtcOut)

end Model

section Assumptions

variable {τ : Type}

/-- Every value of the report has the type `OnComplete` reads it as. -/
def StatsReport.WellTyped (r : StatsReport τ) : Prop :=
  ∀ nv ∈ r.values, Value.HasTypeFor nv.1 nv.2 = true

instance : DecidablePred (StatsReport.WellTyped (τ := τ)) :=
  fun r => inferInstanceAs (Decidable (∀ nv ∈ r.values, _))

/-- A byte counter the rate computation can take: not negative, and eight
thousand times it fits `int64`. -/
def BytesFit (x : Int) : Prop := 0 ≤ x ∧ 8000 * x ≤ 9223372036854775807

instance : DecidablePred BytesFit := fun _ => inferInstanceAs (Decidable (_ ∧ _))

/-- A zero counter fits. -/
theorem bytesFit_zero : BytesFit 0 := by decide

/-- The byte counters of the report fit the rate computation. -/
def StatsReport.CountersFit (r : StatsReport τ) : Prop :=
  ∀ nv ∈ r.values, nv.1 = .bytesReceived ∨ nv.1 = .bytesSent → ∀ x ∈ nv.2.int64Val, BytesFit x

instance : DecidablePred (StatsReport.CountersFit (τ := τ)) :=
  fun r => inferInstanceAs (Decidable (∀ nv ∈ r.values, _))

/-- Statistics whose timestamp is one of `ts` and whose byte counters fit. -/
structure StatsFit (ts : List τ) (s : ConnectionHealthStats τ) : Prop where
  timestamp : s.timestamp ∈ ts
  sent : BytesFit s.sentBytes
  received : BytesFit s.receivedBytes

/-- Both statistics of the observer fit. -/
structure HealthFit (ts : List τ) (h : Health τ) : Prop where
  cur : StatsFit ts h.connHealthStats
  prev : StatsFit ts h.connHealthStatsPrev

/-- Any two different timestamps of `ts` are a defined and non-zero number
of milliseconds apart, as `static_cast<int64>` of their difference. -/
def Separated (elapsedMs : τ → τ → Option Int) (ts : List τ) : Prop :=
  ∀ a ∈ ts, ∀ b ∈ ts, a ≠ b → ∃ e, elapsedMs a b = some e ∧ e ≠ 0

end Assumptions

section Lemmas

variable {τ : Type}

/-- The statistics handed to `OnConnectionHealthStats`, in order. -/
def healthReports (os : List (Output τ)) : List (ConnectionHealthStats τ) :=
  os.filterMap fun
    | .connectionHealthStats s => some s
    | _ => none

/-- The health reports of two stretches of output, in order. -/
@[simp] theorem healthReports_append (xs ys : List (Output τ)) :
    healthReports (xs ++ ys) = healthReports xs ++ healthReports ys := List.filterMap_append _ _ _

/-- A `ConnectionHealthStats` output is one health report. -/
@[simp] theorem healthReports_connectionHealthStats (s : ConnectionHealthStats τ) :
    healthReports [.connectionHealthStats s] = [s] := rfl

/-- The ETW events of a report hold no health report. -/
theorem healthReports_etwEvents (p : Platform) (r : StatsReport τ) :
    healthReports (etwEvents p r) = [] := by
  refine List.filterMap_eq_nil_iff.mpr fun o ho => ?_
  rcases List.mem_append.mp ho with ho | ho
  · obtain ⟨nv, -, hv⟩ := List.mem_filterMap.mp ho
    unfold valueEvent at hv
    split at hv
    · cases hv
    · cases hv; rfl
  · rcases List.mem_pair.mp ho with rfl | rfl <;> rfl

namespace Value

/-- A well-typed `ActiveConnection` value is a `bool`. -/
theorem eq_bool_of_hasTypeFor {v : Value} (h : HasTypeFor .activeConnection v = true) :
    ∃ b, v = .bool b := by
  cases v <;> simp_all [HasTypeFor]

/-- A well-typed byte count or round-trip time is an `int64`. -/
theorem eq_int64_of_hasTypeFor {name : StatsValueName} {v : Value}
    (hname : name = .bytesReceived ∨ name = .bytesSent ∨ name = .rtt)
    (h : HasTypeFor name v = true) : ∃ x, v = .int64 x := by
  rcases hname with rfl | rfl | rfl <;> cases v <;> simp_all [HasTypeFor]

/-- A well-typed candidate type or track id is a string. -/
theorem eq_string_of_hasTypeFor {name : StatsValueName} {v : Value}
    (hname : name = .remoteCandidateType ∨ name = .localCandidateType ∨ name = .trackId)
    (h : HasTypeFor name v = true) : ∃ x, v = .string x := by
  rcases hname with rfl | rfl | rfl <;> cases v <;> simp_all [HasTypeFor]

end Value

/-- On a well-typed report, the ETW part is defined, and writes no
connection health statistics. -/
theorem writeEtw_eq (o : WebRTCStatsObserver) (p : Platform) {r : StatsReport τ}
    (hr : r.WellTyped) : ∃ events, writeEtw o p r = some events ∧ healthReports events = [] := by
  have hsend : ∃ b, sendToEtwPlugin p.trackIds r = some b := by
    unfold sendToEtwPlugin
    split <;> try exact ⟨_, rfl⟩
    split
    · rename_i v hv
      obtain ⟨nv, hfind, rfl⟩ := Option.map_eq_some'.mp hv
      have hname : nv.1 = .trackId := by simpa using List.find?_some hfind
      obtain ⟨x, hx⟩ := Value.eq_string_of_hasTypeFor (.inr (.inr hname))
        (hr nv (List.mem_of_find?_eq_some hfind))
      exact ⟨_, by rw [hx]; rfl⟩
    · exact ⟨false, rfl⟩
  obtain ⟨b, hb⟩ := hsend
  unfold writeEtw
  split
  · refine ⟨_, by rw [hb]; rfl, ?_⟩
    dsimp only
    split
    · exact healthReports_etwEvents p r
    · rfl
  · exact ⟨[], rfl, rfl⟩

/-- On a well-typed report, a turn of the loop is its connection-health part,
with events that hold no connection health statistics. -/
theorem onReport_eq (o : WebRTCStatsObserver) (p : Platform) (cur : ConnectionHealthStats τ)
    {r : StatsReport τ} (hr : r.WellTyped) :
    ∃ events, healthReports events = [] ∧
      onReport o p cur r = (recordHealth o cur r).map fun c => (c, events) := by
  obtain ⟨events, he, hh⟩ := writeEtw_eq o p hr
  exact ⟨events, hh, by rw [onReport, he, Option.some_bind]⟩

/-- Over well-typed values with counters that fit, the candidate-pair loop is
defined, and keeps the statistics fitting when the report's timestamp is
one of `ts`. -/
theorem candidatePairLoop_fit {ts : List τ} {t : τ} (ht : t ∈ ts) :
    ∀ {vs : List (StatsValueName × Value)} {s : ConnectionHealthStats τ},
      (∀ nv ∈ vs, Value.HasTypeFor nv.1 nv.2 = true) →
      (∀ nv ∈ vs, nv.1 = .bytesReceived ∨ nv.1 = .bytesSent → ∀ x ∈ nv.2.int64Val, BytesFit x) →
      StatsFit ts s → ∃ s', candidatePairLoop t vs s = some s' ∧ StatsFit ts s'
  | [], s, _, _, hs => ⟨s, rfl, hs⟩
  | (name, v) :: vs, s, htyped, hbytes, hs => by
    have hv := htyped _ (List.mem_cons_self _ _)
    have hb := hbytes _ (List.mem_cons_self _ _)
    have ih : ∀ {s}, StatsFit ts s → ∃ s', candidatePairLoop t vs s = some s' ∧ StatsFit ts s' :=
      candidatePairLoop_fit ht (fun nv h => htyped nv (.tail _ h)) (fun nv h => hbytes nv (.tail _ h))
    cases name with
    | activeConnection =>
      obtain ⟨b, rfl⟩ := Value.eq_bool_of_hasTypeFor hv
      cases b
      · exact ⟨s, rfl, hs⟩
      · exact ih hs
    | bytesReceived =>
      obtain ⟨x, rfl⟩ := Value.eq_int64_of_hasTypeFor (.inl rfl) hv
      exact ih ⟨ht, hs.sent, hb (.inl rfl) x rfl⟩
    | bytesSent =>
      obtain ⟨x, rfl⟩ := Value.eq_int64_of_hasTypeFor (.inr (.inl rfl)) hv
      exact ih ⟨ht, hb (.inr rfl) x rfl, hs.received⟩
    | rtt =>
      obtain ⟨x, rfl⟩ := Value.eq_int64_of_hasTypeFor (.inr (.inr rfl)) hv
      exact ih ⟨hs.timestamp, hs.sent, hs.received⟩
    | remoteCandidateType =>
      obtain ⟨x, rfl⟩ := Value.eq_string_of_hasTypeFor (.inl rfl) hv
      exact ih ⟨hs.timestamp, hs.sent, hs.received⟩
    | localCandidateType =>
      obtain ⟨x, rfl⟩ := Value.eq_string_of_hasTypeFor (.inr (.inl rfl)) hv
      exact ih ⟨hs.timestamp, hs.sent, hs.received⟩
    | trackId => exact ih hs
    | other n => exact ih hs

/-- Over well-formed reports whose timestamps are among `ts`, the loop over
`reports` is defined and keeps the statistics fitting. -/
theorem reportLoop_fit (o : WebRTCStatsObserver) (p : Platform) {ts : List τ} :
    ∀ {rs : List (StatsReport τ)} {cur : ConnectionHealthStats τ},
      (∀ r ∈ rs, r.WellTyped ∧ r.CountersFit ∧ r.timestamp ∈ ts) → StatsFit ts cur →
      ∃ x, reportLoop o p cur rs = some x ∧ StatsFit ts x.1
  | [], cur, _, hs => ⟨(cur, []), rfl, hs⟩
  | r :: rs, cur, hrs, hs => by
    obtain ⟨hr, hc, ht⟩ := hrs r (List.mem_cons_self _ _)
    obtain ⟨events, -, he⟩ := onReport_eq o p cur hr
    have hrec : ∃ c, recordHealth o cur r = some c ∧ StatsFit ts c := by
      unfold recordHealth
      split
      · exact candidatePairLoop_fit ht hr hc hs
      · exact ⟨cur, rfl, hs⟩
    obtain ⟨c, hcq, hcs⟩ := hrec
    obtain ⟨y, hy, hys⟩ := reportLoop_fit o p (fun r' h => hrs r' (.tail _ h)) hcs
    exact ⟨(y.1, events ++ y.2), by rw [reportLoop, he, hcq]; simp [hy], hys⟩

/-- With counters that fit and a non-zero elapsed time, no step of the rate
computation overflows. -/
theorem kbps_eq_of_fit {bytes prevBytes e : Int} (hb : BytesFit bytes) (hp : BytesFit prevBytes)
    (he : e ≠ 0) :
    kbps bytes prevBytes e = some (((8 * 1000 * (bytes - prevBytes)).tdiv e).tdiv 1024) := by
  have hq : ((8 * 1000 * (bytes - prevBytes)).tdiv e).natAbs ≤
      (8 * 1000 * (bytes - prevBytes)).natAbs := by
    rw [Int.natAbs_tdiv]; exact Nat.div_le_self _ _
  unfold BytesFit at hb hp
  refine if_pos ?_
  simp only [inInt64, Bool.and_eq_true, decide_eq_true_eq, bne_iff_ne, ne_eq]
  omega

/-- With counters that fit and a non-zero elapsed time, the rate is defined. -/
theorem kbps_isSome {bytes prevBytes e : Int} (hb : BytesFit bytes) (hp : BytesFit prevBytes)
    (he : e ≠ 0) : ∃ k, kbps bytes prevBytes e = some k :=
  ⟨_, kbps_eq_of_fit hb hp he⟩

/-- No rate is computed over zero elapsed milliseconds. -/
theorem kbps_zero (bytes prevBytes : Int) : kbps bytes prevBytes 0 = none := by
  simp [kbps]

/-- Dividing twice by non-negative divisors is dividing once by their product. -/
theorem ediv_ediv_of_nonneg {a b c : Int} (ha : 0 ≤ a) (hb : 0 ≤ b) (hc : 0 ≤ c) :
    a / b / c = a / (c * b) := by
  lift a to ℕ using ha
  lift b to ℕ using hb
  lift c to ℕ using hc
  rw [mul_comm]
  exact_mod_cast Nat.div_div_eq_div_mul a b c

/-- Over counters that fit, the second above the first, and a positive
elapsed time, the rate is the kibibits per second, rounded down: the two
truncating divisions lose nothing against one. -/
theorem kbps_eq_div {bytes prevBytes e : Int} (hb : BytesFit bytes) (hp : BytesFit prevBytes)
    (hlt : prevBytes < bytes) (he : 0 < e) :
    kbps bytes prevBytes e = some (8000 * (bytes - prevBytes) / (1024 * e)) := by
  have ha : 0 ≤ 8 * 1000 * (bytes - prevBytes) := by omega
  rw [kbps_eq_of_fit hb hp he.ne', Int.tdiv_eq_ediv ha he.le,
    Int.tdiv_eq_ediv (Int.ediv_nonneg ha he.le) (by decide),
    ediv_ediv_of_nonneg ha he.le (by decide)]
  rfl

variable [Zero τ]

/-- `GetAllStats()` keeps the statistics fitting. -/
theorem getAllStats_fit {ts : List τ} (h0 : 0 ∈ ts) (o : WebRTCStatsObserver) {h : Health τ}
    (hh : HealthFit ts h) : HealthFit ts (getAllStats o h) := by
  unfold getAllStats
  split
  · exact ⟨⟨h0, bytesFit_zero, bytesFit_zero⟩, hh.cur⟩
  · exact hh

/-- With connection-health statistics on, `GetAllStats()` keeps the current statistics as the
previous round and resets the current ones. -/
theorem getAllStats_of_enabled {o : WebRTCStatsObserver} (hon : o.connHealthStatsEnabled = true)
    (h : Health τ) : getAllStats o h = ⟨.reset, h.connHealthStats⟩ :=
  if_pos hon

variable [DecidableEq τ] (elapsedMs : τ → τ → Option Int)

/-- With separated timestamps and counters that fit, the rate computation is
defined, and changes only the rates. -/
theorem updateRates_fit {ts : List τ} (hsep : Separated elapsedMs ts)
    {prev cur : ConnectionHealthStats τ} (hp : StatsFit ts prev) (hc : StatsFit ts cur) :
    ∃ cur', updateRates elapsedMs prev cur = some cur' ∧ StatsFit ts cur' := by
  unfold updateRates
  split
  · rename_i hcond
    obtain ⟨e, he, hne⟩ := hsep _ hc.timestamp _ hp.timestamp hcond.2
    rw [he, Option.some_bind]
    have hsent : ∃ c, (if prev.sentBytes < cur.sentBytes then
        (kbps cur.sentBytes prev.sentBytes e).map fun k => { cur with sentKbps := k }
        else some cur) = some c ∧ StatsFit ts c ∧ c.receivedBytes = cur.receivedBytes := by
      split
      · obtain ⟨k, hk⟩ := kbps_isSome hc.sent hp.sent hne
        exact ⟨{ cur with sentKbps := k }, by rw [hk]; rfl, ⟨hc.timestamp, hc.sent, hc.received⟩, rfl⟩
      · exact ⟨cur, rfl, hc, rfl⟩
    obtain ⟨c, hcq, hcs, hcr⟩ := hsent
    dsimp only
    rw [hcq, Option.some_bind]
    split
    · obtain ⟨k, hk⟩ := kbps_isSome (hcr ▸ hc.received) hp.received hne
      exact ⟨{ c with receivedKbps := k }, by rw [hk]; rfl,
        ⟨hcs.timestamp, hcs.sent, hcr ▸ hc.received⟩⟩
    · exact ⟨c, rfl, hcs⟩
  · exact ⟨cur, rfl, hc⟩

/-- Over counters that fit, the end of `OnComplete` is undefined exactly when
the previous round has a timestamp, the timestamp moved, and the elapsed
milliseconds are undefined, or are zero while a byte counter rose: a
timestamp less than a millisecond after the previous round's, with bytes
sent or received since, divides by zero. -/
theorem updateRates_eq_none_iff {prev cur : ConnectionHealthStats τ}
    (hps : BytesFit prev.sentBytes) (hpr : BytesFit prev.receivedBytes)
    (hcs : BytesFit cur.sentBytes) (hcr : BytesFit cur.receivedBytes) :
    updateRates elapsedMs prev cur = none ↔
      prev.timestamp ≠ 0 ∧ cur.timestamp ≠ prev.timestamp ∧
        (elapsedMs cur.timestamp prev.timestamp = none ∨
          elapsedMs cur.timestamp prev.timestamp = some 0 ∧
            (prev.sentBytes < cur.sentBytes ∨ prev.receivedBytes < cur.receivedBytes)) := by
  unfold updateRates
  by_cases hcond : prev.timestamp ≠ 0 ∧ cur.timestamp ≠ prev.timestamp
  · rw [if_pos hcond]
    simp only [hcond, ne_eq, not_false_eq_true, true_and]
    cases elapsedMs cur.timestamp prev.timestamp with
    | none => exact iff_of_true rfl (.inl rfl)
    | some e =>
      simp only [Option.some_bind, Option.some.injEq, reduceCtorEq, false_or]
      by_cases he : e = 0
      · subst he
        simp only [kbps_zero, Option.map_none', true_and]
        by_cases hs : prev.sentBytes < cur.sentBytes
        · simp only [hs, ite_true, Option.none_bind, true_or]
        · simp only [hs, ite_false, Option.some_bind, false_or]
          split <;> simp [*]
      · obtain ⟨ks, hks⟩ := kbps_isSome hcs hps he
        obtain ⟨kr, hkr⟩ := kbps_isSome hcr hpr he
        simp only [he, false_and, iff_false]
        split <;> simp only [hks, Option.map_some', Option.some_bind] <;> split <;> simp [hkr]
  · rw [if_neg hcond]
    exact iff_of_false (by simp) fun h => hcond ⟨h.1, h.2.1⟩

/-- Half a millisecond between two rounds truncates to no elapsed time, so no rate is computed. -/
theorem updateRates_eq_none_iff_half_millisecond :
    (updateRates (fun a b : Int => some ((a - b).tdiv 1000))
        ⟨1000000, 0, 0, 5000, 0, 0, "", ""⟩ ⟨1000500, 0, 0, 6000, 0, 0, "", ""⟩ = none ↔
      (1000000 : Int) ≠ 0 ∧ (1000500 : Int) ≠ 1000000 ∧
        (some (((1000500 : Int) - 1000000).tdiv 1000) = none ∨
          some (((1000500 : Int) - 1000000).tdiv 1000) = some 0 ∧
            ((5000 : Int) < 6000 ∨ (0 : Int) < 0))) :=
  updateRates_eq_none_iff _ (by decide) (by decide) (by decide) (by decide)

/-- When time moved forward by `e` milliseconds since a previous round with a
timestamp, over counters that fit, the rates `OnComplete` hands out are the
kibibits per second of each byte counter that rose, rounded down; a counter
that did not rise keeps its rate. Nothing overflows. -/
theorem updateRates_eq_kibibits {prev cur : ConnectionHealthStats τ}
    (hps : BytesFit prev.sentBytes) (hpr : BytesFit prev.receivedBytes)
    (hcs : BytesFit cur.sentBytes) (hcr : BytesFit cur.receivedBytes)
    (hts : prev.timestamp ≠ 0) (hmoved : cur.timestamp ≠ prev.timestamp) {e : Int}
    (he : elapsedMs cur.timestamp prev.timestamp = some e) (hpos : 0 < e) :
    updateRates elapsedMs prev cur = some { cur with
      sentKbps := if prev.sentBytes < cur.sentBytes then
        8000 * (cur.sentBytes - prev.sentBytes) / (1024 * e) else cur.sentKbps
      receivedKbps := if prev.receivedBytes < cur.receivedBytes then
        8000 * (cur.receivedBytes - prev.receivedBytes) / (1024 * e) else cur.receivedKbps } := by
  unfold updateRates
  rw [if_pos ⟨hts, hmoved⟩, he, Option.some_bind]
  by_cases hs : prev.sentBytes < cur.sentBytes <;>
    by_cases hr : prev.receivedBytes < cur.receivedBytes <;>
    simp only [hs, hr, ite_true, ite_false, kbps_eq_div hcs hps, kbps_eq_div hcr hpr, hpos,
      Option.map_some', Option.some_bind]

/-- Four thousand bytes sent in one second. -/
theorem updateRates_eq_kibibits_one_second :
    updateRates (fun a b : Int => some (a - b))
        ⟨1000, 0, 0, 5000, 0, 0, "", ""⟩ ⟨2000, 0, 0, 9000, 0, 0, "", ""⟩ =
      some { (⟨2000, 0, 0, 9000, 0, 0, "", ""⟩ : ConnectionHealthStats Int) with
        sentKbps := if (5000 : Int) < 9000 then 8000 * (9000 - 5000) / (1024 * 1000) else 0
        receivedKbps := if (0 : Int) < 0 then 8000 * (0 - 0) / (1024 * 1000) else 0 } :=
  updateRates_eq_kibibits _ (by decide) (by decide) (by decide) (by decide) (by decide)
    (by decide) rfl (by decide)

/-- Over well-formed reports whose timestamps are among `ts`, with `ts`
separated, `OnComplete` is defined and keeps both statistics fitting. -/
theorem onComplete_fit (o : WebRTCStatsObserver) (p : Platform) {ts : List τ}
    (hsep : Separated elapsedMs ts) {h : Health τ} (hh : HealthFit ts h)
    {reports : List (StatsReport τ)}
    (hrs : ∀ r ∈ reports, r.WellTyped ∧ r.CountersFit ∧ r.timestamp ∈ ts) :
    ∃ x, onComplete elapsedMs o p h reports = some x ∧ HealthFit ts x.1 := by
  obtain ⟨y, hy, hys⟩ := reportLoop_fit o p hrs hh.cur
  unfold onComplete
  rw [hy, Option.some_bind]
  dsimp only
  split
  · obtain ⟨c, hc, hcs⟩ := updateRates_fit elapsedMs hsep hh.prev hys
    exact ⟨_, by rw [hc]; rfl, ⟨hcs, hh.prev⟩⟩
  · exact ⟨_, rfl, ⟨hys, hh.prev⟩⟩

end Lemmas

section Counting

variable {τ : Type}

/-- The names the candidate-pair loop does nothing with. -/
def StatsValueName.ignored : StatsValueName → Bool
  | .trackId | .other _ => true
  | _ => false

/-- A candidate pair whose first value the loop acts on is an
`ActiveConnection` that is `false`. -/
def StatsReport.inactive (r : StatsReport τ) : Bool :=
  (r.values.dropWhile (·.1.ignored)).head? == some (.activeConnection, .bool false)

/-- A report that counts for connection health: a candidate pair that is
not inactive. -/
def StatsReport.countsForHealth (r : StatsReport τ) : Bool :=
  r.type == .candidatePair && !r.inactive

/-- An inactive candidate pair breaks the loop before it records anything. -/
theorem candidatePairLoop_of_inactive (t : τ) {vs : List (StatsValueName × Value)}
    (s : ConnectionHealthStats τ)
    (h : (vs.dropWhile (·.1.ignored)).head? = some (.activeConnection, .bool false)) :
    candidatePairLoop t vs s = some s := by
  induction vs with
  | nil => simp at h
  | cons nv vs ih =>
    obtain ⟨name, v⟩ := nv
    cases name with
    | activeConnection =>
      rw [List.dropWhile_cons_of_neg Bool.false_ne_true, List.head?_cons] at h
      cases h
      rfl
    | trackId => exact ih (by rwa [List.dropWhile_cons_of_pos rfl] at h)
    | other n => exact ih (by rwa [List.dropWhile_cons_of_pos rfl] at h)
    | _ => rw [List.dropWhile_cons_of_neg Bool.false_ne_true, List.head?_cons] at h; cases h

/-- A report that does not count for connection health leaves the
statistics as they are. -/
theorem recordHealth_of_not_counts (o : WebRTCStatsObserver) (cur : ConnectionHealthStats τ)
    {r : StatsReport τ} (hr : r.countsForHealth = false) : recordHealth o cur r = some cur := by
  unfold recordHealth
  split
  · rename_i hrec
    have hpair : r.type = .candidatePair := by simp only [Bool.and_eq_true, beq_iff_eq] at hrec; exact hrec.2
    have hin : r.inactive = true := by simpa [StatsReport.countsForHealth, hpair] using hr
    exact candidatePairLoop_of_inactive r.timestamp cur (by simpa [StatsReport.inactive] using hin)
  · rfl

/-- Writing a report's ETW events makes no health report. -/
theorem healthReports_of_writeEtw {o : WebRTCStatsObserver} {p : Platform} {r : StatsReport τ}
    {events : List (Output τ)} (h : writeEtw o p r = some events) : healthReports events = [] := by
  unfold writeEtw at h
  split at h
  · obtain ⟨send, -, rfl⟩ := Option.map_eq_some'.mp h
    split
    · exact healthReports_etwEvents p r
    · rfl
  · cases h; rfl

/-- The loop over `reports` hands no statistics to `OnConnectionHealthStats`. -/
theorem healthReports_of_reportLoop {o : WebRTCStatsObserver} {p : Platform} :
    ∀ {rs : List (StatsReport τ)} {cur : ConnectionHealthStats τ}
      {x : ConnectionHealthStats τ × List (Output τ)},
      reportLoop o p cur rs = some x → healthReports x.2 = []
  | [], _, _, h => by cases h; rfl
  | r :: rs, cur, x, h => by
    obtain ⟨y, hy, h⟩ := Option.bind_eq_some.mp h
    obtain ⟨z, hz, rfl⟩ := Option.map_eq_some'.mp h
    obtain ⟨events, he, hc⟩ := Option.bind_eq_some.mp hy
    obtain ⟨c, -, rfl⟩ := Option.map_eq_some'.mp hc
    simp [healthReports_of_writeEtw he, healthReports_of_reportLoop hz]

/-- The connection-health part of the loop over well-typed reports. -/
theorem reportLoop_map_fst_cons (o : WebRTCStatsObserver) (p : Platform)
    (cur : ConnectionHealthStats τ) {r : StatsReport τ} (hr : r.WellTyped)
    (rs : List (StatsReport τ)) :
    (reportLoop o p cur (r :: rs)).map (·.1) =
      (recordHealth o cur r).bind fun c => (reportLoop o p c rs).map (·.1) := by
  obtain ⟨events, -, he⟩ := onReport_eq o p cur hr
  rw [reportLoop, he]
  cases recordHealth o cur r with
  | none => rfl
  | some c => simp only [Option.map_some', Option.some_bind, Option.map_map]; rfl

/-- Over well-typed reports, dropping those that do not count for connection
health changes nothing of the statistics the loop leaves. -/
theorem reportLoop_filter_countsForHealth (o : WebRTCStatsObserver) (p : Platform) :
    ∀ {rs : List (StatsReport τ)} (cur : ConnectionHealthStats τ), (∀ r ∈ rs, r.WellTyped) →
      (reportLoop o p cur (rs.filter (·.countsForHealth))).map (·.1) =
        (reportLoop o p cur rs).map (·.1)
  | [], _, _ => rfl
  | r :: rs, cur, hrs => by
    have hr := hrs r (List.mem_cons_self _ _)
    have ih := fun c => reportLoop_filter_countsForHealth o p c
      (fun r' h => hrs r' (.tail _ h))
    rw [reportLoop_map_fst_cons o p cur hr]
    cases hc : r.countsForHealth
    · rw [List.filter_cons_of_neg (by simp [hc]), recordHealth_of_not_counts o cur hc,
        Option.some_bind, ih]
    · rw [List.filter_cons_of_pos hc, reportLoop_map_fst_cons o p cur hr]
      cases recordHealth o cur r with
      | none => rfl
      | some c => exact ih c

variable [Zero τ] [DecidableEq τ] (elapsedMs : τ → τ → Option Int)

/-- What `OnComplete` leaves in the statistics and hands to
`OnConnectionHealthStats` depends on the reports only through the
statistics the loop over them leaves. -/
theorem onComplete_map_health (o : WebRTCStatsObserver) (p : Platform) (h : Health τ)
    (reports : List (StatsReport τ)) :
    (onComplete elapsedMs o p h reports).map (fun x => (x.1, healthReports x.2)) =
      ((reportLoop o p h.connHealthStats reports).map (·.1)).bind fun c =>
        if o.connHealthStatsEnabled && o.webrtcStatsObserverWinrt then
          (updateRates elapsedMs h.connHealthStatsPrev c).map fun cur =>
            (⟨cur, h.connHealthStatsPrev⟩, [cur])
        else some (⟨c, h.connHealthStatsPrev⟩, []) := by
  unfold onComplete
  cases hx : reportLoop o p h.connHealthStats reports with
  | none => rfl
  | some x =>
    have hev := healthReports_of_reportLoop hx
    have hrtc : ∀ (b : Bool) (l : List (StatsReport τ)),
        healthReports (if b then [] else [Output.rtcStatsReportsReady l]) = [] := by
      intro b l; cases b <;> rfl
    simp only [Option.some_bind, Option.map_some']
    split
    · cases updateRates elapsedMs h.connHealthStatsPrev x.1 with
      | none => rfl
      | some c =>
        simp only [Option.map_some', healthReports_append, hev, hrtc,
          healthReports_connectionHealthStats, List.nil_append]
    · simp only [Option.map_some', healthReports_append, hev, hrtc, List.nil_append]

/-- Only candidate pairs that are not inactive count for connection health:
over well-typed reports, `OnComplete` leaves the same statistics, and hands
the same ones to `OnConnectionHealthStats`, as it does over those pairs
alone. Sessions, tracks, `ssrc` reports and inactive pairs change neither. -/
theorem health_ignores_all_but_active_pairs (o : WebRTCStatsObserver) (p : Platform)
    (h : Health τ) {reports : List (StatsReport τ)} (hr : ∀ r ∈ reports, r.WellTyped) :
    (onComplete elapsedMs o p h reports).map (fun x => (x.1, healthReports x.2)) =
      (onComplete elapsedMs o p h (reports.filter (·.countsForHealth))).map
        (fun x => (x.1, healthReports x.2)) := by
  rw [onComplete_map_health, onComplete_map_health, reportLoop_filter_countsForHealth o p _ hr]

/-- A session report and an inactive pair change no health statistics. -/
theorem health_ignores_all_but_active_pairs_session_and_inactive_pair :
    (∀ r ∈ [(⟨"session", .session, 1000, [(.other 0, .int 3)]⟩ : StatsReport Int),
        ⟨"pair", .candidatePair, 1000, [(.activeConnection, .bool false), (.bytesSent, .int64 5)]⟩],
        r.WellTyped) ∧
      (onComplete (fun a b => some (a - b)) ⟨true, .kStarted, true, true, true, true, [.idle], []⟩
          ⟨[], 0, 0⟩ Health.init
          [⟨"session", .session, 1000, [(.other 0, .int 3)]⟩,
            ⟨"pair", .candidatePair, 1000, [(.activeConnection, .bool false), (.bytesSent, .int64 5)]⟩]).map
          (fun x => (x.1, healthReports x.2)) =
        (onComplete (fun a b => some (a - b)) ⟨true, .kStarted, true, true, true, true, [.idle], []⟩
          ⟨[], 0, 0⟩ Health.init
          ([⟨"session", .session, 1000, [(.other 0, .int 3)]⟩,
            ⟨"pair", .candidatePair, 1000, [(.activeConnection, .bool false),
              (.bytesSent, .int64 5)]⟩].filter (·.countsForHealth))).map
          (fun x => (x.1, healthReports x.2)) :=
  ⟨by decide, health_ignores_all_but_active_pairs _ _ _ _ (by decide)⟩

end Counting

end WebRtcWinRT.StatsReports
