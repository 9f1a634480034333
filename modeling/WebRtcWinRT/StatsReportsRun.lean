import WebRtcWinRT.StatsReports

/-!
# Connection health over the observer's runs

The polling chain of `WebRTCStatsObserver` and its report processing
together: any interleaving of its threads' steps, its `Toggle*` calls and
the `OnComplete` answers to its `GetStats` calls. A step that enters
`PollStats()` past the `pci_` check runs `GetAllStats()`.

Over every such run `OnComplete` stays defined as long as the reports are
what the code takes them to be and any two different timestamps are a
non-zero number of milliseconds apart, which `StatsCollector` ensures by
gathering at most every 50 ms; a timestamp less than a millisecond after the
previous round's would make the rate computation divide by zero. Along
rounds of a poll and its answer, with connection health stats on, the
statistics handed to `OnConnectionHealthStats` are those of an abstract
meter: each round's candidate pairs recorded into fresh statistics, with
rates against the statistics handed out the round before.
-/

namespace WebRtcWinRT.StatsReportsRun

open StatsObserver StatsReports

/-- A `WebRTCStatsObserver` whole: its polling chain and flags, and its
connection health statistics. -/
structure Observer (τ : Type) where
  control : WebRTCStatsObserver
  health : Health τ
  deriving DecidableEq, Repr

/-- A step of the observer: a step of one of its threads or a `Toggle*`
call, or an `OnComplete`. -/
inductive ObserverEvent (τ : Type)
  | control (e : Event)
  /-- `OnComplete(reports)`, with the platform's answers. -/
  | onComplete (p : Platform) (reports : List (StatsReport τ))
  deriving DecidableEq, Repr

/-- The step enters `PollStats()`. -/
def entersPollStats : Event → Bool
  | .startPollStats _ | .onMessage _ => true
  | _ => false

section Run

variable {τ : Type}

/-- The steps of the polling chain and the `Toggle*` calls of a run. -/
def controls : List (ObserverEvent τ) → List Event
  | [] => []
  | .control e :: es => e :: controls es
  | .onComplete _ _ :: es => controls es

/-- The reports of a run's `OnComplete` calls, in order. -/
def reportsOf : List (ObserverEvent τ) → List (StatsReport τ)
  | [] => []
  | .control _ :: es => reportsOf es
  | .onComplete _ reports :: es => reports ++ reportsOf es

variable [Zero τ] [DecidableEq τ] (elapsedMs : τ → τ → Option Int)

namespace Observer

/-- One step, with what it hands out; `none` where a thread is not where the
step starts, or where `OnComplete` is undefined. -/
def step (σ : Observer τ) : ObserverEvent τ → Option (Observer τ × List (Output τ))
  | .control e => (σ.control.step e).map fun c =>
    (⟨c, if entersPollStats e && σ.control.pci then getAllStats σ.control σ.health
      else σ.health⟩, [])
  | .onComplete p reports =>
    (onComplete elapsedMs σ.control p σ.health reports).map fun x => (⟨σ.control, x.1⟩, x.2)

/-- A run, with everything handed out, in order. -/
def run (σ : Observer τ) : List (ObserverEvent τ) → Option (Observer τ × List (Output τ))
  | [] => some (σ, [])
  | e :: es => (σ.step elapsedMs e).bind fun x =>
    (run x.1 es).map fun y => (y.1, x.2 ++ y.2)

end Observer

/-- A run of two stretches of events is the first stretch and then the second, its statistics in
order. -/
theorem Observer.run_append (σ : Observer τ) (es es' : List (ObserverEvent τ)) :
    σ.run elapsedMs (es ++ es') = (σ.run elapsedMs es).bind fun x =>
      (x.1.run elapsedMs es').map fun y => (y.1, x.2 ++ y.2) := by
  induction es generalizing σ with
  | nil => simp [Observer.run]
  | cons e es ih =>
    simp only [List.cons_append, Observer.run]
    cases σ.step elapsedMs e with
    | none => rfl
    | some x =>
      simp only [Option.some_bind, List.append_eq, ih, Option.map_bind, Option.bind_map,
        Option.map_map, Function.comp_def, List.append_assoc]

/-- Every step keeps both statistics fitting, and is defined where the
polling chain's step is, over well-formed reports with timestamps among `ts`. -/
theorem Observer.run_isSome {ts : List τ} (h0 : 0 ∈ ts) (hsep : Separated elapsedMs ts) :
    ∀ (es : List (ObserverEvent τ)) (σ : Observer τ), HealthFit ts σ.health →
      (σ.control.run (controls es)).isSome →
      (∀ r ∈ reportsOf es, r.WellTyped ∧ r.CountersFit ∧ r.timestamp ∈ ts) →
      (σ.run elapsedMs es).isSome
  | [], _, _, _, _ => rfl
  | .control e :: es, σ, hh, hctl, hrs => by
    cases hc : σ.control.step e with
    | none => simp [controls, WebRTCStatsObserver.run, hc] at hctl
    | some c =>
      have hctl' : (c.run (controls es)).isSome := by
        simpa [controls, WebRTCStatsObserver.run, hc] using hctl
      have hh' : HealthFit ts (if entersPollStats e && σ.control.pci then
          getAllStats σ.control σ.health else σ.health) := by
        split
        · exact getAllStats_fit h0 σ.control hh
        · exact hh
      have ih := Observer.run_isSome h0 hsep es ⟨c, _⟩ hh' hctl' hrs
      simp only [Observer.run, Observer.step, hc, Option.map_some', Option.some_bind,
        Option.isSome_map']
      exact ih
  | .onComplete p reports :: es, σ, hh, hctl, hrs => by
    obtain ⟨x, hx, hxs⟩ := onComplete_fit elapsedMs σ.control p hsep hh
      (fun r h => hrs r (List.mem_append_left _ h))
    have ih := Observer.run_isSome h0 hsep es ⟨σ.control, x.1⟩ hxs hctl
      (fun r h => hrs r (List.mem_append_right _ h))
    simp only [Observer.run, Observer.step, hx, Option.map_some', Option.some_bind,
      Option.isSome_map']
    exact ih

/-- From the constructor's statistics, over every interleaving of the
polling chain's steps, the `Toggle*` calls and the `OnComplete` calls that
can happen, `OnComplete` is never undefined, provided every report's values
have the types the code reads them as, the byte counters are not negative
and fit `int64` eight thousand times over, and any two different timestamps
among zero and the reports' are a defined and non-zero number of
milliseconds apart. -/
theorem on_complete_defined_on_every_run (c : WebRTCStatsObserver) (es : List (ObserverEvent τ))
    (hctl : (c.run (controls es)).isSome)
    (hwf : ∀ r ∈ reportsOf es, r.WellTyped ∧ r.CountersFit)
    (hsep : Separated elapsedMs (0 :: (reportsOf es).map (·.timestamp))) :
    ((⟨c, Health.init⟩ : Observer τ).run elapsedMs es).isSome :=
  Observer.run_isSome elapsedMs (List.mem_cons_self _ _) hsep es _
    ⟨⟨List.mem_cons_self _ _, bytesFit_zero, bytesFit_zero⟩,
      ⟨List.mem_cons_self _ _, bytesFit_zero, bytesFit_zero⟩⟩ hctl
    fun r h => ⟨(hwf r h).1, (hwf r h).2,
      List.mem_cons_of_mem _ (List.mem_map.mpr ⟨r, h, rfl⟩)⟩

/-- Two polling rounds of one candidate pair, each completed. -/
theorem on_complete_defined_on_every_run_two_rounds :
    (WebRTCStatsObserver.run (.create true 1) (controls (τ := Int)
      [.control (.toggleConnectionHealthStats 0 true), .control (.startPollStats 0),
        .onComplete ⟨[], 0, 0⟩ [⟨"pair", .candidatePair, 1000, [(.bytesSent, .int64 5000)]⟩],
        .control (.pollStatsLocked 0), .control (.onMessage 0),
        .onComplete ⟨[], 0, 0⟩ [⟨"pair", .candidatePair, 2000, [(.bytesSent, .int64 9000)]⟩]])).isSome ∧
      (∀ r ∈ reportsOf (τ := Int)
        [.control (.toggleConnectionHealthStats 0 true), .control (.startPollStats 0),
          .onComplete ⟨[], 0, 0⟩ [⟨"pair", .candidatePair, 1000, [(.bytesSent, .int64 5000)]⟩],
          .control (.pollStatsLocked 0), .control (.onMessage 0),
          .onComplete ⟨[], 0, 0⟩ [⟨"pair", .candidatePair, 2000, [(.bytesSent, .int64 9000)]⟩]],
        r.WellTyped ∧ r.CountersFit) ∧
      Separated (fun a b => some (a - b)) (0 :: (reportsOf (τ := Int)
        [.control (.toggleConnectionHealthStats 0 true), .control (.startPollStats 0),
          .onComplete ⟨[], 0, 0⟩ [⟨"pair", .candidatePair, 1000, [(.bytesSent, .int64 5000)]⟩],
          .control (.pollStatsLocked 0), .control (.onMessage 0),
          .onComplete ⟨[], 0, 0⟩ [⟨"pair", .candidatePair, 2000, [(.bytesSent, .int64 9000)]⟩]]).map
        (·.timestamp)) ∧
      ((⟨.create true 1, Health.init⟩ : Observer Int).run (fun a b => some (a - b))
        [.control (.toggleConnectionHealthStats 0 true), .control (.startPollStats 0),
          .onComplete ⟨[], 0, 0⟩ [⟨"pair", .candidatePair, 1000, [(.bytesSent, .int64 5000)]⟩],
          .control (.pollStatsLocked 0), .control (.onMessage 0),
          .onComplete ⟨[], 0, 0⟩ [⟨"pair", .candidatePair, 2000, [(.bytesSent, .int64 9000)]⟩]]).isSome :=
  ⟨by decide, by decide, fun a _ b _ hab => ⟨a - b, rfl, by omega⟩,
    on_complete_defined_on_every_run _ _ _ (by decide) (by decide)
      fun a _ b _ hab => ⟨a - b, rfl, by omega⟩⟩

end Run

section Meter

variable {τ : Type}

/-- The polling chain waits on thread `t` for its `MSG_POLL_STATS`: started,
with `pci_` set, the thread idle and the one message posted to it. -/
structure Parked (t : Nat) (c : WebRTCStatsObserver) : Prop where
  pci : c.pci = true
  status : c.status = .kStarted
  idle : c.threads[t]? = some .idle
  posted : c.posted = [t]

/-- One round of a polling chain parked on thread `t`: `OnMessage` polls, the
locked section posts the next `MSG_POLL_STATS`, and the answer to the poll's
`GetStats` comes before that message is delivered. -/
def pollRound (t : Nat) (x : Platform × List (StatsReport τ)) : List (ObserverEvent τ) :=
  [.control (.onMessage t), .control (.pollStatsLocked t), .onComplete x.1 x.2]

/-- Delivering the parked message puts its thread into `PollStats()`. -/
theorem Parked.onMessage_eq {t : Nat} {c : WebRTCStatsObserver} (hc : Parked t c) :
    c.onMessage t = some { c with posted := [], threads := c.threads.set t .polling } := by
  simp [WebRTCStatsObserver.onMessage, WebRTCStatsObserver.pollStats, hc.idle, hc.posted, hc.pci]

/-- The locked check of that thread posts the message again and parks the chain as it was. -/
theorem Parked.pollStatsLocked_eq {t : Nat} {c : WebRTCStatsObserver} (hc : Parked t c) :
    WebRTCStatsObserver.pollStatsLocked t { c with posted := [], threads := c.threads.set t .polling } =
      some c := by
  have ht : t < c.threads.length := (List.getElem?_eq_some_iff.mp hc.idle).1
  simp [WebRTCStatsObserver.pollStatsLocked, List.getElem?_set_self ht,
    WebRTCStatsObserver.set_self_of_getElem? hc.idle, ← hc.posted, ← hc.status]

/-- With connection health stats on and an observer set, the loop over
well-typed reports leaves what recording their candidate pairs, in order,
leaves. -/
theorem reportLoop_map_fst_of_enabled {o : WebRTCStatsObserver} (p : Platform)
    (hon : (o.connHealthStatsEnabled && o.webrtcStatsObserverWinrt) = true) :
    ∀ {rs : List (StatsReport τ)} (cur : ConnectionHealthStats τ), (∀ r ∈ rs, r.WellTyped) →
      (reportLoop o p cur rs).map (·.1) = (rs.filter (·.type == .candidatePair)).foldlM
        (fun s r => candidatePairLoop r.timestamp r.values s) cur
  | [], _, _ => rfl
  | r :: rs, cur, hrs => by
    have ih := fun c => reportLoop_map_fst_of_enabled p hon c
      (fun r' h => hrs r' (.tail _ h))
    rw [reportLoop_map_fst_cons o p cur (hrs r (List.mem_cons_self _ _)), recordHealth, hon]
    cases hty : r.type == .candidatePair
    · rw [List.filter_cons_of_neg (by simp [hty])]
      exact ih cur
    · rw [List.filter_cons_of_pos (by simpa using hty), List.foldlM_cons]
      cases candidatePairLoop r.timestamp r.values cur with
      | none => rfl
      | some c => exact ih c

variable [Zero τ]

/-- The statistics a meter takes of one round's reports: the values of its
candidate pairs recorded, in order, into fresh statistics. -/
def sampleOf (reports : List (StatsReport τ)) : Option (ConnectionHealthStats τ) :=
  (reports.filter (·.type == .candidatePair)).foldlM
    (fun s r => candidatePairLoop r.timestamp r.values s) .reset

variable [DecidableEq τ] (elapsedMs : τ → τ → Option Int)

/-- A connection-health meter over rounds of reports: each round's sample,
with rates against the statistics of the round before, from `last` on. -/
def meter (last : ConnectionHealthStats τ) :
    List (List (StatsReport τ)) → Option (List (ConnectionHealthStats τ))
  | [] => some []
  | reports :: rs => (sampleOf reports).bind fun s =>
    (updateRates elapsedMs last s).bind fun s' => (meter s' rs).map (s' :: ·)

/-- A round from a parked chain polls, answers with `OnComplete` and parks the
chain again. -/
theorem Parked.run_pollRound {t : Nat} {c : WebRTCStatsObserver} (hc : Parked t c) (h : Health τ)
    (x : Platform × List (StatsReport τ)) :
    (⟨c, h⟩ : Observer τ).run elapsedMs (pollRound t x) =
      (onComplete elapsedMs c x.1 (getAllStats c h) x.2).map fun y => (⟨c, y.1⟩, y.2) := by
  simp only [pollRound, Observer.run, Observer.step, WebRTCStatsObserver.step, hc.onMessage_eq,
    hc.pollStatsLocked_eq, Option.map_some', Option.some_bind]
  simp [entersPollStats, hc.pci, Function.comp_def]

/-- Along the rounds of a polling chain parked on thread `t`, each a poll, its
locked section and the answer to its `GetStats`, with connection health
stats on and an observer set, the statistics handed to
`OnConnectionHealthStats` are those of the meter started from the current
statistics, as long as every report's values have the types the code reads
them as: each round's candidate pairs recorded into fresh statistics, with
rates against those handed out the round before. -/
theorem polling_rounds_follow_meter {t : Nat} {c : WebRTCStatsObserver} (hc : Parked t c)
    (hon : (c.connHealthStatsEnabled && c.webrtcStatsObserverWinrt) = true) :
    ∀ (h : Health τ) {rs : List (Platform × List (StatsReport τ))},
      (∀ x ∈ rs, ∀ r ∈ x.2, r.WellTyped) →
      ((⟨c, h⟩ : Observer τ).run elapsedMs (rs.flatMap (pollRound t))).map
          (fun x => healthReports x.2) =
        meter elapsedMs h.connHealthStats (rs.map (·.2))
  | _, [], _ => rfl
  | h, (p, reports) :: rs, hr => by
    have hsample : (reportLoop c p .reset reports).map (·.1) = sampleOf reports :=
      reportLoop_map_fst_of_enabled p hon _ (hr _ (List.mem_cons_self _ _))
    have hg := getAllStats_of_enabled (Bool.and_eq_true _ _ ▸ hon).1 h
    have key := onComplete_map_health elapsedMs c p (getAllStats c h) reports
    simp only [hg, hon, ↓reduceIte] at key
    rw [hsample] at key
    have ih := fun h' => polling_rounds_follow_meter hc hon h' (fun y hy => hr y (.tail _ hy))
    calc ((⟨c, h⟩ : Observer τ).run elapsedMs (((p, reports) :: rs).flatMap (pollRound t))).map
          (fun x => healthReports x.2)
        = (onComplete elapsedMs c p ⟨.reset, h.connHealthStats⟩ reports).bind fun y =>
            (((⟨c, y.1⟩ : Observer τ).run elapsedMs (rs.flatMap (pollRound t))).map
              fun x => healthReports x.2).map (healthReports y.2 ++ ·) := by
          rw [List.flatMap_cons, Observer.run_append, hc.run_pollRound, hg]
          simp only [Option.map_bind, Option.bind_map, Option.map_map, Function.comp_def,
            healthReports_append]
      _ = ((onComplete elapsedMs c p ⟨.reset, h.connHealthStats⟩ reports).map
            fun x => (x.1, healthReports x.2)).bind fun y =>
              (meter elapsedMs y.1.connHealthStats (rs.map (·.2))).map (y.2 ++ ·) := by
          simp only [ih, Option.bind_map]; rfl
      _ = meter elapsedMs h.connHealthStats (((p, reports) :: rs).map (·.2)) := by
          rw [key, List.map_cons, meter]
          simp [Option.bind_map, Option.bind_assoc, Option.map_bind, Function.comp_def]

/-- Two rounds of one candidate pair follow the meter. -/
theorem polling_rounds_follow_meter_two_rounds :
    Parked 0 ⟨true, .kStarted, false, true, false, true, [.idle], [0]⟩ ∧
      (∀ x ∈ [(⟨[], 0, 0⟩, [⟨"pair", .candidatePair, 1000, [(.bytesSent, .int64 5000)]⟩]),
          ((⟨[], 0, 0⟩ : Platform),
            [(⟨"pair", .candidatePair, 2000, [(.bytesSent, .int64 9000)]⟩ : StatsReport Int)])],
        ∀ r ∈ x.2, r.WellTyped) ∧
      ((⟨⟨true, .kStarted, false, true, false, true, [.idle], [0]⟩, Health.init⟩ : Observer Int).run
          (fun a b => some (a - b))
          ([(⟨[], 0, 0⟩, [⟨"pair", .candidatePair, 1000, [(.bytesSent, .int64 5000)]⟩]),
            (⟨[], 0, 0⟩, [⟨"pair", .candidatePair, 2000, [(.bytesSent, .int64 9000)]⟩])].flatMap
            (pollRound 0))).map (fun x => healthReports x.2) =
        meter (fun a b => some (a - b)) (Health.init : Health Int).connHealthStats
          ([(⟨[], 0, 0⟩, [⟨"pair", .candidatePair, 1000, [(.bytesSent, .int64 5000)]⟩]),
            ((⟨[], 0, 0⟩ : Platform),
              [(⟨"pair", .candidatePair, 2000, [(.bytesSent, .int64 9000)]⟩ : StatsReport Int)])].map
            (·.2)) :=
  ⟨⟨rfl, rfl, rfl, rfl⟩, by decide,
    polling_rounds_follow_meter _ ⟨rfl, rfl, rfl, rfl⟩ (by rfl) _ (by decide)⟩

end Meter

end WebRtcWinRT.StatsReportsRun
