import SellerAgents.ControlClient.WorkGates
import SellerAgents.Js.Nearest

open SellerAgents.Js

namespace SellerAgents.ControlClient

/-- Whose time a client keeps. -/
structure ClockOwner where
  controlApiOrigin : String
  portalOrigin : String
  contractVersion : String
  deviceId : String
  sessionId : String

/-- The parts of an owner that `effectiveTime` tells clocks apart by. -/
structure OwnerKey where
  controlApiOrigin : String
  portalOrigin : String
  deviceId : String
  sessionId : String
deriving DecidableEq

def ClockOwner.key (owner : ClockOwner) : OwnerKey where
  controlApiOrigin := owner.controlApiOrigin
  portalOrigin := owner.portalOrigin
  deviceId := owner.deviceId
  sessionId := owner.sessionId

/-- The persisted clock with its owner. -/
structure OwnedClock : Type extends CacheClock where
  owner : ClockOwner

/-- `validCacheClock`; `client` holds the origins of the package and the ids of the credentials, if
there are any. -/
def OwnedClock.valid (clock : OwnedClock) (client : Option OwnerKey) (payload : Option Payload) : Bool :=
  validMillis clock.trustedServerTimeMs && validMillis clock.effectiveTimeMs &&
    clock.trustedServerTimeMs ≤ clock.effectiveTimeMs &&
    payload.all (validCacheClock clock.toCacheClock) && client = some clock.owner.key

/-- Why no effective time is given. -/
inductive ClockError where
  | CACHE_CLOCK_INVALID | CACHE_WALL_CLOCK_INVALID | CACHE_MONOTONIC_INVALID
  | CACHE_EFFECTIVE_TIME_INVALID | CACHE_MONOTONIC_DECREASING | CACHE_EFFECTIVE_TIME_REGRESSION
deriving DecidableEq

/-- The last effective time, with the monotonic clock at it. -/
structure RuntimeAnchor where
  effectiveNowMs : ℤ
  monotonicNowMs : ℚ

/-- The variables of the worker that `effectiveTime` reads and writes. -/
structure RuntimeClock where
  owner : Option OwnerKey := none
  anchor : Option RuntimeAnchor := none
  highWatermark : Option ℤ := none

/-- What one call of `effectiveTime` is given, and what the two clocks of the device show to it. -/
structure ClockReading where
  clock : OwnedClock
  payload : Option Payload
  wall : ℤ
  monotonic : ℚ

namespace ClockReading

variable (reading : ClockReading)

/-- `monotonicNow` accepts the value. -/
def monotonicValid : Bool := 0 ≤ reading.monotonic && isSafeInteger ⌈reading.monotonic⌉

/-- The checks before any variable is touched. -/
def valid (client : Option OwnerKey) : Bool :=
  reading.clock.valid client reading.payload && validMillis reading.wall && reading.monotonicValid

/-- The latest of the wall time, the trusted and the persisted effective time. -/
def latest : ℤ := max reading.wall (max reading.clock.trustedServerTimeMs reading.clock.effectiveTimeMs)

end ClockReading

/-- `Math.max(highWatermark, value)`, where null counts as 0. -/
def raise (highWatermark : Option ℤ) (value : ℤ) : ℤ := max (highWatermark.getD 0) value

/-- The end of `effectiveTime`, from the anchor on. -/
def advance (runtime : RuntimeClock) (anchor : RuntimeAnchor) (reading : ClockReading) :
    Except ClockError ℤ × RuntimeClock :=
  let elapsed := nearest (reading.monotonic - anchor.monotonicNowMs)
  let anchoredRaw := nearest (anchor.effectiveNowMs + elapsed)
  if anchoredRaw < 0 ∨ (maxDateMs : ℚ) < anchoredRaw then
    (.error .CACHE_EFFECTIVE_TIME_INVALID, runtime)
  else
    let result := max reading.latest (raise runtime.highWatermark ⌈anchoredRaw⌉)
    if !validMillis result then (.error .CACHE_EFFECTIVE_TIME_INVALID, runtime)
    else if result < anchor.effectiveNowMs then (.error .CACHE_EFFECTIVE_TIME_REGRESSION, runtime)
    else
      (.ok result, { runtime with
        anchor := some ⟨result, reading.monotonic⟩
        highWatermark := some (raise runtime.highWatermark result) })

/-- The time a client goes by: it is carried on by the monotonic clock and never runs back. -/
def effectiveTime (client : Option OwnerKey) (runtime : RuntimeClock) (reading : ClockReading) :
    Except ClockError ℤ × RuntimeClock :=
  if !reading.clock.valid client reading.payload then (.error .CACHE_CLOCK_INVALID, runtime)
  else if !validMillis reading.wall then (.error .CACHE_WALL_CLOCK_INVALID, runtime)
  else if !reading.monotonicValid then (.error .CACHE_MONOTONIC_INVALID, runtime)
  else
    let owner := reading.clock.owner.key
    if runtime.owner ≠ some owner then
      let initial := reading.latest
      if !validMillis initial then
        (.error .CACHE_EFFECTIVE_TIME_INVALID, { runtime with owner := some owner })
      else
        advance ⟨some owner, some ⟨initial, reading.monotonic⟩, some initial⟩
          ⟨initial, reading.monotonic⟩ reading
    else
      match runtime.anchor with
      | none => (.error .CACHE_MONOTONIC_DECREASING, runtime)
      | some anchor =>
        if reading.monotonic < anchor.monotonicNowMs then
          (.error .CACHE_MONOTONIC_DECREASING, runtime)
        else
          advance { runtime with
              highWatermark := some (raise runtime.highWatermark reading.clock.effectiveTimeMs) }
            anchor reading

/-- The variables after some calls, the newest first. -/
def runtimeAfter (client : Option OwnerKey) (start : RuntimeClock) : List ClockReading → RuntimeClock
  | [] => start
  | reading :: past => (effectiveTime client (runtimeAfter client start past) reading).2

/-! The specification. -/

/-- No result is more than one millisecond past every time that was seen, moved on by the time that
has elapsed since. -/
def KeepsTime (client : Option OwnerKey) (start : RuntimeClock) (calls : List ClockReading) : Prop :=
  ∀ reading past, (reading :: past) <:+ calls → ∀ result,
    (effectiveTime client (runtimeAfter client start past) reading).1 = .ok result →
    ∃ seen ∈ reading :: past, seen.valid client = true ∧
      (result : ℚ) ≤ seen.latest + (reading.monotonic - seen.monotonic) + 1

/-- A time moved on by a gap between two calls, rounded up to whole milliseconds. -/
def roundedUp (time : ℤ) (gap : ℚ) : ℤ := max time ⌈nearest (time + nearest gap)⌉

/-- Every time that was seen, moved on to the newest call gap by gap. -/
def carriedTimes : List ClockReading → List ℤ
  | [] => []
  | [reading] => [reading.latest]
  | reading :: before :: past =>
    reading.latest :: (carriedTimes (before :: past)).map fun time =>
      roundedUp time (reading.monotonic - before.monotonic)

/-- The gaps that are rounded up one by one never add more than one millisecond to what the times
that were seen amount to, up to the last date there is. -/
def RoundingWithin (client : Option OwnerKey) (calls : List ClockReading) : Prop :=
  ∀ reading past, (reading :: past) <:+ calls → reading.valid client = true →
    let seen := reading :: past.filter (·.valid client)
    (∀ time ∈ carriedTimes seen, time ≤ maxDateMs) →
      ∀ time ∈ carriedTimes seen, ∃ other ∈ seen,
        (time : ℚ) ≤ other.latest + (reading.monotonic - other.monotonic) + 1

/-! The times that are carried. -/

variable {client : Option OwnerKey} {start runtime : RuntimeClock} {reading before : ClockReading}
  {past calls : List ClockReading} {gap : ℚ}

theorem le_roundedUp (time : ℤ) (gap : ℚ) : time ≤ roundedUp time gap := le_max_left _ _

theorem roundedUp_mono {time time' : ℤ} (h : time ≤ time') :
    roundedUp time gap ≤ roundedUp time' gap := by
  have hle : (time : ℚ) + nearest gap ≤ time' + nearest gap := by
    have : (time : ℚ) ≤ time' := by exact_mod_cast h
    linarith
  exact max_le_max h (Int.ceil_le_ceil (nearest_mono hle))

theorem ClockReading.valid_iff : reading.valid client = true ↔
    reading.clock.valid client reading.payload = true ∧ validMillis reading.wall = true ∧
      reading.monotonicValid = true := by
  simp [ClockReading.valid, and_assoc]

/-- What is known of a reading that passes the checks. -/
theorem latest_bounds (h : reading.valid client = true) :
    0 ≤ reading.latest ∧ reading.latest ≤ maxDateMs ∧ client = some reading.clock.owner.key ∧
      reading.clock.effectiveTimeMs ≤ reading.latest := by
  obtain ⟨hclock, hwall, -⟩ := ClockReading.valid_iff.mp h
  simp only [OwnedClock.valid, Bool.and_eq_true, decide_eq_true_eq] at hclock
  obtain ⟨⟨⟨⟨htrusted, heffective⟩, -⟩, -⟩, howner⟩ := hclock
  have hwall := validMillis_iff.mp hwall
  have htrusted := validMillis_iff.mp htrusted
  have heffective := validMillis_iff.mp heffective
  unfold ClockReading.latest
  refine ⟨?_, ?_, howner, ?_⟩ <;> omega

theorem carriedTimes_nonneg (h : ∀ seen ∈ calls, seen.valid client = true) :
    ∀ time ∈ carriedTimes calls, 0 ≤ time := by
  induction calls with
  | nil => simp [carriedTimes]
  | cons reading past ih =>
    have hlatest := (latest_bounds (h reading List.mem_cons_self)).1
    have hpast := ih fun seen hseen => h seen (List.mem_cons_of_mem _ hseen)
    cases past with
    | nil => simpa [carriedTimes] using hlatest
    | cons before past =>
      intro time htime
      rcases List.mem_cons.mp htime with rfl | htime
      · exact hlatest
      · obtain ⟨time, hmem, rfl⟩ := List.mem_map.mp htime
        exact (hpast time hmem).trans (le_roundedUp time _)

/-- A time is the greatest of those carried to a call. -/
structure Greatest (time : ℤ) (calls : List ClockReading) : Prop where
  mem : time ∈ carriedTimes calls
  le : ∀ other ∈ carriedTimes calls, other ≤ time

theorem greatest_single (reading : ClockReading) : Greatest reading.latest [reading] :=
  ⟨by simp [carriedTimes], by simp [carriedTimes]⟩

/-- The greatest time of one more call. -/
theorem Greatest.next {time : ℤ} (h : Greatest time (before :: past)) (reading : ClockReading) :
    Greatest (max reading.latest (roundedUp time (reading.monotonic - before.monotonic)))
      (reading :: before :: past) := by
  constructor
  · rcases max_choice reading.latest (roundedUp time (reading.monotonic - before.monotonic)) with
      heq | heq
    · rw [heq]
      exact List.mem_cons_self
    · rw [heq]
      exact List.mem_cons_of_mem _ (List.mem_map_of_mem h.mem)
  · intro other hother
    rcases List.mem_cons.mp hother with rfl | hother
    · exact le_max_left _ _
    · obtain ⟨other, hmem, rfl⟩ := List.mem_map.mp hother
      exact (roundedUp_mono (h.le other hmem)).trans
        (le_max_right _ _)

/-! What the calls leave. -/

/-- A call within the dates gives the greatest time that is carried to it. -/
theorem advance_ok (runtime : RuntimeClock) (anchor : RuntimeAnchor) {mark : ℤ} (hvalid : reading.valid client = true)
    (hzero : 0 ≤ anchor.effectiveNowMs) (htime : anchor.effectiveNowMs ≤ maxDateMs)
    (hgap : anchor.monotonicNowMs ≤ reading.monotonic) (hmark : runtime.highWatermark = some mark)
    (hlow : anchor.effectiveNowMs ≤ mark) (hhigh : mark ≤ max anchor.effectiveNowMs reading.latest)
    (hraw : nearest (anchor.effectiveNowMs + nearest (reading.monotonic - anchor.monotonicNowMs)) ≤
      maxDateMs) :
    let result := max reading.latest
      (roundedUp anchor.effectiveNowMs (reading.monotonic - anchor.monotonicNowMs))
    advance runtime anchor reading = (.ok result, { runtime with
      anchor := some ⟨result, reading.monotonic⟩, highWatermark := some result }) := by
  intro result
  obtain ⟨hlatest, hlatestMax, -, -⟩ := latest_bounds hvalid
  have hnonneg : 0 ≤ nearest (anchor.effectiveNowMs +
      nearest (reading.monotonic - anchor.monotonicNowMs)) := by
    apply nearest_nonneg
    have hgap := nearest_nonneg (sub_nonneg.mpr hgap)
    have htime : (0 : ℚ) ≤ anchor.effectiveNowMs := by exact_mod_cast hzero
    linarith
  have hceil : ⌈nearest (anchor.effectiveNowMs +
      nearest (reading.monotonic - anchor.monotonicNowMs))⌉ ≤ maxDateMs := Int.ceil_le.mpr hraw
  have hresult : max reading.latest (raise runtime.highWatermark ⌈nearest (anchor.effectiveNowMs +
      nearest (reading.monotonic - anchor.monotonicNowMs))⌉) = result := by
    simp only [raise, hmark, Option.getD_some, result, roundedUp]
    omega
  have hresultValid : validMillis result = true := by
    rw [validMillis_iff]
    simp only [result, roundedUp]
    omega
  have hforward : ¬ result < anchor.effectiveNowMs := by
    simp only [result, roundedUp]
    omega
  have hkeep : raise runtime.highWatermark result = result := by
    simp only [raise, hmark, Option.getD_some, result, roundedUp]
    omega
  have hrange : ¬ (nearest (anchor.effectiveNowMs +
      nearest (reading.monotonic - anchor.monotonicNowMs)) < 0 ∨ (maxDateMs : ℚ) <
      nearest (anchor.effectiveNowMs + nearest (reading.monotonic - anchor.monotonicNowMs))) := by
    rw [not_or, not_lt, not_lt]
    exact ⟨hnonneg, hraw⟩
  unfold advance
  simp only [if_neg hrange, hresult, hresultValid, if_neg hforward, hkeep, Bool.not_true]
  rfl

/-- A call past the last date refuses. -/
theorem advance_refuses (runtime : RuntimeClock) (anchor : RuntimeAnchor) (hraw : (maxDateMs : ℚ) <
      nearest (anchor.effectiveNowMs + nearest (reading.monotonic - anchor.monotonicNowMs))) :
    advance runtime anchor reading = (.error .CACHE_EFFECTIVE_TIME_INVALID, runtime) :=
  if_pos (.inr hraw)

/-- A reading that fails the checks changes nothing. -/
theorem effectiveTime_invalid (runtime : RuntimeClock) (h : reading.valid client = false) :
    (∃ error, (effectiveTime client runtime reading).1 = .error error) ∧
      (effectiveTime client runtime reading).2 = runtime := by
  have hfails : reading.clock.valid client reading.payload = false ∨
      validMillis reading.wall = false ∨ reading.monotonicValid = false := by
    by_contra hall
    simp only [not_or, Bool.not_eq_false] at hall
    rw [ClockReading.valid_iff.mpr hall] at h
    cases h
  unfold effectiveTime
  by_cases hclock : reading.clock.valid client reading.payload = true
  · by_cases hwall : validMillis reading.wall = true
    · have hmonotonic : reading.monotonicValid = false := by simpa [hclock, hwall] using hfails
      simp [hclock, hwall, hmonotonic]
    · simp [hclock, hwall]
  · simp [hclock]

/-- What the variables say about the calls so far. -/
inductive Tracks (client : Option OwnerKey) (start : RuntimeClock) :
    List ClockReading → RuntimeClock → Prop where
  | fresh : Tracks client start [] start
  | running {last : ClockReading} {past : List ClockReading} {time : ℤ}
      (greatest : Greatest time (last :: past)) (inRange : time ≤ maxDateMs) :
      Tracks client start (last :: past) ⟨client, some ⟨time, last.monotonic⟩, some time⟩
  | refusing {last : ClockReading} {past : List ClockReading} {runtime : RuntimeClock}
      {anchor : RuntimeAnchor} (owner : runtime.owner = client) (anchored : runtime.anchor = some anchor)
      (nonneg : 0 ≤ anchor.effectiveNowMs) (before : anchor.monotonicNowMs ≤ last.monotonic)
      (raw : (maxDateMs : ℚ) <
        nearest (anchor.effectiveNowMs + nearest (last.monotonic - anchor.monotonicNowMs)))
      (late : ∃ time ∈ carriedTimes (last :: past), maxDateMs < time) :
      Tracks client start (last :: past) runtime

/-- What a call answers that passes the checks. -/
def Answers (calls : List ClockReading) (answer : Except ClockError ℤ) : Prop :=
  (∃ time, answer = .ok time ∧ Greatest time calls ∧ time ≤ maxDateMs) ∨
    ((∃ error, answer = .error error) ∧ ∃ time ∈ carriedTimes calls, maxDateMs < time)

/-- The call that a clock owner makes first. -/
theorem effectiveTime_first (hstart : runtime.owner ≠ client) (hvalid : reading.valid client = true) :
    effectiveTime client runtime reading =
      (.ok reading.latest, ⟨client, some ⟨reading.latest, reading.monotonic⟩, some reading.latest⟩) := by
  obtain ⟨hclock, hwall, hmonotonic⟩ := ClockReading.valid_iff.mp hvalid
  obtain ⟨hzero, hmax, hclient, -⟩ := latest_bounds hvalid
  have hexact : nearest ((reading.latest : ℤ) : ℚ) = reading.latest := by
    have hbound : maxDateMs < 2 ^ 53 := by decide
    exact nearest_int (by rw [abs_of_nonneg hzero]; omega)
  have hstill : nearest (((reading.latest : ℤ) : ℚ) + nearest (reading.monotonic - reading.monotonic)) =
      reading.latest := by
    rw [sub_self, nearest_zero, add_zero, hexact]
  have hadvance := advance_ok
    ⟨client, some ⟨reading.latest, reading.monotonic⟩, some reading.latest⟩
    ⟨reading.latest, reading.monotonic⟩ hvalid hzero hmax (le_refl _) rfl (le_refl _)
    (le_max_left _ _) (by rw [hstill]; exact_mod_cast hmax)
  have hrounded : roundedUp reading.latest (reading.monotonic - reading.monotonic) = reading.latest := by
    unfold roundedUp
    rw [hstill, Int.ceil_intCast, max_self]
  rw [hrounded, max_self] at hadvance
  have hinitial : validMillis reading.latest = true := validMillis_iff.mpr ⟨hzero, hmax⟩
  unfold effectiveTime
  rw [hclient] at hstart hadvance hclock ⊢
  simp only [hclock, hwall, hmonotonic, hinitial, hstart, ne_eq, not_false_eq_true, if_true,
    Bool.not_true, Bool.false_eq_true, if_false]
  exact hadvance

/-- A call of the owner whose clock the variables hold. -/
theorem effectiveTime_again (runtime : RuntimeClock) {anchor : RuntimeAnchor} (howner : runtime.owner = client)
    (hanchor : runtime.anchor = some anchor) (hvalid : reading.valid client = true)
    (hgap : anchor.monotonicNowMs ≤ reading.monotonic) :
    effectiveTime client runtime reading =
      advance { runtime with
        highWatermark := some (raise runtime.highWatermark reading.clock.effectiveTimeMs) }
        anchor reading := by
  obtain ⟨hclock, hwall, hmonotonic⟩ := ClockReading.valid_iff.mp hvalid
  have hclient := (latest_bounds hvalid).2.2.1
  have hsame : runtime.owner = some reading.clock.owner.key := howner.trans hclient
  unfold effectiveTime
  simp only [hclock, hwall, hmonotonic, hsame, hanchor, not_lt.mpr hgap, ne_eq, not_true_eq_false,
    Bool.not_true, Bool.false_eq_true, if_false]

/-- One call that passes the checks. -/
theorem Tracks.step (hstart : start.owner ≠ client) (h : Tracks client start past runtime)
    (hpast : ∀ seen ∈ past, seen.valid client = true ∧ seen.monotonic ≤ reading.monotonic)
    (hvalid : reading.valid client = true) :
    Answers (reading :: past) (effectiveTime client runtime reading).1 ∧
      Tracks client start (reading :: past) (effectiveTime client runtime reading).2 := by
  obtain ⟨-, hmax, -, heffective⟩ := latest_bounds hvalid
  cases h with
  | fresh =>
    rw [effectiveTime_first hstart hvalid]
    exact ⟨.inl ⟨_, rfl, greatest_single reading, hmax⟩, .running (greatest_single reading) hmax⟩
  | @running last past time greatest inRange =>
    have hgap := (hpast last List.mem_cons_self).2
    have hseen : ∀ seen ∈ last :: past, seen.valid client = true := fun seen hmem => (hpast seen hmem).1
    have hzero : 0 ≤ time := carriedTimes_nonneg hseen time greatest.mem
    have hnext := greatest.next reading
    have hagain := effectiveTime_again ⟨client, some ⟨time, last.monotonic⟩, some time⟩
      rfl rfl hvalid hgap
    rw [hagain]
    by_cases hraw : nearest (time + nearest (reading.monotonic - last.monotonic)) ≤ maxDateMs
    · have hadvance := advance_ok ⟨client, some ⟨time, last.monotonic⟩,
          some (raise (some time) reading.clock.effectiveTimeMs)⟩ ⟨time, last.monotonic⟩ hvalid hzero inRange hgap rfl (le_max_left _ _)
        (max_le_max (le_refl _) heffective) hraw
      have hle : max reading.latest (roundedUp time (reading.monotonic - last.monotonic)) ≤ maxDateMs := by
        have hceil := Int.ceil_le.mpr hraw
        unfold roundedUp
        omega
      rw [hadvance]
      exact ⟨.inl ⟨_, rfl, hnext, hle⟩, .running hnext hle⟩
    · rw [not_le] at hraw
      have hlate : maxDateMs < roundedUp time (reading.monotonic - last.monotonic) :=
        (Int.lt_ceil.mpr hraw).trans_le (le_max_right _ _)
      have hmem : roundedUp time (reading.monotonic - last.monotonic) ∈
          carriedTimes (reading :: last :: past) :=
        List.mem_cons_of_mem _ (List.mem_map_of_mem greatest.mem)
      rw [advance_refuses _ ⟨time, last.monotonic⟩ hraw]
      exact ⟨.inr ⟨⟨_, rfl⟩, _, hmem, hlate⟩, .refusing rfl rfl hzero hgap hraw ⟨_, hmem, hlate⟩⟩
  | @refusing last past runtime anchor howner hanchor hzero hbefore hraw hlate =>
    have hgap := (hpast last List.mem_cons_self).2
    have hstill : (maxDateMs : ℚ) <
        nearest (anchor.effectiveNowMs + nearest (reading.monotonic - anchor.monotonicNowMs)) := by
      apply hraw.trans_le
      have hmore : nearest (last.monotonic - anchor.monotonicNowMs) ≤
          nearest (reading.monotonic - anchor.monotonicNowMs) := nearest_mono (by linarith)
      exact nearest_mono (by linarith)
    obtain ⟨time, hmem, hlt⟩ := hlate
    have hcarried : ∃ time ∈ carriedTimes (reading :: last :: past), maxDateMs < time :=
      ⟨_, List.mem_cons_of_mem _ (List.mem_map_of_mem hmem), hlt.trans_le (le_roundedUp _ _)⟩
    rw [effectiveTime_again _ howner hanchor hvalid (hbefore.trans hgap), advance_refuses _ _ hstill]
    exact ⟨.inr ⟨⟨_, rfl⟩, hcarried⟩, .refusing howner hanchor hzero (hbefore.trans hgap) hstill hcarried⟩

theorem seen_cons (hvalid : reading.valid client = true) : (reading :: past).filter (·.valid client) =
    reading :: past.filter (·.valid client) :=
  List.filter_cons_of_pos hvalid

theorem seen_skip (hvalid : ¬ reading.valid client = true) :
    (reading :: past).filter (·.valid client) = past.filter (·.valid client) :=
  List.filter_cons_of_neg hvalid

/-- The calls of one owner on a monotonic clock. -/
theorem runtimeAfter_tracks (hstart : start.owner ≠ client)
    (hclock : calls.Pairwise fun later earlier => earlier.monotonic ≤ later.monotonic) :
    Tracks client start (calls.filter (·.valid client)) (runtimeAfter client start calls) := by
  induction calls with
  | nil => exact .fresh
  | cons reading past ih =>
    obtain ⟨hlater, hpast⟩ := List.pairwise_cons.mp hclock
    by_cases hvalid : reading.valid client = true
    · rw [seen_cons hvalid]
      refine ((ih hpast).step hstart (fun seen hseen => ?_) hvalid).2
      obtain ⟨hmem, hseenValid⟩ := List.mem_filter.mp hseen
      exact ⟨hseenValid, hlater seen hmem⟩
    · rw [seen_skip hvalid]
      have hsame := (effectiveTime_invalid (runtimeAfter client start past)
        (Bool.not_eq_true _ ▸ hvalid)).2
      unfold runtimeAfter
      rw [hsame]
      exact ih hpast

/-- Calls of one clock owner keep time exactly when rounding every gap up adds no more than a
millisecond. -/
theorem effectiveTime_keeps_time (client : Option OwnerKey) (start : RuntimeClock)
    (calls : List ClockReading) (hstart : start.owner ≠ client)
    (hclock : calls.Pairwise fun later earlier => earlier.monotonic ≤ later.monotonic) :
    KeepsTime client start calls ↔ RoundingWithin client calls := by
  have answer : ∀ reading past, (reading :: past) <:+ calls → reading.valid client = true →
      Answers (reading :: past.filter (·.valid client))
        (effectiveTime client (runtimeAfter client start past) reading).1 := by
    intro reading past hsuffix hvalid
    have hpairs := hclock.sublist hsuffix.sublist
    obtain ⟨hlater, hpast⟩ := List.pairwise_cons.mp hpairs
    refine ((runtimeAfter_tracks hstart hpast).step hstart (fun seen hseen => ?_) hvalid).1
    obtain ⟨hmem, hseenValid⟩ := List.mem_filter.mp hseen
    exact ⟨hseenValid, hlater seen hmem⟩
  have mem_seen : ∀ {reading other : ClockReading} {past : List ClockReading},
      reading.valid client = true → (other ∈ reading :: past.filter (·.valid client) ↔
        other ∈ reading :: past ∧ other.valid client = true) := by
    intro reading other past hvalid
    rw [← seen_cons hvalid, List.mem_filter]
  constructor
  · intro hkeeps reading past hsuffix hvalid seen hrange time htime
    rcases answer reading past hsuffix hvalid with ⟨result, hok, hgreatest, -⟩ | ⟨-, late, hmem, hlt⟩
    · obtain ⟨other, hother, hotherValid, hle⟩ := hkeeps reading past hsuffix result hok
      refine ⟨other, (mem_seen hvalid).mpr ⟨hother, hotherValid⟩, ?_⟩
      have hmost : (time : ℚ) ≤ result := by exact_mod_cast hgreatest.le time htime
      exact hmost.trans hle
    · have := hrange late hmem
      omega
  · intro hwithin reading past hsuffix result hok
    by_cases hvalid : reading.valid client = true
    · rcases answer reading past hsuffix hvalid with ⟨time, htime, hgreatest, hmax⟩ | ⟨⟨error, herror⟩, -⟩
      · obtain rfl : time = result := Except.ok.inj (htime.symm.trans hok)
        obtain ⟨other, hother, hle⟩ := hwithin reading past hsuffix hvalid
          (fun carried hcarried => (hgreatest.le carried hcarried).trans hmax) time hgreatest.mem
        obtain ⟨hmem, hotherValid⟩ := (mem_seen hvalid).mp hother
        exact ⟨other, hmem, hotherValid, hle⟩
      · rw [herror] at hok
        cases hok
    · obtain ⟨⟨error, herror⟩, -⟩ :=
        effectiveTime_invalid (runtimeAfter client start past) (Bool.not_eq_true _ ▸ hvalid)
      rw [herror] at hok
      cases hok

def sampleClient : OwnerKey := ⟨"control", "portal", "device", "session"⟩

/-- A call so many half milliseconds after the first, with the wall clock 1000 milliseconds ahead of
the monotonic one. -/
def sampleReading (halves : ℕ) : ClockReading where
  clock :=
    { trustedServerTimeMs := 0
      effectiveTimeMs := 1000
      owner := ⟨"control", "portal", "control_plane_v3", "device", "session"⟩ }
  payload := none
  wall := 1000 + halves / 2
  monotonic := halves / 2

/-- Four calls half a millisecond apart, the newest first. -/
def halfMillisecondCalls : List ClockReading := [3, 2, 1, 0].map sampleReading

theorem halfMillisecondCalls_keep_time_iff : KeepsTime (some sampleClient) {} halfMillisecondCalls ↔
    RoundingWithin (some sampleClient) halfMillisecondCalls :=
  effectiveTime_keeps_time _ _ _ (by decide) (by decide +kernel)

/-- After a millisecond and a half the result is three milliseconds later. -/
theorem half_milliseconds_run_ahead : (∀ call ∈ halfMillisecondCalls, call.wall = ⌊call.monotonic + 1000⌋) ∧
    ¬ KeepsTime (some sampleClient) {} halfMillisecondCalls := by
  refine ⟨by decide +kernel, fun hkeeps => ?_⟩
  have hresult : (effectiveTime (some sampleClient)
      (runtimeAfter (some sampleClient) {} ([2, 1, 0].map sampleReading)) (sampleReading 3)).1 =
        .ok 1003 := by decide +kernel
  obtain ⟨seen, hmem, -, hle⟩ := hkeeps _ _ List.suffix_rfl _ hresult
  have hall : ∀ seen ∈ sampleReading 3 :: [2, 1, 0].map sampleReading,
      (seen.latest : ℚ) + ((sampleReading 3).monotonic - seen.monotonic) + 1 < 1003 := by
    decide +kernel
  have hlt := hall seen hmem
  push_cast at hle
  linarith

end SellerAgents.ControlClient
