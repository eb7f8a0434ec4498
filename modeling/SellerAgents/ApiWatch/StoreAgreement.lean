import SellerAgents.ApiWatch.Incident

namespace SellerAgents.ApiWatch

open Js
open Subscriptions (Date)
open PostgresApiWatchIncidentStore (PgError upsert)

/-- The calls of an incident store. -/
inductive StoreCall where
  | observe (input : Observation)
  | resolve (key : String) (resolvedAt : Date) (expectedOccurrenceCount : Option Int)
  | listOpen
  | find (key : String)

/-- What a call of a store returns. -/
inductive StoreAnswer where
  | observed (incident : ApiWatchIncident) (opened : Bool)
  | resolved (incident : Option ApiWatchIncident)
  | openIncidents (incidents : List ApiWatchIncident)
  | found (incident : Option ApiWatchIncident)

/-- The order in which a store lists its keys. -/
abbrev KeyOrder : Type := String → String → Bool

/-- One call of the store in memory. -/
def memoryStep (localeCompare : KeyOrder) (s : Incidents) : StoreCall → StoreAnswer × Incidents
  | .observe input =>
    let result := InMemoryApiWatchIncidentStore.observe s input
    (.observed result.1.1 result.1.2, result.2)
  | .resolve key resolvedAt expected =>
    let result := InMemoryApiWatchIncidentStore.resolve s key resolvedAt expected
    (.resolved result.1, result.2)
  | .listOpen => (.openIncidents (InMemoryApiWatchIncidentStore.listOpen s localeCompare), s)
  | .find key => (.found (InMemoryApiWatchIncidentStore.find s key), s)

/-- The same call of the store in the database. -/
def postgresStep (storesTime : StoresTime) (collation : KeyOrder) (s : Incidents) :
    StoreCall → Except PgError StoreAnswer × Incidents
  | .observe input =>
    let result := PostgresApiWatchIncidentStore.observe storesTime s input
    (result.1.map fun saved => .observed saved.1 saved.2, result.2)
  | .resolve key resolvedAt expected =>
    let result := PostgresApiWatchIncidentStore.resolve storesTime s key resolvedAt expected
    (result.1.map .resolved, result.2)
  | .listOpen => (.ok (.openIncidents (PostgresApiWatchIncidentStore.listOpen s collation)), s)
  | .find key => ((PostgresApiWatchIncidentStore.find s key).map .found, s)

/-- The answers of a store to a sequence of calls. -/
def answers {α : Type} (step : Incidents → StoreCall → α × Incidents) :
    Incidents → List StoreCall → List α
  | _, [] => []
  | s, call :: rest => (step s call).1 :: answers step (step s call).2 rest

/-- Two answers are the same, up to the order of a list. -/
def Same : Except PgError StoreAnswer → StoreAnswer → Prop
  | .ok (.openIncidents incidents), .openIncidents incidents' => incidents.Perm incidents'
  | .ok answer, answer' => answer = answer'
  | .error _, _ => False

/-! When they agree. -/

/-- What every column of the table keeps. -/
structure Storable (storesTime : StoresTime) (input : Observation) : Prop where
  incidentKey : PostgresApiWatchIncidentStore.isText input.incidentKey = true ∧
    input.incidentKey.length ≤ 700
  documentKey : ∀ s ∈ input.documentKey, PostgresApiWatchIncidentStore.isText s = true ∧ s.length ≤ 128
  nonempty : PostgresApiWatchIncidentStore.documentKeyNonempty input.documentKey = true
  operationIdentity : ∀ s ∈ input.operationIdentity,
    PostgresApiWatchIncidentStore.isText s = true ∧ s.length ≤ 512
  latestReportId : PostgresApiWatchIncidentStore.isText input.latestReportId = true ∧
    input.latestReportId.length ≤ 160
  latestDiffSha256 : ∀ s ∈ input.latestDiffSha256,
    PostgresApiWatchIncidentStore.isText s = true ∧ s.length ≤ 64
  safeSummaryCode : PostgresApiWatchIncidentStore.isText input.safeSummaryCode = true ∧
    input.safeSummaryCode.length ≤ 80
  firstSeenAt : storesTime input.firstSeenAt = true
  lastSeenAt : storesTime input.lastSeenAt = true

/-- The fields that the table keeps from the first observation. -/
structure SameOrigin (first input : Observation) : Prop where
  incidentType : input.incidentType = first.incidentType
  sourceFamily : input.sourceFamily = first.sourceFamily
  operationIdentity : input.operationIdentity = first.operationIdentity
  firstSeenAt : input.firstSeenAt = first.firstSeenAt

def StoreCall.observes (key : String) : StoreCall → Bool
  | .observe input => input.incidentKey = key
  | _ => false

/-- The condition on a call after the earlier calls. -/
def Agreeable (storesTime : StoresTime) (earlier : List StoreCall) : StoreCall → Prop
  | .observe input => Storable storesTime input ∧
    (∀ first, .observe first ∈ earlier → first.incidentKey = input.incidentKey →
      SameOrigin first input) ∧
    earlier.countP (·.observes input.incidentKey) < PostgresApiWatchIncidentStore.maxInteger
  | .resolve key resolvedAt expected => ∀ count, expectedCount expected = some count →
    PostgresApiWatchIncidentStore.isText key = true ∧ storesTime resolvedAt = true ∧
      count ≤ PostgresApiWatchIncidentStore.maxInteger
  | .listOpen => True
  | .find key => PostgresApiWatchIncidentStore.isText key = true

namespace PostgresApiWatchIncidentStore

variable {storesTime : StoresTime} {s : Incidents} {input : Observation}

theorem varchar_self {max : Nat} {s : String} :
    varchar max s = some s ↔ isText s = true ∧ s.length ≤ max := by
  unfold varchar
  split_ifs with htext hlength hblank
  · simp_all
  · simp_all
  · simp only [Option.some.injEq, Nat.not_le.mpr (Nat.not_le.mp hlength), and_false, iff_false]
    intro heq
    have hcut := congrArg String.length heq
    simp only [String.length_ofList, List.length_take] at hcut
    rw [String.length_toList] at hcut
    omega
  · simp_all

theorem nullable_self {max : Nat} {s : Option String} :
    nullable (varchar max) s = some s ↔ ∀ t ∈ s, isText t = true ∧ t.length ≤ max := by
  cases s with
  | none => simp [nullable]
  | some t =>
    simp only [nullable, Option.map_eq_some_iff, Option.some.injEq, exists_eq_right, Option.mem_def]
    rw [varchar_self]
    simp

/-- What a tuple takes from its values. -/
structure TupleOf (storesTime : StoresTime) (input : Observation) (incidentId occurrenceCount : Nat)
    (t : ApiWatchIncident) : Prop where
  incidentKey : varchar 700 input.incidentKey = some t.incidentKey
  documentKey : nullable (varchar 128) input.documentKey = some t.documentKey
  nonempty : documentKeyNonempty t.documentKey = true
  operationIdentity : nullable (varchar 512) input.operationIdentity = some t.operationIdentity
  latestReportId : varchar 160 input.latestReportId = some t.latestReportId
  latestDiffSha256 : nullable (varchar 64) input.latestDiffSha256 = some t.latestDiffSha256
  safeSummaryCode : varchar 80 input.safeSummaryCode = some t.safeSummaryCode
  firstSeenAt : storesTime input.firstSeenAt = true
  lastSeenAt : storesTime input.lastSeenAt = true
  inRange : occurrenceCount ≤ maxInteger
  rest : t = { input with
    incidentKey := t.incidentKey, documentKey := t.documentKey
    operationIdentity := t.operationIdentity, latestReportId := t.latestReportId
    latestDiffSha256 := t.latestDiffSha256, safeSummaryCode := t.safeSummaryCode
    incidentId, occurrenceCount
    state := .OPEN
    resolvedAt := none }

theorem tuple_of {incidentId occurrenceCount : Nat} {t : ApiWatchIncident}
    (h : tuple storesTime input incidentId occurrenceCount = some t) :
    TupleOf storesTime input incidentId occurrenceCount t := by
  unfold tuple at h
  simp only [Option.bind_eq_bind, Option.bind_eq_some_iff, Option.ite_none_right_eq_some,
    Option.some.injEq, Bool.and_eq_true, decide_eq_true_eq] at h
  obtain ⟨_, hkey, _, hdocument, _, hoperation, _, hreport, _, hdiff, _, hsummary, hchecks, rfl⟩ := h
  exact ⟨hkey, hdocument, hchecks.2, hoperation, hreport, hdiff, hsummary, hchecks.1.1.1,
    hchecks.1.1.2, hchecks.1.2, rfl⟩

theorem tuple_storable (h : Storable storesTime input) {occurrenceCount : Nat}
    (hrange : occurrenceCount ≤ maxInteger) (incidentId : Nat) :
    tuple storesTime input incidentId occurrenceCount = some { input with
      incidentId, occurrenceCount
      state := .OPEN
      resolvedAt := none } := by
  unfold tuple
  rw [varchar_self.mpr h.incidentKey, nullable_self.mpr h.documentKey,
    nullable_self.mpr h.operationIdentity, varchar_self.mpr h.latestReportId,
    nullable_self.mpr h.latestDiffSha256, varchar_self.mpr h.safeSummaryCode]
  simp [h.firstSeenAt, h.lastSeenAt, h.nonempty, hrange]

end PostgresApiWatchIncidentStore

/-- What an observation leaves under its key. -/
def Observation.seen (input : Observation) (row : Option ApiWatchIncident) (drawn : Nat) :
    ApiWatchIncident :=
  { input with
    incidentId := (row.map (·.incidentId)).getD drawn
    occurrenceCount := (row.map (·.occurrenceCount + 1)).getD 1
    state := .OPEN
    resolvedAt := none }

theorem memory_observe (s : Incidents) (input : Observation) :
    InMemoryApiWatchIncidentStore.observe s input =
      ((input.seen (s.records.get input.incidentKey) s.drawn,
          (s.records.get input.incidentKey).all (·.state ≠ .OPEN)),
        ⟨s.records.set input.incidentKey (input.seen (s.records.get input.incidentKey) s.drawn),
          if (s.records.get input.incidentKey).isSome then s.drawn else s.drawn + 1⟩) := by
  unfold InMemoryApiWatchIncidentStore.observe
  cases s.records.get input.incidentKey with
  | none => rfl
  | some row => rfl

/-- A store of the recorded calls. -/
structure Recorded (earlier : List StoreCall) (s : Incidents) : Prop where
  missing : ∀ key, s.records.get key = none → ∀ input, .observe input ∈ earlier →
    input.incidentKey ≠ key
  found : ∀ key incident, s.records.get key = some incident → incident.incidentKey = key ∧
    (∀ t ∈ incident.operationIdentity,
      PostgresApiWatchIncidentStore.isText t = true ∧ t.length ≤ 512) ∧
    ∃ first, .observe first ∈ earlier ∧ first.incidentKey = key
  origin : ∀ key incident, s.records.get key = some incident → ∀ first, .observe first ∈ earlier →
    first.incidentKey = key → SameOrigin first incident.toObservation
  count : ∀ key, ((s.records.get key).map (·.occurrenceCount)).getD 0 =
    earlier.countP (·.observes key)

section Step

variable {storesTime : StoresTime} {earlier : List StoreCall} {s : Incidents}

theorem SameOrigin.symm {first input : Observation} (h : SameOrigin first input) :
    SameOrigin input first :=
  ⟨h.incidentType.symm, h.sourceFamily.symm, h.operationIdentity.symm, h.firstSeenAt.symm⟩

theorem SameOrigin.trans {first second third : Observation} (h : SameOrigin first second)
    (h' : SameOrigin second third) : SameOrigin first third where
  incidentType := h'.incidentType.trans h.incidentType
  sourceFamily := h'.sourceFamily.trans h.sourceFamily
  operationIdentity := h'.operationIdentity.trans h.operationIdentity
  firstSeenAt := h'.firstSeenAt.trans h.firstSeenAt

/-- The table answers an agreeable observation as the map does. -/
theorem postgres_observe (hrec : Recorded earlier s) {input : Observation}
    (h : Agreeable storesTime earlier (.observe input)) :
    PostgresApiWatchIncidentStore.observe storesTime s input =
      (.ok (InMemoryApiWatchIncidentStore.observe s input).1,
        (InMemoryApiWatchIncidentStore.observe s input).2) := by
  obtain ⟨hstorable, horigin, hcount⟩ := h
  have hrecorded := hrec.count input.incidentKey
  rw [memory_observe]
  unfold PostgresApiWatchIncidentStore.observe
  cases hrow : s.records.get input.incidentKey with
  | none =>
    have htuple := PostgresApiWatchIncidentStore.tuple_storable hstorable
      (show 1 ≤ PostgresApiWatchIncidentStore.maxInteger by decide) s.drawn
    simp [htuple, upsert, hrow, Observation.seen]
  | some row =>
    simp only [hrow, Option.map_some, Option.getD_some] at hrecorded
    have hrange : row.occurrenceCount + 1 ≤ PostgresApiWatchIncidentStore.maxInteger := by omega
    have htuple := PostgresApiWatchIncidentStore.tuple_storable hstorable hrange row.incidentId
    obtain ⟨hkey, -, first, hfirst, hfirstKey⟩ := hrec.found _ row hrow
    have hsame : SameOrigin row.toObservation input :=
      (hrec.origin _ row hrow first hfirst hfirstKey).symm.trans (horigin first hfirst hfirstKey)
    have hnext : { row with
        documentKey := input.documentKey
        lastSeenAt := input.lastSeenAt
        resolvedAt := none
        occurrenceCount := row.occurrenceCount + 1
        severity := input.severity
        latestReportId := input.latestReportId
        latestDiffSha256 := input.latestDiffSha256
        safeSummaryCode := input.safeSummaryCode
        state := .OPEN } = input.seen (some row) s.drawn := by
      unfold Observation.seen
      rw [← hsame.incidentType, ← hsame.sourceFamily, ← hsame.operationIdentity,
        ← hsame.firstSeenAt, hkey]
      rfl
    simp [htuple, upsert, hrow, hrange, hnext]

/-- The upserted row under the key of the observation, if there is one. -/
theorem upsert_get {records records' : JsMap String ApiWatchIncident} {excluded : ApiWatchIncident}
    {key : String} (h : upsert records excluded = some records')
    (hother : key ≠ excluded.incidentKey) : records'.get key = records.get key := by
  unfold upsert at h
  split at h
  · cases h
    exact JsMap.get_set_other _ _ hother
  · split at h
    · cases h
      exact JsMap.get_set_other _ _ hother
    · cases h

theorem storable_of {input : Observation} {incidentId occurrenceCount : Nat} {t : ApiWatchIncident}
    (h : PostgresApiWatchIncidentStore.TupleOf storesTime input incidentId occurrenceCount t)
    (hkey : t.incidentKey = input.incidentKey) (hdocument : t.documentKey = input.documentKey)
    (hreport : t.latestReportId = input.latestReportId)
    (hdiff : t.latestDiffSha256 = input.latestDiffSha256)
    (hsummary : t.safeSummaryCode = input.safeSummaryCode)
    (hoperation : ∀ text ∈ input.operationIdentity,
      PostgresApiWatchIncidentStore.isText text = true ∧ text.length ≤ 512) :
    Storable storesTime input where
  incidentKey := PostgresApiWatchIncidentStore.varchar_self.mp (hkey ▸ h.incidentKey)
  documentKey := PostgresApiWatchIncidentStore.nullable_self.mp (hdocument ▸ h.documentKey)
  nonempty := hdocument ▸ h.nonempty
  operationIdentity := hoperation
  latestReportId := PostgresApiWatchIncidentStore.varchar_self.mp (hreport ▸ h.latestReportId)
  latestDiffSha256 := PostgresApiWatchIncidentStore.nullable_self.mp (hdiff ▸ h.latestDiffSha256)
  safeSummaryCode := PostgresApiWatchIncidentStore.varchar_self.mp (hsummary ▸ h.safeSummaryCode)
  firstSeenAt := h.firstSeenAt
  lastSeenAt := h.lastSeenAt

theorem agreeable_of_observe (hrec : Recorded earlier s) {input : Observation}
    (h : (PostgresApiWatchIncidentStore.observe storesTime s input).1 =
      .ok (InMemoryApiWatchIncidentStore.observe s input).1) :
    Agreeable storesTime earlier (.observe input) := by
  rw [memory_observe] at h
  unfold PostgresApiWatchIncidentStore.observe at h
  dsimp only at h
  split at h
  · cases h
  rename_i records hrecords
  split at h
  · cases h
  rename_i saved hsaved
  simp only [Except.ok.injEq, Prod.mk.injEq, and_true] at h
  subst h
  obtain ⟨t, ht, hupsert⟩ := Option.bind_eq_some_iff.mp hrecords
  have htuple := PostgresApiWatchIncidentStore.tuple_of ht
  have hkey : t.incidentKey = input.incidentKey := by
    by_contra hother
    rw [upsert_get hupsert (Ne.symm hother)] at hsaved
    cases hrow : s.records.get input.incidentKey with
    | none =>
      rw [hrow] at hsaved
      cases hsaved
    | some row =>
      rw [hrow, Option.some.injEq] at hsaved
      have hcount := congrArg (·.occurrenceCount) hsaved
      simp [Observation.seen] at hcount
  have hrecorded := hrec.count input.incidentKey
  unfold upsert at hupsert
  rw [hkey] at hupsert
  cases hrow : s.records.get input.incidentKey with
  | none =>
    simp only [hrow, Option.some.injEq] at hupsert
    subst hupsert
    rw [JsMap.get_set_self, Option.some.injEq, hrow] at hsaved
    subst hsaved
    simp only [hrow, Option.map_none, Option.getD_none] at hrecorded
    refine ⟨storable_of htuple rfl rfl rfl rfl rfl ?_, fun first hfirst hfirstKey =>
      absurd hfirstKey (hrec.missing _ hrow first hfirst), hrecorded ▸ by decide⟩
    exact PostgresApiWatchIncidentStore.nullable_self.mp htuple.operationIdentity
  | some row =>
    simp only [hrow] at hupsert
    split at hupsert
    · rename_i hrange
      cases hupsert
      rw [JsMap.get_set_self, Option.some.injEq, hrow] at hsaved
      obtain ⟨-, hoperation, first, hfirst, hfirstKey⟩ := hrec.found _ row hrow
      have hsame : SameOrigin row.toObservation input :=
        ⟨(congrArg (·.incidentType) hsaved).symm, (congrArg (·.sourceFamily) hsaved).symm,
          (congrArg (·.operationIdentity) hsaved).symm, (congrArg (·.firstSeenAt) hsaved).symm⟩
      simp only [hrow, Option.map_some, Option.getD_some] at hrecorded
      refine ⟨storable_of htuple hkey (congrArg (·.documentKey) hsaved)
        (congrArg (·.latestReportId) hsaved) (congrArg (·.latestDiffSha256) hsaved)
        (congrArg (·.safeSummaryCode) hsaved) ?_, fun other hother hotherKey => ?_, by omega⟩
      · rw [hsame.operationIdentity]
        exact hoperation
      · exact (hrec.origin _ row hrow other hother hotherKey).trans hsame
    · cases hupsert

theorem postgres_resolve {key : String} {resolvedAt : Date} {expected : Option Int}
    (h : Agreeable storesTime earlier (.resolve key resolvedAt expected)) :
    PostgresApiWatchIncidentStore.resolve storesTime s key resolvedAt expected =
      (.ok (InMemoryApiWatchIncidentStore.resolve s key resolvedAt expected).1,
        (InMemoryApiWatchIncidentStore.resolve s key resolvedAt expected).2) := by
  unfold PostgresApiWatchIncidentStore.resolve InMemoryApiWatchIncidentStore.resolve
  cases hexpected : expectedCount expected with
  | none => rfl
  | some count =>
    obtain ⟨htext, htime, hrange⟩ := h count hexpected
    cases hrow : s.records.get key with
    | none => simp [htext, htime, Nat.not_lt.mpr hrange]
    | some row => 
      by_cases hversion : row.isVersion count = true <;>
        simp [htext, htime, Nat.not_lt.mpr hrange, Option.filter, hversion]

theorem agreeable_of_resolve {key : String} {resolvedAt : Date} {expected : Option Int}
    {answer : Option ApiWatchIncident}
    (h : (PostgresApiWatchIncidentStore.resolve storesTime s key resolvedAt expected).1 = .ok answer) :
    Agreeable storesTime earlier (.resolve key resolvedAt expected) := by
  intro count hexpected
  unfold PostgresApiWatchIncidentStore.resolve at h
  simp only [hexpected] at h
  split at h
  · cases h
  · rename_i hchecks
    simpa [and_assoc] using hchecks

/-- The open incidents of the two stores, whatever their orders. -/
theorem listOpen_perm (localeCompare collation : KeyOrder) (s : Incidents) :
    (PostgresApiWatchIncidentStore.listOpen s collation).Perm
      (InMemoryApiWatchIncidentStore.listOpen s localeCompare) :=
  (List.mergeSort_perm _ _).trans (List.mergeSort_perm _ _).symm

/-- One call: the answers are the same exactly when the call is agreeable, and then so are the
stores. -/
theorem step_agrees (localeCompare collation : KeyOrder) (hrec : Recorded earlier s)
    (call : StoreCall) :
    (Same (postgresStep storesTime collation s call).1 (memoryStep localeCompare s call).1 ↔
      Agreeable storesTime earlier call) ∧
    (Agreeable storesTime earlier call →
      (postgresStep storesTime collation s call).2 = (memoryStep localeCompare s call).2) := by
  cases call with
  | observe input =>
    refine ⟨⟨fun hsame => ?_, fun h => ?_⟩, fun h => ?_⟩
    · refine agreeable_of_observe hrec ?_
      unfold postgresStep memoryStep at hsame
      cases hanswer : (PostgresApiWatchIncidentStore.observe storesTime s input).1 with
      | error error => simp [hanswer, Except.map, Same] at hsame
      | ok saved =>
        simp only [hanswer, Except.map, Same, StoreAnswer.observed.injEq] at hsame
        rw [Prod.ext hsame.1 hsame.2]
    · simp [postgresStep, memoryStep, postgres_observe hrec h, Except.map, Same]
    · simp [postgresStep, memoryStep, postgres_observe hrec h]
  | resolve key resolvedAt expected =>
    refine ⟨⟨fun hsame => ?_, fun h => ?_⟩, fun h => ?_⟩
    · unfold postgresStep memoryStep at hsame
      cases hanswer : (PostgresApiWatchIncidentStore.resolve storesTime s key resolvedAt expected).1 with
      | error error => simp [hanswer, Except.map, Same] at hsame
      | ok answer => exact agreeable_of_resolve hanswer
    · simp [postgresStep, memoryStep, postgres_resolve h, Except.map, Same]
    · simp [postgresStep, memoryStep, postgres_resolve h]
  | listOpen => exact ⟨⟨fun _ => trivial, fun _ => listOpen_perm localeCompare collation s⟩, fun _ => rfl⟩
  | find key =>
    refine ⟨⟨fun hsame => ?_, fun h => ?_⟩, fun _ => rfl⟩
    · by_contra htext
      simp [postgresStep, memoryStep, PostgresApiWatchIncidentStore.find, Agreeable] at hsame htext
      simp [htext, Except.map, Same] at hsame
    · have htext : PostgresApiWatchIncidentStore.isText key = true := h
      simp [postgresStep, memoryStep, PostgresApiWatchIncidentStore.find, htext, Except.map, Same,
        InMemoryApiWatchIncidentStore.find]

/-- A call that observes nothing and at most resolves incidents keeps the description. -/
theorem Recorded.silent (hrec : Recorded earlier s) {call : StoreCall} {s' : Incidents}
    (hcall : ∀ input, call ≠ .observe input)
    (hsame : ∀ key, s'.records.get key = s.records.get key ∨ ∃ row resolvedAt,
      s.records.get key = some row ∧ s'.records.get key = some (row.resolved resolvedAt)) :
    Recorded (earlier ++ [call]) s' := by
  have hmem (input : Observation) : .observe input ∈ earlier ++ [call] ↔ .observe input ∈ earlier := by
    simp [Ne.symm (hcall input)]
  constructor
  · intro key hnone input hinput
    rcases hsame key with heq | ⟨row, resolvedAt, -, hsome⟩
    · exact hrec.missing key (heq ▸ hnone) input ((hmem input).mp hinput)
    · rw [hnone] at hsome
      cases hsome
  · intro key incident hfound
    simp only [hmem]
    rcases hsame key with heq | ⟨row, resolvedAt, hrow, hsome⟩
    · exact hrec.found key incident (heq ▸ hfound)
    · rw [hfound, Option.some.injEq] at hsome
      subst hsome
      exact hrec.found key row hrow
  · intro key incident hfound first hfirst hkey
    rw [hmem] at hfirst
    rcases hsame key with heq | ⟨row, resolvedAt, hrow, hsome⟩
    · exact hrec.origin key incident (heq ▸ hfound) first hfirst hkey
    · rw [hfound, Option.some.injEq] at hsome
      subst hsome
      obtain ⟨htype, hfamily, hoperation, hseen⟩ := hrec.origin key row hrow first hfirst hkey
      exact ⟨htype, hfamily, hoperation, hseen⟩
  · intro key
    have hcount := hrec.count key
    have hother : call.observes key = false := by
      cases call with
      | observe input => exact absurd rfl (hcall input)
      | _ => rfl
    rw [List.countP_append, List.countP_singleton, if_neg (by simp [hother]), Nat.add_zero]
    rcases hsame key with heq | ⟨row, resolvedAt, hrow, hsome⟩
    · rw [heq, hcount]
    · rw [hrow] at hcount
      rw [hsome]
      exact hcount

theorem Recorded.observed (hrec : Recorded earlier s) {input : Observation}
    (h : Agreeable storesTime earlier (.observe input)) :
    Recorded (earlier ++ [.observe input]) (InMemoryApiWatchIncidentStore.observe s input).2 := by
  obtain ⟨hstorable, horigin, -⟩ := h
  rw [memory_observe]
  constructor
  · intro key hnone first hfirst hkey
    dsimp only at hnone
    rw [JsMap.get_set] at hnone
    split at hnone
    · cases hnone
    · rename_i hother
      rcases List.mem_append.mp hfirst with hmem | hmem
      · exact hrec.missing key hnone first hmem hkey
      · cases List.mem_singleton.mp hmem
        exact hother hkey.symm
  · intro key incident hfound
    dsimp only at hfound
    rw [JsMap.get_set] at hfound
    split at hfound
    · rename_i hkey
      cases hfound
      exact ⟨hkey.symm, hstorable.operationIdentity, input, by simp, hkey.symm⟩
    · obtain ⟨hkey, hoperation, first, hfirst, hfirstKey⟩ := hrec.found key incident hfound
      exact ⟨hkey, hoperation, first, List.mem_append_left _ hfirst, hfirstKey⟩
  · intro key incident hfound first hfirst hfirstKey
    dsimp only at hfound
    rw [JsMap.get_set] at hfound
    split at hfound
    · rename_i hkey
      cases hfound
      rcases List.mem_append.mp hfirst with hmem | hmem
      · obtain ⟨htype, hfamily, hoperation, hseen⟩ := horigin first hmem (hfirstKey.trans hkey)
        exact ⟨htype, hfamily, hoperation, hseen⟩
      · cases List.mem_singleton.mp hmem
        exact ⟨rfl, rfl, rfl, rfl⟩
    · rename_i hother
      rcases List.mem_append.mp hfirst with hmem | hmem
      · exact hrec.origin key incident hfound first hmem hfirstKey
      · cases List.mem_singleton.mp hmem
        exact absurd hfirstKey.symm hother
  · intro key
    have hcount := hrec.count key
    rw [List.countP_append, List.countP_singleton]
    dsimp only
    rw [JsMap.get_set]
    by_cases hkey : key = input.incidentKey
    · subst hkey
      rw [if_pos rfl, if_pos (by simp [StoreCall.observes]), ← hcount]
      cases s.records.get input.incidentKey <;> simp [Observation.seen]
    · rw [if_neg hkey, if_neg (by simp [StoreCall.observes, Ne.symm hkey]), hcount, Nat.add_zero]

theorem memory_resolve_cases (s : Incidents) (key : String) (resolvedAt : Date)
    (expected : Option Int) :
    InMemoryApiWatchIncidentStore.resolve s key resolvedAt expected = (none, s) ∨
    ∃ count row, expectedCount expected = some count ∧ s.records.get key = some row ∧
      row.isVersion count = true ∧
      InMemoryApiWatchIncidentStore.resolve s key resolvedAt expected =
        (some (row.resolved resolvedAt),
          { s with records := s.records.set key (row.resolved resolvedAt) }) := by
  unfold InMemoryApiWatchIncidentStore.resolve
  split
  · rename_i count row hexpected hrow
    split
    · rename_i hversion
      exact .inr ⟨count, row, hexpected, hrow, hversion, rfl⟩
    · exact .inl rfl
  · exact .inl rfl

/-- An agreeable call keeps the description of the store. -/
theorem Recorded.step (localeCompare : KeyOrder) (hrec : Recorded earlier s) {call : StoreCall}
    (h : Agreeable storesTime earlier call) :
    Recorded (earlier ++ [call]) (memoryStep localeCompare s call).2 := by
  cases call with
  | observe input => exact hrec.observed h
  | resolve key resolvedAt expected =>
    refine hrec.silent (fun _ => StoreCall.noConfusion) fun other => ?_
    rcases memory_resolve_cases s key resolvedAt expected with hnone | ⟨_, row, -, hrow, -, hsome⟩
    · exact .inl (by simp [memoryStep, hnone])
    · simp only [memoryStep, hsome, JsMap.get_set]
      by_cases hother : other = key
      · exact .inr ⟨row, resolvedAt, hother ▸ hrow, if_pos hother⟩
      · exact .inl (if_neg hother)
  | listOpen => exact hrec.silent (fun _ => StoreCall.noConfusion) fun _ => .inl rfl
  | find key => exact hrec.silent (fun _ => StoreCall.noConfusion) fun _ => .inl rfl

end Step

/-- Every call of the sequence is agreeable after the calls before it. -/
def AllAgreeable (storesTime : StoresTime) : List StoreCall → List StoreCall → Prop
  | _, [] => True
  | earlier, call :: rest =>
    Agreeable storesTime earlier call ∧ AllAgreeable storesTime (earlier ++ [call]) rest

theorem answers_agree_iff (storesTime : StoresTime) (localeCompare collation : KeyOrder)
    {earlier : List StoreCall} {s : Incidents} (hrec : Recorded earlier s) (calls : List StoreCall) :
    List.Forall₂ Same (answers (postgresStep storesTime collation) s calls)
      (answers (memoryStep localeCompare) s calls) ↔ AllAgreeable storesTime earlier calls := by
  induction calls generalizing earlier s with
  | nil => exact ⟨fun _ => trivial, fun _ => .nil⟩
  | cons call rest ih =>
    obtain ⟨hanswer, hstate⟩ := step_agrees localeCompare collation hrec call
    rw [answers, answers, List.forall₂_cons, hanswer, AllAgreeable]
    refine and_congr_right fun hagree => ?_
    rw [hstate hagree]
    exact ih (hrec.step localeCompare hagree)

theorem recorded_empty : Recorded [] {} where
  missing _ _ _ hmem := absurd hmem List.not_mem_nil
  found key _ hfound := by
    rw [JsMap.get_empty] at hfound
    cases hfound
  origin _ _ _ _ hmem := absurd hmem List.not_mem_nil
  count _ := rfl

/-- The two stores, both empty, answer a sequence of calls alike exactly when every call is
agreeable. -/
theorem incident_stores_agree_iff (storesTime : StoresTime) (localeCompare collation : KeyOrder)
    (calls : List StoreCall) :
    List.Forall₂ Same (answers (postgresStep storesTime collation) {} calls)
      (answers (memoryStep localeCompare) {} calls) ↔ AllAgreeable storesTime [] calls :=
  answers_agree_iff storesTime localeCompare collation recorded_empty calls

/-- An observation as the evaluator makes it: its first time is the time of the evaluation. -/
def sampleObservation (now : Date) : Observation :=
  ⟨"WATCH_RUN_FAILED:GLOBAL:SOURCE", .WATCH_RUN_FAILED, none, none, none, now, now, .BLOCKING_RISK,
    "report", none, "WATCH_RUN_FAILED"⟩

/-- An incident that is observed again has another first time in each of the two stores. -/
theorem incident_stores_disagree :
    ¬ List.Forall₂ Same
      (answers (postgresStep (fun _ => true) fun _ _ => true) {}
        [.observe (sampleObservation 0), .observe (sampleObservation 1000)])
      (answers (memoryStep fun _ _ => true) {}
        [.observe (sampleObservation 0), .observe (sampleObservation 1000)]) := by
  rw [answers_agree_iff _ _ _ recorded_empty]
  rintro ⟨-, ⟨-, hsame, -⟩, -⟩
  have hseen := (hsame (sampleObservation 0) (by simp) rfl).firstSeenAt
  exact absurd hseen (by decide)

end SellerAgents.ApiWatch
