import SellerAgents.ApiWatch.Evaluation

namespace SellerAgents.ApiWatch

open Js
open Subscriptions (Date)

/-! What the evaluator relies on of a store. -/

/-- What an observation may do. -/
inductive ObserveResult (s : Incidents) (input : Observation) :
    Except Failure (ApiWatchIncident × Bool) → Incidents → Prop where
  | refused (error : Failure) : ObserveResult s input (.error error) s
  | seen (incident : ApiWatchIncident) (drawn : Nat)
      (key : incident.incidentKey = input.incidentKey) (isOpen : incident.state = .OPEN)
      (count : incident.occurrenceCount =
        ((s.records.get input.incidentKey).map (·.occurrenceCount + 1)).getD 1) :
      ObserveResult s input
        (.ok (incident, (s.records.get input.incidentKey).all (·.state ≠ .OPEN)))
        ⟨s.records.set input.incidentKey incident, drawn⟩

/-- What a resolution may do. -/
inductive ResolveResult (s : Incidents) (key : String) (resolvedAt : Date) (expected : Nat) :
    Except Failure (Option ApiWatchIncident) → Incidents → Prop where
  | refused (error : Failure) : ResolveResult s key resolvedAt expected (.error error) s
  | kept : ResolveResult s key resolvedAt expected (.ok none) s
  | resolved (row : ApiWatchIncident) (found : s.records.get key = some row)
      (version : row.isVersion expected = true) :
      ResolveResult s key resolvedAt expected (.ok (some (row.resolved resolvedAt)))
        { s with records := s.records.set key (row.resolved resolvedAt) }

/-- A store of incidents. -/
structure ApiWatchIncidentStore where
  observe : Incidents → Observation → Except Failure (ApiWatchIncident × Bool) × Incidents
  resolve : Incidents → String → Date → Nat → Except Failure (Option ApiWatchIncident) × Incidents
  listOpen : Incidents → List ApiWatchIncident
  /-- What holds of the records at all times. -/
  Valid : Incidents → Prop
  valid_empty : Valid {}
  observe_result {s : Incidents} (input : Observation) (valid : Valid s) :
    ObserveResult s input (observe s input).1 (observe s input).2
  observe_valid {s : Incidents} (input : Observation) (valid : Valid s) :
    Valid (observe s input).2
  resolve_result {s : Incidents} (key : String) (resolvedAt : Date) (expected : Nat)
    (valid : Valid s) :
    ResolveResult s key resolvedAt expected (resolve s key resolvedAt expected).1
      (resolve s key resolvedAt expected).2
  resolve_valid {s : Incidents} (key : String) (resolvedAt : Date) (expected : Nat)
    (valid : Valid s) : Valid (resolve s key resolvedAt expected).2
  mem_listOpen {s : Incidents} {incident : ApiWatchIncident} (valid : Valid s) :
    incident ∈ listOpen s ↔ s.records.get incident.incidentKey = some incident ∧
      incident.state = .OPEN

/-- Every record has its own key, and the key is one that the store can hold. -/
def Keyed (storable : String → Prop) (s : Incidents) : Prop :=
  ∀ key row, s.records.get key = some row → row.incidentKey = key ∧ storable key

section Stores

variable {storable : String → Prop} {s : Incidents}

theorem Keyed.set (h : Keyed storable s) {s' : Incidents} {key : String} {row : ApiWatchIncident}
    (hset : s'.records = s.records.set key row) (hkey : row.incidentKey = key)
    (hstorable : storable key) : Keyed storable s' := by
  intro other found hfound
  rw [hset] at hfound
  rw [JsMap.get_set] at hfound
  split at hfound
  · rename_i hother
    cases hfound
    subst hother
    exact ⟨hkey, hstorable⟩
  · exact h other found hfound

theorem Keyed.empty : Keyed storable {} := by
  intro key row hfound
  rw [JsMap.get_empty] at hfound
  cases hfound

theorem Keyed.mem_open (h : Keyed storable s) (order : KeyOrder) {incident : ApiWatchIncident} :
    incident ∈ InMemoryApiWatchIncidentStore.listOpen s order ↔
      s.records.get incident.incidentKey = some incident ∧ incident.state = .OPEN := by
  unfold InMemoryApiWatchIncidentStore.listOpen
  rw [List.mem_mergeSort, List.mem_filter, JsMap.mem_values, decide_eq_true_eq]
  refine and_congr_left fun _ => ⟨fun ⟨key, hkey⟩ => ?_, fun hkey => ⟨_, hkey⟩⟩
  rw [(h key incident hkey).1, hkey]

end Stores

/-- The store in memory. -/
def memoryStore (localeCompare : KeyOrder) : ApiWatchIncidentStore where
  observe s input :=
    let result := InMemoryApiWatchIncidentStore.observe s input
    (.ok result.1, result.2)
  resolve s key resolvedAt expected :=
    let result := InMemoryApiWatchIncidentStore.resolve s key resolvedAt (some expected)
    (.ok result.1, result.2)
  listOpen s := InMemoryApiWatchIncidentStore.listOpen s localeCompare
  Valid := Keyed fun _ => True
  valid_empty := .empty
  observe_result {s} input _ := by
    rw [memory_observe]
    exact .seen _ _ rfl rfl rfl
  observe_valid {s} input valid := by
    rw [memory_observe]
    exact valid.set rfl rfl trivial
  resolve_result {s} key resolvedAt expected _ := by
    rcases memory_resolve_cases s key resolvedAt (some expected) with
      hnone | ⟨count, row, hcount, hrow, hversion, hsome⟩
    · rw [hnone]
      exact .kept
    · rw [hsome]
      have hexpected : count = expected := by
        simp only [expectedCount, Option.map_eq_some_iff, Option.filter_eq_some_iff] at hcount
        obtain ⟨_, ⟨hn, -⟩, rfl⟩ := hcount
        cases hn
        rfl
      exact .resolved row hrow (hexpected ▸ hversion)
  resolve_valid {s} key resolvedAt expected valid := by
    rcases memory_resolve_cases s key resolvedAt (some expected) with
      hnone | ⟨count, row, -, hrow, -, hsome⟩
    · rw [hnone]
      exact valid
    · rw [hsome]
      exact valid.set rfl (valid key row hrow).1 trivial
  mem_listOpen valid := valid.mem_open localeCompare

namespace PostgresApiWatchIncidentStore

variable {s : Incidents}

theorem varchar_eq {max : Nat} {text stored : String} (h : varchar max text = some stored)
    (hlength : text.length ≤ max) : stored = text := by
  unfold varchar at h
  rw [if_pos hlength] at h
  split at h
  · cases h
  · cases h
    rfl

/-- An observation is refused, or leaves the incident that it returns. -/
theorem observe_cases (storesTime : StoresTime) (input : Observation) (valid : Keyed (fun key => key.length ≤ 700) s) :
    (∃ error, observe storesTime s input = (.error error, s)) ∨
    ∃ saved drawn, observe storesTime s input =
        (.ok (saved, (s.records.get input.incidentKey).all (·.state ≠ .OPEN)),
          ⟨s.records.set input.incidentKey saved, drawn⟩) ∧
      saved.incidentKey = input.incidentKey ∧ input.incidentKey.length ≤ 700 ∧
      saved.state = .OPEN ∧ saved.occurrenceCount =
        ((s.records.get input.incidentKey).map (·.occurrenceCount + 1)).getD 1 := by
  unfold observe
  dsimp only
  split
  · exact .inl ⟨_, rfl⟩
  rename_i records hrecords
  split
  · exact .inl ⟨_, rfl⟩
  rename_i saved hsaved
  obtain ⟨t, ht, hupsert⟩ := Option.bind_eq_some_iff.mp hrecords
  have htuple := tuple_of ht
  have hkey : t.incidentKey = input.incidentKey := by
    by_contra hother
    rw [upsert_get hupsert (Ne.symm hother)] at hsaved
    exact hother (varchar_eq htuple.incidentKey (valid _ saved hsaved).2)
  have hlength : input.incidentKey.length ≤ 700 :=
    (varchar_self.mp (hkey ▸ htuple.incidentKey)).2
  have hrest := htuple.rest
  unfold upsert at hupsert
  rw [hkey] at hupsert
  cases hrow : s.records.get input.incidentKey with
  | none =>
    simp only [hrow, Option.some.injEq] at hupsert
    subst hupsert
    rw [JsMap.get_set_self, Option.some.injEq] at hsaved
    subst hsaved
    refine .inr ⟨t, _, rfl, hkey, hlength, ?_, ?_⟩
    · rw [hrest]
    · rw [hrest, hrow]
  | some row =>
    simp only [hrow] at hupsert
    split at hupsert
    · cases hupsert
      rw [JsMap.get_set_self, Option.some.injEq] at hsaved
      subst hsaved
      exact .inr ⟨_, _, rfl, (valid _ row hrow).1, hlength, rfl, rfl⟩
    · cases hupsert

/-- A resolution is refused, finds no open incident of the expected version, or closes that one as
the store in memory does. -/
theorem resolve_cases (storesTime : StoresTime) (s : Incidents) (key : String) (resolvedAt : Date) (expected : Nat) :
    (∃ error, resolve storesTime s key resolvedAt (some expected) = (.error error, s)) ∨
    resolve storesTime s key resolvedAt (some expected) = (.ok none, s) ∨
    ∃ row, s.records.get key = some row ∧ row.isVersion expected = true ∧
      resolve storesTime s key resolvedAt (some expected) =
        (.ok (some (row.resolved resolvedAt)),
          { s with records := s.records.set key (row.resolved resolvedAt) }) := by
  unfold resolve
  cases hcount : expectedCount (some ↑expected) with
  | none => exact .inr (.inl rfl)
  | some count =>
    have hexpected : count = expected := by
      simp only [expectedCount, Option.map_eq_some_iff, Option.filter_eq_some_iff] at hcount
      obtain ⟨_, ⟨hn, -⟩, rfl⟩ := hcount
      cases hn
      rfl
    subst hexpected
    dsimp only
    split
    · exact .inl ⟨_, rfl⟩
    split
    · exact .inr (.inl rfl)
    · rename_i row hrow
      obtain ⟨hfound, hversion⟩ := Option.filter_eq_some_iff.mp hrow
      exact .inr (.inr ⟨row, hfound, hversion, rfl⟩)

end PostgresApiWatchIncidentStore

/-- The store in the database. -/
def postgresStore (storesTime : StoresTime) (collation : KeyOrder) : ApiWatchIncidentStore where
  observe s input :=
    let result := PostgresApiWatchIncidentStore.observe storesTime s input
    (result.1.mapError fun _ => .rejected, result.2)
  resolve s key resolvedAt expected :=
    let result := PostgresApiWatchIncidentStore.resolve storesTime s key resolvedAt (some expected)
    (result.1.mapError fun _ => .rejected, result.2)
  listOpen s := PostgresApiWatchIncidentStore.listOpen s collation
  Valid := Keyed fun key => key.length ≤ 700
  valid_empty := .empty
  observe_result {s} input valid := by
    rcases PostgresApiWatchIncidentStore.observe_cases storesTime input valid with
      ⟨error, herror⟩ | ⟨saved, drawn, hsaved, hkey, -, hopen, hcount⟩
    · rw [herror]
      exact .refused _
    · rw [hsaved]
      exact .seen saved drawn hkey hopen hcount
  observe_valid {s} input valid := by
    rcases PostgresApiWatchIncidentStore.observe_cases storesTime input valid with
      ⟨error, herror⟩ | ⟨saved, drawn, hsaved, hkey, hlength, -, -⟩
    · rw [herror]
      exact valid
    · rw [hsaved]
      exact valid.set rfl hkey hlength
  resolve_result {s} key resolvedAt expected _ := by
    rcases PostgresApiWatchIncidentStore.resolve_cases storesTime s key resolvedAt
      expected with ⟨error, herror⟩ | hnone | ⟨row, hrow, hversion, hsome⟩
    · rw [herror]
      exact .refused _
    · rw [hnone]
      exact .kept
    · rw [hsome]
      exact .resolved row hrow hversion
  resolve_valid {s} key resolvedAt expected valid := by
    rcases PostgresApiWatchIncidentStore.resolve_cases storesTime s key resolvedAt
      expected with ⟨error, herror⟩ | hnone | ⟨row, hrow, hversion, hsome⟩
    · rw [herror]
      exact valid
    · rw [hnone]
      exact valid
    · rw [hsome]
      exact valid.set rfl (valid key row hrow).1 (valid key row hrow).2
  mem_listOpen valid := valid.mem_open collation

end SellerAgents.ApiWatch
