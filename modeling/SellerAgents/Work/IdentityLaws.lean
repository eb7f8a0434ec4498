import SellerAgents.Work.ConversationIdentity

namespace SellerAgents.Work
open Js (JsString units truthy orNull)

variable {p : Platform} {input : Observation} {surfaceId : JsString}

/-- What confirmed evidence shows. -/
theorem resolveEvidence_confirmed (h : (resolveEvidence p input surfaceId).status = .confirmed) :
    truthy input.conflict = false ∧ input.surfaceConfirmed = true ∧ input.explicit.length ≤ 1 ∧
      ((∃ id, input.externalId p = some id ∧
        (resolveEvidence p input surfaceId).conversationId = some id ∧
        (resolveEvidence p input surfaceId).identityScope = .conversation) ∨
      input.externalId p = none ∧ (resolveEvidence p input surfaceId).identityScope = .document) := by
  unfold resolveEvidence at h ⊢
  dsimp only at h ⊢
  split at h
  · cases h
  · rename_i horigin
    rw [if_neg horigin]
    split at h
    · cases h
    · rename_i hconflict
      rw [if_neg hconflict]
      split at h
      · cases h
      · rename_i hsurface
        rw [if_neg hsurface]
        split at h
        · cases h
        · rename_i hexplicit
          rw [if_neg hexplicit]
          refine ⟨by simpa using hconflict, by simpa using hsurface, Nat.le_of_not_lt hexplicit, ?_⟩
          cases hexternal : input.externalId p with
          | some id => exact .inl ⟨id, rfl, rfl, rfl⟩
          | none =>
            rw [hexternal] at h
            right
            refine ⟨rfl, ?_⟩
            dsimp only at h ⊢
            split at h
            · rfl
            · cases h

/-- Evidence that is not confirmed has no scope. -/
theorem resolveEvidence_scope (h : (resolveEvidence p input surfaceId).status ≠ .confirmed) :
    (resolveEvidence p input surfaceId).identityScope = .none := by
  unfold resolveEvidence at h ⊢
  dsimp only at h ⊢
  split
  · rfl
  · rename_i horigin
    rw [if_neg horigin] at h
    split
    · rfl
    · rename_i hconflict
      rw [if_neg hconflict] at h
      split
      · rfl
      · rename_i hsurface
        rw [if_neg hsurface] at h
        split
        · rfl
        · rename_i hexplicit
          rw [if_neg hexplicit] at h
          cases hexternal : input.externalId p with
          | some id =>
            rw [hexternal] at h
            exact absurd rfl h
          | none =>
            rw [hexternal] at h
            dsimp only at h ⊢
            split
            · rename_i heq hmessages
              rw [heq, hmessages] at h
              exact absurd rfl h
            · rfl

/-- The id of a surface, as identities carry it. -/
def Surface.key (p : Platform) (s : Surface) : Option JsString := orNull (some (token p (some s.surfaceId)))

@[simp] theorem resolveEvidence_surfaceId :
    (resolveEvidence p input surfaceId).surfaceId = orNull (some (token p (some surfaceId))) := by
  unfold resolveEvidence
  dsimp only
  split
  · rfl
  · split
    · rfl
    · split
      · rfl
      · split
        · rfl
        · split
          · rfl
          · split <;> rfl

/-- The address of a surface is local, or the external one of the surface. -/
def Surface.Sound (s : Surface) : Prop :=
  ∀ id, s.identity = some id →
    (id.status = .confirmed → id.identityScope = .document ∨
      id.identityScope = .conversation ∧ ∃ external, s.externalId = some external ∧ id.conversationId = some external) ∧
    (id.status ≠ .confirmed → id.identityScope = .none)

/-- A surface and evidence of one external address at most. -/
def Surface.Agrees (p : Platform) (s : Surface) (input : Observation) : Prop :=
  ∀ id external, input.externalId p = some id → s.externalId = some external → id = external

/-- Confirmed evidence is asked for where it would replace a confirmed address. -/
def Surface.Firm (p : Platform) (s : Surface) (input : Observation) : Prop :=
  ∀ id ∈ s.identity, id.status = .confirmed → Tracker.doubts p s input = false →
    (resolveEvidence p input s.surfaceId).status = .confirmed

instance (p : Platform) (s : Surface) (input : Observation) : Decidable (s.Firm p input) :=
  inferInstanceAs (Decidable (∀ id ∈ s.identity, _ → _ → _))

namespace Tracker

variable {t : Tracker} {s : Surface}

/-- An identity that is settled keeps the address of its surface. -/
theorem settledIdentity_spec (hsound : s.Sound) (hagrees : s.Agrees p input) (hfirm : s.Firm p input)
    (hdoubts : doubts p s input = false) :
    (settledIdentity p false s input).surfaceId = s.key p ∧
      ((settledIdentity p false s input).status = .confirmed →
        truthy input.conflict = false ∧ input.explicit.length ≤ 1) ∧
      ((settledIdentity p false s input).status ≠ .confirmed →
        (settledIdentity p false s input).identityScope = .none) ∧
      ((settledIdentity p false s input).status = .confirmed →
        (settledIdentity p false s input).identityScope = .document ∨
        (settledIdentity p false s input).identityScope = .conversation ∧
          ∃ external, ((input.externalId p).or s.externalId) = some external ∧
            (settledIdentity p false s input).conversationId = some external) ∧
      ∀ id, s.identity = some id → id.status = .confirmed →
        (settledIdentity p false s input).status = .confirmed ∧
          (settledIdentity p false s input).conversationId = id.conversationId := by
  by_cases hconfirmed : (resolveEvidence p input s.surfaceId).status = .confirmed
  · obtain ⟨hconflict, hsurface, hexplicit, hscope⟩ := resolveEvidence_confirmed hconfirmed
    have hgiven : (resolveEvidence p input s.surfaceId).identityScope = .document ∨
        (resolveEvidence p input s.surfaceId).identityScope = .conversation ∧
          ∃ external, ((input.externalId p).or s.externalId) = some external ∧
            (resolveEvidence p input s.surfaceId).conversationId = some external := by
      rcases hscope with ⟨id, hid, hconversation, hkind⟩ | ⟨-, hkind⟩
      · exact .inr ⟨hkind, id, by simp [hid], hconversation⟩
      · exact .inl hkind
    unfold settledIdentity
    rw [if_neg (by simpa using hconfirmed)]
    cases hidentity : s.identity with
    | none =>
      refine ⟨resolveEvidence_surfaceId, fun _ => ⟨hconflict, hexplicit⟩, fun hnot => absurd hconfirmed hnot,
        fun _ => hgiven, fun id hid => by cases hid⟩
    | some held =>
      dsimp only
      split
      · rename_i hdocument
        refine ⟨resolveEvidence_surfaceId, fun _ => ⟨hconflict, hexplicit⟩, fun hnot => absurd hconfirmed hnot,
          fun _ => .inl rfl, fun id hid hstatus => ⟨hconfirmed, ?_⟩⟩
        obtain rfl := Option.some.inj hid
        rfl
      · rename_i hdocument
        rw [if_neg (by simp)]
        split
        · rename_i hprior
          obtain ⟨hprior, hexternal⟩ : priorConversation s = true ∧ input.externalId p = none := by
            simpa using hprior
          obtain ⟨hkind, hstatus⟩ : held.identityScope = .conversation ∧ held.status = .confirmed := by
            simpa [priorConversation, hidentity] using hprior
          refine ⟨resolveEvidence_surfaceId, fun _ => ⟨hconflict, hexplicit⟩,
            fun hnot => absurd hconfirmed hnot, fun _ => .inr ⟨rfl, ?_⟩, fun id hid hid' => ⟨hconfirmed, ?_⟩⟩
          · obtain ⟨-, external, hown, haddress⟩ := ((hsound held hidentity).1 hstatus).resolve_left hdocument
            exact ⟨external, by simp [hexternal, hown], haddress⟩
          · obtain rfl := Option.some.inj hid
            rfl
        · rename_i hprior
          refine ⟨resolveEvidence_surfaceId, fun _ => ⟨hconflict, hexplicit⟩,
            fun hnot => absurd hconfirmed hnot, fun _ => hgiven, fun id hid hstatus => ⟨hconfirmed, ?_⟩⟩
          obtain rfl := Option.some.inj hid
          obtain ⟨hkind, external, hown, haddress⟩ := ((hsound _ hidentity).1 hstatus).resolve_left hdocument
          have hpriors : priorConversation s = true := by
            simp [priorConversation, hidentity, hkind, hstatus]
          rcases hscope with ⟨new, hnew, hconversation, -⟩ | ⟨hnone, -⟩
          · rw [hconversation, haddress, hagrees new external hnew hown]
          · exact absurd (by simp [hpriors, hnone]) hprior
  · have hsame : settledIdentity p false s input = resolveEvidence p input s.surfaceId := by
      unfold settledIdentity
      rw [if_pos hconfirmed]
    rw [hsame]
    exact ⟨resolveEvidence_surfaceId, fun hstatus => absurd hstatus hconfirmed,
      fun _ => resolveEvidence_scope hconfirmed, fun hstatus => absurd hstatus hconfirmed,
      fun id hid hstatus => absurd (hfirm id hid hstatus hdoubts) hconfirmed⟩

/-- A suspended identity is not confirmed. -/
theorem suspend_status (identity : Option Identity) (source : JsString) :
    (suspend identity source).status = .unknown := by
  cases identity <;> rfl

/-- What `settle` returns, and what it leaves of the surface. -/
theorem settle_spec (hlocal : t.forceLocal = false) (hsound : s.Sound) (hagrees : s.Agrees p input)
    (hfirm : s.Firm p input) :
    ((settle p t s input).1 = t ∧ (settle p t s input).2.status ≠ .confirmed) ∨
      ∃ s', (settle p t s input).1.state = some s' ∧ (settle p t s input).1.forceLocal = false ∧
        s'.key p = s.key p ∧ s'.Sound ∧ s'.identity = some (settle p t s input).2 ∧
        (settle p t s input).2.surfaceId = s.key p ∧
        ∀ id, s.identity = some id → id.status = .confirmed →
          (settle p t s input).2.status = .confirmed ∧
            (settle p t s input).2.conversationId = id.conversationId := by
  unfold settle
  split
  · rename_i hweak
    refine .inl ⟨rfl, fun hconfirmed => ?_⟩
    obtain ⟨hconflict, hsurface, hexplicit, -⟩ := resolveEvidence_confirmed hconfirmed
    simp [hconflict, hsurface] at hweak
    omega
  · split
    · refine .inl ⟨rfl, ?_⟩
      rw [suspend_status]
      decide
    · rename_i hdoubts
      obtain ⟨hkey, -, hnone, hscope, hsame⟩ :=
        settledIdentity_spec hsound hagrees hfirm (by simpa using hdoubts)
      rw [hlocal]
      refine .inr ⟨_, rfl, rfl, rfl, fun id hid => ?_, rfl, hkey, hsame⟩
      obtain rfl := Option.some.inj hid
      exact ⟨hscope, hnone⟩

/-- A confirmed answer of `settle` is for evidence without a conflict and with one explicit id at
most. -/
theorem settle_confirmed (h : (settle p t s input).2.status = .confirmed) :
    truthy input.conflict = false ∧ input.explicit.length ≤ 1 := by
  have hresolved : (resolveEvidence p input s.surfaceId).status = .confirmed := by
    unfold settle at h
    split at h
    · exact h
    · split at h
      · rw [suspend_status] at h
        cases h
      · by_contra hnot
        have hsame : settledIdentity p t.forceLocal s input = resolveEvidence p input s.surfaceId := by
          unfold settledIdentity
          rw [if_pos hnot]
        exact hnot (hsame ▸ h)
  obtain ⟨hconflict, -, hexplicit, -⟩ := resolveEvidence_confirmed hresolved
  exact ⟨hconflict, hexplicit⟩

theorem beginStart_state (t : Tracker) (now : Int) (intentId : JsString) :
    ((t.beginStart now intentId).getD t).state = t.state ∧
      ((t.beginStart now intentId).getD t).forceLocal = t.forceLocal := by
  unfold beginStart
  cases hstate : t.state with
  | none => exact ⟨hstate, rfl⟩
  | some s => exact ⟨rfl, rfl⟩

theorem endStart_state (t : Tracker) (intentId : JsString) (retainWitness : Bool) :
    (t.endStart intentId retainWitness).state = t.state ∧
      (t.endStart intentId retainWitness).forceLocal = t.forceLocal := by
  have hretired : ∀ retires : Bool, (if retires then t.retireRename else t).state = t.state ∧
      (if retires then t.retireRename else t).forceLocal = t.forceLocal := by
    intro retires
    cases retires <;> exact ⟨rfl, rfl⟩
  have hfirst := hretired (!retainWitness && t.renamePermit.any (·.intentId = intentId))
  unfold endStart
  dsimp only
  generalize (if (!retainWitness && t.renamePermit.any (·.intentId = intentId)) = true then t.retireRename
    else t) = first at hfirst ⊢
  split
  · exact hfirst
  · split
    · exact hfirst
    · split <;> exact hfirst

/-- The steps before the judgement leave the surface alone. -/
theorem prepared_state (now : Int) :
    (prepared p t now input).state = t.state ∧ (prepared p t now input).forceLocal = t.forceLocal := by
  unfold prepared recordWitness
  dsimp only
  unfold checkPermit
  split
  · exact ⟨rfl, rfl⟩
  · dsimp only
    split <;> exact ⟨rfl, rfl⟩

theorem continuity_state :
    (continuity p t input).2.state = t.state ∧ (continuity p t input).2.forceLocal = t.forceLocal := by
  unfold continuity
  split
  · exact ⟨rfl, rfl⟩
  · split
    · exact ⟨rfl, rfl⟩
    · split
      · exact ⟨rfl, rfl⟩
      · split
        · dsimp only
          split
          · split <;> exact ⟨rfl, rfl⟩
          · split <;> exact ⟨rfl, rfl⟩
        · split
          · exact ⟨rfl, rfl⟩
          · split
            · exact ⟨rfl, rfl⟩
            · split <;> exact ⟨rfl, rfl⟩

/-- A surface that is kept has the external address of the evidence, if both have one. -/
theorem continuity_kept (h : (continuity p t input).1 = .kept) (hstate : t.state = some s) :
    s.Agrees p input := by
  intro id external hid hexternal
  unfold continuity at h
  rw [hstate] at h
  dsimp only at h
  split at h
  · cases h
  · split at h
    · cases h
    · rename_i hsame
      rw [hid, hexternal] at hsame
      simpa using hsame

end Tracker

/-- An operation of the tracker; `drawn` is what `newToken` gives if it is asked. -/
inductive TrackerEvent where
  | observe (now : Int) (drawn : JsString) (input : Observation)
  | beginStart (now : Int) (intentId : JsString)
  | endStart (intentId : JsString) (retainWitness : Bool)
  | renameStartMessage (now : Int) (input : Observation) (previousId : JsString)

/-- A tracker with the ids of the surfaces it has had and the identities it has returned, latest
first. -/
structure Tracking where
  tracker : Tracker
  surfaces : List (Option JsString)
  returned : List Identity

namespace Tracking

/-- One operation. An operation that throws changes nothing. -/
def step (p : Platform) (w : Tracking) : TrackerEvent → Tracking
  | .observe now drawn input =>
    let result := w.tracker.observe p now drawn input
    let judged := (Tracker.continuity p (w.tracker.prepared p now input) input).1
    { tracker := result.1
      surfaces := if judged = .changed then (Tracker.newSurface p input drawn).key p :: w.surfaces else w.surfaces
      returned := result.2 :: w.returned }
  | .beginStart now intentId => { w with tracker := (w.tracker.beginStart now intentId).getD w.tracker }
  | .endStart intentId retainWitness => { w with tracker := w.tracker.endStart intentId retainWitness }
  | .renameStartMessage now input previousId =>
    { w with tracker := (w.tracker.renameStartMessage p now input previousId).1 }

def run (p : Platform) (w : Tracking) (events : List TrackerEvent) : Tracking := events.foldl (step p) w

def created : Tracking := ⟨createTracker, [], []⟩

/-- A new surface gets an id that no surface had, and where an observation keeps a surface with a
confirmed address its evidence is confirmed. -/
def Prudent (p : Platform) (w : Tracking) : TrackerEvent → Prop
  | .observe now drawn input =>
    let judged := (Tracker.continuity p (w.tracker.prepared p now input) input).1
    (judged = .changed → (Tracker.newSurface p input drawn).key p ∉ w.surfaces) ∧
      (judged = .kept → ∀ s ∈ w.tracker.state, s.Firm p input)
  | .beginStart _ _ | .endStart _ _ | .renameStartMessage _ _ _ => True

/-- A run whose steps are all prudent. -/
def PrudentRun (p : Platform) (w : Tracking) : List TrackerEvent → Prop
  | [] => True
  | event :: events => w.Prudent p event ∧ (w.step p event).PrudentRun p events

instance (p : Platform) (w : Tracking) (event : TrackerEvent) : Decidable (w.Prudent p event) :=
  match event with
  | .observe _ _ _ => inferInstanceAs (Decidable ((_ → _) ∧ (_ → ∀ s ∈ w.tracker.state, _)))
  | .beginStart _ _ | .endStart _ _ | .renameStartMessage _ _ _ => .isTrue trivial

instance decidablePrudentRun (p : Platform) (w : Tracking) :
    (events : List TrackerEvent) → Decidable (w.PrudentRun p events)
  | [] => .isTrue trivial
  | event :: events =>
    have := decidablePrudentRun p (w.step p event) events
    inferInstanceAs (Decidable (w.Prudent p event ∧ _))

/-- What a prudent run keeps: identities of one surface have one address, which is that of the
tracked surface if it is its. -/
structure Inv (p : Platform) (w : Tracking) : Prop where
  forceLocal : w.tracker.forceLocal = false
  known : ∀ id ∈ w.returned, id.status = .confirmed → id.surfaceId ∈ w.surfaces
  agree : ∀ a ∈ w.returned, ∀ b ∈ w.returned, a.status = .confirmed → b.status = .confirmed →
    a.surfaceId = b.surfaceId → a.conversationId = b.conversationId
  surface : ∀ s, w.tracker.state = some s → s.key p ∈ w.surfaces ∧ s.Sound
  held : ∀ s, w.tracker.state = some s → ∀ a ∈ w.returned, a.status = .confirmed → a.surfaceId = s.key p →
    ∃ id, s.identity = some id ∧ id.status = .confirmed ∧ id.conversationId = a.conversationId

variable {w : Tracking}

namespace Inv

/-- The invariant reads the surface of the tracker alone. -/
theorem retrack (h : w.Inv p) {tracker : Tracker} (hforce : tracker.forceLocal = w.tracker.forceLocal)
    (hstate : ∀ s', tracker.state = some s' → ∃ s, w.tracker.state = some s ∧ s'.surfaceId = s.surfaceId ∧
      s'.identity = s.identity ∧ s'.externalId = s.externalId) :
    ({ w with tracker := tracker } : Tracking).Inv p where
  forceLocal := hforce.trans h.forceLocal
  known := h.known
  agree := h.agree
  surface := by
    intro s' hs'
    obtain ⟨s, hs, hid, hidentity, hexternal⟩ := hstate s' hs'
    obtain ⟨hkey, hsound⟩ := h.surface s hs
    refine ⟨?_, ?_⟩
    · unfold Surface.key at hkey ⊢
      rw [hid]
      exact hkey
    · unfold Surface.Sound at hsound ⊢
      rw [hidentity, hexternal]
      exact hsound
  held := by
    intro s' hs' a ha hconfirmed hsurface
    obtain ⟨s, hs, hid, hidentity, -⟩ := hstate s' hs'
    rw [hidentity]
    apply h.held s hs a ha hconfirmed
    unfold Surface.key at hsurface ⊢
    rwa [hid] at hsurface

/-- An answer that is not confirmed adds nothing. -/
theorem unconfirmed (h : w.Inv p) {id : Identity} (hid : id.status ≠ .confirmed) :
    ({ w with returned := id :: w.returned } : Tracking).Inv p where
  forceLocal := h.forceLocal
  known := by
    intro a ha hconfirmed
    rcases List.mem_cons.mp ha with rfl | hold
    · exact absurd hconfirmed hid
    · exact h.known a hold hconfirmed
  agree := by
    intro a ha b hb hconfirmed hconfirmed'
    rcases List.mem_cons.mp ha with rfl | hold
    · exact absurd hconfirmed hid
    · rcases List.mem_cons.mp hb with rfl | hold'
      · exact absurd hconfirmed' hid
      · exact h.agree a hold b hold' hconfirmed hconfirmed'
  surface := h.surface
  held := by
    intro s hs a ha hconfirmed
    rcases List.mem_cons.mp ha with rfl | hold
    · exact absurd hconfirmed hid
    · exact h.held s hs a hold hconfirmed

/-- An observation settles a surface that is kept or new. -/
theorem settle (h : w.Inv p) {t : Tracker} {s : Surface} (hforce : t.forceLocal = false)
    (hstate : t.state = some s) (hkey : s.key p ∈ w.surfaces) (hsound : s.Sound) (hagrees : s.Agrees p input)
    (hfirm : s.Firm p input)
    (hheld : ∀ a ∈ w.returned, a.status = .confirmed → a.surfaceId = s.key p →
      ∃ id, s.identity = some id ∧ id.status = .confirmed ∧ id.conversationId = a.conversationId) :
    ({ w with
      tracker := (Tracker.settle p t s input).1
      returned := (Tracker.settle p t s input).2 :: w.returned } : Tracking).Inv p := by
  rcases Tracker.settle_spec hforce hsound hagrees hfirm with ⟨hsame, hunconfirmed⟩ |
    ⟨s', hs', hforce', hkey', hsound', hidentity, hsurface, hsame⟩
  · have hmoved : ({ w with tracker := t } : Tracking).Inv p :=
      { forceLocal := hforce
        known := h.known
        agree := h.agree
        surface := by
          intro other hother
          obtain rfl := Option.some.inj (hstate.symm.trans hother)
          exact ⟨hkey, hsound⟩
        held := by
          intro other hother
          obtain rfl := Option.some.inj (hstate.symm.trans hother)
          exact hheld }
    rw [hsame]
    exact hmoved.unconfirmed hunconfirmed
  · generalize Tracker.settle p t s input = result at *
    -- The new answer is the one the surface had, if it had one.
    have hnew : ∀ a ∈ w.returned, a.status = .confirmed → a.surfaceId = s.key p →
        result.2.status = .confirmed ∧ result.2.conversationId = a.conversationId := by
      intro a ha hconfirmed hkeyed
      obtain ⟨id, hid, hstatus, haddress⟩ := hheld a ha hconfirmed hkeyed
      obtain ⟨hresult, hconversation⟩ := hsame id hid hstatus
      exact ⟨hresult, hconversation.trans haddress⟩
    exact
      { forceLocal := hforce'
        known := by
          intro a ha hconfirmed
          rcases List.mem_cons.mp ha with rfl | hold
          · rw [hsurface]
            exact hkey
          · exact h.known a hold hconfirmed
        agree := by
          intro a ha b hb hconfirmed hconfirmed' hkeys
          rcases List.mem_cons.mp ha with rfl | hold
          · rcases List.mem_cons.mp hb with rfl | hold'
            · rfl
            · exact (hnew b hold' hconfirmed' (hkeys.symm.trans hsurface)).2
          · rcases List.mem_cons.mp hb with rfl | hold'
            · exact (hnew a hold hconfirmed (hkeys.trans hsurface)).2.symm
            · exact h.agree a hold b hold' hconfirmed hconfirmed' hkeys
        surface := by
          intro other hother
          obtain rfl := Option.some.inj (hs'.symm.trans hother)
          exact ⟨hkey'.symm ▸ hkey, hsound'⟩
        held := by
          intro other hother a ha hconfirmed hkeyed
          obtain rfl := Option.some.inj (hs'.symm.trans hother)
          refine ⟨result.2, hidentity, ?_⟩
          rcases List.mem_cons.mp ha with rfl | hold
          · exact ⟨hconfirmed, rfl⟩
          · exact hnew a hold hconfirmed (hkeyed.trans hkey') }

/-- A prudent observation keeps the invariant. -/
theorem observe (h : w.Inv p) {now : Int} {drawn : JsString} (hprudent : w.Prudent p (.observe now drawn input)) :
    (w.step p (.observe now drawn input)).Inv p := by
  have hprepared : (w.tracker.prepared p now input).state = w.tracker.state ∧
      (w.tracker.prepared p now input).forceLocal = w.tracker.forceLocal := Tracker.prepared_state now
  have hcontinued : (Tracker.continuity p (w.tracker.prepared p now input) input).2.state =
      (w.tracker.prepared p now input).state ∧
      (Tracker.continuity p (w.tracker.prepared p now input) input).2.forceLocal =
        (w.tracker.prepared p now input).forceLocal := Tracker.continuity_state
  have hkept : ∀ s, (Tracker.continuity p (w.tracker.prepared p now input) input).1 = .kept →
      (w.tracker.prepared p now input).state = some s → s.Agrees p input :=
    fun _ => Tracker.continuity_kept
  dsimp only [Prudent] at hprudent
  unfold step Tracker.observe
  dsimp only
  generalize Tracker.continuity p (w.tracker.prepared p now input) input = judged at *
  obtain ⟨judgement, tracker⟩ := judged
  have hstate : tracker.state = w.tracker.state := hcontinued.1.trans hprepared.1
  have hforce : tracker.forceLocal = w.tracker.forceLocal := hcontinued.2.trans hprepared.2
  cases judgement with
  | suspended source =>
    have hmoved : ({ w with tracker := tracker } : Tracking).Inv p :=
      h.retrack hforce fun s' hs' => ⟨s', hstate ▸ hs', rfl, rfl, rfl⟩
    apply hmoved.unconfirmed
    rw [Tracker.suspend_status]
    decide
  | changed =>
    have hdrawn : ({ w with surfaces := (Tracker.newSurface p input drawn).key p :: w.surfaces } : Tracking).Inv p :=
      { forceLocal := h.forceLocal
        known := fun a ha hconfirmed => List.mem_cons_of_mem _ (h.known a ha hconfirmed)
        agree := h.agree
        surface := fun s hs => ⟨List.mem_cons_of_mem _ (h.surface s hs).1, (h.surface s hs).2⟩
        held := h.held }
    refine hdrawn.settle rfl rfl List.mem_cons_self (fun id hid => by cases hid)
      (fun _ _ _ hexternal => by cases hexternal) (fun id hid => by cases hid) fun a ha hconfirmed hkeyed => ?_
    exact absurd (hkeyed ▸ h.known a ha hconfirmed) (hprudent.1 rfl)
  | kept =>
    cases hsurface : w.tracker.state with
    | none =>
      rw [hsurface] at hstate
      have hmoved : ({ w with tracker := tracker } : Tracking).Inv p :=
        h.retrack hforce fun s' hs' => by
          rw [hstate] at hs'
          cases hs'
      simp only [hstate]
      apply hmoved.unconfirmed
      decide
    | some s =>
      rw [hsurface] at hstate
      obtain ⟨hkey, hsound⟩ := h.surface s hsurface
      simp only [hstate]
      exact h.settle (hforce.trans h.forceLocal) hstate hkey hsound (hkept s rfl (hprepared.1.trans hsurface))
        (hprudent.2 rfl s hsurface) (h.held s hsurface)

theorem step (h : w.Inv p) {event : TrackerEvent} (hprudent : w.Prudent p event) : (w.step p event).Inv p := by
  cases event with
  | observe now drawn input => exact h.observe hprudent
  | beginStart now intentId =>
    obtain ⟨hstate, hforce⟩ := w.tracker.beginStart_state now intentId
    exact h.retrack hforce fun s' hs' => ⟨s', hstate ▸ hs', rfl, rfl, rfl⟩
  | endStart intentId retainWitness =>
    obtain ⟨hstate, hforce⟩ := w.tracker.endStart_state intentId retainWitness
    exact h.retrack hforce fun s' hs' => ⟨s', hstate ▸ hs', rfl, rfl, rfl⟩
  | renameStartMessage now input previousId =>
    apply h.retrack
    · unfold Tracker.renameStartMessage
      split
      · split <;> rfl
      · rfl
    · intro s' hs'
      unfold Tracker.renameStartMessage at hs'
      split at hs'
      · rename_i permit s nextId rest hpermit hstate hwitness
        split at hs'
        · obtain rfl := Option.some.inj hs'
          exact ⟨s, hstate, rfl, rfl, rfl⟩
        · exact ⟨s', hs', rfl, rfl, rfl⟩
      · exact ⟨s', hs', rfl, rfl, rfl⟩

theorem run (h : w.Inv p) {events : List TrackerEvent} (hprudent : w.PrudentRun p events) :
    (w.run p events).Inv p := by
  induction events generalizing w with
  | nil => exact h
  | cons event events ih => exact ih (h.step hprudent.1) hprudent.2

theorem created (p : Platform) : created.Inv p where
  forceLocal := rfl
  known := fun _ ha => by cases ha
  agree := fun _ ha => by cases ha
  surface := fun _ hs => by cases hs
  held := fun _ hs => by cases hs

end Inv

/-- In a prudent run, identities of one surface have one address, and no confirmed identity is
returned for a conflict or for several explicit ids. -/
theorem tracked_surface_keeps_address (p : Platform) (events : List TrackerEvent)
    (hprudent : created.PrudentRun p events) :
    (∀ a ∈ (created.run p events).returned, ∀ b ∈ (created.run p events).returned,
      a.status = .confirmed → b.status = .confirmed → a.surfaceId = b.surfaceId →
        a.conversationId = b.conversationId) ∧
    ∀ now drawn input, ((created.run p events).tracker.observe p now drawn input).2.status = .confirmed →
      truthy input.conflict = false ∧ input.explicit.length ≤ 1 := by
  refine ⟨((Inv.created p).run hprudent).agree, fun now drawn input h => ?_⟩
  unfold Tracker.observe at h
  dsimp only at h
  split at h
  · rw [Tracker.suspend_status] at h
    cases h
  · exact Tracker.settle_confirmed h
  · split at h
    · exact Tracker.settle_confirmed h
    · rw [Tracker.suspend_status] at h
      cases h

/-- The platform on the plain texts of the runs below. -/
def plainPlatform : Platform where
  originOf := fun value => value.getD []
  locator := fun value _ => some value
  toLowerCase := fun value => value.map fun u => if 65 ≤ u && u ≤ 90 then u + 32 else u

/-- A page with one message. -/
def page (surfaceConfirmed : Bool) (explicitIds : List JsString) : TrackerEvent :=
  .observe 0 (units "s")
    { origin := some (units "https://chat.example")
      provider := some (units "alice")
      pathname := some (units "/chat")
      accountScope := none
      conflict := none
      surfaceConfirmed := surfaceConfirmed
      hasMessages := true
      explicitIds := explicitIds
      messageIds := [units "m1"]
      root := 1
      startWitness := none
      startWitnessMessageId := none }

/-- A stronger identifier leaves a local address alone. -/
theorem late_identifier_keeps_address :
    created.PrudentRun plainPlatform [page true [], page true [units "x"]] ∧
    ∀ a ∈ (created.run plainPlatform [page true [], page true [units "x"]]).returned,
      ∀ b ∈ (created.run plainPlatform [page true [], page true [units "x"]]).returned,
        a.status = .confirmed → b.status = .confirmed → a.surfaceId = b.surfaceId →
          a.conversationId = b.conversationId :=
  have hprudent : created.PrudentRun plainPlatform [page true [], page true [units "x"]] := by
    decide +kernel
  ⟨hprudent, (tracked_surface_keeps_address plainPlatform _ hprudent).1⟩

/-- An unconfirmed page in between makes the surface forget its local address. -/
theorem unconfirmed_page_changes_address :
    ((created.run plainPlatform [page true [], page false [], page true [units "x"]]).returned.map
        fun id => (id.status, id.surfaceId, id.conversationId)) =
      [(.confirmed, some (units "s"), some (units "ref:78")), (.unknown, some (units "s"), none),
        (.confirmed, some (units "s"), some (units "local:s"))] := by
  decide +kernel

end Tracking

end SellerAgents.Work
