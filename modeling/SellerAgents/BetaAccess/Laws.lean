import SellerAgents.BetaAccess.Moves

open Relational

namespace SellerAgents.BetaAccess

/-- What the admission keeps, at a time of the database clock. -/
structure Admits (tables : AdmissionTables) (t : Int) : Prop where
  room : (tables.state.admitted : Int) + tables.activeInvitations t ≤ tables.state.capacity
  admitted : tables.state.admitted = tables.admissions.length
  /-- No identity belongs to two users, no user to two identities or accounts. -/
  identities : UniqueBy (fun i => some i.normalizedIdentifier) tables.identities
  identityUsers : UniqueBy (fun i => some i.userId) tables.identities
  memberUsers : UniqueBy (fun m => some m.userId) tables.memberships
  memberAccounts : UniqueBy (fun m => some m.accountId) tables.memberships
  users : ∀ i ∈ tables.identities, ∃ u ∈ tables.users, u.id = i.userId
  members : ∀ m ∈ tables.memberships, (∃ u ∈ tables.users, u.id = m.userId) ∧
    m.accountId ∈ tables.accounts
  beta : ∀ a ∈ tables.admissions, (∃ u ∈ tables.users, u.id = a.userId) ∧
    a.accountId ∈ tables.accounts
  ids : UniqueBy (fun row => some row.id) tables.invitations
  revokedShape : ∀ row ∈ tables.invitations, row.revokeRequestIdHash.isSome → row.revokedAt.isSome
  reserved : ∀ row ∈ tables.invitations, row.activeAt t = true →
    ∀ i ∈ tables.identities, i.normalizedIdentifier ≠ row.normalizedIdentityTarget
  single : ∀ row ∈ tables.invitations, ∀ other ∈ tables.invitations, row.activeAt t = true →
    other.activeAt t = true → row.normalizedIdentityTarget = other.normalizedIdentityTarget →
      row.id = other.id

/-- What later transactions leave of earlier ones. -/
structure Progress (tables tables' : AdmissionTables) : Prop where
  admitted : tables.state.admitted ≤ tables'.state.admitted
  identities : ∀ i ∈ tables.identities, i ∈ tables'.identities
  memberships : ∀ m ∈ tables.memberships, m ∈ tables'.memberships
  admissions : ∀ a ∈ tables.admissions, a ∈ tables'.admissions
  /-- A consumed or revoked invitation stays as it is. -/
  spent : ∀ row ∈ tables.invitations, row.consumedAt.isSome ∨ row.revokedAt.isSome →
    row ∈ tables'.invitations
  requested : ∀ row ∈ tables.invitations, ∃ row' ∈ tables'.invitations, row'.id = row.id ∧
    row'.createRequestIdHash = row.createRequestIdHash
  mutations : ∀ m ∈ tables.mutations, m ∈ tables'.mutations

variable {tables tables' : AdmissionTables} {clock : TxClock} {t t' : Int}

theorem Progress.refl (tables : AdmissionTables) : Progress tables tables where
  admitted := Nat.le_refl _
  identities _ h := h
  memberships _ h := h
  admissions _ h := h
  spent _ h _ := h
  requested row h := ⟨row, h, rfl, rfl⟩
  mutations _ h := h

theorem Progress.trans {first second third : AdmissionTables} (h : Progress first second)
    (h' : Progress second third) : Progress first third where
  admitted := Nat.le_trans h.admitted h'.admitted
  identities i hi := h'.identities i (h.identities i hi)
  memberships m hm := h'.memberships m (h.memberships m hm)
  admissions a ha := h'.admissions a (h.admissions a ha)
  spent row hrow hspent := h'.spent row (h.spent row hrow hspent) hspent
  requested row hrow := by
    obtain ⟨next, hnext, hid, hhash⟩ := h.requested row hrow
    obtain ⟨last, hlast, hid', hhash'⟩ := h'.requested next hnext
    exact ⟨last, hlast, hid'.trans hid, hhash'.trans hhash⟩
  mutations m hm := h'.mutations m (h.mutations m hm)

/-- Time alone breaks nothing. -/
theorem Admits.later (h : Admits tables t) (hle : t ≤ t') : Admits tables t' :=
  { h with
    room := by
      have hfewer : tables.activeInvitations t' ≤ tables.activeInvitations t :=
        List.countP_mono_left fun row _ hactive => row.activeAt_mono hactive hle
      have hroom := h.room
      omega
    reserved := fun row hrow hactive => h.reserved row hrow (row.activeAt_mono hactive hle)
    single := fun row hrow other hother hactive hactive' =>
      h.single row hrow other hother (row.activeAt_mono hactive hle)
        (other.activeAt_mono hactive' hle) }

variable {row : Invitation} {target : String}

theorem Admits.unique_id (h : Admits tables t) {other : Invitation}
    (hrow : row ∈ tables.invitations) (hother : other ∈ tables.invitations)
    (hid : row.id = other.id) : row = other :=
  h.ids.eq_of_key hrow hother (congrArg some hid) rfl

/-! An invitation. -/

theorem admits_invited (h : Admits tables clock.start) (row : Invitation)
    (hfresh : Fresh (fun r => some r.id) row tables.invitations)
    (hshape : row.revokeRequestIdHash = none)
    (hnew : ∀ i ∈ tables.identities, i.normalizedIdentifier ≠ row.normalizedIdentityTarget)
    (halone : ∀ other ∈ tables.invitations,
      other.normalizedIdentityTarget = row.normalizedIdentityTarget →
        other.activeAt (clock.reading 1 other.id) = false)
    (hroom : (tables.state.admitted : Int) + tables.activeInvitationCount (clock.reading 2) <
      tables.state.capacity) :
    Admits { tables with invitations := tables.invitations ++ [row] } clock.stop := by
  have hold := h.later clock.start_le_stop
  have hother : ∀ other ∈ tables.invitations, other.activeAt clock.stop = true →
      other.normalizedIdentityTarget ≠ row.normalizedIdentityTarget := by
    intro other hmem hactive hsame
    have hearlier := other.activeAt_mono hactive (clock.le_stop 1 other.id)
    rw [halone other hmem hsame] at hearlier
    cases hearlier
  refine { hold with
    room := ?_
    ids := h.ids.insert hfresh
    revokedShape := ?_
    reserved := ?_
    single := ?_ }
  · have hcount : ({ tables with invitations := tables.invitations ++ [row] } :
        AdmissionTables).activeInvitations clock.stop ≤
          tables.activeInvitations clock.stop + 1 := by
      unfold AdmissionTables.activeInvitations AdmissionTables.activeInvitationCount
      rw [List.countP_append, List.countP_singleton]
      split <;> omega
    have hfewer := activeInvitations_le tables (clock.le_stop 2)
    change (tables.state.admitted : Int) + _ ≤ tables.state.capacity
    omega
  · intro r hr hsome
    rcases List.mem_append.mp hr with hr | hr
    · exact h.revokedShape r hr hsome
    · obtain rfl := List.mem_singleton.mp hr
      simp [hshape] at hsome
  · intro r hr hactive
    rcases List.mem_append.mp hr with hr | hr
    · exact hold.reserved r hr hactive
    · obtain rfl := List.mem_singleton.mp hr
      exact hnew
  · intro r hr s hs hr' hs' hsame
    rcases List.mem_append.mp hr with hr | hnewRow <;> rcases List.mem_append.mp hs with hs | hnewOther
    · exact hold.single r hr s hs hr' hs' hsame
    · rw [List.mem_singleton.mp hnewOther] at hsame
      exact absurd hsame (hother r hr hr')
    · rw [List.mem_singleton.mp hnewRow] at hsame
      exact absurd hsame.symm (hother s hs hs')
    · rw [List.mem_singleton.mp hnewRow, List.mem_singleton.mp hnewOther]

/-! A revocation, and the consumption by a sign-in. -/

/-- An update of one invitation that makes it inactive. -/
theorem admits_closed (h : Admits tables t) (id : String) (set : Invitation → Invitation)
    (hid : ∀ row, (set row).id = row.id)
    (hshape : ∀ row, row.revokedAt.isSome ∨ row.revokeRequestIdHash = none →
      (set row).revokeRequestIdHash.isSome → (set row).revokedAt.isSome)
    (hclosed : ∀ row at', (set row).activeAt at' = false) :
    Admits { tables with invitations := updateWhere (·.id = id) set tables.invitations } t := by
  have hactive : ∀ row ∈ updateWhere (·.id = id) set tables.invitations, row.activeAt t = true →
      row ∈ tables.invitations := by
    intro row hrow hactive
    obtain ⟨hmem, -⟩ | ⟨old, -, -, rfl⟩ := mem_updateWhere.mp hrow
    · exact hmem
    · rw [hclosed] at hactive
      cases hactive
  refine { h with
    room := ?_
    ids := h.ids.updateWhere fun row _ _ => .inr (congrArg some (hid row))
    revokedShape := ?_
    reserved := fun row hrow hrow' => h.reserved row (hactive row hrow hrow') hrow'
    single := fun row hrow other hother hrow' hother' => h.single row (hactive row hrow hrow') other
      (hactive other hother hother') hrow' hother' }
  · have hfewer : ({ tables with
        invitations := updateWhere (·.id = id) set tables.invitations } :
          AdmissionTables).activeInvitations t ≤ tables.activeInvitations t :=
      countP_updateWhere_le fun row _ _ => hclosed row _
    have hroom := h.room
    change (tables.state.admitted : Int) + _ ≤ tables.state.capacity
    omega
  · intro row hrow hsome
    obtain ⟨hmem, -⟩ | ⟨old, hold, -, rfl⟩ := mem_updateWhere.mp hrow
    · exact h.revokedShape row hmem hsome
    · refine hshape old ?_ hsome
      cases hhash : old.revokeRequestIdHash with
      | none => exact .inr rfl
      | some hash => exact .inl (h.revokedShape old hold (by simp [hhash]))

theorem admits_revoked (h : Admits tables clock.start) (input : RevokeInput) :
    Admits { tables with
      invitations := updateWhere (·.id = input.invitationId) input.revoked tables.invitations }
      clock.stop := by
  refine admits_closed (h.later clock.start_le_stop) _ _ (fun _ => rfl) (fun _ _ _ => rfl) ?_
  intro row at'
  simp [RevokeInput.revoked, Invitation.activeAt]

theorem admits_mutated (h : Admits tables clock.start) (input : MutateInput)
    (mutation : BetaAdmissionMutation)
    (hroom : (tables.state.admitted : Int) + tables.activeInvitationCount (clock.reading 0) ≤
      input.newCapacity tables.state) :
    Admits { tables with
      state := input.next tables.state
      mutations := tables.mutations ++ [mutation] } clock.stop := by
  have hold := h.later clock.start_le_stop
  refine { hold with room := ?_ }
  have hfewer := activeInvitations_le tables (clock.le_stop 0)
  change (tables.state.admitted : Int) + tables.activeInvitations clock.stop ≤
    input.newCapacity tables.state
  omega

/-! A first sign-in. -/

/-- The one active invitation of the identity, if it has one. -/
theorem mem_invitationsOf {reading : String → Int} :
    row ∈ tables.invitationsOf target reading ↔ row ∈ tables.invitations ∧
      row.normalizedIdentityTarget = target ∧ row.activeAt (reading row.id) = true := by
  simp [AdmissionTables.invitationsOf]

/-- After the sign-in no invitation of the identity is active. -/
theorem active_withAdmitted {input : VerifyOtpInput} {invited : Option Invitation}
    (hinvited : invited = (tables.invitationsOf target (clock.reading 0)).head?)
    (hone : (tables.invitationsOf target (clock.reading 0)).length ≤ 1) :
    ∀ row ∈ (tables.withAdmitted target input invited clock).invitations,
      row.activeAt clock.stop = true →
        row ∈ tables.invitations ∧ row.normalizedIdentityTarget ≠ target := by
  intro row hrow hactive
  have hof (hmem : row ∈ tables.invitations) (hsame : row.normalizedIdentityTarget = target) :
      row ∈ tables.invitationsOf target (clock.reading 0) :=
    mem_invitationsOf.mpr ⟨hmem, hsame, row.activeAt_mono hactive (clock.le_stop 0 row.id)⟩
  cases invited with
  | none =>
    refine ⟨hrow, fun hsame => ?_⟩
    have hnil := List.head?_eq_none_iff.mp hinvited.symm
    have hmem := hof hrow hsame
    rw [hnil] at hmem
    cases hmem
  | some own =>
    obtain ⟨hmem, hother⟩ | ⟨old, -, -, rfl⟩ := mem_updateWhere.mp hrow
    · refine ⟨hmem, fun hsame => ?_⟩
      obtain ⟨first, hlist⟩ := List.head?_eq_some_iff.mp hinvited.symm
      rw [hlist, List.length_cons] at hone
      have hnil := List.eq_nil_of_length_eq_zero (Nat.le_zero.mp (Nat.le_of_succ_le_succ hone))
      have hrowOf := hof hmem hsame
      rw [hlist, hnil, List.mem_singleton] at hrowOf
      simp [hrowOf] at hother
    · simp [Invitation.activeAt] at hactive

/-- The place that the sign-in takes was free, or reserved by its own invitation. -/
theorem room_withAdmitted (h : Admits tables clock.start) (input : VerifyOtpInput)
    {invited : Option Invitation}
    (hinvited : invited = (tables.invitationsOf target (clock.reading 0)).head?)
    (hroom : admissionRefusal tables invited clock = none)
    (hactive : ∀ row ∈ invited, row.activeAt (clock.reading 2 row.id) = true) :
    (tables.state.admitted : Int) + 1 +
        (tables.withAdmitted target input invited clock).activeInvitations clock.stop ≤
      tables.state.capacity := by
  have hstart := h.room
  unfold admissionRefusal at hroom
  simp only [] at hroom
  split at hroom
  · cases hroom
  cases invited with
  | none =>
    simp only [Option.isSome_none, Bool.false_eq_true, if_false] at hroom
    split at hroom
    · cases hroom
    rename_i hfree
    have hfewer := activeInvitations_le tables (clock.le_stop 1)
    change (tables.state.admitted : Int) + 1 + tables.activeInvitations clock.stop ≤ _
    omega
  | some own =>
    have hown := (mem_invitationsOf.mp (List.mem_of_head? hinvited.symm)).1
    have hlater := activeInvitations_le (tables.withAdmitted target input (some own) clock)
      (clock.le_stop 2)
    have hfewer : (tables.withAdmitted target input (some own) clock).activeInvitationCount
        (clock.reading 2) < tables.activeInvitationCount (clock.reading 2) := by
      refine countP_updateWhere_lt hown (decide_eq_true rfl) (hactive own rfl) ?_
      intro row _ _
      simp [Invitation.activeAt]
    have hearlier : tables.activeInvitationCount (clock.reading 2) ≤
        tables.activeInvitations clock.start :=
      List.countP_mono_left fun row _ hrow => row.activeAt_mono hrow (clock.start_le 2 row.id)
    omega

theorem uniqueBy_insert_new {α : Type} {rows : List α} {row : α} (key : α → String)
    (h : UniqueBy (fun r => some (key r)) rows) (hnew : ∀ r ∈ rows, key r ≠ key row) :
    UniqueBy (fun r => some (key r)) (rows ++ [row]) :=
  h.insert fun r hr => .inr fun hsame => hnew r hr (Option.some.inj hsame)

theorem admits_withAdmitted (h : Admits tables clock.start) (target : String)
    (input : VerifyOtpInput) (invited : Option Invitation)
    (hnew : ∀ i ∈ tables.identities, i.normalizedIdentifier ≠ target)
    (hinvited : invited = (tables.invitationsOf target (clock.reading 0)).head?)
    (hone : (tables.invitationsOf target (clock.reading 0)).length ≤ 1)
    (hroom : admissionRefusal tables invited clock = none)
    (huser : ∀ u ∈ tables.users, u.id ≠ input.userId) (haccount : input.accountId ∉ tables.accounts)
    (hactive : ∀ row ∈ invited, row.activeAt (clock.reading 2 row.id) = true) :
    Admits (tables.withAdmitted target input invited clock) clock.stop where
  room := by
    have htaken := room_withAdmitted h input hinvited hroom hactive
    change ((tables.state.admitted + 1 : Nat) : Int) + _ ≤ tables.state.capacity
    omega
  admitted := by
    have hcount := h.admitted
    simp [AdmissionTables.withAdmitted, hcount]
  identities := uniqueBy_insert_new UserIdentity.normalizedIdentifier h.identities hnew
  identityUsers := uniqueBy_insert_new UserIdentity.userId h.identityUsers fun i hi hsame => by
    obtain ⟨u, hu, hid⟩ := h.users i hi
    exact huser u hu (hid.trans hsame)
  memberUsers := uniqueBy_insert_new Membership.userId h.memberUsers fun m hm hsame => by
    obtain ⟨u, hu, hid⟩ := (h.members m hm).1
    exact huser u hu (hid.trans hsame)
  memberAccounts := uniqueBy_insert_new Membership.accountId h.memberAccounts fun m hm hsame => by
    have hmem := (h.members m hm).2
    rw [hsame] at hmem
    exact haccount hmem
  users i hi := by
    rcases List.mem_append.mp hi with hi | hi
    · obtain ⟨u, hu, hid⟩ := h.users i hi
      exact ⟨u, List.mem_append_left _ hu, hid⟩
    · rw [List.mem_singleton.mp hi]
      exact ⟨_, List.mem_append_right _ (List.mem_singleton_self _), rfl⟩
  members m hm := by
    rcases List.mem_append.mp hm with hm | hm
    · obtain ⟨⟨u, hu, hid⟩, hmem⟩ := h.members m hm
      exact ⟨⟨u, List.mem_append_left _ hu, hid⟩, List.mem_append_left _ hmem⟩
    · rw [List.mem_singleton.mp hm]
      exact ⟨⟨_, List.mem_append_right _ (List.mem_singleton_self _), rfl⟩,
        List.mem_append_right _ (List.mem_singleton_self _)⟩
  beta a ha := by
    rcases List.mem_append.mp ha with ha | ha
    · obtain ⟨⟨u, hu, hid⟩, hmem⟩ := h.beta a ha
      exact ⟨⟨u, List.mem_append_left _ hu, hid⟩, List.mem_append_left _ hmem⟩
    · rw [List.mem_singleton.mp ha]
      exact ⟨⟨_, List.mem_append_right _ (List.mem_singleton_self _), rfl⟩,
        List.mem_append_right _ (List.mem_singleton_self _)⟩
  ids := by
    cases invited with
    | none => exact h.ids
    | some own => exact h.ids.updateWhere fun _ _ _ => .inr rfl
  revokedShape row hrow := by
    cases invited with
    | none => exact h.revokedShape row hrow
    | some own =>
      obtain ⟨hmem, -⟩ | ⟨old, hold, -, rfl⟩ := mem_updateWhere.mp hrow
      · exact h.revokedShape row hmem
      · exact h.revokedShape old hold
  reserved row hrow hactive' i hi := by
    obtain ⟨hmem, hother⟩ := active_withAdmitted hinvited hone row hrow hactive'
    rcases List.mem_append.mp hi with hi | hi
    · exact (h.later clock.start_le_stop).reserved row hmem hactive' i hi
    · rw [List.mem_singleton.mp hi]
      exact Ne.symm hother
  single row hrow other hother hrow' hother' hsame := by
    have hmem := (active_withAdmitted hinvited hone row hrow hrow').1
    have hmem' := (active_withAdmitted hinvited hone other hother hother').1
    exact (h.later clock.start_le_stop).single row hmem other hmem' hrow' hother' hsame

/-! What a transaction keeps. -/

theorem AdmissionMove.admits (h : AdmissionMove clock tables tables')
    (ha : Admits tables clock.start) : Admits tables' clock.stop := by
  cases h with
  | invited row hfresh hshape hnew halone hroom =>
    exact admits_invited ha row hfresh hshape hnew halone hroom
  | revoked input row hrow hactive => exact admits_revoked ha input
  | mutated input mutation hroom => exact admits_mutated ha input mutation hroom
  | admitted target input invited hnew hinvited hone hroom huser haccount hactive =>
    exact admits_withAdmitted ha target input invited hnew hinvited hone hroom huser haccount hactive

/-- Rewriting an active invitation leaves the spent ones. -/
theorem spent_updateWhere (ha : Admits tables t) {own : Invitation}
    (hown : own ∈ tables.invitations) {at' : Int} (hactive : own.activeAt at' = true)
    (set : Invitation → Invitation) (hrow : row ∈ tables.invitations)
    (hspent : row.consumedAt.isSome ∨ row.revokedAt.isSome) :
    row ∈ updateWhere (·.id = own.id) set tables.invitations := by
  refine mem_updateWhere.mpr (.inl ⟨hrow, decide_eq_false fun hid => ?_⟩)
  rw [ha.unique_id hrow hown hid] at hspent
  simp only [Invitation.activeAt, Bool.and_eq_true, Option.isNone_iff_eq_none] at hactive
  simp [hactive.1.1, hactive.1.2] at hspent

theorem requested_updateWhere (q : Invitation → Bool) (set : Invitation → Invitation)
    (hset : ∀ row, (set row).id = row.id ∧ (set row).createRequestIdHash = row.createRequestIdHash)
    (hrow : row ∈ tables.invitations) :
    ∃ row' ∈ updateWhere q set tables.invitations, row'.id = row.id ∧
      row'.createRequestIdHash = row.createRequestIdHash := by
  by_cases hq : q row = true
  · exact ⟨set row, mem_updateWhere.mpr (.inr ⟨row, hrow, hq, rfl⟩), hset row⟩
  · exact ⟨row, mem_updateWhere.mpr (.inl ⟨hrow, by simpa using hq⟩), rfl, rfl⟩

theorem AdmissionMove.progress (h : AdmissionMove clock tables tables')
    (ha : Admits tables clock.start) : Progress tables tables' := by
  have hrefl := Progress.refl tables
  cases h with
  | invited row hfresh hshape hnew halone hroom =>
    exact { hrefl with
      spent := fun r hr _ => List.mem_append_left _ hr
      requested := fun r hr => ⟨r, List.mem_append_left _ hr, rfl, rfl⟩ }
  | revoked input row hrow hactive =>
    have hmem := List.mem_of_find?_eq_some hrow
    have hid := List.find?_some hrow
    rw [decide_eq_true_eq] at hid
    refine { hrefl with
      spent := fun r hr hspent => ?_
      requested := fun r hr => ?_ }
    · rw [← hid]
      exact spent_updateWhere ha hmem hactive _ hr hspent
    · refine requested_updateWhere _ _ ?_ hr
      exact fun _ => ⟨rfl, rfl⟩
  | mutated input mutation hroom =>
    exact { hrefl with mutations := fun m hm => List.mem_append_left _ hm }
  | admitted target input invited hnew hinvited hone hroom huser haccount hactive =>
    refine ⟨Nat.le_succ _, fun i hi => List.mem_append_left _ hi,
      fun m hm => List.mem_append_left _ hm, fun a ha => List.mem_append_left _ ha,
      fun r hr hspent => ?_, fun r hr => ?_, fun m hm => hm⟩
    · cases invited with
      | none => exact hr
      | some own =>
        have hown := (mem_invitationsOf.mp (List.mem_of_head? hinvited.symm)).1
        exact spent_updateWhere ha hown (hactive own rfl) _ hr hspent
    · cases invited with
      | none => exact hrefl.requested r hr
      | some own =>
        refine requested_updateWhere _ _ ?_ hr
        exact fun _ => ⟨rfl, rfl⟩

/-! Runs. -/

/-- What holds of every database that grew from the migrated one. -/
structure Sound (db : BetaDatabase) : Prop where
  admits : Admits db.toAdmissionTables db.time
  proven : Proven db

variable {db : BetaDatabase}

theorem sound_empty : Sound {} where
  admits := by
    constructor <;> decide
  proven := ⟨List.Pairwise.nil, fun _ h => absurd h List.not_mem_nil⟩

theorem Effect.sound {db' : BetaDatabase} (h : Effect clock db db') (hs : Sound db)
    (hstart : db.time ≤ clock.start) :
    Sound { db' with time := clock.stop } ∧ Progress db.toAdmissionTables db'.toAdmissionTables := by
  have hadmits := hs.admits.later hstart
  have hproven : Proven { db' with time := clock.stop } := (h.proven hs.proven).congr rfl rfl
  rcases h.tables with hsame | hmove
  · refine ⟨⟨?_, hproven⟩, hsame ▸ .refl _⟩
    change Admits db'.toAdmissionTables clock.stop
    rw [hsame]
    exact hadmits.later clock.start_le_stop
  · exact ⟨⟨hmove.admits hadmits, hproven⟩, hmove.progress hadmits⟩

theorem transact_sound {α : Type} {x : Tx BetaDatabase α}
    (hx : Commits x db fun _ db' => Effect clock db db') (hs : Sound db) :
    Sound (db.transact x clock) ∧
      Progress db.toAdmissionTables (db.transact x clock).toAdmissionTables := by
  unfold BetaDatabase.transact
  split
  · exact ⟨hs, .refl _⟩
  · rename_i hstart
    have heffect : Effect clock db (commit x db) :=
      commit_induct (P := Effect clock db) (.refl clock db) hx
    exact heffect.sound hs (Int.not_lt.mp hstart)

/-- A change of a user's status keeps the users. -/
theorem sound_userStatus (hs : Sound db) (userId : String) (status : UserStatus) :
    Sound { db with users := updateWhere (·.id = userId) (fun u => { u with status }) db.users } := by
  have husers (id : String) (h : ∃ u ∈ db.users, u.id = id) :
      ∃ u ∈ updateWhere (·.id = userId) (fun u => { u with status }) db.users, u.id = id := by
    obtain ⟨u, hu, rfl⟩ := h
    by_cases hid : u.id = userId
    · exact ⟨{ u with status }, mem_updateWhere.mpr (.inr ⟨u, hu, decide_eq_true hid, rfl⟩), rfl⟩
    · exact ⟨u, mem_updateWhere.mpr (.inl ⟨hu, decide_eq_false hid⟩), rfl⟩
  refine ⟨{ hs.admits with
    users := fun i hi => husers _ (hs.admits.users i hi)
    members := fun m hm => ⟨husers _ (hs.admits.members m hm).1, (hs.admits.members m hm).2⟩
    beta := fun a ha => ⟨husers _ (hs.admits.beta a ha).1, (hs.admits.beta a ha).2⟩ }, ?_⟩
  exact hs.proven.congr rfl rfl

theorem BetaStep.sound (step : BetaStep) (hs : Sound db) :
    Sound (step.next db) ∧ Progress db.toAdmissionTables (step.next db).toAdmissionTables := by
  cases step with
  | requestOtp input clock => exact transact_sound (requestOtp_effect input) hs
  | verifyOtp input clock => exact transact_sound (verifyOtp_effect input) hs
  | inviteIdentity input clock => exact transact_sound (inviteIdentity_effect input) hs
  | revokeIdentityInvitation input clock =>
    exact transact_sound (revokeIdentityInvitation_effect input) hs
  | mutate input clock => exact transact_sound (mutate_effect input) hs
  | grants managers => exact ⟨⟨hs.admits, hs.proven.congr rfl rfl⟩, .refl _⟩
  | userStatus userId status =>
    exact ⟨sound_userStatus hs userId status, { Progress.refl db.toAdmissionTables with }⟩

theorem run_sound (steps : List BetaStep) (hs : Sound db) :
    Sound (run db steps) ∧ Progress db.toAdmissionTables (run db steps).toAdmissionTables := by
  induction steps generalizing db with
  | nil => exact ⟨hs, .refl _⟩
  | cons step rest ih =>
    obtain ⟨hnext, hfirst⟩ := step.sound hs
    obtain ⟨hlast, hlater⟩ := ih hnext
    exact ⟨hlast, hfirst.trans hlater⟩

end SellerAgents.BetaAccess
