import SellerAgents.Js.Text

namespace SellerAgents.Work
open Js (JsString units truthy orNull)

/-- What the model takes from the platform: the parts of a URL and the Unicode lower case.
`originOf` and `locator` are empty and none when a URL does not parse. -/
structure Platform where
  originOf : Option JsString → JsString
  locator : JsString → JsString → Option JsString
  toLowerCase : JsString → JsString

/-- A unit that an identifier may not hold. -/
def isSeparator (u : UInt16) : Bool := Js.isWhite u || u = 124 || u ≤ 0x1f

/-- `token(value)`. -/
def token (p : Platform) (value : Option JsString) : JsString :=
  match value with
  | some text => if text.length ≤ 256 && !text.any isSeparator then p.toLowerCase (Js.trim text) else []
  | none => []

/-- `opaque(items)`. -/
def opaqueIds (items : List JsString) : List JsString :=
  (items.filter fun value => value ≠ [] && value.length ≤ 256 && !value.any isSeparator).eraseDups

def isHexDigit (u : UInt16) : Bool :=
  (48 ≤ u && u ≤ 57) || (65 ≤ u && u ≤ 70) || (97 ≤ u && u ≤ 102)

/-- The groups of a text between its hyphens. -/
def hyphenGroups : JsString → List JsString
  | [] => [[]]
  | u :: rest =>
    match hyphenGroups rest with
    | [] => [[u]]
    | group :: groups => if u = 45 then [] :: group :: groups else (u :: group) :: groups

/-- `UUID.test(value)`. -/
def isUuid (value : JsString) : Bool :=
  (hyphenGroups value).map List.length = [8, 4, 4, 4, 12] && value.all fun u => isHexDigit u || u = 45

def hexDigit (n : Nat) : UInt16 := UInt16.ofNat (if n < 10 then 48 + n else 87 + n)

/-- `externalKey(value)`. -/
def externalKey (p : Platform) (value : JsString) : Option JsString :=
  if isUuid value then some (p.toLowerCase value)
  else
    let bytes := Js.utf8Encode value
    if bytes.length ≤ 120 then
      some (units "ref:" ++ bytes.flatMap fun byte => [hexDigit (byte.toNat / 16), hexDigit (byte.toNat % 16)])
    else none

inductive EvidenceStatus where
  | confirmed
  | unknown
  | unsupported
  | conflict
deriving DecidableEq

inductive IdentityScope where
  | none
  | conversation
  | document
deriving DecidableEq

/-- How a tracked conversation is identified. -/
structure Identity where
  origin : JsString
  aiId : Option JsString
  chatPath : JsString
  conversationId : Option JsString
  status : EvidenceStatus
  source : JsString
  identityScope : IdentityScope
  surfaceId : Option JsString
  accountScope : Option JsString

/-- What the page shows. `conflict` is none unless its value is truthy, the two flags say that the
value is `true`, and `root` is the identity of an element. -/
structure Observation where
  origin : Option JsString
  provider : Option JsString
  pathname : Option JsString
  accountScope : Option JsString
  conflict : Option JsString
  surfaceConfirmed : Bool
  hasMessages : Bool
  explicitIds : List JsString
  messageIds : List JsString
  root : Nat
  startWitness : Option JsString
  startWitnessMessageId : Option JsString

namespace Observation

variable (p : Platform) (input : Observation)

def explicit : List JsString := opaqueIds input.explicitIds

/-- `opaque(input.messageIds).slice(-256)`. -/
def ids : List JsString :=
  let messages := opaqueIds input.messageIds
  messages.drop (messages.length - 256)

def originText : JsString := p.originOf input.origin

def providerText : JsString := token p input.provider

def accountText : JsString := token p input.accountScope

/-- `locator(input.pathname || "/", origin)?.path || ""`. -/
def path : JsString :=
  (p.locator ((orNull input.pathname).getD (units "/")) (input.originText p)).getD []

def externalId : Option JsString :=
  match input.explicit with
  | [id] => externalKey p id
  | _ => none

end Observation

/-- `resolveEvidence({ ...input, surfaceId })`. -/
def resolveEvidence (p : Platform) (input : Observation) (surfaceId : JsString) : Identity :=
  let base : Identity :=
    { origin := input.originText p
      aiId := orNull (some (input.providerText p))
      chatPath := input.path p
      conversationId := none
      status := .unknown
      source := units "surface_unverified"
      identityScope := .none
      surfaceId := orNull (some (token p (some surfaceId)))
      accountScope := orNull (some (input.accountText p)) }
  if input.originText p = [] ∨ input.providerText p = [] then
    { base with status := .unsupported, source := units "unsupported_origin" }
  else if truthy input.conflict then { base with status := .conflict, source := input.conflict.getD [] }
  else if !input.surfaceConfirmed then base
  else if 1 < input.explicit.length then
    { base with status := .conflict, source := units "multiple_active_conversation_ids" }
  else
    match input.externalId p with
    | some id =>
      { base with
        conversationId := some id
        status := .confirmed
        source := units "active_surface_id"
        identityScope := .conversation }
    | none =>
      match base.surfaceId, input.hasMessages with
      | some surface, true =>
        { base with
          conversationId := some (units "local:" ++ surface)
          status := .confirmed
          source := units "local_surface"
          identityScope := .document }
      | _, _ => { base with source := units "new_conversation_pending" }

/-- The tracked surface. -/
structure Surface where
  origin : JsString
  provider : JsString
  account : JsString
  path : JsString
  root : Nat
  surfaceId : JsString
  ids : List JsString
  identity : Option Identity
  externalId : Option JsString

structure Start where
  intentId : JsString
  surfaceId : JsString
  deadline : Int
  empty : Bool
  root : Nat
  witnessId : Option JsString
  promoted : Bool
  completed : Bool
  qwenGuestRouteOnly : Bool

structure RenamePermit where
  intentId : JsString
  messageId : JsString
  root : Nat
  surfaceId : JsString
  path : JsString
  deadline : Int

/-- The conversation of one page, with the start that is under way. -/
structure Tracker where
  state : Option Surface
  start : Option Start
  forceLocal : Bool
  renamePermit : Option RenamePermit
  renameSpent : Bool

/-- `createTracker({ newToken, now })`. -/
def createTracker : Tracker := ⟨none, none, false, none, true⟩

/-- Whether an observation ends, keeps or leaves open the tracked surface. -/
inductive Continuity where
  | suspended (source : JsString)
  | changed
  | kept
deriving DecidableEq

namespace Tracker

def retireRename (t : Tracker) : Tracker := { t with renamePermit := none, renameSpent := true }

/-- `beginStart(intentId)`; none when it throws. -/
def beginStart (t : Tracker) (now : Int) (intentId : JsString) : Option Tracker :=
  t.state.map fun s =>
    { t with
      renamePermit := none
      renameSpent := false
      start := some
        { intentId := intentId
          surfaceId := s.surfaceId
          deadline := now + 120000
          empty := s.ids = []
          root := s.root
          witnessId := none
          promoted := false
          completed := false
          qwenGuestRouteOnly := false } }

/-- `endStart(intentId, { retainWitness })`. -/
def endStart (t : Tracker) (intentId : JsString) (retainWitness : Bool) : Tracker :=
  let t := if !retainWitness && t.renamePermit.any (·.intentId = intentId) then t.retireRename else t
  match t.start with
  | none => t
  | some start =>
    if start.intentId ≠ intentId then t
    else
      let qwenGuestRouteOnly := start.promoted &&
        t.state.any fun s => s.provider = units "qwen" && s.path = units "/c/new-chat"
      if retainWitness && start.empty && truthy start.witnessId && (!start.promoted || qwenGuestRouteOnly) then
        { t with start := some { start with completed := true, qwenGuestRouteOnly := qwenGuestRouteOnly } }
      else { t with start := none }

/-- Whether `renameStartMessage` may replace a message of a surface. -/
def mayRename (p : Platform) (t : Tracker) (s : Surface) (permit : RenamePermit) (now : Int)
    (input : Observation) (previousId nextId : JsString) : Bool :=
  !t.renameSpent && now ≤ permit.deadline && s.surfaceId = permit.surfaceId && s.root = permit.root &&
    input.root = permit.root &&
    (s.identity.any fun id => id.status = .confirmed && id.identityScope = .document) &&
    input.originText p = s.origin && input.accountText p = s.account && s.provider = units "qwen" &&
    input.provider = some (units "qwen") && s.path = units "/c/guest" && input.pathname = some s.path &&
    permit.path = s.path && input.surfaceConfirmed && !truthy input.conflict && input.explicit = [] &&
    input.startWitness = some permit.intentId && previousId = permit.messageId && s.ids.contains previousId &&
    nextId ≠ previousId && !s.ids.contains nextId && !(opaqueIds input.messageIds).contains previousId &&
    (opaqueIds input.messageIds).contains nextId && (input.messageIds.filter (· = nextId)).length = 1

/-- `renameStartMessage(input, previousId)`. -/
def renameStartMessage (p : Platform) (t : Tracker) (now : Int) (input : Observation)
    (previousId : JsString) : Tracker × Bool :=
  match t.renamePermit, t.state, opaqueIds input.startWitnessMessageId.toList with
  | some permit, some s, nextId :: _ =>
    if mayRename p t s permit now input previousId nextId then
      ({ t.retireRename with
        state := some { s with ids := s.ids.erase previousId ++ [nextId] }
        start := t.start.map fun start =>
          if start.intentId = permit.intentId ∧ start.witnessId = some previousId then
            { start with witnessId := some nextId }
          else start }, true)
    else (t.retireRename, false)
  | _, _, _ => (t.retireRename, false)

/-- The permit to rename is retired by any other evidence. -/
def checkPermit (p : Platform) (t : Tracker) (now : Int) (input : Observation) : Tracker :=
  match t.renamePermit with
  | none => t
  | some permit =>
    let path := input.path p
    let permittedPromotion := permit.path = units "/c/new-chat" && path = units "/c/guest" &&
      t.start.any fun start => start.intentId = permit.intentId && start.root = input.root
    if permit.deadline < now || !t.state.any (·.origin = input.originText p) ||
        input.providerText p ≠ units "qwen" || !t.state.any (·.account = input.accountText p) ||
        input.root ≠ permit.root || (path ≠ permit.path && !permittedPromotion) ||
        !input.surfaceConfirmed || truthy input.conflict || input.explicit ≠ [] ||
        input.startWitness ≠ some permit.intentId || input.startWitnessMessageId ≠ some permit.messageId then
      t.retireRename
    else t

/-- The message of the start is recorded when the page shows it. -/
def recordWitness (t : Tracker) (input : Observation) : Tracker :=
  { t with
    start := t.start.map fun start =>
      if t.state.any (·.surfaceId = start.surfaceId) && start.root = input.root &&
          input.startWitness = some start.intentId && truthy input.startWitnessMessageId &&
          input.ids.contains (input.startWitnessMessageId.getD []) &&
          (!truthy start.witnessId || start.witnessId = input.startWitnessMessageId) then
        { start with witnessId := input.startWitnessMessageId }
      else start }

/-- Whether a change of the path belongs to the start of a surface. -/
def promotes (p : Platform) (s : Surface) (start : Start) (input : Observation) : Bool :=
  let witnessed := input.startWitnessMessageId = start.witnessId &&
    input.ids.contains (start.witnessId.getD [])
  let retainedWitness := truthy start.witnessId && input.surfaceConfirmed && !truthy input.conflict &&
    input.explicit.length ≤ 1 && witnessed
  start.empty && start.surfaceId = s.surfaceId && (start.root = input.root || retainedWitness) &&
    input.startWitness = some start.intentId &&
    (!start.qwenGuestRouteOnly || s.path = units "/c/new-chat" && input.path p = units "/c/guest") &&
    (!start.completed || witnessed)

/-- Whether an observation continues the tracked surface, and what it does to the start. -/
def continuity (p : Platform) (t : Tracker) (input : Observation) : Continuity × Tracker :=
  match t.state with
  | none => (.changed, t)
  | some s =>
    if s.origin ≠ input.originText p || s.provider ≠ input.providerText p || s.account ≠ input.accountText p then
      (.changed, t)
    else if (input.externalId p).isSome && s.externalId.isSome && input.externalId p ≠ s.externalId then
      (.changed, t)
    else if input.path p ≠ s.path then
      let sameId := s.identity.any fun id => id.identityScope = .conversation &&
        (resolveEvidence p input s.surfaceId).conversationId = id.conversationId
      let promotion := t.start.any (promotes p s · input)
      if !sameId && !promotion then
        if t.start.any fun start => !start.completed && start.empty && start.root = input.root then
          (.suspended (units "pending_route_continuity"), t)
        else (.changed, t)
      else if promotion then
        (.kept, { t with
          renamePermit := t.renamePermit.map fun permit => { permit with path := input.path p }
          start := (t.start.map fun start => { start with promoted := true }).filter (!·.completed) })
      else (.kept, t)
    else if s.ids ≠ [] && input.ids ≠ [] && !input.ids.any s.ids.contains then
      (.suspended (units "history_continuity_unverified"), t)
    else if s.ids ≠ [] && !input.hasMessages && input.surfaceConfirmed then
      (.suspended (units "history_continuity_unverified"), t)
    else if s.root ≠ input.root && s.ids = [] then (.changed, t)
    else (.kept, t)

/-- The stored identity, without its address. -/
def suspend (identity : Option Identity) (source : JsString) : Identity :=
  match identity with
  | some id => { id with conversationId := none, status := .unknown, source := source }
  | none => ⟨[], none, [], none, .unknown, source, .none, none, none⟩

/-- Whether the address of a surface is that of a conversation. -/
def priorConversation (s : Surface) : Bool :=
  s.identity.any fun id => id.identityScope = .conversation && id.status = .confirmed

/-- Whether the evidence of an observation is not enough for a surface with the address of a
conversation. -/
def doubts (p : Platform) (s : Surface) (input : Observation) : Bool :=
  priorConversation s &&
    (!input.surfaceConfirmed || truthy input.conflict || 1 < input.explicit.length ||
      ((input.externalId p).isNone && !input.ids.any s.ids.contains))

/-- The identity an observation gives a surface. -/
def settledIdentity (p : Platform) (forceLocal : Bool) (s : Surface) (input : Observation) : Identity :=
  let identity := resolveEvidence p input s.surfaceId
  if identity.status ≠ .confirmed then identity
  else
    match s.identity with
    | some held =>
      -- A local binding never changes its address mid-operation.
      if held.identityScope = .document then
        { identity with
          conversationId := held.conversationId
          identityScope := .document
          source := units "local_surface_continuity" }
      else if forceLocal then
        { identity with
          conversationId := some (units "local:" ++ s.surfaceId)
          identityScope := .document
          source := units "explicit_local_surface" }
      else if priorConversation s && (input.externalId p).isNone then
        { identity with
          conversationId := held.conversationId
          identityScope := .conversation
          source := units "external_surface_continuity" }
      else identity
    | none =>
      if forceLocal then
        { identity with
          conversationId := some (units "local:" ++ s.surfaceId)
          identityScope := .document
          source := units "explicit_local_surface" }
      else identity

/-- The permit a confirmed local start gives. -/
def grantPermit (p : Platform) (t : Tracker) (s : Surface) (identity : Identity) (input : Observation) :
    Option RenamePermit :=
  match t.start with
  | none => t.renamePermit
  | some start =>
    if !t.renameSpent && start.empty && input.providerText p = units "qwen" && identity.status = .confirmed &&
        identity.identityScope = .document && input.root = start.root && input.surfaceConfirmed &&
        !truthy input.conflict && input.explicit = [] &&
        [units "/c/new-chat", units "/c/guest"].contains (input.path p) &&
        input.startWitness = some start.intentId && input.startWitnessMessageId = start.witnessId &&
        start.witnessId.any input.ids.contains then
      some ⟨start.intentId, start.witnessId.getD [], input.root, s.surfaceId, input.path p, start.deadline⟩
    else t.renamePermit

/-- The last part of `observe`, on the surface it is about. -/
def settle (p : Platform) (t : Tracker) (s : Surface) (input : Observation) : Tracker × Identity :=
  if priorConversation s && (!input.surfaceConfirmed || truthy input.conflict || 1 < input.explicit.length) then
    (t, resolveEvidence p input s.surfaceId)
  else if doubts p s input then (t, suspend s.identity (units "history_continuity_unverified"))
  else
    let identity := settledIdentity p t.forceLocal s input
    let ids := s.ids ++ input.ids.filter (!s.ids.contains ·)
    ({ t with
      state := some { s with
        externalId := (input.externalId p).or s.externalId
        path := input.path p
        root := input.root
        ids := ids.drop (ids.length - 256)
        identity := some identity }
      renamePermit := grantPermit p t s identity input }, identity)

/-- A new surface. -/
def newSurface (p : Platform) (input : Observation) (drawn : JsString) : Surface where
  origin := input.originText p
  provider := input.providerText p
  account := input.accountText p
  path := input.path p
  root := input.root
  surfaceId := token p (some drawn)
  ids := []
  identity := none
  externalId := none

/-- The tracker when the continuity of its surface is judged. -/
def prepared (p : Platform) (t : Tracker) (now : Int) (input : Observation) : Tracker :=
  (checkPermit p t now input).recordWitness input

/-- `observe(input)`; `drawn` is what `newToken` gives when a surface is new. -/
def observe (p : Platform) (t : Tracker) (now : Int) (drawn : JsString) (input : Observation) :
    Tracker × Identity :=
  let judged := continuity p (prepared p t now input) input
  match judged.1 with
  | .suspended source => (judged.2, suspend (judged.2.state.bind Surface.identity) source)
  | .changed =>
    let s := newSurface p input drawn
    settle p { judged.2.retireRename with state := some s, start := none, forceLocal := false } s input
  | .kept =>
    match judged.2.state with
    | some s => settle p judged.2 s input
    | none => (judged.2, suspend none [])

end Tracker

end SellerAgents.Work
