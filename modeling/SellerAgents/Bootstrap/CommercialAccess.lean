import SellerAgents.Js.Properties
import SellerAgents.Subscriptions.Access

namespace SellerAgents.CommercialAccess

open Js (Properties)
open Subscriptions (Date SubscriptionAccessResult SubscriptionSnapshot)

/-- `TypedEntitlementValue`; of the kinds that are neither, nothing is read. -/
inductive EntitlementValue where
  | BOOLEAN (value : Bool)
  | INTEGER (value : Int)
  | other

/-- `boolean | number`. -/
inductive SafeValue where
  | boolean (value : Bool)
  | number (value : Int)
deriving DecidableEq

abbrev SafeEntitlementMap : Type := Properties String SafeValue

/-- The commercial access of an account at one time. -/
structure CommercialAccessSnapshot where
  accountId : String
  currentSubscription : Option SubscriptionSnapshot
  access : SubscriptionAccessResult
  planRevisionId : Option String
  entitlements : SafeEntitlementMap
  accessUntil : Option Date

/-- The answer of the access resolver. -/
inductive CommercialAccessResolution where
  | OK (value : CommercialAccessSnapshot)
  | ACCOUNT_NOT_FOUND
  | CORRUPTED

/-- The readers of the service. The access resolver is asked twice, the second time for the plan
revision that is bound; none is an account that is not found. -/
structure CommercialAccessDependencies where
  accessResolver : String → Date → Option SubscriptionAccessResult
  bindingAccessResolver : String → Date → Option SubscriptionAccessResult
  getCurrentSubscription : String → Option SubscriptionSnapshot
  resolveCommercialEntitlements : String → String → Date →
    Option (List (String × Option EntitlementValue))

/-- The end of an eligible access; none, which throws, where a grace has no end. -/
def accessUntil : SubscriptionAccessResult → Option Date
  | .INELIGIBLE _ => none
  | .ELIGIBLE _ state _ _ _ currentPeriodEnd graceUntil =>
    if state = .GRACE then graceUntil else some currentPeriodEnd

/-- `Number.isSafeInteger`. -/
def isSafeInteger (value : Int) : Bool :=
  -9007199254740991 ≤ value && value ≤ 9007199254740991

/-- One step of the loop over the resolved entitlements. -/
def addEntitlement (map : SafeEntitlementMap) :
    String × Option EntitlementValue → Option SafeEntitlementMap
  | (_, none) => some map
  | (key, some (.BOOLEAN value)) => some (map.set key (.boolean value))
  | (key, some (.INTEGER value)) =>
    if isSafeInteger value then some (map.set key (.number value)) else none
  | (_, some .other) => none

def primitiveEntitlements (values : Option (List (String × Option EntitlementValue))) :
    Option SafeEntitlementMap :=
  values.bind fun resolutions => resolutions.foldlM addEntitlement []

namespace CommercialAccessDependencies

variable (dependencies : CommercialAccessDependencies)

/-- The plan revision that `SubscriptionPlanRevisionBindingAdapter` finds. -/
def boundPlanRevision (accountId : String) (at' : Date) : Option String :=
  match dependencies.bindingAccessResolver accountId at' with
  | some (.ELIGIBLE _ _ _ planRevisionId ..) => some planRevisionId
  | _ => none

/-- `CommercialAccessService.resolve`; none when it throws. -/
def resolve (accountId : String) (at' : Date) : Option CommercialAccessResolution :=
  match dependencies.accessResolver accountId at' with
  | none => some .ACCOUNT_NOT_FOUND
  | some access =>
    let currentSubscription := dependencies.getCurrentSubscription accountId
    if currentSubscription.any fun subscription => subscription.accountId ≠ accountId then
      some .CORRUPTED
    else
      match access with
      | .INELIGIBLE _ =>
        some (.OK
          { accountId, currentSubscription, access, planRevisionId := none, entitlements := []
            accessUntil := none })
      | .ELIGIBLE _ _ _ planRevisionId .. =>
        -- the seven fields that an access takes from its subscription
        if !currentSubscription.any fun subscription => subscription.eligible = access then
          some .CORRUPTED
        else if dependencies.boundPlanRevision accountId at' ≠ some planRevisionId then
          some .CORRUPTED
        else
          match primitiveEntitlements
              (dependencies.resolveCommercialEntitlements accountId planRevisionId at') with
          | none => some .CORRUPTED
          | some entitlements =>
            (accessUntil access).map fun end' =>
              .OK
                { accountId, currentSubscription, access, planRevisionId := some planRevisionId
                  entitlements, accessUntil := some end' }

variable {dependencies} {accountId : String} {at' : Date} {value : CommercialAccessSnapshot}

/-- What an accepted resolution says of the access that was read. -/
theorem resolve_ok (h : dependencies.resolve accountId at' = some (.OK value)) :
    dependencies.accessResolver accountId at' = some value.access ∧
      (value.access.isEligible = true →
        value.accessUntil = accessUntil value.access ∧
        (accessUntil value.access).isSome = true ∧
        ∃ subscription, value.currentSubscription = some subscription ∧
          subscription.eligible = value.access) := by
  unfold resolve at h
  cases haccess : dependencies.accessResolver accountId at' with
  | none =>
    rw [haccess] at h
    cases h
  | some access =>
    rw [haccess] at h
    dsimp only at h
    split at h
    · cases h
    · cases access with
      | INELIGIBLE reason =>
        cases h
        exact ⟨rfl, fun helig => by cases helig⟩
      | ELIGIBLE id state revision plan price periodEnd grace =>
        dsimp only at h
        split at h
        · cases h
        · rename_i hcurrent
          split at h
          · cases h
          · split at h
            · cases h
            · obtain ⟨until', huntil, hvalue⟩ := Option.map_eq_some_iff.mp h
              cases hvalue
              refine ⟨rfl, fun _ => ⟨huntil.symm, by rw [huntil]; rfl, ?_⟩⟩
              cases hsubscription : dependencies.getCurrentSubscription accountId with
              | none => simp [hsubscription] at hcurrent
              | some subscription => exact ⟨subscription, rfl, by simpa [hsubscription] using hcurrent⟩

end CommercialAccessDependencies

end SellerAgents.CommercialAccess
