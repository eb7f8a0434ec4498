import SellerAgents.AuthRefresh.Recovery

namespace SellerAgents.AuthRefresh
open Subscriptions (Date)

variable {Token : Type} [DecidableEq Token]

instance (w : World Token) (state : ClientState Token) : Decidable (w.Unsent state) :=
  decidable_of_iff (∀ credentials ∈ state.credentials, ∀ pair ∈ w.sent, pair.1 ≠ credentials.refreshToken) <| by
    constructor
    · exact fun h credentials key hcredentials hsent => h credentials hcredentials _ hsent rfl
    · rintro h credentials hcredentials ⟨token, key⟩ hsent rfl
      exact h credentials key hcredentials hsent

instance (w : World Token) (event : Event) : Decidable (w.Prudent event) :=
  match event with
  | .invalidateKnown _ false | .commonDeny _ | .cancelActivation =>
    decidable_of_iff (∀ state ∈ w.memory, w.Unsent state) Iff.rfl
  | .restore true => inferInstanceAs (Decidable (w.Unsent w.disk))
  | .send _ | .transportFailure _ => inferInstanceAs (Decidable (w.cancelling = false))
  | .invalidateKnown _ true | .restore false | .refresh .. | .prepare _ | .write | .finish | .serve ..
  | .unavailable _ | .loseRequest _ | .loseResponse _ | .deliver _ | .accept _ | .reject _ | .crash
  | .revoke _ | .setOwners _ => .isTrue trivial

instance decidablePrudentRun (derive : Token → Nat → Token) (w : World Token) :
    (events : List Event) → Decidable (w.PrudentRun derive events)
  | [] => .isTrue trivial
  | event :: events =>
    have : Decidable (∀ w', w.step derive event = some w' → w'.PrudentRun derive events) :=
      match hstep : w.step derive event with
      | none => .isTrue fun _ h => by cases h
      | some next =>
        have := decidablePrudentRun derive next events
        decidable_of_iff (next.PrudentRun derive events) ⟨fun h w' heq => Option.some.inj heq ▸ h, fun h => h next rfl⟩
    inferInstanceAs (Decidable (w.Prudent event ∧ _))

def signedIn : World Nat := World.activated ⟨1, 2, 50, 7⟩ 3 100 1000

end SellerAgents.AuthRefresh
