import SellerAgents.ApiWatch.RetryMoves

namespace SellerAgents.ApiWatch

open Js
open Subscriptions (Date)

namespace Retries

variable {s : Retries} {f : SwaggerSourceFamily}

/-- The retries counted for a family. -/
def counted (s : Retries) (f : SwaggerSourceFamily) : Nat := (s.states.get f).elim 0 (·.retryCount)

end Retries

section

variable {now : Date}

end

namespace Retries

variable {s : Retries} {f : SwaggerSourceFamily}

end Retries

namespace Retries

variable {s : Retries} {f : SwaggerSourceFamily}

end Retries

/-- The calls that decide on outcomes one after another. -/
def decisions (outcomes : List AcquisitionOutcome) : List RetryCall :=
  outcomes.map fun o => .decision .OZON_SELLER o 0

end SellerAgents.ApiWatch
