import SellerAgents.Js.Value

open SellerAgents.Js

namespace SellerAgents.Execution

/-- A thrown error, with the fields the execution modules read. -/
structure JsError where
  code : Option String
  message : String
  external_request_executed : Option Bool
  execution_context_error : Bool
deriving DecidableEq

namespace Context

/-- `error(code)`: the context of the batch changed. -/
def error (code : String) : JsError where
  code := some code
  message := "Контекст запущенного пакета изменился. Остаток остановлен; выберите магазин и явно запустите новую команду."
  external_request_executed := some false
  execution_context_error := true

end Context

/-- The fields an authority context adds to a snapshot. -/
structure AuthorityFields where
  scopeKey : JsString
  principalEpoch : Double
  accessEpoch : Double
  grantEpoch : Double
  workGeneration : Double
  aiFamily : JsString

/-- A pinned execution context, as `snapshot` returns it. -/
structure ExecutionContext where
  accountId : Field
  storeId : Field
  marketplace : Field
  credentialRevision : Field
  conversationKey : Field
  bindingId : Field
  bindingRevision : Field
  workSessionId : Field
  policyRevision : Field
  commandHash : Field
  requestId : Field
  authGeneration : Option Double
  authority : Option AuthorityFields

end SellerAgents.Execution
