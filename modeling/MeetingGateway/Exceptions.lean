import MeetingGateway.Python

/-!
# Errors

The error codes of `GatewayError` and `ProviderError`, and everything a function of
the service can raise. A `GatewayError` carries the HTTP status of its response.
-/

namespace MeetingGateway

/-- The codes `ProviderError` is raised with. -/
inductive ProviderCode where
  | providerUnavailable
  | providerStateUnknown
  | providerValidationError
  | providerAuthenticationError
  | providerAuthorizationError
  | providerEndpointError
  | providerRateLimited
  | providerHttpError
  | malformedProviderResponse
  | malformedAuthResponse
  | malformedCreationResponse
  | providerResponseInvalid
  | roomInactive
  | providerTokenExpired
  | providerAuthBusy
  deriving DecidableEq

/-- The codes of `GatewayError`; a failed creation passes the provider's code on. -/
inductive ErrorCode where
  | insufficientScope
  | existingMeetingRequiresReview
  | existingMeetingMismatch
  | creationInProgress
  | providerReconciliationRequired
  | classAlreadyCompleted
  | previousCreationFailed
  | classCancelled
  | classDateMismatch
  | providerContractUnconfirmed
  | invalidInterval
  | invalidState
  | roomUnavailable
  | roomSlotConflict
  | providerCapacity
  | noCapacityAvailable
  | provider (code : ProviderCode)
  deriving DecidableEq

structure GatewayError where
  code : ErrorCode
  message : String
  status : Nat
  deriving DecidableEq

structure ProviderAuthResult where
  accessToken : String
  expiresAt : Option Int
  deriving DecidableEq

structure ProviderMeetingResult where
  calendarId : String
  meetingPanelAddress : Option String
  startMeetingUrl : Option String
  uniqueId : Option String
  deriving DecidableEq

/-- `provider_result` is passed exactly when `known_created` is, so one field is both. -/
structure ProviderError where
  code : ProviderCode
  ambiguous : Bool := false
  statusCode : Option Nat := none
  providerResult : Option ProviderMeetingResult := none
  deriving DecidableEq

def ProviderError.knownCreated (e : ProviderError) : Bool := e.providerResult.isSome

/-- Neither unknown nor confirmed: the adapter reports that nothing was created. -/
def ProviderError.definite (e : ProviderError) : Bool := !e.ambiguous && !e.knownCreated

inductive Raised where
  | gateway (e : GatewayError)
  | provider (e : ProviderError)
  | python (e : PyError)
  deriving DecidableEq

end MeetingGateway
