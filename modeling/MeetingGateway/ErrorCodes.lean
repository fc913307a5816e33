import MeetingGateway.Tokens
import MeetingGateway.AuthResponses

/-!
# What an error's code tells

An error of the adapter carries its result of a known creation on the side; what it leaves in
a record is its code, its status and whether the outcome is unknown. The code alone tells
whether a creation is known: PROVIDER_RESPONSE_INVALID is raised for that and for nothing
else, and no authentication raises it.
-/

namespace MeetingGateway

/-- The code says whether the creation is known, and then the outcome is not unknown. -/
structure ProviderError.Telling (e : ProviderError) : Prop where
  code : e.code = .providerResponseInvalid ↔ e.knownCreated = true
  certain : e.knownCreated = true → e.ambiguous = false

/-- Where the creation is known, the outcome is not unknown. -/
def ProviderError.Certain (e : ProviderError) : Prop := e.knownCreated = true → e.ambiguous = false

theorem TokenOutcome.certain {outcome : TokenOutcome} {e : ProviderError}
    (h : outcome.result = .error (.provider e)) : e.Certain := by
  intro known
  cases outcome with
  | issued token => cases h
  | refused code status =>
    cases h
    rfl
  | escaped err => cases h

/-- A refused token is no creation, so its code is not the one of a known creation. -/
def TokenOutcome.plain : TokenOutcome → Bool
  | .refused code _ => decide (code ≠ .providerResponseInvalid)
  | _ => true

theorem TokenOutcome.plain_telling {outcome : TokenOutcome} {e : ProviderError}
    (plain : outcome.plain = true) (h : outcome.result = .error (.provider e)) : e.Telling := by
  cases outcome with
  | issued token => cases h
  | refused code status =>
    cases h
    have hcode : code ≠ .providerResponseInvalid := by simpa [TokenOutcome.plain] using plain
    exact ⟨⟨fun hc => absurd hc hcode, fun known => by cases known⟩, fun known => by cases known⟩
  | escaped err => cases h

section Adapter
variable {cfg : Settings} {e : ProviderError}

theorem telling_of_plain {e : ProviderError} (code : e.code ≠ .providerResponseInvalid)
    (result : e.providerResult = none) : e.Telling := by
  have unknown : e.knownCreated = false := by simp [ProviderError.knownCreated, result]
  constructor
  · constructor
    · exact fun hc => absurd hc code
    · intro known
      rw [unknown] at known
      cases known
  · intro known
    rw [unknown] at known
    cases known

theorem responseInvalid_telling {result : ProviderMeetingResult}
    (h : responseInvalid result = .provider e) : e.Telling := by
  cases h
  exact ⟨⟨fun _ => rfl, fun _ => rfl⟩, fun _ => rfl⟩

theorem malformedCreation_telling (h : malformedCreation = .provider e) : e.Telling := by
  cases h
  exact telling_of_plain (by decide) rfl

theorem providerCodeOf_plain (status : Nat) :
    providerCodeOf status ≠ some .providerResponseInvalid := by
  unfold providerCodeOf
  split <;> simp

theorem statusError_telling (creation : Bool) (status : Nat) :
    (statusError creation status).Telling := by
  refine telling_of_plain ?_ rfl
  have mapped := providerCodeOf_plain status
  unfold statusError
  cases hcode : providerCodeOf status with
  | some code =>
    rw [hcode] at mapped
    intro hc
    exact mapped (congrArg some hc)
  | none =>
    dsimp only [Option.getD_none]
    split
    · decide
    · split
      · decide
      · decide

/-- The transport adds no error of a known creation to those of its parser. -/
theorem post_telling {α : Type} {creation : Bool} {parser : JsonObject → Except Raised α}
    (parsed : ∀ body e, parser body = .error (.provider e) → e.Telling) {result : HttpResult}
    (h : post creation parser result = .error (.provider e)) : e.Telling := by
  unfold post at h
  split at h
  · split at h
    · cases h
      exact telling_of_plain (by decide) rfl
    · cases h
      refine telling_of_plain ?_ rfl
      cases creation <;> decide
  · cases h
  · rename_i r
    split at h
    · cases h
      exact statusError_telling creation r.statusCode
    · split at h
      · cases h
      · rename_i inner hparse
        cases h
        unfold parseBody at hparse
        split at hparse
        · cases hparse
        · exact ⟨(parsed _ _ hparse).code, (parsed _ _ hparse).certain⟩
        · cases hparse
      · split at h
        · cases h
          refine telling_of_plain ?_ rfl
          cases creation <;> simp [unreadableError]
        · cases h
      · cases h

theorem parseStartUrl_telling {result : ProviderMeetingResult} {raw : Option Json}
    (h : parseStartUrl cfg result raw = .error (.provider e)) : e.Telling := by
  unfold parseStartUrl at h
  split at h
  · dsimp only at h
    split at h
    · cases h
    · split at h
      · cases h
      · exact responseInvalid_telling (Except.error.inj h)
  · exact responseInvalid_telling (Except.error.inj h)

theorem parseFields_telling {data : JsonObject}
    (h : parseFields cfg data = .error (.provider e)) : e.Telling := by
  unfold parseFields at h
  split at h
  · cases h
  · exact malformedCreation_telling (Except.error.inj h)
  · split at h
    · exact malformedCreation_telling (Except.error.inj h)
    · split at h
      · cases h
      · unfold parseCreated at h
        split at h
        · exact responseInvalid_telling (Except.error.inj h)
        · split at h
          · exact responseInvalid_telling (Except.error.inj h)
          · exact parseStartUrl_telling h

theorem meetingData_telling {body : JsonObject}
    (h : meetingData cfg body = .error (.provider e)) : e.Telling := by
  unfold meetingData at h
  split at h
  · cases h
  · split at h
    · cases h
    · exact malformedCreation_telling (Except.error.inj h)
    · exact malformedCreation_telling (Except.error.inj h)
    · exact malformedCreation_telling (Except.error.inj h)
    · cases h
  · exact malformedCreation_telling (Except.error.inj h)

/-- Every error of a creation tells by its code whether the creation is known. -/
theorem startMeeting_telling {result : HttpResult}
    (h : startMeeting cfg result = .error (.provider e)) : e.Telling := by
  refine post_telling ?_ h
  intro body e he
  unfold parseMeeting at he
  split at he
  · cases he
    exact telling_of_plain (by decide) rfl
  · split at he
    · exact parseFields_telling he
    · rename_i hdata
      cases he
      exact meetingData_telling hdata

end Adapter

section Tokens

theorem malformedAuth_telling {err : PyError} {e : ProviderError}
    (h : malformedAuth err = .provider e) : e.Telling := by
  unfold malformedAuth at h
  split at h
  · cases h
    exact telling_of_plain (by decide) rfl
  · cases h

/-- What an authentication can end with. -/
theorem authOutcome_plain (lib : AuthLibrary) (now : Datetime) (http : HttpResult) :
    (authOutcome lib now http).plain = true := by
  have parsed : ∀ body e, normalizeAuth lib now body = .error (.provider e) → e.Telling := by
    intro body e h
    unfold normalizeAuth at h
    split at h
    · exact malformedAuth_telling (Except.error.inj h)
    · split at h
      · exact malformedAuth_telling (Except.error.inj h)
      · split at h
        · cases h
        · cases h
        · cases h
  unfold authOutcome
  cases hpost : post false (normalizeAuth lib now) http with
  | ok auth => rfl
  | error raised =>
    cases raised with
    | gateway g => rfl
    | python err => rfl
    | provider e =>
      have telling := post_telling parsed hpost
      have mapped := authOutcome_result lib now http
      have unknown : e.knownCreated = false := by
        rw [hpost] at mapped
        unfold authOutcome at mapped
        rw [hpost] at mapped
        have same := Raised.provider.inj (Except.error.inj mapped)
        rw [← same]
        rfl
      have hcode : e.code ≠ .providerResponseInvalid := by
        intro hc
        rw [telling.code.mp hc] at unknown
        cases unknown
      simpa [TokenOutcome.plain] using hcode

theorem authenticate_plain {cfg : Settings} {room : Room} {exchange : TokenOutcome}
    (h : exchange.plain = true) : (authenticate cfg room exchange).plain = true := by
  unfold authenticate
  split
  · rfl
  · rfl
  · exact h

theorem renew_plain {cfg : TokenSettings} {room : Room} {answers : TokenAnswers}
    (h : answers.exchange.plain = true) : (renew cfg room answers).plain = true := by
  unfold renew
  split
  · split
    · rfl
    · split
      · rfl
      · rfl
  · exact authenticate_plain h

theorem underTokenLock_plain {cfg : TokenSettings} {room : Room} {force : Bool}
    {answers : TokenAnswers} (h : answers.exchange.plain = true) :
    (underTokenLock cfg room force answers).plain = true := by
  unfold underTokenLock
  split
  · exact renew_plain h
  · split
    · rfl
    · exact renew_plain h
    · split
      · split
        · rfl
        · exact renew_plain h
      · split
        · split
          · rfl
          · exact renew_plain h
        · rfl

/-- So does `get_token`, whatever the lock, the cache and the provider answer. -/
theorem getToken_plain {cfg : TokenSettings} {room : Room} {force : Bool}
    {answers : TokenAnswers} (h : answers.exchange.plain = true) :
    (getToken cfg room force answers).plain = true := by
  unfold getToken
  split
  · rfl
  · split
    · rfl
    · rfl
    · unfold leaveTokenLock
      split
      · rfl
      · rfl
      · exact underTokenLock_plain h

end Tokens
end MeetingGateway
