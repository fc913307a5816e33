import MeetingGateway.Services

/-!
# Operator actions and the sweep

`apps/meetings/admin.py` and `apps/meetings/tasks.py`. The action and the sweep visit the
rows of a query one by one; both are given for one row, which is `none` where the row
is skipped. A recovery is the form's `clean` and `save_model` on the same row.
-/

namespace MeetingGateway

/-- `cleaned_data` of the fields the form lets an operator edit. -/
structure RecoveryValues where
  providerCalendarId : Option String
  providerPanelAddress : Option String
  recoveryStartMeetingUrl : String

def recoveryFieldsMissing : PyError :=
  .validationError "Recovery requires calendarId, meetingPanelAddress, and startMeetingUrl."

def recoveryCalendarDiffers : PyError :=
  .validationError "Recovery cannot overwrite a different existing calendarId."

def recoveryUrlUntrusted : PyError :=
  .validationError "startMeetingUrl must be HTTPS on a trusted Convay domain."

/-- `MeetingRecoveryForm.clean` on the row as it was read. -/
def recoveryClean (cfg : Settings) (original : Meeting) (values : RecoveryValues) :
    Except PyError Unit :=
  if original.status ≠ .providerStateUnknown then .ok ()
  else
    let calendarId := strip (values.providerCalendarId.getD "")
    let panel := strip (values.providerPanelAddress.getD "")
    let startUrl := strip values.recoveryStartMeetingUrl
    if calendarId = "" ∨ panel = "" ∨ startUrl = "" then .error recoveryFieldsMissing
    else if present original.providerCalendarId ∧ original.providerCalendarId ≠ some calendarId then
      .error recoveryCalendarDiffers
    else
      match cfg.urlsplit startUrl with
      | .error e => .error e
      | .ok parsed => if trustedUrl cfg parsed then .ok () else .error recoveryUrlUntrusted

def Meeting.toRecovered (original : Meeting) (values : RecoveryValues)
    (startUrl : Stored String) (now : Int) : Meeting :=
  { original with
    providerCalendarId := values.providerCalendarId
    providerPanelAddress := values.providerPanelAddress
    encryptedProviderStartUrl := some startUrl
    providerCreatedAt := original.providerCreatedAt.or (some now)
    status := .ready
    reservationActive := true
    lastProviderError := none
    updatedAt := now }

/-- `save_model` on the locked row; outside recovery every field is read-only. -/
def saveModel (cfg : Settings) (original : Meeting) (values : RecoveryValues) (now : Int) :
    Except PyError Meeting :=
  if original.status ≠ .providerStateUnknown then .ok { original with updatedAt := now }
  else if present original.providerCalendarId ∧
      original.providerCalendarId ≠ values.providerCalendarId then
    .error recoveryCalendarDiffers
  else
    match encrypt cfg values.recoveryStartMeetingUrl with
    | .error e => .error e
    | .ok startUrl => .ok (original.toRecovered values startUrl now)

def recover (cfg : Settings) (original : Meeting) (values : RecoveryValues) (now : Int) :
    Except PyError Meeting :=
  match recoveryClean cfg original values with
  | .ok () => saveModel cfg original values now
  | .error e => .error e

/-- The statuses `confirm_provider_ended` releases. -/
def Status.confirmable : Status → Bool
  | .ready | .live | .providerResponseInvalid | .providerStateUnknown => true
  | _ => false

def Meeting.toEnded (m : Meeting) (now : Int) : Meeting :=
  { m with status := .ended, reservationActive := false, updatedAt := now }

def confirmProviderEnded (m : Meeting) (now : Int) : Option Meeting :=
  if m.status.confirmable then some (m.toEnded now) else none

def Meeting.toUnknown (m : Meeting) (now : Int) : Meeting :=
  { m with
    status := .providerStateUnknown
    lastProviderError := some .provisioningInterrupted
    updatedAt := now }

def flagStaleProvisioning (m : Meeting) (now : Int) : Option Meeting :=
  if m.status = .provisioning ∧ m.updatedAt < now - 10 * minuteMicroseconds then
    some (m.toUnknown now)
  else none

theorem strip_ne_empty {s : String} (h : strip s ≠ "") : s ≠ "" := by
  rintro rfl
  exact h rfl

theorem present_of_strip {text : Option String} (h : strip (text.getD "") ≠ "") :
    present text = true := by
  cases text with
  | none => exact absurd rfl h
  | some s => simpa [present] using strip_ne_empty h

/-- A recovery either leaves a row that is not unknown as it is, or makes it ready with
all the fields a ready meeting needs. -/
theorem recover_ok {cfg : Settings} {original row : Meeting} {values : RecoveryValues}
    {now : Int} (h : recover cfg original values now = .ok row) :
    (original.status ≠ .providerStateUnknown ∧ row = { original with updatedAt := now }) ∨
      (original.status = .providerStateUnknown ∧ present values.providerCalendarId = true ∧
        present values.providerPanelAddress = true ∧
        ∃ startUrl, encrypt cfg values.recoveryStartMeetingUrl = .ok startUrl ∧
          row = original.toRecovered values startUrl now) := by
  unfold recover at h
  split at h
  · rename_i hclean
    unfold saveModel at h
    split at h
    · rename_i hstatus
      cases h
      exact Or.inl ⟨hstatus, rfl⟩
    · rename_i hstatus
      split at h
      · cases h
      · split at h
        · cases h
        · rename_i startUrl hurl
          cases h
          unfold recoveryClean at hclean
          rw [if_neg hstatus] at hclean
          dsimp only at hclean
          split at hclean
          · cases hclean
          · rename_i hfields
            have hcalendar : strip (values.providerCalendarId.getD "") ≠ "" :=
              fun hc => hfields (Or.inl hc)
            have hpanel : strip (values.providerPanelAddress.getD "") ≠ "" :=
              fun hp => hfields (Or.inr (Or.inl hp))
            exact Or.inr ⟨not_not.mp hstatus, present_of_strip hcalendar,
              present_of_strip hpanel, startUrl, hurl, rfl⟩
  · cases h

theorem confirmProviderEnded_some {m row : Meeting} {now : Int}
    (h : confirmProviderEnded m now = some row) :
    m.status.confirmable = true ∧ row = m.toEnded now := by
  unfold confirmProviderEnded at h
  split at h
  · rename_i hstatus
    cases h
    exact ⟨hstatus, rfl⟩
  · cases h

theorem flagStaleProvisioning_some {m row : Meeting} {now : Int}
    (h : flagStaleProvisioning m now = some row) :
    m.status = .provisioning ∧ row = m.toUnknown now := by
  unfold flagStaleProvisioning at h
  split at h
  · rename_i hstale
    cases h
    exact ⟨hstale.1, rfl⟩
  · cases h

end MeetingGateway
