import MeetingGateway.Creation
import MeetingGateway.Library.StaleSaves

/-!
# Change requests of meetings

`apps/meetings/admin.py`, with its three moments apart: the instance is loaded without a lock,
the form is cleaned against the row as it then is, and `save_model` writes every column of the
instance over the row it finds under the lock. Everything else that works on meetings goes on
in between.
-/

namespace MeetingGateway

open LabelledRuns StaleSaves

/-- What a text field of a form hands on; the two fields of the model are required. -/
abbrev StrippedText := { text : String // strip text = text }

abbrev RequiredText := { text : String // strip text = text ∧ text ≠ "" }

structure ChangeForm where
  providerCalendarId : RequiredText
  providerPanelAddress : RequiredText
  recoveryStartMeetingUrl : StrippedText

/-- `cleaned_data`: a field that is read-only for the loaded status is not in the form. -/
def ChangeForm.values (form : ChangeForm) (obj : Meeting) : RecoveryValues :=
  if obj.status = .providerStateUnknown then
    ⟨some form.providerCalendarId.1, some form.providerPanelAddress.1,
      form.recoveryStartMeetingUrl.1⟩
  else ⟨none, none, form.recoveryStartMeetingUrl.1⟩

/-- The loaded instance with the fields of the form. -/
def ChangeForm.fill (form : ChangeForm) (obj : Meeting) : Meeting :=
  if obj.status = .providerStateUnknown then
    { obj with
      providerCalendarId := some form.providerCalendarId.1
      providerPanelAddress := some form.providerPanelAddress.1 }
  else obj

/-- `save_model`: every column is that of the instance, but for a recovery's own. -/
def saveInstance (cfg : Settings) (original obj : Meeting) (url : String) (now : Int) :
    Except PyError Meeting :=
  if original.status ≠ .providerStateUnknown then .ok { obj with updatedAt := now }
  else if present original.providerCalendarId ∧
      original.providerCalendarId ≠ obj.providerCalendarId then
    .error recoveryCalendarDiffers
  else
    match encrypt cfg url with
    | .error e => .error e
    | .ok startUrl => .ok
        (obj.toRecovered ⟨obj.providerCalendarId, obj.providerPanelAddress, url⟩ startUrl now)

/-- On the row as it was loaded this is the save of a recovery in one step. -/
theorem saveInstance_fill (cfg : Settings) (original : Meeting) (form : ChangeForm) (now : Int) :
    saveInstance cfg original (form.fill original) form.recoveryStartMeetingUrl.1 now =
      saveModel cfg original (form.values original) now := by
  by_cases h : original.status = .providerStateUnknown
  · simp only [saveInstance, saveModel, ChangeForm.fill, ChangeForm.values, h, ne_eq,
      not_true_eq_false, if_false, if_true]
    rfl
  · simp [saveInstance, saveModel, ChangeForm.fill, h]

/-- A request: the instance, and once the form is cleaned its URL. `checked` records that the
row was unknown when it was. -/
structure ChangeRequest where
  obj : Meeting
  url : Option String
  checked : Bool

def loadChange (pk : MeetingId) (w : World) : Option ChangeRequest :=
  (w.store.meeting? pk).map fun m => ⟨m, none, false⟩

/-- A form that is not valid ends the request. -/
def cleanChange (cfg : Settings) (pk : MeetingId) (w : World) (request : ChangeRequest)
    (form : ChangeForm) : Option ChangeRequest :=
  match request.url, w.store.meeting? pk with
  | none, some original =>
    match recoveryClean cfg original (form.values request.obj) with
    | .ok () => some
        ⟨form.fill request.obj, some form.recoveryStartMeetingUrl.1,
          decide (original.status = .providerStateUnknown)⟩
    | .error _ => none
  | _, _ => none

/-- The save waits for the row's lock; a save the database refuses is rolled back. -/
def saveChange (cfg : Settings) (pk : MeetingId) (w : World) (request : ChangeRequest)
    (now : Int) : Option World :=
  match request.url, w.store.meeting? pk, (w.sessions pk).lock with
  | some url, some original, none =>
    match saveInstance cfg original request.obj url now with
    | .error _ => none
    | .ok row =>
      match w.store.save row with
      | .error _ => none
      | .ok store => some { w with
          store := store
          sessions := if original.status = .providerStateUnknown then
            Function.update w.sessions pk (w.sessions pk).recordOperator else w.sessions }
  | _, _, _ => none

/-- The change requests of one meeting among all steps of the gateway. -/
def changeRequests (cfg : Settings) (pk : MeetingId) :
    Workflow World ChangeRequest ChangeForm Int Label where
  load := loadChange pk
  work := cleanChange cfg pk
  save := saveChange cfg pk
  update := World.step cfg

abbrev MeetingDesk (κ : Type) := Desk World ChangeRequest κ

abbrev MeetingAction (κ : Type) := Action κ ChangeForm Int Label

/-- The status, the reservation and the provider fields of a row. -/
structure MeetingOutcome where
  status : Status
  room : Option RoomId
  reservation : Option (BoundedRange Int)
  reservationActive : Bool
  providerMeetingType : String
  providerCalendarId : Option String
  providerUniqueId : Option String
  providerPanelAddress : Option String
  encryptedProviderStartUrl : Option (Stored String)
  encryptedProviderPayload : Option (Stored JsonObject)
  providerCreatedAt : Option Int
  lastProviderError : Option LastProviderError

def Meeting.outcome (m : Meeting) : MeetingOutcome :=
  ⟨m.status, m.room, m.reservation, m.reservationActive, m.providerMeetingType,
    m.providerCalendarId, m.providerUniqueId, m.providerPanelAddress,
    m.encryptedProviderStartUrl, m.encryptedProviderPayload, m.providerCreatedAt,
    m.lastProviderError⟩

def TrustedStartUrl (cfg : Settings) (url : String) : Prop :=
  url ≠ "" ∧ ∃ parsed, cfg.urlsplit url = .ok parsed ∧ trustedUrl cfg parsed = true

/-- A ready row with all that a recovery must provide. -/
structure Recovered (cfg : Settings) (original saved : Meeting) : Prop where
  ready : saved.status = .ready
  calendar : present saved.providerCalendarId = true
  same : present original.providerCalendarId = true →
    saved.providerCalendarId = original.providerCalendarId
  panel : present saved.providerPanelAddress = true
  url : ∃ url, saved.encryptedProviderStartUrl.map (decrypt cfg.keyring) = some (.ok url) ∧
    TrustedStartUrl cfg url

/-- The values of the request are those a recovery must provide. -/
structure ChangeRequest.Usable (cfg : Settings) (request : ChangeRequest) : Prop where
  calendar : present request.obj.providerCalendarId = true
  panel : present request.obj.providerPanelAddress = true
  url : ∀ url, request.url = some url → TrustedStartUrl cfg url

section Saves
variable {cfg : Settings} {pk : MeetingId} {w w' : World} {request : ChangeRequest}

theorem recoveryClean_unknown {original : Meeting} {values : RecoveryValues}
    (h : recoveryClean cfg original values = .ok ())
    (unknown : original.status = .providerStateUnknown) :
    present values.providerCalendarId = true ∧ present values.providerPanelAddress = true ∧
      strip values.recoveryStartMeetingUrl ≠ "" ∧
      TrustedStartUrl cfg (strip values.recoveryStartMeetingUrl) := by
  unfold recoveryClean at h
  rw [if_neg (not_not.mpr unknown)] at h
  dsimp only at h
  split at h
  · cases h
  · rename_i hfields
    simp only [not_or] at hfields
    split at h
    · cases h
    · split at h
      · cases h
      · rename_i parsed hparsed
        split at h
        · rename_i trusted
          exact ⟨present_of_strip hfields.1, present_of_strip hfields.2.1, hfields.2.2,
            hfields.2.2, parsed, hparsed, trusted⟩
        · cases h

/-- A form that was checked as a recovery fills the instance with usable values. -/
theorem cleanChange_usable {form : ChangeForm} {request' : ChangeRequest}
    (h : cleanChange cfg pk w request form = some request') (checked : request'.checked = true) :
    request'.Usable cfg := by
  unfold cleanChange at h
  split at h
  · rename_i original _ _
    split at h
    · rename_i hclean
      cases h
      obtain ⟨calendar, panel, _, trusted⟩ :=
        recoveryClean_unknown hclean (of_decide_eq_true checked)
      have unknown : request.obj.status = .providerStateUnknown := by
        by_contra other
        simp [ChangeForm.values, other, present] at calendar
      simp only [ChangeForm.values, if_pos unknown] at calendar panel trusted
      constructor
      · simpa [ChangeForm.fill, unknown] using calendar
      · simpa [ChangeForm.fill, unknown] using panel
      · rintro _ ⟨⟩
        rwa [form.recoveryStartMeetingUrl.2] at trusted
    · cases h
  · cases h

/-- What is known of a request: its instance is of the meeting, and checked values are usable. -/
structure ChangeRequest.Known (cfg : Settings) (pk : MeetingId) (request : ChangeRequest) :
    Prop where
  id : request.obj.id = pk
  usable : request.checked = true → request.Usable cfg

theorem cleanChange_known {form : ChangeForm} {request' : ChangeRequest}
    (h : cleanChange cfg pk w request form = some request') (known : request.Known cfg pk) :
    request'.Known cfg pk := by
  constructor
  · unfold cleanChange at h
    split at h
    · split at h
      · cases h
        by_cases unknown : request.obj.status = .providerStateUnknown
        · simpa [ChangeForm.fill, unknown] using known.id
        · simpa [ChangeForm.fill, unknown] using known.id
      · cases h
    · cases h
  · exact cleanChange_usable h

theorem known_reached {κ : Type} [DecidableEq κ] {store : Store} {d : MeetingDesk κ} {k : κ}
    (h : Reachable (changeRequests cfg pk).step (Desk.start (World.initial store)) d)
    (hrequest : d.pending k = some request) : request.Known cfg pk := by
  refine Workflow.pending_invariant ?_ ?_ ?_ h k request hrequest
  · intro k request hk
    cases hk
  · intro w request hload
    obtain ⟨m, hm, rfl⟩ := Option.map_eq_some_iff.mp hload
    constructor
    · exact Store.meeting?_id hm
    · intro checked
      cases checked
  · intro w request form request' hwork known
    exact cleanChange_known hwork known

/-- What a save writes. -/
theorem saveChange_writes {now : Int} {original : Meeting} (hid : request.obj.id = pk)
    (hlocked : w.store.meeting? pk = some original)
    (h : saveChange cfg pk w request now = some w') :
    ∃ url row, request.url = some url ∧ saveInstance cfg original request.obj url now = .ok row ∧
      w'.store.meeting? pk = some row := by
  unfold saveChange at h
  split at h
  · rename_i url found hurl hfound _
    rw [hlocked] at hfound
    cases hfound
    split at h
    · cases h
    · rename_i row hrow
      split at h
      · cases h
      · rename_i store hsave
        cases h
        refine ⟨url, row, hurl, hrow, ?_⟩
        have hrowid : row.id = pk := by
          unfold saveInstance at hrow
          split at hrow
          · cases hrow
            exact hid
          · split at hrow
            · cases hrow
            · split at hrow
              · cases hrow
              · cases hrow
                exact hid
        obtain ⟨_, _, rfl⟩ := Store.save_ok hsave
        rw [← hrowid] at hlocked ⊢
        exact Store.meeting?_putMeeting_self hlocked
  · cases h

theorem saveInstance_known {original obj row : Meeting} {url : String} {now : Int}
    (other : original.status ≠ .providerStateUnknown)
    (h : saveInstance cfg original obj url now = .ok row) : row.outcome = obj.outcome := by
  rw [saveInstance, if_pos other] at h
  cases h
  rfl

theorem saveInstance_unknown {original obj row : Meeting} {url : String} {now : Int}
    (unknown : original.status = .providerStateUnknown)
    (h : saveInstance cfg original obj url now = .ok row) :
    (present original.providerCalendarId = true →
      obj.providerCalendarId = original.providerCalendarId) ∧
    ∃ startUrl, encrypt cfg url = .ok startUrl ∧
      row = obj.toRecovered ⟨obj.providerCalendarId, obj.providerPanelAddress, url⟩ startUrl
        now := by
  rw [saveInstance, if_neg (not_not.mpr unknown)] at h
  split at h
  · cases h
  · rename_i same
    split at h
    · cases h
    · rename_i startUrl hencrypt
      cases h
      refine ⟨?_, startUrl, hencrypt, rfl⟩
      intro stored
      by_contra differs
      exact same ⟨stored, Ne.symm differs⟩

theorem recovered_iff_usable {original row : Meeting} {url : String} {now : Int}
    (unknown : original.status = .providerStateUnknown) (hurl : request.url = some url)
    (h : saveInstance cfg original request.obj url now = .ok row) :
    Recovered cfg original row ↔ request.Usable cfg := by
  obtain ⟨same, startUrl, hencrypt, rfl⟩ := saveInstance_unknown unknown h
  have sealed : decrypt cfg.keyring startUrl = .ok url := decrypt_encrypt hencrypt
  constructor
  · intro recovered
    obtain ⟨saved, hsaved, trusted⟩ := recovered.url
    refine ⟨recovered.calendar, recovered.panel, ?_⟩
    intro url' hurl'
    have hsame : url = saved := by
      simpa [Meeting.toRecovered, sealed] using hsaved
    rw [hurl] at hurl'
    cases hurl'
    rwa [hsame]
  · intro usable
    exact ⟨rfl, usable.calendar, same, usable.panel, url, by simp [Meeting.toRecovered, sealed],
      usable.url url hurl⟩

end Saves

/-- In every run of the gateway with change requests, a save that finds the row known keeps its
outcome exactly if the instance has it, and one that finds it unknown recovers it exactly if the
form was checked as a recovery or its values are usable anyway. -/
theorem change_request_keeps_outcome_iff (cfg : Settings) {κ : Type} [DecidableEq κ]
    {store : Store} {pk : MeetingId} {d d' : MeetingDesk κ} {k : κ} {now : Int}
    {request : ChangeRequest} {original : Meeting}
    (reached : Reachable (changeRequests cfg pk).step (Desk.start (World.initial store)) d)
    (hrequest : d.pending k = some request)
    (hlocked : d.row.store.meeting? pk = some original)
    (h : (changeRequests cfg pk).step d (.save k now) = some d') :
    ∃ saved, d'.row.store.meeting? pk = some saved ∧
      (original.status ≠ .providerStateUnknown →
        (saved.outcome = original.outcome ↔ request.obj.outcome = original.outcome)) ∧
      (original.status = .providerStateUnknown →
        (Recovered cfg original saved ↔ request.checked = true ∨ request.Usable cfg)) := by
  have known := known_reached reached hrequest
  have hsave : saveChange cfg pk d.row request now = some d'.row := by
    rcases Workflow.step_cases h with ⟨hl, _⟩ | ⟨_, _, held, hl, hheld, hsave⟩ | ⟨_, hl, _⟩
    · cases hl
    · cases hl
      rw [hrequest] at hheld
      cases hheld
      exact hsave
    · cases hl
  obtain ⟨url, saved, hurl, hrow, hsaved⟩ := saveChange_writes known.id hlocked hsave
  refine ⟨saved, hsaved, ?_, ?_⟩
  · intro other
    rw [saveInstance_known other hrow]
  · intro unknown
    rw [recovered_iff_usable unknown hurl hrow]
    constructor
    · exact Or.inr
    · rintro (checked | usable)
      · exact known.usable checked
      · exact usable

def exampleForm : ChangeForm :=
  ⟨⟨"cal-2", by decide⟩, ⟨"https://meet.convay.com/panel", by decide⟩, ⟨"", rfl⟩⟩

/-- The instance is loaded while the meeting is PROVISIONING, when every field is read-only. -/
def exampleProvisioning : List (MeetingAction Unit) :=
  exampleCommitted.map .apply ++ [.load ()]

/-- The creation succeeds before the form is cleaned. -/
def exampleCompletion : List (MeetingAction Unit) :=
  [.apply (.on 1 (.token 0 (.issued exampleToken))), .apply (.on 1 (.send 0 0)),
    .apply (.on 1 (.remoteCreates 0)), .apply (.on 1 (.receive 0 exampleCreated)),
    .apply (.on 1 (.finish 0 1)), .work () exampleForm]

/-- The sweep gives the creation up after the form is cleaned. -/
def exampleSweep : List (MeetingAction Unit) :=
  [.work () exampleForm, .apply (.on 1 (.sweep 700000000))]

def exampleChangeRun (labels : List (MeetingAction Unit)) : Option (MeetingDesk Unit) :=
  run (changeRequests exampleSettings 1).step (Desk.start (World.initial exampleStore)) labels

/-- The row before and after the save. -/
def exampleSave (labels : List (MeetingAction Unit)) : Option (Meeting × Meeting) :=
  (exampleChangeRun labels).bind fun d =>
    ((changeRequests exampleSettings 1).step d (.save () 800000000)).bind fun d' =>
      (d.row.store.meeting? 1).bind fun original =>
        (d'.row.store.meeting? 1).map fun saved => (original, saved)

/-- The first save makes a ready meeting PROVISIONING again and drops what the provider
answered; the second one makes an unknown meeting READY without any of it. -/
theorem stale_change_request :
    (exampleSave (exampleProvisioning ++ exampleCompletion)).map (fun rows =>
      (rows.1.status, rows.1.providerCalendarId, rows.2.status, rows.2.providerCalendarId)) =
      some (.ready, some "cal-1", .provisioning, none) ∧
    (exampleSave (exampleProvisioning ++ exampleSweep)).map (fun rows =>
      (rows.1.status, rows.2.status, rows.2.providerCalendarId, rows.2.providerPanelAddress,
        rows.2.encryptedProviderStartUrl.map (decrypt exampleSettings.keyring))) =
      some (.providerStateUnknown, .ready, none, none, some (.ok "")) := by
  constructor
  · rfl
  · rfl

def exampleRecovery : List (MeetingAction Unit) :=
  exampleCommitted.map .apply ++ [.apply (.on 1 (.sweep 700000000)), .load (),
    .work () { exampleForm with
      recoveryStartMeetingUrl := ⟨"https://meet.convay.com/start", by decide⟩ }]

/-- Loaded, cleaned and saved while the meeting is unknown. -/
theorem change_request_keeps_outcome_recovery :
    ∃ d d' original saved, exampleChangeRun exampleRecovery = some d ∧
      (changeRequests exampleSettings 1).step d (.save () 800000000) = some d' ∧
      d.row.store.meeting? 1 = some original ∧ original.status = .providerStateUnknown ∧
      d'.row.store.meeting? 1 = some saved ∧ Recovered exampleSettings original saved := by
  obtain ⟨d, d', request, original, hrun, hsave, hrequest, hlocked, unknown, checked⟩ :
      ∃ d d' request original, exampleChangeRun exampleRecovery = some d ∧
        (changeRequests exampleSettings 1).step d (.save () 800000000) = some d' ∧
        d.pending () = some request ∧ d.row.store.meeting? 1 = some original ∧
        original.status = .providerStateUnknown ∧ request.checked = true :=
    ⟨_, _, _, _, rfl, rfl, rfl, rfl, rfl, rfl⟩
  obtain ⟨saved, hsaved, _, recovers⟩ := change_request_keeps_outcome_iff exampleSettings
    (reachable_of_run hrun) hrequest hlocked hsave
  exact ⟨d, d', original, saved, hrun, hsave, hlocked, unknown, hsaved,
    (recovers unknown).mpr (Or.inl checked)⟩

end MeetingGateway
