import Mathlib
import MeetingGateway.GatewayTokens
import MeetingGateway.SecretRotation
import MeetingGateway.Views
import MeetingGateway.Library.ExpiringCounters
import MeetingGateway.Library.TextCuts

/-!
# The token exchange and its throttle

`POST /api/v1/auth/token/`: `throttle_exchange` counts in Redis before anything is read of
the request. Workers count under their own clocks, Redis expires counters under its own.
While these are within thirty seconds of each other the throttle is exactly a limit of
sixty for a remote address and a minute.
-/

namespace MeetingGateway

open ExpiringCounters

/-- The framework's fields; `client_secret` keeps its white space. -/
structure TokenDrf extends Drf where
  secretField : Nat → Json → Except (List String) String

/-- The settings and libraries of the exchange. -/
structure TokenService where
  jwt : Jwt
  hasher : PasswordHasher
  ip : IpAddresses
  cfg : GatewayJwtSettings
  drf : TokenDrf

/-- What the worker hears of the pipeline, which Redis executes whole or not at all. -/
inductive Delivery where
  | answered
  | lost
  | failed
  deriving DecidableEq

/-- A request, the clocks, what is drawn for it and the clients it finds. -/
structure Exchange where
  remote : String
  now : Nat
  redisNow : Int
  delivery : Delivery
  body : RequestBody
  clients : ClientTable
  issuedAt : Nat
  jti : Uuid

inductive ExchangeError where
  | throttled (wait : Nat)
  | redis
  | body (e : ApiError)
  | auth (e : AuthError)

structure ExchangeData (jwt : Jwt) where
  accessToken : jwt.Token
  tokenType : String
  expiresIn : Int
  scopes : List String

def seconds (n : Nat) : Nat := n * 1000000

/-- `int(timezone.now().timestamp()) // 60`. -/
def Exchange.minute (x : Exchange) : Nat := x.now / seconds 1 / 60

def tokenLimitKey (remote : String) (minute : Nat) : String :=
  "gateway-token-limit:" ++ remote ++ ":" ++ toString minute

def Exchange.bucket (x : Exchange) : Hit String := ⟨tokenLimitKey x.remote x.minute, x.redisNow⟩

def counterLifetime : Int := seconds 120

/-- The pipeline's `INCR` and `EXPIRE`. -/
def Exchange.count (counters : Counters String) (x : Exchange) : Counters String :=
  match x.delivery with
  | .failed => counters
  | _ => counters.hit counterLifetime x.bucket

def throttleExchange (counters : Counters String) (x : Exchange) : Except ExchangeError Unit :=
  match x.delivery with
  | .answered =>
    if 60 < counters.read x.bucket.key x.redisNow + 1 then .error (.throttled 60) else .ok ()
  | _ => .error .redis

/-- A form keeps all its entries. -/
def RequestBody.entries : RequestBody → Except ApiError Json
  | .form entries => .ok (.obj (entries.map fun entry => (entry.1, .str entry.2)))
  | body => body.data

/-- `TokenRequestSerializer`, of whose errors nothing is told; other fields are ignored. -/
def tokenRequestSerializer (drf : TokenDrf) : Json → Option (String × String)
  | .obj fields =>
    match fieldValue "client_id" fields (charField drf.toDrf 36),
        fieldValue "client_secret" fields fun value =>
          (drf.secretField 256 value).mapError Detail.texts with
    | .ok clientId, .ok clientSecret => some (clientId, clientSecret)
    | _, _ => none
  | _ => none

/-- The pair of credentials a well-formed body brings. -/
def Exchange.credentials (drf : TokenDrf) (x : Exchange) : Option (String × String) :=
  match x.body.entries with
  | .error _ => none
  | .ok data => tokenRequestSerializer drf data

section View
variable (s : TokenService)

/-- What follows the throttle. -/
def exchangeCredentials (x : Exchange) : Except ExchangeError (ExchangeData s.jwt) :=
  match x.body.entries with
  | .error e => .error (.body e)
  | .ok data =>
    match tokenRequestSerializer s.drf data with
    | none => .error (.auth (.machine .invalidClient))
    | some (clientId, clientSecret) =>
      match authenticateCredentials s.hasher s.ip x.clients clientId clientSecret x.remote with
      | .error e => .error (.auth e)
      | .ok client => .ok
          ⟨issueToken s.jwt s.cfg client x.issuedAt x.jti, "Bearer",
            s.cfg.gatewayAccessTokenTtlSeconds,
            sortedSet client.scopes.1⟩

/-- The answer, and the counters afterwards. -/
def TokenView.post (counters : Counters String) (x : Exchange) :
    Except ExchangeError (ExchangeData s.jwt) × Counters String :=
  match throttleExchange counters x with
  | .error e => (.error e, x.count counters)
  | .ok () => (exchangeCredentials s x, x.count counters)

/-- The counters after a history of exchanges, in the order Redis executed them. -/
def countersAfter (history : List Exchange) : Counters String :=
  history.foldl (fun counters x => (TokenView.post s counters x).2) .none

/-- The pair that `authenticate_credentials` is called with, if it is called. -/
def examined (counters : Counters String) (x : Exchange) : Option (String × String) :=
  match throttleExchange counters x with
  | .error _ => none
  | .ok () => x.credentials s.drf

/-- The exchanges of a history whose credentials were looked at. -/
def examinedExchanges : Counters String → List Exchange → List Exchange
  | _, [] => []
  | counters, x :: rest =>
    let after := (TokenView.post s counters x).2
    if (examined s counters x).isSome then x :: examinedExchanges after rest
    else examinedExchanges after rest

/-- Where it is called, what it raises is the answer, and a token is issued otherwise. -/
theorem examined_some {counters : Counters String} {x : Exchange} {clientId clientSecret : String}
    (h : examined s counters x = some (clientId, clientSecret)) :
    (∀ e, authenticateCredentials s.hasher s.ip x.clients clientId clientSecret x.remote =
        .error e → (TokenView.post s counters x).1 = .error (.auth e)) ∧
    ∀ client, authenticateCredentials s.hasher s.ip x.clients clientId clientSecret x.remote =
        .ok client → ∃ data, (TokenView.post s counters x).1 = .ok data ∧
          data.accessToken = issueToken s.jwt s.cfg client x.issuedAt x.jti := by
  unfold examined at h
  unfold TokenView.post
  cases hthrottle : throttleExchange counters x with
  | error e =>
    rw [hthrottle] at h
    cases h
  | ok _ =>
    rw [hthrottle] at h
    simp only [Exchange.credentials] at h
    simp only [exchangeCredentials]
    cases hentries : x.body.entries with
    | error e =>
      rw [hentries] at h
      cases h
    | ok data =>
      rw [hentries] at h
      simp only [h]
      constructor
      · intro e raised
        simp only [raised]
      · intro client authenticated
        simp only [authenticated]
        exact ⟨_, rfl, rfl⟩

/-- Where it is not called, the clients have no say in the answer. -/
theorem examined_none {counters : Counters String} {x : Exchange}
    (h : examined s counters x = none) (clients : ClientTable) :
    (TokenView.post s counters { x with clients := clients }).1 =
      (TokenView.post s counters x).1 := by
  have same : throttleExchange counters { x with clients := clients } =
      throttleExchange counters x := rfl
  unfold TokenView.post
  rw [same]
  unfold examined at h
  cases hthrottle : throttleExchange counters x with
  | error e => rfl
  | ok _ =>
    rw [hthrottle] at h
    simp only [Exchange.credentials] at h
    simp only [exchangeCredentials]
    cases hentries : x.body.entries with
    | error e => rfl
    | ok data =>
      rw [hentries] at h
      simp only [h]

end View

/-- The worker's clock and the clock of Redis are within thirty seconds of each other. -/
structure Exchange.Synced (x : Exchange) : Prop where
  early : (x.now : Int) ≤ x.redisNow + seconds 30
  late : x.redisNow ≤ x.now + seconds 30

/-- Redis counted the exchange for this remote address and minute. -/
def Exchange.counts (remote : String) (minute : Nat) (x : Exchange) : Bool :=
  decide (x.delivery ≠ .failed) && decide (x.remote = remote ∧ x.minute = minute)

theorem colon_notMem_digits (n : Nat) : ':' ∉ (toString n).toList := by
  intro h
  rw [show (toString n).toList = Nat.toDigits 10 n from Nat.toList_repr] at h
  have digit := Nat.isDigit_of_mem_toDigits (by omega) (by omega) h
  revert digit
  decide

theorem toList_tokenLimitKey (remote : String) (minute : Nat) :
    (tokenLimitKey remote minute).toList =
      ("gateway-token-limit:".toList ++ remote.toList) ++ ':' :: (toString minute).toList := by
  have colon : ":".toList = [':'] := rfl
  unfold tokenLimitKey
  rw [String.toList_append, String.toList_append, String.toList_append, colon, List.append_assoc,
    List.singleton_append]

/-- A remote address may hold colons itself; the minute is what follows the last one. -/
theorem tokenLimitKey_inj {remote remote' : String} {minute minute' : Nat} :
    tokenLimitKey remote minute = tokenLimitKey remote' minute' ↔
      remote = remote' ∧ minute = minute' := by
  constructor
  · intro h
    have chars := congrArg String.toList h
    rw [toList_tokenLimitKey, toList_tokenLimitKey] at chars
    obtain ⟨front, digits⟩ := TextCuts.append_sep_inj (colon_notMem_digits minute)
      (colon_notMem_digits minute') chars
    exact ⟨String.toList_inj.mp (List.append_cancel_left front),
      Nat.repr_injective (String.toList_inj.mp digits)⟩
  · rintro ⟨rfl, rfl⟩
    rfl

/-- Two exchanges of one minute reach Redis while the counter of the minute lives. -/
theorem Exchange.Synced.within {x y : Exchange} (hx : x.Synced) (hy : y.Synced)
    (same : x.minute = y.minute) : y.redisNow ≤ x.redisNow + counterLifetime := by
  have hxe := hx.early
  have hyl := hy.late
  simp only [Exchange.minute, seconds, counterLifetime] at *
  omega

section Counting
variable {s : TokenService}

theorem post_counters (counters : Counters String) (x : Exchange) :
    (TokenView.post s counters x).2 = x.count counters := by
  unfold TokenView.post
  split
  · rfl
  · rfl

/-- The counted exchanges of a history, as Redis sees them. -/
def hits (history : List Exchange) : List (Hit String) :=
  (history.filter fun x => decide (x.delivery ≠ .failed)).map Exchange.bucket

theorem countersAfter_concat (history : List Exchange) (x : Exchange) :
    countersAfter s (history ++ [x]) =
      x.count (countersAfter s history) := by
  simp only [countersAfter, List.foldl_append, List.foldl_cons, List.foldl_nil, post_counters]

theorem countersAfter_eq (history : List Exchange) :
    countersAfter s history = after counterLifetime (hits history) := by
  induction history using List.reverseRecOn with
  | nil => rfl
  | append_singleton history x ih =>
    have more : hits (history ++ [x]) = hits history ++ hits [x] := by simp [hits]
    rw [countersAfter_concat, ih, more]
    cases hd : x.delivery with
    | answered => simp [Exchange.count, hd, hits, after_concat]
    | lost => simp [Exchange.count, hd, hits, after_concat]
    | failed => simp [Exchange.count, hd, hits]

theorem mem_hits {history : List Exchange} {h : Hit String} (mem : h ∈ hits history) :
    ∃ x ∈ history, h = x.bucket := by
  obtain ⟨x, hx, rfl⟩ := List.mem_map.mp mem
  exact ⟨x, (List.mem_filter.mp hx).1, rfl⟩

/-- What Redis reads is the number of exchanges it counted for the address and minute. -/
theorem read_bucket {history : List Exchange} (synced : ∀ x ∈ history, x.Synced) {x : Exchange}
    (hx : x.Synced) :
    (countersAfter s history).read x.bucket.key x.redisNow =
      history.countP (Exchange.counts x.remote x.minute) := by
  have tight : Tight counterLifetime x.bucket.key (hits history) := by
    intro h hmem h' hmem' hkey hkey'
    obtain ⟨y, hy, rfl⟩ := mem_hits hmem
    obtain ⟨z, hz, rfl⟩ := mem_hits hmem'
    exact (synced y hy).within (synced z hz)
      ((tokenLimitKey_inj.mp hkey).2.trans (tokenLimitKey_inj.mp hkey').2.symm)
  have soon : ∀ h ∈ hits history, h.key = x.bucket.key → x.redisNow ≤ h.time + counterLifetime := by
    intro h hmem hkey
    obtain ⟨y, hy, rfl⟩ := mem_hits hmem
    exact (synced y hy).within hx (tokenLimitKey_inj.mp hkey).2
  rw [countersAfter_eq, read_after tight soon, hits, List.countP_map, List.countP_filter]
  congr 1
  funext y
  have keys : y.bucket.key = x.bucket.key ↔ y.remote = x.remote ∧ y.minute = x.minute :=
    tokenLimitKey_inj
  simp only [Function.comp_apply, Exchange.counts, keys, Bool.and_comm]

/-- What follows the throttle does not refuse for the rate. -/
theorem exchangeCredentials_unthrottled (x : Exchange) (wait : Nat) :
    exchangeCredentials s x ≠ .error (.throttled wait) := by
  unfold exchangeCredentials
  split
  · simp
  · split
    · simp
    · split
      · simp
      · simp

/-- What the throttle does. -/
theorem throttle_cases (counters : Counters String) (x : Exchange) :
    (x.delivery ≠ .answered ∧ throttleExchange counters x = .error .redis) ∨
    (x.delivery = .answered ∧ 60 ≤ counters.read x.bucket.key x.redisNow ∧
      throttleExchange counters x = .error (.throttled 60)) ∨
    (x.delivery = .answered ∧ counters.read x.bucket.key x.redisNow < 60 ∧
      throttleExchange counters x = .ok ()) := by
  cases hd : x.delivery with
  | answered =>
    by_cases full : 60 < counters.read x.bucket.key x.redisNow + 1
    · refine Or.inr (Or.inl ⟨rfl, by omega, ?_⟩)
      simp [throttleExchange, hd, full]
    · refine Or.inr (Or.inr ⟨rfl, by omega, ?_⟩)
      simp [throttleExchange, hd, full]
  | lost => exact Or.inl ⟨by simp, by simp [throttleExchange, hd]⟩
  | failed => exact Or.inl ⟨by simp, by simp [throttleExchange, hd]⟩

theorem refused_iff (counters : Counters String) (x : Exchange) :
    (∃ wait, (TokenView.post s counters x).1 = .error (.throttled wait)) ↔
      x.delivery = .answered ∧ 60 ≤ counters.read x.bucket.key x.redisNow := by
  rcases throttle_cases counters x with
    ⟨silent, h⟩ | ⟨answered, full, h⟩ | ⟨answered, room, h⟩
  · simp [TokenView.post, h, silent]
  · simp [TokenView.post, h, answered, full]
  · simp [TokenView.post, h, answered, room, exchangeCredentials_unthrottled]

theorem examined_iff (counters : Counters String) (x : Exchange) (pair : String × String) :
    examined s counters x = some pair ↔ x.delivery = .answered ∧
      counters.read x.bucket.key x.redisNow < 60 ∧ x.credentials s.drf = some pair := by
  rcases throttle_cases counters x with
    ⟨silent, h⟩ | ⟨answered, full, h⟩ | ⟨answered, room, h⟩
  · simp [examined, h, silent]
  · simp [examined, h, answered, full]
  · simp [examined, h, answered, room]

theorem examined_concat (counters : Counters String) (history : List Exchange) (x : Exchange) :
    examinedExchanges s counters (history ++ [x]) = examinedExchanges s counters history ++
      examinedExchanges s (history.foldl (fun c y => (TokenView.post s c y).2) counters) [x] := by
  induction history generalizing counters with
  | nil => rfl
  | cons y rest ih =>
    simp only [List.cons_append, examinedExchanges, List.foldl_cons, ih]
    split
    · rfl
    · rfl

def Exchange.within (remote : String) (minute : Nat) (x : Exchange) : Bool :=
  decide (x.remote = remote ∧ x.minute = minute)

/-- By induction on the history: the exchanges looked at are among those counted, and there
are no more than sixty of them. -/
theorem examined_le {history : List Exchange} (synced : ∀ y ∈ history, y.Synced)
    (remote : String) (minute : Nat) :
    (examinedExchanges s .none history).countP (Exchange.within remote minute) ≤
      min 60 (history.countP (Exchange.counts remote minute)) := by
  induction history using List.reverseRecOn with
  | nil => simp [examinedExchanges]
  | append_singleton history x ih =>
    have earlier : ∀ y ∈ history, y.Synced := fun y hy => synced y (List.mem_append_left _ hy)
    have before := ih earlier
    have read := read_bucket (s := s) earlier (synced x (by simp))
    have looked := examined_iff (s := s) (countersAfter s history) x
    rw [read] at looked
    rw [examined_concat, List.countP_append, List.countP_append, List.countP_singleton]
    cases passed : examined s (countersAfter s history) x with
    | some pair =>
      obtain ⟨answered, room, _⟩ := (looked pair).mp passed
      have last : examinedExchanges s (countersAfter s history) [x] = [x] := by
        simp [examinedExchanges, passed]
      show _ + List.countP _ (examinedExchanges s (countersAfter s history) [x]) ≤ _
      rw [last, List.countP_singleton]
      by_cases here : x.remote = remote ∧ x.minute = minute
      · obtain ⟨rfl, rfl⟩ := here
        have counted : Exchange.counts x.remote x.minute x = true := by
          simp [Exchange.counts, answered]
        simp only [Exchange.within, and_self, decide_true, if_true, counted]
        omega
      · simp only [Exchange.within, here, decide_false, Bool.false_eq_true, if_false]
        omega
    | none =>
      have last : examinedExchanges s (countersAfter s history) [x] = [] := by
        simp [examinedExchanges, passed]
      show _ + List.countP _ (examinedExchanges s (countersAfter s history) [x]) ≤ _
      rw [last, List.countP_nil]
      omega

theorem countP_le_add {α : Type} {p q r : α → Bool} (l : List α)
    (covered : ∀ a, p a = true → q a = true ∨ r a = true) :
    l.countP p ≤ l.countP q + l.countP r := by
  induction l with
  | nil => simp
  | cons a rest ih =>
    simp only [List.countP_cons]
    have := covered a
    cases hp : p a with
    | false => simp only [Bool.false_eq_true, if_false]; omega
    | true =>
      rcases this hp with hq | hr
      · simp only [hq, if_true]; omega
      · simp only [hr, if_true]; omega

end Counting

/-- After any history of exchanges, from any addresses and in whatever order Redis executes
them: an exchange is refused for its rate exactly when Redis answers and has counted sixty of the
address and the minute, and a pair of credentials is looked at exactly when Redis answers and has
counted fewer and the body brings that pair. -/
theorem exchange_limit_exact (s : TokenService) {history : List Exchange} {x : Exchange}
    (synced : ∀ y ∈ history, y.Synced) (hx : x.Synced) :
    ((∃ wait, (TokenView.post s (countersAfter s history) x).1 = .error (.throttled wait)) ↔
      x.delivery = .answered ∧ 60 ≤ history.countP (Exchange.counts x.remote x.minute)) ∧
    ∀ pair, examined s (countersAfter s history) x = some pair ↔ x.delivery = .answered ∧
      history.countP (Exchange.counts x.remote x.minute) < 60 ∧
        x.credentials s.drf = some pair := by
  rw [← read_bucket (s := s) synced hx]
  exact ⟨refused_iff _ x, examined_iff _ x⟩

def exampleService : TokenService where
  jwt := exampleJwt
  hasher := exampleHasher
  ip := exampleIp
  cfg := exampleJwtSettings
  drf := { exampleDrf with
    secretField := fun _ value =>
      match value with
      | .str text => .ok text
      | _ => .error ["Not a valid string."] }

def exampleExchange : Exchange where
  remote := "2001:db8::1"
  now := 1700000000000000
  redisNow := 1700000020000000
  delivery := .answered
  body := .json (.obj [("client_id", .str exampleClient.clientId.text),
    ("client_secret", .str "guess")])
  clients := exampleClients
  issuedAt := 1700000000000000
  jti := exampleClient.tokenVersion

theorem exampleExchange_synced : exampleExchange.Synced where
  early := by decide
  late := by decide

theorem exampleExchanges_synced {n : Nat} :
    ∀ y ∈ List.replicate n exampleExchange, y.Synced := by
  intro y hy
  rw [(List.mem_replicate.mp hy).2]
  exact exampleExchange_synced

/-- The sixtieth guess is looked at and the one after it is not. -/
theorem exchange_limit_exact_guesses :
    examined exampleService (countersAfter exampleService (List.replicate 59 exampleExchange))
        exampleExchange = some (exampleClient.clientId.text, "guess") ∧
      ∃ wait, (TokenView.post exampleService (countersAfter exampleService
        (List.replicate 60 exampleExchange)) exampleExchange).1 = .error (.throttled wait) := by
  constructor
  · refine ((exchange_limit_exact exampleService exampleExchanges_synced
      exampleExchange_synced).2 _).mpr ⟨rfl, ?_, rfl⟩
    exact lt_of_le_of_lt (List.countP_le_length) (by simp)
  · refine (exchange_limit_exact exampleService exampleExchanges_synced
      exampleExchange_synced).1.mpr ⟨rfl, ?_⟩
    simp [Exchange.counts, exampleExchange]

/-- While the workers' clocks are within thirty seconds of that of Redis, no remote address has
more than sixty pairs of credentials looked at in a minute of those clocks, nor more than twice
as many in any sixty seconds. -/
theorem credentials_looked_at (s : TokenService) {history : List Exchange}
    (synced : ∀ y ∈ history, y.Synced) (remote : String) :
    (∀ minute, (examinedExchanges s .none history).countP (Exchange.within remote minute) ≤ 60) ∧
    ∀ start, (examinedExchanges s .none history).countP (fun x =>
      decide (x.remote = remote ∧ start ≤ x.now ∧ x.now < start + seconds 60)) ≤ 120 := by
  have minutely : ∀ minute, (examinedExchanges s .none history).countP
      (Exchange.within remote minute) ≤ 60 := fun minute =>
    (examined_le synced remote minute).trans (min_le_left _ _)
  refine ⟨minutely, fun start => ?_⟩
  let minute := start / seconds 1 / 60
  have covered : ∀ x : Exchange,
      decide (x.remote = remote ∧ start ≤ x.now ∧ x.now < start + seconds 60) = true →
        Exchange.within remote minute x = true ∨ Exchange.within remote (minute + 1) x = true := by
    intro x hx
    simp only [decide_eq_true_eq] at hx
    obtain ⟨hremote, early, late⟩ := hx
    simp only [Exchange.within, Exchange.minute, hremote, true_and, decide_eq_true_eq, minute,
      seconds] at *
    omega
  have first := minutely minute
  have second := minutely (minute + 1)
  have split := countP_le_add (examinedExchanges s .none history) covered
  omega

/-- A thousand guesses within a second. -/
theorem credentials_looked_at_guesses :
    (examinedExchanges exampleService .none (List.replicate 1000 exampleExchange)).countP
      (Exchange.within "2001:db8::1" exampleExchange.minute) ≤ 60 :=
  (credentials_looked_at exampleService exampleExchanges_synced "2001:db8::1").1 _

end MeetingGateway
