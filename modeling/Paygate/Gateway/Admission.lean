import Paygate.Gateway.Config
import Paygate.Gateway.Receipt
import Paygate.Gateway.RetryAfter
import Paygate.Gateway.Summarize

/-!
# Admission of requests

The gateway limits how often a client may call it.  There is a rate limiter for each of three
tiers.  A request takes a token from the bucket of its client in the limiter of its tier.  If
there is none it is answered with 429 and the seconds after which to retry, and otherwise it is
handled, and told how many tokens are left.

A request is of the tier of signed requests as soon as it has headers for a signature and a
nonce, whatever they are, so a client can use the tokens of two tiers, and no more
(`client_admissions`).  What the requests of a client in one tier are told depends on these
requests only (`admission_depends_on_own`).
-/

namespace Paygate.Gateway

open Text Json

/-! ### The middleware -/

/-- The tiers of requests. -/
inductive Tier where
  | anonymous
  | standard
  | verified
  deriving DecidableEq, Repr

/-- What the middleware reads of a request: the address of the client, the two headers, empty if
they are missing, and the path of the route, empty if there is none. -/
structure LimitedRequest where
  clientIP : List UInt8
  signature : List UInt8
  nonce : List UInt8
  fullPath : List UInt8
  deriving DecidableEq, Repr

/-- The rate limiter of each tier. -/
def initRateLimiters (env : Env) : Tier → TokenBucket :=
  let cleanupInterval := getEnvAsInt env "RATE_LIMIT_CLEANUP_INTERVAL" 300
  let cleanupTTL := wrapInt64 (cleanupInterval * 1000000000)
  fun
  | .anonymous => newTokenBucket (getEnvAsInt env "RATE_LIMIT_ANONYMOUS_RPM" 10)
      (getEnvAsInt env "RATE_LIMIT_ANONYMOUS_BURST" 5) cleanupTTL
  | .standard => newTokenBucket (getEnvAsInt env "RATE_LIMIT_STANDARD_RPM" 60)
      (getEnvAsInt env "RATE_LIMIT_STANDARD_BURST" 20) cleanupTTL
  | .verified => newTokenBucket (getEnvAsInt env "RATE_LIMIT_VERIFIED_RPM" 120)
      (getEnvAsInt env "RATE_LIMIT_VERIFIED_BURST" 50) cleanupTTL

/-- The key of the bucket of a request. -/
def getRateLimitKey (r : LimitedRequest) : List UInt8 := bytes "ip:" ++ r.clientIP

/-- The tier of a request. -/
def selectRateLimitTier (r : LimitedRequest) : Tier :=
  if r.signature ≠ [] ∧ r.nonce ≠ [] then .standard else .anonymous

/-- The requests per minute that are advertised for a tier. -/
def getLimitForTier (env : Env) : Tier → Int
  | .anonymous => getEnvAsInt env "RATE_LIMIT_ANONYMOUS_RPM" 10
  | .standard => getEnvAsInt env "RATE_LIMIT_STANDARD_RPM" 60
  | .verified => getEnvAsInt env "RATE_LIMIT_VERIFIED_RPM" 120

/-- The label under which a refusal is counted. -/
def LimitedRequest.routePath (r : LimitedRequest) : List UInt8 :=
  if r.fullPath = [] then bytes "unknown" else r.fullPath

/-- The headers about the limit of a request. -/
def limitHeaders (limit remaining reset : Int) : List Call := [
  .header "X-RateLimit-Limit" (utf8 (decimalInt limit)),
  .header "X-RateLimit-Remaining" (utf8 (decimalInt remaining)),
  .header "X-RateLimit-Reset" (utf8 (decimalInt reset))]

/-- The answer to a request that is refused. -/
def tooManyRequests (retryAfter limit reset : Int) : List Call :=
  .header "Retry-After" (utf8 (decimalInt retryAfter)) :: limitHeaders limit 0 reset ++ [
    .json 429 (GoJson.marshal (.obj [
      (bytes "error", .str (bytes "Too Many Requests")),
      (bytes "message", .str (bytes "Rate limit exceeded. Please retry later.")),
      (bytes "retry_after", .num (decimalInt retryAfter))]))]

/-- How far the middleware has come with a request: `Allow` has not returned, or it has refused
and the middleware has read when the bucket is full, knows after how many seconds to retry, or
has answered; or it has allowed and the middleware has read how many tokens are left, or has gone
on to the handlers. -/
inductive AdmissionPhase where
  | limiting
  | refused
  | resetRead (resetTime : Int)
  | retryKnown (retryAfter : Int)
  | answered (response : List Call)
  | allowed
  | remainingRead (remaining : Int)
  | handled (headers : List Call)
  deriving DecidableEq

/-- What the middleware does next with a request, the limiter of its tier being as given.  The
time when the bucket is full is read twice for a request that is refused. -/
def rateLimitMiddleware (env : Env) (beyond : ℚ → Int) (r : LimitedRequest) (request : Nat)
    (l : Limiter) : AdmissionPhase → Option AdmissionPhase
  | .limiting =>
      match l.phase request with
      | .returned allowed => some (if allowed then .allowed else .refused)
      | _ => none
  | .refused => some (.resetRead (l.getResetTime tb beyond key))
  | .resetRead resetTime => some (.retryKnown (calculateRetryAfter resetTime l.now))
  | .retryKnown retryAfter =>
      some (.answered (tooManyRequests retryAfter limit (l.getResetTime tb beyond key)))
  | .allowed => some (.remainingRead (l.getRemaining tb key))
  | .remainingRead remaining =>
      some (.handled (limitHeaders limit remaining (l.getResetTime tb beyond key)))
  | .answered _ | .handled _ => none
where
  tier := selectRateLimitTier r
  tb := initRateLimiters env tier
  key := getRateLimitKey r
  limit := getLimitForTier env tier

/-! ### The limiters of the gateway -/

/-- The rate limiters in use, how far the middleware has come with each request, and the refusals
that are counted for each route. -/
structure Admission where
  limiters : Tier → Limiter
  phase : Nat → AdmissionPhase
  rateLimitHits : List UInt8 → Nat

/-- No request has come yet. -/
def Admission.init (start : Nat) : Admission where
  limiters _ := Limiter.init start
  phase _ := .limiting
  rateLimitHits _ := 0

/-- A step: time passes; `Allow` takes a step for a request; the middleware goes on with a request
once `Allow` has returned; the cleanup goroutine of a limiter takes a step. -/
inductive AdmissionStep where
  | elapse (d : Nat)
  | makeBucket (request : Nat)
  | loadOrStore (request : Nat)
  | allow (request : Nat)
  | proceed (request : Nat)
  | cleanup (tier : Tier) (a : LimiterStep)

/-- The call of `Allow` for a request. -/
def allowCall (r : LimitedRequest) : LimitCall where
  key := getRateLimitKey r
  n := 1

variable (env : Env) (beyond : ℚ → Int) (requests : Nat → LimitedRequest)

/-- The calls of the middleware. -/
def allowCalls (i : Nat) : LimitCall := allowCall (requests i)

/-- The tier of each request. -/
def tierOf (i : Nat) : Tier := selectRateLimitTier (requests i)

/-- A step of the limiter of a tier. -/
def Admission.limit (s : Admission) (t : Tier) (a : LimiterStep) : Option Admission :=
  ((limiter (initRateLimiters env t) (allowCalls requests)).step (s.limiters t) a).map fun l =>
    { s with limiters := Function.update s.limiters t l }

/-- The gateway admitting the given requests. -/
def admission : Machine Admission AdmissionStep where
  step s
    | .elapse d =>
        some { s with limiters := fun t => { s.limiters t with now := (s.limiters t).now + d } }
    | .makeBucket i => s.limit env requests (tierOf requests i) (.makeBucket i)
    | .loadOrStore i => s.limit env requests (tierOf requests i) (.loadOrStore i)
    | .allow i => s.limit env requests (tierOf requests i) (.allow i)
    | .proceed i =>
        (rateLimitMiddleware env beyond (requests i) i (s.limiters (tierOf requests i))
            (s.phase i)).map fun p => { s with
          phase := Function.update s.phase i p
          rateLimitHits :=
            match s.phase i with
            | .resetRead _ => Function.update s.rateLimitHits (requests i).routePath
                (s.rateLimitHits (requests i).routePath + 1)
            | _ => s.rateLimitHits }
    | .cleanup t a => if a.isCleanup then s.limit env requests t a else none

/-- The step a step of the gateway is for the limiter of a tier. -/
def AdmissionStep.within (t : Tier) : AdmissionStep → Option LimiterStep
  | .elapse d => some (.elapse d)
  | .makeBucket i => if tierOf requests i = t then some (.makeBucket i) else none
  | .loadOrStore i => if tierOf requests i = t then some (.loadOrStore i) else none
  | .allow i => if tierOf requests i = t then some (.allow i) else none
  | .proceed _ => none
  | .cleanup t' a => if t' = t ∧ a.isCleanup then some a else none

variable {env beyond requests}

namespace Admission

/-- A step of the limiter of a tier leaves the other limiters as they are. -/
theorem limit_eq_some {s s₁ : Admission} {t : Tier} {a : LimiterStep}
    (h : s.limit env requests t a = some s₁) :
  (limiter (initRateLimiters env t) (allowCalls requests)).step (s.limiters t) a
      = some (s₁.limiters t)
    ∧ (∀ t', t' ≠ t → s₁.limiters t' = s.limiters t')
    ∧ s₁.phase = s.phase ∧ s₁.rateLimitHits = s.rateLimitHits
  := by
  obtain ⟨l, hl, rfl⟩ := Option.map_eq_some_iff.mp h
  simp only [Function.update_self]
  refine ⟨hl, ?_, trivial, trivial⟩
  intro t' ht'
  simp only [Function.update_of_ne ht']

/-- A step of the limiter of the tier a step is for is a step of the gateway. -/
theorem within_of_limit {s s₁ : Admission} {u : Tier} {a : LimiterStep} {b : AdmissionStep}
    (hwithin : ∀ t, b.within requests t = if u = t then some a else none)
    (h : s.limit env requests u a = some s₁) (t : Tier) :
  (∃ a, b.within requests t = some a
      ∧ (limiter (initRateLimiters env t) (allowCalls requests)).step (s.limiters t) a
        = some (s₁.limiters t))
    ∨ b.within requests t = none ∧ s₁.limiters t = s.limiters t
  := by
  obtain ⟨hstep, hother, -⟩ := limit_eq_some h
  rw [hwithin]
  by_cases ht : u = t
  · subst ht
    left
    use a, if_pos rfl
  · right
    rw [if_neg ht]
    use rfl
    apply hother
    exact Ne.symm ht

/-- A step of the gateway is a step of the limiter of a tier, or leaves it as it is. -/
theorem step_within {s s₁ : Admission} {b : AdmissionStep}
    (h : (admission env beyond requests).step s b = some s₁) (t : Tier) :
  (∃ a, b.within requests t = some a
      ∧ (limiter (initRateLimiters env t) (allowCalls requests)).step (s.limiters t) a
        = some (s₁.limiters t))
    ∨ b.within requests t = none ∧ s₁.limiters t = s.limiters t
  := by
  cases b with
  | elapse d =>
      obtain rfl := Option.some.inj h
      left
      use .elapse d, rfl
      rfl
  | makeBucket i =>
      apply within_of_limit (u := tierOf requests i) _ h
      intro t
      rfl
  | loadOrStore i =>
      apply within_of_limit (u := tierOf requests i) _ h
      intro t
      rfl
  | allow i =>
      apply within_of_limit (u := tierOf requests i) _ h
      intro t
      rfl
  | proceed i =>
      obtain ⟨p, _, rfl⟩ := Option.map_eq_some_iff.mp h
      right
      exact ⟨rfl, rfl⟩
  | cleanup t' a =>
      simp only [admission] at h
      split at h
      · rename_i ha
        apply within_of_limit (u := t') _ h
        intro t
        simp only [AdmissionStep.within, ha, and_true]
      · cases h

/-- The middleware goes on with a request, or the step leaves all requests as they are. -/
theorem step_phase {s s₁ : Admission} {b : AdmissionStep}
    (h : (admission env beyond requests).step s b = some s₁) :
  (∃ i p, b = .proceed i
      ∧ rateLimitMiddleware env beyond (requests i) i (s.limiters (tierOf requests i)) (s.phase i)
        = some p
      ∧ s₁.phase = Function.update s.phase i p
      ∧ s₁.limiters = s.limiters
      ∧ s₁.rateLimitHits = match s.phase i with
        | .resetRead _ => Function.update s.rateLimitHits (requests i).routePath
            (s.rateLimitHits (requests i).routePath + 1)
        | _ => s.rateLimitHits)
    ∨ (∀ i, b ≠ .proceed i) ∧ s₁.phase = s.phase ∧ s₁.rateLimitHits = s.rateLimitHits
  := by
  cases b with
  | elapse d =>
      obtain rfl := Option.some.inj h
      right
      exact ⟨nofun, rfl, rfl⟩
  | makeBucket i => exact Or.inr ⟨nofun, (limit_eq_some h).2.2⟩
  | loadOrStore i => exact Or.inr ⟨nofun, (limit_eq_some h).2.2⟩
  | allow i => exact Or.inr ⟨nofun, (limit_eq_some h).2.2⟩
  | proceed i =>
      obtain ⟨p, hp, rfl⟩ := Option.map_eq_some_iff.mp h
      left
      exact ⟨i, p, rfl, hp, rfl, rfl, rfl⟩
  | cleanup t' a =>
      simp only [admission] at h
      split at h
      · exact Or.inr ⟨nofun, (limit_eq_some h).2.2⟩
      · cases h

end Admission

/-! ### What the limiters record -/

/-- The answers of a limiter are those of the calls that have returned. -/
def Limiter.Recorded (s : Limiter) : Prop :=
  ∀ i allowed, (∃ a ∈ s.answers, a.call = i ∧ a.allowed = allowed) ↔ s.phase i = .returned allowed

variable {tb : TokenBucket} {calls : Nat → LimitCall}

namespace Limiter

/-- A step of the cleanup goroutine is none of a call. -/
theorem step_cleanup {s s₁ : Limiter} {a : LimiterStep} (ha : a.isCleanup = true)
    (h : (limiter tb calls).step s a = some s₁) :
  s₁.phase = s.phase ∧ s₁.answers = s.answers
  := by
  cases a with
  | cleanupTick =>
      simp only [limiter] at h
      split at h
      · obtain rfl := Option.some.inj h
        exact ⟨rfl, rfl⟩
      · cases h
  | cleanupRead key =>
      simp only [limiter] at h
      split at h
      · split at h
        · cases h
        · obtain rfl := Option.some.inj h
          exact ⟨rfl, rfl⟩
      · cases h
  | cleanupDelete =>
      simp only [limiter] at h
      split at h
      · obtain rfl := Option.some.inj h
        exact ⟨rfl, rfl⟩
      · cases h
  | cleanupDone =>
      simp only [limiter] at h
      split at h
      · obtain rfl := Option.some.inj h
        exact ⟨rfl, rfl⟩
      · cases h
  | elapse _ => cases ha
  | makeBucket _ => cases ha
  | loadOrStore _ => cases ha
  | allow _ => cases ha

/-- A call that goes on without returning adds no answer. -/
theorem Recorded.setPhase {s : Limiter} (hs : s.Recorded) {i : Nat} {p : CallPhase}
    (hi : ∀ allowed, s.phase i ≠ .returned allowed) (hp : ∀ allowed, p ≠ .returned allowed)
    {s₁ : Limiter} (hphase : s₁.phase = Function.update s.phase i p) (hanswers : s₁.answers = s.answers) :
  s₁.Recorded
  := by
  intro j allowed
  rw [hanswers, hs j allowed, hphase]
  by_cases hj : j = i
  · subst hj
    simp only [Function.update_self, hi allowed, hp allowed]
  · simp only [Function.update_of_ne hj]

/-- A step keeps the record. -/
theorem Recorded.step {s s₁ : Limiter} (hs : s.Recorded) {a : LimiterStep}
    (h : (limiter tb calls).step s a = some s₁) :
  s₁.Recorded
  := by
  cases ha : a.isCleanup with
  | true =>
      obtain ⟨hphase, hanswers⟩ := step_cleanup ha h
      intro i allowed
      rw [hphase, hanswers]
      exact hs i allowed
  | false =>
      obtain ⟨d, rfl, rfl⟩ | ⟨i, rfl, hi, rfl⟩ | ⟨i, ref, rfl, hi, _, rfl⟩ | ⟨i, rfl, hi, _, rfl⟩
        | ⟨i, ref, b, rfl, hi, _, rfl⟩ := step_cases ha h
      · exact hs
      · exact hs.setPhase (i := i) (by simp [hi]) (by simp) rfl rfl
      · exact hs.setPhase (i := i) (by simp [hi]) (by simp) rfl rfl
      · exact hs.setPhase (i := i) (by simp [hi]) (by simp) rfl rfl
      · intro j allowed
        have hnone : ∀ allowed, ¬ ∃ a ∈ s.answers, a.call = i ∧ a.allowed = allowed := by
          intro allowed
          rw [hs i allowed, hi]
          exact nofun
        by_cases hj : j = i
        · subst hj
          simp only [List.mem_cons, or_and_right, exists_or, exists_eq_left, Function.update_self,
            hnone, or_false, true_and, CallPhase.returned.injEq]
        · simp only [List.mem_cons, or_and_right, exists_or, exists_eq_left,
            Function.update_of_ne hj, Ne.symm hj, false_and, false_or]
          exact hs j allowed

/-- A call that has returned stays so. -/
theorem returned_step {s s₁ : Limiter} {a : LimiterStep} (h : (limiter tb calls).step s a = some s₁)
    {i : Nat} {allowed : Bool} (hi : s.phase i = .returned allowed) :
  s₁.phase i = .returned allowed
  := by
  have hkeep : ∀ {j p}, s.phase j ≠ s.phase i → Function.update s.phase j p i = .returned allowed := by
    intro j p hj
    rw [Function.update_of_ne, hi]
    rintro rfl
    exact hj rfl
  cases ha : a.isCleanup with
  | true => rw [(step_cleanup ha h).1, hi]
  | false =>
      obtain ⟨d, rfl, rfl⟩ | ⟨j, rfl, hj, rfl⟩ | ⟨j, ref, rfl, hj, _, rfl⟩ | ⟨j, rfl, hj, _, rfl⟩
        | ⟨j, ref, b, rfl, hj, _, rfl⟩ := step_cases ha h
      · exact hi
      all_goals exact hkeep (by simp [hj, hi])

/-- What calls for one token are granted within an interval is the number of those allowed. -/
theorem spent_grantedFor (hone : ∀ i, (calls i).n = 1) (key : List UInt8) (t₁ t₂ : ℚ)
    (answers : List LimitAnswer) :
  Budget.spent (grantedFor calls key answers) t₁ t₂
    = (answers.filter fun a => (a.allowed ∧ (calls a.call).key = key)
        ∧ t₁ ≤ durationSeconds a.time ∧ durationSeconds a.time ≤ t₂).length
  := by
  induction answers with
  | nil => rfl
  | cons a answers ih =>
      by_cases hown : a.allowed ∧ (calls a.call).key = key
      · have hgranted : grantedFor calls key (a :: answers)
            = withdrawalOf a.time 1 :: grantedFor calls key answers := by
          simp [grantedFor, hown, hone]
        rw [hgranted]
        by_cases htime : t₁ ≤ durationSeconds a.time ∧ durationSeconds a.time ≤ t₂
        · rw [Budget.spent_cons_of_mem _ htime, List.filter_cons_of_pos (by simp [hown, htime]), ih,
            List.length_cons, withdrawalOf]
          push_cast
          ring
        · rw [Budget.spent_cons_of_not_mem _ htime,
            List.filter_cons_of_neg (by simpa [hown] using htime), ih]
      · have hgranted : grantedFor calls key (a :: answers) = grantedFor calls key answers := by
          rw [grantedFor, List.filter_cons_of_neg (by simpa using hown), grantedFor]
        rw [hgranted, List.filter_cons_of_neg (by simpa using fun h h' => absurd ⟨h, h'⟩ hown), ih]

/-- Among calls for one token, no more are allowed than tokens are granted. -/
theorem length_le_spent {answers : List LimitAnswer} {key : List UInt8} {is : List Nat} {t₁ t₂ : ℚ}
    (hone : ∀ i, (calls i).n = 1) (hnodup : is.Nodup)
    (his : ∀ i ∈ is, (calls i).key = key ∧ ∃ a ∈ answers, a.call = i ∧ a.allowed = true
      ∧ t₁ ≤ durationSeconds a.time ∧ durationSeconds a.time ≤ t₂) :
  (is.length : ℚ) ≤ Budget.spent (grantedFor calls key answers) t₁ t₂
  := by
  have hsub : is ⊆ (answers.filter fun a => (a.allowed ∧ (calls a.call).key = key)
      ∧ t₁ ≤ durationSeconds a.time ∧ durationSeconds a.time ≤ t₂).map LimitAnswer.call := by
    intro i hi
    obtain ⟨hkey, a, ha, rfl, hallowed, htime⟩ := his i hi
    apply List.mem_map_of_mem
    simp only [List.mem_filter, ha, hallowed, hkey, htime, and_self, decide_true]
  have hle := (hnodup.subperm hsub).length_le
  rw [List.length_map] at hle
  rw [spent_grantedFor hone]
  exact_mod_cast hle

end Limiter

/-! ### Runs of the gateway -/

/-- The cleanup goroutines remove only dispensable buckets. -/
def RemovesDispensable (env : Env) (s : Admission) : AdmissionStep → Prop
  | .cleanup t a => DispensableOnly (initRateLimiters env t) (s.limiters t) a
  | _ => True

/-- A request was allowed from time `t₁` to time `t₂`. -/
def Admission.AllowedWithin (requests : Nat → LimitedRequest) (s : Admission) (i : Nat) (t₁ t₂ : ℚ) :
    Prop :=
  ∃ a ∈ (s.limiters (tierOf requests i)).answers, a.call = i ∧ a.allowed = true
    ∧ t₁ ≤ durationSeconds a.time ∧ durationSeconds a.time ≤ t₂

/-- A request is counted as refused. -/
def AdmissionPhase.Counted : AdmissionPhase → Prop
  | .retryKnown _ | .answered _ => True
  | _ => False

/-- What the middleware knows of a request, and what it has written, is right. -/
def AdmissionPhase.Right (env : Env) (r : LimitedRequest) (i : Nat) (l : Limiter) :
    AdmissionPhase → Prop
  | .limiting => True
  | .refused | .resetRead _ => l.phase i = .returned false
  | .retryKnown retryAfter => l.phase i = .returned false ∧ 1 ≤ retryAfter
  | .answered response => l.phase i = .returned false ∧ ∃ retryAfter reset, 1 ≤ retryAfter
      ∧ response = tooManyRequests retryAfter (getLimitForTier env (selectRateLimitTier r)) reset
  | .allowed => l.phase i = .returned true
  | .remainingRead remaining => l.phase i = .returned true
      ∧ 0 ≤ remaining ∧ remaining ≤ (initRateLimiters env (selectRateLimitTier r)).burst
  | .handled headers => l.phase i = .returned true ∧ ∃ remaining reset, 0 ≤ remaining
      ∧ remaining ≤ (initRateLimiters env (selectRateLimitTier r)).burst
      ∧ headers = limitHeaders (getLimitForTier env (selectRateLimitTier r)) remaining reset

/-- What holds of the gateway while only dispensable buckets are removed: each limiter is the
twin of one whose buckets are never removed. -/
structure Admission.Steady (env : Env) (requests : Nat → LimitedRequest) (s : Admission) : Prop where
  twin : ∀ t, ∃ l, Limiter.Twin (initRateLimiters env t) (allowCalls requests) (s.limiters t) l
    ∧ l.Sound (initRateLimiters env t) (allowCalls requests)
  recorded : ∀ t, (s.limiters t).Recorded
  right : ∀ i, (s.phase i).Right env (requests i) i (s.limiters (tierOf requests i))
  counted : ∃ is : List Nat, is.Nodup ∧ (∀ i, i ∈ is ↔ (s.phase i).Counted)
    ∧ ∀ path, s.rateLimitHits path = (is.filter fun i => (requests i).routePath = path).length

theorem sound_initRateLimiters (env : Env) (t : Tier) : (initRateLimiters env t).Sound
  := by
  cases t with
  | anonymous => apply sound_newTokenBucket
  | standard => apply sound_newTokenBucket
  | verified => apply sound_newTokenBucket

namespace Admission

theorem steady_init (env : Env) (requests : Nat → LimitedRequest) (start : Nat) :
  (init start).Steady env requests
  := by
  constructor
  · intro t
    use Limiter.init start, Limiter.twin_init _ _ _
    apply Limiter.sound_init
  · intro t i allowed
    simp [init, Limiter.init]
  · intro i
    trivial
  · use [], List.nodup_nil
    simp [init, AdmissionPhase.Counted]

/-- What is read to be left is not negative, and not more than a bucket holds. -/
theorem Steady.getRemaining {s : Admission} (hs : s.Steady env requests) (t : Tier)
    (key : List UInt8) :
  0 ≤ (s.limiters t).getRemaining (initRateLimiters env t) key
    ∧ (s.limiters t).getRemaining (initRateLimiters env t) key ≤ (initRateLimiters env t).burst
  := by
  obtain ⟨l, htwin, hsound⟩ := hs.twin t
  have hnonneg : 0 ≤ (s.limiters t).available (initRateLimiters env t) key := by
    cases hbucket : (s.limiters t).buckets key with
    | none =>
        rw [Limiter.available_of_none (by simp [Limiter.bucketOf, hbucket])]
        exact (sound_initRateLimiters env t).burst_nonneg
    | some ref =>
        obtain ⟨ref', b, b', href', hb, hb', halike⟩ := htwin.listed key ref hbucket
        have hl : l.bucketOf key = some b' := by simp [Limiter.bucketOf, href', hb']
        rw [Limiter.available_of_some (b := b) (by simp [Limiter.bucketOf, hbucket, hb]),
          halike _ le_rfl, ← htwin.now, ← Limiter.available_of_some hl]
        exact hsound.available_nonneg (sound_initRateLimiters env t) key
  rw [Limiter.getRemaining_eq]
  refine ⟨Int.floor_nonneg.mpr hnonneg, ?_⟩
  exact_mod_cast (Int.floor_le _).trans (Limiter.available_le _ _ key)

/-- What the middleware does next is right if what it has done is. -/
theorem Steady.right_next {s : Admission} (hs : s.Steady env requests) {i : Nat} {p : AdmissionPhase}
    (h : rateLimitMiddleware env beyond (requests i) i (s.limiters (tierOf requests i)) (s.phase i)
      = some p) :
  p.Right env (requests i) i (s.limiters (tierOf requests i))
  := by
  have hright := hs.right i
  cases hphase : s.phase i with
  | limiting =>
      simp only [hphase, rateLimitMiddleware] at h
      split at h
      · rename_i allowed hreturned
        obtain rfl := Option.some.inj h
        cases allowed with
        | true => exact hreturned
        | false => exact hreturned
      · cases h
  | refused =>
      rw [hphase] at h hright
      obtain rfl := Option.some.inj h
      exact hright
  | resetRead resetTime =>
      rw [hphase] at h hright
      obtain rfl := Option.some.inj h
      exact ⟨hright, one_le_calculateRetryAfter _ _⟩
  | retryKnown retryAfter =>
      rw [hphase] at h hright
      obtain rfl := Option.some.inj h
      exact ⟨hright.1, retryAfter, _, hright.2, rfl⟩
  | answered response =>
      rw [hphase] at h
      cases h
  | allowed =>
      rw [hphase] at h hright
      obtain rfl := Option.some.inj h
      exact ⟨hright, hs.getRemaining _ _⟩
  | remainingRead remaining =>
      rw [hphase] at h hright
      obtain rfl := Option.some.inj h
      exact ⟨hright.1, remaining, _, hright.2.1, hright.2.2, rfl⟩
  | handled headers =>
      rw [hphase] at h
      cases h

/-- What is right stays so while the limiter keeps the calls that have returned. -/
theorem Right.mono {r : LimitedRequest} {i : Nat} {l l₁ : Limiter}
    (hl : ∀ allowed, l.phase i = .returned allowed → l₁.phase i = .returned allowed)
    {p : AdmissionPhase} (h : p.Right env r i l) :
  p.Right env r i l₁
  := by
  cases p with
  | limiting => trivial
  | refused => exact hl _ h
  | resetRead resetTime => exact hl _ h
  | retryKnown retryAfter => exact ⟨hl _ h.1, h.2⟩
  | answered response => exact ⟨hl _ h.1, h.2⟩
  | allowed => exact hl _ h
  | remainingRead remaining => exact ⟨hl _ h.1, h.2⟩
  | handled headers => exact ⟨hl _ h.1, h.2⟩

/-- A request is counted when it is known after how many seconds to retry. -/
theorem counted_next {r : LimitedRequest} {i : Nat} {l : Limiter} {p p' : AdmissionPhase}
    (h : rateLimitMiddleware env beyond r i l p = some p') :
  p'.Counted ↔ p.Counted ∨ ∃ resetTime, p = .resetRead resetTime
  := by
  cases p with
  | limiting =>
      simp only [rateLimitMiddleware] at h
      split at h
      · rename_i allowed _
        obtain rfl := Option.some.inj h
        cases allowed <;> simp [AdmissionPhase.Counted]
      · cases h
  | answered response => cases h
  | handled headers => cases h
  | _ =>
      obtain rfl := Option.some.inj h
      simp [AdmissionPhase.Counted]

/-- A step of a limiter leaves it the twin of one whose buckets are never removed. -/
theorem Steady.twin_step {s : Admission} (hs : s.Steady env requests) {t : Tier} {a : LimiterStep}
    {l₁ : Limiter} (hsafe : DispensableOnly (initRateLimiters env t) (s.limiters t) a)
    (h : (limiter (initRateLimiters env t) (allowCalls requests)).step (s.limiters t) a = some l₁) :
  ∃ l, Limiter.Twin (initRateLimiters env t) (allowCalls requests) l₁ l
    ∧ l.Sound (initRateLimiters env t) (allowCalls requests)
  := by
  have htb := sound_initRateLimiters env t
  obtain ⟨l, htwin, hsound⟩ := hs.twin t
  cases ha : a.isCleanup with
  | true => exact ⟨l, htwin.cleanup hsafe ha h, hsound⟩
  | false =>
      obtain ⟨l', hl', htwin'⟩ := htwin.step htb ha h
      refine ⟨l', htwin', hsound.step htb ?_ ?_ hl'⟩
      · intro i
        exact Int.one_nonneg
      · rintro rfl
        cases ha

/-- The steps of the cleanup goroutine of a limiter are those the gateway allows it. -/
theorem dispensableOnly_within {s : Admission} {b : AdmissionStep} (h : RemovesDispensable env s b)
    {t : Tier} {a : LimiterStep} (hwithin : b.within requests t = some a) :
  DispensableOnly (initRateLimiters env t) (s.limiters t) a
  := by
  cases b with
  | elapse d =>
      obtain rfl := Option.some.inj hwithin
      trivial
  | proceed i => cases hwithin
  | cleanup t' a' =>
      simp only [AdmissionStep.within] at hwithin
      split at hwithin
      · rename_i ht
        obtain rfl := Option.some.inj hwithin
        obtain ⟨rfl, _⟩ := ht
        exact h
      · cases hwithin
  | _ =>
      simp only [AdmissionStep.within] at hwithin
      split at hwithin
      · obtain rfl := Option.some.inj hwithin
        trivial
      · cases hwithin

/-- Every step that removes no other buckets keeps the gateway steady. -/
theorem Steady.step {s s₁ : Admission} (hs : s.Steady env requests) {b : AdmissionStep}
    (hsafe : RemovesDispensable env s b) (h : (admission env beyond requests).step s b = some s₁) :
  s₁.Steady env requests
  := by
  have hwithin := step_within h
  have hreturned : ∀ t i allowed, (s.limiters t).phase i = .returned allowed →
      (s₁.limiters t).phase i = .returned allowed := by
    intro t i allowed hi
    obtain ⟨a, _, ha⟩ | ⟨_, hkept⟩ := hwithin t
    · exact Limiter.returned_step ha hi
    · rw [hkept, hi]
  constructor
  · intro t
    obtain ⟨a, hb, ha⟩ | ⟨_, hkept⟩ := hwithin t
    · exact hs.twin_step (dispensableOnly_within hsafe hb) ha
    · rw [hkept]
      exact hs.twin t
  · intro t
    obtain ⟨a, _, ha⟩ | ⟨_, hkept⟩ := hwithin t
    · exact (hs.recorded t).step ha
    · rw [hkept]
      exact hs.recorded t
  · intro j
    obtain ⟨i, p, rfl, hp, hphase, hlimiters, _⟩ | ⟨_, hphase, _⟩ := step_phase h
    · rw [hphase, hlimiters]
      by_cases hj : j = i
      · subst hj
        rw [Function.update_self]
        exact hs.right_next hp
      · rw [Function.update_of_ne hj]
        exact hs.right j
    · rw [hphase]
      exact Right.mono (hreturned _ j) (hs.right j)
  · obtain ⟨is, hnodup, hmem, hhits⟩ := hs.counted
    obtain ⟨i, p, rfl, hp, hphase, _, hhits₁⟩ | ⟨_, hphase, hhits₁⟩ := step_phase h
    · have hcounted := counted_next hp
      by_cases hread : ∃ resetTime, s.phase i = .resetRead resetTime
      · obtain ⟨resetTime, hread⟩ := hread
        have hi : i ∉ is := by
          rw [hmem, hread]
          exact id
        refine ⟨i :: is, List.nodup_cons.mpr ⟨hi, hnodup⟩, ?_, ?_⟩
        · intro j
          rw [hphase, List.mem_cons, hmem]
          by_cases hj : j = i
          · subst hj
            simp [hcounted, hread]
          · rw [Function.update_of_ne hj]
            simp [hj]
        · intro path
          rw [hhits₁, hread]
          by_cases hpath : (requests i).routePath = path
          · subst hpath
            simp [hhits]
          · rw [List.filter_cons_of_neg (by simpa using hpath)]
            simp only [Function.update_of_ne (Ne.symm hpath), hhits]
      · refine ⟨is, hnodup, ?_, ?_⟩
        · intro j
          rw [hphase, hmem]
          by_cases hj : j = i
          · subst hj
            simp [hcounted, hread]
          · rw [Function.update_of_ne hj]
        · intro path
          rw [hhits₁, ← hhits]
          split
          · rename_i resetTime hresetTime
            exact absurd ⟨resetTime, hresetTime⟩ hread
          · rfl
    · rw [hphase, hhits₁]
      exact ⟨is, hnodup, hmem, hhits⟩

/-- In one tier, no more requests of a client are allowed within an interval than a bucket holds
tokens, and the rate adds. -/
theorem Steady.length_le {s : Admission} (hs : s.Steady env requests) (ip : List UInt8) (t : Tier)
    {t₁ t₂ : ℚ} (ht : t₁ ≤ t₂) {is : List Nat} (hnodup : is.Nodup)
    (his : ∀ i ∈ is, tierOf requests i = t ∧ (requests i).clientIP = ip
      ∧ s.AllowedWithin requests i t₁ t₂) :
  (is.length : ℚ) ≤ (initRateLimiters env t).burst + (initRateLimiters env t).rate * (t₂ - t₁)
  := by
  obtain ⟨l, htwin, hsound⟩ := hs.twin t
  have hle : (is.length : ℚ)
      ≤ Budget.spent (grantedFor (allowCalls requests) (bytes "ip:" ++ ip) (s.limiters t).answers)
        t₁ t₂ := by
    apply Limiter.length_le_spent (fun _ => rfl) hnodup
    intro i hi
    obtain ⟨rfl, rfl, hallowed⟩ := his i hi
    exact ⟨rfl, hallowed⟩
  rw [← htwin.answers] at hle
  exact hle.trans (hsound.spent_le (sound_initRateLimiters env t) _ ht)

/-- The tier of signed requests and that of the others are the only ones. -/
theorem tierOf_eq (requests : Nat → LimitedRequest) (i : Nat) :
  tierOf requests i = .standard ∨ tierOf requests i = .anonymous
  := by
  unfold tierOf selectRateLimitTier
  split
  · exact Or.inl rfl
  · exact Or.inr rfl

end Admission

/-- In every run of the gateway in which the cleanup goroutines remove only dispensable buckets, a
request is handled only if it was allowed at some time, and no more requests of a client are
allowed within an interval than the buckets of two tiers hold, and their rates add during the
interval.  A request that is handled is told its limit and how many tokens are left, a request
that is answered with 429 was not allowed and is told to retry after a second or more, and every
refusal is counted once for its route. -/
theorem client_admissions (env : Env) (beyond : ℚ → Int) (requests : Nat → LimitedRequest)
    (start : Nat) (as : List AdmissionStep) (s : Admission)
    (hrun : (admission env beyond requests).run (Admission.init start) as = some s)
    (hsafe : (admission env beyond requests).Guarded (RemovesDispensable env) (Admission.init start) as) :
  (∀ i headers, s.phase i = .handled headers →
      (∃ t, s.AllowedWithin requests i t t)
        ∧ ∃ remaining reset, 0 ≤ remaining
          ∧ remaining ≤ (initRateLimiters env (tierOf requests i)).burst
          ∧ headers = limitHeaders (getLimitForTier env (tierOf requests i)) remaining reset)
    ∧ (∀ i response, s.phase i = .answered response →
      (∀ t₁ t₂, ¬ s.AllowedWithin requests i t₁ t₂)
        ∧ ∃ retryAfter reset, 1 ≤ retryAfter
          ∧ response = tooManyRequests retryAfter (getLimitForTier env (tierOf requests i)) reset)
    ∧ (∀ (ip : List UInt8) (t₁ t₂ : ℚ) (is : List Nat), t₁ ≤ t₂ → is.Nodup →
      (∀ i ∈ is, (requests i).clientIP = ip ∧ s.AllowedWithin requests i t₁ t₂) →
      (is.length : ℚ) ≤ ((initRateLimiters env .standard).burst + (initRateLimiters env .anonymous).burst)
        + ((initRateLimiters env .standard).rate + (initRateLimiters env .anonymous).rate) * (t₂ - t₁))
    ∧ ∃ is : List Nat, is.Nodup ∧ (∀ i, i ∈ is ↔ (s.phase i).Counted)
      ∧ ∀ path, s.rateLimitHits path = (is.filter fun i => (requests i).routePath = path).length
  := by
  have hs : s.Steady env requests := by
    apply Machine.run_invariant _ as (Admission.steady_init env requests start) hsafe hrun
    intro s b s₁ hs hb hstep
    exact hs.step hb hstep
  refine ⟨?_, ?_, ?_, hs.counted⟩
  · intro i headers hi
    have hright := hs.right i
    rw [hi] at hright
    obtain ⟨hreturned, hheaders⟩ := hright
    obtain ⟨a, ha, hcall, hallowed⟩ := (hs.recorded _ i true).mpr hreturned
    exact ⟨⟨_, a, ha, hcall, hallowed, le_rfl, le_rfl⟩, hheaders⟩
  · intro i response hi
    have hright := hs.right i
    rw [hi] at hright
    obtain ⟨hreturned, hresponse⟩ := hright
    refine ⟨?_, hresponse⟩
    rintro t₁ t₂ ⟨a, ha, hcall, hallowed, _⟩
    have htrue := (hs.recorded _ i true).mp ⟨a, ha, hcall, hallowed⟩
    cases hreturned.symm.trans htrue
  · intro ip t₁ t₂ is ht hnodup his
    have hstandard := hs.length_le ip .standard ht
      (hnodup.filter fun i => tierOf requests i = .standard) (by
        intro i hi
        obtain ⟨hi, htier⟩ := List.mem_filter.mp hi
        exact ⟨by simpa using htier, his i hi⟩)
    have hanonymous := hs.length_le ip .anonymous ht
      (hnodup.filter fun i => !decide (tierOf requests i = .standard)) (by
        intro i hi
        obtain ⟨hi, htier⟩ := List.mem_filter.mp hi
        obtain h | h := Admission.tierOf_eq requests i
        · simp [h] at htier
        · exact ⟨h, his i hi⟩)
    have hlength := List.length_eq_length_filter_add (l := is)
      fun i => decide (tierOf requests i = .standard)
    have hcast : (is.length : ℚ)
        = ((is.filter fun i => decide (tierOf requests i = .standard)).length : ℚ)
          + ((is.filter fun i => !decide (tierOf requests i = .standard)).length : ℚ) := by
      exact_mod_cast hlength
    rw [hcast]
    linarith

/-- A bucket of the tier of unsigned requests holds one token, and all other settings have their
defaults. -/
def oneTokenEnv : Env :=
  fun key => if key = "RATE_LIMIT_ANONYMOUS_BURST" then bytes "1" else []

/-- The requests of one client: the third one has headers for a signature and a nonce. -/
def sampleRequests (i : Nat) : LimitedRequest where
  clientIP := bytes "10.0.0.7"
  signature := if i = 2 then bytes "0x" else []
  nonce := if i = 2 then bytes "n" else []
  fullPath := bytes "/healthz"

/-- The first request is handled and the second one is refused, half a second later, before the
third one is handled. -/
def sampleAdmissionSteps : List AdmissionStep :=
  [.makeBucket 0, .makeBucket 2, .loadOrStore 0, .allow 0, .proceed 0, .elapse 500000000,
    .proceed 0, .makeBucket 1, .proceed 0, .loadOrStore 1, .allow 1, .proceed 1, .proceed 1,
    .proceed 1, .proceed 1, .loadOrStore 2, .allow 2, .proceed 2, .proceed 2, .proceed 2]

/-- The first and the third request are told the limits of their tiers, and the second one is told
to retry after six seconds. -/
theorem run_sampleAdmissionSteps :
  ((admission oneTokenEnv (fun _ => 0) sampleRequests).run (Admission.init 0)
      sampleAdmissionSteps).map (fun s => (s.phase 0, s.phase 1, s.phase 2))
    = some (.handled (limitHeaders 10 0 6), .answered (tooManyRequests 6 10 6),
        .handled (limitHeaders 60 19 1))
  := by
  decide +kernel

/-- The request that is handled was allowed, the other was not. -/
theorem client_admissions_sample :
  ∃ s, (admission oneTokenEnv (fun _ => 0) sampleRequests).run (Admission.init 0) sampleAdmissionSteps
      = some s
    ∧ (∃ t, s.AllowedWithin sampleRequests 0 t t)
    ∧ ∀ t₁ t₂, ¬ s.AllowedWithin sampleRequests 1 t₁ t₂
  := by
  obtain ⟨s, hs, hphases⟩ := Option.map_eq_some_iff.mp run_sampleAdmissionSteps
  simp only [Prod.mk.injEq] at hphases
  obtain ⟨hhandled, hanswered, _⟩ := hphases
  have hsafe : (admission oneTokenEnv (fun _ => 0) sampleRequests).Guarded
      (RemovesDispensable oneTokenEnv) (Admission.init 0) sampleAdmissionSteps := by
    apply Machine.guarded_of_forall
    simp [sampleAdmissionSteps, RemovesDispensable]
  obtain ⟨hallowed, hrefused, _⟩ := client_admissions oneTokenEnv (fun _ => 0) sampleRequests 0
    sampleAdmissionSteps s hs hsafe
  exact ⟨s, hs, (hallowed 0 _ hhandled).1, (hrefused 1 _ hanswered).1⟩

/-! ### Requests of one client in one tier -/

/-- The step is one of time, or for a request of the client in the tier. -/
def AdmissionStep.concerns (requests : Nat → LimitedRequest) (t : Tier) (ip : List UInt8) :
    AdmissionStep → Bool
  | .elapse _ => true
  | .makeBucket i | .loadOrStore i | .allow i | .proceed i =>
      tierOf requests i = t ∧ (requests i).clientIP = ip
  | .cleanup _ _ => false

/-- Requests have one key exactly if they are from one client. -/
theorem getRateLimitKey_eq_iff {r : LimitedRequest} {ip : List UInt8} :
  getRateLimitKey r = bytes "ip:" ++ ip ↔ r.clientIP = ip
  := List.append_right_inj _

/-- What the middleware does next depends on the bucket and the call of the request, and on the
time. -/
theorem rateLimitMiddleware_congr {r : LimitedRequest} {i : Nat} {l l' : Limiter}
    (hnow : l'.now = l.now) (hphase : l'.phase i = l.phase i)
    (hbucket : l'.bucketOf (getRateLimitKey r) = l.bucketOf (getRateLimitKey r)) (p : AdmissionPhase) :
  rateLimitMiddleware env beyond r i l' p = rateLimitMiddleware env beyond r i l p
  := by
  cases p <;> simp only [rateLimitMiddleware, rateLimitMiddleware.key, Limiter.getResetTime,
    Limiter.getRemaining, hnow, hphase, hbucket]

namespace Admission

/-- The second gateway looks to the requests of the client in the tier like the first one. -/
structure OwnAlike (env : Env) (requests : Nat → LimitedRequest) (t : Tier) (ip : List UInt8)
    (s s' : Admission) : Prop where
  sound : (s.limiters t).Sound (initRateLimiters env t) (allowCalls requests)
  waiting : (s'.limiters t).cleanup = .waiting
  alike : Limiter.Alike (allowCalls requests) (bytes "ip:" ++ ip) (s.limiters t) (s'.limiters t)
  phase : ∀ i, tierOf requests i = t → (requests i).clientIP = ip → s'.phase i = s.phase i

variable {t : Tier} {ip : List UInt8}

theorem ownAlike_init (env : Env) (requests : Nat → LimitedRequest) (t : Tier) (ip : List UInt8)
    (start : Nat) :
  OwnAlike env requests t ip (init start) (init start)
  := by
  obtain ⟨hsound, hwaiting, halike⟩ := Limiter.projects_init (initRateLimiters env t)
    (allowCalls requests) (bytes "ip:" ++ ip) start
  constructor
  · exact hsound
  · exact hwaiting
  · exact halike
  · intro i _ _
    rfl

/-- The bucket of the client is the same in both. -/
theorem OwnAlike.bucketOf {s s' : Admission} (h : OwnAlike env requests t ip s s') :
  (s'.limiters t).bucketOf (bytes "ip:" ++ ip) = (s.limiters t).bucketOf (bytes "ip:" ++ ip)
  := by
  rw [Limiter.bucketOf, Limiter.bucketOf, h.alike.buckets]
  cases href : (s.limiters t).buckets (bytes "ip:" ++ ip) with
  | none => rfl
  | some ref =>
      obtain ⟨hkey, _⟩ := h.sound.listed _ ref href
      exact h.alike.heap ref hkey

/-- A step of `Allow` for a request of the client can be taken in both. -/
theorem OwnAlike.limit {s s₁ s' : Admission} (h : OwnAlike env requests t ip s s') {a : LimiterStep}
    (ha : a ≠ .cleanupTick) (hown : a.concerns (allowCalls requests) (bytes "ip:" ++ ip) = true)
    (hstep : s.limit env requests t a = some s₁) :
  ∃ s₁', s'.limit env requests t a = some s₁' ∧ OwnAlike env requests t ip s₁ s₁'
  := by
  obtain ⟨hl, _, hphase, _⟩ := limit_eq_some hstep
  obtain ⟨l', hl', hwaiting, halike⟩ := h.alike.of_concerns h.sound h.waiting ha hown hl
  refine ⟨{ s' with limiters := Function.update s'.limiters t l' }, ?_, ?_⟩
  · rw [Admission.limit, hl', Option.map_some]
  constructor
  · exact h.sound.step (sound_initRateLimiters env t) (fun _ => Int.one_nonneg) ha hl
  · simpa only [Function.update_self] using hwaiting
  · simpa only [Function.update_self] using halike
  · intro i htier hclient
    rw [hphase]
    exact h.phase i htier hclient

/-- A step that is for a request of the client in the tier can be taken in both. -/
theorem OwnAlike.of_concerns {s s₁ s' : Admission} (h : OwnAlike env requests t ip s s')
    {b : AdmissionStep} (hown : b.concerns requests t ip = true)
    (hstep : (admission env beyond requests).step s b = some s₁) :
  ∃ s₁', (admission env beyond requests).step s' b = some s₁' ∧ OwnAlike env requests t ip s₁ s₁'
  := by
  have hkey : ∀ {i}, (requests i).clientIP = ip →
      decide ((allowCalls requests i).key = bytes "ip:" ++ ip) = true := by
    intro i hi
    exact decide_eq_true (getRateLimitKey_eq_iff.mpr hi)
  cases b with
  | elapse d =>
      obtain rfl := Option.some.inj hstep
      obtain ⟨l', hl', hwaiting, halike⟩ := h.alike.of_concerns h.sound h.waiting
        (a := .elapse d) nofun rfl rfl
      obtain rfl := Option.some.inj hl'
      refine ⟨_, rfl, ?_⟩
      constructor
      · exact h.sound.elapse d
      · exact hwaiting
      · exact halike
      · exact h.phase
  | makeBucket i =>
      obtain ⟨rfl, hclient⟩ := of_decide_eq_true hown
      exact h.limit nofun (hkey hclient) hstep
  | loadOrStore i =>
      obtain ⟨rfl, hclient⟩ := of_decide_eq_true hown
      exact h.limit nofun (hkey hclient) hstep
  | allow i =>
      obtain ⟨rfl, hclient⟩ := of_decide_eq_true hown
      exact h.limit nofun (hkey hclient) hstep
  | proceed i =>
      obtain ⟨rfl, rfl⟩ := of_decide_eq_true hown
      obtain ⟨p, hp, rfl⟩ := Option.map_eq_some_iff.mp hstep
      rw [← h.phase i rfl rfl, ← rateLimitMiddleware_congr h.alike.now
        (h.alike.phase i rfl) h.bucketOf] at hp
      refine ⟨_, Option.map_eq_some_iff.mpr ⟨p, hp, rfl⟩, ?_⟩
      constructor
      · exact h.sound
      · exact h.waiting
      · exact h.alike
      · intro j htier hclient
        by_cases hj : j = i
        · subst hj
          simp only [Function.update_self]
        · simp only [Function.update_of_ne hj]
          exact h.phase j htier hclient
  | cleanup t' a => cases hown

/-- A step that is for another request changes nothing that the client sees in the tier. -/
theorem OwnAlike.of_other {s s₁ s' : Admission} (h : OwnAlike env requests t ip s s')
    {b : AdmissionStep} (htick : ∀ t, b ≠ .cleanup t .cleanupTick)
    (hother : b.concerns requests t ip = false)
    (hstep : (admission env beyond requests).step s b = some s₁) :
  OwnAlike env requests t ip s₁ s'
  := by
  have hphase : ∀ i, tierOf requests i = t → (requests i).clientIP = ip → s₁.phase i = s.phase i := by
    intro i htier hclient
    obtain ⟨j, p, rfl, _, hphase, _⟩ | ⟨_, hphase, _⟩ := step_phase hstep
    · rw [hphase, Function.update_of_ne]
      rintro rfl
      exact of_decide_eq_false hother ⟨htier, hclient⟩
    · rw [hphase]
  obtain ⟨a, hwithin, ha⟩ | ⟨_, hkept⟩ := step_within hstep t
  · have hne : a ≠ .cleanupTick := by
      rintro rfl
      cases b with
      | cleanup t' a' =>
          simp only [AdmissionStep.within] at hwithin
          split at hwithin
          · obtain rfl := Option.some.inj hwithin
            exact htick t' rfl
          · cases hwithin
      | elapse _ => cases hwithin
      | proceed _ => cases hwithin
      | _ =>
          simp only [AdmissionStep.within] at hwithin
          split at hwithin
          · cases Option.some.inj hwithin
          · cases hwithin
    have hconcerns : a.concerns (allowCalls requests) (bytes "ip:" ++ ip) = false := by
      have hcleanup := Limiter.isCleanup_eq_false h.sound.waiting hne ha
      cases b with
      | elapse d => cases hother
      | proceed i => cases hwithin
      | cleanup t' a' =>
          simp only [AdmissionStep.within] at hwithin
          split at hwithin
          · rename_i ht
            obtain rfl := Option.some.inj hwithin
            rw [ht.2] at hcleanup
            cases hcleanup
          · cases hwithin
      | _ =>
          simp only [AdmissionStep.within] at hwithin
          split at hwithin
          · rename_i ht
            obtain rfl := Option.some.inj hwithin
            apply decide_eq_false
            intro hkey
            exact of_decide_eq_false hother ⟨ht, getRateLimitKey_eq_iff.mp hkey⟩
          · cases hwithin
    constructor
    · exact h.sound.step (sound_initRateLimiters env t) (fun _ => Int.one_nonneg) hne ha
    · exact h.waiting
    · exact h.alike.of_other h.sound hne hconcerns ha
    · intro i htier hclient
      rw [hphase i htier hclient]
      exact h.phase i htier hclient
  · constructor
    · rw [hkept]
      exact h.sound
    · exact h.waiting
    · rw [hkept]
      exact h.alike
    · intro i htier hclient
      rw [hphase i htier hclient]
      exact h.phase i htier hclient

end Admission

/-- In every run without cleanup, the requests of a client in a tier are allowed or refused, and
told to the last byte, as in the run without all other requests: a client cannot use up the tokens
of another one, and requests without a signature and a nonce cannot use up those of requests with
both. -/
theorem admission_depends_on_own (env : Env) (beyond : ℚ → Int) (requests : Nat → LimitedRequest)
    (start : Nat) (as : List AdmissionStep) (s : Admission)
    (hcleanup : ∀ b ∈ as, ∀ t, b ≠ .cleanup t .cleanupTick)
    (hrun : (admission env beyond requests).run (Admission.init start) as = some s)
    (t : Tier) (ip : List UInt8) :
  ∃ s', (admission env beyond requests).run (Admission.init start)
        (as.filter (AdmissionStep.concerns requests t ip)) = some s'
    ∧ ∀ i, tierOf requests i = t → (requests i).clientIP = ip → s'.phase i = s.phase i
  := by
  have hguarded : (admission env beyond requests).Guarded
      (fun _ b => ∀ t, b ≠ .cleanup t .cleanupTick) (Admission.init start) as :=
    Machine.guarded_of_forall as fun b hb _ => hcleanup b hb
  let rel := Admission.OwnAlike env requests t ip
  have hkeep : ∀ s b s₁ s', (∀ t, b ≠ .cleanup t .cleanupTick) → rel s s' →
      b.concerns requests t ip = true → (admission env beyond requests).step s b = some s₁ →
      ∃ s₁', (admission env beyond requests).step s' b = some s₁' ∧ rel s₁ s₁' := by
    intro s b s₁ s' _ hrel hown hstep
    exact hrel.of_concerns hown hstep
  have hdrop : ∀ s b s₁ s', (∀ t, b ≠ .cleanup t .cleanupTick) → rel s s' →
      b.concerns requests t ip = false → (admission env beyond requests).step s b = some s₁ →
      rel s₁ s' := by
    intro s b s₁ s' htick hrel hother hstep
    exact hrel.of_other htick hother hstep
  have hinit : rel (Admission.init start) (Admission.init start) :=
    Admission.ownAlike_init env requests t ip start
  obtain ⟨s', hrun', halike⟩ := Machine.run_filter hkeep hdrop as hguarded hinit hrun
  exact ⟨s', hrun', halike.phase⟩

/-- The third request is handled as it would be without the first two. -/
theorem admission_depends_on_own_sample :
  ∃ s', (admission oneTokenEnv (fun _ => 0) sampleRequests).run (Admission.init 0)
      (sampleAdmissionSteps.filter
        (AdmissionStep.concerns sampleRequests .standard (bytes "10.0.0.7"))) = some s'
    ∧ s'.phase 2 = .handled (limitHeaders 60 19 1)
  := by
  obtain ⟨s, hs, hphases⟩ := Option.map_eq_some_iff.mp run_sampleAdmissionSteps
  simp only [Prod.mk.injEq] at hphases
  obtain ⟨s', hs', hsame⟩ := admission_depends_on_own oneTokenEnv (fun _ => 0) sampleRequests 0
    sampleAdmissionSteps s (by simp [sampleAdmissionSteps]) hs .standard (bytes "10.0.0.7")
  use s', hs'
  rw [hsame 2 rfl rfl]
  exact hphases.2.2

end Paygate.Gateway
