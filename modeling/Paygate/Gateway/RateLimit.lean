import Mathlib.Data.Rat.Defs
import Mathlib.Algebra.Order.Field.Rat
import Mathlib.Tactic.Positivity
import Paygate.Base.Budget
import Paygate.Base.Machine

/-!
# The rate limiter

A token bucket for each key, made by the first call on the key.  A call of `AllowN` makes a
bucket, looks the bucket of its key up or stores the one it made, and then, holding the lock of
the bucket it found, refills it and takes its tokens.  The calls of a run interleave at these
steps, and a background goroutine may remove idle buckets.

Token counts are exact rationals.  Times are counts of nanoseconds.
-/

namespace Paygate.Gateway

/-! ### The buckets -/

/-- A rate limiter: the tokens it adds per second, the tokens a bucket can hold, and how long
an idle bucket is kept. -/
structure TokenBucket where
  rate : ℚ
  burst : Int
  cleanupTTL : Int

/-- A rate limiter for the given number of requests per minute. -/
def newTokenBucket (rpm burst cleanupTTL : Int) : TokenBucket :=
  let rpm := if rpm ≤ 0 then 1 else rpm
  let burst := if burst ≤ 0 then 1 else burst
  { rate := rpm / 60, burst := burst, cleanupTTL := cleanupTTL }

/-- The bucket of one key. -/
structure Bucket where
  tokens : ℚ
  lastCheck : Nat
  deriving DecidableEq

/-- The bucket `getBucket` makes. -/
def TokenBucket.newBucket (tb : TokenBucket) (now : Nat) : Bucket where
  tokens := tb.burst
  lastCheck := now

/-- The duration from `u` to `t`, or the nearest duration there is. -/
def timeSub (t u : Nat) : Int :=
  max (-2 ^ 63) (min (2 ^ 63 - 1) ((t : Int) - u))

/-- A duration in seconds. -/
def durationSeconds (d : Int) : ℚ := d / 10 ^ 9

/-- What `AllowN` does while it holds the lock of a bucket. -/
def TokenBucket.allowN (tb : TokenBucket) (b : Bucket) (now : Nat) (n : Int) : Bool × Bucket :=
  let elapsed := durationSeconds (timeSub now b.lastCheck)
  let tokens := min (tb.burst : ℚ) (b.tokens + elapsed * tb.rate)
  if n ≤ tokens then (true, { tokens := tokens - n, lastCheck := now })
  else (false, { tokens := tokens, lastCheck := now })

/-! ### Calls -/

/-- A call `AllowN(key, n)`. -/
structure LimitCall where
  key : List UInt8
  n : Int

/-- How far a call has come: it has not begun, it has made a bucket, it holds a reference to
the bucket it found, or it has returned. -/
inductive CallPhase where
  | idle
  | made
  | found (ref : Nat)
  | returned (allowed : Bool)
  deriving DecidableEq

/-- What a call answered, and when it held the lock. -/
structure LimitAnswer where
  call : Nat
  time : Nat
  allowed : Bool
  deriving DecidableEq

/-- How far the cleanup goroutine has come: it waits for a tick, it ranges over the buckets,
or it has read the last check of the bucket of some key. -/
inductive CleanupPhase where
  | waiting
  | ranging (now : Nat) (visited : List (List UInt8))
  | read (now : Nat) (visited : List (List UInt8)) (key : List UInt8) (lastCheck : Nat)

/-- A rate limiter in use: the time, the bucket of each key, the buckets the calls have made,
how far the calls and the cleanup goroutine have come, and the answers given, the latest first.
A bucket is referred to by the call that made it. -/
structure Limiter where
  now : Nat
  buckets : List UInt8 → Option Nat
  heap : Nat → Option Bucket
  phase : Nat → CallPhase
  cleanup : CleanupPhase
  answers : List LimitAnswer

/-- A rate limiter that was not used yet. -/
def Limiter.init (start : Nat) : Limiter where
  now := start
  buckets _ := none
  heap _ := none
  phase _ := .idle
  cleanup := .waiting
  answers := []

/-- A step: time passes; a call makes a bucket, looks its key up, or refills and takes while it
holds the lock; the cleanup goroutine is woken up, reads the last check of a bucket while it
holds its lock, removes the bucket if it is idle, or is done with the buckets. -/
inductive LimiterStep where
  | elapse (d : Nat)
  | makeBucket (call : Nat)
  | loadOrStore (call : Nat)
  | allow (call : Nat)
  | cleanupTick
  | cleanupRead (key : List UInt8)
  | cleanupDelete
  | cleanupDone

/-- Whether a step is one of the cleanup goroutine. -/
def LimiterStep.isCleanup : LimiterStep → Bool
  | .cleanupTick | .cleanupRead _ | .cleanupDelete | .cleanupDone => true
  | _ => false

/-- The limiter serving the given calls. -/
def limiter (tb : TokenBucket) (calls : Nat → LimitCall) : Machine Limiter LimiterStep where
  step s
    | .elapse d => some { s with now := s.now + d }
    | .makeBucket i =>
        match s.phase i with
        | .idle => some { s with
            heap := Function.update s.heap i (some (tb.newBucket s.now))
            phase := Function.update s.phase i .made }
        | _ => none
    | .loadOrStore i =>
        match s.phase i with
        | .made =>
            match s.buckets (calls i).key with
            | some ref => some { s with phase := Function.update s.phase i (.found ref) }
            | none => some { s with
                buckets := Function.update s.buckets (calls i).key (some i)
                phase := Function.update s.phase i (.found i) }
        | _ => none
    | .allow i =>
        match s.phase i with
        | .found ref =>
            match s.heap ref with
            | some b =>
                let taken := tb.allowN b s.now (calls i).n
                some { s with
                  heap := Function.update s.heap ref (some taken.2)
                  phase := Function.update s.phase i (.returned taken.1)
                  answers := { call := i, time := s.now, allowed := taken.1 } :: s.answers }
            | none => none
        | _ => none
    | .cleanupTick =>
        match s.cleanup with
        | .waiting => some { s with cleanup := .ranging s.now [] }
        | _ => none
    | .cleanupRead key =>
        match s.cleanup, (s.buckets key).bind s.heap with
        | .ranging now visited, some b =>
            if visited.contains key then none
            else some { s with cleanup := .read now visited key b.lastCheck }
        | _, _ => none
    | .cleanupDelete =>
        match s.cleanup with
        | .read now visited key lastCheck => some { s with
            buckets :=
              if tb.cleanupTTL < timeSub now lastCheck then Function.update s.buckets key none
              else s.buckets
            cleanup := .ranging now (key :: visited) }
        | _ => none
    | .cleanupDone =>
        match s.cleanup with
        | .ranging _ _ => some { s with cleanup := .waiting }
        | _ => none

/-! ### One locked section -/

/-- Time since an earlier moment is not negative, and no longer than it is. -/
theorem durationSeconds_timeSub {t u : Nat} (h : u ≤ t) :
  0 ≤ durationSeconds (timeSub t u)
    ∧ durationSeconds (timeSub t u) ≤ durationSeconds t - durationSeconds u
  := by
  have hnonneg : 0 ≤ timeSub t u := by
    unfold timeSub
    omega
  have hle : timeSub t u ≤ t - u := by
    unfold timeSub
    omega
  unfold durationSeconds
  constructor
  · positivity
  · rw [← sub_div]
    apply div_le_div_of_nonneg_right _ (by positivity)
    exact_mod_cast hle

/-- The limiter adds tokens, and a bucket can hold one. -/
structure TokenBucket.Sound (tb : TokenBucket) : Prop where
  rate_nonneg : 0 ≤ tb.rate
  burst_nonneg : (0 : ℚ) ≤ tb.burst

theorem sound_newTokenBucket (rpm burst cleanupTTL : Int) :
  (newTokenBucket rpm burst cleanupTTL).Sound
  := by
  constructor
  · simp only [newTokenBucket]
    apply div_nonneg _ (by norm_num)
    split
    · norm_num
    · exact_mod_cast (by omega : 0 ≤ rpm)
  · simp only [newTokenBucket]
    split
    · norm_num
    · exact_mod_cast (by omega : 0 ≤ burst)

/-- The withdrawal of a call that is allowed. -/
def withdrawalOf (now : Nat) (n : Int) : Budget.Withdrawal ℚ where
  time := durationSeconds now
  amount := n

/-- The locked section keeps a bucket within its budget, with the tokens it takes
withdrawn. -/
theorem bounded_allowN {tb : TokenBucket} {l : List (Budget.Withdrawal ℚ)} {b : Bucket} {now : Nat}
    {n : Int} (h : Budget.Bounded (tb.burst : ℚ) tb.rate l b.tokens (durationSeconds b.lastCheck))
    (hnow : b.lastCheck ≤ now) (hn : 0 ≤ n) :
  (tb.allowN b now n).2.lastCheck = now
    ∧ Budget.Bounded (tb.burst : ℚ) tb.rate
        (if (tb.allowN b now n).1 then withdrawalOf now n :: l else l)
        (tb.allowN b now n).2.tokens (durationSeconds now)
  := by
  obtain ⟨helapsed, hle⟩ := durationSeconds_timeSub hnow
  have hrefilled : Budget.Bounded (tb.burst : ℚ) tb.rate l
      (min (tb.burst : ℚ) (b.tokens + durationSeconds (timeSub now b.lastCheck) * tb.rate))
      (durationSeconds now) := by
    have hadded := mul_nonneg helapsed h.rate_nonneg
    have hrate := mul_le_mul_of_nonneg_left hle h.rate_nonneg
    apply h.refill
    · linarith
    · apply le_min h.le_burst
      linarith
    · apply min_le_left
    · apply le_trans (min_le_right _ _)
      linarith
  simp only [TokenBucket.allowN]
  split
  · rename_i hallowed
    simp only [if_true, true_and]
    apply hrefilled.withdraw _ hallowed
    exact_mod_cast hn
  · simp only [Bool.false_eq_true, if_false, true_and]
    exact hrefilled

/-! ### What holds without cleanup -/

variable {tb : TokenBucket} {calls : Nat → LimitCall}

/-- What was granted for a key. -/
def grantedFor (calls : Nat → LimitCall) (key : List UInt8) (answers : List LimitAnswer) :
    List (Budget.Withdrawal ℚ) :=
  (answers.filter fun a => a.allowed ∧ (calls a.call).key = key).map fun a =>
    withdrawalOf a.time (calls a.call).n

/-- An answer to a call on the key is counted if the call is allowed. -/
theorem grantedFor_cons_self (i time : Nat) (allowed : Bool) (answers : List LimitAnswer) :
  grantedFor calls (calls i).key ({ call := i, time := time, allowed := allowed } :: answers)
    = if allowed then withdrawalOf time (calls i).n :: grantedFor calls (calls i).key answers
      else grantedFor calls (calls i).key answers
  := by
  cases allowed with
  | true => simp [grantedFor]
  | false => simp [grantedFor]

/-- An answer to a call on another key is not counted. -/
theorem grantedFor_cons_of_ne {i time : Nat} {allowed : Bool} {key : List UInt8}
    (h : (calls i).key ≠ key) (answers : List LimitAnswer) :
  grantedFor calls key ({ call := i, time := time, allowed := allowed } :: answers)
    = grantedFor calls key answers
  := by
  simp [grantedFor, h]

/-- The call has a reference to the bucket of its key. -/
def CallPhase.Past : CallPhase → Prop
  | .idle | .made => False
  | .found _ | .returned _ => True

/-- A call that has a reference is not one that makes a bucket. -/
theorem ne_of_past {phase : Nat → CallPhase} {i ref : Nat} (hpast : (phase ref).Past)
    (h : phase i = .idle ∨ phase i = .made) :
  ref ≠ i
  := by
  rintro rfl
  obtain h | h := h
  · rw [h] at hpast
    exact hpast
  · rw [h] at hpast
    exact hpast

/-- The bucket a call made was checked by now, and holds no more tokens than it can. -/
def Limiter.Fits (tb : TokenBucket) (s : Limiter) (b : Bucket) : Prop :=
  b.lastCheck ≤ s.now ∧ 0 ≤ b.tokens ∧ b.tokens ≤ tb.burst

/-- The state of a limiter whose buckets are never removed. -/
structure Limiter.Sound (tb : TokenBucket) (calls : Nat → LimitCall) (s : Limiter) : Prop where
  waiting : s.cleanup = .waiting
  fits : ∀ i b, s.heap i = some b → s.Fits tb b
  made : ∀ i, s.phase i = .made → ∃ b, s.heap i = some b ∧ b.tokens = tb.burst
  found : ∀ i ref, s.phase i = .found ref → s.buckets (calls i).key = some ref
  listed : ∀ key ref, s.buckets key = some ref →
    (calls ref).key = key ∧ (s.phase ref).Past ∧ ∃ b, s.heap ref = some b
      ∧ Budget.Bounded (tb.burst : ℚ) tb.rate (grantedFor calls key s.answers) b.tokens
          (durationSeconds b.lastCheck)
  unlisted : ∀ key, s.buckets key = none → grantedFor calls key s.answers = []

namespace Limiter

theorem sound_init (tb : TokenBucket) (calls : Nat → LimitCall) (start : Nat) :
  (init start).Sound tb calls
  := by
  constructor
  · rfl
  · intro i b h
    cases h
  · intro i h
    cases h
  · intro i ref h
    cases h
  · intro key ref h
    cases h
  · intro key _
    rfl

theorem Sound.elapse {s : Limiter} (hs : s.Sound tb calls) (d : Nat) :
  Sound tb calls { s with now := s.now + d }
  := by
  constructor
  · exact hs.waiting
  · intro i b h
    obtain ⟨hcheck, htokens⟩ := hs.fits i b h
    exact ⟨le_trans hcheck (Nat.le_add_right _ _), htokens⟩
  · exact hs.made
  · exact hs.found
  · exact hs.listed
  · exact hs.unlisted

theorem Sound.makeBucket (htb : tb.Sound) {s : Limiter} (hs : s.Sound tb calls) {i : Nat}
    (hidle : s.phase i = .idle) :
  Sound tb calls { s with
    heap := Function.update s.heap i (some (tb.newBucket s.now))
    phase := Function.update s.phase i .made }
  := by
  constructor
  · exact hs.waiting
  · intro j b hb
    by_cases hj : j = i
    · subst hj
      simp only [Function.update_self, Option.some.injEq] at hb
      subst hb
      exact ⟨le_rfl, htb.burst_nonneg, le_rfl⟩
    · simp only [Function.update_of_ne hj] at hb
      exact hs.fits j b hb
  · intro j hj
    by_cases hji : j = i
    · subst hji
      simp only [Function.update_self, Option.some.injEq, exists_eq_left']
      rfl
    · simp only [Function.update_of_ne hji] at hj ⊢
      exact hs.made j hj
  · intro j ref hj
    by_cases hji : j = i
    · subst hji
      simp only [Function.update_self] at hj
      cases hj
    · simp only [Function.update_of_ne hji] at hj
      exact hs.found j ref hj
  · intro key ref href
    obtain ⟨hkey, hpast, hbounded⟩ := hs.listed key ref href
    simp only [Function.update_of_ne (ne_of_past hpast (Or.inl hidle))]
    exact ⟨hkey, hpast, hbounded⟩
  · exact hs.unlisted

theorem Sound.load {s : Limiter} (hs : s.Sound tb calls) {i ref : Nat}
    (href : s.buckets (calls i).key = some ref) :
  Sound tb calls { s with phase := Function.update s.phase i (.found ref) }
  := by
  constructor
  · exact hs.waiting
  · exact hs.fits
  · intro j hj
    by_cases hji : j = i
    · subst hji
      simp only [Function.update_self] at hj
      cases hj
    · simp only [Function.update_of_ne hji] at hj
      exact hs.made j hj
  · intro j ref' hj
    by_cases hji : j = i
    · subst hji
      simp only [Function.update_self, CallPhase.found.injEq] at hj
      rw [← hj]
      exact href
    · simp only [Function.update_of_ne hji] at hj
      exact hs.found j ref' hj
  · intro key ref' href'
    obtain ⟨hkey, hpast, hbounded⟩ := hs.listed key ref' href'
    refine ⟨hkey, ?_, hbounded⟩
    by_cases hne : ref' = i
    · subst hne
      simp only [Function.update_self]
      trivial
    · simp only [Function.update_of_ne hne]
      exact hpast
  · exact hs.unlisted

theorem Sound.store (htb : tb.Sound) {s : Limiter} (hs : s.Sound tb calls) {i : Nat}
    (hmade : s.phase i = .made) (hnone : s.buckets (calls i).key = none) :
  Sound tb calls { s with
    buckets := Function.update s.buckets (calls i).key (some i)
    phase := Function.update s.phase i (.found i) }
  := by
  constructor
  · exact hs.waiting
  · exact hs.fits
  · intro j hj
    by_cases hji : j = i
    · subst hji
      simp only [Function.update_self] at hj
      cases hj
    · simp only [Function.update_of_ne hji] at hj
      exact hs.made j hj
  · intro j ref hj
    by_cases hji : j = i
    · subst hji
      simp only [Function.update_self, CallPhase.found.injEq] at hj ⊢
      rw [hj]
    · simp only [Function.update_of_ne hji] at hj
      have href := hs.found j ref hj
      have hkey : (calls j).key ≠ (calls i).key := by
        intro hkey
        rw [hkey, hnone] at href
        cases href
      simp only [Function.update_of_ne hkey]
      exact href
  · intro key ref href
    by_cases hkey : key = (calls i).key
    · subst hkey
      simp only [Function.update_self, Option.some.injEq] at href
      subst href
      obtain ⟨b, hb, hfull⟩ := hs.made i hmade
      simp only [Function.update_self, hs.unlisted _ hnone]
      refine ⟨trivial, trivial, b, hb, ?_⟩
      rw [hfull]
      apply Budget.bounded_full htb.rate_nonneg htb.burst_nonneg
    · simp only [Function.update_of_ne hkey] at href
      obtain ⟨hkey', hpast, hbounded⟩ := hs.listed key ref href
      simp only [Function.update_of_ne (ne_of_past hpast (Or.inr hmade))]
      exact ⟨hkey', hpast, hbounded⟩
  · intro key hkey
    by_cases heq : key = (calls i).key
    · subst heq
      simp only [Function.update_self] at hkey
      cases hkey
    · simp only [Function.update_of_ne heq] at hkey
      exact hs.unlisted key hkey

/-- The bucket a call found is the one listed for its key. -/
theorem Sound.bounded_of_found {s : Limiter} (hs : s.Sound tb calls) {i ref : Nat}
    (hfound : s.phase i = .found ref) :
  (calls ref).key = (calls i).key ∧ (s.phase ref).Past ∧ ∃ b, s.heap ref = some b
    ∧ Budget.Bounded (tb.burst : ℚ) tb.rate (grantedFor calls (calls i).key s.answers) b.tokens
        (durationSeconds b.lastCheck)
  := hs.listed _ ref (hs.found i ref hfound)

theorem Sound.allow {s : Limiter} (hs : s.Sound tb calls) {i ref : Nat} {b : Bucket}
    (hn : 0 ≤ (calls i).n) (hfound : s.phase i = .found ref) (hb : s.heap ref = some b) :
  Sound tb calls { s with
    heap := Function.update s.heap ref (some (tb.allowN b s.now (calls i).n).2)
    phase := Function.update s.phase i (.returned (tb.allowN b s.now (calls i).n).1)
    answers :=
      { call := i, time := s.now, allowed := (tb.allowN b s.now (calls i).n).1 } :: s.answers }
  := by
  obtain ⟨href, hpast, b', hb', hbounded⟩ := hs.bounded_of_found hfound
  obtain rfl := Option.some.inj (hb.symm.trans hb')
  obtain ⟨hcheck, -⟩ := hs.fits ref b hb
  obtain ⟨hlast, hafter⟩ := bounded_allowN hbounded hcheck hn
  have hpast' : ∀ j, (s.phase j).Past →
      (Function.update s.phase i (.returned (tb.allowN b s.now (calls i).n).1) j).Past := by
    intro j hj
    by_cases hji : j = i
    · subst hji
      simp only [Function.update_self]
      trivial
    · simp only [Function.update_of_ne hji]
      exact hj
  constructor
  · exact hs.waiting
  · intro j b' hb'
    by_cases hj : j = ref
    · subst hj
      simp only [Function.update_self, Option.some.injEq] at hb'
      subst hb'
      exact ⟨le_of_eq hlast, hafter.nonneg, hafter.le_burst⟩
    · simp only [Function.update_of_ne hj] at hb'
      exact hs.fits j b' hb'
  · intro j hj
    by_cases hji : j = i
    · subst hji
      simp only [Function.update_self] at hj
      cases hj
    · simp only [Function.update_of_ne hji] at hj
      simp only [Function.update_of_ne (ne_of_past hpast (Or.inr hj)).symm]
      exact hs.made j hj
  · intro j ref' hj
    by_cases hji : j = i
    · subst hji
      simp only [Function.update_self] at hj
      cases hj
    · simp only [Function.update_of_ne hji] at hj
      exact hs.found j ref' hj
  · intro key ref' hkey
    obtain ⟨hkey', hpast'', hbounded'⟩ := hs.listed key ref' hkey
    refine ⟨hkey', hpast' ref' hpast'', ?_⟩
    by_cases hne : ref' = ref
    · subst hne
      obtain rfl : (calls i).key = key := href.symm.trans hkey'
      simp only [Function.update_self, Option.some.injEq, exists_eq_left', grantedFor_cons_self,
        hlast]
      exact hafter
    · have hother : (calls i).key ≠ key := by
        rintro rfl
        apply hne
        apply Option.some.inj (hkey.symm.trans (hs.found i ref hfound))
      simp only [Function.update_of_ne hne, grantedFor_cons_of_ne hother]
      exact hbounded'
  · intro key hkey
    have hother : (calls i).key ≠ key := by
      rintro rfl
      rw [hs.found i ref hfound] at hkey
      cases hkey
    rw [grantedFor_cons_of_ne hother]
    exact hs.unlisted key hkey

theorem step_makeBucket {s : Limiter} {i : Nat} (h : s.phase i = .idle) :
  (limiter tb calls).step s (.makeBucket i) = some { s with
    heap := Function.update s.heap i (some (tb.newBucket s.now))
    phase := Function.update s.phase i .made }
  := by
  simp only [limiter, h]

theorem step_load {s : Limiter} {i ref : Nat} (h : s.phase i = .made)
    (href : s.buckets (calls i).key = some ref) :
  (limiter tb calls).step s (.loadOrStore i)
    = some { s with phase := Function.update s.phase i (.found ref) }
  := by
  simp only [limiter, h, href]

theorem step_store {s : Limiter} {i : Nat} (h : s.phase i = .made)
    (hnone : s.buckets (calls i).key = none) :
  (limiter tb calls).step s (.loadOrStore i) = some { s with
    buckets := Function.update s.buckets (calls i).key (some i)
    phase := Function.update s.phase i (.found i) }
  := by
  simp only [limiter, h, hnone]

theorem step_allow {s : Limiter} {i ref : Nat} {b : Bucket} (h : s.phase i = .found ref)
    (hb : s.heap ref = some b) :
  (limiter tb calls).step s (.allow i) = some { s with
    heap := Function.update s.heap ref (some (tb.allowN b s.now (calls i).n).2)
    phase := Function.update s.phase i (.returned (tb.allowN b s.now (calls i).n).1)
    answers :=
      { call := i, time := s.now, allowed := (tb.allowN b s.now (calls i).n).1 } :: s.answers }
  := by
  simp only [limiter, h, hb]

/-- What a step that is not one of the cleanup goroutine does. -/
theorem step_cases {s s₁ : Limiter} {a : LimiterStep} (ha : a.isCleanup = false)
    (h : (limiter tb calls).step s a = some s₁) :
  (∃ d, a = .elapse d ∧ s₁ = { s with now := s.now + d })
    ∨ (∃ i, a = .makeBucket i ∧ s.phase i = .idle ∧ s₁ = { s with
        heap := Function.update s.heap i (some (tb.newBucket s.now))
        phase := Function.update s.phase i .made })
    ∨ (∃ i ref, a = .loadOrStore i ∧ s.phase i = .made ∧ s.buckets (calls i).key = some ref
        ∧ s₁ = { s with phase := Function.update s.phase i (.found ref) })
    ∨ (∃ i, a = .loadOrStore i ∧ s.phase i = .made ∧ s.buckets (calls i).key = none
        ∧ s₁ = { s with
          buckets := Function.update s.buckets (calls i).key (some i)
          phase := Function.update s.phase i (.found i) })
    ∨ ∃ i ref b, a = .allow i ∧ s.phase i = .found ref ∧ s.heap ref = some b
        ∧ s₁ = { s with
          heap := Function.update s.heap ref (some (tb.allowN b s.now (calls i).n).2)
          phase := Function.update s.phase i (.returned (tb.allowN b s.now (calls i).n).1)
          answers :=
            { call := i, time := s.now, allowed := (tb.allowN b s.now (calls i).n).1 }
              :: s.answers }
  := by
  cases a with
  | elapse d =>
      obtain rfl := Option.some.inj h
      exact Or.inl ⟨d, rfl, rfl⟩
  | makeBucket i =>
      simp only [limiter] at h
      split at h
      · rename_i hidle
        obtain rfl := Option.some.inj h
        exact Or.inr (Or.inl ⟨i, rfl, hidle, rfl⟩)
      · cases h
  | loadOrStore i =>
      simp only [limiter] at h
      split at h
      · rename_i hmade
        split at h
        · rename_i ref href
          obtain rfl := Option.some.inj h
          exact Or.inr (Or.inr (Or.inl ⟨i, ref, rfl, hmade, href, rfl⟩))
        · rename_i hnone
          obtain rfl := Option.some.inj h
          exact Or.inr (Or.inr (Or.inr (Or.inl ⟨i, rfl, hmade, hnone, rfl⟩)))
      · cases h
  | allow i =>
      simp only [limiter] at h
      split at h
      · rename_i ref hfound
        split at h
        · rename_i b hb
          obtain rfl := Option.some.inj h
          exact Or.inr (Or.inr (Or.inr (Or.inr ⟨i, ref, b, rfl, hfound, hb, rfl⟩)))
        · cases h
      · cases h
  | cleanupTick => cases ha
  | cleanupRead key => cases ha
  | cleanupDelete => cases ha
  | cleanupDone => cases ha

/-- While the cleanup goroutine waits, only a tick is a step of it. -/
theorem isCleanup_eq_false {s s₁ : Limiter} {a : LimiterStep} (hwaiting : s.cleanup = .waiting)
    (ha : a ≠ .cleanupTick) (h : (limiter tb calls).step s a = some s₁) :
  a.isCleanup = false
  := by
  cases a with
  | cleanupTick => exact absurd rfl ha
  | cleanupRead key => simp [limiter, hwaiting] at h
  | cleanupDelete => simp [limiter, hwaiting] at h
  | cleanupDone => simp [limiter, hwaiting] at h
  | _ => rfl

/-- A step that does not wake the cleanup goroutine up keeps the limiter sound. -/
theorem Sound.step (htb : tb.Sound) (hn : ∀ i, 0 ≤ (calls i).n) {s s₁ : Limiter} {a : LimiterStep}
    (hs : s.Sound tb calls) (ha : a ≠ .cleanupTick) (h : (limiter tb calls).step s a = some s₁) :
  s₁.Sound tb calls
  := by
  obtain ⟨d, -, rfl⟩ | ⟨i, -, hidle, rfl⟩ | ⟨i, ref, -, -, href, rfl⟩ | ⟨i, -, hmade, hnone, rfl⟩
    | ⟨i, ref, b, -, hfound, hb, rfl⟩ := step_cases (isCleanup_eq_false hs.waiting ha h) h
  · apply hs.elapse
  · apply hs.makeBucket htb hidle
  · apply hs.load href
  · apply hs.store htb hmade hnone
  · apply hs.allow (hn i) hfound hb

/-- What is granted for a key within an interval is at most what a bucket holds and what the
rate adds during the interval. -/
theorem Sound.spent_le (htb : tb.Sound) {s : Limiter} (hs : s.Sound tb calls) (key : List UInt8)
    {t₁ t₂ : ℚ} (ht : t₁ ≤ t₂) :
  Budget.spent (grantedFor calls key s.answers) t₁ t₂ ≤ tb.burst + tb.rate * (t₂ - t₁)
  := by
  cases hkey : s.buckets key with
  | none =>
      rw [hs.unlisted key hkey]
      exact (Budget.bounded_full htb.rate_nonneg htb.burst_nonneg t₂).spent_le t₁ t₂ ht
  | some ref =>
      obtain ⟨-, -, b, -, hbounded⟩ := hs.listed key ref hkey
      exact hbounded.spent_le t₁ t₂ ht

/-! ### Calls on other keys -/

end Limiter

/-- The step is not one of a call on another key. -/
def LimiterStep.concerns (calls : Nat → LimitCall) (key : List UInt8) :
    LimiterStep → Bool
  | .makeBucket i | .loadOrStore i | .allow i => (calls i).key = key
  | .elapse _ | .cleanupTick | .cleanupRead _ | .cleanupDelete | .cleanupDone => true

/-- The answers to calls on a key. -/
def answersFor (calls : Nat → LimitCall) (key : List UInt8) (answers : List LimitAnswer) :
    List LimitAnswer :=
  answers.filter fun a => (calls a.call).key = key

namespace Limiter

/-- The second limiter looks to calls on the key like the first one, and has answered only
these. -/
structure Alike (calls : Nat → LimitCall) (key : List UInt8) (s s' : Limiter) : Prop where
  now : s'.now = s.now
  buckets : s'.buckets key = s.buckets key
  heap : ∀ i, (calls i).key = key → s'.heap i = s.heap i
  phase : ∀ i, (calls i).key = key → s'.phase i = s.phase i
  answers : s'.answers = answersFor calls key s.answers

/-- The second limiter is the first one without the calls on other keys. -/
structure Projects (tb : TokenBucket) (calls : Nat → LimitCall) (key : List UInt8)
    (s s' : Limiter) : Prop where
  sound : s.Sound tb calls
  waiting : s'.cleanup = .waiting
  alike : Alike calls key s s'

theorem projects_init (tb : TokenBucket) (calls : Nat → LimitCall) (key : List UInt8)
    (start : Nat) :
  Projects tb calls key (init start) (init start)
  := by
  refine ⟨sound_init tb calls start, rfl, rfl, rfl, ?_, ?_, rfl⟩
  · intro i _
    rfl
  · intro i _
    rfl

theorem ne_of_key {key : List UInt8} {i j : Nat} (hi : (calls i).key ≠ key)
    (hj : (calls j).key = key) :
  j ≠ i
  := by
  rintro rfl
  exact hi hj

/-- A step of a call on another key changes nothing that calls on this one see. -/
theorem Alike.of_other {key : List UInt8} {s s₁ s' : Limiter} {a : LimiterStep}
    (h : Alike calls key s s') (hs : s.Sound tb calls) (ha : a ≠ .cleanupTick)
    (hother : a.concerns calls key = false) (hstep : (limiter tb calls).step s a = some s₁) :
  Alike calls key s₁ s'
  := by
  obtain ⟨d, rfl, rfl⟩ | ⟨i, rfl, hidle, rfl⟩ | ⟨i, ref, rfl, -, href, rfl⟩
    | ⟨i, rfl, hmade, hnone, rfl⟩ | ⟨i, ref, b, rfl, hfound, hb, rfl⟩ :=
    step_cases (isCleanup_eq_false hs.waiting ha hstep) hstep
  · cases hother
  · have hkey : (calls i).key ≠ key := of_decide_eq_false hother
    constructor
    · exact h.now
    · exact h.buckets
    · intro j hj
      simp only [Function.update_of_ne (ne_of_key hkey hj)]
      exact h.heap j hj
    · intro j hj
      simp only [Function.update_of_ne (ne_of_key hkey hj)]
      exact h.phase j hj
    · exact h.answers
  · have hkey : (calls i).key ≠ key := of_decide_eq_false hother
    constructor
    · exact h.now
    · exact h.buckets
    · exact h.heap
    · intro j hj
      simp only [Function.update_of_ne (ne_of_key hkey hj)]
      exact h.phase j hj
    · exact h.answers
  · have hkey : (calls i).key ≠ key := of_decide_eq_false hother
    constructor
    · exact h.now
    · simp only [Function.update_of_ne hkey.symm]
      exact h.buckets
    · exact h.heap
    · intro j hj
      simp only [Function.update_of_ne (ne_of_key hkey hj)]
      exact h.phase j hj
    · exact h.answers
  · have hkey : (calls i).key ≠ key := of_decide_eq_false hother
    have href := (hs.bounded_of_found hfound).1
    constructor
    · exact h.now
    · exact h.buckets
    · intro j hj
      simp only [Function.update_of_ne (ne_of_key (href.trans_ne hkey) hj)]
      exact h.heap j hj
    · intro j hj
      simp only [Function.update_of_ne (ne_of_key hkey hj)]
      exact h.phase j hj
    · rw [h.answers, answersFor, answersFor, List.filter_cons_of_neg (by simpa using hkey)]

/-- A step that is not one of a call on another key can be taken in both limiters. -/
theorem Alike.of_concerns {key : List UInt8} {s s₁ s' : Limiter} {a : LimiterStep}
    (h : Alike calls key s s') (hs : s.Sound tb calls) (hs' : s'.cleanup = .waiting)
    (ha : a ≠ .cleanupTick) (hown : a.concerns calls key = true)
    (hstep : (limiter tb calls).step s a = some s₁) :
  ∃ s₁', (limiter tb calls).step s' a = some s₁' ∧ s₁'.cleanup = .waiting ∧ Alike calls key s₁ s₁'
  := by
  obtain ⟨d, rfl, rfl⟩ | ⟨i, rfl, hidle, rfl⟩ | ⟨i, ref, rfl, hmade, href, rfl⟩
    | ⟨i, rfl, hmade, hnone, rfl⟩ | ⟨i, ref, b, rfl, hfound, hb, rfl⟩ :=
    step_cases (isCleanup_eq_false hs.waiting ha hstep) hstep
  · refine ⟨{ s' with now := s'.now + d }, rfl, hs', ?_, h.buckets, h.heap, h.phase, h.answers⟩
    simp only [h.now]
  · have hkey : (calls i).key = key := of_decide_eq_true hown
    have hidle' := (h.phase i hkey).trans hidle
    refine ⟨_, step_makeBucket hidle', hs', h.now, h.buckets, ?_, ?_, h.answers⟩
    · intro j hj
      simp only [Function.update_apply, h.heap j hj, h.now]
    · intro j hj
      simp only [Function.update_apply, h.phase j hj]
  · have hkey : (calls i).key = key := of_decide_eq_true hown
    have hmade' := (h.phase i hkey).trans hmade
    have href' : s'.buckets (calls i).key = some ref := by
      rw [hkey, h.buckets, ← hkey, href]
    refine ⟨_, step_load hmade' href', hs', h.now, h.buckets, h.heap, ?_, h.answers⟩
    intro j hj
    simp only [Function.update_apply, h.phase j hj]
  · have hkey : (calls i).key = key := of_decide_eq_true hown
    have hmade' := (h.phase i hkey).trans hmade
    have hnone' : s'.buckets (calls i).key = none := by
      rw [hkey, h.buckets, ← hkey, hnone]
    refine ⟨_, step_store hmade' hnone', hs', h.now, ?_, h.heap, ?_, h.answers⟩
    · simp only [hkey, Function.update_self]
    · intro j hj
      simp only [Function.update_apply, h.phase j hj]
  · have hkey : (calls i).key = key := of_decide_eq_true hown
    have hfound' := (h.phase i hkey).trans hfound
    have hb' := (h.heap ref ((hs.bounded_of_found hfound).1.trans hkey)).trans hb
    refine ⟨_, step_allow hfound' hb', hs', h.now, h.buckets, ?_, ?_, ?_⟩
    · intro j hj
      simp only [Function.update_apply, h.heap j hj, h.now]
    · intro j hj
      simp only [Function.update_apply, h.phase j hj, h.now]
    · rw [h.answers, answersFor, answersFor, List.filter_cons_of_pos (by simpa using hkey), h.now]

end Limiter

/-- In every run of a rate limiter, with any calls for non-negative numbers of tokens at any
keys and no cleanup, what is granted for a key within an interval is at most what a bucket
holds and what the rate adds during the interval.  No bucket ever holds fewer tokens than none
or more than it can.  Leaving out all steps of calls on other keys leaves a run in which the
calls on the key get the same answers. -/
theorem admission_bound (rpm burst cleanupTTL : Int) (calls : Nat → LimitCall)
    (hn : ∀ i, 0 ≤ (calls i).n) (start : Nat) (as : List LimiterStep)
    (hcleanup : ∀ a ∈ as, a ≠ .cleanupTick) (s : Limiter)
    (hrun : (limiter (newTokenBucket rpm burst cleanupTTL) calls).run (Limiter.init start) as
      = some s) :
  (∀ (key : List UInt8) (t₁ t₂ : ℚ), t₁ ≤ t₂ →
      Budget.spent (grantedFor calls key s.answers) t₁ t₂
        ≤ (newTokenBucket rpm burst cleanupTTL).burst
          + (newTokenBucket rpm burst cleanupTTL).rate * (t₂ - t₁))
    ∧ (∀ i b, s.heap i = some b →
        0 ≤ b.tokens ∧ b.tokens ≤ (newTokenBucket rpm burst cleanupTTL).burst)
    ∧ ∀ key, ∃ s', (limiter (newTokenBucket rpm burst cleanupTTL) calls).run (Limiter.init start)
          (as.filter (LimiterStep.concerns calls key)) = some s'
        ∧ s'.answers = answersFor calls key s.answers
  := by
  have htb := sound_newTokenBucket rpm burst cleanupTTL
  generalize newTokenBucket rpm burst cleanupTTL = tb at htb hrun ⊢
  have hproject : ∀ key, ∃ s', (limiter tb calls).run (Limiter.init start)
        (as.filter (LimiterStep.concerns calls key)) = some s'
      ∧ Limiter.Projects tb calls key s s' := by
    intro key
    apply Machine.run_filter _ _ as (Machine.guarded_of_forall as fun a ha _ => hcleanup a ha)
      (Limiter.projects_init tb calls key start) hrun
    · rintro s a s₁ s' ha ⟨hs, hs', halike⟩ hown hstep
      obtain ⟨s₁', hstep', hwaiting, halike'⟩ := halike.of_concerns hs hs' ha hown hstep
      exact ⟨s₁', hstep', hs.step htb hn ha hstep, hwaiting, halike'⟩
    · rintro s a s₁ s' ha ⟨hs, hs', halike⟩ hother hstep
      exact ⟨hs.step htb hn ha hstep, hs', halike.of_other hs ha hother hstep⟩
  obtain ⟨-, -, hsound, -, -⟩ := hproject []
  refine ⟨?_, ?_, ?_⟩
  · intro key t₁ t₂ ht
    exact hsound.spent_le htb key ht
  · intro i b hb
    exact (hsound.fits i b hb).2
  · intro key
    obtain ⟨s', hrun', -, -, halike⟩ := hproject key
    exact ⟨s', hrun', halike.answers⟩

/-- Three calls for one token each on the key `a`, and calls on the key `b`. -/
def sampleCalls (i : Nat) : LimitCall where
  key := if i < 3 then [0x61] else [0x62]
  n := 1

/-- Two calls race for the bucket of `a`, a call on `b` comes in between, and a third call on
`a` comes half a second later. -/
def sampleLimiterSteps : List LimiterStep :=
  [.makeBucket 0, .makeBucket 1, .loadOrStore 1, .makeBucket 3, .loadOrStore 0, .allow 0,
    .loadOrStore 3, .allow 3, .allow 1, .elapse 500000000, .makeBucket 2, .loadOrStore 2, .allow 2]

/-- With two tokens in a bucket and one more each second, the first two calls on `a` are
allowed and the third is not: within the half second at most two tokens and a half are
granted. -/
theorem admission_bound_sample :
  ∃ s, (limiter (newTokenBucket 60 2 1) sampleCalls).run (Limiter.init 0) sampleLimiterSteps = some s
    ∧ s.answers.map (fun a => (a.call, a.allowed)) = [(2, false), (1, true), (3, true), (0, true)]
    ∧ Budget.spent (grantedFor sampleCalls [0x61] s.answers) 0 (1 / 2) ≤ 2 + 1 / 2
  := by
  have hanswers : ((limiter (newTokenBucket 60 2 1) sampleCalls).run (Limiter.init 0)
      sampleLimiterSteps).map (fun s => s.answers.map fun a => (a.call, a.allowed))
        = some [(2, false), (1, true), (3, true), (0, true)] := by
    decide +kernel
  obtain ⟨s, hs, hanswers'⟩ := Option.map_eq_some_iff.mp hanswers
  use s, hs, hanswers'
  have hbound := (admission_bound 60 2 1 sampleCalls (by intro i; exact Int.one_nonneg) 0
    sampleLimiterSteps (by simp [sampleLimiterSteps]) s hs).1 [0x61] 0 (1 / 2) (by norm_num)
  norm_num [newTokenBucket] at hbound ⊢
  exact hbound

end Paygate.Gateway
