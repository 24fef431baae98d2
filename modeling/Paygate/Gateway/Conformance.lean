import Paygate.Gateway.Remaining

/-!
# Clients that are never refused

A rate limiter grants no more than its buckets hold and its rate adds.  It also refuses no more
than it must: the calls on a key are all allowed exactly if what they ask for, within every
interval, is at most what a bucket holds and what the rate adds during the interval
(`all_allowed_iff`).  What others ask for does not matter.
-/

namespace Paygate.Gateway

variable {tb : TokenBucket} {calls : Nat → LimitCall} {key : List UInt8}

/-- What the calls on a key have asked for, whether they were allowed or not. -/
def askedFor (calls : Nat → LimitCall) (key : List UInt8) (answers : List LimitAnswer) :
    List (Budget.Withdrawal ℚ) :=
  (answersFor calls key answers).map fun a => withdrawalOf a.time (calls a.call).n

/-- What is granted is what the calls that were allowed have asked for. -/
theorem grantedFor_eq (calls : Nat → LimitCall) (key : List UInt8) (answers : List LimitAnswer) :
  grantedFor calls key answers
    = ((answersFor calls key answers).filter LimitAnswer.allowed).map fun a =>
        withdrawalOf a.time (calls a.call).n
  := by
  rw [grantedFor, answersFor, List.filter_filter]
  simp only [Bool.decide_and, Bool.decide_eq_true]

/-- If all calls on the key are allowed, all they ask for is granted. -/
theorem grantedFor_of_allowed {answers : List LimitAnswer}
    (h : ∀ a ∈ answersFor calls key answers, a.allowed = true) :
  grantedFor calls key answers = askedFor calls key answers
  := by
  rw [grantedFor_eq, List.filter_eq_self.mpr h, askedFor]

/-- Time since an earlier moment is what it is, unless it is too long for a duration. -/
theorem timeSub_eq {t u : Nat} (h : u ≤ t) (ht : t < 2 ^ 63) : timeSub t u = (t : Int) - u
  := by
  unfold timeSub
  omega

/-- A bucket with exactly the tokens that are left has these also once it is refilled. -/
theorem TokenBucket.tight_refilled {l : List (Budget.Withdrawal ℚ)} {b : Bucket} {now : Nat}
    (h : Budget.Tight (tb.burst : ℚ) tb.rate l b.tokens (durationSeconds b.lastCheck))
    (hnow : b.lastCheck ≤ now) (hclock : now < 2 ^ 63) :
  Budget.Tight (tb.burst : ℚ) tb.rate l (tb.refilled b now) (durationSeconds now)
  := by
  have hle : durationSeconds b.lastCheck ≤ durationSeconds now := by
    unfold durationSeconds
    have : ((b.lastCheck : Int) : ℚ) ≤ ((now : Int) : ℚ) := by exact_mod_cast hnow
    linarith
  have hadded : durationSeconds (timeSub now b.lastCheck) * tb.rate
      = tb.rate * (durationSeconds now - durationSeconds b.lastCheck) := by
    rw [timeSub_eq hnow hclock]
    unfold durationSeconds
    push_cast
    ring
  have hrefilled := h.refill hle
  rw [← hadded] at hrefilled
  exact hrefilled

namespace Limiter

/-- The bucket of the key has exactly the tokens that are left, and if no call on the key asked for
too much, all were allowed. -/
structure Exact (tb : TokenBucket) (calls : Nat → LimitCall) (key : List UInt8) (s : Limiter) :
    Prop where
  sound : s.Sound tb calls
  tight : ∀ b, s.bucketOf key = some b →
    Budget.Tight (tb.burst : ℚ) tb.rate (grantedFor calls key s.answers) b.tokens
      (durationSeconds b.lastCheck)
  allowed : Budget.Conforms (tb.burst : ℚ) tb.rate (askedFor calls key s.answers) →
    ∀ a ∈ answersFor calls key s.answers, a.allowed = true

theorem exact_init (tb : TokenBucket) (calls : Nat → LimitCall) (key : List UInt8) (start : Nat) :
  (init start).Exact tb calls key
  := by
  constructor
  · apply sound_init
  · intro b h
    cases h
  · intro _ a ha
    cases ha

/-- While there is no bucket for the key, nothing was granted for it. -/
theorem Sound.grantedFor_of_none {s : Limiter} (hs : s.Sound tb calls) (h : s.bucketOf key = none) :
  grantedFor calls key s.answers = []
  := hs.unlisted key (hs.bucketOf_eq_none.mp h)

/-- A call on the key takes its tokens. -/
theorem Exact.allow {s : Limiter} (hs : s.Exact tb calls key) (hclock : s.now < 2 ^ 63) {i : Nat}
    {b : Bucket} (hn : 0 ≤ (calls i).n) (hkey : (calls i).key = key) (hb : s.bucketOf key = some b)
    {s₁ : Limiter} (hsound : s₁.Sound tb calls)
    (hb₁ : s₁.bucketOf key = some (tb.allowN b s.now (calls i).n).2)
    (hanswers : s₁.answers
      = { call := i, time := s.now, allowed := (tb.allowN b s.now (calls i).n).1 } :: s.answers) :
  s₁.Exact tb calls key
  := by
  have hrefilled := TokenBucket.tight_refilled (hs.tight b hb) (hs.sound.fits_of_bucketOf hb).1 hclock
  have hn' : (0 : ℚ) ≤ ((calls i).n : ℚ) := by exact_mod_cast hn
  subst hkey
  constructor
  · exact hsound
  · intro b₁ h₁
    obtain rfl := Option.some.inj (hb₁.symm.trans h₁)
    rw [hanswers, grantedFor_cons_self, TokenBucket.allowN_eq]
    split
    · exact hrefilled.withdraw hn'
    · exact hrefilled
  · rw [hanswers, askedFor, answersFor_cons_self rfl, List.map_cons]
    intro hconforms
    have hbefore := hs.allowed (hconforms.tail hn')
    have hgranted := grantedFor_of_allowed hbefore
    rw [hgranted] at hrefilled
    have henough := hrefilled.le_left hconforms
    rw [TokenBucket.allowN_eq, if_pos henough]
    exact List.forall_mem_cons.mpr ⟨rfl, hbefore⟩

/-- Every step that is not one of the cleanup goroutine keeps the tokens exact. -/
theorem Exact.step (htb : tb.Sound) (hn : ∀ i, 0 ≤ (calls i).n) {s s₁ : Limiter} {a : LimiterStep}
    (hs : s.Exact tb calls key) (hclock : s.now < 2 ^ 63) (ha : a.isCleanup = false)
    (h : (limiter tb calls).step s a = some s₁) :
  s₁.Exact tb calls key
  := by
  have hsound : s₁.Sound tb calls := by
    apply hs.sound.step htb hn _ h
    rintro rfl
    cases ha
  obtain ⟨i, b, -, hkey, hb, hb₁, -, -, hanswers⟩ | ⟨-, hsame, hbucket⟩
    := hs.sound.bucketOf_step ha h key
  · exact hs.allow hclock (hn i) hkey hb hsound hb₁ hanswers
  · have hgranted : grantedFor calls key s₁.answers = grantedFor calls key s.answers := by
      rw [grantedFor_eq, grantedFor_eq, hsame]
    constructor
    · exact hsound
    · intro b hb
      rw [hgranted]
      obtain hkept | ⟨hnone, b₁, hb₁, hfull, -⟩ := hbucket
      · exact hs.tight b (hkept ▸ hb)
      · obtain rfl := Option.some.inj (hb₁.symm.trans hb)
        rw [hs.sound.grantedFor_of_none hnone, hfull]
        apply Budget.tight_full
    · rw [askedFor, hsame]
      exact hs.allowed

/-- Time does not run backwards. -/
theorem now_le_step {s s₁ : Limiter} {a : LimiterStep} (ha : a.isCleanup = false)
    (h : (limiter tb calls).step s a = some s₁) :
  s.now ≤ s₁.now
  := by
  obtain ⟨d, rfl, rfl⟩ | ⟨i, rfl, _, rfl⟩ | ⟨i, ref, rfl, _, _, rfl⟩ | ⟨i, rfl, _, _, rfl⟩
    | ⟨i, ref, b, rfl, _, _, rfl⟩ := step_cases ha h
  · exact Nat.le_add_right _ _
  all_goals exact le_rfl

/-- A run without cleanup keeps the tokens exact as long as times are representable. -/
theorem exact_of_run (htb : tb.Sound) (hn : ∀ i, 0 ≤ (calls i).n) {start : Nat}
    {as : List LimiterStep} (has : ∀ a ∈ as, a.isCleanup = false) {s : Limiter}
    (hrun : (limiter tb calls).run (init start) as = some s) (hclock : s.now < 2 ^ 63) :
  s.Exact tb calls key
  := by
  have hinv : s.now < 2 ^ 63 → s.Exact tb calls key := by
    apply Machine.run_invariant _ as (fun _ => exact_init tb calls key start)
      (Machine.guarded_of_forall as fun a ha _ => has a ha) hrun
    intro s a s₁ hs ha hstep hclock
    have hbefore := (now_le_step ha hstep).trans_lt hclock
    exact (hs hbefore).step htb hn hbefore ha hstep
  exact hinv hclock

end Limiter

/-- In every run of a rate limiter in which the cleanup goroutine removes only dispensable
buckets, as long as times can be told apart, all calls on a key so far were allowed exactly if
what they asked for within every interval is at most what a bucket holds and what the rate adds
during the interval. -/
theorem all_allowed_iff (rpm burst cleanupTTL : Int) (calls : Nat → LimitCall)
    (hn : ∀ i, 0 ≤ (calls i).n) (start : Nat) (as : List LimiterStep) (s : Limiter)
    (hrun : (limiter (newTokenBucket rpm burst cleanupTTL) calls).run (Limiter.init start) as = some s)
    (hsafe : (limiter (newTokenBucket rpm burst cleanupTTL) calls).Guarded
      (DispensableOnly (newTokenBucket rpm burst cleanupTTL)) (Limiter.init start) as)
    (hclock : s.now < 2 ^ 63) (key : List UInt8) :
  (∀ a ∈ answersFor calls key s.answers, a.allowed = true)
    ↔ Budget.Conforms ((newTokenBucket rpm burst cleanupTTL).burst : ℚ)
        (newTokenBucket rpm burst cleanupTTL).rate (askedFor calls key s.answers)
  := by
  have htb := sound_newTokenBucket rpm burst cleanupTTL
  generalize newTokenBucket rpm burst cleanupTTL = tb at htb hrun hsafe ⊢
  have htwin : ∃ l, (limiter tb calls).run (Limiter.init start)
        (as.filter fun a => !a.isCleanup) = some l
      ∧ Limiter.Twin tb calls s l := by
    apply Machine.run_filter _ _ as hsafe (Limiter.twin_init tb calls start) hrun
    · intro s a s₁ l _ h hkeep hstep
      exact h.step htb (by simpa using hkeep) hstep
    · intro s a s₁ l hguard h hdrop hstep
      exact h.cleanup hguard (by simpa using hdrop) hstep
  obtain ⟨l, hl, htwin⟩ := htwin
  have hexact : l.Exact tb calls key := by
    apply Limiter.exact_of_run htb hn _ hl
    · rw [htwin.now]
      exact hclock
    · intro a ha
      simpa using (List.mem_filter.mp ha).2
  rw [← htwin.answers]
  constructor
  · intro hallowed t₁ t₂ ht
    rw [← grantedFor_of_allowed hallowed]
    exact hexact.sound.spent_le htb key ht
  · exact hexact.allowed

/-- With two tokens in a bucket and one more each second, the third call on `a` within half a second
asks for too much, and the call on `b` does not. -/
theorem all_allowed_iff_sample :
  ∃ s, (limiter (newTokenBucket 60 2 1) sampleCalls).run (Limiter.init 0) sampleLimiterSteps = some s
    ∧ ¬ Budget.Conforms ((newTokenBucket 60 2 1).burst : ℚ) (newTokenBucket 60 2 1).rate
        (askedFor sampleCalls [0x61] s.answers)
    ∧ Budget.Conforms ((newTokenBucket 60 2 1).burst : ℚ) (newTokenBucket 60 2 1).rate
        (askedFor sampleCalls [0x62] s.answers)
  := by
  have hvalues : ((limiter (newTokenBucket 60 2 1) sampleCalls).run (Limiter.init 0)
      sampleLimiterSteps).map (fun s => (s.now, (answersFor sampleCalls [0x61] s.answers).map
        LimitAnswer.allowed, (answersFor sampleCalls [0x62] s.answers).map LimitAnswer.allowed))
      = some (500000000, [false, true, true], [true]) := by
    decide +kernel
  obtain ⟨s, hs, hvalues⟩ := Option.map_eq_some_iff.mp hvalues
  simp only [Prod.mk.injEq] at hvalues
  obtain ⟨hnow, ha, hb⟩ := hvalues
  have hsafe : (limiter (newTokenBucket 60 2 1) sampleCalls).Guarded
      (DispensableOnly (newTokenBucket 60 2 1)) (Limiter.init 0) sampleLimiterSteps := by
    apply Machine.guarded_of_forall
    simp [sampleLimiterSteps, DispensableOnly]
  have hiff := all_allowed_iff 60 2 1 sampleCalls (fun _ => Int.one_nonneg) 0 sampleLimiterSteps s hs
    hsafe (by rw [hnow]; decide)
  have hof : ∀ key, (∀ a ∈ answersFor sampleCalls key s.answers, a.allowed = true)
      ↔ ∀ x ∈ (answersFor sampleCalls key s.answers).map LimitAnswer.allowed, x = true := by
    intro key
    rw [List.forall_mem_map]
  refine ⟨s, hs, ?_, ?_⟩
  · rw [← hiff, hof, ha]
    decide
  · rw [← hiff, hof, hb]
    decide

end Paygate.Gateway
