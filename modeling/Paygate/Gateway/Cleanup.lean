import Paygate.Gateway.RateLimit

/-!
# Removing idle buckets

The cleanup goroutine of a rate limiter reads when a bucket was last checked, and some time
later removes the bucket of the key.  The next call on the key makes a full bucket.  Nothing of
this is seen if the bucket that is removed is full again and no call has found it without having
taken its tokens yet.  Otherwise the calls on the key may be granted more than a bucket holds.
-/

namespace Paygate.Gateway

/-! ### Full buckets -/

/-- The tokens in a bucket once those that are due are added. -/
def TokenBucket.refilled (tb : TokenBucket) (b : Bucket) (now : Nat) : ℚ :=
  min (tb.burst : ℚ) (b.tokens + durationSeconds (timeSub now b.lastCheck) * tb.rate)

/-- The locked section of a call refills the bucket and takes tokens from it. -/
theorem TokenBucket.allowN_eq (tb : TokenBucket) (b : Bucket) (now : Nat) (n : Int) :
  tb.allowN b now n
    = if n ≤ tb.refilled b now then (true, { tokens := tb.refilled b now - n, lastCheck := now })
      else (false, { tokens := tb.refilled b now, lastCheck := now })
  := rfl

/-- A bucket holds at most as many tokens as it can. -/
theorem TokenBucket.refilled_le (tb : TokenBucket) (b : Bucket) (now : Nat) :
  tb.refilled b now ≤ tb.burst
  := by
  unfold TokenBucket.refilled
  apply min_le_left

/-- The later it is, the longer it is since an earlier moment. -/
theorem timeSub_mono {t t' : Nat} (h : t ≤ t') (u : Nat) : timeSub t u ≤ timeSub t' u
  := by
  unfold timeSub
  omega

variable {tb : TokenBucket} {calls : Nat → LimitCall}

/-- The tokens in a bucket do not get fewer while none are taken. -/
theorem TokenBucket.refilled_mono (htb : tb.Sound) (b : Bucket) {t t' : Nat} (h : t ≤ t') :
  tb.refilled b t ≤ tb.refilled b t'
  := by
  have hseconds : durationSeconds (timeSub t b.lastCheck) ≤ durationSeconds (timeSub t' b.lastCheck) := by
    unfold durationSeconds
    apply div_le_div_of_nonneg_right _ (by norm_num)
    exact_mod_cast timeSub_mono h b.lastCheck
  apply min_le_min_left
  apply add_le_add_right
  exact mul_le_mul_of_nonneg_right hseconds htb.rate_nonneg

/-- A full bucket stays full while no tokens are taken. -/
theorem TokenBucket.refilled_full (htb : tb.Sound) {b : Bucket} {t t' : Nat} (h : t ≤ t')
    (hfull : tb.refilled b t = tb.burst) :
  tb.refilled b t' = tb.burst
  := by
  apply le_antisymm (tb.refilled_le b t')
  rw [← hfull]
  apply tb.refilled_mono htb b h

/-- A bucket that was made full is full. -/
theorem TokenBucket.refilled_new (htb : tb.Sound) {b : Bucket} {t : Nat} (hcheck : b.lastCheck ≤ t)
    (hfull : b.tokens = tb.burst) :
  tb.refilled b t = tb.burst
  := by
  have hadded := mul_nonneg (durationSeconds_timeSub hcheck).1 htb.rate_nonneg
  apply min_eq_left
  rw [hfull]
  linarith

/-! ### Removals that are not seen -/

/-- The bucket of the key is full again, and no call has found it without having taken its tokens
yet. -/
def Limiter.Dispensable (tb : TokenBucket) (s : Limiter) (key : List UInt8) : Prop :=
  ∀ ref, s.buckets key = some ref →
    (∀ i, s.phase i ≠ .found ref) ∧ ∀ b, s.heap ref = some b → tb.refilled b s.now = tb.burst

/-- The cleanup goroutine removes only buckets that are dispensable when it does. -/
def DispensableOnly (tb : TokenBucket) (s : Limiter) : LimiterStep → Prop
  | .cleanupDelete =>
      ∀ now visited key lastCheck, s.cleanup = .read now visited key lastCheck →
        tb.cleanupTTL < timeSub now lastCheck → s.Dispensable tb key
  | _ => True

/-- Calls that are as far, where the buckets they found may be different ones. -/
def CallPhase.SameAs : CallPhase → CallPhase → Prop
  | .idle, .idle | .made, .made | .found _, .found _ => True
  | .returned x, .returned y => x = y
  | _, _ => False

/-- The two buckets are alike from some time on. -/
def TokenBucket.AlikeFrom (tb : TokenBucket) (now : Nat) (b b' : Bucket) : Prop :=
  ∀ t, now ≤ t → tb.refilled b t = tb.refilled b' t

namespace Limiter

/-- The references to buckets are in order: a call that has found a bucket has found the one of
its key, which was made by a call on the key that has found one. -/
structure Linked (calls : Nat → LimitCall) (s : Limiter) : Prop where
  found : ∀ i ref, s.phase i = .found ref → s.buckets (calls i).key = some ref
  listed : ∀ key ref, s.buckets key = some ref → (calls ref).key = key ∧ (s.phase ref).Past

/-- The second limiter is the first one without the cleanup. -/
structure Twin (tb : TokenBucket) (calls : Nat → LimitCall) (s s' : Limiter) : Prop where
  now : s'.now = s.now
  answers : s'.answers = s.answers
  phase : ∀ i, (s.phase i).SameAs (s'.phase i)
  made : ∀ i, s.phase i = .made → ∃ b, s.heap i = some b ∧ s'.heap i = some b
    ∧ b.tokens = tb.burst ∧ b.lastCheck ≤ s.now
  linked : s.Linked calls
  linked' : s'.Linked calls
  listed : ∀ key ref, s.buckets key = some ref → ∃ ref' b b', s'.buckets key = some ref'
    ∧ s.heap ref = some b ∧ s'.heap ref' = some b' ∧ tb.AlikeFrom s.now b b'
  unlisted : ∀ key, s.buckets key = none → ∀ ref', s'.buckets key = some ref' →
    ∃ b', s'.heap ref' = some b' ∧ tb.refilled b' s.now = tb.burst

theorem twin_init (tb : TokenBucket) (calls : Nat → LimitCall) (start : Nat) :
  Twin tb calls (init start) (init start)
  := by
  have hlinked : (init start).Linked calls := by
    constructor
    · intro i ref h
      cases h
    · intro key ref h
      cases h
  constructor
  · rfl
  · rfl
  · intro i
    trivial
  · intro i h
    cases h
  · exact hlinked
  · exact hlinked
  · intro key ref h
    cases h
  · intro key _ ref h
    cases h

/-! ### The references to buckets -/

/-- A call that makes a bucket is not referred to. -/
theorem Linked.ne_of_idle {s : Limiter} (hs : s.Linked calls) {i : Nat} (hidle : s.phase i = .idle)
    {key : List UInt8} {ref : Nat} (href : s.buckets key = some ref) :
  ref ≠ i
  := ne_of_past (hs.listed key ref href).2 (Or.inl hidle)

theorem Linked.ne_of_made {s : Limiter} (hs : s.Linked calls) {i : Nat} (hmade : s.phase i = .made)
    {key : List UInt8} {ref : Nat} (href : s.buckets key = some ref) :
  ref ≠ i
  := ne_of_past (hs.listed key ref href).2 (Or.inr hmade)

/-- Buckets of two keys are two. -/
theorem Linked.key_inj {s : Limiter} (hs : s.Linked calls) {key key' : List UInt8} {ref : Nat}
    (h : s.buckets key = some ref) (h' : s.buckets key' = some ref) :
  key = key'
  := (hs.listed key ref h).1.symm.trans (hs.listed key' ref h').1

/-- A call that goes on to find the bucket of its key, or returns, keeps the references in
order. -/
theorem Linked.setPhase {s : Limiter} (hs : s.Linked calls) {i : Nat} {p : CallPhase} (hp : p.Past)
    (hfound : ∀ ref, p = .found ref → s.buckets (calls i).key = some ref) (heap : Nat → Option Bucket)
    (answers : List LimitAnswer) :
  Linked calls { s with heap := heap, phase := Function.update s.phase i p, answers := answers }
  := by
  constructor
  · intro j ref hj
    by_cases hji : j = i
    · subst hji
      simp only [Function.update_self] at hj
      exact hfound ref hj
    · simp only [Function.update_of_ne hji] at hj
      exact hs.found j ref hj
  · intro key ref href
    obtain ⟨hkey, hpast⟩ := hs.listed key ref href
    use hkey
    by_cases hri : ref = i
    · subst hri
      simp only [Function.update_self]
      exact hp
    · simp only [Function.update_of_ne hri]
      exact hpast

theorem Linked.makeBucket {s : Limiter} (hs : s.Linked calls) {i : Nat} (hidle : s.phase i = .idle)
    (heap : Nat → Option Bucket) :
  Linked calls { s with heap := heap, phase := Function.update s.phase i .made }
  := by
  constructor
  · intro j ref hj
    by_cases hji : j = i
    · subst hji
      simp only [Function.update_self] at hj
      cases hj
    · simp only [Function.update_of_ne hji] at hj
      exact hs.found j ref hj
  · intro key ref href
    simp only [Function.update_of_ne (hs.ne_of_idle hidle href)]
    exact hs.listed key ref href

theorem Linked.store {s : Limiter} (hs : s.Linked calls) {i : Nat} (hmade : s.phase i = .made)
    (hnone : s.buckets (calls i).key = none) :
  Linked calls { s with
    buckets := Function.update s.buckets (calls i).key (some i)
    phase := Function.update s.phase i (.found i) }
  := by
  constructor
  · intro j ref hj
    by_cases hji : j = i
    · subst hji
      simp only [Function.update_self, CallPhase.found.injEq] at hj ⊢
      rw [hj]
    · simp only [Function.update_of_ne hji] at hj
      have href := hs.found j ref hj
      have hkey : (calls j).key ≠ (calls i).key := by
        intro hkey
        rw [hkey, hnone] at href
        cases href
      simp only [Function.update_of_ne hkey]
      exact href
  · intro key ref href
    by_cases hkey : key = (calls i).key
    · subst hkey
      simp only [Function.update_self, Option.some.injEq] at href
      subst href
      simp only [Function.update_self]
      exact ⟨trivial, trivial⟩
    · simp only [Function.update_of_ne hkey] at href
      simp only [Function.update_of_ne (hs.ne_of_made hmade href)]
      exact hs.listed key ref href

/-! ### Steps of calls -/

theorem SameAs.update {p p' : Nat → CallPhase} (h : ∀ i, (p i).SameAs (p' i)) {i : Nat}
    {x x' : CallPhase} (hx : x.SameAs x') (j : Nat) :
  (Function.update p i x j).SameAs (Function.update p' i x' j)
  := by
  by_cases hj : j = i
  · subst hj
    simp only [Function.update_self]
    exact hx
  · simp only [Function.update_of_ne hj]
    exact h j

theorem SameAs.of_idle {p : CallPhase} (h : CallPhase.idle.SameAs p) : p = .idle
  := by
  cases p with
  | idle => rfl
  | _ => exact h.elim

theorem SameAs.of_made {p : CallPhase} (h : CallPhase.made.SameAs p) : p = .made
  := by
  cases p with
  | made => rfl
  | _ => exact h.elim

theorem SameAs.of_found {ref : Nat} {p : CallPhase} (h : (CallPhase.found ref).SameAs p) :
  ∃ ref', p = .found ref'
  := by
  cases p with
  | found ref' => exact ⟨ref', rfl⟩
  | _ => exact h.elim

/-- Time passes in both limiters. -/
theorem Twin.elapse (htb : tb.Sound) {s s' : Limiter} (h : Twin tb calls s s') (d : Nat) :
  Twin tb calls { s with now := s.now + d } { s' with now := s'.now + d }
  := by
  have hle : s.now ≤ s.now + d := Nat.le_add_right _ _
  constructor
  · simp only [h.now]
  · exact h.answers
  · exact h.phase
  · intro i hi
    obtain ⟨b, hb, hb', hfull, hcheck⟩ := h.made i hi
    exact ⟨b, hb, hb', hfull, hcheck.trans hle⟩
  · exact ⟨h.linked.found, h.linked.listed⟩
  · exact ⟨h.linked'.found, h.linked'.listed⟩
  · intro key ref href
    obtain ⟨ref', b, b', href', hb, hb', halike⟩ := h.listed key ref href
    use ref', b, b', href', hb, hb'
    intro t ht
    apply halike t (hle.trans ht)
  · intro key hkey ref' href'
    obtain ⟨b', hb', hfull⟩ := h.unlisted key hkey ref' href'
    use b', hb'
    apply TokenBucket.refilled_full htb hle hfull

/-- A call makes a bucket in both limiters. -/
theorem Twin.makeBucket {s s' : Limiter} (h : Twin tb calls s s') {i : Nat}
    (hidle : s.phase i = .idle) (hidle' : s'.phase i = .idle) :
  Twin tb calls
    { s with
      heap := Function.update s.heap i (some (tb.newBucket s.now))
      phase := Function.update s.phase i .made }
    { s' with
      heap := Function.update s'.heap i (some (tb.newBucket s'.now))
      phase := Function.update s'.phase i .made }
  := by
  constructor
  · exact h.now
  · exact h.answers
  · apply SameAs.update h.phase
    trivial
  · intro j hj
    by_cases hji : j = i
    · subst hji
      simp only [Function.update_self, h.now]
      exact ⟨_, rfl, rfl, rfl, le_rfl⟩
    · simp only [Function.update_of_ne hji] at hj ⊢
      exact h.made j hj
  · apply h.linked.makeBucket hidle
  · apply h.linked'.makeBucket hidle'
  · intro key ref href
    obtain ⟨ref', b, b', href', hb, hb', halike⟩ := h.listed key ref href
    use ref', b, b', href'
    simp only [Function.update_of_ne (h.linked.ne_of_idle hidle href),
      Function.update_of_ne (h.linked'.ne_of_idle hidle' href')]
    exact ⟨hb, hb', halike⟩
  · intro key hkey ref' href'
    simp only [Function.update_of_ne (h.linked'.ne_of_idle hidle' href')]
    exact h.unlisted key hkey ref' href'

/-- No call that has made a bucket is one that goes on. -/
theorem made_of_update {phase : Nat → CallPhase} {i j : Nat} {p : CallPhase} (hp : p ≠ .made)
    (hj : Function.update phase i p j = .made) :
  phase j = .made
  := by
  by_cases hji : j = i
  · subst hji
    simp only [Function.update_self] at hj
    exact absurd hj hp
  · simpa only [Function.update_of_ne hji] using hj

/-- A call finds a bucket in both limiters. -/
theorem Twin.load {s s' : Limiter} (h : Twin tb calls s s') {i ref ref' : Nat}
    (href : s.buckets (calls i).key = some ref) (href' : s'.buckets (calls i).key = some ref') :
  Twin tb calls { s with phase := Function.update s.phase i (.found ref) }
    { s' with phase := Function.update s'.phase i (.found ref') }
  := by
  constructor
  · exact h.now
  · exact h.answers
  · apply SameAs.update h.phase
    trivial
  · intro j hj
    exact h.made j (made_of_update (by simp) hj)
  · apply h.linked.setPhase
    · trivial
    · intro r hr
      rw [href, CallPhase.found.inj hr]
  · apply h.linked'.setPhase
    · trivial
    · intro r hr
      rw [href', CallPhase.found.inj hr]
  · exact h.listed
  · exact h.unlisted

/-- A call stores the bucket it made in both limiters. -/
theorem Twin.store {s s' : Limiter} (h : Twin tb calls s s') {i : Nat} (hmade : s.phase i = .made)
    (hmade' : s'.phase i = .made) (hnone : s.buckets (calls i).key = none)
    (hnone' : s'.buckets (calls i).key = none) :
  Twin tb calls
    { s with
      buckets := Function.update s.buckets (calls i).key (some i)
      phase := Function.update s.phase i (.found i) }
    { s' with
      buckets := Function.update s'.buckets (calls i).key (some i)
      phase := Function.update s'.phase i (.found i) }
  := by
  constructor
  · exact h.now
  · exact h.answers
  · apply SameAs.update h.phase
    trivial
  · intro j hj
    exact h.made j (made_of_update (by simp) hj)
  · apply h.linked.store hmade hnone
  · apply h.linked'.store hmade' hnone'
  · intro key ref href
    by_cases hkey : key = (calls i).key
    · subst hkey
      simp only [Function.update_self, Option.some.injEq] at href ⊢
      subst href
      obtain ⟨b, hb, hb', -, -⟩ := h.made i hmade
      use i, b, b, rfl, hb, hb'
      intro t _
      rfl
    · simp only [Function.update_of_ne hkey] at href ⊢
      exact h.listed key ref href
  · intro key hkey ref' href'
    by_cases heq : key = (calls i).key
    · subst heq
      simp only [Function.update_self] at hkey
      cases hkey
    · simp only [Function.update_of_ne heq] at hkey href'
      exact h.unlisted key hkey ref' href'

/-- A call stores the bucket it made where the bucket that was removed would be full. -/
theorem Twin.restore (htb : tb.Sound) {s s' : Limiter} (h : Twin tb calls s s') {i ref' : Nat}
    (hmade : s.phase i = .made) (hnone : s.buckets (calls i).key = none)
    (href' : s'.buckets (calls i).key = some ref') :
  Twin tb calls
    { s with
      buckets := Function.update s.buckets (calls i).key (some i)
      phase := Function.update s.phase i (.found i) }
    { s' with phase := Function.update s'.phase i (.found ref') }
  := by
  constructor
  · exact h.now
  · exact h.answers
  · apply SameAs.update h.phase
    trivial
  · intro j hj
    exact h.made j (made_of_update (by simp) hj)
  · apply h.linked.store hmade hnone
  · apply h.linked'.setPhase
    · trivial
    · intro r hr
      rw [href', CallPhase.found.inj hr]
  · intro key ref href
    by_cases hkey : key = (calls i).key
    · subst hkey
      simp only [Function.update_self, Option.some.injEq] at href
      subst href
      obtain ⟨b, hb, -, hfull, hcheck⟩ := h.made i hmade
      obtain ⟨b', hb', hfull'⟩ := h.unlisted _ hnone ref' href'
      use ref', b, b', href', hb, hb'
      intro t ht
      rw [TokenBucket.refilled_new htb (hcheck.trans ht) hfull,
        TokenBucket.refilled_full htb ht hfull']
    · simp only [Function.update_of_ne hkey] at href
      exact h.listed key ref href
  · intro key hkey r hr
    by_cases heq : key = (calls i).key
    · subst heq
      simp only [Function.update_self] at hkey
      cases hkey
    · simp only [Function.update_of_ne heq] at hkey
      exact h.unlisted key hkey r hr

/-- A call takes its tokens in both limiters. -/
theorem Twin.allow {s s' : Limiter} (h : Twin tb calls s s') {i ref ref' : Nat}
    (href : s.buckets (calls i).key = some ref) (href' : s'.buckets (calls i).key = some ref')
    (x : Bool × Bucket) :
  Twin tb calls
    { s with
      heap := Function.update s.heap ref (some x.2)
      phase := Function.update s.phase i (.returned x.1)
      answers := { call := i, time := s.now, allowed := x.1 } :: s.answers }
    { s' with
      heap := Function.update s'.heap ref' (some x.2)
      phase := Function.update s'.phase i (.returned x.1)
      answers := { call := i, time := s'.now, allowed := x.1 } :: s'.answers }
  := by
  constructor
  · exact h.now
  · simp only [h.now, h.answers]
  · apply SameAs.update h.phase
    rfl
  · intro j hj
    have hj := made_of_update (by simp) hj
    have hj' : s'.phase j = .made := SameAs.of_made (hj ▸ h.phase j)
    simp only [Function.update_of_ne (h.linked.ne_of_made hj href).symm,
      Function.update_of_ne (h.linked'.ne_of_made hj' href').symm]
    exact h.made j hj
  · apply h.linked.setPhase
    · trivial
    · intro r hr
      cases hr
  · apply h.linked'.setPhase
    · trivial
    · intro r hr
      cases hr
  · intro key r hr
    by_cases hkey : key = (calls i).key
    · subst hkey
      obtain rfl := Option.some.inj (href.symm.trans hr)
      use ref', x.2, x.2, href'
      simp only [Function.update_self, true_and]
      intro t _
      rfl
    · obtain ⟨r', c, c', hr', hc, hc', halike⟩ := h.listed key r hr
      have hne : r ≠ ref := by
        rintro rfl
        exact hkey (h.linked.key_inj hr href)
      have hne' : r' ≠ ref' := by
        rintro rfl
        exact hkey (h.linked'.key_inj hr' href')
      use r', c, c', hr'
      simp only [Function.update_of_ne hne, Function.update_of_ne hne']
      exact ⟨hc, hc', halike⟩
  · intro key hkey r' hr'
    have hne' : r' ≠ ref' := by
      rintro rfl
      rw [h.linked'.key_inj hr' href', href] at hkey
      cases hkey
    simp only [Function.update_of_ne hne']
    exact h.unlisted key hkey r' hr'

/-- A step of a call can be taken in both limiters. -/
theorem Twin.step (htb : tb.Sound) {s s₁ s' : Limiter} {a : LimiterStep} (h : Twin tb calls s s')
    (ha : a.isCleanup = false) (hstep : (limiter tb calls).step s a = some s₁) :
  ∃ s₁', (limiter tb calls).step s' a = some s₁' ∧ Twin tb calls s₁ s₁'
  := by
  obtain ⟨d, rfl, rfl⟩ | ⟨i, rfl, hidle, rfl⟩ | ⟨i, ref, rfl, hmade, href, rfl⟩
    | ⟨i, rfl, hmade, hnone, rfl⟩ | ⟨i, ref, b, rfl, hfound, hb, rfl⟩ := step_cases ha hstep
  · exact ⟨_, rfl, h.elapse htb d⟩
  · have hidle' := SameAs.of_idle (hidle ▸ h.phase i)
    exact ⟨_, step_makeBucket hidle', h.makeBucket hidle hidle'⟩
  · have hmade' := SameAs.of_made (hmade ▸ h.phase i)
    obtain ⟨ref', -, -, href', -, -, -⟩ := h.listed _ ref href
    exact ⟨_, step_load hmade' href', h.load href href'⟩
  · have hmade' := SameAs.of_made (hmade ▸ h.phase i)
    cases hkey : s'.buckets (calls i).key with
    | none => exact ⟨_, step_store hmade' hkey, h.store hmade hmade' hnone hkey⟩
    | some ref' => exact ⟨_, step_load hmade' hkey, h.restore htb hmade hnone hkey⟩
  · obtain ⟨ref', hfound'⟩ := SameAs.of_found (hfound ▸ h.phase i)
    have href := h.linked.found i ref hfound
    have href' := h.linked'.found i ref' hfound'
    obtain ⟨r', c, c', hr', hc, hc', halike⟩ := h.listed _ ref href
    obtain rfl := Option.some.inj (href'.symm.trans hr')
    obtain rfl := Option.some.inj (hb.symm.trans hc)
    have hsame : tb.allowN c' s'.now (calls i).n = tb.allowN b s.now (calls i).n := by
      rw [TokenBucket.allowN_eq, TokenBucket.allowN_eq, h.now, halike s.now le_rfl]
    refine ⟨_, step_allow hfound' hc', ?_⟩
    rw [hsame]
    exact h.allow href href' _

/-! ### Steps of the cleanup goroutine -/

/-- How far the cleanup goroutine has come makes no difference. -/
theorem Twin.setCleanup {s s' : Limiter} (h : Twin tb calls s s') (c : CleanupPhase) :
  Twin tb calls { s with cleanup := c } s'
  := ⟨h.now, h.answers, h.phase, h.made, ⟨h.linked.found, h.linked.listed⟩, h.linked', h.listed,
    h.unlisted⟩

/-- A dispensable bucket is removed. -/
theorem Twin.remove {s s' : Limiter} (h : Twin tb calls s s') {key : List UInt8}
    (hkey : s.Dispensable tb key) :
  Twin tb calls { s with buckets := Function.update s.buckets key none } s'
  := by
  constructor
  · exact h.now
  · exact h.answers
  · exact h.phase
  · exact h.made
  · constructor
    · intro i ref hi
      have href := h.linked.found i ref hi
      have hne : (calls i).key ≠ key := by
        rintro rfl
        exact (hkey ref href).1 i hi
      simp only [Function.update_of_ne hne]
      exact href
    · intro k ref href
      by_cases hk : k = key
      · subst hk
        simp only [Function.update_self] at href
        cases href
      · simp only [Function.update_of_ne hk] at href
        exact h.linked.listed k ref href
  · exact h.linked'
  · intro k ref href
    by_cases hk : k = key
    · subst hk
      simp only [Function.update_self] at href
      cases href
    · simp only [Function.update_of_ne hk] at href
      exact h.listed k ref href
  · intro k hnone ref' href'
    by_cases hk : k = key
    · subst hk
      cases hold : s.buckets k with
      | none => exact h.unlisted k hold ref' href'
      | some ref =>
          obtain ⟨r', b, b', hr', hb, hb', halike⟩ := h.listed k ref hold
          obtain rfl := Option.some.inj (href'.symm.trans hr')
          use b', hb'
          rw [← halike s.now le_rfl]
          exact (hkey ref hold).2 b hb
    · simp only [Function.update_of_ne hk] at hnone
      exact h.unlisted k hnone ref' href'

/-- A step of the cleanup goroutine is not seen. -/
theorem Twin.cleanup {s s₁ s' : Limiter} {a : LimiterStep} (h : Twin tb calls s s')
    (hsafe : DispensableOnly tb s a) (ha : a.isCleanup = true)
    (hstep : (limiter tb calls).step s a = some s₁) :
  Twin tb calls s₁ s'
  := by
  cases a with
  | cleanupTick =>
      simp only [limiter] at hstep
      split at hstep
      · obtain rfl := Option.some.inj hstep
        exact h.setCleanup _
      · cases hstep
  | cleanupRead key =>
      simp only [limiter] at hstep
      split at hstep
      · split at hstep
        · cases hstep
        · obtain rfl := Option.some.inj hstep
          exact h.setCleanup _
      · cases hstep
  | cleanupDelete =>
      simp only [limiter] at hstep
      split at hstep
      · rename_i now visited key lastCheck hread
        obtain rfl := Option.some.inj hstep
        split
        · rename_i hidle
          exact (h.remove (hsafe now visited key lastCheck hread hidle)).setCleanup _
        · exact h.setCleanup _
      · cases hstep
  | cleanupDone =>
      simp only [limiter] at hstep
      split at hstep
      · obtain rfl := Option.some.inj hstep
        exact h.setCleanup _
      · cases hstep
  | _ => cases ha

/-- A limiter whose cleanup goroutine is never woken up is sound. -/
theorem sound_of_run (htb : tb.Sound) (hn : ∀ i, 0 ≤ (calls i).n) {start : Nat}
    {as : List LimiterStep} (has : ∀ a ∈ as, a ≠ .cleanupTick) {s : Limiter}
    (hrun : (limiter tb calls).run (init start) as = some s) :
  s.Sound tb calls
  := by
  apply Machine.run_invariant _ as (sound_init tb calls start)
    (Machine.guarded_of_forall as fun a ha _ => has a ha) hrun
  intro s a s₁ hs ha hstep
  exact hs.step htb hn ha hstep

end Limiter

/-- In every run of a rate limiter in which the cleanup goroutine removes only dispensable
buckets, the calls get the answers they get in the run without the cleanup, and what is granted
for a key within an interval is at most what a bucket holds and what the rate adds during the
interval. -/
theorem cleanup_invisible (rpm burst cleanupTTL : Int) (calls : Nat → LimitCall) (start : Nat)
    (as : List LimiterStep) (s : Limiter)
    (hrun : (limiter (newTokenBucket rpm burst cleanupTTL) calls).run (Limiter.init start) as = some s)
    (hsafe : (limiter (newTokenBucket rpm burst cleanupTTL) calls).Guarded
      (DispensableOnly (newTokenBucket rpm burst cleanupTTL)) (Limiter.init start) as) :
  (∃ s', (limiter (newTokenBucket rpm burst cleanupTTL) calls).run (Limiter.init start)
        (as.filter fun a => !a.isCleanup) = some s'
      ∧ s'.answers = s.answers)
    ∧ ((∀ i, 0 ≤ (calls i).n) → ∀ (key : List UInt8) (t₁ t₂ : ℚ), t₁ ≤ t₂ →
        Budget.spent (grantedFor calls key s.answers) t₁ t₂
          ≤ (newTokenBucket rpm burst cleanupTTL).burst
            + (newTokenBucket rpm burst cleanupTTL).rate * (t₂ - t₁))
  := by
  have htb := sound_newTokenBucket rpm burst cleanupTTL
  generalize newTokenBucket rpm burst cleanupTTL = tb at htb hrun hsafe ⊢
  have htwin : ∃ s', (limiter tb calls).run (Limiter.init start)
        (as.filter fun a => !a.isCleanup) = some s'
      ∧ Limiter.Twin tb calls s s' := by
    apply Machine.run_filter _ _ as hsafe (Limiter.twin_init tb calls start) hrun
    · intro s a s₁ s' _ h hkeep hstep
      exact h.step htb (by simpa using hkeep) hstep
    · intro s a s₁ s' hguard h hdrop hstep
      exact h.cleanup hguard (by simpa using hdrop) hstep
  obtain ⟨s', hrun', htwin⟩ := htwin
  constructor
  · use s', hrun', htwin.answers
  · intro hn key t₁ t₂ ht
    have hsound : s'.Sound tb calls := by
      apply Limiter.sound_of_run htb hn _ hrun'
      intro a ha
      rintro rfl
      simp [LimiterStep.isCleanup] at ha
    rw [← htwin.answers]
    exact hsound.spent_le htb key ht

/-- Calls for one token each on one key. -/
def oneKeyCalls (_ : Nat) : LimitCall where
  key := [0x61]
  n := 1

/-- A call takes the token of a bucket.  Five minutes and a second later the cleanup goroutine
reads when the bucket was last checked. -/
def beforeRemoval : List LimiterStep :=
  [.makeBucket 0, .loadOrStore 0, .allow 0, .elapse 301000000000, .cleanupTick, .cleanupRead [0x61]]

/-- It removes the bucket, and a second call takes a token. -/
def afterRemoval : List LimiterStep :=
  [.cleanupDone, .makeBucket 1, .loadOrStore 1, .allow 1]

/-- The bucket that is removed then is dispensable. -/
theorem dispensableOnly_sample :
  (limiter (newTokenBucket 10 1 300000000000) oneKeyCalls).Guarded
    (DispensableOnly (newTokenBucket 10 1 300000000000)) (Limiter.init 0)
    (beforeRemoval ++ .cleanupDelete :: afterRemoval)
  := by
  apply Machine.Guarded.append
  · apply Machine.guarded_of_forall
    simp [beforeRemoval, DispensableOnly]
  · intro s hs
    obtain rfl := Option.some.inj hs
    constructor
    · intro now visited key lastCheck hread _ ref href
      obtain ⟨-, -, rfl, -⟩ := CleanupPhase.read.inj hread
      obtain rfl := Option.some.inj href
      constructor
      · intro i hi
        by_cases hzero : i = 0
        · subst hzero
          cases hi
        · simp [Limiter.init, hzero] at hi
      · intro b hb
        obtain rfl := Option.some.inj hb
        decide +kernel
    · intro s _
      apply Machine.guarded_of_forall
      simp [afterRemoval, DispensableOnly]

/-- The second call gets the same answer as without the cleanup. -/
theorem cleanup_invisible_sample :
  ∃ s s', (limiter (newTokenBucket 10 1 300000000000) oneKeyCalls).run (Limiter.init 0)
      (beforeRemoval ++ .cleanupDelete :: afterRemoval) = some s
    ∧ (limiter (newTokenBucket 10 1 300000000000) oneKeyCalls).run (Limiter.init 0)
        ((beforeRemoval ++ .cleanupDelete :: afterRemoval).filter fun a => !a.isCleanup) = some s'
    ∧ s.answers.map (fun a => (a.call, a.allowed)) = [(1, true), (0, true)]
    ∧ s'.answers = s.answers
  := by
  have hanswers : ((limiter (newTokenBucket 10 1 300000000000) oneKeyCalls).run (Limiter.init 0)
      (beforeRemoval ++ .cleanupDelete :: afterRemoval)).map
        (fun s => s.answers.map fun a => (a.call, a.allowed)) = some [(1, true), (0, true)] := by
    decide +kernel
  obtain ⟨s, hs, hanswers'⟩ := Option.map_eq_some_iff.mp hanswers
  obtain ⟨⟨s', hs', hsame⟩, -⟩ := cleanup_invisible 10 1 300000000000 oneKeyCalls 0 _ s hs
    dispensableOnly_sample
  use s, s', hs, hs', hanswers', hsame

/-- A call takes the token of a bucket.  Five minutes and a second later the bucket is removed
while a second call waits for its lock, and then two more tokens are taken. -/
def cleanupRace : List LimiterStep :=
  [.makeBucket 0, .loadOrStore 0, .allow 0, .elapse 301000000000, .makeBucket 1, .loadOrStore 1,
    .cleanupTick, .cleanupRead [0x61], .cleanupDelete, .cleanupDone, .allow 1, .makeBucket 2,
    .loadOrStore 2, .allow 2]

/-- The cleanup lets two calls take a token at once from a bucket that holds one: the bucket the
first of them has found is removed before it takes the token, and the other makes a new one.
Without the cleanup the other is refused. -/
theorem removed_bucket_taken_from :
  ∃ s s', (limiter (newTokenBucket 10 1 300000000000) oneKeyCalls).run (Limiter.init 0) cleanupRace
      = some s
    ∧ (limiter (newTokenBucket 10 1 300000000000) oneKeyCalls).run (Limiter.init 0)
        (cleanupRace.filter fun a => !a.isCleanup) = some s'
    ∧ s.answers.map (fun a => (a.call, a.allowed)) = [(2, true), (1, true), (0, true)]
    ∧ s'.answers.map (fun a => (a.call, a.allowed)) = [(2, false), (1, true), (0, true)]
    ∧ ¬ Budget.spent (grantedFor oneKeyCalls [0x61] s.answers) 301 301
        ≤ (newTokenBucket 10 1 300000000000).burst
          + (newTokenBucket 10 1 300000000000).rate * (301 - 301)
  := by
  have hrun : ((limiter (newTokenBucket 10 1 300000000000) oneKeyCalls).run (Limiter.init 0)
      cleanupRace).map Limiter.answers
        = some [⟨2, 301000000000, true⟩, ⟨1, 301000000000, true⟩, ⟨0, 0, true⟩] := by
    decide +kernel
  have hrun' : ((limiter (newTokenBucket 10 1 300000000000) oneKeyCalls).run (Limiter.init 0)
      (cleanupRace.filter fun a => !a.isCleanup)).map Limiter.answers
        = some [⟨2, 301000000000, false⟩, ⟨1, 301000000000, true⟩, ⟨0, 0, true⟩] := by
    decide +kernel
  obtain ⟨s, hs, hanswers⟩ := Option.map_eq_some_iff.mp hrun
  obtain ⟨s', hs', hanswers'⟩ := Option.map_eq_some_iff.mp hrun'
  use s, s', hs, hs'
  rw [hanswers, hanswers']
  refine ⟨rfl, rfl, ?_⟩
  decide +kernel

end Paygate.Gateway
