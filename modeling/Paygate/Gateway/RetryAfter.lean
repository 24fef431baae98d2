import Paygate.Gateway.Remaining

/-!
# When to retry

A client that is refused is told after how many seconds to retry: the difference between the whole
seconds of the time when its bucket is full and the whole seconds of the time when this is computed,
and at least one.  A retry after that many seconds is granted exactly if the part of a token that
was missing arrives within a second, or within that difference.  If a bucket holds one token only,
the fractions of the seconds that are dropped may make the difference too small.

The runs here have no passes of the cleanup goroutine.  A pass that is over before the refused call
begins leads to no other buckets: where it removed the bucket of a key, the next call on the key
makes a full one, as it does in a run that starts at the time of that call.
-/

namespace Paygate.Gateway

/-- The seconds after which to retry, from the time when the bucket is full and the present one. -/
def calculateRetryAfter (resetTime : Int) (now : Nat) : Int :=
  let retryAfter := resetTime - unix now
  if retryAfter < 1 then 1 else retryAfter

/-- The step is not one of the cleanup goroutine, and takes no tokens of the key. -/
def LimiterStep.Quiet (calls : Nat → LimitCall) (key : List UInt8) (a : LimiterStep) : Prop :=
  a.isCleanup = false ∧ ∀ i, a = .allow i → (calls i).key ≠ key

/-- However the limiter goes on without taking tokens of the key of a call, the call is granted when
it is made a number of seconds later. -/
def Limiter.Grants (tb : TokenBucket) (calls : Nat → LimitCall) (s : Limiter) (call : Nat)
    (seconds : Int) : Prop :=
  ∀ as s₁ s₂, (∀ a ∈ as, a.Quiet calls (calls call).key) → (limiter tb calls).run s as = some s₁ →
    s.now + seconds * 10 ^ 9 ≤ s₁.now → (limiter tb calls).step s₁ (.allow call) = some s₂ →
    s₂.phase call = .returned true

/-- With `x` tokens at time `t`, the missing part of a token arrives within a second, or within the
whole seconds from `t₃` to the time the bucket is taken at `t₂` to be full at. -/
def TokenBucket.InTime (tb : TokenBucket) (beyond : ℚ → Int) (x : ℚ) (t t₂ t₃ : Nat) : Prop :=
  1 - x ≤ tb.rate
    ∨ unix t₃ + (1 - x) / tb.rate
      ≤ unix (t₂ + toDuration beyond
          ((tb.burst - tb.refilled { tokens := x, lastCheck := t } t₂) / tb.rate * 10 ^ 9))

/-! ### Refilling one token -/

/-- The limiter adds at least a token a minute, and a bucket can hold one. -/
theorem newTokenBucket_bounds (rpm burst cleanupTTL : Int) :
  1 / 60 ≤ (newTokenBucket rpm burst cleanupTTL).rate
    ∧ (1 : ℚ) ≤ (newTokenBucket rpm burst cleanupTTL).burst
  := by
  constructor
  · simp only [newTokenBucket]
    apply div_le_div_of_nonneg_right _ (by norm_num)
    split
    · norm_num
    · exact_mod_cast (by omega : 1 ≤ rpm)
  · simp only [newTokenBucket]
    split
    · norm_num
    · exact_mod_cast (by omega : 1 ≤ burst)

variable {tb : TokenBucket} {calls : Nat → LimitCall} {key : List UInt8}

/-- A whole number of seconds after a bucket was checked, a token is in it exactly if the missing
part of it arrives in as many seconds. -/
theorem one_le_refilled_iff (hrate : 1 / 60 ≤ tb.rate) (hburst : (1 : ℚ) ≤ tb.burst) {x : ℚ}
    (hx : 0 ≤ x) (t : Nat) {r : Nat} :
  1 ≤ tb.refilled { tokens := x, lastCheck := t } (t + r * 10 ^ 9) ↔ 1 - x ≤ r * tb.rate
  := by
  have hone : 1 ≤ tb.refilled { tokens := x, lastCheck := t } (t + r * 10 ^ 9)
      ↔ 1 - x ≤ durationSeconds (timeSub (t + r * 10 ^ 9) t) * tb.rate := by
    rw [TokenBucket.refilled, le_min_iff, and_iff_right hburst, sub_le_iff_le_add']
  rw [hone]
  by_cases hfits : r * 10 ^ 9 ≤ 2 ^ 63 - 1
  · have hseconds : durationSeconds (timeSub (t + r * 10 ^ 9) t) = r := by
      have hsub : timeSub (t + r * 10 ^ 9) t = r * 10 ^ 9 := by
        unfold timeSub
        push_cast
        omega
      rw [durationSeconds, hsub]
      push_cast
      apply mul_div_cancel_right₀
      norm_num
    rw [hseconds]
  · have hseconds : (60 : ℚ) ≤ durationSeconds (timeSub (t + r * 10 ^ 9) t) := by
      have hsub : timeSub (t + r * 10 ^ 9) t = 2 ^ 63 - 1 := by
        unfold timeSub
        push_cast
        omega
      rw [durationSeconds, hsub]
      norm_num
    have hr : (60 : ℚ) ≤ r := by
      have hle : 60 ≤ r := by omega
      exact_mod_cast hle
    have henough : ∀ y : ℚ, 60 ≤ y → 1 - x ≤ y * tb.rate := by
      intro y hy
      have hmul : 60 * (1 / 60 : ℚ) ≤ y * tb.rate :=
        mul_le_mul hy hrate (by norm_num) (le_trans (by norm_num) hy)
      linarith
    exact iff_of_true (henough _ hseconds) (henough _ hr)

/-- The time when the bucket of a key is full. -/
theorem Limiter.getResetTime_eq {s : Limiter} {b : Bucket} (h : s.bucketOf key = some b)
    (beyond : ℚ → Int) :
  s.getResetTime tb beyond key
    = unix (s.now + toDuration beyond ((tb.burst - tb.refilled b s.now) / tb.rate * 10 ^ 9))
  := by
  have hle := tb.refilled_le b s.now
  rw [Limiter.getResetTime, h]
  dsimp only
  rw [← TokenBucket.refilled]
  split
  · rename_i hfull
    have hzero : tb.burst - tb.refilled b s.now = 0 := by linarith
    rw [hzero]
    simp [toDuration]
  · rfl

/-- The seconds after which to retry are enough exactly if the missing part of the token arrives in
time. -/
theorem TokenBucket.inTime_iff (hrate : 0 < tb.rate) {beyond : ℚ → Int} {x : ℚ} {t t₂ t₃ : Nat} :
  tb.InTime beyond x t t₂ t₃
    ↔ 1 - x ≤ calculateRetryAfter (unix (t₂ + toDuration beyond
        ((tb.burst - tb.refilled { tokens := x, lastCheck := t } t₂) / tb.rate * 10 ^ 9))) t₃ * tb.rate
  := by
  rw [TokenBucket.InTime, calculateRetryAfter]
  generalize unix (t₂ + toDuration beyond _) = resetTime
  have hsecond : (unix t₃ : ℚ) + (1 - x) / tb.rate ≤ resetTime
      ↔ 1 - x ≤ ((resetTime - unix t₃ : Int) : ℚ) * tb.rate := by
    rw [← le_sub_iff_add_le', div_le_iff₀ hrate]
    push_cast
    rfl
  rw [hsecond]
  split
  · rename_i hlt
    have hnonpos : ((resetTime - unix t₃ : Int) : ℚ) ≤ 0 := by exact_mod_cast (by omega)
    have hmul := mul_nonpos_of_nonpos_of_nonneg hnonpos (le_of_lt hrate)
    push_cast
    rw [one_mul]
    constructor
    · rintro (h | h)
      · exact h
      · push_cast at h hmul
        linarith
    · exact Or.inl
  · rename_i hle
    have hone : (1 : ℚ) ≤ ((resetTime - unix t₃ : Int) : ℚ) := by exact_mod_cast (by omega)
    have hmul := mul_le_mul_of_nonneg_right hone (le_of_lt hrate)
    constructor
    · rintro (h | h)
      · linarith
      · exact h
    · exact Or.inr

/-- From sixty requests per minute on, it always arrives in time. -/
theorem TokenBucket.inTime_of_rate (hrate : 1 ≤ tb.rate) (beyond : ℚ → Int) {x : ℚ} (hx : 0 ≤ x)
    (t t₂ t₃ : Nat) :
  tb.InTime beyond x t t₂ t₃
  := by
  left
  linarith

/-- If a bucket holds two tokens or more, fills up within the longest duration and is read at the
time of the refusal, it arrives in time. -/
theorem TokenBucket.inTime_of_burst (hrate : 0 < tb.rate) (hburst : (2 : ℚ) ≤ tb.burst)
    (beyond : ℚ → Int) {x : ℚ} (hx : 0 ≤ x) (hlt : x < 1)
    (hfits : (tb.burst - x) / tb.rate * 10 ^ 9 < 2 ^ 63) (t : Nat) :
  tb.InTime beyond x t t t
  := by
  by_cases hfast : 1 ≤ tb.rate
  · exact tb.inTime_of_rate hfast beyond hx t t t
  right
  have hself : tb.refilled { tokens := x, lastCheck := t } t = x :=
    TokenBucket.refilled_self (b := { tokens := x, lastCheck := t }) (by
      change x ≤ tb.burst
      linarith)
  rw [hself]
  generalize hF : (tb.burst - x) / tb.rate * 10 ^ 9 = F at hfits ⊢
  have hnonneg : 0 ≤ F := by
    rw [← hF]
    apply mul_nonneg _ (by norm_num)
    apply div_nonneg _ (le_of_lt hrate)
    linarith
  have hduration : toDuration beyond F = ⌊F⌋ := by
    have hlow := Int.floor_nonneg.mpr hnonneg
    have hhigh : ⌊F⌋ < 2 ^ 63 := by
      apply Int.floor_lt.mpr
      exact_mod_cast hfits
    rw [toDuration, if_pos hnonneg, if_pos ⟨by omega, hhigh⟩]
  have hwhole : (t : Int) + ⌊F⌋ < (unix (t + ⌊F⌋) - unix t) * 10 ^ 9 + unix t * 10 ^ 9 + 10 ^ 9 := by
    unfold unix
    omega
  have hstart : unix t * 10 ^ 9 ≤ (t : Int) := by
    unfold unix
    omega
  have hdiff : ⌊F⌋ + 1 ≤ (unix (t + ⌊F⌋) - unix t + 1) * 10 ^ 9 := by omega
  have hdiff' : F < ((unix (t + ⌊F⌋) : ℚ) - unix t + 1) * 10 ^ 9 := by
    apply lt_of_lt_of_le (Int.lt_floor_add_one F)
    exact_mod_cast hdiff
  have hseconds : (tb.burst - x) / tb.rate < (unix (t + ⌊F⌋) : ℚ) - unix t + 1 := by
    apply lt_of_mul_lt_mul_right _ (by norm_num : (0 : ℚ) ≤ 10 ^ 9)
    rw [hF]
    exact hdiff'
  have hmore : (1 - x) / tb.rate + 1 ≤ (tb.burst - x) / tb.rate := by
    rw [← le_sub_iff_add_le', ← sub_div, le_div_iff₀ hrate]
    linarith
  rw [hduration]
  linarith

/-! ### A refusal and a retry -/

namespace Limiter

/-- Quiet steps leave the bucket of the key as it is. -/
theorem Sound.bucketOf_quiet (htb : tb.Sound) (hn : ∀ i, 0 ≤ (calls i).n) {as : List LimiterStep}
    {s s₁ : Limiter} {b : Bucket} (hs : s.Sound tb calls) (hb : s.bucketOf key = some b)
    (has : ∀ a ∈ as, a.Quiet calls key) (hrun : (limiter tb calls).run s as = some s₁) :
  s₁.Sound tb calls ∧ s₁.bucketOf key = some b
  := by
  apply Machine.run_invariant (m := limiter tb calls) (fun s a s' h ha hstep => ?_) as ⟨hs, hb⟩
    (Machine.guarded_of_forall as fun a ha _ => has a ha) hrun
  obtain ⟨hs, hb⟩ := h
  constructor
  · apply hs.step htb hn _ hstep
    rintro rfl
    cases ha.1
  · obtain ⟨i, -, rfl, hkey, -⟩ | ⟨-, -, hsame | ⟨hnone, -⟩⟩ := hs.bucketOf_step ha.1 hstep key
    · exact absurd hkey (ha.2 i rfl)
    · rw [hsame, hb]
    · rw [hnone] at hb
      cases hb

/-- A call for one token that is refused leaves the tokens it found, less than one. -/
theorem Sound.bucketOf_refused {s s₁ : Limiter} {i : Nat} (hs : s.Sound tb calls)
    (hone : (calls i).n = 1) (h : (limiter tb calls).step s (.allow i) = some s₁)
    (hrefused : s₁.phase i = .returned false) :
  s.available tb (calls i).key < 1 ∧ s₁.now = s.now
    ∧ s₁.bucketOf (calls i).key
      = some { tokens := s.available tb (calls i).key, lastCheck := s.now }
  := by
  obtain ⟨j, b, hj, -, hb, hb', hnow, hphase, -⟩ | ⟨hother, -⟩ := hs.bucketOf_step rfl h (calls i).key
  · obtain rfl := LimiterStep.allow.inj hj
    rw [available_of_some hb, hb']
    rw [hrefused, TokenBucket.allowN_eq, hone] at hphase
    rw [TokenBucket.allowN_eq, hone]
    split at hphase
    · cases hphase
    · rename_i hlt
      push_cast at hlt ⊢
      rw [if_neg hlt]
      exact ⟨not_le.mp hlt, hnow, rfl⟩
  · exact absurd rfl (hother i rfl)

/-- A call for one token is granted exactly if there is one. -/
theorem Sound.granted_iff {s s₁ : Limiter} {m : Nat} {b : Bucket} (hs : s.Sound tb calls)
    (hone : (calls m).n = 1) (hb : s.bucketOf (calls m).key = some b)
    (h : (limiter tb calls).step s (.allow m) = some s₁) :
  s₁.phase m = .returned true ↔ 1 ≤ tb.refilled b s.now
  := by
  obtain ⟨j, b', hj, -, hb', -, -, hphase, -⟩ | ⟨hother, -⟩ := hs.bucketOf_step rfl h (calls m).key
  · obtain rfl := LimiterStep.allow.inj hj
    obtain rfl := Option.some.inj (hb.symm.trans hb')
    rw [hphase, TokenBucket.allowN_eq, hone]
    push_cast
    split
    · rename_i hle
      exact iff_of_true rfl hle
    · rename_i hlt
      exact iff_of_false (by simp) hlt
  · exact absurd rfl (hother m rfl)

/-- A call is granted any number of seconds later exactly if there is a token after as many
seconds. -/
theorem Sound.grants_iff (htb : tb.Sound) (hn : ∀ i, 0 ≤ (calls i).n) {s : Limiter} {m : Nat}
    {b : Bucket} (hs : s.Sound tb calls) (hone : (calls m).n = 1) (hidle : s.phase m = .idle)
    (hb : s.bucketOf (calls m).key = some b) (r : Nat) :
  s.Grants tb calls m r ↔ 1 ≤ tb.refilled b (s.now + r * 10 ^ 9)
  := by
  constructor
  · intro h
    obtain ⟨s₁, ref, b', hrun, hnow, hfound, hb'⟩ :=
      (hs.elapse (r * 10 ^ 9)).call_returns htb (i := m) hidle
    have hrun' : (limiter tb calls).run s
        ([.elapse (r * 10 ^ 9)] ++ [.makeBucket m, .loadOrStore m]) = some s₁ :=
      Machine.run_append hrun (Machine.run_cons_eq_some.mpr ⟨_, rfl, rfl⟩)
    have hquiet : ∀ a ∈ [LimiterStep.elapse (r * 10 ^ 9)] ++ [.makeBucket m, .loadOrStore m],
        a.Quiet calls (calls m).key := by
      simp [LimiterStep.Quiet, LimiterStep.isCleanup]
    obtain ⟨hs₁, hb₁⟩ := hs.bucketOf_quiet htb hn hb hquiet hrun'
    obtain ⟨s₂, hstep⟩ : ∃ s₂, (limiter tb calls).step s₁ (.allow m) = some s₂ :=
      ⟨_, step_allow hfound hb'⟩
    have hgranted := h _ s₁ s₂ hquiet hrun' (by rw [hnow]; push_cast; exact le_rfl) hstep
    have hone' := (hs₁.granted_iff hone hb₁ hstep).mp hgranted
    rw [hnow] at hone'
    exact hone'
  · intro h as s₁ s₂ has hrun hnow hstep
    obtain ⟨hs₁, hb₁⟩ := hs.bucketOf_quiet htb hn hb has hrun
    apply (hs₁.granted_iff hone hb₁ hstep).mpr
    apply le_trans h
    apply tb.refilled_mono htb
    zify
    exact hnow

end Limiter

theorem one_le_calculateRetryAfter (resetTime : Int) (now : Nat) :
  1 ≤ calculateRetryAfter resetTime now
  := by
  unfold calculateRetryAfter
  dsimp only
  split
  · exact le_rfl
  · omega

/-- In every run, a call that is refused and then told after how many seconds to retry is granted
that many seconds later, if no tokens of the key are taken meanwhile: exactly if the part of a
token it lacked arrives in time. -/
theorem retry_after_honest_iff (rpm burst cleanupTTL : Int) (beyond : ℚ → Int)
    (calls : Nat → LimitCall) (hn : ∀ i, 0 ≤ (calls i).n) (start : Nat) (as : List LimiterStep)
    (has : ∀ a ∈ as, a.isCleanup = false) {s s₁ s₂ : Limiter}
    (hrun : (limiter (newTokenBucket rpm burst cleanupTTL) calls).run (Limiter.init start) as = some s)
    {i m : Nat} (hone : (calls i).n = 1)
    (hcall : (limiter (newTokenBucket rpm burst cleanupTTL) calls).step s (.allow i) = some s₁)
    (hrefused : s₁.phase i = .returned false)
    (bs : List LimiterStep) (hbs : ∀ a ∈ bs, a.Quiet calls (calls i).key)
    (hread : (limiter (newTokenBucket rpm burst cleanupTTL) calls).run s₁ bs = some s₂) (now : Nat)
    (hm : calls m = calls i) (hidle : s₁.phase m = .idle) :
  s₁.Grants (newTokenBucket rpm burst cleanupTTL) calls m
      (calculateRetryAfter
        (s₂.getResetTime (newTokenBucket rpm burst cleanupTTL) beyond (calls i).key) now)
    ↔ (newTokenBucket rpm burst cleanupTTL).InTime beyond
        (s.available (newTokenBucket rpm burst cleanupTTL) (calls i).key) s.now s₂.now now
  := by
  have htb := sound_newTokenBucket rpm burst cleanupTTL
  obtain ⟨hrate, hburst⟩ := newTokenBucket_bounds rpm burst cleanupTTL
  generalize newTokenBucket rpm burst cleanupTTL = tb at *
  have hs : s.Sound tb calls := by
    apply Limiter.sound_of_run htb hn _ hrun
    rintro a ha rfl
    cases has _ ha
  have hs₁ : s₁.Sound tb calls := hs.step htb hn (by simp) hcall
  obtain ⟨hlt, hnow, hb⟩ := hs.bucketOf_refused hone hcall hrefused
  have hx := hs.available_nonneg htb (calls i).key
  obtain ⟨-, hb₂⟩ := hs₁.bucketOf_quiet htb hn hb hbs hread
  have hpos : 0 < tb.rate := lt_of_lt_of_le (by norm_num) hrate
  rw [tb.inTime_iff hpos, Limiter.getResetTime_eq hb₂]
  generalize unix (s₂.now + toDuration beyond _) = resetTime
  obtain ⟨r, hr⟩ := Int.eq_ofNat_of_zero_le
    (le_trans Int.one_nonneg (one_le_calculateRetryAfter resetTime now))
  rw [hr, hs₁.grants_iff htb hn (by rw [hm, hone]) hidle (by rw [hm]; exact hb), hnow,
    one_le_refilled_iff hrate hburst hx]
  push_cast
  rfl

/-- A call takes the only token of a bucket, at some time, and another call finds the bucket later. -/
def tokenTaken (first later : Nat) : List LimiterStep :=
  [.elapse first, .makeBucket 0, .loadOrStore 0, .allow 0, .elapse later, .makeBucket 1,
    .loadOrStore 1]

/-- A limiter that adds a token a minute to buckets of one token. -/
def slowBucket : TokenBucket := newTokenBucket 1 1 0

/-- A call that is refused one second after the token was taken is told to retry after fifty-nine
seconds, and is granted then. -/
theorem retry_after_honest_sample :
  ∃ s s₁, (limiter slowBucket oneKeyCalls).run (Limiter.init 0) (tokenTaken 0 1000000000) = some s
    ∧ (limiter slowBucket oneKeyCalls).step s (.allow 1) = some s₁
    ∧ s₁.phase 1 = .returned false
    ∧ calculateRetryAfter (s₁.getResetTime slowBucket (fun _ => 0) [0x61]) s₁.now = 59
    ∧ s₁.Grants slowBucket oneKeyCalls 2
      (calculateRetryAfter (s₁.getResetTime slowBucket (fun _ => 0) [0x61]) s₁.now)
  := by
  have hall : ((limiter slowBucket oneKeyCalls).run (Limiter.init 0) (tokenTaken 0 1000000000)).bind
      (fun s => ((limiter slowBucket oneKeyCalls).step s (.allow 1)).map fun s₁ =>
        (s₁.phase 1, s₁.phase 2, s.now, s₁.now, s.available slowBucket [0x61],
          calculateRetryAfter (s₁.getResetTime slowBucket (fun _ => 0) [0x61]) s₁.now))
        = some (.returned false, .idle, 1000000000, 1000000000, 1 / 60, 59) := by
    decide +kernel
  obtain ⟨s, hs, hcall⟩ := Option.bind_eq_some_iff.mp hall
  obtain ⟨s₁, hs₁, hvalues⟩ := Option.map_eq_some_iff.mp hcall
  simp only [Prod.mk.injEq] at hvalues
  obtain ⟨hrefused, hidle, hnow, hnow₁, hx, hr⟩ := hvalues
  refine ⟨s, s₁, hs, hs₁, hrefused, hr, ?_⟩
  refine (retry_after_honest_iff 1 1 0 (fun _ => 0) oneKeyCalls (fun _ => Int.one_nonneg) 0 _ ?_ hs rfl
    hs₁ hrefused [] (List.forall_mem_nil _) rfl s₁.now (m := 2) rfl hidle).mpr ?_
  · simp [tokenTaken, LimiterStep.isCleanup]
  · change slowBucket.InTime _ (s.available slowBucket [0x61]) _ _ _
    rw [hx, hnow, hnow₁]
    right
    decide +kernel

/-- A call that is refused at the beginning of a second, a tenth of a second after the token was
taken, is told to retry after fifty-nine seconds, and is refused then. -/
theorem retry_after_refused_again :
  ∃ s s₁ s₂ s₃, (limiter slowBucket oneKeyCalls).run (Limiter.init 0)
        (tokenTaken 900000000 100000000) = some s
    ∧ (limiter slowBucket oneKeyCalls).step s (.allow 1) = some s₁
    ∧ s₁.phase 1 = .returned false
    ∧ calculateRetryAfter (s₁.getResetTime slowBucket (fun _ => 0) [0x61]) s₁.now = 59
    ∧ (limiter slowBucket oneKeyCalls).run s₁
        [.elapse 59000000000, .makeBucket 2, .loadOrStore 2] = some s₂
    ∧ s₂.now = s₁.now + 59 * 10 ^ 9
    ∧ (limiter slowBucket oneKeyCalls).step s₂ (.allow 2) = some s₃
    ∧ s₃.phase 2 = .returned false
    ∧ ¬ s₁.Grants slowBucket oneKeyCalls 2
      (calculateRetryAfter (s₁.getResetTime slowBucket (fun _ => 0) [0x61]) s₁.now)
  := by
  have hall : ((limiter slowBucket oneKeyCalls).run (Limiter.init 0)
      (tokenTaken 900000000 100000000)).bind (fun s =>
        ((limiter slowBucket oneKeyCalls).step s (.allow 1)).bind fun s₁ =>
          ((limiter slowBucket oneKeyCalls).run s₁
            [.elapse 59000000000, .makeBucket 2, .loadOrStore 2]).bind fun s₂ =>
              ((limiter slowBucket oneKeyCalls).step s₂ (.allow 2)).map fun s₃ =>
                (s₁.phase 1, calculateRetryAfter
                  (s₁.getResetTime slowBucket (fun _ => 0) [0x61]) s₁.now, s₁.now, s₂.now, s₃.phase 2))
        = some (.returned false, 59, 1000000000, 60000000000, .returned false) := by
    decide +kernel
  obtain ⟨s, hs, hall⟩ := Option.bind_eq_some_iff.mp hall
  obtain ⟨s₁, hs₁, hall⟩ := Option.bind_eq_some_iff.mp hall
  obtain ⟨s₂, hs₂, hall⟩ := Option.bind_eq_some_iff.mp hall
  obtain ⟨s₃, hs₃, hvalues⟩ := Option.map_eq_some_iff.mp hall
  simp only [Prod.mk.injEq] at hvalues
  obtain ⟨hrefused, hr, hnow₁, hnow₂, hagain⟩ := hvalues
  refine ⟨s, s₁, s₂, s₃, hs, hs₁, hrefused, hr, hs₂, by omega, hs₃, hagain, ?_⟩
  intro h
  rw [hr] at h
  have hgranted := h _ s₂ s₃ (by simp [LimiterStep.Quiet, LimiterStep.isCleanup]) hs₂
    (by omega) hs₃
  rw [hagain] at hgranted
  cases hgranted

end Paygate.Gateway
