import Mathlib.Algebra.Order.Round
import Mathlib.Data.Rat.Floor
import Mathlib.Algebra.Group.Int.Defs
import Paygate.Gateway.Cleanup

/-!
# Reading a rate limiter

Besides taking tokens, the gateway reads how many tokens are left for a key and when the bucket of
the key is full again.  The number of tokens that is read is the number of calls for one token that
are granted at that time, however many reads there are in between.
-/

namespace Paygate.Gateway

/-! ### The reads -/

/-- The bucket listed for a key. -/
def Limiter.bucketOf (s : Limiter) (key : List UInt8) : Option Bucket :=
  (s.buckets key).bind s.heap

/-- The number of whole tokens that are left for a key. -/
def Limiter.getRemaining (tb : TokenBucket) (s : Limiter) (key : List UInt8) : Int :=
  match s.bucketOf key with
  | none => tb.burst
  | some b =>
      let elapsed := durationSeconds (timeSub s.now b.lastCheck)
      let tokens := min (tb.burst : ℚ) (b.tokens + elapsed * tb.rate)
      ⌊tokens⌋

/-- The whole seconds of a time. -/
def unix (t : Int) : Int := t / 10 ^ 9

/-- The duration of a number of nanoseconds, towards zero.  What a number becomes that is too large
for a duration depends on the platform. -/
def toDuration (beyond : ℚ → Int) (x : ℚ) : Int :=
  let i := if 0 ≤ x then ⌊x⌋ else ⌈x⌉
  if -2 ^ 63 ≤ i ∧ i < 2 ^ 63 then i else beyond x

/-- The whole seconds of the time when the bucket of a key will be full. -/
def Limiter.getResetTime (tb : TokenBucket) (beyond : ℚ → Int) (s : Limiter) (key : List UInt8) : Int :=
  match s.bucketOf key with
  | none => unix s.now
  | some b =>
      let elapsed := durationSeconds (timeSub s.now b.lastCheck)
      let currentTokens := min (tb.burst : ℚ) (b.tokens + elapsed * tb.rate)
      let tokensNeeded := tb.burst - currentTokens
      if tokensNeeded ≤ 0 then unix s.now
      else
        let secondsToFull := tokensNeeded / tb.rate
        unix (s.now + toDuration beyond (secondsToFull * 10 ^ 9))

/-- A limiter, with what was read from it, the latest first. -/
structure ReadLimiter where
  limiter : Limiter
  reads : List Int

/-- A use of a limiter: a step of it, or a read. -/
inductive LimiterUse where
  | step (a : LimiterStep)
  | getRemaining (key : List UInt8)
  | getResetTime (key : List UInt8)

/-- The limiter with its reads. -/
def readLimiter (tb : TokenBucket) (beyond : ℚ → Int) (calls : Nat → LimitCall) :
    Machine ReadLimiter LimiterUse where
  step s
    | .step a => ((limiter tb calls).step s.limiter a).map fun s' => { s with limiter := s' }
    | .getRemaining key => some { s with reads := s.limiter.getRemaining tb key :: s.reads }
    | .getResetTime key => some { s with reads := s.limiter.getResetTime tb beyond key :: s.reads }

/-- The answers to the calls on a key, the first one first. -/
def verdictsFor (calls : Nat → LimitCall) (key : List UInt8) (answers : List LimitAnswer) :
    List Bool :=
  ((answersFor calls key answers).map LimitAnswer.allowed).reverse

/-! ### The bucket of a key -/

variable {tb : TokenBucket} {calls : Nat → LimitCall} {key : List UInt8}

theorem answersFor_cons_self {i time : Nat} {allowed : Bool} (h : (calls i).key = key)
    (answers : List LimitAnswer) :
  answersFor calls key ({ call := i, time := time, allowed := allowed } :: answers)
    = { call := i, time := time, allowed := allowed } :: answersFor calls key answers
  := by
  simp [answersFor, h]

theorem answersFor_cons_of_ne {i time : Nat} {allowed : Bool} (h : (calls i).key ≠ key)
    (answers : List LimitAnswer) :
  answersFor calls key ({ call := i, time := time, allowed := allowed } :: answers)
    = answersFor calls key answers
  := by
  simp [answersFor, h]

namespace Limiter

/-- In a limiter whose buckets are never removed, the listed bucket is there. -/
theorem Sound.bucketOf_eq_none {s : Limiter} (hs : s.Sound tb calls) :
  s.bucketOf key = none ↔ s.buckets key = none
  := by
  constructor
  · intro h
    cases href : s.buckets key with
    | none => rfl
    | some ref =>
        obtain ⟨-, -, b, hb, -⟩ := hs.listed key ref href
        simp [bucketOf, href, hb] at h
  · intro h
    simp [bucketOf, h]

/-- The bucket of a key was checked by now, and holds no more tokens than it can. -/
theorem Sound.fits_of_bucketOf {s : Limiter} (hs : s.Sound tb calls) {b : Bucket}
    (h : s.bucketOf key = some b) :
  s.Fits tb b
  := by
  obtain ⟨ref, -, hb⟩ := Option.bind_eq_some_iff.mp h
  exact hs.fits ref b hb

/-- What a step does to the bucket of a key, and to the answers for it: a call on the key takes
tokens, a call on the key stores a full bucket, or nothing happens. -/
theorem Sound.bucketOf_step {s s₁ : Limiter} {a : LimiterStep} (hs : s.Sound tb calls)
    (ha : a.isCleanup = false) (h : (limiter tb calls).step s a = some s₁) (key : List UInt8) :
  (∃ i b, a = .allow i ∧ (calls i).key = key ∧ s.bucketOf key = some b
      ∧ s₁.bucketOf key = some (tb.allowN b s.now (calls i).n).2 ∧ s₁.now = s.now
      ∧ s₁.phase i = .returned (tb.allowN b s.now (calls i).n).1
      ∧ s₁.answers
        = { call := i, time := s.now, allowed := (tb.allowN b s.now (calls i).n).1 } :: s.answers)
    ∨ ((∀ i, a = .allow i → (calls i).key ≠ key)
      ∧ answersFor calls key s₁.answers = answersFor calls key s.answers
      ∧ (s₁.bucketOf key = s.bucketOf key
        ∨ s.bucketOf key = none ∧ ∃ b, s₁.bucketOf key = some b ∧ b.tokens = tb.burst
          ∧ b.lastCheck ≤ s.now))
  := by
  have hlisted : ∀ {i ref}, s.phase i = .idle ∨ s.phase i = .made → s.buckets key = some ref → ref ≠ i :=
    fun hphase href => ne_of_past (hs.listed key _ href).2.1 hphase
  obtain ⟨d, rfl, rfl⟩ | ⟨i, rfl, hidle, rfl⟩ | ⟨i, ref, rfl, -, href, rfl⟩ | ⟨i, rfl, hmade, hnone, rfl⟩
    | ⟨i, ref, b, rfl, hfound, hb, rfl⟩ := step_cases ha h
  · exact Or.inr ⟨by simp, rfl, Or.inl rfl⟩
  · refine Or.inr ⟨by simp, rfl, Or.inl ?_⟩
    cases href : s.buckets key with
    | none => simp [bucketOf, href]
    | some ref => simp [bucketOf, href, Function.update_of_ne (hlisted (Or.inl hidle) href)]
  · exact Or.inr ⟨by simp, rfl, Or.inl rfl⟩
  · refine Or.inr ⟨by simp, rfl, ?_⟩
    by_cases hkey : key = (calls i).key
    · subst hkey
      obtain ⟨b, hb, hfull⟩ := hs.made i hmade
      right
      refine ⟨hs.bucketOf_eq_none.mpr hnone, b, ?_, hfull, (hs.fits i b hb).1⟩
      simp [bucketOf, hb]
    · left
      simp [bucketOf, Function.update_of_ne hkey]
  · have href := hs.found i ref hfound
    by_cases hkey : (calls i).key = key
    · left
      refine ⟨i, b, rfl, hkey, ?_, ?_, rfl, ?_, rfl⟩
      · simp [bucketOf, ← hkey, href, hb]
      · simp [bucketOf, ← hkey, href]
      · simp
    · right
      refine ⟨?_, answersFor_cons_of_ne hkey _, Or.inl ?_⟩
      · rintro j hj
        obtain rfl := LimiterStep.allow.inj hj
        exact hkey
      · cases href' : s.buckets key with
        | none => simp [bucketOf, href']
        | some ref' =>
            have hne : ref' ≠ ref := by
              rintro rfl
              apply hkey
              rw [← (hs.listed key ref' href').1]
              exact (hs.listed _ ref' href).1.symm
            simp [bucketOf, href', Function.update_of_ne hne]

/-! ### The tokens of a key -/

/-- The tokens a call on the key would find now. -/
def available (tb : TokenBucket) (s : Limiter) (key : List UInt8) : ℚ :=
  match s.bucketOf key with
  | none => tb.burst
  | some b => tb.refilled b s.now

theorem available_of_none {s : Limiter} (h : s.bucketOf key = none) :
  s.available tb key = tb.burst
  := by
  simp only [available, h]

theorem available_of_some {s : Limiter} {b : Bucket} (h : s.bucketOf key = some b) :
  s.available tb key = tb.refilled b s.now
  := by
  simp only [available, h]

/-- What is read is the whole part of it. -/
theorem getRemaining_eq (tb : TokenBucket) (s : Limiter) (key : List UInt8) :
  s.getRemaining tb key = ⌊s.available tb key⌋
  := by
  cases h : s.bucketOf key with
  | none => rw [available_of_none h, Int.floor_intCast, getRemaining, h]
  | some b =>
      rw [available_of_some h, getRemaining, h]
      rfl

theorem available_le (tb : TokenBucket) (s : Limiter) (key : List UInt8) :
  s.available tb key ≤ tb.burst
  := by
  cases h : s.bucketOf key with
  | none => rw [available_of_none h]
  | some b =>
      rw [available_of_some h]
      apply tb.refilled_le

theorem Sound.available_nonneg (htb : tb.Sound) {s : Limiter} (hs : s.Sound tb calls)
    (key : List UInt8) :
  0 ≤ s.available tb key
  := by
  cases h : s.bucketOf key with
  | none =>
      rw [available_of_none h]
      exact htb.burst_nonneg
  | some b =>
      rw [available_of_some h]
      obtain ⟨hcheck, htokens, -⟩ := hs.fits_of_bucketOf h
      have hadded := mul_nonneg (durationSeconds_timeSub hcheck).1 htb.rate_nonneg
      apply le_min htb.burst_nonneg
      linarith

end Limiter

/-- Right after it was checked, a bucket holds the tokens that were left in it. -/
theorem TokenBucket.refilled_self {b : Bucket} (h : b.tokens ≤ tb.burst) :
  tb.refilled b b.lastCheck = b.tokens
  := by
  have hzero : durationSeconds (timeSub b.lastCheck b.lastCheck) = 0 := by
    simp [timeSub, durationSeconds]
  rw [TokenBucket.refilled, hzero, zero_mul, add_zero, min_eq_right h]

namespace Limiter

/-- What a step does to the tokens of a key while no time passes: a call on the key is granted and
takes them if there are enough, or is refused, or nothing happens. -/
theorem Sound.available_step (htb : tb.Sound) {s s₁ : Limiter} {a : LimiterStep} (hs : s.Sound tb calls)
    (ha : a.isCleanup = false) (htime : ∀ d, a ≠ .elapse d)
    (h : (limiter tb calls).step s a = some s₁) (hn : ∀ i, 0 ≤ (calls i).n) (key : List UInt8) :
  (∃ i, a = .allow i ∧ (calls i).key = key
      ∧ s₁.answers = { call := i, time := s.now, allowed := (calls i).n ≤ s.available tb key } :: s.answers
      ∧ s₁.available tb key = s.available tb key
        - if (calls i).n ≤ s.available tb key then ((calls i).n : ℚ) else 0)
    ∨ ((∀ i, a = .allow i → (calls i).key ≠ key)
      ∧ answersFor calls key s₁.answers = answersFor calls key s.answers
      ∧ s₁.available tb key = s.available tb key)
  := by
  have hnow : s₁.now = s.now := by
    obtain ⟨d, rfl, -⟩ | ⟨i, -, -, rfl⟩ | ⟨i, ref, -, -, -, rfl⟩ | ⟨i, -, -, -, rfl⟩
      | ⟨i, ref, b, -, -, -, rfl⟩ := step_cases ha h
    · exact absurd rfl (htime d)
    · rfl
    · rfl
    · rfl
    · rfl
  obtain ⟨i, b, rfl, hkey, hb, hb', -, -, hanswers⟩ | ⟨hother, hanswers, hbucket⟩ :=
    hs.bucketOf_step ha h key
  · left
    rw [available_of_some hb, available_of_some hb', hnow, hanswers]
    have hle := tb.refilled_le b s.now
    have hn' : (0 : ℚ) ≤ (calls i).n := by exact_mod_cast hn i
    refine ⟨i, rfl, hkey, ?_⟩
    rw [TokenBucket.allowN_eq]
    split
    · rename_i hallowed
      simp only [hallowed, decide_true, true_and]
      apply TokenBucket.refilled_self (b := { tokens := tb.refilled b s.now - (calls i).n, lastCheck := s.now })
      linarith
    · rename_i hallowed
      simp only [hallowed, decide_false, sub_zero, true_and]
      apply TokenBucket.refilled_self (b := { tokens := tb.refilled b s.now, lastCheck := s.now }) hle
  · right
    refine ⟨hother, hanswers, ?_⟩
    obtain hsame | ⟨hnone, b, hb, hfull, hcheck⟩ := hbucket
    · rw [available, available, hsame, hnow]
    · rw [available_of_none hnone, available_of_some hb, hnow]
      exact tb.refilled_new htb hcheck hfull

/-- A call that has not begun can be made. -/
theorem Sound.call_returns (htb : tb.Sound) {s : Limiter} (hs : s.Sound tb calls) {i : Nat}
    (hidle : s.phase i = .idle) :
  ∃ s₁ ref b, (limiter tb calls).run s [.makeBucket i, .loadOrStore i] = some s₁
    ∧ s₁.now = s.now ∧ s₁.phase i = .found ref ∧ s₁.heap ref = some b
  := by
  obtain ⟨s₁, hmake, hs', hnow, hmade⟩ : ∃ s₁, (limiter tb calls).step s (.makeBucket i) = some s₁
      ∧ s₁.Sound tb calls ∧ s₁.now = s.now ∧ s₁.phase i = .made :=
    ⟨_, step_makeBucket hidle, hs.makeBucket htb hidle, rfl, Function.update_self ..⟩
  cases href : s₁.buckets (calls i).key with
  | some ref =>
      obtain ⟨-, -, b, hb, -⟩ := hs'.listed _ ref href
      refine ⟨{ s₁ with phase := Function.update s₁.phase i (.found ref) }, ref, b, ?_, hnow, ?_, hb⟩
      · exact Machine.run_cons_eq_some.mpr
          ⟨s₁, hmake, Machine.run_cons_eq_some.mpr ⟨_, step_load hmade href, rfl⟩⟩
      · exact Function.update_self ..
  | none =>
      obtain ⟨b, hb, -⟩ := hs'.made i hmade
      refine ⟨{ s₁ with
        buckets := Function.update s₁.buckets (calls i).key (some i)
        phase := Function.update s₁.phase i (.found i) }, i, b, ?_, hnow, ?_, hb⟩
      · exact Machine.run_cons_eq_some.mpr
          ⟨s₁, hmake, Machine.run_cons_eq_some.mpr ⟨_, step_store hmade href, rfl⟩⟩
      · exact Function.update_self ..

end Limiter

/-! ### The calls at one time -/

/-- A use while no time passes and no bucket is removed, in which the calls on the key are for one
token. -/
def LimiterUse.AtOnce (calls : Nat → LimitCall) (key : List UInt8) : LimiterUse → Prop
  | .step a => a.isCleanup = false ∧ (∀ d, a ≠ .elapse d)
      ∧ ∀ i, a = .allow i → (calls i).key = key → (calls i).n = 1
  | .getRemaining _ | .getResetTime _ => True

/-- Of the calls at one time since a state in which there were `x` tokens, as many were granted as
there are whole tokens in `x`, and these first. -/
structure Limiter.Predicted (tb : TokenBucket) (calls : Nat → LimitCall) (key : List UInt8) (x : ℚ)
    (before : List Bool) (s : Limiter) : Prop where
  sound : s.Sound tb calls
  granted : ∃ m : Nat, verdictsFor calls key s.answers
      = before ++ (List.range m).map (fun j : Nat => decide ((j : Int) < ⌊x⌋))
    ∧ s.available tb key = x - (min (m : Int) ⌊x⌋ : Int)

/-- A call for one token is granted if there is a whole token left. -/
theorem one_le_sub_min_iff {x : ℚ} {m : Nat} :
  (((1 : Int) : ℚ) ≤ x - (min (m : Int) ⌊x⌋ : Int)) ↔ (m : Int) < ⌊x⌋
  := by
  constructor
  · intro h
    by_contra hle
    rw [min_eq_right (not_lt.mp hle)] at h
    have hlt := Int.lt_floor_add_one x
    push_cast at h
    linarith
  · intro h
    have hfloor : ((m + 1 : Int) : ℚ) ≤ x := Int.le_floor.mp h
    rw [min_eq_left (le_of_lt h)]
    push_cast at hfloor ⊢
    linarith

theorem Limiter.Predicted.step (htb : tb.Sound) (hn : ∀ i, 0 ≤ (calls i).n) {x : ℚ}
    {before : List Bool} {s s₁ : Limiter} {a : LimiterStep}
    (hs : s.Predicted tb calls key x before) (ha : (LimiterUse.step a).AtOnce calls key)
    (h : (limiter tb calls).step s a = some s₁) :
  s₁.Predicted tb calls key x before
  := by
  obtain ⟨hcleanup, htime, hone⟩ := ha
  obtain ⟨m, hverdicts, havailable⟩ := hs.granted
  constructor
  · apply hs.sound.step htb hn _ h
    rintro rfl
    cases hcleanup
  · obtain ⟨i, rfl, hkey, hanswers, hafter⟩ | ⟨-, hanswers, hafter⟩ :=
      hs.sound.available_step htb hcleanup htime h hn key
    · use m + 1
      rw [hone i rfl hkey, havailable] at hanswers hafter
      simp only [one_le_sub_min_iff] at hanswers hafter
      constructor
      · rw [hanswers, verdictsFor, answersFor_cons_self hkey, List.map_cons, List.reverse_cons,
          ← verdictsFor, hverdicts, List.range_succ, List.map_append, List.append_assoc]
        rfl
      · rw [hafter]
        split
        · rename_i hlt
          rw [min_eq_left (le_of_lt hlt), min_eq_left (by omega)]
          push_cast
          ring
        · rename_i hle
          rw [min_eq_right (by omega), min_eq_right (by omega), sub_zero]
    · use m
      rw [verdictsFor, hanswers, ← verdictsFor, hafter]
      exact ⟨hverdicts, havailable⟩

/-- What is read from a limiter after any calls is right: at that time, as many calls for one token
are granted as were read to be left, and the next ones are refused, with any reads in between.  The
calls can always be made. -/
theorem getRemaining_predicts (rpm burst cleanupTTL : Int) (beyond : ℚ → Int)
    (calls : Nat → LimitCall) (hn : ∀ i, 0 ≤ (calls i).n) (start : Nat) (as : List LimiterStep)
    (has : ∀ a ∈ as, a.isCleanup = false) (s : Limiter)
    (hrun : (limiter (newTokenBucket rpm burst cleanupTTL) calls).run (Limiter.init start) as = some s)
    (key : List UInt8) (k : Int) (hk : s.getRemaining (newTokenBucket rpm burst cleanupTTL) key = k) :
  0 ≤ k ∧ k ≤ (newTokenBucket rpm burst cleanupTTL).burst
    ∧ ∀ us s', (∀ u ∈ us, u.AtOnce calls key) →
      (readLimiter (newTokenBucket rpm burst cleanupTTL) beyond calls).run ⟨s, []⟩ us = some s' →
      (∃ m : Nat, verdictsFor calls key s'.limiter.answers
            = verdictsFor calls key s.answers
              ++ (List.range m).map (fun j : Nat => decide ((j : Int) < k))
          ∧ s'.limiter.getRemaining (newTokenBucket rpm burst cleanupTTL) key = k - min (m : Int) k)
        ∧ ∀ i, s'.limiter.phase i = .idle →
          ∃ s₁, (limiter (newTokenBucket rpm burst cleanupTTL) calls).run s'.limiter
            [.makeBucket i, .loadOrStore i, .allow i] = some s₁
  := by
  have htb := sound_newTokenBucket rpm burst cleanupTTL
  generalize newTokenBucket rpm burst cleanupTTL = tb at htb hrun hk ⊢
  have hs : s.Sound tb calls := by
    apply Limiter.sound_of_run htb hn _ hrun
    rintro a ha rfl
    cases has _ ha
  rw [Limiter.getRemaining_eq] at hk
  subst hk
  refine ⟨Int.floor_nonneg.mpr (hs.available_nonneg htb key), ?_, ?_⟩
  · rw [← Int.floor_intCast (R := ℚ) tb.burst]
    exact Int.floor_le_floor (s.available_le tb key)
  intro us s' hus hrun'
  have hpredicted : s'.limiter.Predicted tb calls key (s.available tb key)
      (verdictsFor calls key s.answers) := by
    have hkeeps : ∀ (s₁ : ReadLimiter) (u : LimiterUse) (s₂ : ReadLimiter),
        s₁.limiter.Predicted tb calls key (s.available tb key) (verdictsFor calls key s.answers) →
        u.AtOnce calls key → (readLimiter tb beyond calls).step s₁ u = some s₂ →
        s₂.limiter.Predicted tb calls key (s.available tb key) (verdictsFor calls key s.answers) := by
      intro s₁ u s₂ hs₁ hu hstep
      cases u with
      | step a =>
          obtain ⟨s₃, hs₃, rfl⟩ := Option.map_eq_some_iff.mp hstep
          exact hs₁.step htb hn hu hs₃
      | getRemaining key' =>
          obtain rfl := Option.some.inj hstep
          exact hs₁
      | getResetTime key' =>
          obtain rfl := Option.some.inj hstep
          exact hs₁
    apply Machine.run_invariant hkeeps us _
      (Machine.guarded_of_forall us fun u hu _ => hus u hu) hrun'
    use hs, 0
    have hfloor := Int.floor_nonneg.mpr (hs.available_nonneg htb key)
    constructor
    · simp
    · rw [min_eq_left (by exact_mod_cast hfloor)]
      simp
  obtain ⟨hs', m, hverdicts, havailable⟩ := hpredicted
  constructor
  · use m, hverdicts
    rw [Limiter.getRemaining_eq, havailable, Int.floor_sub_intCast]
  · intro i hidle
    obtain ⟨s₁, ref, b, hfind, -, hfound, hb⟩ := hs'.call_returns htb hidle
    obtain ⟨s₂, hs₂⟩ : ∃ s₂, (limiter tb calls).step s₁ (.allow i) = some s₂ :=
      ⟨_, Limiter.step_allow hfound hb⟩
    exact ⟨s₂, Machine.run_append (Machine.run_cons_eq_some.mpr ⟨s₂, hs₂, rfl⟩) hfind⟩

/-- A call takes one of the two tokens of a bucket, and three seconds pass. -/
def oneTaken : List LimiterStep :=
  [.makeBucket 0, .loadOrStore 0, .allow 0, .elapse 3000000000]

/-- Two calls, with reads before and between them. -/
def twoCallsRead : List LimiterUse :=
  [.getRemaining [0x61], .step (.makeBucket 1), .step (.loadOrStore 1), .step (.allow 1),
    .getResetTime [0x61], .step (.makeBucket 2), .step (.loadOrStore 2), .step (.allow 2)]

/-- With one and a half tokens left, one token is read to be left: the first call is granted and
the second one is refused. -/
theorem getRemaining_predicts_sample :
  ∃ s s', (limiter (newTokenBucket 10 2 0) oneKeyCalls).run (Limiter.init 0) oneTaken = some s
    ∧ (readLimiter (newTokenBucket 10 2 0) (fun _ => 0) oneKeyCalls).run ⟨s, []⟩ twoCallsRead = some s'
    ∧ s.getRemaining (newTokenBucket 10 2 0) [0x61] = 1
    ∧ (∃ m : Nat, verdictsFor oneKeyCalls [0x61] s'.limiter.answers
      = verdictsFor oneKeyCalls [0x61] s.answers
        ++ (List.range m).map (fun j : Nat => decide ((j : Int) < 1)))
    ∧ verdictsFor oneKeyCalls [0x61] s'.limiter.answers = [true, true, false]
  := by
  obtain ⟨s, hs⟩ := Option.isSome_iff_exists.mp (show ((limiter (newTokenBucket 10 2 0)
    oneKeyCalls).run (Limiter.init 0) oneTaken).isSome = true by decide)
  have hall : (((limiter (newTokenBucket 10 2 0) oneKeyCalls).run (Limiter.init 0) oneTaken).bind
      fun s => (readLimiter (newTokenBucket 10 2 0) (fun _ => 0) oneKeyCalls).run ⟨s, []⟩
        twoCallsRead).map (fun s' => verdictsFor oneKeyCalls [0x61] s'.limiter.answers)
          = some [true, true, false] := by
    decide +kernel
  have hread : ((limiter (newTokenBucket 10 2 0) oneKeyCalls).run (Limiter.init 0) oneTaken).map
      (fun s => s.getRemaining (newTokenBucket 10 2 0) [0x61]) = some 1 := by
    decide +kernel
  rw [hs] at hall hread
  obtain ⟨s', hs', hverdicts⟩ := Option.map_eq_some_iff.mp hall
  have hk := Option.some.inj hread
  obtain ⟨⟨m, hm, -⟩, -⟩ := (getRemaining_predicts 10 2 0 (fun _ => 0) oneKeyCalls
    (fun _ => Int.one_nonneg) 0 oneTaken (by decide) s hs [0x61] 1 hk).2.2 twoCallsRead s' (by
      simp [twoCallsRead, LimiterUse.AtOnce, LimiterStep.isCleanup, oneKeyCalls]) hs'
  exact ⟨s, s', hs, hs', hk, ⟨m, hm⟩, hverdicts⟩

end Paygate.Gateway
