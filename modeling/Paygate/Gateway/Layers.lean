import Mathlib.Algebra.Order.Group.Nat
import Paygate.Gateway.Timeout

/-!
# The layers of a request

What the writers of a request hold and what its layers send, as long as the request writes
to its own writers only (`Sound`).  The writer at a level is written to by one party: the
handler at the innermost level, the next layer at every other.  A layer sends the timeout
response, or the complete response of the handler if no layer further in timed out.
-/

namespace Paygate.Gateway

/-! ### What a writer holds and what a layer sends -/

namespace Request

/-- The writer at a level has received the given operations; a closed buffer may hold
anything. -/
def Holds (req : Request) : Nat → List WriterOp → Prop
  | 0, sent => req.out = sent
  | i + 1, sent => (req.layer i).bw.closed = false → (req.layer i).bw = composed sent

/-- What the handler has written, as one buffer. -/
def final (r : Nat) (req : Request) : BufferedWriter :=
  composed (req.written.map (HandlerWrite.tag r))

/-- The operations are the flush of everything the handler wrote, and the handler has
finished. -/
def IsComplete (r : Nat) (req : Request) (ops : List WriterOp) : Prop :=
  req.handler = .finished
    ∧ ∃ order, SameHeader order (final r req).head ∧ ops = (final r req).flushTo order

/-- From layer `j` inwards every layer flushed: none is closed, and those further in have
returned. -/
def FlushedFrom (req : Request) (j : Nat) : Prop :=
  (∀ i, j ≤ i → i < req.depth → (req.layer i).bw.closed = false)
    ∧ ∀ i, j < i → i < req.depth → (req.layer i).phase = .leaving []

/-- What layer `j` sends: the timeout response, or the response of the handler if every
layer from `j` inwards flushed. -/
def Outcome (r : Nat) (req : Request) (j : Nat) (ops : List WriterOp) : Prop :=
  IsTimeout ops ∨ IsComplete r req ops ∧ req.FlushedFrom j

@[simp]
theorem setLayer_layer_self (req : Request) (j : Nat) (l : Layer) :
  (req.setLayer j l).layer j = l
  := Function.update_self ..

theorem setLayer_layer_of_ne {req : Request} {i j : Nat} (h : i ≠ j) (l : Layer) :
  (req.setLayer j l).layer i = req.layer i
  := Function.update_of_ne h ..

@[simp]
theorem receive_phase (req : Request) (j i : Nat) (op : WriterOp) :
  ((req.receive j op).layer i).phase = (req.layer i).phase
  := by
  cases j with
  | zero => rfl
  | succ k =>
      by_cases hik : i = k
      · subst hik
        simp [receive]
      · simp [receive, setLayer_layer_of_ne hik]

@[simp]
theorem receive_orig (req : Request) (j i : Nat) (op : WriterOp) :
  ((req.receive j op).layer i).orig = (req.layer i).orig
  := by
  cases j with
  | zero => rfl
  | succ k =>
      by_cases hik : i = k
      · subst hik
        simp [receive]
      · simp [receive, setLayer_layer_of_ne hik]

@[simp]
theorem receive_closed (req : Request) (j i : Nat) (op : WriterOp) :
  ((req.receive j op).layer i).bw.closed = (req.layer i).bw.closed
  := by
  cases j with
  | zero => rfl
  | succ k =>
      by_cases hik : i = k
      · subst hik
        simp [receive, BufferedWriter.apply_closed]
      · simp [receive, setLayer_layer_of_ne hik]

@[simp]
theorem receive_context (req : Request) (j : Nat) (op : WriterOp) :
  (req.receive j op).context = req.context
  := by
  cases j with
  | zero => rfl
  | succ k => rfl

@[simp]
theorem receive_timeouts (req : Request) (j : Nat) (op : WriterOp) :
  (req.receive j op).timeouts = req.timeouts
  := by
  cases j with
  | zero => rfl
  | succ k => rfl

@[simp]
theorem receive_entered (req : Request) (j : Nat) (op : WriterOp) :
  (req.receive j op).entered = req.entered
  := by
  cases j with
  | zero => rfl
  | succ k => rfl

@[simp]
theorem receive_handler (req : Request) (j : Nat) (op : WriterOp) :
  (req.receive j op).handler = req.handler
  := by
  cases j with
  | zero => rfl
  | succ k => rfl

@[simp]
theorem receive_written (req : Request) (j : Nat) (op : WriterOp) :
  (req.receive j op).written = req.written
  := by
  cases j with
  | zero => rfl
  | succ k => rfl

@[simp]
theorem receive_served (req : Request) (j : Nat) (op : WriterOp) :
  (req.receive j op).served = req.served
  := by
  cases j with
  | zero => rfl
  | succ k => rfl

@[simp]
theorem receive_depth (req : Request) (j : Nat) (op : WriterOp) :
  (req.receive j op).depth = req.depth
  := congrArg List.length (receive_timeouts req j op)

/-- The writer that receives an operation holds it after what it held. -/
theorem Holds.receive {req : Request} {j : Nat} {sent : List WriterOp} (h : req.Holds j sent)
    (op : WriterOp) :
  (req.receive j op).Holds j (sent ++ [op])
  := by
  cases j with
  | zero =>
      simp only [Holds, Request.receive] at h ⊢
      rw [h]
  | succ k =>
      simp only [Holds, Request.receive, setLayer_layer_self, BufferedWriter.apply_closed]
      intro hopen
      rw [h hopen, composed_concat]

/-- The other writers hold what they held. -/
theorem Holds.receive_of_ne {req : Request} {i j : Nat} {sent : List WriterOp} (h : req.Holds i sent)
    (hij : i ≠ j) (op : WriterOp) :
  (req.receive j op).Holds i sent
  := by
  cases j with
  | zero =>
      cases i with
      | zero => exact absurd rfl hij
      | succ i => exact h
  | succ k =>
      cases i with
      | zero => exact h
      | succ i =>
          simp only [Holds, Request.receive]
          rw [setLayer_layer_of_ne (by omega)]
          exact h

/-- Replacing a layer but not its buffer leaves what the writers hold. -/
theorem Holds.setLayer {req : Request} {i j : Nat} {l : Layer} {sent : List WriterOp}
    (h : req.Holds i sent) (hl : l.bw = (req.layer j).bw ∨ l.bw.closed = true) :
  (req.setLayer j l).Holds i sent
  := by
  cases i with
  | zero => exact h
  | succ i =>
      by_cases hij : i = j
      · subst hij
        simp only [Holds, setLayer_layer_self]
        obtain hbw | hclosed := hl
        · rw [hbw]
          exact h
        · intro hopen
          rw [hclosed] at hopen
          cases hopen
      · simp only [Holds, setLayer_layer_of_ne hij]
        exact h

/-- What a layer sends stays so, if the handler does not change once it has finished, the
layer stays open and layers that have returned stay as they are. -/
theorem Outcome.mono {r : Nat} {req req' : Request} {j : Nat} {ops : List WriterOp}
    (h : Outcome r req j ops) (hdepth : req'.timeouts = req.timeouts)
    (hhandler : req.handler = .finished → req'.handler = .finished ∧ req'.written = req.written)
    (hj : (req'.layer j).bw.closed = (req.layer j).bw.closed)
    (hinner : ∀ i, j < i → (req.layer i).phase = .leaving [] →
      (req'.layer i).phase = .leaving [] ∧ (req'.layer i).bw.closed = (req.layer i).bw.closed) :
  Outcome r req' j ops
  := by
  obtain htimeout | ⟨⟨hfinished, order, horder, rfl⟩, hopen, hreturned⟩ := h
  · left
    exact htimeout
  · right
    obtain ⟨hfinished', hwritten⟩ := hhandler hfinished
    have hlen : req'.depth = req.depth := congrArg List.length hdepth
    have hfinal : req'.final r = req.final r := by
      unfold final
      rw [hwritten]
    refine ⟨⟨hfinished', order, ?_, ?_⟩, ?_, ?_⟩
    · rw [hfinal]
      exact horder
    · rw [hfinal]
    · intro i hji hi
      rw [hlen] at hi
      obtain rfl | hlt := Nat.eq_or_lt_of_le hji
      · rw [hj]
        apply hopen j hji hi
      · rw [(hinner i hlt (hreturned i hlt hi)).2]
        apply hopen i hji hi
    · intro i hji hi
      rw [hlen] at hi
      apply (hinner i hji (hreturned i hji hi)).1

/-! ### The invariant of a request -/

/-- The invariant of request `r` while its Context is its own. -/
structure Sound (r : Nat) (req : Request) : Prop where
  layers : req.timeouts ≠ []
  entered_le : req.entered ≤ req.depth
  started : req.handler ≠ .running → req.entered = req.depth
  unwritten : req.entered < req.depth → req.written = []
  outside : ∀ j, req.entered ≤ j → req.layer j = .init
  inside : ∀ j < req.entered, (req.layer j).phase ≠ .outside ∧ (req.layer j).orig = ⟨r, j⟩
  closed : ∀ j, (req.layer j).bw.closed = true → ∃ rest, (req.layer j).phase = .leaving rest
  panicked : ∀ j, (req.layer j).phase = .panicked → req.handler = .panicked
    ∧ ∀ i, j ≤ i → i < req.depth → (req.layer i).phase = .panicked
  silent : ∀ j < req.depth, (∀ rest, (req.layer j).phase ≠ .leaving rest) → req.Holds j []
  leaving : ∀ j rest, (req.layer j).phase = .leaving rest →
    ∃ sent, req.Holds j sent ∧ Outcome r req j (sent ++ rest)
  handler : req.Holds req.depth (req.written.map (HandlerWrite.tag r))

/-- A layer that is not outside has been entered. -/
theorem Sound.lt_entered {r : Nat} {req : Request} (h : Sound r req) {j : Nat}
    (hj : (req.layer j).phase ≠ .outside) :
  j < req.entered
  := by
  by_contra hle
  apply hj
  rw [h.outside j (not_lt.mp hle)]
  rfl

/-- The handler runs while there are layers to enter. -/
theorem Sound.running_of_lt {r : Nat} {req : Request} (h : Sound r req)
    (hlt : req.entered < req.depth) :
  req.handler = .running
  := by
  by_contra hne
  exact absurd (h.started hne) (ne_of_lt hlt)

/-- A request that has just arrived. -/
theorem Sound.init {r c : Nat} {timeouts : List Int} (h : timeouts ≠ []) :
  Sound r (.init c timeouts)
  := by
  have hholds : ∀ j, (Request.init c timeouts).Holds j [] := by
    intro j
    cases j with
    | zero => rfl
    | succ i =>
        intro _
        rfl
  constructor
  case layers => exact h
  case entered_le => apply Nat.zero_le
  case started =>
    intro hrunning
    exact absurd rfl hrunning
  case unwritten =>
    intro _
    rfl
  case outside =>
    intro j _
    rfl
  case inside =>
    intro j hj
    cases hj
  case closed =>
    intro j hclosed
    cases hclosed
  case panicked =>
    intro j hphase
    cases hphase
  case silent =>
    intro j _ _
    apply hholds j
  case leaving =>
    intro j rest hphase
    cases hphase
  case handler => apply hholds

/-- Entering the next layer keeps the invariant. -/
theorem Sound.enter {r : Nat} {req : Request} (h : Sound r req) (hlt : req.entered < req.depth)
    {l : Layer} (horig : l.orig = ⟨r, req.entered⟩) (hbw : l.bw = newBufferedWriter)
    (hphase : l.phase = .waiting) :
  Sound r { req.setLayer req.entered l with entered := req.entered + 1 }
  := by
  have hsame : l.bw = (req.layer req.entered).bw ∨ l.bw.closed = true := by
    left
    rw [hbw, h.outside _ le_rfl]
    rfl
  have hnew : ∀ j, ¬ j = req.entered →
      (req.setLayer req.entered l).layer j = req.layer j := fun j hj => setLayer_layer_of_ne hj l
  have hrunning := h.running_of_lt hlt
  constructor
  case layers => exact h.layers
  case entered_le => exact hlt
  case started =>
    intro hne
    exact absurd hrunning hne
  case unwritten =>
    intro _
    apply h.unwritten hlt
  case outside =>
    intro j hj
    have hne : ¬ j = req.entered := by
      rintro rfl
      exact absurd hj (Nat.not_succ_le_self _)
    exact (hnew j hne).trans (h.outside j (Nat.le_of_succ_le hj))
  case inside =>
    intro j hj
    by_cases hje : j = req.entered
    · subst hje
      simp [hphase, horig]
    · simp only [hnew j hje]
      apply h.inside j (Nat.lt_of_le_of_ne (Nat.le_of_lt_succ hj) hje)
  case closed =>
    intro j hclosed
    by_cases hje : j = req.entered
    · subst hje
      simp [hbw, newBufferedWriter] at hclosed
    · simp only [hnew j hje] at hclosed ⊢
      apply h.closed j hclosed
  case panicked =>
    intro j hp
    by_cases hje : j = req.entered
    · subst hje
      simp [hphase] at hp
    · simp only [hnew j hje] at hp
      rw [(h.panicked j hp).1] at hrunning
      cases hrunning
  case silent =>
    intro j hj hp
    apply Holds.setLayer (h.silent j hj _) hsame
    intro rest hrest
    by_cases hje : j = req.entered
    · rw [h.outside j (le_of_eq hje.symm)] at hrest
      cases hrest
    · apply hp rest
      simp only [hnew j hje, hrest]
  case leaving =>
    intro j rest hp
    by_cases hje : j = req.entered
    · subst hje
      simp [hphase] at hp
    · simp only [hnew j hje] at hp
      obtain ⟨sent, hsent, hout⟩ := h.leaving j rest hp
      use sent, hsent.setLayer hsame
      apply Outcome.mono hout
      · rfl
      · intro hf
        exact ⟨hf, rfl⟩
      · simp only [hnew j hje]
      · intro i _ hi
        have hie : ¬ i = req.entered := by
          rintro rfl
          rw [h.outside _ le_rfl] at hi
          cases hi
        simp only [hnew i hie, hi, and_self]
  case handler => apply h.handler.setLayer hsame

/-- A write of the running handler to the innermost buffer keeps the invariant. -/
theorem Sound.handlerWrite {r : Nat} {req : Request} (h : Sound r req)
    (hruns : req.handlerRuns = true) (w : HandlerWrite) :
  Sound r (({ req with written := req.written ++ [w] } : Request).receive req.depth (w.tag r))
  := by
  simp only [handlerRuns, decide_eq_true_eq] at hruns
  obtain ⟨hentered, hrunning⟩ := hruns
  constructor
  case layers =>
    rw [receive_timeouts]
    exact h.layers
  case entered_le =>
    rw [receive_depth, receive_entered]
    exact h.entered_le
  case started =>
    intro _
    rw [receive_depth, receive_entered]
    exact hentered
  case unwritten =>
    intro hlt
    rw [receive_depth, receive_entered] at hlt
    exact absurd hentered (ne_of_lt hlt)
  case outside =>
    intro j hj
    rw [receive_entered] at hj
    have hdepth : 0 < req.depth := List.length_pos_iff.mpr h.layers
    obtain ⟨k, hk⟩ := Nat.exists_eq_succ_of_ne_zero hdepth.ne'
    rw [hk, Request.receive, setLayer_layer_of_ne (by simp only at hj; omega)]
    apply h.outside j hj
  case inside =>
    intro j hj
    rw [receive_entered] at hj
    simp only [receive_phase, receive_orig]
    apply h.inside j hj
  case closed =>
    intro j hclosed
    simp only [receive_closed, receive_phase] at hclosed ⊢
    apply h.closed j hclosed
  case panicked =>
    intro j hp
    simp only [receive_phase] at hp
    rw [(h.panicked j hp).1] at hrunning
    cases hrunning
  case silent =>
    intro j hj hp
    rw [receive_depth] at hj
    simp only [receive_phase] at hp
    apply Holds.receive_of_ne _ (ne_of_lt hj)
    exact h.silent j hj hp
  case leaving =>
    intro j rest hp
    simp only [receive_phase] at hp
    obtain ⟨sent, hsent, hout⟩ := h.leaving j rest hp
    have hj : j < req.depth := by
      rw [← hentered]
      apply h.lt_entered
      rw [hp]
      simp
    use sent
    constructor
    · apply Holds.receive_of_ne _ (ne_of_lt hj)
      exact hsent
    · apply Outcome.mono hout
      · rw [receive_timeouts]
      · intro hf
        rw [hrunning] at hf
        cases hf
      · rw [receive_closed]
      · intro i _ hi
        rw [receive_phase, receive_closed]
        exact ⟨hi, rfl⟩
  case handler =>
    rw [receive_depth, receive_written, List.map_append]
    apply Holds.receive
    exact h.handler

/-- The handler finishing or panicking keeps the invariant. -/
theorem Sound.handlerEnds {r : Nat} {req : Request} (h : Sound r req)
    (hruns : req.handlerRuns = true) (phase : HandlerPhase) :
  Sound r { req with handler := phase }
  := by
  simp only [handlerRuns, decide_eq_true_eq] at hruns
  obtain ⟨hentered, hrunning⟩ := hruns
  constructor
  case layers => exact h.layers
  case entered_le => exact h.entered_le
  case started =>
    intro _
    exact hentered
  case unwritten => exact h.unwritten
  case outside => exact h.outside
  case inside => exact h.inside
  case closed => exact h.closed
  case panicked =>
    intro j hp
    rw [(h.panicked j hp).1] at hrunning
    cases hrunning
  case silent => exact h.silent
  case leaving =>
    intro j rest hp
    obtain ⟨sent, hsent, hout⟩ := h.leaving j rest hp
    use sent, hsent
    apply Outcome.mono hout
    · rfl
    · intro hf
      rw [hrunning] at hf
      cases hf
    · rfl
    · intro i _ hi
      exact ⟨hi, rfl⟩
  case handler => exact h.handler

/-- A waiting layer that picks an event keeps the invariant if what it sends is the timeout
response or the response of the handler. -/
theorem Sound.select {r : Nat} {req : Request} (h : Sound r req) {j : Nat}
    (hj : j < req.depth) (hwait : (req.layer j).phase = .waiting) {l : Layer}
    (horig : l.orig = (req.layer j).orig) (hphase : l.phase ≠ .outside)
    (hbw : l.bw = (req.layer j).bw ∨ l.bw.closed = true)
    (hclosed : l.bw.closed = true → ∃ rest, l.phase = .leaving rest)
    (hpanicked : l.phase = .panicked → req.handler = .panicked
      ∧ ∀ i, j < i → i < req.depth → (req.layer i).phase = .panicked)
    (hleaving : ∀ rest, l.phase = .leaving rest → Outcome r (req.setLayer j l) j rest) :
  Sound r (req.setLayer j l)
  := by
  have hnew : ∀ i, ¬ i = j → (req.setLayer j l).layer i = req.layer i :=
    fun i hi => setLayer_layer_of_ne hi l
  have hin : j < req.entered := by
    apply h.lt_entered
    rw [hwait]
    simp
  constructor
  case layers => exact h.layers
  case entered_le => exact h.entered_le
  case started => exact h.started
  case unwritten => exact h.unwritten
  case outside =>
    intro i hi
    have hne : ¬ i = j := by
      rintro rfl
      exact absurd hin (not_lt.mpr hi)
    rw [hnew i hne]
    apply h.outside i hi
  case inside =>
    intro i hi
    by_cases hij : i = j
    · subst hij
      rw [setLayer_layer_self, horig]
      exact ⟨hphase, (h.inside i hin).2⟩
    · rw [hnew i hij]
      apply h.inside i hi
  case closed =>
    intro i hi
    by_cases hij : i = j
    · subst hij
      rw [setLayer_layer_self] at hi ⊢
      apply hclosed hi
    · rw [hnew i hij] at hi ⊢
      apply h.closed i hi
  case panicked =>
    intro i hp
    by_cases hij : i = j
    · subst hij
      rw [setLayer_layer_self] at hp
      obtain ⟨hhandler, hinner⟩ := hpanicked hp
      use hhandler
      intro k hik hk
      by_cases hki : k = i
      · subst hki
        rw [setLayer_layer_self]
        exact hp
      · rw [hnew k hki]
        apply hinner k (Nat.lt_of_le_of_ne hik (Ne.symm hki)) hk
    · rw [hnew i hij] at hp
      obtain ⟨hhandler, hinner⟩ := h.panicked i hp
      use hhandler
      intro k hik hk
      have hkj : ¬ k = j := by
        rintro rfl
        rw [hinner k hik hk] at hwait
        cases hwait
      rw [hnew k hkj]
      apply hinner k hik hk
  case silent =>
    intro i hi hp
    apply Holds.setLayer _ hbw
    apply h.silent i hi
    intro rest hrest
    by_cases hij : i = j
    · subst hij
      rw [hwait] at hrest
      cases hrest
    · apply hp rest
      rw [hnew i hij, hrest]
  case leaving =>
    intro i rest hp
    by_cases hij : i = j
    · subst hij
      rw [setLayer_layer_self] at hp
      use []
      constructor
      · apply Holds.setLayer _ hbw
        apply h.silent i hj
        intro rest' hrest'
        rw [hwait] at hrest'
        cases hrest'
      · apply hleaving rest hp
    · rw [hnew i hij] at hp
      obtain ⟨sent, hsent, hout⟩ := h.leaving i rest hp
      use sent, hsent.setLayer hbw
      apply Outcome.mono hout
      · rfl
      · intro hf
        exact ⟨hf, rfl⟩
      · rw [hnew i hij]
      · intro k _ hk
        have hkj : ¬ k = j := by
          rintro rfl
          rw [hwait] at hk
          cases hk
        rw [hnew k hkj]
        exact ⟨hk, rfl⟩
  case handler => apply h.handler.setLayer hbw

/-- A layer writing the next part of its answer keeps the invariant. -/
theorem Sound.layerWrite {r : Nat} {req : Request} (h : Sound r req) {j : Nat} {op : WriterOp}
    {rest : List WriterOp} (hphase : (req.layer j).phase = .leaving (op :: rest)) :
  Sound r ((req.setLayer j { req.layer j with phase := .leaving rest }).receive j op)
  := by
  have hnew : ∀ i, ¬ i = j →
      (req.setLayer j { req.layer j with phase := .leaving rest }).layer i = req.layer i :=
    fun i hi => setLayer_layer_of_ne hi _
  have hin : j < req.entered := by
    apply h.lt_entered
    rw [hphase]
    simp
  constructor
  case layers =>
    rw [receive_timeouts]
    exact h.layers
  case entered_le =>
    rw [receive_depth, receive_entered]
    exact h.entered_le
  case started =>
    rw [receive_depth, receive_entered, receive_handler]
    exact h.started
  case unwritten =>
    rw [receive_depth, receive_entered, receive_written]
    exact h.unwritten
  case outside =>
    intro i hi
    rw [receive_entered] at hi
    have hij : ¬ i = j := by
      rintro rfl
      exact absurd hin (not_lt.mpr hi)
    have hkeep : ∀ k op, k ≤ j →
        ((req.setLayer j { req.layer j with phase := .leaving rest }).receive k op).layer i
          = req.layer i := by
      intro k op hk
      cases k with
      | zero => exact hnew i hij
      | succ k =>
          have hlt : j < i := lt_of_lt_of_le hin hi
          rw [Request.receive, setLayer_layer_of_ne (by omega), hnew i hij]
    rw [hkeep j op le_rfl]
    apply h.outside i hi
  case inside =>
    intro i hi
    rw [receive_entered] at hi
    rw [receive_phase, receive_orig]
    by_cases hij : i = j
    · subst hij
      rw [setLayer_layer_self]
      exact ⟨by simp, (h.inside i hin).2⟩
    · rw [hnew i hij]
      apply h.inside i hi
  case closed =>
    intro i hi
    rw [receive_closed] at hi
    rw [receive_phase]
    by_cases hij : i = j
    · subst hij
      rw [setLayer_layer_self]
      use rest
    · rw [hnew i hij] at hi ⊢
      apply h.closed i hi
  case panicked =>
    intro i hp
    rw [receive_phase] at hp
    rw [receive_handler, receive_depth]
    by_cases hij : i = j
    · subst hij
      rw [setLayer_layer_self] at hp
      cases hp
    · rw [hnew i hij] at hp
      obtain ⟨hpanicked, hinner⟩ := h.panicked i hp
      use hpanicked
      intro k hik hk
      rw [receive_phase]
      have hkj : ¬ k = j := by
        rintro rfl
        have := hinner k hik hk
        rw [hphase] at this
        cases this
      rw [hnew k hkj]
      apply hinner k hik hk
  case silent =>
    intro i hi hp
    rw [receive_depth] at hi
    have hij : ¬ i = j := by
      rintro rfl
      apply hp rest
      rw [receive_phase, setLayer_layer_self]
    apply Holds.receive_of_ne _ hij
    apply Holds.setLayer
    · apply h.silent i hi
      intro rest' hrest'
      apply hp rest'
      rw [receive_phase, hnew i hij, hrest']
    · exact Or.inl rfl
  case leaving =>
    intro i rest' hp
    rw [receive_phase] at hp
    have hmono : ∀ ops, Outcome r req i ops →
        Outcome r ((req.setLayer j { req.layer j with phase := .leaving rest }).receive j op) i ops := by
      intro ops hout
      apply Outcome.mono hout
      · rw [receive_timeouts]
        rfl
      · intro hf
        rw [receive_handler, receive_written]
        exact ⟨hf, rfl⟩
      · rw [receive_closed]
        by_cases hij : i = j
        · subst hij
          rw [setLayer_layer_self]
        · rw [hnew i hij]
      · intro k _ hk
        have hkj : ¬ k = j := by
          rintro rfl
          rw [hphase] at hk
          cases hk
        rw [receive_phase, receive_closed, hnew k hkj]
        exact ⟨hk, rfl⟩
    by_cases hij : i = j
    · subst hij
      rw [setLayer_layer_self] at hp
      cases hp
      obtain ⟨sent, hsent, hout⟩ := h.leaving i (op :: rest) hphase
      use sent ++ [op]
      constructor
      · apply Holds.receive
        apply hsent.setLayer
        exact Or.inl rfl
      · rw [List.append_assoc]
        apply hmono _ hout
    · rw [hnew i hij] at hp
      obtain ⟨sent, hsent, hout⟩ := h.leaving i rest' hp
      use sent
      constructor
      · apply Holds.receive_of_ne _ hij
        apply hsent.setLayer
        exact Or.inl rfl
      · apply hmono _ hout
  case handler =>
    rw [receive_depth, receive_written]
    apply Holds.receive_of_ne
    · apply h.handler.setLayer
      exact Or.inl rfl
    · have hne : req.depth ≠ j := (lt_of_lt_of_le hin h.entered_le).ne'
      exact hne

/-- A waiting layer is open. -/
theorem Sound.open_of_waiting {r : Nat} {req : Request} (h : Sound r req) {j : Nat}
    (hwait : (req.layer j).phase = .waiting) :
  (req.layer j).bw.closed = false
  := by
  by_contra hclosed
  obtain ⟨rest, hrest⟩ := h.closed j (Bool.not_eq_false _ ▸ hclosed)
  rw [hwait] at hrest
  cases hrest

/-- What a waiting layer flushes once the rest of the chain has finished. -/
theorem Sound.outcome_flushTo {r : Nat} {req : Request} (h : Sound r req) {j : Nat}
    (hj : j < req.depth) (hwait : (req.layer j).phase = .waiting)
    (hfinished : req.innerFinished j = true) {order : Header}
    (horder : SameHeader order (req.layer j).bw.head) :
  Outcome r req j ((req.layer j).bw.flushTo order)
  := by
  have hopen := h.open_of_waiting hwait
  unfold innerFinished at hfinished
  split at hfinished
  · rename_i hinner
    have hreturned := of_decide_eq_true hfinished
    obtain ⟨sent, hsent, hout⟩ := h.leaving (j + 1) [] hreturned
    rw [List.append_nil] at hout
    rw [hsent hopen] at horder ⊢
    obtain htimeout | ⟨⟨hdone, order', horder', rfl⟩, hopen', hreturned'⟩ := hout
    · left
      apply htimeout.flushTo horder
    · right
      rw [composed_flushTo] at horder
      refine ⟨⟨hdone, order, horder.trans horder', ?_⟩, ?_, ?_⟩
      · apply flushTo_composed_flushTo
      · intro i hji hi
        obtain rfl | hlt := Nat.eq_or_lt_of_le hji
        · exact hopen
        · apply hopen' i hlt hi
      · intro i hji hi
        obtain rfl | hlt := Nat.eq_or_lt_of_le (Nat.succ_le_of_lt hji)
        · exact hreturned
        · apply hreturned' i hlt hi
  · rename_i hinner
    have hdepth : req.depth = j + 1 := Nat.le_antisymm (not_lt.mp hinner) hj
    have hhandler := h.handler
    rw [hdepth] at hhandler
    right
    refine ⟨⟨of_decide_eq_true hfinished, order, ?_, ?_⟩, ?_, ?_⟩
    · rw [hhandler hopen] at horder
      exact horder
    · rw [hhandler hopen]
      rfl
    · intro i hji hi
      obtain rfl : i = j := by omega
      exact hopen
    · intro i hji hi
      omega

/-- A layer that flushes keeps the invariant. -/
theorem Sound.selectFinished {r : Nat} {req : Request} (h : Sound r req) {j : Nat}
    (hj : j < req.depth) (hwait : (req.layer j).phase = .waiting)
    (hfinished : req.innerFinished j = true) {order : Header}
    (horder : SameHeader order (req.layer j).bw.head) :
  Sound r (req.setLayer j
    { req.layer j with phase := .leaving ((req.layer j).bw.flushTo order) })
  := by
  apply h.select hj hwait
  case horig => rfl
  case hphase => simp
  case hbw => exact Or.inl rfl
  case hclosed =>
    intro hclosed
    rw [h.open_of_waiting hwait] at hclosed
    cases hclosed
  case hpanicked =>
    intro hp
    cases hp
  case hleaving =>
    rintro rest ⟨rfl⟩
    apply Outcome.mono (h.outcome_flushTo hj hwait hfinished horder)
    · rfl
    · intro hf
      exact ⟨hf, rfl⟩
    · rw [setLayer_layer_self]
    · intro i hji hi
      rw [setLayer_layer_of_ne (ne_of_gt hji)]
      exact ⟨hi, rfl⟩

/-- A layer that is unwound keeps the invariant. -/
theorem Sound.selectPanic {r : Nat} {req : Request} (h : Sound r req) {j : Nat}
    (hj : j < req.depth) (hwait : (req.layer j).phase = .waiting)
    (hpanicked : req.innerPanicked j = true) :
  Sound r (req.setLayer j { req.layer j with phase := .panicked })
  := by
  apply h.select hj hwait
  case horig => rfl
  case hphase => simp
  case hbw => exact Or.inl rfl
  case hclosed =>
    intro hclosed
    rw [h.open_of_waiting hwait] at hclosed
    cases hclosed
  case hpanicked =>
    intro _
    unfold innerPanicked at hpanicked
    split at hpanicked
    · obtain ⟨hhandler, hinner⟩ := h.panicked (j + 1) (of_decide_eq_true hpanicked)
      exact ⟨hhandler, hinner⟩
    · use of_decide_eq_true hpanicked
      intro i hji hi
      omega
  case hleaving =>
    intro rest hrest
    cases hrest

/-- A layer that times out keeps the invariant. -/
theorem Sound.selectDone {r : Nat} {req : Request} (h : Sound r req) {j : Nat}
    (hj : j < req.depth) (hwait : (req.layer j).phase = .waiting) :
  Sound r (req.setLayer j {
    req.layer j with
    bw := { (req.layer j).bw with status := timeoutStatus, closed := true }
    phase := .leaving timeoutWrites })
  := by
  apply h.select hj hwait
  case horig => rfl
  case hphase => simp
  case hbw => exact Or.inr rfl
  case hclosed =>
    intro _
    use timeoutWrites
  case hpanicked =>
    intro hp
    cases hp
  case hleaving =>
    rintro rest ⟨rfl⟩
    left
    exact Or.inl rfl

/-! ### What the client receives -/

/-- Nothing has reached the client, or the outermost layer is sending exactly one of the
response of the handler and the timeout response, or the handler has panicked and nothing
is sent. -/
def Untorn (r : Nat) (req : Request) : Prop :=
  match (req.layer 0).phase with
  | .outside | .waiting => req.out = []
  | .leaving rest => Xor (IsComplete r req (req.out ++ rest)) (IsTimeout (req.out ++ rest))
  | .panicked => req.out = [] ∧ req.handler = .panicked

/-- The client of a sound request receives one response at most, and no part of
another. -/
theorem Sound.untorn {r : Nat} {req : Request} (h : Sound r req) :
  req.Untorn r
  := by
  have hdepth : 0 < req.depth := List.length_pos_iff.mpr h.layers
  unfold Untorn
  split
  · rename_i hphase
    apply h.silent 0 hdepth
    intro rest hrest
    rw [hphase] at hrest
    cases hrest
  · rename_i hphase
    apply h.silent 0 hdepth
    intro rest hrest
    rw [hphase] at hrest
    cases hrest
  · rename_i rest hphase
    obtain ⟨sent, rfl, hout⟩ := h.leaving 0 rest hphase
    obtain htimeout | ⟨hcomplete, -⟩ := hout
    · right
      use htimeout
      rintro ⟨-, order, -, heq⟩
      rw [heq] at htimeout
      apply not_isTimeout_handlerWrites htimeout
    · left
      use hcomplete
      obtain ⟨-, order, -, heq⟩ := hcomplete
      rw [heq]
      apply not_isTimeout_handlerWrites
  · rename_i hphase
    constructor
    · apply h.silent 0 hdepth
      intro rest hrest
      rw [hphase] at hrest
      cases hrest
    · exact (h.panicked 0 hphase).1

/-- Once a layer has timed out, the client receives the timeout response. -/
theorem Sound.timedOut {r : Nat} {req : Request} (h : Sound r req) {i : Nat}
    (hclosed : (req.layer i).bw.closed = true) :
  ∃ rest, IsTimeout (req.out ++ rest) ∧ ((req.layer 0).left = true → rest = [])
  := by
  obtain ⟨resti, hphasei⟩ := h.closed i hclosed
  have hi : i < req.entered := by
    apply h.lt_entered
    rw [hphasei]
    simp
  have hdepth : i < req.depth := lt_of_lt_of_le hi h.entered_le
  have hzero := (h.inside 0 (Nat.zero_lt_of_lt hi)).1
  cases hphase : (req.layer 0).phase with
  | outside => exact absurd hphase hzero
  | waiting =>
      use timeoutWrites
      have hout : req.out = [] := by
        apply h.silent 0 (Nat.zero_lt_of_lt hdepth)
        intro rest hrest
        rw [hphase] at hrest
        cases hrest
      constructor
      · rw [hout]
        exact Or.inl rfl
      · simp [Layer.left, hphase]
  | leaving rest =>
      use rest
      constructor
      · obtain ⟨sent, rfl, hout⟩ := h.leaving 0 rest hphase
        obtain htimeout | ⟨-, hopen, -⟩ := hout
        · exact htimeout
        · rw [hopen i (Nat.zero_le i) hdepth] at hclosed
          cases hclosed
      · simp [Layer.left, hphase]
  | panicked =>
      have := (h.panicked 0 hphase).2 i (Nat.zero_le i) hdepth
      rw [hphasei] at this
      cases this

/-- Everything the client of a sound request receives was written by the request's handler
or by the gateway. -/
theorem Sound.authors {r : Nat} {req : Request} (h : Sound r req) :
    ∀ op ∈ req.out, ∀ a ∈ op.authors, a = .gateway ∨ a = .handler r
  := by
  intro op hop a ha
  have huntorn := h.untorn
  unfold Untorn at huntorn
  have hnone : req.out = [] → False := by
    intro hout
    rw [hout] at hop
    cases hop
  split at huntorn
  · exact (hnone huntorn).elim
  · exact (hnone huntorn).elim
  · rename_i rest _
    have hmem : op ∈ req.out ++ rest := List.mem_append_left rest hop
    obtain ⟨⟨-, order, horder, heq⟩, -⟩ | ⟨htimeout, -⟩ := huntorn
    · rw [heq] at hmem
      have hfinal : (final r req).AuthoredBy fun a => a = .gateway ∨ a = .handler r := by
        apply authoredBy_composed (Or.inl rfl)
        · refine ⟨Or.inl rfl, ?_, ?_⟩
          · intro e he
            cases he
          · intro x hx
            cases hx
        · intro op' hop' a' ha'
          obtain ⟨w, -, rfl⟩ := List.mem_map.mp hop'
          cases w with
          | addHeader | setHeader | writeHeader =>
              right
              exact List.mem_singleton.mp ha'
          | delHeader | writeHeaderNow => cases ha'
          | write data =>
              right
              simp only [HandlerWrite.tag, WriterOp.authors, List.map_map, List.mem_map,
                Function.comp_apply] at ha'
              obtain ⟨b, -, rfl⟩ := ha'
              rfl
      apply hfinal.flushTo (Or.inl rfl) horder op hmem a ha
    · left
      apply htimeout.authors op hmem a ha
  · exact (hnone huntorn.1).elim

end Request

end Paygate.Gateway
