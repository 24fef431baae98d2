import Paygate.Gateway.CacheKey
import Paygate.Gateway.CacheRule
import Paygate.Gateway.RedisStore

/-!
# The content of the cache

The gateway while requests are served at the same time, with a cache that only they write.
If no Context is handed to a request before the goroutines it was handed to earlier have
ended (`ContextFree`), every goroutine has its Context to itself, and what the cache holds
under the key of a text is a result the provider returned for this text in a request that
was answered with status 200.

A goroutine that outlives its request runs the handlers of the next one instead, and stores
the result of another text.
-/

namespace Paygate.Gateway.Pooled

open Text Json Program

/-! ### Steps of a goroutine that has its Context to itself -/

/-- What a goroutine on its own knows is what its buffer and its writers hold; a discarded
response has the status of a timeout. -/
structure Goroutine.Shows (i : Nat) (g : Goroutine) (x : Own) : Prop where
  discarded : g.buffer.closed = true → g.buffer.Status.val ≠ 200
  kept : g.buffer.closed = false → g.buffer.Status.val = x.sent
  writer : x.context.writer = .buffer i
    ∨ ∃ n, x.context.writer = .cached i n (.buffer i) ∧ g.captured[n]? = some x.captured

/-- The buffer after a response of a handler. -/
def responded (b : BufferedWriter) (author status : Nat) (body : List UInt8) : BufferedWriter :=
  (b.apply ((HandlerWrite.writeHeader status).tag author)).apply
    ((HandlerWrite.write body).tag author)

theorem responded_of_closed {b : BufferedWriter} (h : b.closed = true) (author status : Nat)
    (body : List UInt8) :
  responded b author status body = b
  := by
  simp [responded, HandlerWrite.tag, BufferedWriter.apply, h]

theorem responded_of_open {b : BufferedWriter} (h : b.closed = false) (author status : Nat)
    (body : List UInt8) :
  (responded b author status body).closed = false
    ∧ (responded b author status body).Status.val = if status = 0 then 200 else status
  := by
  simp only [responded, HandlerWrite.tag, BufferedWriter.apply, h, Bool.false_eq_true, if_false,
    BufferedWriter.Status]
  refine ⟨trivial, ?_⟩
  split
  · rfl
  · rfl

/-- A response of a goroutine on its own. -/
theorem Goroutine.Shows.respond {i : Nat} {g : Goroutine} {x : Own} (h : g.Shows i x)
    {captured : List (List UInt8)} (author status : Nat) (body : List UInt8)
    (hwriter : x.context.writer = .buffer i ∨ ∃ n, x.context.writer = .cached i n (.buffer i)
      ∧ captured[n]? = some (x.captured ++ body)) :
  Goroutine.Shows i
    { g with buffer := responded g.buffer author status body, captured := captured }
    (x.respond status body)
  := by
  cases hclosed : g.buffer.closed with
  | true =>
      have hsame := responded_of_closed hclosed author status body
      refine ⟨?_, ?_, hwriter⟩
      · intro _
        rw [hsame]
        exact h.discarded hclosed
      · intro hopen
        rw [hsame, hclosed] at hopen
        cases hopen
  | false =>
      obtain ⟨hopen, hstatus⟩ := responded_of_open hclosed author status body
      refine ⟨?_, ?_, hwriter⟩
      · intro hclosed'
        rw [hopen] at hclosed'
        cases hclosed'
      · intro _
        exact hstatus

/-- Every call was allowed by the history before it. -/
def Lawful (allowed : History → Call → Prop) : History → Prop
  | [] => True
  | e :: h => allowed h e.call ∧ Lawful allowed h

theorem Lawful.allowed {allowed : History → Call → Prop} {later earlier : History}
    {e : Event Call Answer} (h : Lawful allowed (later ++ e :: earlier)) :
  allowed earlier e.call
  := by
  induction later with
  | nil => exact h.1
  | cons e' later ih => exact ih h.2

namespace Server

/-- Goroutine `i` makes a step: it is now as given, and so is its Context; the events are
those of the step. -/
def proceed (w : Server) (i : Nat) (g : Goroutine) (ctx : Context) (events : History) : Server :=
  { w with
    goroutines := w.goroutines.set i g
    contexts := Function.update w.contexts g.context (some ctx)
    log := events.map (fun e => (i, e)) ++ w.log }

theorem history_proceed_self (w : Server) (i : Nat) (g : Goroutine) (ctx : Context)
    (events : History) :
  (w.proceed i g ctx events).history i = events ++ w.history i
  := by
  simp [history, proceed, List.filter_map, Function.comp_def]

theorem history_proceed_of_ne (w : Server) {i j : Nat} (hne : i ≠ j) (g : Goroutine) (ctx : Context)
    (events : History) :
  (w.proceed i g ctx events).history j = w.history j
  := by
  simp [history, proceed, List.filter_map, Function.comp_def, hne]

/-- What was in the history of a request still is. -/
theorem mem_history_proceed {w : Server} {i j : Nat} {g : Goroutine} {ctx : Context}
    {events : History} {e : Event Call Answer} (he : e ∈ w.history j) :
  e ∈ (w.proceed i g ctx events).history j
  := by
  by_cases hij : i = j
  · subst hij
    rw [history_proceed_self]
    exact List.mem_append_right _ he
  · rw [history_proceed_of_ne w hij]
    exact he

/-- Goroutine `i` is as given after a step, with the events of the step. -/
structure Follows (s : Settings) (w : Server) (i : Nat) (g g' : Goroutine) (x' : Own)
    (events : History) : Prop where
  request : g'.request = g.request
  context : g'.context = g.context
  shows : g'.Shows i x'
  undisturbed : Undisturbed s (Sourced s g.request) Expected g'.frames x' (events ++ w.history i)
  lawful : Lawful (Sourced s g.request) (events ++ w.history i)

variable {s : Settings} {w w' : Server} {i : Nat} {g : Goroutine} {x : Own}

/-- Writing a response changes the goroutine that has its writer to itself only. -/
theorem write_setGoroutine (hi : i < w.goroutines.length) (hshows : g.Shows i x)
    (author status : Nat) (body : List UInt8) :
  ∃ g', (w.setGoroutine i g).write author status body x.context.writer = w.setGoroutine i g'
    ∧ g'.request = g.request ∧ g'.context = g.context ∧ g'.frames = g.frames
    ∧ g'.Shows i (x.respond status body)
  := by
  have hmodify : ∀ (g : Goroutine) (f : Goroutine → Goroutine),
      (w.goroutines.set i g).modify i f = w.goroutines.set i (f g) := by
    intro g f
    rw [List.modify_eq_set_getElem?, List.getElem?_set_self hi]
    simp
  obtain hwriter | ⟨n, hwriter, hn⟩ := hshows.writer
  · refine ⟨{ g with buffer := responded g.buffer author status body }, ?_, rfl, rfl, rfl,
      hshows.respond author status body (Or.inl hwriter)⟩
    simp only [hwriter, write, setGoroutine, hmodify, responded]
  · refine ⟨{ g with
        buffer := responded g.buffer author status body
        captured := g.captured.modify n (· ++ body) }, ?_, rfl, rfl, rfl,
      hshows.respond author status body (Or.inr ⟨n, hwriter, ?_⟩)⟩
    · simp only [hwriter, write, setGoroutine, hmodify, responded]
    · simp [hn]

theorem advance_cases (hg : w.goroutines[i]? = some g) (hctx : w.contexts g.context = some x.context)
    (hshows : g.Shows i x)
    (hrun : Undisturbed s (Sourced s g.request) Expected g.frames x (w.history i))
    (hlawful : Lawful (Sourced s g.request) (w.history i)) (h : w.advance s i = some w') :
  ∃ g' x' events, w' = w.proceed i g' x'.context events ∧ Follows s w i g g' x' events
    ∧ ∀ e ∈ events, e.call.isJson = true
  := by
  have hset : ∀ g' : Goroutine, g'.context = g.context →
      w.setGoroutine i g' = w.proceed i g' x.context [] := by
    intro g' hcontext
    simp [setGoroutine, proceed, hcontext, ← hctx]
  simp only [advance, hg, hctx, Option.bind_eq_bind, Option.bind_some] at h
  generalize hframes : g.frames = frames at h hrun
  cases hrun with
  | finished => cases h
  | leave hrest =>
      obtain rfl := Option.some.inj h
      refine ⟨_, x, [], hset _ rfl, ⟨rfl, rfl, ?_, hrest, hlawful⟩, List.forall_mem_nil _⟩
      exact ⟨hshows.discarded, hshows.kept, hshows.writer⟩
  | world hc hf => cases h
  | lookup hf =>
      obtain rfl := Option.some.inj h
      refine ⟨_, x, [], hset _ rfl, ⟨rfl, rfl, ?_, hf, hlawful⟩, List.forall_mem_nil _⟩
      exact ⟨hshows.discarded, hshows.kept, hshows.writer⟩
  | update hwriter hf =>
      obtain rfl := Option.some.inj h
      refine ⟨{ g with frames := _ }, { x with context := _ }, [], rfl,
        ⟨rfl, rfl, ?_, hf, hlawful⟩, List.forall_mem_nil _⟩
      refine ⟨hshows.discarded, hshows.kept, ?_⟩
      simp only [hwriter]
      exact hshows.writer
  | wrapWriter hbuffer hf =>
      obtain rfl := Option.some.inj h
      have hwriter : x.context.writer = .buffer i := by
        obtain ⟨r, hr⟩ := hbuffer
        obtain hself | ⟨n, hcached, -⟩ := hshows.writer
        · exact hself
        · rw [hr] at hcached
          cases hcached
      refine ⟨{ g with frames := _, captured := g.captured ++ [[]] },
        { x with context := _, captured := [] }, [], rfl,
        ⟨rfl, rfl, ⟨hshows.discarded, hshows.kept, ?_⟩, hf i g.captured.length, hlawful⟩,
        List.forall_mem_nil _⟩
      refine Or.inr ⟨g.captured.length, ?_, ?_⟩
      · rw [hwriter]
      · simp
  | @json status body k rest x h hallowed hf =>
      obtain rfl := Option.some.inj h
      have hi : i < w.goroutines.length := (List.getElem?_eq_some_iff.mp hg).1
      have hshows' : Goroutine.Shows i { g with frames := k () :: rest } x :=
        ⟨hshows.discarded, hshows.kept, hshows.writer⟩
      obtain ⟨g', hwrite, hrequest, hcontext, hframes', hshows''⟩ :=
        write_setGoroutine hi hshows' i status body
      refine ⟨g', x.respond status body, [⟨.json status body, ()⟩], ?_,
        ⟨hrequest, hcontext, hshows'', ?_, hallowed, hlawful⟩, ?_⟩
      · simp only [hwrite, hset g' hcontext, proceed, List.map_cons, List.map_nil,
          List.singleton_append]
        rfl
      · rw [hframes']
        exact hf
      · simp only [List.mem_singleton, forall_eq]
        rfl
  | inspect hw hcached h200 hother =>
      obtain rfl := Option.some.inj h
      obtain ⟨r, n, inner, hcached⟩ := hcached
      obtain hbuffer | ⟨m, hwriter, hm⟩ := hshows.writer
      · rw [← hw, hcached] at hbuffer
        cases hbuffer
      · subst hw
        have hstatus : w.status x.context.writer = g.buffer.Status.val := by
          rw [hwriter]
          simp only [status, hg, Option.map_some, Option.getD_some]
        have hcopied : w.copied x.context.writer = x.captured := by
          rw [hwriter]
          simp only [copied, hg, hm, Option.bind_some, Option.getD_some]
        refine ⟨_, x, [], hset _ rfl, ⟨rfl, rfl, ?_, ?_, hlawful⟩, List.forall_mem_nil _⟩
        · exact ⟨hshows.discarded, hshows.kept, hshows.writer⟩
        · rw [hstatus, hcopied]
          by_cases hval : g.buffer.Status.val = 200
          · rw [hval]
            apply h200
            cases hclosed : g.buffer.closed with
            | true => exact absurd hval (hshows.discarded hclosed)
            | false => exact (hshows.kept hclosed).symm.trans hval
          · exact hother _ _ hval
  | next hf =>
      obtain rfl := Option.some.inj h
      refine ⟨{ g with frames := _ }, { x with context := _ }, [], rfl,
        ⟨rfl, rfl, ?_, hf, hlawful⟩, List.forall_mem_nil _⟩
      exact ⟨hshows.discarded, hshows.kept, hshows.writer⟩

/-! ### The invariant -/

/-- The provider returned the result for the text in a request that was answered with it and
with status 200. -/
def Summarized (w : Server) (text result : List UInt8) : Prop :=
  ∃ i, Summary text result (w.history i)

/-- The value is that of a result for a text with the key. -/
def Holds (s : Settings) (texts : Set (List UInt8)) (w : Server) (key val : List UInt8) : Prop :=
  ∃ text ∈ texts, key = getCacheKey text (getModel s.env)
    ∧ ∃ cached, readCachedResponse val = some cached ∧ w.Summarized text cached.result

/-- The invariant of the server.  Every goroutine that runs has its Context to itself, and all
have followed the rule; what is cached, was found or is to be stored is a result for a text
with the key. -/
structure Sound (s : Settings) (texts : Set (List UInt8)) (w : Server) : Prop where
  running : ∀ (i : Nat) (g : Goroutine), w.goroutines[i]? = some g → g.frames ≠ [] →
    ∃ x, w.contexts g.context = some x.context ∧ g.Shows i x
      ∧ Undisturbed s (Sourced s g.request) Expected g.frames x (w.history i)
  apart : ∀ (i j : Nat) (g g' : Goroutine), w.goroutines[i]? = some g →
    w.goroutines[j]? = some g' → g.frames ≠ [] → g'.frames ≠ [] → g.context = g'.context → i = j
  known : ∀ e ∈ w.log, e.1 < w.goroutines.length
  lawful : ∀ (i : Nat) (g : Goroutine), w.goroutines[i]? = some g → Lawful (Sourced s g.request) (w.history i)
  requested : ∀ (i : Nat) (g : Goroutine), w.goroutines[i]? = some g →
    ∀ text, readSummarizeRequest g.request.body.received = some text → text ∈ texts
  found : ∀ i key val, ⟨.cacheGet key, some val⟩ ∈ w.history i → w.Holds s texts key val
  cached : ∀ key val, w.cache key = some val → w.Holds s texts key val
  stored : ∀ key data, (key, data) ∈ w.stores → (∃ u, data = utf8 u)
    ∧ ∃ text ∈ texts, key = getCacheKey text (getModel s.env) ∧ w.Summarized text data

variable {texts : Set (List UInt8)}

theorem Summarized.mono {text result : List UInt8} (h : w.Summarized text result)
    (hsub : ∀ i, w.history i ⊆ w'.history i) :
  w'.Summarized text result
  := by
  obtain ⟨i, hgenerated, hsent⟩ := h
  exact ⟨i, hsub i hgenerated, hsub i hsent⟩

theorem Holds.mono {key val : List UInt8} (h : w.Holds s texts key val)
    (hsub : ∀ i, w.history i ⊆ w'.history i) :
  w'.Holds s texts key val
  := by
  obtain ⟨text, htext, hkey, cached, hread, hsummarized⟩ := h
  exact ⟨text, htext, hkey, cached, hread, hsummarized.mono hsub⟩

/-- A step of a goroutine keeps the invariant, if what it finds in the cache was there. -/
theorem Sound.proceed {g' : Goroutine} {x' : Own} {events : History} (hw : w.Sound s texts)
    (hg : w.goroutines[i]? = some g) (hruns : g.frames ≠ []) (hfollows : Follows s w i g g' x' events)
    (hfound : ∀ key val, ⟨.cacheGet key, some val⟩ ∈ events → w.Holds s texts key val) :
  (w.proceed i g' x'.context events).Sound s texts
  := by
  have hi : i < w.goroutines.length := (List.getElem?_eq_some_iff.mp hg).1
  have hsub : ∀ j, w.history j ⊆ (w.proceed i g' x'.context events).history j :=
    fun j e he => mem_history_proceed he
  have hcases : ∀ {j : Nat} {g₁ : Goroutine},
      (w.proceed i g' x'.context events).goroutines[j]? = some g₁ →
      (j = i ∧ g₁ = g') ∨ (j ≠ i ∧ w.goroutines[j]? = some g₁) := by
    intro j g₁ hg₁
    change (w.goroutines.set i g')[j]? = some g₁ at hg₁
    by_cases hij : j = i
    · subst hij
      rw [List.getElem?_set_self hi] at hg₁
      exact Or.inl ⟨rfl, (Option.some.inj hg₁).symm⟩
    · rw [List.getElem?_set_ne (Ne.symm hij)] at hg₁
      exact Or.inr ⟨hij, hg₁⟩
  constructor
  case running =>
    intro j g₁ hg₁ hruns₁
    obtain ⟨rfl, rfl⟩ | ⟨hij, hg₁⟩ := hcases hg₁
    · refine ⟨x', Function.update_self .., hfollows.shows, ?_⟩
      rw [history_proceed_self, hfollows.request]
      exact hfollows.undisturbed
    · obtain ⟨x₁, hctx, hshows, hund⟩ := hw.running j g₁ hg₁ hruns₁
      have hne : g₁.context ≠ g'.context := by
        intro heq
        exact hij (hw.apart j i g₁ g hg₁ hg hruns₁ hruns (heq.trans hfollows.context))
      refine ⟨x₁, (Function.update_of_ne hne ..).trans hctx, hshows, ?_⟩
      rw [history_proceed_of_ne w (Ne.symm hij)]
      exact hund
  case apart =>
    intro j k g₁ g₂ hg₁ hg₂ hruns₁ hruns₂ heq
    obtain ⟨rfl, rfl⟩ | ⟨-, hold₁⟩ := hcases hg₁
    · obtain ⟨rfl, rfl⟩ | ⟨-, hold₂⟩ := hcases hg₂
      · rfl
      · exact hw.apart _ _ _ _ hg hold₂ hruns hruns₂ (hfollows.context.symm.trans heq)
    · obtain ⟨rfl, rfl⟩ | ⟨-, hold₂⟩ := hcases hg₂
      · exact hw.apart _ _ _ _ hold₁ hg hruns₁ hruns (heq.trans hfollows.context)
      · exact hw.apart _ _ _ _ hold₁ hold₂ hruns₁ hruns₂ heq
  case known =>
    intro e he
    change e.1 < (w.goroutines.set i g').length
    rw [List.length_set]
    obtain he | he := List.mem_append.mp he
    · obtain ⟨e', -, rfl⟩ := List.mem_map.mp he
      exact hi
    · exact hw.known e he
  case lawful =>
    intro j g₁ hg₁
    obtain ⟨rfl, rfl⟩ | ⟨hij, hg₁⟩ := hcases hg₁
    · rw [history_proceed_self, hfollows.request]
      exact hfollows.lawful
    · rw [history_proceed_of_ne w (Ne.symm hij)]
      exact hw.lawful j g₁ hg₁
  case requested =>
    intro j g₁ hg₁
    obtain ⟨rfl, rfl⟩ | ⟨hij, hg₁⟩ := hcases hg₁
    · rw [hfollows.request]
      exact hw.requested _ g hg
    · exact hw.requested j g₁ hg₁
  case found =>
    intro j key val hmem
    apply Holds.mono _ hsub
    by_cases hij : i = j
    · subst hij
      rw [history_proceed_self] at hmem
      obtain hmem | hmem := List.mem_append.mp hmem
      · exact hfound key val hmem
      · exact hw.found i key val hmem
    · rw [history_proceed_of_ne w hij] at hmem
      exact hw.found j key val hmem
  case cached =>
    intro key val hval
    exact (hw.cached key val hval).mono hsub
  case stored =>
    intro key data hmem
    obtain ⟨htext, text, hmem, hkey, hsummarized⟩ := hw.stored key data hmem
    exact ⟨htext, text, hmem, hkey, hsummarized.mono hsub⟩

/-- Replacing a goroutine by one that has ended, or is the same as far as its handlers can tell,
keeps the invariant. -/
theorem Sound.setGoroutine {g' : Goroutine} (hw : w.Sound s texts) (hg : w.goroutines[i]? = some g)
    (hrequest : g'.request = g.request) (hcontext : g'.context = g.context)
    (hframes : g'.frames ≠ [] → g'.frames = g.frames) (hshows : ∀ x, g.Shows i x → g'.Shows i x) :
  (w.setGoroutine i g').Sound s texts
  := by
  have hi : i < w.goroutines.length := (List.getElem?_eq_some_iff.mp hg).1
  have hcases : ∀ {j : Nat} {g₁ : Goroutine}, (w.setGoroutine i g').goroutines[j]? = some g₁ →
      ∃ g₀, w.goroutines[j]? = some g₀ ∧ g₁.request = g₀.request ∧ g₁.context = g₀.context
        ∧ (g₁.frames ≠ [] → g₁.frames = g₀.frames) ∧ ∀ x, g₀.Shows j x → g₁.Shows j x := by
    intro j g₁ hg₁
    change (w.goroutines.set i g')[j]? = some g₁ at hg₁
    by_cases hij : i = j
    · subst hij
      rw [List.getElem?_set_self hi] at hg₁
      obtain rfl := Option.some.inj hg₁
      exact ⟨g, hg, hrequest, hcontext, hframes, hshows⟩
    · rw [List.getElem?_set_ne hij] at hg₁
      exact ⟨g₁, hg₁, rfl, rfl, fun _ => rfl, fun _ h => h⟩
  constructor
  case running =>
    intro j g₁ hg₁ hruns
    obtain ⟨g₀, hg₀, hrequest₀, hcontext₀, hframes₀, hshows₀⟩ := hcases hg₁
    have hsame := hframes₀ hruns
    obtain ⟨x, hctx, hx, hund⟩ := hw.running j g₀ hg₀ (hsame ▸ hruns)
    refine ⟨x, ?_, hshows₀ x hx, ?_⟩
    · rw [hcontext₀]
      exact hctx
    · rw [hrequest₀, hsame]
      exact hund
  case apart =>
    intro j k g₁ g₂ hg₁ hg₂ hruns₁ hruns₂ heq
    obtain ⟨g₃, hg₃, -, hcontext₃, hframes₃, -⟩ := hcases hg₁
    obtain ⟨g₄, hg₄, -, hcontext₄, hframes₄, -⟩ := hcases hg₂
    rw [hframes₃ hruns₁] at hruns₁
    rw [hframes₄ hruns₂] at hruns₂
    rw [hcontext₃, hcontext₄] at heq
    exact hw.apart j k g₃ g₄ hg₃ hg₄ hruns₁ hruns₂ heq
  case known =>
    intro e he
    change e.1 < (w.goroutines.set i g').length
    rw [List.length_set]
    exact hw.known e he
  case lawful =>
    intro j g₁ hg₁
    obtain ⟨g₀, hg₀, hrequest₀, -⟩ := hcases hg₁
    rw [hrequest₀]
    exact hw.lawful j g₀ hg₀
  case requested =>
    intro j g₁ hg₁
    obtain ⟨g₀, hg₀, hrequest₀, -⟩ := hcases hg₁
    rw [hrequest₀]
    exact hw.requested j g₀ hg₀
  case found => exact hw.found
  case cached => exact hw.cached
  case stored => exact hw.stored

/-- A request that arrives with a Context no goroutine uses keeps the invariant. -/
theorem Sound.accept {c : Nat} {request : HttpRequest} {correlationID : List UInt8}
    (hw : w.Sound s texts) (hfree : ∀ g ∈ w.goroutines, g.context = c → g.frames = [])
    (htexts : ∀ text, readSummarizeRequest request.body.received = some text → text ∈ texts) :
  (({ w with goroutines := w.goroutines ++ [Goroutine.init request c] }).setContext c
    (Context.init w.goroutines.length request correlationID)).Sound s texts
  := by
  have hcases : ∀ {j : Nat} {g₁ : Goroutine},
      (w.goroutines ++ [Goroutine.init request c])[j]? = some g₁ →
      w.goroutines[j]? = some g₁ ∨ (j = w.goroutines.length ∧ g₁ = .init request c) := by
    intro j g₁ hg₁
    by_cases hj : j < w.goroutines.length
    · rw [List.getElem?_append_left hj] at hg₁
      exact Or.inl hg₁
    · rw [List.getElem?_append_right (not_lt.mp hj)] at hg₁
      obtain ⟨hlast, heq⟩ := List.getElem?_eq_some_iff.mp hg₁
      simp only [List.length_singleton] at hlast
      refine Or.inr ⟨by omega, ?_⟩
      exact List.mem_singleton.mp (List.mem_of_getElem? hg₁)
  have hne : ∀ {j : Nat} {g₁ : Goroutine}, w.goroutines[j]? = some g₁ → g₁.frames ≠ [] →
      g₁.context ≠ c := by
    intro j g₁ hg₁ hruns heq
    exact hruns (hfree g₁ (List.mem_of_getElem? hg₁) heq)
  have hnil : w.history w.goroutines.length = [] := by
    rw [history, List.map_eq_nil_iff, List.filter_eq_nil_iff]
    intro e he
    have hlt := hw.known e he
    simp only [decide_eq_true_eq]
    omega
  constructor
  case running =>
    intro j g₁ hg₁ hruns
    obtain hg₁ | ⟨rfl, rfl⟩ := hcases hg₁
    · obtain ⟨x, hctx, hx, hund⟩ := hw.running j g₁ hg₁ hruns
      exact ⟨x, (Function.update_of_ne (hne hg₁ hruns) ..).trans hctx, hx, hund⟩
    · refine ⟨.init w.goroutines.length request correlationID, Function.update_self .., ?_, ?_⟩
      · refine ⟨?_, ?_, Or.inl rfl⟩
        · intro hclosed
          cases hclosed
        · intro _
          rfl
      · change Undisturbed _ _ _ _ _ (w.history w.goroutines.length)
        rw [hnil]
        exact undisturbed_init s _ request correlationID
  case apart =>
    intro j k g₁ g₂ hg₁ hg₂ hruns₁ hruns₂ heq
    obtain hold₁ | ⟨rfl, rfl⟩ := hcases hg₁
    · obtain hold₂ | ⟨rfl, rfl⟩ := hcases hg₂
      · exact hw.apart j k g₁ g₂ hold₁ hold₂ hruns₁ hruns₂ heq
      · exact absurd heq (hne hold₁ hruns₁)
    · obtain hold₂ | ⟨rfl, rfl⟩ := hcases hg₂
      · exact absurd heq.symm (hne hold₂ hruns₂)
      · rfl
  case known =>
    intro e he
    have hlt := hw.known e he
    change e.1 < (w.goroutines ++ [_]).length
    rw [List.length_append]
    exact Nat.lt_add_right _ hlt
  case lawful =>
    intro j g₁ hg₁
    obtain hold | ⟨rfl, rfl⟩ := hcases hg₁
    · exact hw.lawful j g₁ hold
    · change Lawful _ (w.history w.goroutines.length)
      rw [hnil]
      trivial
  case requested =>
    intro j g₁ hg₁
    obtain hold | ⟨rfl, rfl⟩ := hcases hg₁
    · exact hw.requested j g₁ hold
    · exact htexts
  case found => exact hw.found
  case cached => exact hw.cached
  case stored => exact hw.stored

/-- Changing the cache and the stores keeps the invariant if what is there now is sound. -/
theorem Sound.setCache {cache : List UInt8 → Option (List UInt8)}
    {stores : List (List UInt8 × List UInt8)} (hw : w.Sound s texts)
    (hcache : ∀ key val, cache key = some val → w.Holds s texts key val)
    (hstores : ∀ key data, (key, data) ∈ stores → (∃ u, data = utf8 u)
      ∧ ∃ text ∈ texts, key = getCacheKey text (getModel s.env) ∧ w.Summarized text data) :
  ({ w with cache := cache, stores := stores } : Server).Sound s texts
  := ⟨hw.running, hw.apart, hw.known, hw.lawful, hw.requested, hw.found, hcache, hstores⟩

/-- A step that is not a call to the world keeps the invariant. -/
theorem Sound.advance (hw : w.Sound s texts) (h : w.advance s i = some w') : w'.Sound s texts
  := by
  have hruns : ∃ g, w.goroutines[i]? = some g ∧ g.frames ≠ [] := by
    simp only [Server.advance, Option.bind_eq_bind] at h
    obtain ⟨g, hg, h⟩ := Option.bind_eq_some_iff.mp h
    obtain ⟨ctx, hctx, h⟩ := Option.bind_eq_some_iff.mp h
    refine ⟨g, hg, ?_⟩
    intro hnil
    rw [hnil] at h
    cases h
  obtain ⟨g, hg, hruns⟩ := hruns
  obtain ⟨x, hctx, hshows, hund⟩ := hw.running i g hg hruns
  obtain ⟨g', x', events, rfl, hfollows, hjson⟩ :=
    advance_cases hg hctx hshows hund (hw.lawful i g hg) h
  apply hw.proceed hg hruns hfollows
  intro key val hmem
  cases hjson _ hmem

/-- A lookup that is answered finds what is in the cache. -/
theorem cache_of_answerTo {world : (c : Call) → Answer c} {key val : List UInt8}
    (h : w.answerTo world (.cacheGet key) = some val) :
  w.cache key = some val
  := by
  obtain ⟨_, -, hval⟩ := Option.bind_eq_some_iff.mp h
  exact hval

/-- A call that is answered keeps the invariant. -/
theorem Sound.answer {world : (c : Call) → Answer c} {c : Call} {k : Answer c → Code Unit}
    {rest : List (Code Unit)} (hw : w.Sound s texts) (hg : w.goroutines[i]? = some g)
    (hframes : g.frames = .call (.world c) k :: rest)
    (hprovider : ∀ text result, world (.generate text) = .ok result → ∃ u, result = utf8 u) :
  ({ w.setGoroutine i { g with frames := k (w.answerTo world c) :: rest } with
    log := (i, ⟨c, w.answerTo world c⟩) :: w.log
    stores := startedStores c ++ w.stores } : Server).Sound s texts
  := by
  have hruns : g.frames ≠ [] := by
    rw [hframes]
    exact List.cons_ne_nil _ _
  obtain ⟨x, hctx, hshows, hund⟩ := hw.running i g hg hruns
  rw [hframes] at hund
  cases hund with
  | world hc hf =>
      have hexpected : Expected c (w.answerTo world c) := by
        cases c with
        | generate text => exact hprovider text
        | _ => trivial
      have hfollows : Follows s w i g { g with frames := k (w.answerTo world c) :: rest } x
          [⟨c, w.answerTo world c⟩] :=
        ⟨rfl, rfl, ⟨hshows.discarded, hshows.kept, hshows.writer⟩, hf _ hexpected,
          hc, hw.lawful i g hg⟩
      have hproceed := hw.proceed hg hruns hfollows (by
        intro key val hmem
        have heq := List.mem_singleton.mp hmem
        injection heq with hcall hanswer
        subst hcall
        exact hw.cached key val (cache_of_answerTo (eq_of_heq hanswer).symm))
      have hsame : ({ w.setGoroutine i { g with frames := k (w.answerTo world c) :: rest } with
          log := (i, ⟨c, w.answerTo world c⟩) :: w.log
          stores := startedStores c ++ w.stores } : Server)
          = { w.proceed i { g with frames := k (w.answerTo world c) :: rest } x.context
              [⟨c, w.answerTo world c⟩] with
            cache := w.cache
            stores := startedStores c ++ w.stores } := by
        simp [Server.setGoroutine, Server.proceed, ← hctx]
      rw [hsame]
      apply hproceed.setCache hproceed.cached
      intro key data hmem
      obtain hmem | hmem := List.mem_append.mp hmem
      · cases c with
        | goStoreInCache key' data' =>
            obtain ⟨rfl, rfl⟩ := Prod.mk.inj (List.mem_singleton.mp hmem)
            obtain ⟨text, ⟨hread, hkey⟩, htext, hsummary⟩ := hc
            refine ⟨htext, text, hw.requested i g hg text hread, hkey, ?_⟩
            exact Summarized.mono ⟨i, hsummary⟩ fun j e he => mem_history_proceed he
        | _ => cases hmem
      · exact hproceed.stored key data hmem

end Server

/-! ### The rules of a run -/

/-- No Context is handed to a request before the goroutines it was handed to earlier have
ended. -/
def ContextFree (w : Server) : PoolStep → Prop
  | .accept c _ _ => ∀ g ∈ w.goroutines, g.context = c → g.frames.isEmpty = true
  | _ => True

instance (w : Server) : (a : PoolStep) → Decidable (ContextFree w a)
  | .accept _ _ _ => inferInstanceAs (Decidable (∀ g ∈ w.goroutines, _))
  | .advance _ | .answer _ _ | .panic _ | .deadline _ | .discard _ | .serveReturn _ | .store _ _
  | .storeFailed _ | .evict _ => .isTrue trivial

/-- The texts of the requests are among those given, and the provider returns texts. -/
def Assumed (texts : Set (List UInt8)) : PoolStep → Prop
  | .accept _ request _ =>
      ∀ text, readSummarizeRequest request.body.received = some text → text ∈ texts
  | .answer _ world => ∀ text result, world (.generate text) = .ok result → ∃ u, result = utf8 u
  | _ => True

/-- What is stored is read back. -/
theorem readCachedResponse_cachedValue (u : List Char) {now : Int} (hlow : -2 ^ 63 ≤ now)
    (hhigh : now < 2 ^ 63) :
  readCachedResponse (cachedValue (utf8 u) now) = some { result := utf8 u, cachedAt := now }
  := by
  have hvalid : (Json.obj [(bytes "result", .str (utf8 u)),
      (bytes "cached_at", .num (decimalInt now))]).Valid := by
    simp only [Valid, ValidMembers, isNumber_decimalInt now, and_self]
  have hdepth : (Json.obj [(bytes "result", .str (utf8 u)),
      (bytes "cached_at", .num (decimalInt now))]).depth ≤ GoJson.maxNestingDepth := by
    simp [depth, depthMembers, GoJson.maxNestingDepth]
  have hname : ∀ name, utf8 (GoJson.unquote (GoJson.pieces (bytes name))) = bytes name := by
    intro name
    rw [bytes, GoJson.unquote_pieces_utf8]
  have hresult : ∀ v old, CachedResponse.set "result" v old
      = (GoJson.setString v old.result).map fun t => { old with result := t } := fun _ _ => rfl
  have htime : ∀ v old, CachedResponse.set "cached_at" v old
      = (setInt64 v old.cachedAt).map fun i => { old with cachedAt := i } := fun _ _ => rfl
  have hint : ∀ old, setInt64 (.num (decimalInt now)) old = some now :=
    fun old => atoi_decimalInt hlow hhigh
  rw [readCachedResponse, cachedValue, GoJson.unmarshal_marshal hvalid hdepth, Option.bind_some]
  simp only [Json.map, mapMembers, hname, GoJson.unquote_pieces_utf8, GoJson.readStruct]
  rw [GoJson.readMembers_cons (by decide), hresult, GoJson.setString, Option.map_some,
    Option.bind_some, GoJson.readMembers_cons (by decide), htime, hint, Option.map_some,
    Option.bind_some]
  rfl

/-- A step keeps the invariant. -/
theorem Server.Sound.step {s : Settings} {texts : Set (List UInt8)} {w w' : Server} {a : PoolStep}
    (hw : w.Sound s texts) (hfree : ContextFree w a) (hassumed : Assumed texts a)
    (h : (pool s).step w a = some w') :
  w'.Sound s texts
  := by
  cases a with
  | accept c request correlationID =>
      simp only [pool] at h
      split at h
      · obtain rfl := Option.some.inj h
        apply hw.accept _ hassumed
        intro g hg hcontext
        exact List.isEmpty_iff.mp (hfree g hg hcontext)
      · cases h
  | advance i => exact hw.advance h
  | answer i world =>
      simp only [pool, Option.bind_eq_bind] at h
      obtain ⟨g, hg, h⟩ := Option.bind_eq_some_iff.mp h
      split at h
      · rename_i c k rest hframes
        obtain rfl := Option.some.inj h
        exact hw.answer hg hframes hassumed
      · cases h
  | panic i =>
      simp only [pool, Option.bind_eq_bind] at h
      obtain ⟨g, hg, h⟩ := Option.bind_eq_some_iff.mp h
      obtain rfl := Option.some.inj h
      exact hw.setGoroutine hg rfl rfl (fun hruns => absurd rfl hruns)
        fun x hx => ⟨hx.discarded, hx.kept, hx.writer⟩
  | deadline i =>
      simp only [pool, Option.bind_eq_bind] at h
      obtain ⟨g, hg, h⟩ := Option.bind_eq_some_iff.mp h
      obtain rfl := Option.some.inj h
      exact hw.setGoroutine hg rfl rfl (fun _ => rfl)
        fun x hx => ⟨hx.discarded, hx.kept, hx.writer⟩
  | discard i =>
      simp only [pool, Option.bind_eq_bind] at h
      obtain ⟨g, hg, h⟩ := Option.bind_eq_some_iff.mp h
      split at h
      · obtain rfl := Option.some.inj h
        refine hw.setGoroutine hg rfl rfl (fun _ => rfl) ?_
        intro x hx
        refine ⟨?_, ?_, hx.writer⟩
        · intro _
          exact show 504 ≠ 200 by decide
        · intro hopen
          cases hopen
      · cases h
  | serveReturn i =>
      simp only [pool, Option.bind_eq_bind] at h
      obtain ⟨g, hg, h⟩ := Option.bind_eq_some_iff.mp h
      split at h
      · obtain rfl := Option.some.inj h
        exact hw.setGoroutine hg rfl rfl (fun _ => rfl)
          fun x hx => ⟨hx.discarded, hx.kept, hx.writer⟩
      · cases h
  | store n now =>
      simp only [pool, Option.bind_eq_bind] at h
      obtain ⟨⟨key, data⟩, hstore, h⟩ := Option.bind_eq_some_iff.mp h
      split at h
      · rename_i hnow
        obtain rfl := Option.some.inj h
        apply hw.setCache
        · intro key' val hval
          by_cases hkey : key' = key
          · subst hkey
            rw [Function.update_self] at hval
            obtain rfl := Option.some.inj hval
            obtain ⟨⟨u, rfl⟩, text, htext, hkey, hsummarized⟩ :=
              hw.stored key' data (List.mem_of_getElem? hstore)
            exact ⟨text, htext, hkey, _, readCachedResponse_cachedValue u hnow.1 hnow.2,
              hsummarized⟩
          · rw [Function.update_of_ne hkey] at hval
            exact hw.cached key' val hval
        · intro key' data' hmem
          exact hw.stored key' data' (List.mem_of_mem_eraseIdx hmem)
      · cases h
  | storeFailed n =>
      obtain rfl := Option.some.inj h
      apply hw.setCache hw.cached
      intro key data hmem
      exact hw.stored key data (List.mem_of_mem_eraseIdx hmem)
  | evict key =>
      obtain rfl := Option.some.inj h
      apply hw.setCache _ hw.stored
      intro key' val hval
      by_cases hkey : key' = key
      · subst hkey
        rw [Function.update_self] at hval
        cases hval
      · rw [Function.update_of_ne hkey] at hval
        exact hw.cached key' val hval

/-- The start is sound. -/
theorem Server.sound_init (s : Settings) (texts : Set (List UInt8)) : Server.init.Sound s texts
  := by
  constructor
  case running =>
    intro i g hg
    cases hg
  case apart =>
    intro i j g g' hg
    cases hg
  case known =>
    intro e he
    cases he
  case lawful =>
    intro i g hg
    cases hg
  case requested =>
    intro i g hg
    cases hg
  case found =>
    intro i key val hmem
    cases hmem
  case cached =>
    intro key val hval
    cases hval
  case stored =>
    intro key data hmem
    cases hmem

/-! ### What the cache holds -/

/-- SHA-256 has no collision among the inputs for the keys of the texts. -/
def CollisionFree (model : List UInt8) (texts : Set (List UInt8)) : Prop :=
  Set.InjOn Sha256.sum256 ((fun text => keyInput text model) '' texts)

/-- Without a collision, a key belongs to one text. -/
theorem CollisionFree.injOn_getCacheKey {model : List UInt8} {texts : Set (List UInt8)}
    (h : CollisionFree model texts) :
  Set.InjOn (fun text => getCacheKey text model) texts
  := by
  intro text htext text' htext' heq
  have hsum : Sha256.sum256 (keyInput text model) = Sha256.sum256 (keyInput text' model) :=
    getCacheKey_eq_iff.mp heq
  have hinput : keyInput text model = keyInput text' model :=
    h (Set.mem_image_of_mem _ htext) (Set.mem_image_of_mem _ htext') hsum
  exact List.append_cancel_left (List.append_cancel_right (List.append_cancel_right hinput))

/-- A request that has found a result sends no other with status 200. -/
theorem Lawful.eq_resultBody {s : Settings} {r : HttpRequest} {h : History} {key val body : List UInt8}
    {cached : CachedResponse} (hlawful : Lawful (Sourced s r) h)
    (hget : ⟨.cacheGet key, some val⟩ ∈ h) (hread : readCachedResponse val = some cached)
    (hjson : ⟨.json 200 body, ()⟩ ∈ h) :
  body = resultBody cached.result
  := by
  have hfirst : ∀ {later earlier : History} {key : List UInt8} {a : Answer (.cacheGet key)},
      h = later ++ ⟨.cacheGet key, a⟩ :: earlier → earlier = [] := by
    rintro later earlier key a rfl
    exact hlawful.allowed.1
  have hsource : ∃ result, body = resultBody result ∧ HasSource result h := by
    obtain ⟨later, earlier, rfl⟩ := List.append_of_mem hjson
    obtain ⟨result, hbody, hsource⟩ := hlawful.allowed rfl
    refine ⟨result, hbody, hsource.mono ?_⟩
    intro e he
    exact List.mem_append_right _ (List.mem_cons_of_mem _ he)
  obtain ⟨result, rfl, ⟨text, hgenerated⟩ | ⟨key', val', cached', hget', hread', rfl⟩⟩ := hsource
  · obtain heq | ⟨later, earlier, rfl, hmem⟩ | ⟨later, earlier, heq, hmem⟩ :=
      eq_or_before hgenerated hget
    · injection heq with hcall
      cases hcall
    · exact absurd ⟨key, val, cached, hmem, hread, rfl⟩ (hlawful.allowed cached.result)
    · rw [hfirst heq] at hmem
      cases hmem
  · obtain heq | ⟨later, earlier, heq, hmem⟩ | ⟨later, earlier, heq, hmem⟩ :=
      eq_or_before hget' hget
    · injection heq with hcall hanswer
      obtain rfl := Option.some.inj hanswer
      rw [Option.some.inj (hread.symm.trans hread')]
    · rw [hfirst heq] at hmem
      cases hmem
    · rw [hfirst heq] at hmem
      cases hmem

/-- What the cache holds under the key of a text decodes to a result the provider returned for
this very text in a request that was answered with status 200, and a request that finds it
answers with status 200 only by sending this very result. -/
structure Server.CacheSound (s : Settings) (texts : Set (List UInt8)) (w : Server) : Prop where
  cached : ∀ text ∈ texts, ∀ val, w.cache (getCacheKey text (getModel s.env)) = some val →
    ∃ cached, readCachedResponse val = some cached ∧ w.Summarized text cached.result
  served : ∀ i, ∀ text ∈ texts, ∀ val cached,
    ⟨.cacheGet (getCacheKey text (getModel s.env)), some val⟩ ∈ w.history i →
    readCachedResponse val = some cached → w.Summarized text cached.result
      ∧ ∀ body, ⟨.json 200 body, ()⟩ ∈ w.history i → body = resultBody cached.result

theorem Server.Sound.cacheSound {s : Settings} {texts : Set (List UInt8)} {w : Server}
    (hw : w.Sound s texts) (hfree : CollisionFree (getModel s.env) texts) :
  w.CacheSound s texts
  := by
  have hholds : ∀ {text val : List UInt8}, text ∈ texts →
      w.Holds s texts (getCacheKey text (getModel s.env)) val →
      ∃ cached, readCachedResponse val = some cached ∧ w.Summarized text cached.result := by
    rintro text val htext ⟨text', htext', hkey, hrest⟩
    obtain rfl := hfree.injOn_getCacheKey htext htext' hkey
    exact hrest
  constructor
  · intro text htext val hval
    exact hholds htext (hw.cached _ val hval)
  · intro i text htext val cached hget hread
    obtain ⟨cached', hread', hsummarized⟩ := hholds htext (hw.found i _ val hget)
    obtain rfl := Option.some.inj (hread.symm.trans hread')
    refine ⟨hsummarized, ?_⟩
    intro body hjson
    have hlt : i < w.goroutines.length := by
      obtain ⟨e, he, -⟩ := List.mem_map.mp hget
      obtain ⟨hlog, hi⟩ := List.mem_filter.mp he
      rw [← of_decide_eq_true hi]
      exact hw.known e hlog
    exact (hw.lawful i _ (List.getElem?_eq_getElem hlt)).eq_resultBody hget hread hjson

/-- In every run in which no Context is handed to a request before the goroutines it was handed
to earlier have ended, the cache holds under the key of a text only results that the
provider returned for this text in a request that was answered with status 200, and a
request that finds one sends it unchanged.  The provider returns texts, and SHA-256 has no
collision among the texts of the requests. -/
theorem cache_content_sound {s : Settings} {texts : Set (List UInt8)}
    (hsha : CollisionFree (getModel s.env) texts) {steps : List PoolStep} {w : Server}
    (hassumed : ∀ a ∈ steps, Assumed texts a) (hfree : (pool s).Guarded ContextFree .init steps)
    (hrun : (pool s).run .init steps = some w) :
  w.CacheSound s texts
  := by
  apply Server.Sound.cacheSound _ hsha
  apply Machine.run_invariant _ steps (Server.sound_init s texts) (hfree.and steps hassumed) hrun
  intro w a w' hw hguard hstep
  exact hw.step hguard.1 hguard.2 hstep

/-! ### Samples -/

/-- A request for the summary of another text. -/
def otherRequest : HttpRequest :=
  { paidRequest with
    body := { received := GoJson.marshal (textObject [("text", bytes "other")]), broken := false } }

/-- The texts of the sample requests. -/
def sampleTexts : Set (List UInt8) :=
  {bytes "long", bytes "other"}

/-- A world in which lookups fail. -/
def failingWorld : (c : Call) → Answer c
  | .cacheGet _ => none
  | c => cachedWorld c

/-- Steps of goroutine `i` and calls of it that are answered, in turns. -/
def turns (i : Nat) (world : (c : Call) → Answer c) (l : List (Nat × Nat)) : List PoolStep :=
  l.flatMap fun n => List.replicate n.1 (.advance i) ++ List.replicate n.2 (.answer i world)

theorem assumed_turns {texts : Set (List UInt8)} {world : (c : Call) → Answer c}
    (hworld : ∀ text, world (.generate text) = .ok (bytes "short")) (i : Nat) (l : List (Nat × Nat)) :
    ∀ a ∈ turns i world l, Assumed texts a
  := by
  intro a ha
  obtain ⟨n, -, ha⟩ := List.mem_flatMap.mp ha
  obtain ha | ha := List.mem_append.mp ha
  · rw [List.eq_of_mem_replicate ha]
    trivial
  · rw [List.eq_of_mem_replicate ha]
    intro text result hresult
    rw [hworld] at hresult
    exact ⟨"short".toList, (Except.ok.inj hresult).symm⟩

theorem collisionFree_sampleTexts : CollisionFree (getModel cachedSettings.env) sampleTexts
  := by
  have hne : Sha256.sum256 (keyInput (bytes "long") (getModel cachedSettings.env))
      ≠ Sha256.sum256 (keyInput (bytes "other") (getModel cachedSettings.env)) := by
    decide +kernel
  rintro _ ⟨text, rfl | rfl, rfl⟩ _ ⟨text', rfl | rfl, rfl⟩ hsum
  · rfl
  · exact absurd hsum hne
  · exact absurd hsum.symm hne
  · rfl

theorem assumed_accept (request : HttpRequest) {text : List UInt8}
    (htext : readSummarizeRequest request.body.received = some text) (hmem : text ∈ sampleTexts)
    (c : Nat) (correlationID : List UInt8) :
  Assumed sampleTexts (.accept c request correlationID)
  := by
  intro text' htext'
  rw [← Option.some.inj (htext.symm.trans htext')]
  exact hmem

/-- A text is summarized and the result stored; then the Context is reused for a request that
finds the result. -/
def storeThenHit : List PoolStep :=
  [.accept 0 paidRequest (bytes "c-1")]
    ++ turns 0 failingWorld [(5, 1), (5, 2), (1, 6), (4, 1), (3, 0)]
    ++ [.serveReturn 0, .store 0 1700000000, .accept 0 paidRequest (bytes "c-2")]
    ++ turns 1 cachedWorld [(5, 1), (2, 1), (1, 6), (5, 0)]

theorem cache_content_sound_sample :
  ∃ w val, (pool cachedSettings).run .init storeThenHit = some w
    ∧ w.cache (getCacheKey (bytes "long") (getModel cachedSettings.env)) = some val
    ∧ ∃ cached, readCachedResponse val = some cached ∧ w.Summarized (bytes "long") cached.result
  := by
  have haccept := assumed_accept paidRequest (by decide +kernel) (Or.inl rfl) 0
  have hassumed : ∀ a ∈ storeThenHit, Assumed sampleTexts a := by
    simp only [storeThenHit, List.forall_mem_append, List.forall_mem_cons]
    exact ⟨⟨⟨⟨haccept _, List.forall_mem_nil _⟩, assumed_turns (fun _ => rfl) _ _⟩, trivial, trivial,
      haccept _, List.forall_mem_nil _⟩, assumed_turns (fun _ => rfl) _ _⟩
  have hfree : (pool cachedSettings).Guarded ContextFree .init storeThenHit := by
    decide +kernel
  have hval : (((pool cachedSettings).run .init storeThenHit).bind fun w =>
      w.cache (getCacheKey (bytes "long") (getModel cachedSettings.env))).isSome = true := by
    decide +kernel
  obtain ⟨val, hval⟩ := Option.isSome_iff_exists.mp hval
  obtain ⟨w, hrun, hval⟩ := Option.bind_eq_some_iff.mp hval
  exact ⟨w, val, hrun, hval,
    (cache_content_sound collisionFree_sampleTexts hassumed hfree hrun).cached _ (Or.inl rfl) val hval⟩

/-- The first request times out during its lookup, and its Context is handed to the second,
which looks up its own text.  The first goroutine then takes its lookup as failed and goes on:
it runs the handler of the second request, and stores the result under the key of the
first. -/
def staleGoroutine : List PoolStep :=
  [.accept 0 paidRequest (bytes "c-1")]
    ++ turns 0 failingWorld [(5, 0)]
    ++ [.deadline 0, .discard 0, .serveReturn 0, .accept 0 otherRequest (bytes "c-2")]
    ++ turns 1 failingWorld [(5, 0)]
    ++ turns 0 failingWorld [(0, 1), (5, 2), (1, 6), (4, 1), (3, 0)]
    ++ [.store 0 1700000000]

theorem stale_goroutine_stores_other_text :
  ∃ w, (pool cachedSettings).run .init staleGoroutine = some w
    ∧ (∀ a ∈ staleGoroutine, Assumed sampleTexts a)
    ∧ CollisionFree (getModel cachedSettings.env) sampleTexts
    ∧ ¬ w.CacheSound cachedSettings sampleTexts
  := by
  have haccept := assumed_accept paidRequest (by decide +kernel) (Or.inl rfl) 0
  have haccept' := assumed_accept otherRequest (by decide +kernel) (Or.inr rfl) 0
  have hassumed : ∀ a ∈ staleGoroutine, Assumed sampleTexts a := by
    simp only [staleGoroutine, List.forall_mem_append, List.forall_mem_cons]
    exact ⟨⟨⟨⟨⟨⟨haccept _, List.forall_mem_nil _⟩, assumed_turns (fun _ => rfl) _ _⟩, trivial, trivial,
      trivial, haccept' _, List.forall_mem_nil _⟩, assumed_turns (fun _ => rfl) _ _⟩,
      assumed_turns (fun _ => rfl) _ _⟩, trivial, List.forall_mem_nil _⟩
  have hstale : ((pool cachedSettings).run .init staleGoroutine).any (fun w =>
      (w.cache (getCacheKey (bytes "long") (getModel cachedSettings.env))).isSome
        && w.log.all fun e => e.2.call ≠ .generate (bytes "long")) = true := by
    decide +kernel
  obtain ⟨w, hrun, hstale⟩ := (Option.any_eq_true _ _).mp hstale
  obtain ⟨hval, hlog⟩ := Bool.and_eq_true_iff.mp hstale
  refine ⟨w, hrun, hassumed, collisionFree_sampleTexts, ?_⟩
  intro hsound
  obtain ⟨val, hval⟩ := Option.isSome_iff_exists.mp hval
  obtain ⟨cached, -, i, hgenerated, -⟩ := hsound.cached _ (Or.inl rfl) val hval
  obtain ⟨e, he, heq⟩ := List.mem_map.mp hgenerated
  have hne := List.all_eq_true.mp hlog e (List.mem_filter.mp he).1
  rw [heq] at hne
  exact of_decide_eq_true hne rfl

end Paygate.Gateway.Pooled
