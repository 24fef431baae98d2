import Mathlib.Tactic.Common

/-!
# The buffered response writer

The writer the request timeout puts in place of the real one: it keeps the headers, the
status and the body of a response in memory until they are flushed or discarded.  Every
value written carries its author, the handler of a request or the gateway itself.

A buffer that received nothing but the flush of another buffer holds the same status, the
same body and, name by name, the same headers.
-/

namespace Paygate.Gateway

/-! ### Operations on a writer -/

/-- Who wrote a value: the handler of a request, or the gateway itself. -/
inductive Author where
  | handler (request : Nat)
  | gateway
  deriving DecidableEq, Repr

/-- A value with its author. -/
structure Tagged (α : Type) where
  author : Author
  val : α
  deriving DecidableEq, Repr

/-- The values of a header map: each name with its values in the order they were added. -/
abbrev Header := List (String × Tagged String)

/-- The operations a writer is asked to do. -/
inductive WriterOp where
  | addHeader (name : String) (value : Tagged String)
  | setHeader (name : String) (value : Tagged String)
  | delHeader (name : String)
  | writeHeader (statusCode : Tagged Nat)
  | writeHeaderNow
  | write (data : List (Tagged UInt8))
  deriving DecidableEq, Repr

/-- The authors of the values an operation writes. -/
def WriterOp.authors : WriterOp → List Author
  | .addHeader _ v | .setHeader _ v => [v.author]
  | .delHeader _ | .writeHeaderNow => []
  | .writeHeader st => [st.author]
  | .write data => data.map Tagged.author

/-- The writes a handler can make. -/
inductive HandlerWrite where
  | addHeader (name value : String)
  | setHeader (name value : String)
  | delHeader (name : String)
  | writeHeader (statusCode : Nat)
  | writeHeaderNow
  | write (data : List UInt8)
  deriving DecidableEq, Repr

/-- A write of the handler of a request, as an operation on its writer. -/
def HandlerWrite.tag (r : Nat) : HandlerWrite → WriterOp
  | .addHeader k v => .addHeader k ⟨.handler r, v⟩
  | .setHeader k v => .setHeader k ⟨.handler r, v⟩
  | .delHeader k => .delHeader k
  | .writeHeader st => .writeHeader ⟨.handler r, st⟩
  | .writeHeaderNow => .writeHeaderNow
  | .write data => .write (data.map fun b => ⟨.handler r, b⟩)

/-! ### The buffer -/

/-- The response captured so far. -/
structure BufferedWriter where
  buf : List (Tagged UInt8)
  head : Header
  status : Tagged Nat
  wrote : Bool
  closed : Bool
  deriving DecidableEq, Repr

/-- The buffer before anything is written. -/
def newBufferedWriter : BufferedWriter where
  buf := []
  head := []
  status := ⟨.gateway, 200⟩
  wrote := false
  closed := false

/-- The status the response will have. -/
def BufferedWriter.Status (b : BufferedWriter) : Tagged Nat :=
  if b.status.val = 0 then ⟨.gateway, 200⟩ else b.status

/-- One operation on the buffer.  A closed buffer takes no status and no data; its header
map and its `wrote` flag can still change. -/
def BufferedWriter.apply (b : BufferedWriter) : WriterOp → BufferedWriter
  | .addHeader k v => { b with head := b.head ++ [(k, v)] }
  | .setHeader k v => { b with head := b.head.filter (fun e => e.1 ≠ k) ++ [(k, v)] }
  | .delHeader k => { b with head := b.head.filter fun e => e.1 ≠ k }
  | .writeHeader st => if b.closed then b else { b with status := st }
  | .writeHeaderNow => {
      b with
      status := if b.status.val = 0 then ⟨.gateway, 200⟩ else b.status
      wrote := true }
  | .write data => if b.closed then b else { b with buf := b.buf ++ data, wrote := true }

/-- The buffer after a sequence of operations on a new one. -/
def composed (ops : List WriterOp) : BufferedWriter :=
  ops.foldl BufferedWriter.apply newBufferedWriter

/-- The two header maps agree name by name. -/
def SameHeader (h h' : Header) : Prop :=
  ∀ k, h.filter (fun e => e.1 = k) = h'.filter fun e => e.1 = k

instance (h h' : Header) : Decidable (SameHeader h h') :=
  decidable_of_iff
    (∀ k ∈ (h ++ h').map Prod.fst, h.filter (fun e => e.1 = k) = h'.filter fun e => e.1 = k) <| by
    constructor
    · intro hall k
      by_cases hk : k ∈ (h ++ h').map Prod.fst
      · apply hall k hk
      · have hnone : ∀ e ∈ h ++ h', ¬ e.1 = k := by
          intro e he hek
          apply hk (List.mem_map.mpr ⟨e, he, hek⟩)
        rw [List.filter_eq_nil_iff.mpr, List.filter_eq_nil_iff.mpr]
        · intro e he
          simpa using hnone e (List.mem_append_right h he)
        · intro e he
          simpa using hnone e (List.mem_append_left h' he)
    · intro hsame k _
      apply hsame k

/-- Header maps that agree with a third agree. -/
theorem SameHeader.trans {h₁ h₂ h₃ : Header} (h : SameHeader h₁ h₂) (h' : SameHeader h₂ h₃) :
  SameHeader h₁ h₃
  := by
  intro k
  rw [h k, h' k]

/-- The operations by which a buffer is written to another writer.  The header map is gone
through in an unspecified order of its names. -/
def BufferedWriter.flushTo (b : BufferedWriter) (order : Header) : List WriterOp :=
  order.map (fun e => .addHeader e.1 e.2) ++ [.writeHeader b.Status, .write b.buf]

/-- Adding headers to a buffer appends them. -/
theorem foldl_addHeader (order : Header) :
    ∀ b : BufferedWriter,
      (order.map fun e => WriterOp.addHeader e.1 e.2).foldl BufferedWriter.apply b
        = { b with head := b.head ++ order }
  := by
  induction order with
  | nil =>
      intro b
      simp
  | cons e order ih =>
      intro b
      rw [List.map_cons, List.foldl_cons, ih]
      simp [BufferedWriter.apply]

/-- A new buffer that received a flush holds what was flushed. -/
theorem composed_flushTo (b : BufferedWriter) (order : Header) :
  composed (b.flushTo order)
    = { buf := b.buf, head := order, status := b.Status, wrote := true, closed := false }
  := by
  unfold composed BufferedWriter.flushTo
  rw [List.foldl_append, foldl_addHeader]
  simp [BufferedWriter.apply, newBufferedWriter]

/-- The status of a buffer, taken as a status, is itself. -/
theorem BufferedWriter.Status_Status (b : BufferedWriter) :
  (if b.Status.val = 0 then ⟨.gateway, 200⟩ else b.Status) = b.Status
  := by
  unfold BufferedWriter.Status
  split
  · simp
  · rfl

/-- Flushing a buffer that received a flush repeats the flush, up to the order of the
headers. -/
theorem flushTo_composed_flushTo (b : BufferedWriter) (order order' : Header) :
  (composed (b.flushTo order)).flushTo order' = b.flushTo order'
  := by
  rw [composed_flushTo]
  unfold BufferedWriter.flushTo
  congr 3
  apply BufferedWriter.Status_Status

/-- A buffer that is open stays open. -/
theorem BufferedWriter.apply_closed (b : BufferedWriter) (op : WriterOp) :
  (b.apply op).closed = b.closed
  := by
  cases op with
  | addHeader | setHeader | delHeader | writeHeaderNow => rfl
  | writeHeader | write =>
      simp only [BufferedWriter.apply]
      split
      · rfl
      · rfl

/-- Composing one more operation. -/
theorem composed_concat (ops : List WriterOp) (op : WriterOp) :
  composed (ops ++ [op]) = (composed ops).apply op
  := by
  unfold composed
  rw [List.foldl_append, List.foldl_cons, List.foldl_nil]

/-! ### The timeout response -/

/-- The content type of the timeout response. -/
def timeoutHeader : String × Tagged String :=
  ("Content-Type", ⟨.gateway, "application/json; charset=utf-8"⟩)

/-- The status of the timeout response. -/
def timeoutStatus : Tagged Nat :=
  ⟨.gateway, 504⟩

/-- The body of the timeout response. -/
def timeoutBody : List (Tagged UInt8) :=
  ("\x7b\"error\":\"Gateway Timeout\",\"message\":\"Request exceeded maximum allowed time\"\x7d".toUTF8.data.toList).map
    fun b => ⟨.gateway, b⟩

/-- The operations by which a layer that timed out answers. -/
def timeoutWrites : List WriterOp :=
  [.setHeader timeoutHeader.1 timeoutHeader.2, .writeHeader timeoutStatus, .write timeoutBody]

/-- The buffer that holds the timeout response. -/
def timeoutBuffer : BufferedWriter :=
  composed timeoutWrites

/-- The operations are the timeout response, written by a layer that timed out or flushed
from a buffer that holds it. -/
def IsTimeout (ops : List WriterOp) : Prop :=
  ops = timeoutWrites ∨ ops = timeoutBuffer.flushTo [timeoutHeader]

/-- The timeout buffer holds the header, the status and the body of the timeout
response. -/
theorem timeoutBuffer_eq :
  timeoutBuffer = {
    buf := timeoutBody
    head := [timeoutHeader]
    status := timeoutStatus
    wrote := true
    closed := false }
  := rfl

/-- Both forms of the timeout response leave the same buffer. -/
theorem IsTimeout.composed {ops : List WriterOp} (h : IsTimeout ops) :
  Gateway.composed ops = timeoutBuffer
  := by
  obtain rfl | rfl := h
  · rfl
  · rw [composed_flushTo]
    rfl

/-- Header maps that agree with a single header are that header. -/
theorem SameHeader.eq_singleton {h : Header} {e : String × Tagged String} (hsame : SameHeader h [e]) :
  h = [e]
  := by
  have hall : ∀ e' ∈ h, e'.1 = e.1 := by
    intro e' he'
    by_contra hne
    have hmem : e' ∈ h.filter fun x => x.1 = e'.1 := List.mem_filter.mpr ⟨he', by simp⟩
    rw [hsame e'.1] at hmem
    simp only [List.mem_filter, List.mem_singleton] at hmem
    rw [hmem.1] at hne
    exact hne rfl
  have := hsame e.1
  rw [List.filter_eq_self.mpr (by simpa using hall)] at this
  simpa using this

/-- The flush of a buffer that received the timeout response is the timeout response. -/
theorem IsTimeout.flushTo {ops : List WriterOp} {order : Header} (h : IsTimeout ops)
    (horder : SameHeader order (Gateway.composed ops).head) :
  IsTimeout ((Gateway.composed ops).flushTo order)
  := by
  rw [h.composed] at horder ⊢
  right
  rw [timeoutBuffer_eq] at horder
  rw [horder.eq_singleton]

/-! ### Authors -/

/-- All values in a buffer have an author that satisfies `p`. -/
def BufferedWriter.AuthoredBy (p : Author → Prop) (b : BufferedWriter) : Prop :=
  p b.status.author ∧ (∀ e ∈ b.head, p e.2.author) ∧ ∀ x ∈ b.buf, p x.author

/-- An operation keeps the authors of a buffer if its own are among them. -/
theorem BufferedWriter.AuthoredBy.apply {p : Author → Prop} {b : BufferedWriter}
    (h : b.AuthoredBy p) (hgateway : p .gateway) {op : WriterOp} (hop : ∀ a ∈ op.authors, p a) :
  (b.apply op).AuthoredBy p
  := by
  obtain ⟨hstatus, hhead, hbuf⟩ := h
  cases op with
  | addHeader k v =>
      refine ⟨hstatus, ?_, hbuf⟩
      intro e he
      obtain he | rfl := List.mem_append.mp he |>.imp_right List.mem_singleton.mp
      · apply hhead e he
      · apply hop
        exact List.mem_singleton_self _
  | setHeader k v =>
      refine ⟨hstatus, ?_, hbuf⟩
      intro e he
      obtain he | rfl := List.mem_append.mp he |>.imp_right List.mem_singleton.mp
      · apply hhead e (List.mem_filter.mp he).1
      · apply hop
        exact List.mem_singleton_self _
  | delHeader k =>
      refine ⟨hstatus, ?_, hbuf⟩
      intro e he
      apply hhead e (List.mem_filter.mp he).1
  | writeHeader st =>
      simp only [BufferedWriter.apply]
      split
      · exact ⟨hstatus, hhead, hbuf⟩
      · refine ⟨?_, hhead, hbuf⟩
        apply hop
        exact List.mem_singleton_self _
  | writeHeaderNow =>
      refine ⟨?_, hhead, hbuf⟩
      simp only [BufferedWriter.apply]
      split
      · exact hgateway
      · exact hstatus
  | write data =>
      simp only [BufferedWriter.apply]
      split
      · exact ⟨hstatus, hhead, hbuf⟩
      · refine ⟨hstatus, hhead, ?_⟩
        intro x hx
        obtain hx | hx := List.mem_append.mp hx
        · apply hbuf x hx
        · apply hop
          exact List.mem_map_of_mem hx

/-- A buffer composed of operations has their authors. -/
theorem authoredBy_composed {p : Author → Prop} (hgateway : p .gateway) (ops : List WriterOp) :
    ∀ b : BufferedWriter, b.AuthoredBy p → (∀ op ∈ ops, ∀ a ∈ op.authors, p a) →
      (ops.foldl BufferedWriter.apply b).AuthoredBy p
  := by
  induction ops with
  | nil =>
      intro b hb _
      exact hb
  | cons op ops ih =>
      intro b hb hops
      apply ih
      · apply hb.apply hgateway
        apply hops op List.mem_cons_self
      · intro op' hop'
        apply hops op' (List.mem_cons_of_mem op hop')

/-- The flush of a buffer has the authors of the buffer. -/
theorem BufferedWriter.AuthoredBy.flushTo {p : Author → Prop} {b : BufferedWriter}
    (h : b.AuthoredBy p) (hgateway : p .gateway) {order : Header}
    (horder : SameHeader order b.head) :
    ∀ op ∈ b.flushTo order, ∀ a ∈ op.authors, p a
  := by
  obtain ⟨hstatus, hhead, hbuf⟩ := h
  intro op hop a ha
  obtain hop | hop := List.mem_append.mp hop
  · obtain ⟨e, he, rfl⟩ := List.mem_map.mp hop
    obtain rfl := List.mem_singleton.mp ha
    have hmem : e ∈ order.filter fun x => x.1 = e.1 := List.mem_filter.mpr ⟨he, by simp⟩
    rw [horder e.1] at hmem
    apply hhead e (List.mem_filter.mp hmem).1
  · simp only [List.mem_cons, List.not_mem_nil, or_false] at hop
    obtain rfl | rfl := hop
    · obtain rfl := List.mem_singleton.mp ha
      unfold BufferedWriter.Status
      split
      · exact hgateway
      · exact hstatus
    · obtain ⟨x, hx, rfl⟩ := List.mem_map.mp ha
      apply hbuf x hx

/-- The timeout response is written by the gateway alone. -/
theorem IsTimeout.authors {ops : List WriterOp} (h : IsTimeout ops) :
    ∀ op ∈ ops, ∀ a ∈ op.authors, a = .gateway
  := by
  obtain rfl | rfl := h
  · decide
  · decide

/-- A flush that is the timeout response has its status. -/
theorem IsTimeout.status_eq {b : BufferedWriter} {order : Header} (h : IsTimeout (b.flushTo order)) :
  b.Status = timeoutStatus
  := by
  have hlast : ∀ (init : List WriterOp),
      b.flushTo order = init ++ [.writeHeader timeoutStatus, .write timeoutBody] →
      b.Status = timeoutStatus := by
    intro init heq
    have := (List.append_inj' heq rfl).2
    simp only [List.cons.injEq, WriterOp.writeHeader.injEq] at this
    exact this.1
  obtain heq | heq := h
  · apply hlast [.setHeader timeoutHeader.1 timeoutHeader.2] heq
  · apply hlast [.addHeader timeoutHeader.1 timeoutHeader.2] heq

/-- The status a handler leaves is its own or the default. -/
theorem status_handlerWrites (r : Nat) (writes : List HandlerWrite) :
    ∀ b : BufferedWriter, b.status.author = .handler r ∨ b.status = ⟨.gateway, 200⟩ →
      ((writes.map (HandlerWrite.tag r)).foldl BufferedWriter.apply b).status.author = .handler r
        ∨ ((writes.map (HandlerWrite.tag r)).foldl BufferedWriter.apply b).status = ⟨.gateway, 200⟩
  := by
  induction writes with
  | nil =>
      intro b hb
      exact hb
  | cons w writes ih =>
      intro b hb
      apply ih
      cases w with
      | addHeader | setHeader | delHeader => exact hb
      | writeHeader st =>
          simp only [HandlerWrite.tag, BufferedWriter.apply]
          split
          · exact hb
          · exact Or.inl rfl
      | writeHeaderNow =>
          simp only [HandlerWrite.tag, BufferedWriter.apply]
          split
          · exact Or.inr rfl
          · exact hb
      | write data =>
          simp only [HandlerWrite.tag, BufferedWriter.apply]
          split
          · exact hb
          · exact hb

/-- What a handler writes is never the timeout response of the gateway. -/
theorem not_isTimeout_handlerWrites {r : Nat} {writes : List HandlerWrite} {order : Header} :
  ¬ IsTimeout ((composed (writes.map (HandlerWrite.tag r))).flushTo order)
  := by
  intro h
  have hstatus := h.status_eq
  unfold BufferedWriter.Status at hstatus
  split at hstatus
  · cases hstatus
  · obtain hauthor | hdefault := status_handlerWrites r writes newBufferedWriter (Or.inr rfl)
    · unfold composed at hstatus
      rw [hstatus] at hauthor
      cases hauthor
    · unfold composed at hstatus
      rw [hdefault] at hstatus
      cases hstatus

end Paygate.Gateway
