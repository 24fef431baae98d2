import Paygate.Gateway.Clock
import Paygate.Gateway.Integrity

/-!
# The receipt store in Redis

`RedisReceiptStore.Store` writes a receipt as JSON under the key of its id, with a time to
live; `Get` reads the JSON and checks the receipt again.  What Go makes of a timestamp that
is not the RFC 3339 form of a time in UTC is a parameter.
-/

namespace Paygate.Gateway

open Text Json Program

/-! ### Reading receipts -/

/-- A string for a field. -/
def readString (v : Json Pieces) (old : List UInt8) : Option (List UInt8) :=
  GoJson.setString (v.map fun ps => utf8 (GoJson.unquote ps)) old

/-- An integer for a field. -/
def readInt (v : Json Pieces) (old : Int) : Option Int :=
  setInt64 (v.map fun ps => utf8 (GoJson.unquote ps)) old

/-- The text of a string literal without escapes. -/
def plainText : Pieces → Option (List Char)
  | [] => some []
  | .inl c :: ps => (plainText ps).map (c :: ·)
  | .inr _ :: _ => none

/-- A time for a field: Go takes the text between the quotes as it stands. -/
def readTime (other : Pieces → Option Time) (v : Json Pieces) (old : Time) : Option Time :=
  match v with
  | .str ps => ((plainText ps).bind parseRFC3339).or (other ps)
  | .null => some old
  | _ => none

/-- Set the field of the payment details with a name. -/
def PaymentDetails.set (name : String) (v : Json Pieces) (p : PaymentDetails) :
    Option PaymentDetails :=
  match name with
  | "payer" => (readString v p.payer).map fun s => { p with payer := s }
  | "recipient" => (readString v p.recipient).map fun s => { p with recipient := s }
  | "amount" => (readString v p.amount).map fun s => { p with amount := s }
  | "token" => (readString v p.token).map fun s => { p with token := s }
  | "chainId" => (readInt v p.chainId).map fun i => { p with chainId := i }
  | "nonce" => (readString v p.nonce).map fun s => { p with nonce := s }
  | _ => some p

/-- Set the field of the service details with a name. -/
def ServiceDetails.set (name : String) (v : Json Pieces) (d : ServiceDetails) :
    Option ServiceDetails :=
  match name with
  | "endpoint" => (readString v d.endpoint).map fun s => { d with endpoint := s }
  | "request_hash" => (readString v d.requestHash).map fun s => { d with requestHash := s }
  | "response_hash" => (readString v d.responseHash).map fun s => { d with responseHash := s }
  | _ => some d

/-- Read payment details. -/
def readPaymentDetails (v : Json Pieces) (p : PaymentDetails) : Option PaymentDetails :=
  GoJson.readPieceStruct ["payer", "recipient", "amount", "token", "chainId", "nonce"]
    PaymentDetails.set v p

theorem ServiceDetails.set_endpoint (v : Json Pieces) (d : ServiceDetails) :
  d.set "endpoint" v = (readString v d.endpoint).map fun s => { d with endpoint := s }
  := rfl

theorem ServiceDetails.set_requestHash (v : Json Pieces) (d : ServiceDetails) :
  d.set "request_hash" v = (readString v d.requestHash).map fun s => { d with requestHash := s }
  := rfl

theorem ServiceDetails.set_responseHash (v : Json Pieces) (d : ServiceDetails) :
  d.set "response_hash" v = (readString v d.responseHash).map fun s => { d with responseHash := s }
  := rfl

/-- Read service details. -/
def readServiceDetails (v : Json Pieces) (d : ServiceDetails) : Option ServiceDetails :=
  GoJson.readPieceStruct ["endpoint", "request_hash", "response_hash"] ServiceDetails.set v d

/-- Set the field of a receipt with a name. -/
def Receipt.set (other : Pieces → Option Time) (name : String) (v : Json Pieces) (r : Receipt) :
    Option Receipt :=
  match name with
  | "id" => (readString v r.id).map fun s => { r with id := s }
  | "version" => (readString v r.version).map fun s => { r with version := s }
  | "timestamp" => (readTime other v r.timestamp).map fun t => { r with timestamp := t }
  | "payment" => (readPaymentDetails v r.payment).map fun p => { r with payment := p }
  | "service" => (readServiceDetails v r.service).map fun d => { r with service := d }
  | _ => some r

theorem Receipt.set_id (other : Pieces → Option Time) (v : Json Pieces) (r : Receipt) :
  r.set other "id" v = (readString v r.id).map fun s => { r with id := s }
  := rfl

theorem Receipt.set_version (other : Pieces → Option Time) (v : Json Pieces) (r : Receipt) :
  r.set other "version" v = (readString v r.version).map fun s => { r with version := s }
  := rfl

theorem Receipt.set_timestamp (other : Pieces → Option Time) (v : Json Pieces) (r : Receipt) :
  r.set other "timestamp" v = (readTime other v r.timestamp).map fun t => { r with timestamp := t }
  := rfl

theorem Receipt.set_payment (other : Pieces → Option Time) (v : Json Pieces) (r : Receipt) :
  r.set other "payment" v = (readPaymentDetails v r.payment).map fun p => { r with payment := p }
  := rfl

theorem Receipt.set_service (other : Pieces → Option Time) (v : Json Pieces) (r : Receipt) :
  r.set other "service" v = (readServiceDetails v r.service).map fun d => { r with service := d }
  := rfl

/-- Read a receipt. -/
def readReceiptStruct (other : Pieces → Option Time) (v : Json Pieces) (r : Receipt) :
    Option Receipt :=
  GoJson.readPieceStruct ["id", "version", "timestamp", "payment", "service"] (Receipt.set other) v r

/-- Set the field of a signed receipt with a name. -/
def SignedReceipt.set (other : Pieces → Option Time) (name : String) (v : Json Pieces)
    (s : SignedReceipt) : Option SignedReceipt :=
  match name with
  | "receipt" => (readReceiptStruct other v s.receipt).map fun r => { s with receipt := r }
  | "signature" => (readString v s.signature).map fun t => { s with signature := t }
  | "server_public_key" =>
      (readString v s.serverPublicKey).map fun t => { s with serverPublicKey := t }
  | _ => some s

theorem SignedReceipt.set_receipt (other : Pieces → Option Time) (v : Json Pieces)
    (s : SignedReceipt) :
  s.set other "receipt" v = (readReceiptStruct other v s.receipt).map fun r => { s with receipt := r }
  := rfl

theorem SignedReceipt.set_signature (other : Pieces → Option Time) (v : Json Pieces)
    (s : SignedReceipt) :
  s.set other "signature" v = (readString v s.signature).map fun t => { s with signature := t }
  := rfl

theorem SignedReceipt.set_serverPublicKey (other : Pieces → Option Time) (v : Json Pieces)
    (s : SignedReceipt) :
  s.set other "server_public_key" v
    = (readString v s.serverPublicKey).map fun t => { s with serverPublicKey := t }
  := rfl

/-- The signed receipt whose fields have not been set. -/
def SignedReceipt.zero : SignedReceipt where
  receipt := {
    id := []
    version := []
    timestamp := ⟨-62135596800 * 1000000000⟩
    payment := { payer := [], recipient := [], amount := [], token := [], chainId := 0, nonce := [] }
    service := { endpoint := [], requestHash := [], responseHash := [] } }
  signature := []
  serverPublicKey := []

/-- `json.Unmarshal` of a signed receipt. -/
def unmarshalSignedReceipt (other : Pieces → Option Time) (data : List UInt8) :
    Option SignedReceipt :=
  (GoJson.scan data).bind fun v =>
    GoJson.readPieceStruct ["receipt", "signature", "server_public_key"] (SignedReceipt.set other) v
      .zero

/-! ### The store -/

/-- What Redis holds under a key, and until when. -/
structure RedisEntry where
  value : List UInt8
  expiresAt : Int

/-- The entries of Redis. -/
abbrev Redis := List UInt8 → Option RedisEntry

/-- The value under a key that has not expired. -/
def Redis.get (db : Redis) (now : Int) (key : List UInt8) : Option (List UInt8) :=
  ((db key).filter fun e => now < e.expiresAt).map RedisEntry.value

/-- Redis at a time: it takes receipts, and other calls are answered by the world. -/
def redisServer (world : (c : Call) → Answer c) (now : Int) : (c : Call) → Redis → Answer c × Redis
  | .setReceipt key data ttl, db =>
      (.ok (), fun k => if k = key then some { value := data, expiresAt := now + ttl } else db k)
  | c, db => (world c, db)

/-- `RedisReceiptStore.Get`, given the reply of Redis for the key of the id. -/
def getFromRedis (other : Pieces → Option Time) (reply : Except String (Option (List UInt8))) :
    Except String (Option SignedReceipt) :=
  match reply with
  | .error e => .error ("get receipt from redis: " ++ e)
  | .ok none => .ok none
  | .ok (some data) =>
      match unmarshalSignedReceipt other data with
      | none => .error "decode receipt from redis"
      | some receipt =>
          match validateReceipt receipt with
          | .error e => .error ("invalid receipt in redis: " ++ e)
          | .ok () => .ok (some receipt)

/-! ### Reading what was written -/

/-- The digits of an integer are read as the integer. -/
theorem atoi_decimalInt {i : Int} (hlow : -2 ^ 63 ≤ i) (hhigh : i < 2 ^ 63) :
  atoi (utf8 (decimalInt i)) = some i
  := by
  have hdigits : ∀ n, decimal n ≠ [] ∧ (decimal n).all Char.isDigit = true := fun n =>
    ⟨Nat.toDigits_ne_nil, List.all_eq_true.mpr fun c hc => isDigit_of_mem_decimal hc⟩
  have hvalue : ∀ n, Nat.ofDigitChars 10 (decimal n) 0 = n := fun n => Nat.ofDigitChars_ten_toDigits
  cases i with
  | ofNat n =>
      have hsign := parseSign_decimal (show ['+', '-'].all fun c => !c.isDigit from rfl) n []
      rw [List.append_nil] at hsign
      have hlt : n < 2 ^ 63 := by
        simp only [Int.ofNat_eq_natCast] at hhigh
        omega
      rw [decimalInt, atoi, latin1_utf8 (decimal_ascii n), hsign]
      simp only [hvalue, hdigits n, ne_eq, not_false_eq_true, and_self, if_true, hlt,
        List.nil_eq, reduceCtorEq, if_false]
      rfl
  | negSucc n =>
      have hle : n + 1 ≤ 2 ^ 63 := by omega
      have hlatin : latin1 (utf8 ('-' :: decimal (n + 1))) = '-' :: decimal (n + 1) :=
        latin1_utf8 (decimalInt_ascii (.negSucc n))
      have hsign : parseSign ['+', '-'] ('-' :: decimal (n + 1)) = (['-'], decimal (n + 1)) := rfl
      rw [decimalInt, atoi, hlatin, hsign]
      simp only [hvalue, hdigits (n + 1), ne_eq, not_false_eq_true, and_self, if_true, hle]
      rfl

@[simp]
theorem readString_utf8 (x : List Char) (old : List UInt8) :
  readString (.str (GoJson.pieces (utf8 x))) old = some (utf8 x)
  := by
  rw [readString, Json.map, GoJson.unquote_pieces_utf8]
  rfl

/-- Characters that are written as they are have a plain text. -/
theorem plainText_pieces {x : List Char}
    (h : ∀ c ∈ x, charPiece GoJson.named c = .inl c) :
  plainText (GoJson.pieces (utf8 x)) = some x
  := by
  rw [GoJson.pieces, runes_utf8, List.map_map]
  induction x with
  | nil => rfl
  | cons c x ih =>
      obtain ⟨hc, hx⟩ := List.forall_mem_cons.mp h
      rw [List.map_cons, Function.comp_apply, GoJson.runePiece, hc, plainText, ih hx]
      rfl

theorem plainText_format (t : Time) : plainText (GoJson.pieces (utf8 t.format)) = some t.format
  := by
  apply plainText_pieces
  refine forall_mem_format (q := fun c => charPiece GoJson.named c = .inl c) ?_ (by decide) t
  intro c hdigit
  have hrange := Char.isDigit_iff_toNat.mp hdigit
  apply if_neg
  rintro ⟨-, hcontrol | hnamed⟩
  · have hzero : '0'.toNat = 48 := rfl
    omega
  · simp only [GoJson.named, Bool.or_eq_true, decide_eq_true_eq] at hnamed
    rcases hnamed with (((rfl | rfl) | rfl) | rfl) | rfl
    all_goals exact absurd hrange (by decide)

/-- A time that was written is read. -/
theorem readTime_format {t : Time} (h : 0 ≤ t.date.1 ∧ t.date.1 ≤ 9999)
    (other : Pieces → Option Time) (old : Time) :
  readTime other (.str (GoJson.pieces (utf8 t.format))) old = some t
  := by
  rw [readTime, plainText_format, Option.bind_some, parseRFC3339_format h, Option.some_or]

/-- Payment details that were written are read. -/
theorem readPaymentDetails_json {p : PaymentDetails}
    (htexts : ∀ t ∈ [p.payer, p.recipient, p.amount, p.token, p.nonce], ∃ x, t = utf8 x)
    (hchain : -2 ^ 63 ≤ p.chainId ∧ p.chainId < 2 ^ 63) (old : PaymentDetails) :
  readPaymentDetails (p.json.map GoJson.pieces) old = some p
  := by
  simp only [List.forall_mem_cons] at htexts
  obtain ⟨⟨payer, hpayer⟩, ⟨recipient, hrecipient⟩, ⟨amount, hamount⟩, ⟨token, htoken⟩,
    ⟨nonce, hnonce⟩, -⟩ := htexts
  have hread : ∀ j, readInt (.num (decimalInt p.chainId)) j = some p.chainId :=
    fun j => atoi_decimalInt hchain.1 hchain.2
  simp [PaymentDetails.json, Json.map, mapMembers, readPaymentDetails, GoJson.readPieceStruct,
    GoJson.readPieceMembers_cons, PaymentDetails.set, hpayer, hrecipient,
    hamount, htoken, hnonce, hread]
  rw [← hpayer, ← hrecipient, ← hamount, ← htoken, ← hnonce]

/-- Service details that were written are read. -/
theorem readServiceDetails_json {d : ServiceDetails}
    (htexts : ∀ t ∈ [d.endpoint, d.requestHash, d.responseHash], ∃ x, t = utf8 x)
    (old : ServiceDetails) :
  readServiceDetails (d.json.map GoJson.pieces) old = some d
  := by
  simp only [List.forall_mem_cons] at htexts
  obtain ⟨⟨endpoint, hendpoint⟩, ⟨requestHash, hrequest⟩, ⟨responseHash, hresponse⟩, -⟩ := htexts
  simp [ServiceDetails.json, Json.map, mapMembers, readServiceDetails, GoJson.readPieceStruct,
    GoJson.readPieceMembers_cons, ServiceDetails.set_endpoint, ServiceDetails.set_requestHash,
    ServiceDetails.set_responseHash, hendpoint, hrequest, hresponse]
  rw [← hendpoint, ← hrequest, ← hresponse]

/-- The values of a signed receipt Go can write as JSON and read again: its strings are texts,
the year of its timestamp has four digits, and its chain id has 64 bits. -/
structure Storable (s : SignedReceipt) : Prop where
  texts : ∀ t ∈ s.strings, ∃ x, t = utf8 x
  year : 1 ≤ s.receipt.timestamp.date.1 ∧ s.receipt.timestamp.date.1 ≤ 9999
  chainId : -2 ^ 63 ≤ s.receipt.payment.chainId ∧ s.receipt.payment.chainId < 2 ^ 63

theorem Storable.year_nonneg {s : SignedReceipt} (h : Storable s) :
  0 ≤ s.receipt.timestamp.date.1 ∧ s.receipt.timestamp.date.1 ≤ 9999
  := by
  have hyear := h.year
  omega

/-- The receipt of a storable one that was written is read. -/
theorem Storable.readReceiptStruct {s : SignedReceipt} (h : Storable s)
    (other : Pieces → Option Time) (old : Receipt) :
  readReceiptStruct other
    ((s.receipt.jsonWith (.str (utf8 s.receipt.timestamp.format))).map GoJson.pieces) old
    = some s.receipt
  := by
  have htexts := h.texts
  simp only [SignedReceipt.strings, List.forall_mem_cons] at htexts
  obtain ⟨⟨id, hid⟩, ⟨version, hversion⟩, hpayer, hrecipient, hamount, htoken, hnonce, hendpoint,
    hrequest, hresponse, -⟩ := htexts
  have hpayment : ∀ old, readPaymentDetails (s.receipt.payment.json.map GoJson.pieces) old
      = some s.receipt.payment := by
    apply readPaymentDetails_json _ h.chainId
    simp only [List.forall_mem_cons]
    exact ⟨hpayer, hrecipient, hamount, htoken, hnonce, List.forall_mem_nil _⟩
  have hservice : ∀ old, readServiceDetails (s.receipt.service.json.map GoJson.pieces) old
      = some s.receipt.service := by
    apply readServiceDetails_json
    simp only [List.forall_mem_cons]
    exact ⟨hendpoint, hrequest, hresponse, List.forall_mem_nil _⟩
  have htime := readTime_format h.year_nonneg other
  have hids : ∀ t, readString (.str (GoJson.pieces s.receipt.id)) t = some s.receipt.id := by
    intro t
    rw [hid, readString_utf8]
  have hversions : ∀ t, readString (.str (GoJson.pieces s.receipt.version)) t
      = some s.receipt.version := by
    intro t
    rw [hversion, readString_utf8]
  simp only [Receipt.jsonWith, Json.map, mapMembers, Gateway.readReceiptStruct,
    GoJson.readPieceStruct]
  rw [GoJson.readPieceMembers_cons (by decide), Receipt.set_id, hids, Option.map_some,
    Option.bind_some, GoJson.readPieceMembers_cons (by decide), Receipt.set_version, hversions,
    Option.map_some, Option.bind_some, GoJson.readPieceMembers_cons (by decide),
    Receipt.set_timestamp, htime, Option.map_some, Option.bind_some,
    GoJson.readPieceMembers_cons (by decide), Receipt.set_payment, hpayment, Option.map_some,
    Option.bind_some, GoJson.readPieceMembers_cons (by decide), Receipt.set_service, hservice,
    Option.map_some, Option.bind_some, GoJson.readPieceMembers_nil]

/-- A storable receipt has a JSON form, which is read as the receipt. -/
theorem Storable.unmarshal {s : SignedReceipt} (h : Storable s) (other : Pieces → Option Time) :
  ∃ v, s.json = some v ∧ unmarshalSignedReceipt other (GoJson.marshal v) = some s
  := by
  have htimestamp : s.receipt.timestamp.json = some (.str (utf8 s.receipt.timestamp.format)) :=
    if_pos h.year_nonneg
  have hjson : s.json = some (.obj [
      (bytes "receipt", s.receipt.jsonWith (.str (utf8 s.receipt.timestamp.format))),
      (bytes "signature", .str s.signature),
      (bytes "server_public_key", .str s.serverPublicKey)]) := by
    rw [SignedReceipt.json, Receipt.json, htimestamp, Option.map_some, Option.map_some]
  have htexts := h.texts
  simp only [SignedReceipt.strings, List.forall_mem_cons] at htexts
  obtain ⟨-, -, -, -, -, -, -, -, -, -, ⟨signature, hsignature⟩, ⟨key, hkey⟩, -⟩ := htexts
  have hsignatures : ∀ t, readString (.str (GoJson.pieces s.signature)) t = some s.signature := by
    intro t
    rw [hsignature, readString_utf8]
  have hkeys : ∀ t, readString (.str (GoJson.pieces s.serverPublicKey)) t
      = some s.serverPublicKey := by
    intro t
    rw [hkey, readString_utf8]
  have hdepth := SignedReceipt.depth_json hjson
  refine ⟨_, hjson, ?_⟩
  rw [unmarshalSignedReceipt, GoJson.scan_marshal (SignedReceipt.valid_json hjson) (by
    rw [hdepth]
    decide), Option.bind_some]
  simp only [Json.map, mapMembers, GoJson.readPieceStruct]
  rw [GoJson.readPieceMembers_cons (by decide), SignedReceipt.set_receipt, h.readReceiptStruct,
    Option.map_some, Option.bind_some, GoJson.readPieceMembers_cons (by decide),
    SignedReceipt.set_signature, hsignatures, Option.map_some, Option.bind_some,
    GoJson.readPieceMembers_cons (by decide), SignedReceipt.set_serverPublicKey, hkeys,
    Option.map_some, Option.bind_some, GoJson.readPieceMembers_nil]

/-! ### Storing and getting -/

/-- A valid receipt with a positive time to live is put into Redis. -/
theorem runIn_storeInRedis {receipt : SignedReceipt} {ttl : Int} {v : Json (List UInt8)}
    (hvalid : validateReceipt receipt = .ok ()) (httl : 0 < ttl) (hv : receipt.json = some v)
    (world : (c : Call) → Answer c) (now : Int) (db : Redis) :
  (storeInRedis receipt ttl).runIn (redisServer world now) db
    = (.ok (), fun k => if k = redisReceiptKey receipt.receipt.id then
        some { value := GoJson.marshal v, expiresAt := now + ttl } else db k)
  := by
  have hcheck : checkStore receipt ttl = .ok () := by
    rw [checkStore, hvalid]
    exact if_neg (by omega)
  rw [storeInRedis, hcheck]
  simp only [hv]
  rfl

/-- A valid receipt that is stored in Redis is found until it expires, unless its key is set
again: no error is reported, the receipt is written with the very bytes the stored one was,
and it has the signature and the key of the stored one.  Hence the signature is one of the
receipt that is found if it was one of the receipt that was stored. -/
theorem redis_round_trip {receipt : SignedReceipt} (hvalid : validateReceipt receipt = .ok ())
    (hstorable : Storable receipt) {ttl now later : Int} (httl : 0 < ttl)
    (hlater : later < now + ttl) (world : (c : Call) → Answer c) (db : Redis)
    (other : Pieces → Option Time) :
  ∃ db' r bytes, (storeInRedis receipt ttl).runIn (redisServer world now) db = (.ok (), db')
    ∧ (∀ db'' : Redis, db'' (redisReceiptKey receipt.receipt.id)
          = db' (redisReceiptKey receipt.receipt.id) →
        getFromRedis other (.ok (db''.get later (redisReceiptKey receipt.receipt.id)))
          = .ok (some r))
    ∧ r.receipt.json.map GoJson.marshal = some bytes
    ∧ receipt.receipt.json.map GoJson.marshal = some bytes
    ∧ r.signature = receipt.signature
    ∧ r.serverPublicKey = receipt.serverPublicKey
    ∧ ∀ s, SignedByServer s receipt → SignedByServer s r
  := by
  obtain ⟨v, hv, hread⟩ := hstorable.unmarshal other
  obtain ⟨w, hw, -⟩ := Option.map_eq_some_iff.mp hv
  have hbytes : receipt.receipt.json.map GoJson.marshal = some (GoJson.marshal w) := by
    rw [hw, Option.map_some]
  refine ⟨_, receipt, GoJson.marshal w, runIn_storeInRedis hvalid httl hv world now db, ?_, hbytes,
    hbytes, rfl, rfl, fun s hs => hs⟩
  intro db'' hsame
  have hget : db''.get later (redisReceiptKey receipt.receipt.id) = some (GoJson.marshal v) := by
    rw [Redis.get, hsame, if_pos rfl, Option.filter_some, if_pos (decide_eq_true hlater),
      Option.map_some]
  rw [hget, getFromRedis]
  simp only [hread, hvalid]

/-! ### A sample -/

/-- A receipt with a timestamp of many digits and a nonce of many kinds of characters. -/
def storedReceipt : SignedReceipt where
  receipt := {
    id := bytes "rcpt_0123456789ab"
    version := bytes "1.0"
    timestamp := ⟨1709251199000120300⟩
    payment := {
      payer := bytes "0x12"
      recipient := bytes "0x34"
      amount := bytes "0.001"
      token := bytes "USDC"
      chainId := 84532
      nonce := bytes "é&\n" }
    service := {
      endpoint := bytes "/api/ai/summarize"
      requestHash := bytes "sha256:00"
      responseHash := bytes "sha256:11" } }
  signature := bytes "0x56"
  serverPublicKey := bytes "0x04"

theorem storable_sample : Storable storedReceipt
  := by
  constructor
  · simp only [SignedReceipt.strings, storedReceipt, List.forall_mem_cons]
    exact ⟨⟨_, rfl⟩, ⟨_, rfl⟩, ⟨_, rfl⟩, ⟨_, rfl⟩, ⟨_, rfl⟩, ⟨_, rfl⟩, ⟨_, rfl⟩, ⟨_, rfl⟩, ⟨_, rfl⟩,
      ⟨_, rfl⟩, ⟨_, rfl⟩, ⟨_, rfl⟩, List.forall_mem_nil _⟩
  · decide
  · decide

/-- The sample receipt is stored for an hour and found after a minute. -/
theorem redis_round_trip_sample :
  validateReceipt storedReceipt = .ok () ∧ Storable storedReceipt
    ∧ ∃ db' r, (storeInRedis storedReceipt 3600000000000).runIn (redisServer cachedWorld 0) (fun _ => none)
        = (.ok (), db')
      ∧ getFromRedis (fun _ => none)
          (.ok (Redis.get db' 60000000000 (redisReceiptKey storedReceipt.receipt.id))) = .ok (some r)
      ∧ r.signature = bytes "0x56"
  := by
  have hvalid : validateReceipt storedReceipt = .ok () := by
    have hok : (validateReceipt storedReceipt).isOk = true := by decide +kernel
    cases h : validateReceipt storedReceipt with
    | error e =>
        rw [h] at hok
        cases hok
    | ok u => rfl
  refine ⟨hvalid, storable_sample, ?_⟩
  obtain ⟨db', r, -, hstore, hget, -, -, hsignature, -⟩ :=
    redis_round_trip hvalid storable_sample (show (0 : Int) < 3600000000000 by decide)
      (show (60000000000 : Int) < 0 + 3600000000000 by decide) cachedWorld (fun _ => none) (fun _ => none)
  exact ⟨db', r, hstore, hget db' rfl, hsignature⟩

end Paygate.Gateway
