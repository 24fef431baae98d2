import Paygate.Base.Word
import Paygate.Base.Assoc
import Paygate.Base.Hex
import Paygate.Base.Machine
import Paygate.Base.Moments
import Paygate.Base.Interaction
import Paygate.Base.Answers
import Paygate.Base.Budget
import Paygate.Base.Recency
import Paygate.Base.Register
import Paygate.Base.Expiry
import Paygate.Base.Text
import Paygate.Base.Uri
import Paygate.Base.Json
import Paygate.Base.GoJson
import Paygate.Base.JsonCut
import Paygate.Base.JsJson
import Paygate.Base.JsLatin1
import Paygate.Base.JsNumber
import Paygate.Base.SerdeJson
import Paygate.Base.JsonWords
import Paygate.Base.Decimal
import Paygate.Base.Base64
import Paygate.Base.Sha256
import Paygate.Gateway.Writer
import Paygate.Gateway.Timeout
import Paygate.Gateway.Moves
import Paygate.Gateway.Layers
import Paygate.Gateway.Isolation
import Paygate.Gateway.Config
import Paygate.Gateway.Verify
import Paygate.Gateway.RateLimit
import Paygate.Gateway.Cleanup
import Paygate.Gateway.Remaining
import Paygate.Gateway.RetryAfter
import Paygate.Gateway.Receipt
import Paygate.Gateway.ReceiptStore
import Paygate.Gateway.Clock
import Paygate.Gateway.RedisStore
import Paygate.Gateway.Stores
import Paygate.Gateway.Summarize
import Paygate.Gateway.Admission
import Paygate.Gateway.Conformance
import Paygate.Gateway.Lookup
import Paygate.Gateway.CacheKey
import Paygate.Gateway.Integrity
import Paygate.Gateway.FailClosed
import Paygate.Gateway.Asked
import Paygate.Gateway.Routes
import Paygate.Gateway.Pooled
import Paygate.Gateway.Undisturbed
import Paygate.Gateway.CacheRule
import Paygate.Gateway.CacheSound
import Paygate.Gateway.Startup
import Paygate.Gateway.Boot
import Paygate.Gateway.Stranded
import Paygate.Gateway.CurrentWriter
import Paygate.Gateway.Metrics
import Paygate.Verifier.Basic
import Paygate.Verifier.Memory
import Paygate.Verifier.Sweep
import Paygate.Verifier.Redis
import Paygate.Verifier.Signatures
import Paygate.Verifier.Settings
import Paygate.Verifier.Http
import Paygate.Sdk.Receipts
import Paygate.Sdk.Payment
import Paygate.Sdk.Client
import Paygate.Web.Receipts
import Paygate.Web.ReceiptVerification
import Paygate.Web.Values
import Paygate.Web.ReceiptStorage
import Paygate.Web.Accepted
import Paygate.Web.Errors
import Paygate.Web.UseX402
import Paygate.Web.FlowSafe
import Paygate.Web.Supersede
import Paygate.Web.Attribution
import Paygate.Protocol.TypedData
import Paygate.Protocol.ReceiptCodec
import Paygate.Protocol.ReceiptSoundness
import Paygate.Protocol.ReceiptHeader
import Paygate.Protocol.VerifyCodec
import Paygate.Protocol.Parity
import Paygate.Protocol.PaymentGate
import Paygate.Protocol.Ledger
import Paygate.Protocol.WebParity
import Paygate.Sdk.Exchange
import Paygate.Sdk.RetryHeaders
import Paygate.Sdk.Lookup
import Paygate.Protocol.Deployment
import Paygate.Protocol.HonestRun
import Paygate.Protocol.Traffic
import Paygate.Protocol.Verdicts
import Paygate.Protocol.Boot
import Paygate.Protocol.Lookup
