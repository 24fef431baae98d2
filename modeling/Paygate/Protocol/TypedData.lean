import Mathlib.Tactic.Common

/-!
# Typed data of a payment

The EIP-712 typed data a payment signature is made over, as the verifier and the clients
write it down: a domain, the field list of each struct type, and the message.  It is
parametrised by the type `σ` of strings, which differs between the programs.
-/

namespace Paygate

/-- The signing domain. -/
structure TypedDataDomain (σ : Type) where
  name : σ
  version : σ
  chainId : Nat
  verifyingContract : σ
  deriving DecidableEq, Repr

/-- One field of a struct type. -/
structure TypedDataField (σ : Type) where
  name : σ
  type : σ
  deriving DecidableEq, Repr

/-- The values of the fields of the `Payment` struct. -/
structure PaymentMessage (σ : Type) where
  recipient : σ
  token : σ
  amount : σ
  nonce : σ
  timestamp : Option Nat
  deriving DecidableEq, Repr

/-- A domain, the field lists of the struct types by name, and a message. -/
structure TypedData (σ : Type) where
  domain : TypedDataDomain σ
  types : List (σ × List (TypedDataField σ))
  message : PaymentMessage σ
  deriving DecidableEq, Repr

section Map

variable {σ τ : Type} (f : σ → τ)

/-- The domain with `f` applied to its strings. -/
def TypedDataDomain.map (d : TypedDataDomain σ) : TypedDataDomain τ where
  name := f d.name
  version := f d.version
  chainId := d.chainId
  verifyingContract := f d.verifyingContract

/-- The field with `f` applied to its strings. -/
def TypedDataField.map (d : TypedDataField σ) : TypedDataField τ where
  name := f d.name
  type := f d.type

/-- The message with `f` applied to its strings. -/
def PaymentMessage.map (m : PaymentMessage σ) : PaymentMessage τ where
  recipient := f m.recipient
  token := f m.token
  amount := f m.amount
  nonce := f m.nonce
  timestamp := m.timestamp

/-- The typed data with `f` applied to its strings. -/
def TypedData.map (d : TypedData σ) : TypedData τ where
  domain := d.domain.map f
  types := d.types.map fun t => (f t.1, t.2.map (TypedDataField.map f))
  message := d.message.map f

end Map

end Paygate
