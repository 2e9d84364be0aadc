import Qasedak.Panels.Platform
import Qasedak.Panels.XuiApi
import Mathlib.Data.List.Sort
import Mathlib.Data.Set.Function

/-! The identities under which an order's clients are created: `order_identity` and
`multi_inbound_order_identity`. They depend on the order, the inbounds and the index of the
client alone, so that a retry finds what an earlier attempt created. -/

namespace Qasedak.Orders

open Foundation Store Panels

variable (platform : Platform)

def orderCustomer (db : Db) (o : Order) : Option Customer := o.customer.bind db.customers.get?

/-- The display name of an order that has neither a prefix nor a username. -/
def orderDisplayName (db : Db) (o : Order) : String :=
  buildClientDisplayName platform.unicode (orderCustomer db o) o

/-- The prefix of the e-mails: the recorded one, the username or the display name. -/
def orderEmailPrefix (db : Db) (o : Order) : String :=
  if o.metadata.provisioningEmailPrefix.getD "" ≠ "" then
    o.metadata.provisioningEmailPrefix.getD ""
  else if o.username ≠ "" then o.username
  else orderDisplayName platform db o

/-- `str(value or "")`. -/
def textOrEmpty (n : ℕ) : String := if n = 0 then "" else toString n

/-- The input of the digests for one inbound. -/
def orderIdentityBase (o : Order) (i : Inbound) (index : ℕ) : String :=
  "|".intercalate
    ["qasedak", "paid-provisioning", o.publicId, o.orderTrackingCode, textOrEmpty i.panel,
      if i.xuiNodeId = "" then "local" else i.xuiNodeId, textOrEmpty i.inboundId, toString index]

/-- The input of the digests for a bundle; the first inbound names the panel. -/
def multiInboundOrderIdentityBase (o : Order) (inbounds : List Inbound) (index : ℕ) : String :=
  "|".intercalate
    ["qasedak", "paid-multi-inbound-provisioning", o.publicId, o.orderTrackingCode,
      textOrEmpty ((inbounds.head?.map (·.panel)).getD 0),
      ",".intercalate ((inbounds.map inboundRemoteKey).insertionSort (· ≤ ·)), toString index]

/-- `hashlib.sha256(f"sub:{base}").hexdigest()[:16]`. -/
def subIdOf (base : String) : String :=
  String.ofList ((platform.hash.sha256 ("sub:" ++ base)).toList.take 16)

def identityOf (emailPrefix base : String) : ClientIdentity where
  uuid := platform.hash.uuid5 base
  subId := subIdOf platform base
  email := buildXuiClientEmail platform.unicode emailPrefix (platform.hash.uuid5 base)
  emailPrefix := emailPrefix

/-- `order_identity`. -/
def orderIdentity (db : Db) (o : Order) (i : Inbound) (index : ℕ) : ClientIdentity :=
  identityOf platform (orderEmailPrefix platform db o) (orderIdentityBase o i index)

/-- `multi_inbound_order_identity` of a bundle that is not empty. -/
def multiInboundOrderIdentity (db : Db) (o : Order) (inbounds : List Inbound) (index : ℕ) :
    ClientIdentity :=
  identityOf platform (orderEmailPrefix platform db o)
    (multiInboundOrderIdentityBase o inbounds index)

theorem toString_injective {m n : ℕ} (h : toString m = toString n) : m = n := by
  have hdigits : Nat.toDigits 10 m = Nat.toDigits 10 n := by
    rw [← Nat.toList_repr, ← Nat.toList_repr]
    exact congrArg String.toList h
  have hvalue := congrArg (Nat.ofDigitChars 10 · 0) hdigits
  simpa only [Nat.ofDigitChars_ten_toDigits] using hvalue

end Qasedak.Orders
