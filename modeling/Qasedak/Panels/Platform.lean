import Qasedak.Panels.Remote
import Qasedak.Store.Naming
import Mathlib.Data.List.Basic

/-! What the shop relies on and does not contain: Unicode, the digests of `uuid` and
`hashlib`, and the links that the settings of a panel make. -/

namespace Qasedak.Panels

open Store Payments

def hexDigits : List Char :=
  ['0', '1', '2', '3', '4', '5', '6', '7', '8', '9', 'a', 'b', 'c', 'd', 'e', 'f']

/-- `hexdigest()` of a digest with so many digits. -/
def HexText (length : ℕ) (s : String) : Prop :=
  s.toList.length = length ∧ ∀ c ∈ s.toList, c ∈ hexDigits

/-- Groups of 8, 4, 4, 4 and 12 digits, with hyphens between them. -/
def UuidText (s : String) : Prop :=
  s.toList.length = 36 ∧ (∀ c ∈ s.toList, c = '-' ∨ c ∈ hexDigits) ∧ '-' ∈ s.toList ∧
    ∀ c ∈ s.toList.take 8, c ∈ hexDigits

instance (length : ℕ) (s : String) : Decidable (HexText length s) :=
  inferInstanceAs (Decidable (_ ∧ _))

instance (s : String) : Decidable (UuidText s) :=
  inferInstanceAs (Decidable (_ ∧ _ ∧ _ ∧ _))

/-- `uuid.uuid5(uuid.NAMESPACE_URL, …)` and `hashlib.sha256(…).hexdigest()`. -/
structure IdentityHash where
  uuid5 : String → String
  sha256 : String → String
  uuid5_format : ∀ s, UuidText (uuid5 s)
  sha256_format : ∀ s, HexText 64 (sha256 s)

structure Platform where
  unicode : Unicode
  hash : IdentityHash
  /-- `build_direct_link`. -/
  directLink : Inbound → RemoteClient → String
  /-- `build_sub_base_url`. -/
  subBaseUrl : Inbound → String
  /-- The `subscription_url` of a PasarGuard user. -/
  subscriptionUrl : PasarguardUser → String
  /-- `fetch_native_links`. -/
  nativeLinks : PasarguardUser → List String
  /-- `filter_native_configs` under the policy of a delivery source. -/
  selectedConfigs : ℕ → List String → List String
  /-- `build_subscription_cup_url`. -/
  cupUrl : ℕ → String

/-- Digests from tables of known values; other texts get the digests that are all zeros. -/
def IdentityHash.ofTables (uuids digests : List (String × String)) : IdentityHash where
  uuid5 s :=
    let known := (uuids.lookup s).getD ""
    if UuidText known then known else "00000000-0000-5000-8000-000000000000"
  sha256 s :=
    let known := (digests.lookup s).getD ""
    if HexText 64 known then known
    else "0000000000000000000000000000000000000000000000000000000000000000"
  uuid5_format s := by
    dsimp only
    split
    · assumption
    · decide
  sha256_format s := by
    dsimp only
    split
    · assumption
    · decide

/-- A platform for panels that serve plain links. -/
def Platform.ofTables (uuids digests : List (String × String)) : Platform where
  unicode := .ascii
  hash := .ofTables uuids digests
  directLink _ c := "vless://" ++ c.id
  subBaseUrl _ := "https://panel.example.com"
  subscriptionUrl u := "https://panel.example.com/sub/" ++ u.username
  nativeLinks u := ["vless://" ++ u.username]
  selectedConfigs _ links := links
  cupUrl k := "/cup/" ++ toString k

/-- What a client is created under, and found again by. -/
structure ClientIdentity where
  uuid : String
  subId : String
  email : String
  emailPrefix : String
  deriving DecidableEq, Repr

/-! ## Digits -/

/-- A text without a space at its ends is its own `strip`. -/
theorem strip_eq_self {s : String} (hhead : ∀ c ∈ s.toList.head?, isSpace c = false)
    (hlast : ∀ c ∈ s.toList.getLast?, isSpace c = false) : strip s = s := by
  rw [strip, stripChars_eq_self hhead hlast, String.ofList_toList]

end Qasedak.Panels
