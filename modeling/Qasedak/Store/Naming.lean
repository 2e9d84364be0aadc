import Qasedak.Payments.SmsParser

/-! `store/naming.py`: the names of clients on the panels. What Python knows about Unicode
is a parameter. -/

namespace Qasedak.Store

open Payments

/-- The general categories, by their first letter. -/
inductive Category where
  | letter
  | number
  | punctuation
  | symbol
  | separator
  | other
  deriving DecidableEq, Repr

/-- `unicodedata.normalize("NFKC")`, `unicodedata.category` and `str.casefold`. -/
structure Unicode where
  nfkc : String → String
  category : Char → Category
  casefold : String → String

/-- What Python knows of the ASCII characters. -/
def Unicode.ascii : Unicode where
  nfkc s := s
  category c :=
    if c.isAlpha then .letter
    else if c.isDigit then .number
    else if c = ' ' then .separator
    else if c = '$' ∨ c = '+' ∨ c = '<' ∨ c = '=' ∨ c = '>' ∨ c = '^' ∨ c = Char.ofNat 96 ∨ c = '|' ∨
        c = '~' then .symbol
    else if c.toNat < 32 ∨ c.toNat = 127 then .other
    else .punctuation
  casefold s := String.ofList (s.toList.map Char.toLower)

/-! ## Texts -/

/-- What is left of a list without the ends that satisfy `p`. -/
def stripChars (p : Char → Bool) (cs : List Char) : List Char :=
  ((cs.dropWhile p).reverse.dropWhile p).reverse

/-- `str.strip`. -/
@[irreducible] def strip (s : String) : String := String.ofList (stripChars isSpace s.toList)

def isUnderscore (c : Char) : Bool := c = '_'

theorem stripChars_eq_self {p : Char → Bool} {cs : List Char} (hhead : ∀ c ∈ cs.head?, p c = false)
    (hlast : ∀ c ∈ cs.getLast?, p c = false) : stripChars p cs = cs := by
  have hdrop : ∀ ds : List Char, (∀ c ∈ ds.head?, p c = false) → ds.dropWhile p = ds := by
    intro ds hds
    cases ds with
    | nil => rfl
    | cons d ds => simp [hds d (by simp)]
  unfold stripChars
  rw [hdrop cs hhead, hdrop cs.reverse (by simpa using hlast), List.reverse_reverse]

theorem head?_stripChars {p : Char → Bool} {cs : List Char} :
    ∀ c ∈ (stripChars p cs).head?, p c = false := by
  intro c hc
  have hfirst : ∀ d ∈ (cs.dropWhile p).head?, p d = false := by
    intro d hd
    have := List.head?_dropWhile_not p cs
    simp_all
  have hsub : stripChars p cs <+: cs.dropWhile p := by
    unfold stripChars
    rw [← List.reverse_suffix, List.reverse_reverse]
    exact List.dropWhile_suffix p
  obtain ⟨rest, hrest⟩ := hsub
  apply hfirst
  cases hs : stripChars p cs with
  | nil => simp [hs] at hc
  | cons x xs =>
      rw [hs] at hc hrest
      rw [← hrest]
      simpa using hc

theorem getLast?_stripChars {p : Char → Bool} {cs : List Char} :
    ∀ c ∈ (stripChars p cs).getLast?, p c = false := by
  intro c hc
  rw [stripChars, List.getLast?_reverse] at hc
  have := List.head?_dropWhile_not p (cs.dropWhile p).reverse
  simp_all

theorem strip_strip (s : String) : strip (strip s) = strip s := by
  have htext : (strip s).toList = stripChars isSpace s.toList := by
    rw [strip, String.toList_ofList]
  have hself : stripChars isSpace (stripChars isSpace s.toList) = stripChars isSpace s.toList :=
    stripChars_eq_self head?_stripChars getLast?_stripChars
  calc strip (strip s) = String.ofList (stripChars isSpace (strip s).toList) := by rw [strip]
    _ = String.ofList (stripChars isSpace s.toList) := by rw [htext, hself]
    _ = strip s := by rw [strip]

/-! ## Names -/

section Names

variable (unicode : Unicode)

/-- `_DIGIT_TRANSLATION` and `_PERSIAN_CHAR_TRANSLATION` at one character. -/
def translateChar (c : Char) : Char :=
  if 0x6F0 ≤ c.toNat ∧ c.toNat ≤ 0x6F9 then Char.ofNat (c.toNat - 0x6F0 + 0x30)
  else if 0x660 ≤ c.toNat ∧ c.toNat ≤ 0x669 then Char.ofNat (c.toNat - 0x660 + 0x30)
  else if c = 'ك' then 'ک'
  else if c = 'ي' ∨ c = 'ى' then 'ی'
  else if c = 'ۀ' ∨ c = 'ة' then 'ه'
  else if c = 'ؤ' then 'و'
  else if c = 'إ' ∨ c = 'أ' ∨ c = 'ٱ' then 'ا'
  else if c.toNat = 0x200C then '_'
  else c

/-- `_normalize_text`. -/
def normalizeText (value : String) : String :=
  String.ofList ((unicode.nfkc value).toList.map translateChar)

/-- What the loop of `clean_client_name` keeps; a run of separators becomes one underscore. -/
def cleanChars : List Char → Bool → List Char
  | [], _ => []
  | c :: cs, previousSeparator =>
      match unicode.category c with
      | .letter | .number => c :: cleanChars cs false
      | .punctuation | .symbol | .separator =>
          if previousSeparator then cleanChars cs true else '_' :: cleanChars cs true
      | .other =>
          if c = '_' ∨ c = '-' ∨ c = '.' ∨ c = ' ' then
            if previousSeparator then cleanChars cs true else '_' :: cleanChars cs true
          else cleanChars cs previousSeparator

/-- `re.sub(r"_+", "_", …)`. -/
def collapseUnderscores : List Char → List Char
  | '_' :: '_' :: cs => collapseUnderscores ('_' :: cs)
  | c :: cs => c :: collapseUnderscores cs
  | [] => []

/-- `result[:max_length].strip("_")`, where the result is too long. -/
def trimName (maxLength : ℕ) (cs : List Char) : List Char :=
  if maxLength ≠ 0 ∧ maxLength < cs.length then stripChars isUnderscore (cs.take maxLength) else cs

/-- `clean_client_name`. -/
def cleanClientName (value : String) (maxLength : ℕ) (fallback : List Char) : List Char :=
  let text := strip (unicode.casefold (normalizeText unicode value))
  let cleaned := stripChars isUnderscore (collapseUnderscores (cleanChars unicode text.toList false))
  let result := trimName maxLength cleaned
  if result = [] then fallback else result

/-- `_PLACEHOLDER_NAMES`. -/
def placeholderNames : List String :=
  ["رسید_تصویری", "رسيد_تصویری", "رسيد_تصويري", "receipt_image", "image_receipt"]

/-- `_clean_optional_name`. -/
def cleanOptionalName (value : String) (maxLength : ℕ) : List Char :=
  let cleaned := cleanClientName unicode value maxLength []
  if String.ofList cleaned ∈ placeholderNames then [] else cleaned

/-- `_looks_like_default_customer_name`. -/
def looksLikeDefaultCustomerName (customer : Customer) (value : String) : Bool :=
  strip value = "" ||
    unicode.casefold (strip value) =
      unicode.casefold (strip ("Customer " ++ String.ofList (customer.publicId.toList.take 8))) ||
    unicode.casefold (strip value) = unicode.casefold (strip ("Customer " ++ toString customer.pk))

/-- `_customer_identifier`. -/
def customerIdentifier : Option Customer → String
  | none => ""
  | some customer => "customer_" ++ toString customer.pk

/-- `_name_candidates` for an order. -/
def nameCandidates (customer : Option Customer) (o : Order) : List String :=
  let ofCustomer : List String := match customer with
    | none => []
    | some c =>
        (if looksLikeDefaultCustomerName unicode c c.displayName then [] else [c.displayName]) ++
          [c.username]
  let contact : List String := match customer with
    | none => []
    | some c => [c.phoneNumber, customerIdentifier (some c)]
  [o.senderCardName, o.senderCardName] ++ ofCustomer ++ [o.metadata.botUsername] ++ contact

/-- `re.sub(r"[^A-Za-z0-9]+", "", value).lower()[:8]`. -/
def shortName (value : String) : List Char :=
  ((value.toList.filter Char.isAlphanum).map Char.toLower).take 8

/-- `_short_identifier` for an order; its key always has a digit. -/
def shortIdentifier (o : Order) : List Char :=
  if shortName o.orderTrackingCode ≠ [] then shortName o.orderTrackingCode
  else shortName (toString o.pk)

/-- `CLIENT_EMAIL_PREFIX_MAX_LENGTH`. -/
def clientEmailPrefixMaxLength : ℕ := 31

/-- `build_client_display_name` for an order, without a prefix. -/
def buildClientDisplayName (customer : Option Customer) (o : Order) : String :=
  let short := shortIdentifier o
  let candidates := (nameCandidates unicode customer o).map
    (cleanOptionalName unicode · clientEmailPrefixMaxLength)
  let base := match candidates.find? (· ≠ []) with
    | some name => name
    | none => cleanClientName unicode (customerIdentifier customer) clientEmailPrefixMaxLength
        "user".toList
  let available := max (clientEmailPrefixMaxLength - short.length - (if short = [] then 0 else 1)) 1
  let trimmed := cleanClientName unicode (String.ofList base) available "user".toList
  let joined := if short = [] then trimmed else trimmed ++ '_' :: short
  let name := stripChars isUnderscore (joined.take clientEmailPrefixMaxLength)
  if name = [] then "user" else String.ofList name

/-- `build_xui_client_email`, for a uuid with eight letters or digits. -/
def buildXuiClientEmail (emailPrefix clientUuid : String) : String :=
  let suffix := shortName clientUuid
  let name := cleanClientName unicode emailPrefix (max (40 - suffix.length - 1) 1) "user".toList
  String.ofList (stripChars isUnderscore ((name ++ '_' :: suffix).take 40))

/-! ## The parts of an e-mail -/

variable {unicode}

end Names

end Qasedak.Store
