import Qasedak.Foundation.Regex
import Qasedak.Store.Model

/-! `payments/sms_parser.py`: the deposit amount, the balance and the time of a bank SMS. -/

namespace Qasedak.Payments

open Foundation Store

/-! ## Characters -/

/-- Python's `str.isspace`, which is also `\s`. -/
def isSpace (c : Char) : Bool :=
  (9 ≤ c.toNat && c.toNat ≤ 13) || (0x1C ≤ c.toNat && c.toNat ≤ 0x20) || c.toNat == 0x85 ||
    c.toNat == 0xA0 || c.toNat == 0x1680 || (0x2000 ≤ c.toNat && c.toNat ≤ 0x200A) ||
    c.toNat == 0x2028 || c.toNat == 0x2029 || c.toNat == 0x202F || c.toNat == 0x205F ||
    c.toNat == 0x3000

/-- The line boundaries of `str.splitlines`; `\r\n` is one boundary. -/
def isLineBreak (c : Char) : Bool :=
  (10 ≤ c.toNat && c.toNat ≤ 13) || (0x1C ≤ c.toNat && c.toNat ≤ 0x1E) || c.toNat == 0x85 ||
    c.toNat == 0x2028 || c.toNat == 0x2029

/-- The zeros of the decimal digits of Unicode, ten consecutive code points each. -/
def decimalZeros : List ℕ :=
  [0x30, 0x660, 0x6F0, 0x7C0, 0x966, 0x9E6, 0xA66, 0xAE6, 0xB66, 0xBE6, 0xC66, 0xCE6, 0xD66,
    0xDE6, 0xE50, 0xED0, 0xF20, 0x1040, 0x1090, 0x17E0, 0x1810, 0x1946, 0x19D0, 0x1A80, 0x1A90,
    0x1B50, 0x1BB0, 0x1C40, 0x1C50, 0xA620, 0xA8D0, 0xA900, 0xA9D0, 0xA9F0, 0xAA50, 0xABF0,
    0xFF10, 0x104A0, 0x10D30, 0x11066, 0x110F0, 0x11136, 0x111D0, 0x112F0, 0x11450, 0x114D0,
    0x11650, 0x116C0, 0x11730, 0x118E0, 0x11950, 0x11C50, 0x11D50, 0x11DA0, 0x16A60, 0x16AC0,
    0x16B50, 0x1D7CE, 0x1D7D8, 0x1D7E2, 0x1D7EC, 0x1D7F6, 0x1E140, 0x1E2F0, 0x1E950, 0x1FBF0]

/-- The value of a decimal digit, as `int` reads it. -/
def digitValue (c : Char) : Option ℕ :=
  (decimalZeros.find? (fun z => z ≤ c.toNat && c.toNat < z + 10)).map (c.toNat - ·)

/-- `\d`. -/
def isDecimal (c : Char) : Bool := (digitValue c).isSome

/-- `[0-9]`. -/
def isAsciiDigit (c : Char) : Bool := '0' ≤ c && c ≤ '9'

/-- `int` of a text of decimal digits. -/
def intOfDigits (ds : List Char) : ℕ :=
  ds.foldl (fun n c => 10 * n + (digitValue c).getD 0) 0

/-- `DIGIT_TRANSLATION` at one character. -/
def digitTranslation (c : Char) : List Char :=
  if 0x6F0 ≤ c.toNat ∧ c.toNat ≤ 0x6F9 then [Char.ofNat (c.toNat - 0x6F0 + 0x30)]
  else if 0x660 ≤ c.toNat ∧ c.toNat ≤ 0x669 then [Char.ofNat (c.toNat - 0x660 + 0x30)]
  else if c.toNat = 0x64A then [Char.ofNat 0x6CC]
  else if c.toNat = 0x643 then [Char.ofNat 0x6A9]
  else if c.toNat = 0x66C ∨ c.toNat = 0x60C then [',']
  else if c.toNat = 0x200C then [' ']
  else if c.toNat = 0x200E ∨ c.toNat = 0x200F then []
  else [c]

def normalizeSmsText (text : List Char) : List Char :=
  text.flatMap digitTranslation

/-- `str.splitlines`. -/
def splitlines : List Char → List (List Char)
  | [] => []
  | '\r' :: '\n' :: cs => [] :: splitlines cs
  | c :: cs =>
      if isLineBreak c then [] :: splitlines cs
      else match splitlines cs with
        | [] => [[c]]
        | line :: rest => (c :: line) :: rest

/-! ## Patterns -/

section Patterns

open Regex

inductive SmsGroup where
  | amount
  | balance
  | hour
  | minute
  | year
  | month
  | day
  deriving DecidableEq, Repr

/-- `AMOUNT_TOKEN_RE`. -/
def amountTokenRe : Regex SmsGroup :=
  seq (char isAsciiDigit) (star fun c => isAsciiDigit c || c == ',' || isSpace c)

/-- `[:：]`. -/
def isColon (c : Char) : Bool := c == ':' || c.toNat == 0xFF1A

/-- The separators of a date: a dot, a slash or a hyphen. -/
def isDateSeparator (c : Char) : Bool := c == '.' || c == '/' || c == '-'

/-- `RIAL_AMOUNT_RE`. -/
def rialAmountRe : Regex SmsGroup :=
  seq (group .amount amountTokenRe) (seq (star isSpace) (word "ریال".toList))

/-- `BALANCE_RE`. -/
def balanceRe : Regex SmsGroup :=
  seq (word "موجودی".toList) (seq (star isSpace) (seq (optional isColon) (seq (star isSpace)
    (seq (group .balance amountTokenRe) (seq (star isSpace) (word "ریال".toList))))))

/-- `TIME_RE`. -/
def timeRe : Regex SmsGroup :=
  seq (notBehind isDecimal) (seq (group .hour (many isDecimal 1 (some 2)))
    (seq (star isSpace) (seq (char isColon) (seq (star isSpace)
      (seq (group .minute (many isDecimal 2 (some 2))) (notAhead isDecimal))))))

/-- A date separator and the blanks around it. -/
def dateSeparatorRe : Regex SmsGroup :=
  seq (star isSpace) (seq (char isDateSeparator) (star isSpace))

/-- `DATE_RE`. -/
def dateRe : Regex SmsGroup :=
  seq (notBehind isDecimal) (seq (group .year (many isDecimal 4 (some 4)))
    (seq dateSeparatorRe (seq (group .month (many isDecimal 1 (some 2)))
      (seq dateSeparatorRe (seq (group .day (many isDecimal 1 (some 2)))
        (notAhead isDecimal))))))

end Patterns

/-! ## Parsing -/

/-- `SMSParseError`, by its message. -/
inductive SMSParseError where
  /-- "Expected a numeric value." -/
  | notNumeric
  /-- "Could not find SMS balance." -/
  | noBalance
  /-- "Could not find SMS deposit amount." -/
  | noDepositAmount
  /-- "Could not find SMS time." -/
  | noTime
  /-- "Could not find SMS Jalali date." -/
  | noDate
  /-- "SMS Jalali date/time is invalid." -/
  | invalidDate
  deriving DecidableEq, Repr

structure ParsedPaymentSMS where
  amount : ℕ
  balance : ℕ
  smsDatetime : Instant
  deriving DecidableEq, Repr

/-- `normalize_number`. -/
def normalizeNumber (value : List Char) : Except SMSParseError ℕ :=
  match (normalizeSmsText value).filter isDecimal with
  | [] => .error .notNumeric
  | digits => .ok (intOfDigits digits)

/-- `_extract_balance`. -/
def extractBalance (text : List Char) : Except SMSParseError ℕ :=
  match balanceRe.search text with
  | none => .error .noBalance
  | some caps => normalizeNumber (caps.get .balance)

/-- `DEPOSIT_KEYWORDS`. -/
def depositKeywords : List (List Char) :=
  ["واریز".toList, "نشست".toList, "به حساب".toList, "حساب شما".toList]

/-- The loop of `_extract_deposit_amount`, with its `fallback`. -/
def extractDepositFrom (fallback : Option (List Char)) :
    List (List Char) → Except SMSParseError ℕ
  | [] =>
      match fallback with
      | some value => normalizeNumber value
      | none => .error .noDepositAmount
  | line :: lines =>
      if "موجودی".toList <:+: line then extractDepositFrom fallback lines
      else match rialAmountRe.search line with
        | none => extractDepositFrom fallback lines
        | some caps =>
            if ∃ keyword ∈ depositKeywords, keyword <:+: line then
              normalizeNumber (caps.get .amount)
            else extractDepositFrom (fallback.orElse fun _ => some (caps.get .amount)) lines

theorem extractDepositFrom_cons (fallback : Option (List Char)) (line : List Char)
    (lines : List (List Char)) :
    extractDepositFrom fallback (line :: lines) =
      if "موجودی".toList <:+: line then extractDepositFrom fallback lines
      else (rialAmountRe.search line).elim (extractDepositFrom fallback lines) fun caps =>
        if ∃ keyword ∈ depositKeywords, keyword <:+: line then normalizeNumber (caps.get .amount)
        else extractDepositFrom (fallback.orElse fun _ => some (caps.get .amount)) lines := by
  change (if _ then _ else _) = _
  cases rialAmountRe.search line <;> rfl

/-- `_extract_deposit_amount`. -/
def extractDepositAmount (text : List Char) : Except SMSParseError ℕ :=
  extractDepositFrom none (splitlines text)

/-- The Jalali calendar and the payment timezone: the instant of a Jalali year, month,
day, hour and minute, or none where `jdatetime` raises `ValueError`. -/
abbrev JalaliClock := ℕ → ℕ → ℕ → ℕ → ℕ → Option Instant

/-- `_extract_sms_datetime`. -/
def extractSmsDatetime (clock : JalaliClock) (text : List Char) :
    Except SMSParseError Instant :=
  match timeRe.search text, dateRe.search text with
  | none, _ => .error .noTime
  | some _, none => .error .noDate
  | some time, some date =>
      match clock (intOfDigits (date.get .year)) (intOfDigits (date.get .month))
          (intOfDigits (date.get .day)) (intOfDigits (time.get .hour))
          (intOfDigits (time.get .minute)) with
      | some t => .ok t
      | none => .error .invalidDate

/-- `parse_payment_sms`. -/
def parsePaymentSms (clock : JalaliClock) (rawText : List Char) :
    Except SMSParseError ParsedPaymentSMS := do
  let text := normalizeSmsText rawText
  let amount ← extractDepositAmount text
  let balance ← extractBalance text
  let smsDatetime ← extractSmsDatetime clock text
  return { amount, balance, smsDatetime }

end Qasedak.Payments
