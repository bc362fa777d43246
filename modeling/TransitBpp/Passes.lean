import TransitBpp.Calendar

/-!
# Passes

`pass.ts`, `concession.ts` and `totp.ts` of the single-journey path: the eleven published items, the
window a pass is valid in, which tier a scope covers, the concession a pass order can name, and the
rotating code of a credential. HMAC-SHA1 is a parameter.
-/

namespace TransitBpp.Trv11

open Js (Json)

/-- What this path throws. -/
inductive Failure : Type where
  /-- an `OrderLifecycleError` -/
  | lifecycle (code message : String) : Failure
  /-- any other `Error` -/
  | error (message : String) : Failure
  deriving DecidableEq

/-! ## JSON -/

/-- `{ descriptor: { code }, value }`. -/
def entry (code : String) (value : String) : Json :=
  .obj [("descriptor", .obj [("code", .str code)]), ("value", .str value)]

/-- `value?.descriptor?.code`, where it is a string. -/
def descriptorCode (value : Json) : Option String :=
  (value.get? "descriptor").bind fun d => (d.get? "code").bind Json.str?

/-- The letters of a character under `toUpperCase()`, as far as they are ASCII letters. -/
def upper (c : Char) : List Char :=
  match c.toNat with
  | 0xDF => ['S', 'S']
  | 0x131 => ['I']
  | 0x17F => ['S']
  | 0xFB00 => ['F', 'F']
  | 0xFB01 => ['F', 'I']
  | 0xFB02 => ['F', 'L']
  | 0xFB03 => ['F', 'F', 'I']
  | 0xFB04 => ['F', 'F', 'L']
  | 0xFB05 => ['S', 'T']
  | 0xFB06 => ['S', 'T']
  | _ => [c.toUpper]

/-- `s.toUpperCase()`, of a string that is then compared with ASCII ones. -/
def toUpperCase (s : String) : String := String.ofList (s.toList.flatMap upper)

/-- `s.trim()`. -/
def trim (s : String) : String := String.ofList (Js.trim s.toList)

/-- `code.trim().toUpperCase()`, of the code of a tag group or an entry. -/
def readCode (value : Json) : Option String := (descriptorCode value).map fun c => toUpperCase (trim c)

/-- The elements of a value that is an array. -/
def array? : Json → Option (List Json)
  | .arr values => some values
  | _ => none

/-! ## Scopes, tiers and windows -/

/-- `PassOperatorKey`. -/
inductive PassOperatorKey : Type where
  | bmtc | bmrcl | ksrtc
  deriving DecidableEq

/-- The operator, in capitals. -/
def PassOperatorKey.upper : PassOperatorKey → String
  | bmtc => "BMTC"
  | bmrcl => "BMRCL"
  | ksrtc => "KSRTC"

/-- The operator as the source spells it. -/
def PassOperatorKey.wire : PassOperatorKey → String
  | bmtc => "bmtc"
  | bmrcl => "bmrcl"
  | ksrtc => "ksrtc"

/-- The class of service a ride is on. -/
inductive ServiceTier : Type where
  | ordinaryBus | acBus | metro
  deriving DecidableEq

/-- The tier as the wire spells it. -/
def ServiceTier.wire : ServiceTier → String
  | ordinaryBus => "ORDINARY_BUS"
  | acBus => "AC_BUS"
  | metro => "METRO"

/-- What a pass is for. -/
inductive PassScope : Type where
  /-- a class of service -/
  | tier : ServiceTier → PassScope
  /-- `KSRTC_SARIGE` -/
  | ksrtcSarige : PassScope
  deriving DecidableEq

namespace PassScope

/-- The scope as the wire spells it. -/
def wire : PassScope → String
  | tier t => t.wire
  | ksrtcSarige => "KSRTC_SARIGE"

/-- `CEILING_SINGLE_FARE_PAISE`. -/
def ceilingSingleFarePaise : PassScope → ℤ
  | tier .ordinaryBus => 3000
  | tier .acBus => 6000
  | tier .metro => 9000
  | ksrtcSarige => 9500

/-- `SCOPE_LABEL`. -/
def label : PassScope → String
  | tier .ordinaryBus => "Ordinary bus"
  | tier .acBus => "AC bus"
  | tier .metro => "Metro"
  | ksrtcSarige => "Karnataka Sarige"

/-- `SCOPE_OPERATOR`. -/
def operator : PassScope → PassOperatorKey
  | tier .ordinaryBus => .bmtc
  | tier .acBus => .bmtc
  | tier .metro => .bmrcl
  | ksrtcSarige => .ksrtc

end PassScope

/-- How long a pass is for. -/
inductive PassWindow : Type where
  | day | weekly | monthly
  deriving DecidableEq

namespace PassWindow

/-- The window as the wire spells it. -/
def wire : PassWindow → String
  | day => "DAY"
  | weekly => "WEEKLY"
  | monthly => "MONTHLY"

/-- `WINDOW_MULTIPLE`. -/
def multiple : PassWindow → ℤ
  | day => 1
  | weekly => 5
  | monthly => 18

/-- `WINDOW_DURATION`. -/
def duration : PassWindow → String
  | day => "P1D"
  | weekly => "P7D"
  | monthly => "P1M"

/-- `WINDOW_LABEL`. -/
def label : PassWindow → String
  | day => "day"
  | weekly => "weekly"
  | monthly => "monthly"

/-- `SENIOR_DISCOUNT_PERCENT`. -/
def seniorDiscountPercent : PassWindow → ℤ
  | day => 25
  | weekly => 25
  | monthly => 10

end PassWindow

/-- A higher class is honoured on a lower service, never the reverse. -/
def passCovers : PassScope → ServiceTier → Bool
  | .ksrtcSarige, _ => false
  | scope, tier =>
    if scope = .tier .metro ∨ tier = .metro then scope = .tier tier
    else if scope = .tier .acBus then tier = .acBus || tier = .ordinaryBus
    else tier = .ordinaryBus

/-! ## The catalogue -/

/-- `PassCatalogueItem`. -/
structure PassCatalogueItem : Type where
  /-- what a buyer app selects by -/
  id : String
  /-- who sells it -/
  operator : PassOperatorKey
  /-- how long it is for -/
  window : PassWindow
  /-- what it is for -/
  scope : PassScope
  /-- the window as a duration -/
  duration : String
  /-- the name a rider reads -/
  name : String
  /-- before a concession -/
  pricePaise : ℤ
  /-- off for a senior -/
  seniorDiscountPercent : ℤ
  /-- off for a student -/
  studentDiscountPercent : ℤ
  deriving DecidableEq

def passItem (window : PassWindow) (scope : PassScope) : PassCatalogueItem where
  id := s!"PASS-{window.wire}-{scope.wire}"
  operator := scope.operator
  window := window
  scope := scope
  duration := window.duration
  name := s!"{scope.label} {window.label} pass"
  pricePaise := scope.ceilingSingleFarePaise * 5 / 2 * window.multiple
  seniorDiscountPercent := window.seniorDiscountPercent
  studentDiscountPercent := 33

/-- `PASS_CATALOGUE`. -/
def passCatalogue : List PassCatalogueItem :=
  ([.day, .weekly, .monthly].flatMap fun window =>
    [ServiceTier.ordinaryBus, .acBus].map fun tier => passItem window (.tier tier)) ++
  ([.day, .weekly, .monthly].map fun window => passItem window (.tier .metro)) ++
  [PassWindow.day, .monthly].map fun window => passItem window .ksrtcSarige

def isPassItemId (itemId : String) : Bool := passCatalogue.any fun item => item.id = itemId

def passItemById (operator : PassOperatorKey) (itemId : String) : Option PassCatalogueItem :=
  (passCatalogue.find? fun item => item.id = itemId).filter fun item => item.operator = operator

/-- Who a concession is for. -/
inductive ConcessionClass : Type where
  | senior | student
  deriving DecidableEq

/-- The class as the wire spells it. -/
def ConcessionClass.wire : ConcessionClass → String
  | senior => "SENIOR"
  | student => "STUDENT"

def concessionRatePercent (item : PassCatalogueItem) : ConcessionClass → ℤ
  | .senior => item.seniorDiscountPercent
  | .student => item.studentDiscountPercent

/-- The discount for one unit, in paise, from the final price. -/
def concessionDiscountPaise (pricePaise percent : ℤ) : ℤ :=
  pricePaise - (pricePaise * (100 - percent) + 50) / 100

/-! ## The window of a pass -/

/-- Year, month from 0 and day of the calendar day an instant falls on, in IST. -/
def istCalendarDay (atMilliseconds : ℤ) : ℤ × ℤ × ℤ :=
  let (year, month, day) :=
    Js.civilFromDays ((atMilliseconds + indiaOffsetMilliseconds) / Js.dayMilliseconds)
  (year, month - 1, day)

def istMidnightMilliseconds (year month day : ℤ) : ℤ :=
  Js.dateUTC year month day - indiaOffsetMilliseconds

def istMidnightIso (milliseconds : ℤ) : String :=
  let (year, month, day) := istCalendarDay milliseconds
  s!"{Js.padded 4 year}-{Js.padded 2 (month + 1)}-{Js.padded 2 day}T00:00:00.000+05:30"

def daysInMonth (year month : ℤ) : ℤ :=
  (Js.civilFromDays (Js.dateUTC year (month + 1) 0 / Js.dayMilliseconds)).2.2

/-- `PassValidityWindow`; the end is exclusive. -/
structure PassValidityWindow : Type where
  /-- the start as it prints -/
  validFrom : String
  /-- the end as it prints -/
  validTo : String
  /-- the start -/
  validFromMs : ℤ
  /-- the end -/
  validToMs : ℤ

/-- The instant a pass stops being valid: its midnight advanced by its window. -/
def validToMs (year month day : ℤ) : PassWindow → ℤ
  | .day => istMidnightMilliseconds year month (day + 1)
  | .weekly => istMidnightMilliseconds year month (day + 7)
  | .monthly =>
    let targetYear := if month = 11 then year + 1 else year
    let targetMonth := (month + 1) % 12
    if day ≤ daysInMonth targetYear targetMonth then
      istMidnightMilliseconds targetYear targetMonth day
    else istMidnightMilliseconds targetYear (targetMonth + 1) 1

def passValidityWindow (issuedAt : ℤ) (window : PassWindow) : PassValidityWindow :=
  let (year, month, day) := istCalendarDay issuedAt
  let validFromMs := istMidnightMilliseconds year month day
  { validFrom := istMidnightIso validFromMs
    validTo := istMidnightIso (validToMs year month day window)
    validFromMs := validFromMs
    validToMs := validToMs year month day window }

/-! ## Tags -/

def passInfoTag (item : PassCatalogueItem) : Json :=
  .obj [("descriptor", .obj [("code", .str "PASS_INFO")]),
    ("list", .arr [entry "WINDOW" item.window.wire, entry "SCOPE" item.scope.wire])]

def concessionInfoTag (item : PassCatalogueItem) : Json :=
  .obj [("descriptor", .obj [("code", .str "CONCESSION_INFO")]), ("display", .bool false),
    ("list", .arr [entry "SENIOR_DISCOUNT_PERCENT" (toString item.seniorDiscountPercent),
      entry "STUDENT_DISCOUNT_PERCENT" (toString item.studentDiscountPercent)])]

/-- `SYNTHETIC_PASS_MARK`. -/
def syntheticPassMark : String :=
  "Modelled pass. The rules and the price are set by this specimen provider, not by BMTC or BMRCL."

def syntheticPassTag : Json :=
  .obj [("descriptor", .obj [("code", .str "SYNTHETIC_PASS_INFO")]), ("display", .bool true),
    ("list", .arr [entry "NOTICE" syntheticPassMark])]

def concessionTag (concession : ConcessionClass) : Json :=
  .obj [("descriptor", .obj [("code", .str "CONCESSION")]), ("display", .bool false),
    ("list", .arr [entry "CLASS" concession.wire])]

/-- `fulfillmentIdForOffer`. -/
def fulfillmentIdForOffer (offerId : String) : String := s!"F-{offerId}"

def passFulfillment (item : PassCatalogueItem) : JsonObject :=
  [("id", .str (fulfillmentIdForOffer item.id)), ("type", .str "PASS"),
    ("tags", .arr [passInfoTag item])]

/-! ## The concession of an order -/

/-- A refusal of the tag group. -/
def invalidConcession {α : Type} (message : String) : Except Failure α :=
  throw (.lifecycle "CONCESSION-TAG-INVALID" message)

/-- `SAFE_TO_ECHO`. -/
def safeToEcho (candidate : String) : Bool :=
  match candidate.toList with
  | [] => false
  | c :: cs => ('A' ≤ c && c ≤ 'Z') && cs.length ≤ 31 &&
      cs.all fun c => ('A' ≤ c && c ≤ 'Z') || ('0' ≤ c && c ≤ '9') || c == '_'

/-- `PUBLISHED_RATES`. -/
def publishedRates : String := "SENIOR_DISCOUNT_PERCENT and STUDENT_DISCOUNT_PERCENT"

/-- Refuse a class for which no rate is published. -/
def assertPublishedClass (value : String) : Except Failure ConcessionClass :=
  let candidate := toUpperCase value
  if candidate = "SENIOR" then return .senior
  else if candidate = "STUDENT" then return .student
  else throw (.lifecycle "CONCESSION-RATE-NOT-PUBLISHED" (
    if safeToEcho candidate then
      s!"No {candidate}_DISCOUNT_PERCENT rate is published on this catalogue; " ++
        s!"this provider publishes {publishedRates} only"
    else
      "The order names a concession class this provider publishes no rate for; " ++
        s!"this provider publishes {publishedRates} only. " ++
        "The class value is withheld from this message because a class value is never stored or logged"))

/-- The one entry of a `CONCESSION` tag group. -/
def concessionFromList (list : List Json) : Except Failure ConcessionClass := do
  let codes := list.map fun value => (readCode value).getD ""
  let unexpected := codes.filter (· ≠ "CLASS")
  if ¬ unexpected.isEmpty then
    invalidConcession ("CONCESSION tag group accepts CLASS only; this provider never accepts, stores " ++
      "or logs a rider identity or document. Unexpected: " ++
      String.intercalate ", " (unexpected.map fun c => if c = "" then "(missing code)" else c).dedup)
  else if 1 < codes.length then
    invalidConcession
      s!"CONCESSION tag group must carry exactly one CLASS entry; {codes.length} were sent"
  else
    match (list.head?.bind (Json.get? "value")).bind Json.str? with
    | none => invalidConcession "CONCESSION CLASS must be a non-empty string"
    | some value =>
      if trim value = "" then invalidConcession "CONCESSION CLASS must be a non-empty string"
      else assertPublishedClass (trim value)

/-- The concession class off the tags of an order; none is the ordinary case. -/
def concessionFromOrderTags (tags : Option (List Json)) : Except Failure (Option ConcessionClass) :=
  match (tags.getD []).filter fun group => readCode group = some "CONCESSION" with
  | [] => return none
  | [group] =>
    match (group.get? "list").bind array? with
    | none => invalidConcession "CONCESSION tag group must carry a non-empty list"
    | some [] => invalidConcession "CONCESSION tag group must carry a non-empty list"
    | some list => return some (← concessionFromList list)
  | groups => invalidConcession
      s!"An order carries at most one CONCESSION tag group; {groups.length} were sent"

/-- A concession is not a discount on a single-journey fare. -/
def assertNoConcessionOnTicketOrder (tags : Option (List Json)) : Except Failure Unit :=
  if (tags.getD []).any fun group => readCode group = some "CONCESSION" then
    throw (.lifecycle "CONCESSION-NOT-APPLICABLE"
      ("A concession applies to a pass item only; this order selects single-journey items, which this " ++
        "provider prices at the full fare"))
  else return ()

/-! ## The rotating code -/

/-- A byte of a `Buffer`. -/
abbrev Byte : Type := Fin 256

/-- The low byte of a number. -/
def lowByte (n : ℕ) : Byte := Fin.ofNat 256 n

/-- `createHmac("sha1", key).update(message).digest()`: twenty bytes. -/
abbrev Hmac : Type := List Byte → List Byte → Fin 20 → Byte

/-- `TotpParameters`, with the one algorithm there is. -/
structure TotpParameters : Type where
  /-- of a code -/
  digits : ℤ
  /-- of a time step -/
  periodSeconds : ℤ

/-- `TOTP_PARAMETERS`. -/
def totpParameters : TotpParameters := ⟨6, 30⟩

/-- `BASE32_ALPHABET`. -/
def base32Alphabet : List Char := "ABCDEFGHIJKLMNOPQRSTUVWXYZ234567".toList

/-- `BASE32_ALPHABET[word & 31]`. -/
def base32Char (word : BitVec 32) : Char := base32Alphabet.getD (word &&& 31).toNat 'A'

/-- The inner loop of `encodeBase32`: the characters of the bits there are, and the bits left. -/
def base32Chars (buffer : BitVec 32) : ℕ → List Char × ℕ
  | bits + 5 =>
    let (chars, left) := base32Chars buffer bits
    (base32Char (buffer >>> bits) :: chars, left)
  | bits => ([], bits)

/-- The outer loop, with the buffer, which is never masked, and the number of bits in it. -/
def encodeBase32From (buffer : BitVec 32) (bits : ℕ) : List Byte → List Char
  | [] => if 0 < bits then [base32Char (buffer <<< (5 - bits))] else []
  | byte :: bytes =>
    let buffer := buffer <<< 8 ||| BitVec.ofNat 32 byte.val
    let (chars, left) := base32Chars buffer (bits + 8)
    chars ++ encodeBase32From buffer left bytes

def encodeBase32 (bytes : List Byte) : String := String.ofList (encodeBase32From 0 0 bytes)

/-- The loop of `decodeBase32`. -/
def decodeBase32From (buffer : BitVec 32) (bits : ℕ) : List Char → Except Failure (List Byte)
  | [] => return []
  | c :: cs =>
    match base32Alphabet.findIdx? (· = c) with
    | none => throw (.error
        "Secret is not base32: it contains a character outside the RFC 4648 alphabet")
    | some index => do
      let buffer := buffer <<< 5 ||| BitVec.ofNat 32 index
      if 8 ≤ bits + 5 then
        return Fin.ofNat 256 (buffer >>> (bits + 5 - 8)).toNat ::
          (← decodeBase32From buffer (bits + 5 - 8) cs)
      else decodeBase32From buffer (bits + 5) cs

/-- Without its padding, and in upper case. -/
def decodeBase32 (encoded : String) : Except Failure (List Byte) :=
  decodeBase32From 0 0 (((encoded.toList.reverse.dropWhile (· = '=')).reverse).flatMap upper)

/-- `mintPassSecret`, of the twenty bytes that were asked of the factory. -/
def mintPassSecret (random : Except Failure (List Byte)) : Except Failure String := do
  let bytes ← random
  if bytes.length ≠ 20 then throw (.error "Secret factory returned the wrong number of bytes")
  else return encodeBase32 bytes

/-- Eight bytes, the highest first. -/
def bigEndian (counter : ℕ) : List Byte :=
  (List.range 8).map fun i => Fin.ofNat 256 (counter / 256 ^ (7 - i))

/-- RFC 4226 section 5.4 dynamic truncation. -/
def truncated (digest : Fin 20 → Byte) : ℕ :=
  let offset := (digest 19).val % 16
  ((digest (Fin.ofNat 20 offset)).val % 128) * 2 ^ 24 + (digest (Fin.ofNat 20 (offset + 1))).val * 2 ^ 16 +
    (digest (Fin.ofNat 20 (offset + 2))).val * 2 ^ 8 + (digest (Fin.ofNat 20 (offset + 3))).val

def totpInfoTag (parameters : TotpParameters) : Json :=
  .obj [("descriptor", .obj [("code", .str "TOTP_INFO")]), ("display", .bool false),
    ("list", .arr [entry "ALGORITHM" "SHA1", entry "DIGITS" (toString parameters.digits),
      entry "PERIOD_SECONDS" (toString parameters.periodSeconds)])]

/-- The code of a secret at an instant. -/
def totpCode (hmac : Hmac) (secretBase32 : String) (atMilliseconds : ℤ) (parameters : TotpParameters) :
    Except Failure String := do
  if parameters.digits < 6 ∨ 10 < parameters.digits then
    throw (.error "TOTP digits must be an integer from 6 to 10")
  else if parameters.periodSeconds ≤ 0 then
    throw (.error "TOTP period must be a positive whole number of seconds")
  else
    let counter := atMilliseconds / 1000 / parameters.periodSeconds
    if counter < 0 then throw (.error "TOTP counter is before the Unix epoch")
    else
      let secret ← decodeBase32 secretBase32
      let binary := truncated (hmac secret (bigEndian counter.toNat))
      return Js.padded parameters.digits.toNat (binary % 10 ^ parameters.digits.toNat : ℕ)

/-- The loop of `verifyTotpCode`, over the steps. -/
def matchesStep (hmac : Hmac) (secretBase32 presented : String) (atMilliseconds : ℤ)
    (parameters : TotpParameters) : List ℤ → Except Failure Bool
  | [] => return false
  | step :: steps => do
    let candidate ← totpCode hmac secretBase32
      (atMilliseconds + step * parameters.periodSeconds * 1000) parameters
    let matched ← matchesStep hmac secretBase32 presented atMilliseconds parameters steps
    return candidate = presented || matched

/-- Check a presented code against a stored secret, for the current step and the two beside it. -/
def verifyTotpCode (hmac : Hmac) (secretBase32 presented : String) (atMilliseconds : ℤ)
    (parameters : TotpParameters) : Except Failure Bool :=
  if presented.toList.length ≠ parameters.digits ∨
      ¬ presented.toList.all fun c => '0' ≤ c && c ≤ '9' then return false
  else matchesStep hmac secretBase32 presented atMilliseconds parameters [-1, 0, 1]

end TransitBpp.Trv11
