import TransitBpp.Js

/-!
# The domain model of a reserved intercity seller

The data of `types.ts`, `domain.ts` and `errors.ts`: services and their boarding points, seat
maps, fare tables, the states a seat can be published in, and the refusals of this path. Every
closed set of wire strings is an inductive type with its `wire` spelling beside it.

Fields nothing downstream reads (a point's local name, its town, a service window) are left out.
-/

namespace TransitBpp

open Js (Json)

/-- The fields of a JSON object, in property order. -/
abbrev JsonObject : Type := List (String × Json)

/-! ## Services -/

/-- The corporations that share one reservation brand. -/
inductive Corporation : Type where
  | ksrtc | nwkrtc | kkrtc
  deriving DecidableEq, Repr

/-- The corporation as the wire spells it. -/
def Corporation.wire : Corporation → String
  | ksrtc => "KSRTC"
  | nwkrtc => "NWKRTC"
  | kkrtc => "KKRTC"

/-- `SERVICE_CLASSES`: the classes this category sells. -/
inductive ServiceClass : Type where
  | rajahamsaExecutive | airavat | airavatClubClass | pallakki | ambaariUtsav | ashwamedha
  | nonAcSleeper | ambaariDreamClass | airavatClubClass2 | evPowerPlus | flybus | kalyanaRatha
  | amoghavarsha | acSeaterExecutiveChair | acSleeper
  deriving DecidableEq, Repr

/-- The class as the wire spells it. -/
def ServiceClass.wire : ServiceClass → String
  | rajahamsaExecutive => "RAJAHAMSA_EXECUTIVE"
  | airavat => "AIRAVAT"
  | airavatClubClass => "AIRAVAT_CLUB_CLASS"
  | pallakki => "PALLAKKI"
  | ambaariUtsav => "AMBAARI_UTSAV"
  | ashwamedha => "ASHWAMEDHA"
  | nonAcSleeper => "NON_AC_SLEEPER"
  | ambaariDreamClass => "AMBAARI_DREAM_CLASS"
  | airavatClubClass2 => "AIRAVAT_CLUB_CLASS_2"
  | evPowerPlus => "EV_POWER_PLUS"
  | flybus => "FLYBUS"
  | kalyanaRatha => "KALYANA_RATHA"
  | amoghavarsha => "AMOGHAVARSHA"
  | acSeaterExecutiveChair => "AC_SEATER_EXECUTIVE_CHAIR"
  | acSleeper => "AC_SLEEPER"

/-- How a service is known to exist and run as claimed. -/
inductive ServiceProvenance : Type where
  | confirmed | inferred | none
  deriving DecidableEq, Repr

/-- The provenance as the wire spells it. -/
def ServiceProvenance.wire : ServiceProvenance → String
  | confirmed => "confirmed"
  | inferred => "inferred"
  | none => "none"

/-- How a fare is sourced: verified, secondary or inferred. -/
inductive SourcingLabel : Type where
  | v | s | i
  deriving DecidableEq, Repr

/-- The label as the wire spells it. -/
def SourcingLabel.wire : SourcingLabel → String
  | v => "V"
  | s => "S"
  | i => "I"

/-- The days a service runs on. -/
inductive OperatingPattern : Type where
  /-- every day -/
  | daily : OperatingPattern
  /-- these days of the week, 0 for Sunday -/
  | daysOfWeek : List ℤ → OperatingPattern
  /-- these dates -/
  | dates : List String → OperatingPattern
  deriving DecidableEq, Repr

/-- A point a service stops at. -/
structure BoardingPoint : Type where
  /-- half of the fare key -/
  boardingPointId : String
  /-- the name a rider reads -/
  name : String
  /-- latitude and longitude as they print, where the point was surveyed -/
  gps : Option (String × String)
  /-- minutes after the service's departure at which the coach is here -/
  reportingOffsetMinutes : ℤ
  deriving DecidableEq, Repr

/-- A scheduled service. It boards somewhere and drops somewhere. -/
structure ReservedService : Type where
  /-- the join key, stable across dates -/
  serviceId : String
  /-- what is painted on the coach's board -/
  serviceNumber : String
  /-- what the rider is sold -/
  brand : Corporation
  /-- who runs it, where that is known -/
  operatingCorporation : Option Corporation
  /-- how the claim above is known -/
  operatingCorporationBasis : ServiceProvenance
  /-- how the service itself is known -/
  provenance : ServiceProvenance
  /-- the number of sources that agree -/
  provenanceSourceCount : ℕ
  /-- the class sold -/
  serviceClass : ServiceClass
  /-- where riders board, in travel order -/
  boardingPoints : List BoardingPoint
  /-- where riders alight, in travel order -/
  droppingPoints : List BoardingPoint
  /-- when it runs -/
  operatingPattern : OperatingPattern
  /-- departure in minutes after midnight IST on the travel date -/
  departureMinute : ℤ
  /-- scheduled running time in minutes -/
  runningMinutes : ℕ
  /-- the seat map of its class -/
  seatMapId : String
  /-- its fare table -/
  fareTableId : String
  /-- how full it tends to run -/
  popularity : ℚ
  /-- per seat, never refunded -/
  reservationFeePaise : ℤ
  /-- per seat, refunded in full -/
  tollPaise : ℤ
  /-- the route has a first boarding point -/
  boards : boardingPoints ≠ []
  /-- the route has a last dropping point -/
  drops : droppingPoints ≠ []

/-! ## Seat maps and fares -/

/-- A seat or a berth. -/
inductive SeatKind : Type where
  | seat | berth
  deriving DecidableEq, Repr

/-- One seat of a coach. -/
structure Seat : Type where
  /-- the id a buyer selects by -/
  seatId : String
  /-- 1 or 2 -/
  deck : ℤ
  /-- 1-based from the front -/
  row : ℤ
  /-- 1-based from the left; the aisle is a gap -/
  column : ℤ
  /-- seat or berth -/
  kind : SeatKind
  /-- against a window -/
  window : Bool
  /-- the other half of a shared berth -/
  pairedSeatId : Option String
  /-- the seats physically beside this one -/
  adjacentSeatIds : List String
  deriving DecidableEq, Repr

/-- Whether a coach seats or sleeps its riders. -/
inductive SeatMapKind : Type where
  | seater | sleeper
  deriving DecidableEq, Repr

/-- The kind as the wire spells it. -/
def SeatMapKind.wire : SeatMapKind → String
  | seater => "SEATER"
  | sleeper => "SLEEPER"

/-- The layout a class uses. -/
structure SeatMap : Type where
  /-- its id -/
  seatMapId : String
  /-- seater or sleeper -/
  kind : SeatMapKind
  /-- 1 or 2 -/
  decks : ℤ
  /-- the published capacity, where one was found -/
  documentedCapacity : Option ℕ
  /-- every seat -/
  seats : List Seat
  deriving DecidableEq, Repr

/-- The fare of one boarding pair in one class. -/
structure FareCell : Type where
  /-- where the rider boards -/
  fromBoardingPointId : String
  /-- where the rider alights -/
  toBoardingPointId : String
  /-- in which class -/
  serviceClass : ServiceClass
  /-- the fare of one seat -/
  farePaise : ℤ
  /-- how this cell is sourced -/
  sourcing : SourcingLabel
  deriving DecidableEq, Repr

/-- The fares a service references; a missing cell is refused, never interpolated. -/
structure FareTable : Type where
  /-- its id -/
  fareTableId : String
  /-- the published cells -/
  fares : List FareCell
  deriving DecidableEq, Repr

/-- The question a search asks. -/
structure ReservedSearchQuery : Type where
  /-- the origin town -/
  fromTownCode : String
  /-- the destination town -/
  toTownCode : String
  /-- a calendar date in IST -/
  travelDate : String
  /-- a class the search asks for; not checked against the classes sold -/
  serviceClass : Option String
  /-- the city of the buyer's request -/
  cityCode : String
  deriving DecidableEq, Repr

/-! ## Seat states and identities -/

/-- The states a seat can be published in. -/
inductive SeatState : Type where
  | available | held | heldByYou | femaleOnly | soldSimulated | soldBooked
  deriving DecidableEq, Repr

/-- The state as the wire spells it. -/
def SeatState.wire : SeatState → String
  | available => "AVAILABLE"
  | held => "HELD"
  | heldByYou => "HELD_BY_YOU"
  | femaleOnly => "FEMALE_ONLY"
  | soldSimulated => "SOLD:simulated"
  | soldBooked => "SOLD:booked"

/-- A passenger's declared gender. -/
inductive ManifestGender : Type where
  | male | female | other
  deriving DecidableEq, Repr

/-- The gender as the wire spells it. -/
def ManifestGender.wire : ManifestGender → String
  | male => "male"
  | female => "female"
  | other => "other"

/-- The gender a wire value spells. -/
def ManifestGender.ofWire (value : String) : Option ManifestGender :=
  if value = "male" then some .male
  else if value = "female" then some .female
  else if value = "other" then some .other
  else none

@[simp] theorem ManifestGender.ofWire_wire (g : ManifestGender) : ofWire g.wire = some g := by
  cases g <;> decide

theorem ManifestGender.wire_of_ofWire {value : String} {g : ManifestGender}
    (h : ofWire value = some g) : g.wire = value := by
  unfold ofWire at h
  split_ifs at h with hmale hfemale hother <;> obtain rfl := Option.some.inj h
  · exact hmale.symm
  · exact hfemale.symm
  · exact hother.symm

/-- Whose transaction a claim belongs to. -/
structure ReservedIdentity : Type where
  /-- the buyer app -/
  bapId : String
  /-- its address -/
  bapUri : String
  /-- its transaction -/
  transactionId : String
  deriving DecidableEq, Repr

/-! ## Tags -/

/-- One entry of a tag group this provider writes. -/
structure TagEntry : Type where
  /-- `descriptor.code` -/
  code : String
  /-- the value -/
  value : String
  deriving DecidableEq, Repr

/-- A tag group this provider writes. -/
structure Tag : Type where
  /-- `descriptor.code` -/
  code : String
  /-- whether a client shows it -/
  display : Bool
  /-- its entries -/
  list : List TagEntry
  deriving DecidableEq, Repr

/-- One entry of a tag group as a buyer sent it. -/
structure BuyerEntry : Type where
  /-- `descriptor?.code` -/
  code : Option String
  /-- `value` -/
  value : Option String
  deriving DecidableEq, Repr

/-- A tag group as a buyer sent it. -/
structure BuyerTag : Type where
  /-- `descriptor?.code` -/
  code : Option String
  /-- `list` -/
  list : Option (List BuyerEntry)
  deriving DecidableEq, Repr

/-- `tags?.find(tag => tag.descriptor?.code === code)`. -/
def findTag (tags : Option (List BuyerTag)) (code : String) : Option BuyerTag :=
  (tags.getD []).find? fun tag => tag.code = some code

/-- `entries.find(entry => entry.descriptor?.code === code)?.value`. -/
def entryValue (entries : List BuyerEntry) (code : String) : Option String :=
  (entries.find? fun entry => entry.code = some code).bind BuyerEntry.value

/-! ## Refusals -/

/-- `RESERVED_ERROR_CODES`, the codes this path raises. -/
inductive ReservedErrorCode : Type where
  | travelDateRequired | serviceNotFound | outsideBookingWindow | fareNotPublished
  | seatNotOnMap | seatUnavailable | seatGenderLocked | seatCountMismatch | holdRequired
  | holdExpired | holdSeatMismatch | manifestIncomplete | manifestFieldNotAccepted
  | concessionRateNotPublished | concessionNotApplicable | bookingNotFound | refundSlabMoved
  | refundQuoteExpired | mixedCategoryOrder | cancelSeatNotOnBooking | bppAddressMismatch
  | invalidPaymentStatus | internalError
  deriving DecidableEq, Repr

/-- A domain refusal, with the data that rides beside its sentence. -/
structure ReservedLifecycleError : Type where
  /-- the code a client keys off -/
  code : ReservedErrorCode
  /-- the sentence -/
  message : String
  /-- the attachment's fields, empty where there is none -/
  attachment : JsonObject

/-- What a program of this provider can fail with. -/
inductive Failure : Type where
  /-- a domain refusal -/
  | lifecycle : ReservedLifecycleError → Failure
  /-- a unique-constraint violation, as `isUniqueViolation` recognises it -/
  | unique : Failure
  /-- any other error -/
  | error : String → Failure

/-- `throw new ReservedLifecycleError(code, message, attachment)`. -/
def refuse {m : Type → Type} [MonadExcept Failure m] {α : Type} (code : ReservedErrorCode)
    (message : String) (attachment : JsonObject) : m α :=
  throw (.lifecycle ⟨code, message, attachment⟩)

/-- A computation that goes through. -/
theorem Except.bind_ok {ε α β : Type} {x : Except ε α} {f : α → Except ε β} {b : β} :
    x >>= f = .ok b ↔ ∃ a, x = .ok a ∧ f a = .ok b := by
  cases x with
  | error e =>
    constructor
    · intro h
      cases h
    · rintro ⟨a, h, -⟩
      cases h
  | ok a =>
    constructor
    · exact fun h => ⟨a, rfl, h⟩
    · rintro ⟨a', h, hb⟩
      obtain rfl := Except.ok.inj h
      exact hb

/-- A list of computations that all go through. -/
theorem Except.mapM_ok {ε α β : Type} {f : α → Except ε β} {xs : List α} :
    ∀ {ys : List β}, xs.mapM f = .ok ys ↔ List.Forall₂ (fun x y => f x = .ok y) xs ys := by
  induction xs with
  | nil =>
    intro ys
    constructor
    · intro h
      obtain rfl := Except.ok.inj h
      exact .nil
    · intro h
      cases h
      rfl
  | cons x xs ih =>
    intro ys
    rw [List.mapM_cons, Except.bind_ok]
    constructor
    · rintro ⟨y, hy, h⟩
      obtain ⟨rest, hrest, h⟩ := Except.bind_ok.mp h
      obtain rfl := Except.ok.inj h
      exact .cons hy (ih.mp hrest)
    · intro h
      cases h with
      | cons hy hrest => exact ⟨_, hy, Except.bind_ok.mpr ⟨_, ih.mpr hrest, rfl⟩⟩

theorem exists_of_mem_forall₂ {α β : Type} {R : α → β → Prop} {xs : List α} {ys : List β}
    (h : List.Forall₂ R xs ys) {y : β} (hmem : y ∈ ys) : ∃ x ∈ xs, R x y := by
  induction h with
  | nil => cases hmem
  | cons hy _ ih =>
    rcases List.mem_cons.mp hmem with rfl | hmem
    · exact ⟨_, List.mem_cons_self, hy⟩
    · obtain ⟨x, hx, hy⟩ := ih hmem
      exact ⟨x, List.mem_cons_of_mem _ hx, hy⟩

theorem exists_of_mem_mapM {ε α β : Type} {f : α → Except ε β} {xs : List α} {ys : List β}
    (h : xs.mapM f = .ok ys) {y : β} (hmem : y ∈ ys) : ∃ x ∈ xs, f x = .ok y :=
  exists_of_mem_forall₂ (Except.mapM_ok.mp h) hmem

/-- They go through and end as they should exactly when each of them does. -/
theorem Except.mapM_right_iff {ε α β : Type} {f : α → Except ε β} {R : α → β → Prop} {xs : List α} :
    (∃ ys, xs.mapM f = .ok ys ∧ List.Forall₂ R xs ys) ↔ ∀ x ∈ xs, ∃ y, f x = .ok y ∧ R x y := by
  simp only [Except.mapM_ok]
  induction xs with
  | nil => simp
  | cons x xs ih =>
    rw [List.forall_mem_cons, ← ih]
    constructor
    · rintro ⟨_, hall, hright⟩
      cases hall with
      | cons hy hrest =>
        cases hright with
        | cons hR hright => exact ⟨⟨_, hy, hR⟩, _, hrest, hright⟩
    · rintro ⟨⟨y, hy, hR⟩, ys, hrest, hright⟩
      exact ⟨y :: ys, .cons hy hrest, .cons hR hright⟩

/-- A list of strings as JSON. -/
def jsonStrings (xs : List String) : Json := .arr (xs.map .str)

/-- `xs.join(", ")`. -/
def commaList (xs : List String) : String := ", ".intercalate xs

end TransitBpp
