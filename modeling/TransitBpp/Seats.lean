import TransitBpp.Calendar

/-!
# Occupancy and seat states

`rand.ts`, `occupancy.ts` and `seatstate.ts`: the simulated sold set, and what a seat's published
state is once live claims are laid over it.

The keyed draws are exact, on 32-bit words. Ranks and fill fractions are rationals where the
source has doubles. The tie-break on seat ids is the host's `localeCompare`, a parameter.
-/

namespace TransitBpp

open Js

/-! ## Keyed draws -/

/-- FNV-1a over the UTF-16 units of a key. -/
def fnv1a (value : String) : UInt32 :=
  (value.toList.flatMap utf16).foldl
    (fun hash unit => (hash ^^^ UInt32.ofNat unit) * 0x01000193) 0x811c9dc5

/-- One step of the state. -/
def splitMix32 (value : UInt32) : UInt32 :=
  let mixed := value + 0x9e3779b9
  let mixed := (mixed ^^^ (mixed >>> 16)) * 0x21f0aaad
  let mixed := (mixed ^^^ (mixed >>> 15)) * 0x735a2d97
  mixed ^^^ (mixed >>> 15)

/-- Rotate a word to the left. -/
def rotateLeft (value count : UInt32) : UInt32 := (value <<< count) ||| (value >>> (32 - count))

/-- A value in `[0, 1)`, keyed by a seed, a subject, a purpose and a bucket. Of the four words
the source draws it reads only the second. -/
def rand (seed : ℤ) (subject purpose bucket : String) : ℚ :=
  let word := splitMix32 (splitMix32 (fnv1a s!"{seed}|{subject}|{purpose}|{bucket}"))
  ((rotateLeft (word * 5) 7 * 9).toNat : ℚ) / 0x100000000

/-! ## Occupancy -/

/-- `left.localeCompare(right) <= 0` of the host. -/
abbrev Collation : Type := String → String → Bool

/-- The shape of a demand week, from Sunday. -/
def dayOfWeekMultiplier : List ℚ := [1.15, 0.92, 0.88, 0.9, 1.0, 1.2, 1.05]

/-- A cheaper class fills first. -/
def classMultiplier : ServiceClass → ℚ
  | .rajahamsaExecutive => 1.1
  | .pallakki => 1.05
  | .airavat => 1.0
  | .ambaariUtsav => 0.92
  | .airavatClubClass => 0.9
  | .ashwamedha => 1.15
  | .acSleeper => 1.08
  | .acSeaterExecutiveChair => 1.02
  | .amoghavarsha => 1.0
  | .evPowerPlus => 0.98
  | .nonAcSleeper => 0.98
  | .kalyanaRatha => 0.9
  | .airavatClubClass2 => 0.88
  | .flybus => 0.87
  | .ambaariDreamClass => 0.87

/-- The day of the week of a travel date, 0 for Sunday. -/
def dayOfWeek (travelDate : String) : Except Failure ℤ :=
  match calendarDate travelDate with
  | none => throw (.error
      s!"A travel date must be a bare calendar date in YYYY-MM-DD, not {travelDate}")
  | some (year, month, day) => return utcDay (dateUTC year (month - 1) day)

/-- How full a service runs on a date, between `MIN_FILL` and `MAX_FILL`. -/
def fillFraction (popularity : ℚ) (serviceClass : ServiceClass) (travelDate : String) :
    Except Failure ℚ := do
  let day ← dayOfWeek travelDate
  let fill := popularity * dayOfWeekMultiplier.getD day.toNat 0 * classMultiplier serviceClass
  return min 0.95 (max 0.08 fill)

/-- Whether a seat's row has no aisle: three columns or more, without a gap. -/
def isBenchRow (map : SeatMap) (seat : Seat) : Bool :=
  let row := map.seats.filter fun c => c.deck = seat.deck && c.row = seat.row
  let columns := (row.map Seat.column).insertionSort (· ≤ ·)
  decide (3 ≤ columns.length) && (columns.zip columns.tail).all fun p => p.2 - p.1 = 1

/-- How much a seat is wanted, before any noise. -/
def seatDesirability (seat : Seat) (map : SeatMap) : ℚ :=
  let maxRow := (map.seats.map Seat.row).foldl max seat.row
  let forward : ℚ := if maxRow > 1 then 1 - ((seat.row - 1 : ℤ) : ℚ) / ((maxRow - 1 : ℤ) : ℚ) else 1
  (if seat.window then 0.45 else 0) +
    (if map.decks = 2 ∧ seat.deck = 1 then 0.35 else 0) +
    (if seat.kind = .berth ∧ seat.pairedSeatId = none then 0.3 else 0) +
    0.2 * forward - (if isBenchRow map seat then 0.4 else 0)

/-- The sold set: the top `round(fraction × capacity)` seats by desirability plus a keyed
perturbation, ties broken on the seat id. -/
def selectSoldSeats (collation : Collation) (map : SeatMap) (fraction : ℚ)
    (serviceId travelDate : String) (seed : ℤ) : List String :=
  let count := ⌊fraction * map.seats.length + 1 / 2⌋.toNat
  let ranked := map.seats.map fun seat =>
    (seat.seatId, seatDesirability seat map +
      0.35 * rand seed serviceId s!"seat-rank|{travelDate}" seat.seatId)
  let sorted := ranked.insertionSort fun left right =>
    right.2 < left.2 ∨ (right.2 = left.2 ∧ collation left.1 right.1 = true)
  sort ((sorted.take count).map Prod.fst)

/-- The gender of a fabricated passenger. -/
inductive SeededGender : Type where
  | male | female
  deriving DecidableEq, Repr

/-- The gender fabricated for a sold seat, from the same keyed draw. -/
def seededGender (seed : ℤ) (serviceId travelDate seatId : String) : SeededGender :=
  if rand seed serviceId s!"seat-gender|{travelDate}" seatId < 0.5 then .male else .female

/-- The sold set with its seeded genders. -/
def seededOccupancy (collation : Collation) (service : ReservedService) (map : SeatMap)
    (travelDate : String) (seed : ℤ) : Except Failure (List (String × SeededGender)) := do
  let fraction ← fillFraction service.popularity service.serviceClass travelDate
  let sold := selectSoldSeats collation map fraction service.serviceId travelDate seed
  return mapOf (sold.map fun seatId =>
    (seatId, seededGender seed service.serviceId travelDate seatId))

/-! ## Seat states -/

/-- The strength of a live claim. -/
inductive ClaimState : Type where
  | held | booked
  deriving DecidableEq, Repr

/-- One seat somebody has a claim on. -/
structure LiveSeatClaim : Type where
  /-- which seat -/
  seatId : String
  /-- how strong the claim is -/
  state : ClaimState
  /-- the hold it came from -/
  holdId : Option String
  /-- the booking, on a booked seat -/
  bookingId : Option String
  /-- whose claim it is -/
  identity : ReservedIdentity
  /-- the passenger's declared gender, on a booked seat only -/
  gender : Option ManifestGender
  deriving DecidableEq, Repr

/-- Everything a seat's state on one dated departure depends on. -/
structure SeatNeighbourhood : Type where
  /-- the layout -/
  map : SeatMap
  /-- the seats the simulation sold -/
  seededSold : List (String × SeededGender)
  /-- every live hold and booking -/
  claims : List LiveSeatClaim
  /-- whose view this is -/
  viewer : Option ReservedIdentity

namespace SeatNeighbourhood

variable (input : SeatNeighbourhood)

/-- `index(input).seats.get(seatId)`. -/
def seat? (seatId : String) : Option Seat :=
  mapGet (mapOf (input.map.seats.map fun seat => (seat.seatId, seat))) seatId

/-- `index(input).claims.get(seatId)`. -/
def claim? (seatId : String) : Option LiveSeatClaim :=
  mapGet (mapOf (input.claims.map fun claim => (claim.seatId, claim))) seatId

/-- Who is notionally in a seat, as far as the lock rule is concerned, and whose claim it is. -/
def occupantGender (seatId : String) : Option ManifestGender × Option ReservedIdentity :=
  match input.claim? seatId with
  | some claim =>
    match claim.state with
    | .booked => (claim.gender, some claim.identity)
    -- a held seat has no manifest yet, so nothing is locked by it
    | .held => (none, some claim.identity)
  | none =>
    match mapGet input.seededSold seatId with
    | some .male => (some .male, none)
    | some .female => (some .female, none)
    | none => (none, none)

/-- Whether a seat is female-only for this viewer: somebody physically beside it is female and
not of the viewer's own booking. -/
def isFemaleOnly (seatId : String) : Bool :=
  match input.seat? seatId with
  | none => false
  | some seat => seat.adjacentSeatIds.any fun neighbourId =>
    match input.occupantGender neighbourId with
    | (some .female, none) => true
    | (some .female, some owner) => decide (input.viewer ≠ some owner)
    | _ => false

/-- The published state of a seat. -/
def stateOf (seatId : String) : SeatState :=
  match input.claim? seatId with
  | some claim =>
    match claim.state with
    | .booked => .soldBooked
    | .held => if input.viewer = some claim.identity then .heldByYou else .held
  | none =>
    if (mapGet input.seededSold seatId).isSome then .soldSimulated
    else if input.isFemaleOnly seatId then .femaleOnly else .available

/-- The published state of every seat, in map order. -/
def seatStates : List (String × SeatState) :=
  mapOf (input.map.seats.map fun seat => (seat.seatId, input.stateOf seat.seatId))

/-- How many seats a buyer could still take. -/
def availableSeatCount : ℕ :=
  input.seatStates.countP fun e => e.2 = .available || e.2 = .femaleOnly

end SeatNeighbourhood

/-- A passenger's gender and seat, as the manifest assigns them. -/
structure SeatAssignment : Type where
  /-- which seat -/
  seatId : String
  /-- the declared gender -/
  gender : Option ManifestGender
  deriving DecidableEq, Repr

/-- Refuse a manifest that puts the wrong passenger in a locked seat. The refusal names the seat
and never the neighbour. -/
def assertGenderLocks (input : SeatNeighbourhood) (assignments : List SeatAssignment) :
    Except Failure Unit :=
  match assignments.find? fun a => a.gender ≠ some .female && input.isFemaleOnly a.seatId with
  | none => return ()
  | some a =>
    let declared := (a.gender.map ManifestGender.wire).getD "no gender"
    refuse .seatGenderLocked
      s!"Seat {a.seatId} is held for a female passenger and the manifest declares {declared}"
      [("seatId", .str a.seatId), ("requiredGender", .str "female")]

/-- What passing the lock check says. -/
theorem assertGenderLocks_ok {input : SeatNeighbourhood} {assignments : List SeatAssignment} :
    assertGenderLocks input assignments = .ok () ↔
      ∀ a ∈ assignments, a.gender ≠ some .female → input.isFemaleOnly a.seatId = false := by
  unfold assertGenderLocks
  split
  · rename_i h
    exact iff_of_true rfl (by simpa using h)
  · rename_i a h
    have ha := List.find?_some h
    simp only [ne_eq, Bool.and_eq_true, decide_eq_true_eq] at ha
    constructor
    · intro he
      cases he
    · intro hall
      have := hall a (List.mem_of_find?_eq_some h) (by simpa using ha.1)
      rw [ha.2] at this
      cases this

end TransitBpp
