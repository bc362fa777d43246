import TransitBpp.Types

/-!
# The reserved catalogue, and what its validator accepts

`integrity.ts`. A catalogue is what a fixture or a dataset authored: nothing about it is known until
`validateReservedCatalogue` ran, so its numbers are JavaScript's and its classes are strings. What the
validator establishes is `Accepted`, read off it check by check; `Sound` is what the rest of the program
takes a catalogue to be.
-/

namespace TransitBpp

/-! ## Numbers as JSON has them -/

/-- A JavaScript number, with the text it prints as. -/
inductive JsNumber : Type where
  /-- a finite number -/
  | finite : ℚ → String → JsNumber
  /-- `Infinity` -/
  | infinity : JsNumber
  /-- `-Infinity` -/
  | negInfinity : JsNumber
  /-- `NaN` -/
  | nan : JsNumber
  deriving DecidableEq

namespace JsNumber

/-- `String(n)`. -/
def text : JsNumber → String
  | finite _ text => text
  | infinity => "Infinity"
  | negInfinity => "-Infinity"
  | nan => "NaN"

/-- `n < bound`. -/
def below (bound : ℚ) : JsNumber → Bool
  | finite q _ => q < bound
  | infinity => false
  | negInfinity => true
  | nan => false

/-- `n > bound`. -/
def above (bound : ℚ) : JsNumber → Bool
  | finite q _ => bound < q
  | infinity => true
  | negInfinity => false
  | nan => false

/-- `Number.isFinite`. -/
def isFinite : JsNumber → Bool
  | finite _ _ => true
  | _ => false

/-- `Number.isInteger`. -/
def isInteger : JsNumber → Bool
  | finite q _ => q.isInt
  | _ => false

/-- `Number.isSafeInteger`. -/
def isSafeInteger : JsNumber → Bool
  | finite q _ => q.isInt && Js.isSafe q.num
  | _ => false

end JsNumber

/-! ## What was authored -/

/-- A boarding point with the town it belongs to. -/
structure CataloguePoint extends BoardingPoint where
  /-- the town -/
  townCode : String
  deriving DecidableEq

/-- A service as it was authored. -/
structure AuthoredService : Type where
  /-- the join key -/
  serviceId : String
  /-- what is painted on the coach's board -/
  serviceNumber : String
  /-- what the rider is sold -/
  brand : Corporation
  /-- who runs it, where that is known -/
  operatingCorporation : Option Corporation
  /-- how the claim above is known -/
  operatingCorporationBasis : ServiceProvenance
  /-- how the service itself is known -/
  provenance : ServiceProvenance
  /-- the number of sources that agree -/
  provenanceSourceCount : JsNumber
  /-- the class sold -/
  serviceClass : String
  /-- where riders board, in travel order -/
  boardingPoints : List CataloguePoint
  /-- where riders alight, in travel order -/
  droppingPoints : List CataloguePoint
  /-- when it runs -/
  operatingPattern : OperatingPattern
  /-- departure in minutes after midnight IST on the travel date -/
  departureMinute : JsNumber
  /-- scheduled running time in minutes -/
  runningMinutes : JsNumber
  /-- the seat map of its class -/
  seatMapId : String
  /-- its fare table -/
  fareTableId : String
  /-- how full it tends to run -/
  popularity : JsNumber
  /-- per seat, never refunded -/
  reservationFeePaise : JsNumber
  /-- per seat, refunded in full -/
  tollPaise : JsNumber
  deriving DecidableEq

/-- `[...service.boardingPoints, ...service.droppingPoints]`, by id. -/
def AuthoredService.pointIds (service : AuthoredService) : List String :=
  (service.boardingPoints ++ service.droppingPoints).map fun point => point.boardingPointId

/-- A fare cell as it was authored. -/
structure AuthoredCell : Type where
  /-- where the rider boards -/
  fromBoardingPointId : String
  /-- where the rider alights -/
  toBoardingPointId : String
  /-- in which class -/
  serviceClass : String
  /-- the fare of one seat -/
  farePaise : JsNumber
  /-- how this cell is sourced -/
  sourcing : String
  deriving DecidableEq

/-- A fare table as it was authored. -/
structure AuthoredTable : Type where
  /-- its id -/
  fareTableId : String
  /-- the cells -/
  fares : List AuthoredCell
  deriving DecidableEq

/-- `ReservedCatalogue`, less its operator profile. -/
structure ReservedCatalogue : Type where
  /-- the codes of the towns -/
  towns : List String
  /-- every boarding point -/
  boardingPoints : List CataloguePoint
  /-- every service -/
  services : List AuthoredService
  /-- every seat map -/
  seatMaps : List SeatMap
  /-- every fare table -/
  fareTables : List AuthoredTable

/-! ## The validator -/

/-- `throw new Error(...)`, of which the message is kept. -/
abbrev Check : Type := Except String Unit

/-- `fail(where, message)`. -/
def fail (source message : String) : Check := throw (source ++ ": " ++ message)

/-- `if (condition) fail(where, message)`. -/
def failIf (condition : Bool) (source message : String) : Check :=
  if condition then fail source message else pure ()

/-- `SERVICE_CLASSES`. -/
def serviceClasses : List String :=
  ["RAJAHAMSA_EXECUTIVE", "AIRAVAT", "AIRAVAT_CLUB_CLASS", "PALLAKKI", "AMBAARI_UTSAV", "ASHWAMEDHA",
    "NON_AC_SLEEPER", "AMBAARI_DREAM_CLASS", "AIRAVAT_CLUB_CLASS_2", "EV_POWER_PLUS", "FLYBUS",
    "KALYANA_RATHA", "AMOGHAVARSHA", "AC_SEATER_EXECUTIVE_CHAIR", "AC_SLEEPER"]

/-- `REFUSED_CLASSES`. -/
def refusedClasses : List (String × String) :=
  [("SARIGE", ("an unreserved, walk-up, standing-room-permitted ordinary bus, which belongs on the " ++
    "single-journey path if it is modelled at all")),
    ("CORONA", ("not a currently-marketed class name; it survives only as the historic chassis name of " ++
      "the original 2015 sleeper, and no active product under it was found")),
    ("CORONA_CLUB_CLASS", ("not a currently-marketed class name; it survives only as the historic " ++
      "chassis name of the original 2015 sleeper, and no active product under it was found"))]

/-- The first loop of `checkSeatMap`: `seatIds` are the ids so far. -/
def checkSeats (map : SeatMap) (source : String) : List String → List Seat → Check
  | _, [] => pure ()
  | seatIds, seat :: rest => do
    failIf (seatIds.contains seat.seatId) source
      s!"seat map {map.seatMapId} has a duplicate seat id {seat.seatId}"
    failIf (map.decks < seat.deck) source
      s!"seat map {map.seatMapId} places {seat.seatId} on deck {seat.deck}, and the coach has {map.decks}"
    checkSeats map source (seat.seatId :: seatIds) rest

/-- `byId`. -/
def SeatMap.byId (map : SeatMap) : List (String × Seat) :=
  Js.mapOf (map.seats.map fun seat => (seat.seatId, seat))

/-- One neighbour a seat names. -/
def checkNeighbour (map : SeatMap) (source : String) (seat : Seat) (neighbourId : String) : Check :=
  match Js.mapGet map.byId neighbourId with
  | none => fail source
      s!"seat map {map.seatMapId} makes {seat.seatId} adjacent to {neighbourId}, which is not on the map"
  | some neighbour => failIf (!neighbour.adjacentSeatIds.contains seat.seatId) source
      (s!"seat map {map.seatMapId} has asymmetric adjacency: {seat.seatId} names {neighbourId}, and " ++
        s!"{neighbourId} does not name {seat.seatId} back")

/-- The other half of a shared berth. -/
def checkPair (map : SeatMap) (source : String) (seat : Seat) : Check :=
  match seat.pairedSeatId with
  | none => pure ()
  | some partnerId =>
    match Js.mapGet map.byId partnerId with
    | none => fail source
        s!"seat map {map.seatMapId} pairs {seat.seatId} with {partnerId}, which is not on the map"
    | some partner => failIf (partner.pairedSeatId != some seat.seatId) source
        (s!"seat map {map.seatMapId} has asymmetric pairing: {seat.seatId} pairs with {partnerId}, and " ++
          s!"{partnerId} does not pair back")

def checkSeatMap (source : String) (map : SeatMap) : Check := do
  checkSeats map source [] map.seats
  map.seats.forM fun seat => do
    failIf (seat.adjacentSeatIds.contains seat.seatId) source
      s!"seat map {map.seatMapId} makes {seat.seatId} adjacent to itself"
    seat.adjacentSeatIds.forM (checkNeighbour map source seat)
    checkPair map source seat
  match map.documentedCapacity with
  | none => pure ()
  | some capacity =>
    failIf (map.seats.length != capacity) source
      (s!"seat map {map.seatMapId} authors {map.seats.length} seats, and the class is documented at " ++
        s!"{capacity}")

/-- A refused class, with the reason. -/
def checkRefusal (source : String) (service : AuthoredService) : Check :=
  match Js.mapGet refusedClasses service.serviceClass with
  | some refusal => fail source
      (s!"service {service.serviceId} is class {service.serviceClass}, which this category does not " ++
        s!"sell: {refusal}")
  | none => pure ()

/-- The class of a service. -/
def checkClass (source : String) (service : AuthoredService) : Check := do
  checkRefusal source service
  failIf (!serviceClasses.contains service.serviceClass) source
    (s!"service {service.serviceId} names class {service.serviceClass}, which is not a class this " ++
      "category sells")

/-- The operating corporation a service discloses. -/
def checkCorporation (source : String) (service : AuthoredService) : Check :=
  match service.operatingCorporation with
  | some corporation =>
    failIf (service.operatingCorporationBasis != .confirmed) source
      (s!"service {service.serviceId} names operating corporation {corporation.wire} on a " ++
        s!"{service.operatingCorporationBasis.wire} basis; publishing an inferred corporation is worse " ++
        "than publishing none")
  | none =>
    failIf (service.operatingCorporationBasis != .none) source
      (s!"service {service.serviceId} has no operating corporation and a basis of " ++
        s!"{service.operatingCorporationBasis.wire}; with no claim the basis is none")

/-- One amount of a service. -/
def checkPaise (source : String) (service : AuthoredService) (field : String) (value : JsNumber) :
    Check :=
  failIf (!value.isSafeInteger || value.below 0) source
    s!"service {service.serviceId} has a {field} that is not a non-negative whole number of paise"

/-- The checks of one service but the one for a duplicate id. -/
def checkService (catalogue : ReservedCatalogue) (source : String) (service : AuthoredService) :
    Check := do
  checkClass source service
  failIf (!(catalogue.seatMaps.map SeatMap.seatMapId).contains service.seatMapId) source
    s!"service {service.serviceId} names seat map {service.seatMapId}, which nobody authored"
  failIf (!(catalogue.fareTables.map AuthoredTable.fareTableId).contains service.fareTableId) source
    s!"service {service.serviceId} names fare table {service.fareTableId}, which nobody authored"
  failIf (service.boardingPoints.isEmpty || service.droppingPoints.isEmpty) source
    s!"service {service.serviceId} has no boarding or no dropping point"
  service.pointIds.forM fun pointId =>
    failIf (!(catalogue.boardingPoints.map fun point => point.boardingPointId).contains pointId) source
      s!"service {service.serviceId} stops at {pointId}, which no town declares"
  failIf (service.provenance == .confirmed && service.provenanceSourceCount.below 2) source
    (s!"service {service.serviceId} claims confirmed provenance on {service.provenanceSourceCount.text} " ++
      "source; confirmed needs at least 2 independent sources that agree")
  failIf (service.provenanceSourceCount.below 0) source
    s!"service {service.serviceId} has a negative source count"
  checkCorporation source service
  failIf (!service.popularity.isFinite || service.popularity.below 0 || service.popularity.above 1)
    source (s!"service {service.serviceId} has popularity {service.popularity.text}, and the dial runs " ++
      "0 to 1")
  failIf (!service.departureMinute.isInteger || service.departureMinute.below 0) source
    s!"service {service.serviceId} has a non-integer departure minute"
  failIf (!service.runningMinutes.isInteger || !service.runningMinutes.above 0) source
    s!"service {service.serviceId} has a non-positive running time"
  checkPaise source service "reservationFeePaise" service.reservationFeePaise
  checkPaise source service "tollPaise" service.tollPaise

/-- The loop over the services: `serviceIds` are the ids so far. -/
def checkServices (catalogue : ReservedCatalogue) (source : String) :
    List String → List AuthoredService → Check
  | _, [] => pure ()
  | serviceIds, service :: rest => do
    failIf (serviceIds.contains service.serviceId) source s!"duplicate service id {service.serviceId}"
    checkService catalogue source service
    checkServices catalogue source (service.serviceId :: serviceIds) rest

/-- `reachable`: for every class of a service that uses the table, the points such services stop at. -/
def ReservedCatalogue.reachable (catalogue : ReservedCatalogue) (table : AuthoredTable) :
    List (String × List String) :=
  (catalogue.services.filter fun service => service.fareTableId = table.fareTableId).foldl
    (fun reachable service => Js.mapSet reachable service.serviceClass
      ((Js.mapGet reachable service.serviceClass).getD [] ++ service.pointIds)) []

def checkCell (catalogue : ReservedCatalogue) (source : String) (table : AuthoredTable)
    (cell : AuthoredCell) : Check := do
  failIf (!(["V", "S", "I"].contains cell.sourcing)) source
    (s!"fare table {table.fareTableId} has a cell with no sourcing label; a per-table label would " ++
      "launder an interpolated cell into a sourced one")
  failIf (!cell.farePaise.isSafeInteger || cell.farePaise.below 0) source
    s!"fare table {table.fareTableId} has a fare that is not a non-negative whole number of paise"
  match Js.mapGet (catalogue.reachable table) cell.serviceClass with
  | none =>
    fail source
      (s!"fare table {table.fareTableId} prices class {cell.serviceClass}, and no service using this " ++
        "table runs it")
  | some points =>
    [cell.fromBoardingPointId, cell.toBoardingPointId].forM fun pointId =>
      failIf (!points.contains pointId) source
        (s!"fare table {table.fareTableId} prices {pointId}, which no {cell.serviceClass} service using " ++
          "this table stops at")

def validateReservedCatalogue (catalogue : ReservedCatalogue) (source : String) : Check := do
  catalogue.boardingPoints.forM fun point =>
    failIf (!catalogue.towns.contains point.townCode) source
      s!"boarding point {point.boardingPointId} names unknown town {point.townCode}"
  catalogue.seatMaps.forM (checkSeatMap source)
  checkServices catalogue source [] catalogue.services
  catalogue.fareTables.forM fun table => table.fares.forM (checkCell catalogue source table)

/-! ## What acceptance says -/

theorem check_bind {x : Check} {k : Unit → Check} :
    (x >>= k) = .ok () ↔ x = .ok () ∧ k () = .ok () := by
  rcases x with e | ⟨⟩
  · exact ⟨fun h => (by cases h), fun h => (by cases h.1)⟩
  · exact ⟨fun h => ⟨rfl, h⟩, fun h => h.2⟩

theorem failIf_ok {condition : Bool} {source message : String} :
    failIf condition source message = .ok () ↔ condition = false := by
  cases condition with
  | true => exact ⟨fun h => (by cases h), fun h => (by cases h)⟩
  | false => exact ⟨fun _ => rfl, fun _ => rfl⟩

theorem forM_ok {α : Type} {f : α → Check} {xs : List α} :
    xs.forM f = .ok () ↔ ∀ x ∈ xs, f x = .ok () := by
  induction xs with
  | nil => exact ⟨fun _ _ h => (by cases h), fun _ => rfl⟩
  | cons x xs ih =>
    change (f x >>= fun _ => xs.forM f) = .ok () ↔ _
    rw [check_bind, ih, List.forall_mem_cons]

theorem checkSeats_ok {map : SeatMap} {source : String} : ∀ {seats : List Seat} {seatIds : List String},
    checkSeats map source seatIds seats = .ok () →
      (seats.map Seat.seatId).Nodup ∧ ∀ seat ∈ seats, seat.seatId ∉ seatIds
  | [], _, _ => ⟨List.nodup_nil, fun _ h => absurd h List.not_mem_nil⟩
  | seat :: rest, seatIds, h => by
    simp only [checkSeats, check_bind, failIf_ok] at h
    obtain ⟨hnew, -, hrest⟩ := h
    obtain ⟨hnodup, hfresh⟩ := checkSeats_ok hrest
    have hseat : seat.seatId ∉ seatIds := by simpa using hnew
    refine ⟨List.nodup_cons.mpr ⟨?_, hnodup⟩, ?_⟩
    · intro hmem
      obtain ⟨seat', hseat', heq⟩ := List.mem_map.mp hmem
      exact hfresh seat' hseat' (heq ▸ List.mem_cons_self ..)
    · intro seat' hmem
      rcases List.mem_cons.mp hmem with rfl | hmem
      · exact hseat
      · exact fun h => hfresh seat' hmem (List.mem_cons_of_mem _ h)

theorem checkServices_ok {catalogue : ReservedCatalogue} {source : String} :
    ∀ {services : List AuthoredService} {serviceIds : List String},
      checkServices catalogue source serviceIds services = .ok () →
        (services.map AuthoredService.serviceId).Nodup ∧
          (∀ service ∈ services, service.serviceId ∉ serviceIds) ∧
          ∀ service ∈ services, checkService catalogue source service = .ok ()
  | [], _, _ => ⟨List.nodup_nil, fun _ h => absurd h List.not_mem_nil,
      fun _ h => absurd h List.not_mem_nil⟩
  | service :: rest, serviceIds, h => by
    simp only [checkServices, check_bind, failIf_ok] at h
    obtain ⟨hnew, hservice, hrest⟩ := h
    obtain ⟨hnodup, hfresh, hchecked⟩ := checkServices_ok hrest
    have hid : service.serviceId ∉ serviceIds := by simpa using hnew
    refine ⟨List.nodup_cons.mpr ⟨?_, hnodup⟩, ?_, List.forall_mem_cons.mpr ⟨hservice, hchecked⟩⟩
    · intro hmem
      obtain ⟨service', hservice', heq⟩ := List.mem_map.mp hmem
      exact hfresh service' hservice' (heq ▸ List.mem_cons_self ..)
    · intro service' hmem
      rcases List.mem_cons.mp hmem with rfl | hmem
      · exact hid
      · exact fun h => hfresh service' hmem (List.mem_cons_of_mem _ h)

/-- What the checks of one seat map say of it. -/
structure CheckedMap (map : SeatMap) : Prop where
  distinct : (map.seats.map Seat.seatId).Nodup
  irreflexive : ∀ seat ∈ map.seats, seat.seatId ∉ seat.adjacentSeatIds
  symmetric : ∀ seat ∈ map.seats, ∀ id ∈ seat.adjacentSeatIds,
    ∃ neighbour ∈ map.seats, neighbour.seatId = id ∧ seat.seatId ∈ neighbour.adjacentSeatIds
  paired : ∀ seat ∈ map.seats, ∀ id, seat.pairedSeatId = some id →
    ∃ partner ∈ map.seats, partner.seatId = id ∧ partner.pairedSeatId = some seat.seatId

theorem SeatMap.mem_of_byId {map : SeatMap} {id : String} {seat : Seat}
    (h : Js.mapGet map.byId id = some seat) : seat ∈ map.seats ∧ seat.seatId = id := by
  obtain ⟨seat', hmem, heq⟩ := List.mem_map.mp (Js.mem_of_mapGet_mapOf h)
  obtain ⟨rfl, rfl⟩ := Prod.mk.inj heq
  exact ⟨hmem, rfl⟩

theorem checkSeatMap_ok {source : String} {map : SeatMap} (h : checkSeatMap source map = .ok ()) :
    CheckedMap map := by
  simp only [checkSeatMap, check_bind, forM_ok, failIf_ok] at h
  obtain ⟨hseats, heach, -⟩ := h
  refine ⟨(checkSeats_ok hseats).1, fun seat hseat => ?_, fun seat hseat id hid => ?_,
    fun seat hseat id hid => ?_⟩
  · simpa using (heach seat hseat).1
  · have hneighbour := (heach seat hseat).2.1 id hid
    rw [checkNeighbour] at hneighbour
    split at hneighbour
    · cases hneighbour
    · rename_i neighbour hget
      obtain ⟨hmem, hname⟩ := SeatMap.mem_of_byId hget
      exact ⟨neighbour, hmem, hname, by simpa [failIf_ok] using hneighbour⟩
  · have hpair := (heach seat hseat).2.2
    rw [checkPair, hid] at hpair
    dsimp only at hpair
    split at hpair
    · cases hpair
    · rename_i partner hget
      obtain ⟨hmem, hname⟩ := SeatMap.mem_of_byId hget
      exact ⟨partner, hmem, hname, by simpa [failIf_ok] using hpair⟩

/-- What the checks of one service say of what it names. -/
structure CheckedService (catalogue : ReservedCatalogue) (service : AuthoredService) : Prop where
  serviceClass : service.serviceClass ∈ serviceClasses
  seatMap : service.seatMapId ∈ catalogue.seatMaps.map SeatMap.seatMapId
  fareTable : service.fareTableId ∈ catalogue.fareTables.map AuthoredTable.fareTableId
  boards : service.boardingPoints ≠ []
  drops : service.droppingPoints ≠ []
  stops : ∀ id ∈ service.pointIds, id ∈ catalogue.boardingPoints.map fun point => point.boardingPointId

theorem checkService_ok {catalogue : ReservedCatalogue} {source : String} {service : AuthoredService}
    (h : checkService catalogue source service = .ok ()) : CheckedService catalogue service := by
  simp only [checkService, checkClass, check_bind, failIf_ok, forM_ok, Bool.not_eq_false',
    List.contains_iff_mem, Bool.or_eq_false_iff, List.isEmpty_eq_false_iff] at h
  obtain ⟨⟨-, hclass⟩, hmap, htable, ⟨hboards, hdrops⟩, hstops, -⟩ := h
  exact ⟨hclass, hmap, htable, hboards, hdrops, hstops⟩

/-- Some service that uses the table runs the class. -/
def ReservedCatalogue.Runs (catalogue : ReservedCatalogue) (table : AuthoredTable)
    (serviceClass : String) : Prop :=
  ∃ service ∈ catalogue.services, service.fareTableId = table.fareTableId ∧
    service.serviceClass = serviceClass

/-- Some service that uses the table runs the class and stops at the point. -/
def ReservedCatalogue.Stops (catalogue : ReservedCatalogue) (table : AuthoredTable)
    (serviceClass id : String) : Prop :=
  ∃ service ∈ catalogue.services, service.fareTableId = table.fareTableId ∧
    service.serviceClass = serviceClass ∧ id ∈ service.pointIds

/-- What is reachable is run and stopped at. -/
theorem reachable_some {catalogue : ReservedCatalogue} {table : AuthoredTable} {serviceClass : String}
    {points : List String}
    (h : Js.mapGet (catalogue.reachable table) serviceClass = some points) :
    catalogue.Runs table serviceClass ∧ ∀ id ∈ points, catalogue.Stops table serviceClass id := by
  have hfold : ∀ (services : List AuthoredService) (reachable : List (String × List String)),
      (∀ service ∈ services, service ∈ catalogue.services ∧
        service.fareTableId = table.fareTableId) →
      (∀ serviceClass points, Js.mapGet reachable serviceClass = some points →
        catalogue.Runs table serviceClass ∧ ∀ id ∈ points, catalogue.Stops table serviceClass id) →
      ∀ serviceClass points, Js.mapGet (services.foldl (fun reachable service =>
        Js.mapSet reachable service.serviceClass
          ((Js.mapGet reachable service.serviceClass).getD [] ++ service.pointIds)) reachable)
          serviceClass = some points →
        catalogue.Runs table serviceClass ∧ ∀ id ∈ points, catalogue.Stops table serviceClass id := by
    intro services
    induction services with
    | nil => exact fun _ _ hreachable => hreachable
    | cons service services ih =>
      intro reachable hservices hreachable
      obtain ⟨⟨hmem, htable⟩, hrest⟩ := List.forall_mem_cons.mp hservices
      refine ih _ hrest fun serviceClass points hget => ?_
      by_cases hclass : serviceClass = service.serviceClass
      · subst hclass
        rw [Js.mapGet_mapSet_self] at hget
        obtain rfl := Option.some.inj hget
        refine ⟨⟨service, hmem, htable, rfl⟩, fun id hid => ?_⟩
        rcases List.mem_append.mp hid with hid | hid
        · cases hget' : Js.mapGet reachable service.serviceClass with
          | none => simp [hget'] at hid
          | some before =>
            rw [hget'] at hid
            exact (hreachable _ before hget').2 id hid
        · exact ⟨service, hmem, htable, rfl, hid⟩
      · rw [Js.mapGet_mapSet_ne _ _ hclass] at hget
        exact hreachable _ _ hget
  refine hfold _ [] (fun service hservice => ?_) (fun _ _ hget => by cases hget) _ _ h
  simpa using List.mem_filter.mp hservice

theorem checkCell_ok {catalogue : ReservedCatalogue} {source : String} {table : AuthoredTable}
    {cell : AuthoredCell} (h : checkCell catalogue source table cell = .ok ()) :
    catalogue.Runs table cell.serviceClass ∧
      catalogue.Stops table cell.serviceClass cell.fromBoardingPointId ∧
      catalogue.Stops table cell.serviceClass cell.toBoardingPointId := by
  simp only [checkCell, check_bind, failIf_ok] at h
  obtain ⟨-, -, hpoints⟩ := h
  split at hpoints
  · cases hpoints
  · rename_i points hget
    obtain ⟨hruns, hstops⟩ := reachable_some hget
    simp only [forM_ok, failIf_ok, List.mem_cons, List.not_mem_nil, or_false, Bool.not_eq_false',
      List.contains_iff_mem] at hpoints
    exact ⟨hruns, hstops _ (hpoints _ (.inl rfl)), hstops _ (hpoints _ (.inr rfl))⟩

/-- What the validator establishes. -/
structure Accepted (catalogue : ReservedCatalogue) : Prop where
  towns : ∀ point ∈ catalogue.boardingPoints, point.townCode ∈ catalogue.towns
  seatMaps : ∀ map ∈ catalogue.seatMaps, CheckedMap map
  serviceIds : (catalogue.services.map AuthoredService.serviceId).Nodup
  services : ∀ service ∈ catalogue.services, CheckedService catalogue service
  fares : ∀ table ∈ catalogue.fareTables, ∀ cell ∈ table.fares,
    catalogue.Runs table cell.serviceClass ∧
      catalogue.Stops table cell.serviceClass cell.fromBoardingPointId ∧
      catalogue.Stops table cell.serviceClass cell.toBoardingPointId

theorem validateReservedCatalogue_ok {catalogue : ReservedCatalogue} {source : String}
    (h : validateReservedCatalogue catalogue source = .ok ()) : Accepted catalogue := by
  simp only [validateReservedCatalogue, check_bind, forM_ok, failIf_ok, Bool.not_eq_false',
    List.contains_iff_mem] at h
  obtain ⟨htowns, hmaps, hservices, hfares⟩ := h
  obtain ⟨hnodup, -, heach⟩ := checkServices_ok hservices
  exact ⟨htowns, fun map hmap => checkSeatMap_ok (hmaps map hmap), hnodup,
    fun service hservice => checkService_ok (heach service hservice),
    fun table htable cell hcell => checkCell_ok (hfares table htable cell hcell)⟩

/-! ## What a catalogue is taken to be -/

/-- An id identifies exactly one of the objects that have these ids. -/
def IdentifiesOne (ids : List String) (id : String) : Prop := ids.count id = 1

/-- A seat map whose adjacency and pairing are relations between different seats of it. -/
structure SoundMap (map : SeatMap) : Prop extends CheckedMap map where
  apart : ∀ seat ∈ map.seats, ∀ id, seat.pairedSeatId = some id → id ≠ seat.seatId

/-- What a first match by id needs a catalogue to be. -/
structure Sound (catalogue : ReservedCatalogue) : Prop where
  seatMaps : ∀ map ∈ catalogue.seatMaps, SoundMap map
  serviceIds : (catalogue.services.map AuthoredService.serviceId).Nodup
  seatMap : ∀ service ∈ catalogue.services,
    IdentifiesOne (catalogue.seatMaps.map SeatMap.seatMapId) service.seatMapId
  fareTable : ∀ service ∈ catalogue.services,
    IdentifiesOne (catalogue.fareTables.map AuthoredTable.fareTableId) service.fareTableId
  town : ∀ point ∈ catalogue.boardingPoints, IdentifiesOne catalogue.towns point.townCode
  stop : ∀ service ∈ catalogue.services, ∀ id ∈ service.pointIds,
    IdentifiesOne (catalogue.boardingPoints.map fun point => point.boardingPointId) id
  fares : ∀ table ∈ catalogue.fareTables, ∀ cell ∈ table.fares,
    catalogue.Runs table cell.serviceClass ∧
      ∀ id ∈ [cell.fromBoardingPointId, cell.toBoardingPointId],
        catalogue.Stops table cell.serviceClass id ∧
          IdentifiesOne (catalogue.boardingPoints.map fun point => point.boardingPointId) id

/-- Nothing that is named is declared twice, and no berth is shared with itself. -/
structure Unmerged (catalogue : ReservedCatalogue) : Prop where
  berths : ∀ map ∈ catalogue.seatMaps, ∀ seat ∈ map.seats, seat.pairedSeatId ≠ some seat.seatId
  seatMaps : ∀ service ∈ catalogue.services,
    (catalogue.seatMaps.map SeatMap.seatMapId).count service.seatMapId ≤ 1
  fareTables : ∀ service ∈ catalogue.services,
    (catalogue.fareTables.map AuthoredTable.fareTableId).count service.fareTableId ≤ 1
  towns : ∀ point ∈ catalogue.boardingPoints, catalogue.towns.count point.townCode ≤ 1
  stops : ∀ service ∈ catalogue.services, ∀ id ∈ service.pointIds,
    (catalogue.boardingPoints.map fun point => point.boardingPointId).count id ≤ 1

theorem identifiesOne_iff {ids : List String} {id : String} (h : id ∈ ids) :
    IdentifiesOne ids id ↔ ids.count id ≤ 1 := by
  have hpos : 0 < ids.count id := List.count_pos_iff.mpr h
  rw [IdentifiesOne]
  omega

/-- A coach of one berth, which is shared or not. -/
def oneBerth (pairedSeatId : Option String) : SeatMap where
  seatMapId := "SLEEPER-1"
  kind := .sleeper
  decks := 1
  documentedCapacity := some 1
  seats := [⟨"1A", 1, 1, 1, .berth, true, pairedSeatId, []⟩]

/-- One service from a stand to another, with the given coaches. -/
def oneService (seatMaps : List SeatMap) : ReservedCatalogue :=
  let stand (id : String) : CataloguePoint := ⟨⟨id, id, none, 0⟩, "BLR"⟩
  { towns := ["BLR"]
    boardingPoints := [stand "MAJESTIC", stand "KALASIPALYA"]
    services := [{
      serviceId := "KSRTC-1", serviceNumber := "1", brand := .ksrtc, operatingCorporation := none
      operatingCorporationBasis := .none, provenance := .inferred
      provenanceSourceCount := .finite 1 "1", serviceClass := "PALLAKKI"
      boardingPoints := [stand "MAJESTIC"], droppingPoints := [stand "KALASIPALYA"]
      operatingPattern := .daily, departureMinute := .finite 600 "600"
      runningMinutes := .finite 30 "30", seatMapId := "SLEEPER-1", fareTableId := "FARES-1"
      popularity := .finite 0 "0", reservationFeePaise := .finite 0 "0"
      tollPaise := .finite 0 "0" }]
    seatMaps := seatMaps
    fareTables := [⟨"FARES-1", [⟨"MAJESTIC", "KALASIPALYA", "PALLAKKI", .finite 50000 "50000", "I"⟩]⟩] }

end TransitBpp
