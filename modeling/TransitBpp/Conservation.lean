import TransitBpp.FleetManifest
import TransitBpp.GenderLocks
import TransitBpp.HttpSource
import TransitBpp.Operations
import TransitBpp.Orders

/-!
# Seats are conserved

Two functions count a departure. `availableSeatCount` walks the map and asks of each seat who has it;
`manifestSeatCounts` adds up the claims and the simulated sales. They partition the coach because a select
holds only seats of the map that the simulation has not sold, and no later request moves a lock to
another seat.
-/

namespace TransitBpp

open Interleave Js

/-! ## Counting one departure -/

/-- Distinct seats out of distinct seats, and those left over. -/
theorem countP_not_mem_add {ids taken : List String} (hids : ids.Nodup) (htaken : taken.Nodup)
    (hsub : ∀ id ∈ taken, id ∈ ids) :
    (ids.countP fun id => id ∉ taken) + taken.length = ids.length := by
  have hperm : (ids.filter fun id => id ∈ taken).Perm taken := by
    refine (List.perm_ext_iff_of_nodup (hids.filter _) htaken).mpr fun id => ?_
    rw [List.mem_filter, decide_eq_true_eq]
    exact ⟨And.right, fun h => ⟨hsub id h, h⟩⟩
  rw [← hperm.length_eq, ← List.countP_eq_length_filter, Nat.add_comm,
    List.length_eq_countP_add_countP (fun id => decide (id ∈ taken))]
  simp only [decide_eq_true_eq, decide_not]

namespace SeatNeighbourhood

variable {input : SeatNeighbourhood}

/-- Available seats, claimed seats and simulated sales make up the map. -/
theorem available_add_taken (hmap : (input.map.seats.map Seat.seatId).Nodup)
    (hclaims : (input.claims.map LiveSeatClaim.seatId).Nodup)
    (hsold : (input.seededSold.map Prod.fst).Nodup)
    (honMap : ∀ claim ∈ input.claims, claim.seatId ∈ input.map.seats.map Seat.seatId)
    (hsoldMap : ∀ seatId ∈ input.seededSold.map Prod.fst, seatId ∈ input.map.seats.map Seat.seatId)
    (hunsold : ∀ claim ∈ input.claims, claim.seatId ∉ input.seededSold.map Prod.fst) :
    input.availableSeatCount + input.claims.length + input.seededSold.length =
      input.map.seats.length := by
  have hstates : input.seatStates =
      input.map.seats.map fun seat => (seat.seatId, input.stateOf seat.seatId) := by
    refine mapOf_eq ?_
    rw [List.map_map]
    exact hmap
  have hapart : (input.claims.map LiveSeatClaim.seatId ++ input.seededSold.map Prod.fst).Nodup := by
    refine List.nodup_append.mpr ⟨hclaims, hsold, ?_⟩
    rintro seatId hclaim _ hseeded rfl
    obtain ⟨claim, hmem, rfl⟩ := List.mem_map.mp hclaim
    exact hunsold claim hmem hseeded
  have htaken := countP_not_mem_add hmap hapart ?_
  · rw [List.length_append, List.length_map, List.length_map, List.length_map, ← Nat.add_assoc] at htaken
    rw [← htaken, availableSeatCount, hstates, List.countP_map, List.countP_map]
    congr 2
    refine List.countP_congr fun seat _ => ?_
    simp only [Function.comp, Bool.or_eq_true, decide_eq_true_eq, stateOf_open, List.mem_append, not_or]
    rw [← isSome_claim? hclaims, ← isSome_mapGet, Option.not_isSome_iff_eq_none,
      Option.not_isSome_iff_eq_none]
  · intro seatId h
    rcases List.mem_append.mp h with h | h
    · obtain ⟨claim, hmem, rfl⟩ := List.mem_map.mp h
      exact honMap claim hmem
    · exact hsoldMap seatId h

end SeatNeighbourhood

/-- The simulation sells seats of the map, and none more often than the map lists it. -/
theorem selectSoldSeats_subperm {collation : Collation} {map : SeatMap} {fraction : ℚ}
    {serviceId travelDate : String} {seed : ℤ} :
    (selectSoldSeats collation map fraction serviceId travelDate seed).Subperm
      (map.seats.map Seat.seatId) := by
  rw [selectSoldSeats]
  apply (sort_perm _).subperm.trans
  refine ((List.take_sublist _ _).map Prod.fst).subperm.trans
    (((List.perm_insertionSort _ _).map Prod.fst).subperm.trans ?_)
  rw [List.map_map]
  exact List.Perm.subperm (List.Perm.refl _)

theorem seededOccupancy_ok {collation : Collation} {service : ReservedService} {map : SeatMap}
    {travelDate : String} {seed : ℤ} {seeded : List (String × SeededGender)}
    (hmap : (map.seats.map Seat.seatId).Nodup)
    (h : seededOccupancy collation service map travelDate seed = .ok seeded) :
    (seeded.map Prod.fst).Nodup ∧
      ∀ seatId ∈ seeded.map Prod.fst, seatId ∈ map.seats.map Seat.seatId := by
  obtain ⟨fraction, -, hsold⟩ := Except.bind_ok.mp h
  obtain rfl := Except.ok.inj hsold
  have hsub := @selectSoldSeats_subperm collation map fraction service.serviceId travelDate seed
  have hnodup : (selectSoldSeats collation map fraction service.serviceId travelDate seed).Nodup := by
    obtain ⟨listed, hperm, hsublist⟩ := hsub
    exact hperm.nodup_iff.mp (hmap.sublist hsublist)
  have hkeys : ((selectSoldSeats collation map fraction service.serviceId travelDate seed).map
      fun seatId => (seatId, seededGender seed service.serviceId travelDate seatId)).map Prod.fst =
      selectSoldSeats collation map fraction service.serviceId travelDate seed := by
    rw [List.map_map]
    exact List.map_id _
  rw [mapOf_eq (by rw [hkeys]; exact hnodup), hkeys]
  exact ⟨hnodup, fun seatId hmem => hsub.subset hmem⟩

/-! ## Departures -/

/-- A departure, as the catalogue and the occupancy seed have it. -/
structure Departure (d : Deployment) (source : Source) (serviceId travelDate : String) : Type where
  /-- its service -/
  service : ReservedService
  /-- the seat map of the service -/
  seatMap : SeatMap
  /-- the seats the simulation has sold on it -/
  seeded : List (String × SeededGender)
  /-- the catalogue has the service -/
  found : source.service serviceId = some service
  /-- and its map -/
  mapped : source.seatMap service.seatMapId = some seatMap
  /-- these are the simulated sales -/
  simulated : seededOccupancy d.collation service seatMap travelDate d.reservation.occupancySeed =
    .ok seeded

namespace Departure

variable {d : Deployment} {source : Source} {serviceId travelDate : String}

/-- There is only one of a service and a date. -/
theorem unique (dep dep' : Departure d source serviceId travelDate) : dep = dep' := by
  obtain ⟨service, seatMap, seeded, hservice, hmap, hseeded⟩ := dep
  obtain ⟨service', seatMap', seeded', hservice', hmap', hseeded'⟩ := dep'
  obtain rfl := Option.some.inj (hservice.symm.trans hservice')
  obtain rfl := Option.some.inj (hmap.symm.trans hmap')
  obtain rfl := Except.ok.inj (hseeded.symm.trans hseeded')
  rfl

/-- What a viewer sees of its seats, given the claims. -/
def seats (dep : Departure d source serviceId travelDate) (claims : List LiveSeatClaim)
    (viewer : Option ReservedIdentity) : SeatNeighbourhood :=
  ⟨dep.seatMap, dep.seeded, claims, viewer⟩

theorem snapshotFromClaims_eq (dep : Departure d source serviceId travelDate)
    (claims : List LiveSeatClaim) (viewer : Option ReservedIdentity) :
    snapshotFromClaims d dep.service dep.seatMap travelDate claims viewer =
      .ok ⟨dep.seeded, claims, (dep.seats claims viewer).seatStates,
        (dep.seats claims viewer).availableSeatCount⟩ := by
  rw [snapshotFromClaims, dep.simulated]
  rfl

theorem manifestSeatCounts_eq (dep : Departure d source serviceId travelDate)
    (claims : List LiveSeatClaim) : manifestSeatCounts d dep.service dep.seatMap travelDate claims =
      .ok ⟨dep.seatMap.seats.length, claimCount .booked claims, claimCount .held claims,
        dep.seeded.length⟩ := by
  rw [manifestSeatCounts, dep.simulated]
  rfl

/-- A seat that can be held: one of the map, and not sold by the simulation. -/
def ForSale (dep : Departure d source serviceId travelDate) (seatId : String) : Prop :=
  seatId ∈ dep.seatMap.seats.map Seat.seatId ∧ seatId ∉ dep.seeded.map Prod.fst

/-- The seats of a departure add up. -/
structure Conserved (dep : Departure d source serviceId travelDate) (db : ReservedDb) : Prop where
  /-- a live claim is on a seat of the map -/
  onMap : ∀ claim ∈ db.liveClaims serviceId travelDate,
    claim.seatId ∈ dep.seatMap.seats.map Seat.seatId
  /-- and on none that the simulation has sold -/
  unsold : ∀ claim ∈ db.liveClaims serviceId travelDate, claim.seatId ∉ dep.seeded.map Prod.fst
  /-- no seat carries two of them -/
  single : ((db.liveClaims serviceId travelDate).map LiveSeatClaim.seatId).Nodup
  /-- what is published as available and what is counted make up the coach, whoever is looking -/
  adds_up : ∀ viewer, ∃ snapshot counts,
    snapshotFromClaims d dep.service dep.seatMap travelDate (db.liveClaims serviceId travelDate) viewer =
      .ok snapshot ∧
    manifestSeatCounts d dep.service dep.seatMap travelDate (db.liveClaims serviceId travelDate) =
      .ok counts ∧
    snapshot.availableCount + counts.booked + counts.held + counts.simulated =
      dep.seatMap.seats.length

end Departure

/-- A departure has at most one live claim a seat. -/
theorem nodup_liveClaims (db : ReservedDb) (serviceId travelDate : String) :
    ((db.liveClaims serviceId travelDate).map LiveSeatClaim.seatId).Nodup := by
  refine (liveClaims_perm.map LiveSeatClaim.seatId).nodup_iff.mpr ?_
  have hkeys := db.seatLocks.unique LockRow.liveKey (by simp)
  have hpair := List.pairwise_filterMap.mp hkeys
  rw [List.map_map, List.Nodup, List.pairwise_map, List.pairwise_filter]
  refine hpair.imp fun {row row'} h hrow hrow' heq => ?_
  simp only [Bool.and_eq_true, decide_eq_true_eq] at hrow hrow'
  exact h _ (LockRow.liveKey_eq.mpr ⟨hrow.2, hrow.1.1, hrow.1.2, rfl⟩) _
    (LockRow.liveKey_eq.mpr ⟨hrow'.2, hrow'.1.1, hrow'.1.2, heq.symm⟩) rfl

/-- Every lock is on a seat that was for sale. -/
def SoldFairly (d : Deployment) (source : Source) (db : ReservedDb) : Prop :=
  ∀ row ∈ db.seatLocks.rows, ∃ dep : Departure d source row.serviceId row.travelDate, dep.ForSale row.seatId

section

variable {d : Deployment} {source : Source} {db db' : ReservedDb}

theorem SoldFairly.claim (h : SoldFairly d source db) {serviceId travelDate : String}
    (dep : Departure d source serviceId travelDate) {claim : LiveSeatClaim}
    (hclaim : claim ∈ db.liveClaims serviceId travelDate) : dep.ForSale claim.seatId := by
  obtain ⟨row, hrow, rfl⟩ := List.mem_map.mp (liveClaims_perm.mem_iff.mp hclaim)
  obtain ⟨hmem, hon⟩ := List.mem_filter.mp hrow
  simp only [Bool.and_eq_true, decide_eq_true_eq] at hon
  obtain ⟨⟨rfl, rfl⟩, -⟩ := hon
  obtain ⟨dep', hsale⟩ := h row hmem
  exact dep.unique dep' ▸ hsale

/-- Then the seats of each departure add up. -/
theorem SoldFairly.conserved (h : SoldFairly d source db) {serviceId travelDate : String}
    (dep : Departure d source serviceId travelDate)
    (hmap : (dep.seatMap.seats.map Seat.seatId).Nodup) : dep.Conserved db := by
  obtain ⟨hdistinct, hsold⟩ := seededOccupancy_ok hmap dep.simulated
  have hsingle := nodup_liveClaims db serviceId travelDate
  have honMap := fun claim hclaim => (@SoldFairly.claim _ _ _ h _ _ dep claim hclaim).1
  have hunsold := fun claim hclaim => (@SoldFairly.claim _ _ _ h _ _ dep claim hclaim).2
  refine ⟨honMap, hunsold, hsingle, fun viewer => ⟨_, _, dep.snapshotFromClaims_eq _ viewer,
    dep.manifestSeatCounts_eq _, ?_⟩⟩
  have hsum := @SeatNeighbourhood.available_add_taken (dep.seats (db.liveClaims serviceId travelDate) viewer)
    hmap hsingle hdistinct honMap hsold hunsold
  rw [length_eq_claimCounts, ← Nat.add_assoc] at hsum
  exact hsum

/-! ## What a select has checked -/

/-- A journal whose look-ups were answered from one catalogue. -/
structure ReadFrom (source : Source) (jr : Journal) : Prop where
  /-- the services -/
  service : ∀ id found, (⟨.service id, .ok found⟩ : Line Op Resp) ∈ jr → found = source.service id
  /-- the seat maps -/
  seatMap : ∀ id found, (⟨.seatMap id, .ok found⟩ : Line Op Resp) ∈ jr → found = source.seatMap id

theorem ReadFrom.earlier {jr jr' : Journal} (h : ReadFrom source jr') (hs : jr <:+ jr') :
    ReadFrom source jr :=
  ⟨fun id found hmem => h.service id found (hs.subset hmem),
    fun id found hmem => h.seatMap id found (hs.subset hmem)⟩

/-- Every seat a hold asks for is for sale, where one catalogue was read throughout. -/
def AsksFairly (d : Deployment) (source : Source) (jr : Journal) : Op → Prop
  | .transaction (.acquireHold params) => ReadFrom source jr →
    ∃ dep : Departure d source params.serviceId params.travelDate,
      ∀ seatId ∈ params.seatIds, dep.ForSale seatId
  | _ => True

/-- Whether an operation takes a hold. -/
def Op.takesHold : Op → Bool
  | .transaction (.acquireHold _) => true
  | _ => false

/-- Any other operation. -/
def TakesNoHold (op : Op) : Prop := op.takesHold = false

theorem Incidental.takesNoHold (op : Op) (h : Incidental op) : TakesNoHold op := by
  simp only [TakesNoHold, Op.takesHold]
  split
  · exact h.elim
  · rfl

theorem TakesNoHold.asksFairly {op : Op} (h : TakesNoHold op) (jr : Journal) : AsksFairly d source jr op := by
  simp only [AsksFairly]
  split
  · cases h
  · trivial

/-- The catalogue has what a request resolved its departure to. -/
def Resolves (source : Source) (resolved : Resolved) : Prop :=
  source.service resolved.service.serviceId = some resolved.service ∧
    source.seatMap resolved.service.seatMapId = some resolved.seatMap

theorem serviceOf_ok {item : ReservedItem} {found : Option ReservedService} {service : ReservedService}
    (h : serviceOf item found = .ok service) : found = some service := by
  simp only [serviceOf] at h
  cases found with
  | none => cases h
  | some service' =>
    dsimp only at h
    split at h
    · cases h
    · obtain ⟨runs, -, h⟩ := Except.bind_ok.mp h
      split at h
      · rw [Except.ok.inj h]
      · cases h

theorem assertSeatsOnMap_ok {seatMap : SeatMap} {seatIds : List String}
    (h : assertSeatsOnMap seatMap seatIds = .ok ()) :
    ∀ seatId ∈ seatIds, seatId ∈ seatMap.seats.map Seat.seatId := by
  unfold assertSeatsOnMap at h
  dsimp only at h
  split at h
  · cases h
  · rename_i hnone
    intro seatId hmem
    by_contra hnot
    exact absurd (List.mem_filter.mpr ⟨hmem, decide_eq_true hnot⟩) (by rw [not_not.mp hnone]; exact List.not_mem_nil)

theorem assertNotSimulated_ok {resolved : Resolved} {snapshot : Snapshot} {seatIds : List String}
    (h : assertNotSimulated resolved snapshot seatIds = .ok ()) :
    ∀ seatId ∈ seatIds, seatId ∉ snapshot.seeded.map Prod.fst := by
  unfold assertNotSimulated at h
  dsimp only at h
  split at h
  · cases h
  · rename_i hnone
    intro seatId hmem hsold
    exact absurd (List.mem_filter.mpr ⟨hmem, isSome_mapGet.mpr hsold⟩)
      (by rw [not_not.mp hnone]; exact List.not_mem_nil)

variable {jr : Journal} {req : Request}

/-- A catalogue answers the service it is asked for. -/
def Source.Keyed (source : Source) : Prop :=
  ∀ id service, source.service id = some service → service.serviceId = id

theorem resolveSelection_fairly (hkeyed : source.Keyed) (input : OrderInput) :
    Handler.Journal (AsksFairly d source) (fun resolved jr' => ReadFrom source jr' → Resolves source resolved)
      (fun _ _ => True) (resolveSelection d input) jr := by
  rw [resolveSelection, Handler.journal_bind, Handler.journal_lift]
  refine ⟨fun item _ => ?_, fun _ _ => trivial⟩
  rw [Handler.journal_bind, journal_attempt]
  refine journal_op.mpr ⟨trivial, ?_⟩
  rintro (e | found)
  · trivial
  rw [ends_ok, Handler.journal_bind, Handler.journal_lift]
  refine ⟨fun service hservice => ?_, fun _ _ => trivial⟩
  obtain rfl := serviceOf_ok hservice
  rw [Handler.journal_bind, Handler.journal_lift]
  refine ⟨fun departureAt _ => ?_, fun _ _ => trivial⟩
  rw [Handler.journal_bind, journal_perform]
  refine ⟨trivial, fun nowMs => ?_⟩
  rw [Handler.journal_bind, Handler.journal_lift]
  refine ⟨fun _ _ => ?_, fun _ _ => trivial⟩
  rw [seatMapFor, Handler.journal_bind, Handler.journal_bind, journal_attempt]
  refine journal_op.mpr ⟨trivial, ?_⟩
  rintro (e | _ | seatMap)
  · trivial
  · trivial
  rw [ends_ok, Handler.journal_pure, fareTableFor, Handler.journal_bind, Handler.journal_bind,
    journal_attempt]
  refine journal_op.mpr ⟨trivial, ?_⟩
  rintro (e | _ | fareTable)
  · trivial
  · trivial
  intro hread
  have hservice : some service = source.service item.serviceId := hread.service _ _ (by simp)
  refine ⟨?_, (hread.seatMap _ _ (by simp)).symm⟩
  rw [hkeyed _ _ hservice.symm]
  exact hservice.symm

/-! ### Selects -/

/-- The simulated sales a snapshot shows are those of its departure. -/
theorem snapshotFromClaims_seeded {service : ReservedService} {seatMap : SeatMap} {travelDate : String}
    {claims : List LiveSeatClaim} {viewer : Option ReservedIdentity} {view : Snapshot}
    (h : snapshotFromClaims d service seatMap travelDate claims viewer = .ok view) :
    seededOccupancy d.collation service seatMap travelDate d.reservation.occupancySeed =
      .ok view.seeded := by
  obtain ⟨seeded, hseeded, h⟩ := Except.bind_ok.mp h
  rw [← Except.ok.inj h]
  exact hseeded

theorem snapshot_fairly (resolved : Resolved) (viewer : ReservedIdentity) :
    Handler.Journal (AsksFairly d source) (fun view _ => seededOccupancy d.collation resolved.service
      resolved.seatMap resolved.travelDate d.reservation.occupancySeed = .ok view.seeded) (fun _ _ => True)
      (snapshot d resolved.service resolved.seatMap resolved.travelDate viewer) jr := by
  rw [snapshot, Handler.journal_bind, journal_perform]
  refine ⟨trivial, fun nowMs => ?_⟩
  rw [Handler.journal_bind, journal_transact]
  refine ⟨trivial, fun swept => ?_, fun _ => trivial⟩
  rw [Handler.journal_bind, journal_attempt]
  refine journal_op.mpr ⟨trivial, ?_⟩
  rintro (e | claims)
  · trivial
  · rw [ends_ok, Handler.journal_lift]
    exact ⟨fun view hview => snapshotFromClaims_seeded hview, fun _ _ => trivial⟩

/-- Any handler that takes no hold asks fairly. -/
theorem acts_asksFairly {α : Type} {x : Act α} (h : Handler.Acts TakesNoHold x) :
    Handler.Journal (AsksFairly d source) (fun _ _ => True) (fun _ _ => True) x jr := by
  refine h.journal (fun jr' op hop => hop.asksFairly jr') ?_
  rintro (e | a) jr' <;> trivial

theorem holdSeats_fairly (resolved : Resolved) (identity : ReservedIdentity) (seatIds : List String)
    (hresolves : ReadFrom source jr → Resolves source resolved) :
    Handler.Journal (AsksFairly d source) (fun _ _ => True) (fun _ _ => True)
      (holdSeats d resolved identity seatIds) jr := by
  rw [holdSeats, Handler.journal_bind, Handler.journal_lift]
  refine ⟨fun _ honMap => ?_, fun _ _ => trivial⟩
  rw [Handler.journal_bind, journal_perform]
  refine ⟨trivial, fun nowMs => ?_⟩
  rw [Handler.journal_bind]
  refine (snapshot_fairly resolved identity).weaken (fun before jr₁ hs hseeded => ?_) fun _ _ _ => trivial
  rw [Handler.journal_bind, Handler.journal_lift]
  refine ⟨fun _ hunsold => ?_, fun _ _ => trivial⟩
  rw [takeHold, Handler.journal_tryCatch]
  refine journal_transact.mpr ⟨fun hread => ?_, fun _ => trivial, fun e => ?_⟩
  · obtain ⟨hservice, hmap⟩ := hresolves (hread.earlier ((List.suffix_cons _ _).trans hs))
    exact ⟨⟨_, _, _, hservice, hmap, hseeded⟩,
      fun seatId hmem => ⟨assertSeatsOnMap_ok honMap seatId hmem, assertNotSimulated_ok hunsold seatId hmem⟩⟩
  · -- a refusal reads the seats again and goes out with them
    rcases e with e | - | message
    · dsimp only
      split
      · exact acts_asksFairly (Handler.acts_bind (snapshot_acts Incidental.takesNoHold _ _ _ _)
          fun _ => acts_refuse)
      · trivial
    · trivial
    · trivial

theorem select_fairly (hkeyed : source.Keyed) (context : ReservedContext) (input : OrderInput) :
    Handler.Journal (AsksFairly d source) (fun _ _ => True) (fun _ _ => True) (select d context input) jr := by
  rw [select, Handler.journal_bind, Handler.journal_lift]
  refine ⟨fun _ _ => ?_, fun _ _ => trivial⟩
  rw [Handler.journal_bind]
  refine (resolveSelection_fairly hkeyed input).weaken (fun resolved jr₁ _ hresolves => ?_)
    fun _ _ _ => trivial
  dsimp only
  rw [Handler.journal_bind, Handler.journal_lift]
  refine ⟨fun _ _ => ?_, fun _ _ => trivial⟩
  rw [Handler.journal_bind, Handler.journal_lift]
  refine ⟨fun pair _ => ?_, fun _ _ => trivial⟩
  rw [Handler.journal_bind, Handler.journal_lift]
  refine ⟨fun cell _ => ?_, fun _ _ => trivial⟩
  have hbuild : ∀ (build : BuildOrder) jr₂, Handler.Journal (AsksFairly d source) (fun _ _ => True)
      (fun _ _ => True) (do
        let order ← buildOrder d build
        return Answer.order order none []) jr₂ := fun build jr₂ =>
    acts_asksFairly (Handler.acts_bind (buildOrder_acts Incidental.takesNoHold build)
      fun _ => Handler.acts_pure _)
  split
  · rw [Handler.journal_bind, map_eq_pure_bind, Handler.journal_bind]
    exact (holdSeats_fairly resolved _ _ hresolves).weaken (fun hold jr₂ _ _ => hbuild _ _)
      fun _ _ _ => trivial
  · exact hbuild _ _

/-- **Every hold is asked for fairly.** -/
theorem handle_fairly (hkeyed : source.Keyed) (req : Request) :
    ((provider d).handler req).Journal (AsksFairly d source) (fun _ _ => True) [] := by
  have hfair : Handler.Journal (AsksFairly d source) (fun _ _ => True) (fun _ _ => True)
      (handle d req) [] := by
    rcases haction : req.action with
      intent | ⟨context, input⟩ | ⟨context, input⟩ | ⟨context, input⟩ |
      ⟨context, orderId, refId⟩ | ⟨context, orderId, step, tags⟩ <;> rw [handle, haction]
    · apply acts_asksFairly
      exact (search_sweeps Incidental.takesNoHold intent).acts Incidental.takesNoHold (fun _ => rfl)
        fun _ => rfl
    · exact select_fairly hkeyed context input
    · apply acts_asksFairly
      exact init_acts Incidental.takesNoHold context input
    · apply acts_asksFairly
      exact confirm_acts Incidental.takesNoHold (fun _ => rfl) context input
    · apply acts_asksFairly
      exact (status_sweeps Incidental.takesNoHold context orderId refId).acts Incidental.takesNoHold
        (fun _ => rfl) fun _ => rfl
    · apply acts_asksFairly
      exact cancel_acts Incidental.takesNoHold (fun _ => rfl) (fun _ _ => rfl) context orderId step
        tags
  exact Prog.Journal.mono (fun _ _ _ hP => hP) (fun _ _ _ _ => trivial) hfair

/-! ## Every run -/

/-- The catalogue stays as it is. -/
def Unpublished (_ : History) (m : Act?) : Prop := ∀ source, m ≠ .env (.publish source)

/-- What a run under one catalogue keeps. -/
structure Fair (d : Deployment) (source : Source) (s : History) : Prop where
  /-- the catalogue is this one -/
  fixed : s.world.source = source
  /-- every request has read it -/
  read : ∀ i, ReadFrom source (own i s.trace)
  /-- every lock is on a seat that was for sale -/
  sold : SoldFairly d source s.world.db

/-- What a look-up answers is what the catalogue has. -/
theorem ReadFrom.perform {w w' : World} {process : ℕ} {o : Choice} {op : Op} {r : Resp op}
    (h : ReadFrom source jr) (hfixed : w.source = source) (hexec : w.exec d process o op = some (w', r)) :
    ReadFrom source (⟨op, r⟩ :: jr) := by
  constructor
  · intro id found hmem
    rcases List.mem_cons.mp hmem with heq | hmem
    · injection heq with hop hr
      subst hop
      obtain rfl := eq_of_heq hr
      rw [← hfixed]
      exact Choice.read_ok (Prod.mk.inj (Option.some.inj hexec)).2
    · exact h.service id found hmem
  · intro id found hmem
    rcases List.mem_cons.mp hmem with heq | hmem
    · injection heq with hop hr
      subst hop
      obtain rfl := eq_of_heq hr
      rw [← hfixed]
      exact Choice.read_ok (Prod.mk.inj (Option.some.inj hexec)).2
    · exact h.seatMap id found hmem

/-- A transaction whose hold, if it takes one, is of seats for sale. -/
theorem SoldFairly.step (h : SoldFairly d source db) {t : Transaction} {raw : String} {a : t.Answer}
    (hrun : t.run raw db = .ok (a, db'))
    (hasked : ∀ params, t = .acquireHold params →
      ∃ dep : Departure d source params.serviceId params.travelDate,
        ∀ seatId ∈ params.seatIds, dep.ForSale seatId) : SoldFairly d source db' := by
  intro row' hrow'
  rcases lock_after hrun hrow' with ⟨row, hrow, hmove⟩ | ⟨params, holdId, rfl, hnew, -⟩
  · have hsame := hmove.same
    rw [hsame.serviceId, hsame.travelDate, hsame.seatId]
    exact h row hrow
  · obtain ⟨dep, hsale⟩ := hasked params rfl
    obtain ⟨hseat, hrow⟩ := AcquireHold.mem_newRows hnew
    have hasks : row'.seatId ∈ params.seatIds := mem_unique.mp ((sort_perm _).mem_iff.mp hseat)
    rw [hrow]
    exact ⟨dep, hsale _ hasks⟩

theorem Fair.perform {s s' : History} {i : ℕ} {op : Op} {r : Resp op} (h : Fair d source s)
    (hasks : AsksFairly d source (own i s.trace) op) (hdoes : Does (provider d) i req op s r s') :
    Fair d source s' := by
  obtain ⟨o, w, hexec, rfl⟩ := hdoes
  refine ⟨(World.exec_clock hexec).2.trans h.fixed, fun j => ?_, ?_⟩
  · by_cases hj : i = j
    · subst hj
      have hself := own_cons_self (⟨i, op, r⟩ : Entry Op Resp) s.trace
      rw [hself]
      exact (h.read i).perform h.fixed hexec
    · rw [own_cons_ne hj]
      exact h.read j
  · rcases World.exec_db hexec with ⟨hdb, -⟩ | ⟨t, a, heq, hrun⟩
    · exact hdb ▸ h.sold
    · injection heq with hop hr
      subst hop
      refine h.sold.step hrun fun params ht => ?_
      subst ht
      exact hasks (h.read i)

end

/-- The catalogue of a dataset. -/
def Http.Dataset.source (dataset : Http.Dataset) : Source where
  service := dataset.service
  seatMap := dataset.seatMap
  fareTable := dataset.fareTable
  -- a search has checked its date, so no filter throws
  services query := (dataset.servicesFor query).toOption.getD []

theorem Http.Dataset.keyed (dataset : Http.Dataset) : dataset.source.Keyed := by
  intro id service h
  obtain ⟨placed, hfind, rfl⟩ := Option.map_eq_some_iff.mp h
  simpa using List.find?_some hfind

/-- **Seats are conserved.** Under an accepted catalogue, in every state that any interleaving of requests
leads to, the live claims of each departure are on seats of its map that the simulation has not sold, at
most one a seat, and the published available count and the counts of a manifest add up to the coach. Every
lock is on such a departure. -/
theorem seats_conserved {d : Deployment} {clock : ℤ} {authored : ReservedCatalogue} {name : String}
    {dataset : Http.Dataset} (haccepted : validateReservedCatalogue authored name = .ok ())
    (hmaps : dataset.seatMaps = authored.seatMaps) {c : Pool}
    (h : Reach (provider d) Unpublished ⟨⟨World.initial clock dataset.source, []⟩, []⟩ c) :
    (∀ row ∈ c.hist.world.db.seatLocks.rows,
      Nonempty (Departure d dataset.source row.serviceId row.travelDate)) ∧
    ∀ serviceId travelDate, ∀ dep : Departure d dataset.source serviceId travelDate,
      dep.Conserved c.hist.world.db := by
  have hfair : Fair d dataset.source c.hist := by
    refine Reach.invariant (P := fun _ => AsksFairly d dataset.source) (Q := fun _ _ _ => True)
      (Fair d dataset.source) (handle_fairly dataset.keyed) ⟨rfl, ?_, ?_⟩ ?_ ?_ h
    · exact fun i => ⟨fun _ _ hmem => absurd hmem List.not_mem_nil,
        fun _ _ hmem => absurd hmem List.not_mem_nil⟩
    · exact fun row hrow => absurd hrow List.not_mem_nil
    · exact fun hs _ hasks hdoes => hs.perform hasks hdoes
    · intro s e w hs hallows henv
      cases e with
      | tick ms =>
        obtain rfl := Option.some.inj henv
        exact ⟨hs.fixed, hs.read, hs.sold⟩
      | publish source => exact absurd rfl (hallows source)
  refine ⟨fun row hrow => ?_, fun serviceId travelDate dep => ?_⟩
  · obtain ⟨dep, -⟩ := hfair.sold row hrow
    exact ⟨dep⟩
  · refine hfair.sold.conserved dep ?_
    have hmem : dep.seatMap ∈ authored.seatMaps := hmaps ▸ List.mem_of_find?_eq_some dep.mapped
    exact ((validateReservedCatalogue_ok haccepted).seatMaps _ hmem).distinct

/-! ### One berth -/

/-- `oneService`, as requests read it. -/
def berthDataset : Http.Dataset :=
  ⟨[Http.kalasipalya], [oneBerth none],
    [⟨"FARES-1", [⟨"MAJESTIC", "KALASIPALYA", .pallakki, 50000, .i⟩]⟩]⟩

/-- Its only berth is held. -/
def berthSelect : List (Event Request Choice Happening) :=
  [.start ⟨0, .select (specimenContext "T1") { specimenInput 1 [seatsGroup ["1A"]] with
      items := some [⟨"RSV-KSRTC-1-2026-09-10-PALLAKKI", some 1⟩] }⟩] ++ steps 0 12 "a1"

/-- A move that leaves the catalogue as it is. -/
def isUnpublished (_ : History) : Act? → Bool
  | .env (.publish _) => false
  | _ => true

theorem seats_conserved_berth : ∃ c, Reach (provider specimenDeployment) Unpublished
      ⟨⟨World.initial specimenClock berthDataset.source, []⟩, []⟩ c ∧
    ∃ row ∈ c.hist.world.db.seatLocks.rows, row.seatId = "1A" ∧
      ∃ dep : Departure specimenDeployment berthDataset.source row.serviceId row.travelDate,
        dep.Conserved c.hist.world.db := by
  have hrun : (Config.follow (provider specimenDeployment) isUnpublished
      ⟨⟨World.initial specimenClock berthDataset.source, []⟩, []⟩ berthSelect).map
        (fun c => c.hist.world.db.seatLocks.rows.map LockRow.seatId) = some ["1A"] := by
    decide +kernel
  obtain ⟨c, hfollow, hrows⟩ := Option.map_eq_some_iff.mp hrun
  have hreach : Reach (provider specimenDeployment) Unpublished
      ⟨⟨World.initial specimenClock berthDataset.source, []⟩, []⟩ c := by
    refine (Config.follow_reach .refl hfollow).mono ?_
    rintro s m hallowed source rfl
    cases hallowed
  obtain ⟨hplaced, hconserved⟩ := seats_conserved (show validateReservedCatalogue
    (oneService [oneBerth none]) "fixture" = .ok () from rfl) rfl hreach
  obtain ⟨row, hrow, hseat⟩ := List.mem_map.mp (hrows ▸ List.mem_singleton_self "1A")
  obtain ⟨dep⟩ := hplaced row hrow
  exact ⟨c, hreach, row, hrow, hseat, dep, hconserved _ _ dep⟩

end TransitBpp
