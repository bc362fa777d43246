import TransitBpp.Acquiring
import TransitBpp.Publication
import TransitBpp.Serial

/-!
# A select and its hold

A select takes its hold before it builds its order, and an order that cannot be built refuses the
select when the hold is already there. Of every other refusal it is shown that it changes no hold
(`refused_select_keeps_holds_iff`): an expired row may be swept, and that is all.
-/

namespace TransitBpp

open Interleave Js

variable {d : Deployment} {process : ℕ} {raw : String} {w w' : World} {db db' : ReservedDb}

/-! ## The departure a request names -/

/-- The departure a request names, by the catalogue and the clock of a world. -/
structure World.Resolves (d : Deployment) (w : World) (input : OrderInput) (resolved : Resolved) :
    Prop where
  /-- its item is sold on its date -/
  sold : ∃ item, selectedItem d input = .ok item ∧ item.travelDate = resolved.travelDate ∧
    serviceOf item (w.source.service item.serviceId) = .ok resolved.service
  /-- it departs then -/
  departs : stopInstantMilliseconds resolved.travelDate resolved.service.departureMinute 0 =
    .ok resolved.departureAt
  /-- the window is open -/
  window : assertWindowOpen d resolved.departureAt w.clock = .ok ()
  /-- its seat map -/
  seatMap : w.source.seatMap resolved.service.seatMapId = some resolved.seatMap
  /-- its fares -/
  fareTable : w.source.fareTable resolved.service.fareTableId = some resolved.fareTable

theorem World.Resolves.unique {input : OrderInput} {resolved resolved' : Resolved}
    (h : w.Resolves d input resolved) (h' : w.Resolves d input resolved') :
    resolved = resolved' := by
  obtain ⟨item, hitem, hdate, hservice⟩ := h.sold
  obtain ⟨item', hitem', hdate', hservice'⟩ := h'.sold
  obtain rfl := Except.ok.inj (hitem.symm.trans hitem')
  have hsameService := Except.ok.inj (hservice.symm.trans hservice')
  have hsameDate := hdate.symm.trans hdate'
  have hdeparts := h.departs
  rw [hsameService, hsameDate, h'.departs] at hdeparts
  have hmap := h.seatMap
  rw [hsameService, h'.seatMap] at hmap
  have hfares := h.fareTable
  rw [hsameService, h'.fareTable] at hfares
  obtain ⟨service, seatMap, fareTable, travelDate, departureAt⟩ := resolved
  obtain ⟨service', seatMap', fareTable', travelDate', departureAt'⟩ := resolved'
  rw [Resolved.mk.injEq]
  exact ⟨hsameService, (Option.some.inj hmap).symm, (Option.some.inj hfares).symm, hsameDate,
    (Except.ok.inj hdeparts).symm⟩

/-- Resolving a request finds that departure, or there is none. -/
theorem resolveSelection_carries (input : OrderInput) :
    Handler.Carries (World.still d process raw)
      (fun resolved w' => w' = w ∧ w.Resolves d input resolved)
      (fun _ w' => w' = w ∧ ∀ resolved, ¬ w.Resolves d input resolved)
      (resolveSelection d input) w := by
  rw [resolveSelection]
  refine Handler.carries_lift_bind (fun item hitem => ?_) fun e he => ⟨rfl, fun resolved h => ?_⟩
  swap
  · obtain ⟨item, hitem, -⟩ := h.sold
    cases he.symm.trans hitem
  refine Handler.carries_bind (carries_read (.service item.serviceId)
    (fun w => .ok (w.source.service item.serviceId)) (fun _ => rfl) ?_)
  rw [ends_ok]
  refine Handler.carries_lift_bind (fun service hservice => ?_) fun e he =>
    ⟨rfl, fun resolved h => ?_⟩
  swap
  · obtain ⟨item', hitem', -, hservice⟩ := h.sold
    obtain rfl := Except.ok.inj (hitem.symm.trans hitem')
    cases he.symm.trans hservice
  have hservices : ∀ {resolved}, w.Resolves d input resolved →
      resolved.service = service ∧ resolved.travelDate = item.travelDate := by
    intro resolved h
    obtain ⟨item', hitem', hdate, hservice'⟩ := h.sold
    obtain rfl := Except.ok.inj (hitem.symm.trans hitem')
    exact ⟨Except.ok.inj (hservice'.symm.trans hservice), hdate.symm⟩
  refine Handler.carries_lift_bind (fun departureAt hdeparts => ?_) fun e he =>
    ⟨rfl, fun resolved h => ?_⟩
  swap
  · have hdeparts := h.departs
    rw [(hservices h).1, (hservices h).2, he] at hdeparts
    cases hdeparts
  refine Handler.carries_bind (carries_now ?_)
  refine Handler.carries_lift_bind (fun u hwindow => ?_) fun e he => ⟨rfl, fun resolved h => ?_⟩
  swap
  · have hdeparts' := h.departs
    rw [(hservices h).1, (hservices h).2, hdeparts] at hdeparts'
    have hwindow := h.window
    rw [← Except.ok.inj hdeparts', he] at hwindow
    cases hwindow
  refine Handler.carries_bind ?_
  rw [seatMapFor]
  refine Handler.carries_bind (carries_read (.seatMap service.seatMapId)
    (fun w => .ok (w.source.seatMap service.seatMapId)) (fun _ => rfl) ?_)
  rw [ends_ok]
  cases hmap : w.source.seatMap service.seatMapId with
  | none =>
    refine Handler.carries_throw ⟨rfl, fun resolved h => ?_⟩
    have hmap' := h.seatMap
    rw [(hservices h).1, hmap] at hmap'
    cases hmap'
  | some seatMap =>
    refine Handler.carries_pure (Handler.carries_bind ?_)
    rw [fareTableFor]
    refine Handler.carries_bind
      (carries_read (.fareTable service.fareTableId)
        (fun w => .ok (w.source.fareTable service.fareTableId)) (fun _ => rfl) ?_)
    rw [ends_ok]
    cases hfares : w.source.fareTable service.fareTableId with
    | none =>
      refine Handler.carries_throw ⟨rfl, fun resolved h => ?_⟩
      have hfares' := h.fareTable
      rw [(hservices h).1, hfares] at hfares'
      cases hfares'
    | some fareTable =>
      exact Handler.carries_pure (Handler.carries_pure
        ⟨rfl, ⟨item, hitem, rfl, hservice⟩, hdeparts, hwindow, hmap, hfares⟩)

/-! ## Taking a hold, or not -/

/-- A request takes a new hold, under this id. -/
structure AcquireHold.Takes (params : AcquireHold) (raw : String) (db : ReservedDb)
    (holdId : String) : Prop where
  /-- the transaction does not hold exactly these seats already -/
  other : ∀ hold, params.liveHold db = some hold → ¬ params.Wants hold
  /-- nobody is in its way -/
  free : ∀ row ∈ db.seatLocks.rows, ¬ params.Blocks db row
  /-- the id generator gave the id -/
  id : shortId "HLD-KSRTC" raw = .ok holdId
  /-- and not before -/
  fresh : ∀ row ∈ db.seatLocks.rows, row.holdId ≠ some holdId

variable {params : AcquireHold}

/-- Without a new id nothing is inserted. -/
theorem insertHold_stops (h : ∀ holdId, shortId "HLD-KSRTC" raw = .ok holdId →
    ∃ row ∈ db.seatLocks.rows, row.holdId = some holdId) :
    ∃ e, params.insertHold raw db = .error e := by
  cases hid : shortId "HLD-KSRTC" raw with
  | error e =>
    refine ⟨e, ?_⟩
    rw [AcquireHold.insertHold, hid]
    rfl
  | ok holdId =>
    obtain ⟨row, hrow, hrowId⟩ := h holdId hid
    have hfound : (db.findHoldById holdId).isSome = true := by
      have hmem : row ∈ (db.seatLocks.rows.filter fun r => r.holdId = some holdId).insertionSort
          fun a b => a.seatId ≤ b.seatId :=
        (List.mem_insertionSort _).mpr (List.mem_filter.mpr ⟨hrow, decide_eq_true hrowId⟩)
      rw [ReservedDb.findHoldById, Option.isSome_map, List.isSome_head?]
      exact List.ne_nil_of_mem hmem
    rw [AcquireHold.insertHold, Txn.bind_of_ok (Txn.lift_ok.mpr ⟨hid, rfl⟩), Txn.bind_of_ok rfl,
      if_pos hfound]
    exact ⟨_, rfl⟩

/-- A request is answered with the hold there is, with a new one, or not at all. -/
theorem acquireHold_cases (h : Stored db) (params : AcquireHold) (hseats : params.seatIds ≠ [])
    (raw : String) :
    (∃ hold db', acquireHold params raw db = .ok (hold, db') ∧
      LocksOnly db db' (expireIf (isLapsed params.serviceId params.travelDate params.nowMs)) ∧
        ∀ holdId, ¬ params.Takes raw db holdId) ∨
    (∃ holdId db', acquireHold params raw db = .ok (params.newHold holdId, db') ∧
      params.Replaced db db' holdId ∧ params.Takes raw db holdId) ∨
    ∃ e, acquireHold params raw db = .error e ∧ ∀ holdId, ¬ params.Takes raw db holdId := by
  by_cases hwants : ∃ hold, params.liveHold db = some hold ∧ params.Wants hold
  · obtain ⟨hold, hlive, hwants⟩ := hwants
    obtain ⟨db', hok, hlocks⟩ := h.kept.reuses raw hlive hwants
    exact .inl ⟨hold, db', hok, hlocks, fun holdId htakes => htakes.other hold hlive hwants⟩
  have hother : ∀ hold, params.liveHold db = some hold → ¬ params.Wants hold :=
    fun hold hlive hw => hwants ⟨hold, hlive, hw⟩
  refine .inr ?_
  by_cases hnew : ∃ holdId, shortId "HLD-KSRTC" raw = .ok holdId ∧
      ∀ row ∈ db.seatLocks.rows, row.holdId ≠ some holdId
  · obtain ⟨holdId, hid, hfresh⟩ := hnew
    obtain ⟨hiff, hok, herr⟩ := (acquireHold_spec h params raw hseats hid hfresh).2 hother
    cases hrun : acquireHold params raw db with
    | ok p =>
      obtain ⟨hold, db'⟩ := p
      obtain ⟨rfl, hreplaced⟩ := hok hold db' hrun
      exact .inl ⟨holdId, db', rfl, hreplaced, hother, hiff.mp ⟨_, hrun⟩, hid, hfresh⟩
    | error e =>
      refine .inr ⟨e, rfl, fun holdId' htakes => ?_⟩
      obtain ⟨answer, hans⟩ := hiff.mpr htakes.free
      cases hrun.symm.trans hans
  · refine .inr ?_
    obtain ⟨released, hreleased, hbody⟩ := h.kept.body_eq raw hother
    have hold : ∀ holdId, shortId "HLD-KSRTC" raw = .ok holdId →
        ∃ row ∈ released.seatLocks.rows, row.holdId = some holdId := by
      intro holdId hid
      by_contra hnone
      refine hnew ⟨holdId, hid, fun row hrow hrowId => hnone ⟨params.vacate db row, ?_, ?_⟩⟩
      · rw [hreleased.locks]
        exact List.mem_map_of_mem hrow
      · rw [(params.vacate_same db row).holdId]
        exact hrowId
    have hstops : ∃ e, params.body raw db = .error e := by
      rw [hbody]
      split
      · rcases assertAvailable_cases params released with hok | ⟨refusal, herr, -⟩
        · rw [Txn.bind_of_ok hok]
          exact insertHold_stops hold
        · change ∃ e, (params.assertAvailable released >>= _) = _
          rw [herr]
          exact ⟨_, rfl⟩
      · exact insertHold_stops hold
    obtain ⟨e, he⟩ := hstops
    have herror : ∃ e, acquireHold params raw db = .error e := by
      rw [acquireHold, he]
      split
      · exact ⟨_, rfl⟩
      · exact ⟨_, rfl⟩
    obtain ⟨e', he'⟩ := herror
    exact ⟨e', he', fun holdId htakes => hnew ⟨holdId, htakes.id, htakes.fresh⟩⟩

/-! ## Rows that hold a seat -/

/-- The row holds a seat at an instant. -/
def LockRow.isHeldAt (nowMs : ℤ) (row : LockRow) : Bool :=
  row.state = .held && row.expiresAt.any fun at_ => nowMs < at_

/-- The rows that hold a seat at an instant, of every transaction. -/
def ReservedDb.heldAt (db : ReservedDb) (nowMs : ℤ) : List LockRow :=
  db.seatLocks.rows.filter (LockRow.isHeldAt nowMs)

/-- The rows that hold a seat are the ones that did. -/
def KeepsHolds (nowMs : ℤ) (db db' : ReservedDb) : Prop :=
  ∀ row, row ∈ db'.heldAt nowMs ↔ row ∈ db.heldAt nowMs

/-- The lapsed holds of a departure have been swept, and nothing else has happened. -/
structure Swept (serviceId travelDate : String) (w w' : World) : Prop where
  /-- no time has passed -/
  clock : w'.clock = w.clock
  /-- the lapsed rows are expired -/
  rows : LocksOnly w.db w'.db (expireIf (isLapsed serviceId travelDate w.clock))
  /-- by transactions of the store -/
  stored : Stored w.db → Stored w'.db

variable {serviceId travelDate : String} {w₁ w₂ : World}

theorem isLapsed_expireIf {nowMs : ℤ} (row : LockRow) :
    isLapsed serviceId travelDate nowMs (expireIf (isLapsed serviceId travelDate nowMs) row) =
      false := by
  by_cases h : isLapsed serviceId travelDate nowMs row = true
  · rw [expireIf, setIf, if_pos h]
    rfl
  · rw [Bool.not_eq_true] at h
    rw [expireIf_of_not h, h]

theorem Swept.trans (h : Swept serviceId travelDate w w₁) (h' : Swept serviceId travelDate w₁ w₂) :
    Swept serviceId travelDate w w₂ := by
  refine ⟨h'.clock.trans h.clock, ⟨?_, ?_, ?_, ?_⟩, h'.stored ∘ h.stored⟩
  · rw [h'.rows.locks, h.rows.locks, List.map_map, h.clock]
    exact List.map_congr_left fun row _ => expireIf_of_not (isLapsed_expireIf row)
  · exact h'.rows.bookings.trans h.rows.bookings
  · exact h'.rows.seats.trans h.rows.seats
  · exact h'.rows.quotes.trans h.rows.quotes

/-- A row that holds a seat now does not lapse now. -/
theorem expireIf_of_held {nowMs : ℤ} {row : LockRow} (h : row.isHeldAt nowMs = true) :
    expireIf (isLapsed serviceId travelDate nowMs) row = row := by
  refine expireIf_of_not ?_
  rw [LockRow.isHeldAt, Bool.and_eq_true] at h
  obtain ⟨at_, hat, hlt⟩ := (Option.any_eq_true _ _).mp h.2
  have hnot : ¬ at_ ≤ nowMs := by
    have := of_decide_eq_true hlt
    omega
  rw [isLapsed, hat]
  simp [hnot]

theorem LocksOnly.heldAt {nowMs : ℤ}
    (h : LocksOnly db db' (expireIf (isLapsed serviceId travelDate nowMs))) :
    db'.heldAt nowMs = db.heldAt nowMs := by
  have hsame : LockRow.isHeldAt nowMs ∘ expireIf (isLapsed serviceId travelDate nowMs) =
      LockRow.isHeldAt nowMs := by
    funext row
    rw [Function.comp_apply]
    by_cases hlapsed : isLapsed serviceId travelDate nowMs row = true
    · have hnot : row.isHeldAt nowMs = false := by
        rw [Bool.eq_false_iff]
        intro hheld
        have hstays := @expireIf_of_held serviceId travelDate nowMs row hheld
        have hgone := @isLapsed_expireIf serviceId travelDate nowMs row
        rw [hstays, hlapsed] at hgone
        cases hgone
      rw [hnot, expireIf, setIf, if_pos hlapsed]
      rfl
    · rw [expireIf_of_not (by simpa using hlapsed)]
  rw [ReservedDb.heldAt, h.locks, List.filter_map, hsame, ReservedDb.heldAt]
  refine (List.map_congr_left fun row hrow => ?_).trans (List.map_id _)
  exact expireIf_of_held (List.mem_filter.mp hrow).2

theorem LocksOnly.keeps {nowMs : ℤ}
    (h : LocksOnly db db' (expireIf (isLapsed serviceId travelDate nowMs))) :
    KeepsHolds nowMs db db' := by
  intro row
  rw [h.heldAt]

theorem Swept.keeps (h : Swept serviceId travelDate w w') : KeepsHolds w.clock w.db w'.db :=
  h.rows.keeps

theorem KeepsHolds.trans {nowMs : ℤ} {db'' : ReservedDb} (h : KeepsHolds nowMs db db')
    (h' : KeepsHolds nowMs db' db'') : KeepsHolds nowMs db db'' :=
  fun row => (h' row).trans (h row)

theorem KeepsHolds.symm {nowMs : ℤ} (h : KeepsHolds nowMs db db') : KeepsHolds nowMs db' db :=
  fun row => (h row).symm

/-- Whether a request takes a new hold is not changed by the sweep. -/
theorem AcquireHold.takes_swept (h : Stored db) {holdId : String}
    (hswept : LocksOnly db db' (expireIf
      (isLapsed params.serviceId params.travelDate params.nowMs))) :
    params.Takes raw db' holdId ↔ params.Takes raw db holdId := by
  have hlive : params.liveHold db' = params.liveHold db := liveHold_sweep h.kept.together hswept
  have hblocks : ∀ row, params.Blocks db'
      (expireIf (isLapsed params.serviceId params.travelDate params.nowMs) row) ↔
        params.Blocks db row := by
    intro row
    by_cases hlapsed : isLapsed params.serviceId params.travelDate params.nowMs row = true
    · have hexpired : (expireIf (isLapsed params.serviceId params.travelDate params.nowMs)
          row).state = .expired := by
        rw [expireIf, setIf, if_pos hlapsed]
      refine iff_of_false (fun hb => ?_) fun hb => ?_
      · rcases hb.live with hbooked | ⟨hheld, -⟩
        · rw [hexpired] at hbooked
          cases hbooked
        · rw [hexpired] at hheld
          cases hheld
      · rcases hb.live with hbooked | ⟨-, ⟨at_, hat, hlt⟩, -⟩
        · simp [isLapsed, hbooked] at hlapsed
        · have hnot : ¬ at_ ≤ params.nowMs := by omega
          simp [isLapsed, hat, hnot] at hlapsed
    · rw [expireIf_of_not (by simpa using hlapsed)]
      constructor <;> rintro ⟨hservice, hdate, hseat, hclaim⟩ <;>
        exact ⟨hservice, hdate, hseat, by simpa only [hlive] using hclaim⟩
  have hid : ∀ row : LockRow, (expireIf
      (isLapsed params.serviceId params.travelDate params.nowMs) row).holdId = row.holdId := by
    intro row
    rw [expireIf, setIf]
    split <;> rfl
  have hrows : ∀ p : LockRow → Prop, (∀ row ∈ db'.seatLocks.rows, p row) ↔
      ∀ row ∈ db.seatLocks.rows, p (expireIf (isLapsed params.serviceId params.travelDate params.nowMs) row) := by
    intro p
    rw [hswept.locks, List.forall_mem_map]
  constructor
  · rintro ⟨hother, hfree, hnew, hfresh⟩
    rw [hlive] at hother
    refine ⟨hother, fun row hrow hb => ?_, hnew, fun row hrow => ?_⟩
    · exact (hrows _).mp hfree row hrow ((hblocks row).mpr hb)
    · have hrowId := (hrows _).mp hfresh row hrow
      rwa [hid] at hrowId
  · rintro ⟨hother, hfree, hnew, hfresh⟩
    refine ⟨by rwa [hlive], (hrows _).mpr fun row hrow hb => ?_, hnew,
      (hrows _).mpr fun row hrow => ?_⟩
    · exact hfree row hrow ((hblocks row).mp hb)
    · rw [hid]
      exact hfresh row hrow

/-- A new hold holds a seat that was not held under its id. -/
theorem AcquireHold.Replaced.holds {holdId : String} (h : params.Replaced db db' holdId)
    (hseats : params.seatIds ≠ []) (httl : 0 < params.ttlSeconds) :
    ∃ row ∈ db'.heldAt params.nowMs, row.holdId = some holdId := by
  obtain ⟨new, hrows, -, hnewSeats, hnew⟩ := h.locks
  obtain ⟨seatId, hseat⟩ := List.exists_mem_of_ne_nil _ hseats
  obtain ⟨row, hrow, -⟩ := List.mem_map.mp ((hnewSeats seatId).mpr hseat)
  have hlater : params.nowMs < params.nowMs + params.ttlSeconds * 1000 := by omega
  refine ⟨row, List.mem_filter.mpr ⟨?_, ?_⟩, ?_⟩
  · rw [hrows]
    exact List.mem_append_right _ hrow
  · rw [hnew row hrow, LockRow.isHeldAt]
    simpa using hlater
  · rw [hnew row hrow]

/-! ## The steps of a select -/

/-- A snapshot sweeps its departure, and reads it. -/
theorem snapshot_carries (service : ReservedService) (seatMap : SeatMap)
    (viewer : ReservedIdentity) :
    Handler.Carries (World.still d process raw)
      (fun snap w' => Swept service.serviceId travelDate w w' ∧ seededOccupancy d.collation service
        seatMap travelDate d.reservation.occupancySeed = .ok snap.seeded)
      (fun _ w' => Swept service.serviceId travelDate w w' ∧ ∀ seeded, seededOccupancy d.collation
        service seatMap travelDate d.reservation.occupancySeed ≠ .ok seeded)
      (snapshot d service seatMap travelDate viewer) w := by
  rw [snapshot]
  refine Handler.carries_bind (carries_now (Handler.carries_bind (carries_transact ?_ ?_)))
  swap
  · intro e he
    obtain ⟨n, db', hgoes⟩ := sweepExpiredHolds_goes service.serviceId travelDate w.clock w.db
    cases he.symm.trans hgoes
  intro n db' hsweep
  have hswept : Swept service.serviceId travelDate w { w with db := db' } := by
    refine ⟨rfl, sweepExpiredHolds_ok hsweep, fun hstored => ?_⟩
    have hleave := hstored.step (.sweepExpiredHolds service.serviceId travelDate w.clock) raw
    rwa [Transaction.leave, hsweep] at hleave
  refine Handler.carries_bind (carries_read (.liveClaims service.serviceId travelDate)
    (fun w => .ok (w.db.liveClaims service.serviceId travelDate)) (fun _ => rfl) ?_)
  rw [ends_ok]
  refine Handler.carries_lift (fun snap hsnap => ⟨hswept, ?_⟩) fun e he =>
    ⟨hswept, fun seeded hseeded => ?_⟩
  · obtain ⟨seeded, hseeded, hsnap⟩ := Except.bind_ok.mp hsnap
    obtain rfl := Except.ok.inj hsnap
    exact hseeded
  · rw [snapshotFromClaims, hseeded] at he
    cases he

/-- The hold a select asks for. -/
def holdRequest (d : Deployment) (resolved : Resolved) (identity : ReservedIdentity)
    (seatIds : List String) (nowMs : ℤ) : AcquireHold where
  operator := d.operatorKey
  identity := identity
  serviceId := resolved.service.serviceId
  travelDate := resolved.travelDate
  seatIds := seatIds
  nowMs := nowMs
  ttlSeconds := d.reservation.holdTtlSeconds
  skipAvailabilityCheckForTest := false

/-- A select comes to take a new hold of the seats it names, under this id. -/
structure HoldsSeats (d : Deployment) (resolved : Resolved) (identity : ReservedIdentity)
    (seatIds : List String) (raw : String) (w : World) (holdId : String) : Prop where
  /-- they are on the map -/
  onMap : assertSeatsOnMap resolved.seatMap seatIds = .ok ()
  /-- the simulation sold none of them -/
  unsold : ∃ seeded, seededOccupancy d.collation resolved.service resolved.seatMap
    resolved.travelDate d.reservation.occupancySeed = .ok seeded ∧
      ∀ seatId ∈ seatIds, mapGet seeded seatId = none
  /-- and the store gives them -/
  takes : (holdRequest d resolved identity seatIds w.clock).Takes raw w.db holdId

/-- The request for seats took a new hold, which is answered, or changed no hold. -/
def HeldOrKept (d : Deployment) (resolved : Resolved) (identity : ReservedIdentity)
    (seatIds : List String) (raw : String) (w : World) (hold : HoldRecord) (w' : World) : Prop :=
  (KeepsHolds w.clock w.db w'.db ∧
    ∀ holdId, ¬ HoldsSeats d resolved identity seatIds raw w holdId) ∨
  ∃ holdId, HoldsSeats d resolved identity seatIds raw w holdId ∧
    hold = (holdRequest d resolved identity seatIds w.clock).newHold holdId ∧
      ¬ KeepsHolds w.clock w.db w'.db

theorem takeHold_carries (hstored : Stored w.db) {resolved : Resolved} {identity : ReservedIdentity}
    {seatIds : List String} (hseats : seatIds ≠ []) :
    Handler.Carries (World.still d process raw)
      (fun hold w' => w'.clock = w.clock ∧ ((KeepsHolds w.clock w.db w'.db ∧ ∀ holdId,
          ¬ (holdRequest d resolved identity seatIds w.clock).Takes raw w.db holdId) ∨
        ∃ holdId, (holdRequest d resolved identity seatIds w.clock).Takes raw w.db holdId ∧
          hold = (holdRequest d resolved identity seatIds w.clock).newHold holdId ∧
            ¬ KeepsHolds w.clock w.db w'.db))
      (fun _ w' => KeepsHolds w.clock w.db w'.db ∧ ∀ holdId,
        ¬ (holdRequest d resolved identity seatIds w.clock).Takes raw w.db holdId)
      (takeHold d resolved identity seatIds w.clock) w := by
  have hkept : KeepsHolds w.clock w.db w.db := fun _ => Iff.rfl
  have hcases := acquireHold_cases hstored (holdRequest d resolved identity seatIds w.clock) hseats
    raw
  have httl : 0 < d.reservation.holdTtlSeconds := by
    have hrange := d.reservation.ttl_range
    omega
  refine Handler.carries_tryCatch (carries_transact
    (a := .acquireHold (holdRequest d resolved identity seatIds w.clock)) ?_ ?_)
  · intro hold db' hok
    rcases hcases with ⟨hold', db'', hok', hlocks, hnone⟩ |
      ⟨holdId, db'', hok', hreplaced, htakes⟩ | ⟨e, herr, -⟩
    · obtain ⟨rfl, rfl⟩ := Prod.mk.inj (Except.ok.inj (hok.symm.trans hok'))
      exact ⟨rfl, .inl ⟨hlocks.keeps, hnone⟩⟩
    · obtain ⟨rfl, rfl⟩ := Prod.mk.inj (Except.ok.inj (hok.symm.trans hok'))
      refine ⟨rfl, .inr ⟨holdId, htakes, rfl, fun hkeeps => ?_⟩⟩
      obtain ⟨row, hrow, hid⟩ := hreplaced.holds hseats httl
      exact htakes.fresh row (List.mem_filter.mp ((hkeeps row).mp hrow)).1 hid
    · cases hok.symm.trans herr
  · intro e he
    have hnone : ∀ holdId,
        ¬ (holdRequest d resolved identity seatIds w.clock).Takes raw w.db holdId := by
      rcases hcases with ⟨hold', db'', hok', -⟩ |
        ⟨holdId, db'', hok', -⟩ | ⟨e', -, hnone⟩
      · cases he.symm.trans hok'
      · cases he.symm.trans hok'
      · exact hnone
    split
    · split
      · refine Handler.carries_bind ((snapshot_carries _ _ _).mono (fun after w' hswept => ?_)
          fun e w' hswept => ?_)
        · exact Handler.carries_throw ⟨hswept.1.keeps, hnone⟩
        · exact ⟨hswept.1.keeps, hnone⟩
      · exact Handler.carries_throw ⟨hkept, hnone⟩
    · exact Handler.carries_throw ⟨hkept, hnone⟩

/-- Refusing simulated seats is refusing those of the snapshot. -/
theorem assertNotSimulated_iff {resolved : Resolved} {snapshot : Snapshot} {seatIds : List String} :
    assertNotSimulated resolved snapshot seatIds = .ok () ↔
      ∀ seatId ∈ seatIds, mapGet snapshot.seeded seatId = none := by
  have hnil : (seatIds.filter fun seatId => (mapGet snapshot.seeded seatId).isSome) = [] ↔
      ∀ seatId ∈ seatIds, mapGet snapshot.seeded seatId = none := by
    simp [List.filter_eq_nil_iff]
  rw [← hnil, assertNotSimulated]
  split
  · rename_i hsome
    exact iff_of_false (fun h => by cases h) hsome
  · rename_i hnone
    exact iff_of_true rfl (not_not.mp hnone)

theorem holdSeats_carries (hstored : Stored w.db) {resolved : Resolved}
    {identity : ReservedIdentity} {seatIds : List String} (hseats : seatIds ≠ []) :
    Handler.Carries (World.still d process raw)
      (fun hold w' => w'.clock = w.clock ∧
        HeldOrKept d resolved identity seatIds raw w hold w')
      (fun _ w' => KeepsHolds w.clock w.db w'.db ∧
        ∀ holdId, ¬ HoldsSeats d resolved identity seatIds raw w holdId)
      (holdSeats d resolved identity seatIds) w := by
  rw [holdSeats]
  refine Handler.carries_lift_bind (fun u honMap => ?_) fun e he =>
    ⟨fun _ => Iff.rfl, fun holdId h => ?_⟩
  swap
  · cases he.symm.trans h.onMap
  refine Handler.carries_bind (carries_now (Handler.carries_bind
    ((snapshot_carries _ _ _).mono ?_ ?_)))
  swap
  · rintro e w₁ ⟨hswept, hnone⟩
    refine ⟨hswept.keeps, fun holdId h => ?_⟩
    obtain ⟨seeded, hseeded, -⟩ := h.unsold
    exact hnone seeded hseeded
  rintro before w₁ ⟨hswept, hseeded⟩
  refine Handler.carries_lift_bind (fun u hunsold => ?_) fun e he =>
    ⟨hswept.keeps, fun holdId h => ?_⟩
  swap
  · obtain ⟨seeded, hseeded', hunsold⟩ := h.unsold
    obtain rfl := Except.ok.inj (hseeded.symm.trans hseeded')
    cases he.symm.trans (assertNotSimulated_iff.mpr hunsold)
  have htakes : ∀ holdId, (holdRequest d resolved identity seatIds w.clock).Takes raw w₁.db holdId ↔
      HoldsSeats d resolved identity seatIds raw w holdId := by
    intro holdId
    rw [AcquireHold.takes_swept hstored hswept.rows]
    exact ⟨fun h => ⟨honMap, ⟨_, hseeded, assertNotSimulated_iff.mp hunsold⟩, h⟩, fun h => h.takes⟩
  rw [← hswept.clock]
  refine (takeHold_carries (hswept.stored hstored) hseats).mono ?_ ?_
  · rintro hold w₂ ⟨hclock, hcases⟩
    rw [hswept.clock] at hclock hcases ⊢
    refine ⟨hclock, ?_⟩
    rcases hcases with ⟨hkeeps, hnone⟩ | ⟨holdId, htaken, rfl, hmoved⟩
    · exact .inl ⟨hswept.keeps.trans hkeeps, fun holdId h => hnone holdId ((htakes holdId).mpr h)⟩
    · refine .inr ⟨holdId, (htakes holdId).mp htaken, rfl, fun hkeeps => hmoved ?_⟩
      exact hswept.keeps.symm.trans hkeeps
  · rintro e w₂ ⟨hkeeps, hnone⟩
    rw [hswept.clock] at hkeeps hnone ⊢
    exact ⟨hswept.keeps.trans hkeeps, fun holdId h => hnone holdId ((htakes holdId).mpr h)⟩

/-! ## Writing the order -/

/-- An instant is in the range of a `Date`, as it is shown in India. -/
def WithinDate (ms : ℤ) : Prop :=
  -8640000000000000 ≤ ms + indiaOffsetMilliseconds ∧
    ms + indiaOffsetMilliseconds ≤ 8640000000000000

/-- The instants at these offsets are in that range. -/
def StopsWithin (service : ReservedService) (travelDate : String) (offsets : List ℤ) : Prop :=
  ∀ offset ∈ offsets, ∀ ms,
    stopInstantMilliseconds travelDate service.departureMinute offset = .ok ms → WithinDate ms

/-- What can be written as the order of a select: the concession it claims has a rate, its amounts
are safe integers, and its instants are in range. -/
structure Printable (input : BuildOrder) : Prop where
  /-- the concession and the amounts -/
  amounts : ∃ discount, input.discountPaise = .ok discount ∧ Whole input.basePaise ∧
    discount ≤ maxSafe ∧ Whole input.feePaise ∧ Whole input.tollPaise ∧
      Whole (input.basePaise - discount + input.feePaise + input.tollPaise)
  /-- the fare of one seat -/
  fare : Whole input.farePaise
  /-- the departure and the two stops -/
  stops : ∃ boarding dropping,
    stopFor input.resolved.service input.pair.fromBoardingPointId = some boarding ∧
      stopFor input.resolved.service input.pair.toBoardingPointId = some dropping ∧
        StopsWithin input.resolved.service input.resolved.travelDate
          [0, boarding.reportingOffsetMinutes, dropping.reportingOffsetMinutes]
  /-- the expiry of the hold -/
  expiry : ∀ hold ∈ input.hold, WithinDate hold.expiresAt

theorem quote_isOk {input : BuildOrder} : (∃ quote, input.quote = .ok quote) ↔
    ∃ discount, input.discountPaise = .ok discount ∧ Whole input.basePaise ∧
      discount ≤ maxSafe ∧ Whole input.feePaise ∧ Whole input.tollPaise ∧
        Whole (input.basePaise - discount + input.feePaise + input.tollPaise) := by
  constructor
  · rintro ⟨quote, h⟩
    obtain ⟨discount, hdiscount, h⟩ := Except.bind_ok.mp h
    obtain ⟨base, hbase, h⟩ := Except.bind_ok.mp h
    obtain ⟨concession, hconcession, h⟩ := Except.bind_ok.mp h
    obtain ⟨fee, hfee, h⟩ := Except.bind_ok.mp h
    obtain ⟨toll, htoll, h⟩ := Except.bind_ok.mp h
    obtain ⟨total, htotal, -⟩ := Except.bind_ok.mp h
    have hwhole := price_isOk.mp ⟨base, hbase⟩
    have hpos := discount_nonneg hwhole.1 hdiscount
    exact ⟨discount, hdiscount, hwhole, (concessionLines_isOk hpos).mp ⟨_, hconcession⟩,
      price_isOk.mp ⟨fee, hfee⟩, price_isOk.mp ⟨toll, htoll⟩, price_isOk.mp ⟨total, htotal⟩⟩
  · rintro ⟨discount, hdiscount, hbase, hconcession, hfee, htoll, htotal⟩
    have hpos := discount_nonneg hbase.1 hdiscount
    obtain ⟨quote, hquote, -⟩ := (quote_right_iff hpos hbase.1 hfee.1 htoll.1 hdiscount).mpr
      ⟨hbase.2, hconcession, hfee.2, htoll.2, htotal⟩
    exact ⟨quote, hquote⟩

theorem stopInstant_isOk {service : ReservedService} (hdate : (calendarDate travelDate).isSome)
    (offset : ℤ) : (∃ text, stopInstant travelDate service.departureMinute offset = .ok text) ↔
      StopsWithin service travelDate [offset] := by
  obtain ⟨ms, hms⟩ := stopInstantMilliseconds_isOk hdate service.departureMinute offset
  constructor
  · rintro ⟨text, htext⟩ other hother ms' hms'
    obtain rfl := List.mem_singleton.mp hother
    obtain ⟨ms₀, hms₀, hwritten⟩ := Except.bind_ok.mp htext
    obtain rfl := Except.ok.inj (hms₀.symm.trans hms')
    exact istIsoInstant_isOk.mp ⟨text, hwritten⟩
  · intro hfit
    obtain ⟨text, htext⟩ := istIsoInstant_isOk.mpr (hfit offset (List.mem_singleton_self _) ms hms)
    exact ⟨text, Except.bind_ok.mpr ⟨ms, hms, htext⟩⟩

theorem stopsWithin_cons {service : ReservedService} {offset : ℤ} {offsets : List ℤ} :
    StopsWithin service travelDate (offset :: offsets) ↔
      StopsWithin service travelDate [offset] ∧ StopsWithin service travelDate offsets := by
  simp only [StopsWithin, List.forall_mem_cons, List.not_mem_nil, false_implies, implies_true,
    and_true]

theorem stopAt_isOk {service : ReservedService} (hdate : (calendarDate travelDate).isSome)
    {id : String} {parent : Option String} {type : StopType} {point : BoardingPoint}
    {roles : List String} :
    (∃ stop, stopAt service travelDate id parent type point roles = .ok stop) ↔
      StopsWithin service travelDate [point.reportingOffsetMinutes] := by
  rw [← stopInstant_isOk hdate]
  constructor
  · rintro ⟨stop, hstop⟩
    obtain ⟨text, htext, -⟩ := Except.bind_ok.mp hstop
    exact ⟨text, htext⟩
  · rintro ⟨text, htext⟩
    exact ⟨_, Except.bind_ok.mpr ⟨text, htext, rfl⟩⟩

theorem reservedItemId_isOk {serviceId serviceClass : String}
    (hdate : (calendarDate travelDate).isSome) :
    ∃ itemId, reservedItemId serviceId travelDate serviceClass = .ok itemId := by
  rw [reservedItemId, if_pos hdate]
  exact ⟨_, rfl⟩

theorem reservedItem_isOk {service : ReservedService} (hdate : (calendarDate travelDate).isSome)
    {pricePaise : ℤ} {pair : BoardingPair} {sourcing : SourcingLabel} {available : Option ℕ}
    {selected : Option ℤ} :
    (∃ item, reservedItem service travelDate pricePaise pair sourcing available selected =
      .ok item) ↔ Whole pricePaise ∧ StopsWithin service travelDate [0] := by
  rw [← stopInstant_isOk hdate]
  constructor
  · rintro ⟨item, hitem⟩
    obtain ⟨itemId, -, hitem⟩ := Except.bind_ok.mp hitem
    obtain ⟨shown, hshown, hitem⟩ := Except.bind_ok.mp hitem
    obtain ⟨departure, hdeparture, -⟩ := Except.bind_ok.mp hitem
    exact ⟨price_isOk.mp ⟨shown, hshown⟩, departure, hdeparture⟩
  · rintro ⟨hprice, departure, hdeparture⟩
    obtain ⟨shown, hshown⟩ := price_isOk.mpr hprice
    obtain ⟨itemId, hid⟩ := @reservedItemId_isOk travelDate service.serviceId
      service.serviceClass.wire hdate
    exact ⟨_, Except.bind_ok.mpr ⟨itemId, hid, Except.bind_ok.mpr ⟨shown, hshown,
      Except.bind_ok.mpr ⟨departure, hdeparture, rfl⟩⟩⟩⟩

theorem orderFulfillment_isOk {service : ReservedService}
    (hdate : (calendarDate travelDate).isSome) {pair : BoardingPair} {tags : List Tag} :
    (∃ f, orderFulfillment service travelDate pair tags = .ok f) ↔ ∃ boarding dropping,
      stopFor service pair.fromBoardingPointId = some boarding ∧
        stopFor service pair.toBoardingPointId = some dropping ∧
          StopsWithin service travelDate
            [boarding.reportingOffsetMinutes, dropping.reportingOffsetMinutes] := by
  obtain ⟨itemId, hid⟩ := @reservedItemId_isOk travelDate service.serviceId
    service.serviceClass.wire hdate
  cases hboarding : stopFor service pair.fromBoardingPointId with
  | none =>
    refine iff_of_false ?_ ?_
    · rintro ⟨f, hf⟩
      rw [stopFor] at hboarding
      simp only [orderFulfillment, hid, hboarding] at hf
      cases hf
    · rintro ⟨boarding, dropping, h, -⟩
      cases h
  | some boarding =>
    cases hdropping : stopFor service pair.toBoardingPointId with
    | none =>
      refine iff_of_false ?_ ?_
      · rintro ⟨f, hf⟩
        rw [stopFor] at hboarding hdropping
        simp only [orderFulfillment, hid, hboarding, hdropping] at hf
        cases hf
      · rintro ⟨boarding', dropping', -, h, -⟩
        cases h
    | some dropping =>
      have hsteps : orderFulfillment service travelDate pair tags = (do
          let start ← stopAt service travelDate "1" none .start boarding ["BOARDING"]
          let stop ← stopAt service travelDate "2" (some "1") .stop dropping ["DROPPING"]
          return ⟨reservedFulfillmentId itemId, [start, stop], tags⟩) := by
        rw [stopFor] at hboarding hdropping
        simp only [orderFulfillment, hid, hboarding, hdropping]
        rfl
      rw [hsteps]
      constructor
      · rintro ⟨f, hf⟩
        obtain ⟨start, hstart, hf⟩ := Except.bind_ok.mp hf
        obtain ⟨stop, hstop, -⟩ := Except.bind_ok.mp hf
        refine ⟨boarding, dropping, rfl, rfl, stopsWithin_cons.mpr ⟨?_, ?_⟩⟩
        · exact (stopAt_isOk hdate).mp ⟨start, hstart⟩
        · exact (stopAt_isOk hdate).mp ⟨stop, hstop⟩
      · rintro ⟨boarding', dropping', hb, hd, hstops⟩
        obtain rfl := Option.some.inj hb
        obtain rfl := Option.some.inj hd
        obtain ⟨hfirst, hlast⟩ := stopsWithin_cons.mp hstops
        obtain ⟨start, hstart⟩ := (stopAt_isOk hdate).mpr hfirst
        obtain ⟨stop, hstop⟩ := (stopAt_isOk hdate).mpr hlast
        exact ⟨_, Except.bind_ok.mpr ⟨start, hstart, Except.bind_ok.mpr ⟨stop, hstop, rfl⟩⟩⟩

/-- The order of a select is written exactly where it can be. -/
theorem renderOrder_isOk {input : BuildOrder} {snapshot : Snapshot}
    (hdate : (calendarDate input.resolved.travelDate).isSome) (hnew : input.createdAt = none) :
    (∃ order, renderOrder d input snapshot = .ok order) ↔ Printable input := by
  constructor
  · rintro ⟨order, h⟩
    obtain ⟨quote, hquote, h⟩ := Except.bind_ok.mp h
    obtain ⟨item, hitem, h⟩ := Except.bind_ok.mp h
    obtain ⟨f, hf, h⟩ := Except.bind_ok.mp h
    obtain ⟨createdAt, -, h⟩ := Except.bind_ok.mp h
    obtain ⟨hfare, hdeparture⟩ := (reservedItem_isOk hdate).mp ⟨item, hitem⟩
    obtain ⟨boarding, dropping, hboarding, hdropping, hstops⟩ :=
      (orderFulfillment_isOk hdate).mp ⟨f, hf⟩
    refine ⟨quote_isOk.mp ⟨quote, hquote⟩, hfare,
      ⟨boarding, dropping, hboarding, hdropping, stopsWithin_cons.mpr ⟨hdeparture, hstops⟩⟩, ?_⟩
    intro hold hhold
    dsimp only at h
    rw [hhold] at h
    obtain ⟨tag, htag, -⟩ := Except.bind_ok.mp h
    obtain ⟨expires, hexpires, -⟩ := Except.bind_ok.mp htag
    exact istIsoInstant_isOk.mp ⟨expires, hexpires⟩
  · rintro ⟨hamounts, hfare, ⟨boarding, dropping, hboarding, hdropping, hstops⟩, hexpiry⟩
    obtain ⟨hdeparture, hrun⟩ := stopsWithin_cons.mp hstops
    obtain ⟨quote, hquote⟩ := quote_isOk.mpr hamounts
    obtain ⟨item, hitem⟩ := (@reservedItem_isOk _ _ hdate _ input.pair input.fareSourcing
      (some snapshot.availableCount) (some input.seatCount)).mpr ⟨hfare, hdeparture⟩
    obtain ⟨f, hf⟩ := (@orderFulfillment_isOk _ _ hdate _ input.fulfillmentTags).mpr
      ⟨boarding, dropping, hboarding, hdropping, hrun⟩
    cases hhold : input.hold with
    | none =>
      simp only [renderOrder, hquote, hitem, hf, hnew, hhold]
      exact ⟨_, rfl⟩
    | some hold =>
      obtain ⟨expires, hexpires⟩ := istIsoInstant_isOk.mpr (hexpiry hold hhold)
      simp only [renderOrder, hquote, hitem, hf, hnew, hhold, holdInfoTag, hexpires]
      exact ⟨_, rfl⟩

theorem buildOrder_carries {input : BuildOrder}
    (hdate : (calendarDate input.resolved.travelDate).isSome) (hnew : input.createdAt = none) :
    Handler.Carries (World.still d process raw)
      (fun _ w' => Swept input.resolved.service.serviceId input.resolved.travelDate w w' ∧
        Printable input)
      (fun _ w' => Swept input.resolved.service.serviceId input.resolved.travelDate w w' ∧
        ((∃ seeded, seededOccupancy d.collation input.resolved.service input.resolved.seatMap
          input.resolved.travelDate d.reservation.occupancySeed = .ok seeded) → ¬ Printable input))
      (buildOrder d input) w := by
  rw [buildOrder]
  refine Handler.carries_bind ((snapshot_carries _ _ _).mono ?_ ?_)
  · rintro snap w₁ ⟨hswept, -⟩
    refine Handler.carries_lift (fun order horder => ⟨hswept, ?_⟩) fun e he =>
      ⟨hswept, fun _ hprints => ?_⟩
    · exact (renderOrder_isOk hdate hnew).mp ⟨order, horder⟩
    · obtain ⟨order, horder⟩ := (@renderOrder_isOk d _ snap hdate hnew).mpr hprints
      cases he.symm.trans horder
  · rintro e w₁ ⟨hswept, hnone⟩
    refine ⟨hswept, ?_⟩
    rintro ⟨seeded, hseeded⟩
    exact absurd hseeded (hnone seeded)

/-! ## The whole select -/

/-- A select comes to take a new hold: nothing it names is refused, and the seats are to be had. -/
structure TakesHold (d : Deployment) (context : ReservedContext) (input : OrderInput) (raw : String)
    (w : World) (resolved : Resolved) (pair : BoardingPair) (cell : FareCell) (holdId : String) :
    Prop where
  /-- it addresses this provider -/
  address : assertBppAddress d context = .ok ()
  /-- it names a departure on sale -/
  resolves : w.Resolves d input resolved
  /-- as many seats as it counts -/
  count : assertSeatCount input = .ok ()
  /-- stops of the service -/
  runs : boardingPairFromStops resolved.service (stopsOf input) = .ok pair
  /-- with a fare -/
  fare : fareCell resolved.fareTable pair resolved.service.serviceClass = .ok cell
  /-- at least one seat -/
  named : seatIdsFrom input.tags ≠ []
  /-- and the seats are free -/
  holds : HoldsSeats d resolved (identityOf context) (seatIdsFrom input.tags) raw w holdId

/-- If a select comes to take a new hold, its order can be written. -/
def PrintsWhereHeld (d : Deployment) (context : ReservedContext) (input : OrderInput) (raw : String)
    (w : World) : Prop :=
  ∀ resolved pair cell holdId, TakesHold d context input raw w resolved pair cell holdId →
    Printable (selectedOrder resolved pair cell (identityOf context) input
      (some ((holdRequest d resolved (identityOf context) (seatIdsFrom input.tags) w.clock).newHold
        holdId)))

/-- A request that is refused leaves every hold as it was. -/
def RefusalKeepsHolds (d : Deployment) (req : Request) (raw : String) (w : World) : Prop :=
  ∀ e w', w.serve d req raw = some (.error e, w') → KeepsHolds w.clock w.db w'.db

theorem isSome_calendarDate {departureMinute offset ms : ℤ}
    (h : stopInstantMilliseconds travelDate departureMinute offset = .ok ms) :
    (calendarDate travelDate).isSome := by
  cases hdate : calendarDate travelDate with
  | some date => rfl
  | none =>
    rw [stopInstantMilliseconds, midnightMilliseconds, hdate] at h
    cases h

theorem select_carries (hstored : Stored w.db) (context : ReservedContext) (input : OrderInput) :
    Handler.Carries (World.still d process raw)
      (fun _ _ => PrintsWhereHeld d context input raw w)
      (fun _ w' => KeepsHolds w.clock w.db w'.db ↔ PrintsWhereHeld d context input raw w)
      (select d context input) w := by
  have hkept : KeepsHolds w.clock w.db w.db := fun _ => Iff.rfl
  have hearly : (∀ resolved pair cell holdId,
      ¬ TakesHold d context input raw w resolved pair cell holdId) →
        PrintsWhereHeld d context input raw w :=
    fun hnone resolved pair cell holdId h => absurd h (hnone resolved pair cell holdId)
  rw [select_eq]
  refine Handler.carries_lift_bind (fun u haddress => ?_) fun e he =>
    iff_of_true hkept (hearly fun resolved pair cell holdId h => ?_)
  swap
  · cases he.symm.trans h.address
  refine Handler.carries_bind ((resolveSelection_carries input).mono ?_ ?_)
  swap
  · rintro e w₁ ⟨rfl, hnone⟩
    exact iff_of_true hkept (hearly fun resolved pair cell holdId h => hnone resolved h.resolves)
  rintro resolved w₁ ⟨rfl, hresolves⟩
  have hsame : ∀ {resolved' pair cell holdId},
      TakesHold d context input raw w₁ resolved' pair cell holdId → resolved' = resolved :=
    fun h => h.resolves.unique hresolves
  refine Handler.carries_lift_bind (fun u hcount => ?_) fun e he =>
    iff_of_true hkept (hearly fun resolved' pair cell holdId h => ?_)
  swap
  · cases he.symm.trans h.count
  refine Handler.carries_lift_bind (fun pair hpair => ?_) fun e he =>
    iff_of_true hkept (hearly fun resolved' pair cell holdId h => ?_)
  swap
  · obtain rfl := hsame h
    cases he.symm.trans h.runs
  refine Handler.carries_lift_bind (fun cell hcell => ?_) fun e he =>
    iff_of_true hkept (hearly fun resolved' pair' cell holdId h => ?_)
  swap
  · obtain rfl := hsame h
    obtain rfl := Except.ok.inj (hpair.symm.trans h.runs)
    cases he.symm.trans h.fare
  have hdate : (calendarDate resolved.travelDate).isSome := isSome_calendarDate hresolves.departs
  -- a hold is taken of the seats that are named, where any are
  split
  swap
  · rename_i hunnamed
    have hnone : PrintsWhereHeld d context input raw w₁ :=
      hearly fun resolved' pair' cell' holdId h => hunnamed (List.length_pos_iff.mpr h.named)
    refine Handler.carries_bind (Handler.carries_pure (Handler.carries_bind ?_))
    refine (@buildOrder_carries d process raw w₁ (selectedOrder resolved pair cell
      (identityOf context) input none) hdate rfl).mono ?_ ?_
    · exact fun order w₂ _ => Handler.carries_pure hnone
    · exact fun e w₂ hswept => iff_of_true hswept.1.keeps hnone
  rename_i hnamed
  have hseats : seatIdsFrom input.tags ≠ [] := List.length_pos_iff.mp hnamed
  refine Handler.carries_bind (Handler.carries_bind ((holdSeats_carries hstored hseats).mono ?_ ?_))
  swap
  · rintro e w₂ ⟨hkeeps, hnone⟩
    refine iff_of_true hkeeps (hearly fun resolved' pair' cell' holdId h => ?_)
    obtain rfl := hsame h
    exact hnone holdId h.holds
  rintro hold w₂ ⟨hclock, hcases⟩
  refine Handler.carries_pure (Handler.carries_bind ?_)
  refine (@buildOrder_carries d process raw w₂ (selectedOrder resolved pair cell
      (identityOf context) input (some hold)) hdate rfl).mono ?_ ?_
  · rintro order w₃ ⟨-, hprints⟩
    refine Handler.carries_pure fun resolved' pair' cell' holdId h => ?_
    obtain rfl := hsame h
    obtain rfl := Except.ok.inj (hpair.symm.trans h.runs)
    obtain rfl := Except.ok.inj (hcell.symm.trans h.fare)
    rcases hcases with ⟨-, hnone⟩ | ⟨holdId', hholds, rfl, -⟩
    · exact absurd h.holds (hnone holdId)
    · obtain rfl := Except.ok.inj (hholds.takes.id.symm.trans h.holds.takes.id)
      exact hprints
  · rintro e w₃ ⟨hswept, hfails⟩
    have hfinal : KeepsHolds w₁.clock w₂.db w₃.db := hclock ▸ hswept.keeps
    rcases hcases with ⟨hkeeps, hnone⟩ | ⟨holdId, hholds, rfl, hmoved⟩
    · refine iff_of_true (hkeeps.trans hfinal) (hearly fun resolved' pair' cell' holdId h => ?_)
      obtain rfl := hsame h
      exact hnone holdId h.holds
    · refine iff_of_false (fun hkeeps => hmoved (hkeeps.trans hfinal.symm)) fun hprints => ?_
      obtain ⟨seeded, hseeded, -⟩ := hholds.unsold
      exact hfails ⟨seeded, hseeded⟩ (hprints resolved pair cell holdId
        ⟨haddress, hresolves, hcount, hpair, hcell, hseats, hholds⟩)

/-- **A refused select changes no hold** exactly where it either takes none or can write its
order. -/
theorem refused_select_keeps_holds_iff (hstored : Stored w.db) {context : ReservedContext}
    {input : OrderInput} : RefusalKeepsHolds d ⟨process, .select context input⟩ raw w ↔
      PrintsWhereHeld d context input raw w := by
  have hcarries : Handler.Carries (World.still d process raw) _ _ (select d context input) w :=
    select_carries hstored context input
  obtain ⟨result, w', hrun, hend⟩ := hcarries
  have hserve : w.serve d ⟨process, .select context input⟩ raw = some (result, w') := hrun
  constructor
  · intro hkeeps
    cases result with
    | ok answer => exact hend
    | error e => exact hend.mp (hkeeps e w' hserve)
  · intro hprints e w'' herror
    obtain ⟨rfl, rfl⟩ := Prod.mk.inj (Option.some.inj (hserve.symm.trans herror))
    exact hend.mpr hprints

/-! ## A hold lost to a refusal -/

/-- A request leaves a database in store in store. -/
theorem Stored.serve {req : Request} {result : Except Failure Answer} (h : Stored w.db)
    (hserve : w.serve d req raw = some (result, w')) : Stored w'.db := by
  refine Prog.carry_keeps (fun w => Stored w.db) (fun op w p hexec hw => ?_) hserve h
  rcases World.exec_db hexec with ⟨hsame, -⟩ | ⟨t, a, -, hrun⟩
  · exact hsame ▸ hw
  · have hleave := hw.step t raw
    dsimp only at hrun
    rwa [Transaction.leave, hrun] at hleave

/-- A select that names seats and claims a concession. -/
def specimenClaim (transactionId : String) (seatIds : List String) (claim : String) : Request :=
  ⟨0, .select (specimenContext transactionId) (specimenInput seatIds.length [seatsGroup seatIds,
    ⟨some "CONCESSION", some [⟨some "CLASS", some claim⟩]⟩])⟩

/-- Seat 1 is held. -/
def specimenHolding : Option World :=
  ((World.initial specimenClock specimenSource).serve specimenDeployment
    (specimenSelect "T1" ["1"]) "a1").map Prod.snd

theorem specimenHolding_stored (h : specimenHolding = some w) : Stored w.db := by
  obtain ⟨⟨result, w'⟩, hserve, rfl⟩ := Option.map_eq_some_iff.mp h
  exact Stored.empty.serve hserve

/-- **A refused select loses a hold**: it claims the child concession, for which there is no rate,
and is refused with its new hold taken and the old one gone. -/
theorem refused_select_loses_hold : ∃ w, specimenHolding = some w ∧
    ¬ RefusalKeepsHolds specimenDeployment (specimenClaim "T1" ["2"] "CHILD") "a2" w := by
  have hdone : specimenHolding.any (fun w =>
      (w.serve specimenDeployment (specimenClaim "T1" ["2"] "CHILD") "a2").any fun p =>
        !p.1.toBool && (w.db.heldAt w.clock).any fun row =>
          !(p.2.db.heldAt w.clock).contains row) = true := by
    decide +kernel
  obtain ⟨w, hw, hdone⟩ := (Option.any_eq_true _ _).mp hdone
  obtain ⟨p, hp, hlost⟩ := (Option.any_eq_true _ _).mp hdone
  obtain ⟨result, w'⟩ := p
  rw [Bool.and_eq_true] at hlost
  obtain ⟨herror, hrows⟩ := hlost
  obtain ⟨row, hrow, hgone⟩ := List.any_eq_true.mp hrows
  refine ⟨w, hw, fun hkeeps => ?_⟩
  cases result with
  | ok answer => cases herror
  | error e =>
    have hmem := (hkeeps e w' hp row).mpr hrow
    simp [hmem] at hgone

/-- Where the id generator fails, the transaction that released the old hold is rolled back. -/
theorem refused_select_keeps_holds_iff_specimen : ∃ w, specimenHolding = some w ∧
    RefusalKeepsHolds specimenDeployment (specimenSelect "T1" ["2"]) "" w := by
  have hdone : specimenHolding.isSome = true := by
    decide +kernel
  obtain ⟨w, hw⟩ := Option.isSome_iff_exists.mp hdone
  refine ⟨w, hw, (refused_select_keeps_holds_iff (specimenHolding_stored hw)).mpr ?_⟩
  intro resolved pair cell holdId h
  cases h.holds.takes.id

end TransitBpp
