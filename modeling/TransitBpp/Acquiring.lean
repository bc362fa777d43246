import TransitBpp.Deadlines
import TransitBpp.Gregorian

/-!
# What taking a hold does

`acquireHold` in full, from any database that the store's own transactions reach. Whether it goes
through is a matter of the seats that are asked for only: a unique index that could refuse the
insert for another reason is the primary key, and `Numbered` says that a row's key names its hold,
so that a new hold's rows are new. The availability check and the index then refuse the same
requests, and a row is in the way of one exactly when it is neither swept nor released first.
-/

namespace TransitBpp

open Js

variable {db db' : ReservedDb} {t : Transaction} {raw : String} {params : AcquireHold}

/-! ## Databases in store -/

/-- What a transaction leaves of the database: one that fails is rolled back. -/
def Transaction.leave (t : Transaction) (raw : String) (db : ReservedDb) : ReservedDb :=
  match t.run raw db with
  | .ok (_, db') => db'
  | .error _ => db

/-- The databases that transactions reach, in any order and whatever the id generator answers. -/
inductive Stored : ReservedDb → Prop where
  /-- freshly migrated -/
  | empty : Stored .empty
  /-- one more transaction -/
  | step {db : ReservedDb} (t : Transaction) (raw : String) : Stored db → Stored (t.leave raw db)

/-- The databases of a ledger are among them. -/
theorem Ledger.Reach.stored {s : Ledger} (h : Ledger.Reach .initial s) : Stored s.db := by
  induction h with
  | refl => exact .empty
  | @step s' call _ _ ih =>
    cases call with
    | findLatestHold operator identity => exact ih
    | run raw t =>
      have hnext : (s'.perform (.run raw t)).db = t.leave raw s'.db := by
        simp only [perform, Transaction.leave]
        cases t.run raw s'.db <;> rfl
      exact hnext ▸ ih.step t raw

/-- A lock's primary key is its hold's id and a number. -/
def Numbered (db : ReservedDb) : Prop :=
  ∀ row ∈ db.seatLocks.rows, ∃ holdId, ∃ n : ℕ,
    row.holdId = some holdId ∧ row.id = s!"{holdId}-{n}"

theorem AcquireHold.id_newRows {holdId : String} {row : LockRow} (h : row ∈ params.newRows holdId) :
    ∃ n : ℕ, row.id = s!"{holdId}-{n}" := by
  obtain ⟨s, -, rfl⟩ := List.mem_map.mp h
  exact ⟨s.2 + 1, rfl⟩

theorem Numbered.step (h : Numbered db) {a : t.Answer} (hrun : t.run raw db = .ok (a, db')) :
    Numbered db' := by
  obtain ⟨f, new, hmoved⟩ := Transaction.locks_moved hrun
  intro row hrow
  rw [hmoved.rows] at hrow
  rcases List.mem_append.mp hrow with hrow | hrow
  · obtain ⟨r, hr, rfl⟩ := List.mem_map.mp hrow
    rw [(hmoved.moves r).same.holdId, (hmoved.moves r).same.id]
    exact h r hr
  · rcases hmoved.new with rfl | ⟨params, holdId, -, rfl, -⟩
    · cases hrow
    · obtain ⟨n, hid⟩ := AcquireHold.id_newRows hrow
      rw [(AcquireHold.mem_newRows hrow).2]
      exact ⟨holdId, n, rfl, hid⟩

/-- What holds of the locks of every database in store. -/
structure LocksKept (db : ReservedDb) : Prop where
  /-- the rows of a hold agree -/
  rows : HoldRows db
  /-- and are held together -/
  together : HeldTogether db
  /-- until a time -/
  dated : Dated db
  /-- under keys that name the hold -/
  numbered : Numbered db

theorem Stored.kept (h : Stored db) : LocksKept db := by
  induction h with
  | empty =>
    exact ⟨HoldRows.empty, fun _ hrow => absurd hrow List.not_mem_nil,
      fun _ hrow => absurd hrow List.not_mem_nil, fun _ hrow => absurd hrow List.not_mem_nil⟩
  | step t raw _ ih =>
    rw [Transaction.leave]
    cases hrun : t.run raw _ with
    | error e => exact ih
    | ok p =>
      exact ⟨ih.rows.step hrun, ih.together.step ih.rows hrun, ih.dated.step hrun,
        ih.numbered.step hrun⟩

/-! ## Keys -/

/-- What precedes the last of a letter is known. -/
theorem append_cons_inj {α : Type} {c : α} {xs ys xs' ys' : List α} (hys : c ∉ ys) (hys' : c ∉ ys')
    (h : xs ++ c :: ys = xs' ++ c :: ys') : xs = xs' := by
  rcases List.append_eq_append_iff.mp h with ⟨zs, rfl, hzs⟩ | ⟨zs, rfl, hzs⟩
  · cases zs with
    | nil => rw [List.append_nil]
    | cons z zs => exact absurd (by simp [(List.cons.inj hzs).2]) hys
  · cases zs with
    | nil => rw [List.append_nil]
    | cons z zs => exact absurd (by simp [(List.cons.inj hzs).2]) hys'

theorem numbered_toList (holdId : String) (n : ℕ) :
    (s!"{holdId}-{n}").toList = holdId.toList ++ '-' :: Nat.toDigits 10 n := by
  simp [toString, Nat.repr]

/-- A key names its hold and its number. -/
theorem numbered_inj {holdId otherId : String} {n m : ℕ}
    (h : s!"{holdId}-{n}" = s!"{otherId}-{m}") : holdId = otherId ∧ n = m := by
  have hlists := congrArg String.toList h
  rw [numbered_toList, numbered_toList] at hlists
  have hdash : ∀ n : ℕ, '-' ∉ Nat.toDigits 10 n := fun n hmem =>
    absurd (Nat.isDigit_of_mem_toDigits (by decide) (by decide) hmem) (by decide)
  have hid := append_cons_inj (hdash n) (hdash m) hlists
  refine ⟨String.toList_inj.mp hid, ?_⟩
  rw [hid, List.append_cancel_left_eq, List.cons.injEq] at hlists
  obtain ⟨k, hn⟩ := digits_toDigits n
  obtain ⟨j, hm⟩ := digits_toDigits m
  rw [hlists.2, hm] at hn
  exact (congrArg Prod.fst (Option.some.inj hn)).symm

theorem AcquireHold.unique_primaryKey (params : AcquireHold) (holdId : String) :
    Sql.UniqueOn LockRow.primaryKey (params.newRows holdId) := by
  have hkeys : (params.newRows holdId).filterMap LockRow.primaryKey =
      (List.range' 0 params.seats.length).map fun n => [s!"{holdId}-{n + 1}"] := by
    rw [← List.zipIdx_map_snd 0 params.seats, List.map_map, newRows, List.filterMap_map,
      ← List.filterMap_eq_map]
    rfl
  rw [Sql.UniqueOn, hkeys]
  refine List.Nodup.map (fun n n' h => ?_) List.nodup_range'
  have hn := (numbered_inj (List.cons.inj h).1).2
  omega

theorem AcquireHold.unique_liveKey (params : AcquireHold) (holdId : String) :
    Sql.UniqueOn LockRow.liveKey (params.newRows holdId) := by
  have hkeys : (params.newRows holdId).filterMap LockRow.liveKey =
      params.seats.map fun seatId => [params.serviceId, params.travelDate, seatId] := by
    rw [← params.map_seatId_newRows holdId, List.map_map, ← List.filterMap_eq_map]
    refine List.filterMap_congr fun row hrow => ?_
    rw [(AcquireHold.mem_newRows hrow).2]
    rfl
  rw [Sql.UniqueOn, hkeys]
  exact params.nodup_seats.map fun _ _ h => by simpa using h

/-- The rows of a new hold go in: their keys are new, and nobody else has their seats. -/
theorem insertLocks_goes (hnumbered : Numbered db) {holdId : String}
    (hfresh : ∀ row ∈ db.seatLocks.rows, row.holdId ≠ some holdId)
    (hfree : ∀ row ∈ db.seatLocks.rows, row.isLive = true → row.serviceId = params.serviceId →
      row.travelDate = params.travelDate → row.seatId ∉ params.seats) :
    ∃ db', insertLocks (params.newRows holdId) db = .ok ((), db') := by
  have hinsert : ∃ locks, db.seatLocks.insert (params.newRows holdId) = some locks := by
    refine Sql.Table.insert_isSome ?_ ?_
    · intro key hkey
      rcases List.mem_cons.mp hkey with rfl | hkey
      · exact params.unique_primaryKey holdId
      · obtain rfl := List.mem_singleton.mp hkey
        exact params.unique_liveKey holdId
    · intro key hkey row hrow new hnew k hk hk'
      rcases List.mem_cons.mp hkey with rfl | hkey
      · obtain ⟨holdId', n, hrowHold, hrowId⟩ := hnumbered row hrow
        obtain ⟨n', hnewId⟩ := AcquireHold.id_newRows hnew
        have hkeys : row.id = new.id := by simpa using Option.some.inj (hk.trans hk'.symm)
        rw [hrowId, hnewId] at hkeys
        exact hfresh row hrow (hrowHold.trans (congrArg some (numbered_inj hkeys).1))
      · obtain rfl := List.mem_singleton.mp hkey
        obtain ⟨hseat, hnewEq⟩ := AcquireHold.mem_newRows hnew
        have hnewKey : new.liveKey = some [params.serviceId, params.travelDate, new.seatId] := by
          rw [hnewEq]
          rfl
        obtain ⟨hlive, hservice, hdate, hrowSeat⟩ :=
          LockRow.liveKey_eq.mp (hk.trans (hk'.symm.trans hnewKey))
        exact hfree row hrow hlive hservice hdate (hrowSeat ▸ hseat)
  obtain ⟨locks, hlocks⟩ := hinsert
  exact ⟨_, statement_ok.mpr ⟨locks, by rw [hlocks]; rfl, rfl⟩⟩

/-! ## What is asked for, and what is in the way -/

namespace AcquireHold

/-- A hold is on the departure, and of exactly the seats, that are asked for. -/
structure Wants (params : AcquireHold) (hold : HoldRecord) : Prop where
  /-- the service -/
  serviceId : hold.serviceId = params.serviceId
  /-- the travel date -/
  travelDate : hold.travelDate = params.travelDate
  /-- the seats -/
  seats : ∀ seatId, seatId ∈ hold.seatIds ↔ seatId ∈ params.seatIds

/-- A row is in the way of a request: a seat that is asked for is booked, or held for later and not
by the transaction's own live hold. -/
structure Blocks (params : AcquireHold) (db : ReservedDb) (row : LockRow) : Prop where
  /-- the service -/
  serviceId : row.serviceId = params.serviceId
  /-- the travel date -/
  travelDate : row.travelDate = params.travelDate
  /-- a seat that is asked for -/
  seat : row.seatId ∈ params.seatIds
  /-- somebody else's -/
  live : row.state = .booked ∨ row.state = .held ∧
    (∃ at_, row.expiresAt = some at_ ∧ params.nowMs < at_) ∧
      ∀ hold, params.liveHold db = some hold → row.holdId ≠ some hold.holdId

/-- What a new hold makes of the rows that were there: the lapsed ones of the departure expire and
those of the transaction's live hold are released. -/
def vacate (params : AcquireHold) (db : ReservedDb) (row : LockRow) : LockRow :=
  if isLapsed params.serviceId params.travelDate params.nowMs row then { row with state := .expired }
  else if (params.liveHold db).any fun hold => row.holdId = some hold.holdId then
    { row with state := .released }
  else row

/-- A new hold has been taken, and nothing else has changed. -/
structure Replaced (params : AcquireHold) (db db' : ReservedDb) (holdId : String) : Prop where
  /-- its rows come last: a seat each, until the time it lapses -/
  locks : ∃ new : List LockRow, db'.seatLocks.rows = db.seatLocks.rows.map (params.vacate db) ++ new ∧
    (new.map LockRow.seatId).Nodup ∧
    (∀ seatId, seatId ∈ new.map LockRow.seatId ↔ seatId ∈ params.seatIds) ∧
    ∀ row ∈ new, row = { row with
      serviceId := params.serviceId
      travelDate := params.travelDate
      state := .held
      holdId := some holdId
      bookingId := none
      operator := params.operator
      identity := params.identity
      expiresAt := some (params.nowMs + params.ttlSeconds * 1000)
      createdAt := params.nowMs }
  /-- bookings are as they were -/
  bookings : db'.bookings = db.bookings
  /-- so are their seats -/
  bookingSeats : db'.bookingSeats = db.bookingSeats
  /-- so are the quotes -/
  quotes : db'.refundQuotes = db.refundQuotes

end AcquireHold

/-- Every row of the live hold is held, and for later. -/
theorem LocksKept.liveHold_rows (h : LocksKept db) {hold : HoldRecord}
    (hlive : params.liveHold db = some hold) {row : LockRow} (hrow : row ∈ db.seatLocks.rows)
    (hid : row.holdId = some hold.holdId) :
    row.state = .held ∧ ∃ at_, row.expiresAt = some at_ ∧ params.nowMs < at_ := by
  obtain ⟨hread, hstatus⟩ := Option.filter_eq_some_iff.mp hlive
  obtain ⟨newest, hnewest, rows, -, hsome, -, -, rfl⟩ := findLatestHold_eq h.rows hread
  obtain ⟨hstate, hexpiry⟩ := holdStatus_live.mp (of_decide_eq_true hstatus)
  obtain ⟨-, at_, hat⟩ := h.dated newest hnewest hstate
  have hsame : newest.holdId = row.holdId := by
    obtain ⟨holdId, hholdId⟩ := Option.isSome_iff_exists.mp hsome
    rw [hid, hholdId]
    change _ = some (newest.holdId.getD "")
    rw [hholdId, Option.getD_some]
  obtain ⟨hheld, hdate⟩ := h.together newest hnewest row hrow hsame hstate
  refine ⟨hheld, at_, hdate.trans hat, ?_⟩
  change params.nowMs < newest.expiresAt.getD 0 at hexpiry
  rwa [hat, Option.getD_some] at hexpiry

/-- The code compares two sorted lists; it compares two sets. -/
theorem LocksKept.isSame_iff (h : LocksKept db) {hold : HoldRecord}
    (hlive : params.liveHold db = some hold) : params.isSame hold = true ↔ params.Wants hold := by
  obtain ⟨hread, -⟩ := Option.filter_eq_some_iff.mp hlive
  have hnodup : hold.seatIds.Nodup :=
    (Fits.of_read h.rows hread).seats.nodup_iff.mp (h.rows.nodup_seatsOfHold _)
  have hsorted : sort hold.seatIds = hold.seatIds := by
    obtain ⟨newest, -, rows, -, -, -, -, rfl⟩ := findLatestHold_eq h.rows hread
    exact sort_eq_of_perm (sort_perm _)
  have hseats : hold.seatIds = params.seats ↔ ∀ seatId, seatId ∈ hold.seatIds ↔ seatId ∈ params.seatIds := by
    constructor
    · intro heq seatId
      rw [heq, AcquireHold.seats, mem_sort, mem_unique]
    · intro hmem
      rw [← hsorted]
      refine sort_eq_of_perm ((List.perm_ext_iff_of_nodup hnodup (nodup_unique _)).mpr fun seatId => ?_)
      rw [hmem, mem_unique]
  simp only [AcquireHold.isSame, Bool.and_eq_true, decide_eq_true_eq, hseats]
  exact ⟨fun ⟨⟨hs, hd⟩, hm⟩ => ⟨hs, hd, hm⟩, fun ⟨hs, hd, hm⟩ => ⟨⟨hs, hd⟩, hm⟩⟩

/-! ## The steps -/

theorem Txn.bind_of_ok {α β : Type} {x : Txn α} {f : α → Txn β} {a : α}
    (h : x db = .ok (a, db')) : (x >>= f) db = f a db' := by
  change (x db >>= fun p => f p.1 p.2) = _
  rw [h]
  rfl

/-- Locks that stop being claims violate no index. -/
theorem updateLocks_goes (p : LockRow → Bool) {state : SeatLockState}
    (hstate : state = .expired ∨ state = .released) (db : ReservedDb) :
    ∃ n db', updateLocks p (fun row => { row with state := state }) db = .ok (n, db') := by
  refine update_goes ReservedDb.seatLocks (fun db t => { db with seatLocks := t }) db ?_
  intro key hkey row _
  rcases List.mem_cons.mp hkey with rfl | hkey
  · exact .inl rfl
  · obtain rfl := List.mem_singleton.mp hkey
    rcases hstate with rfl | rfl <;> exact .inr rfl

theorem sweepExpiredHolds_goes (serviceId travelDate : String) (nowMs : ℤ) (db : ReservedDb) :
    ∃ n db', sweepExpiredHolds serviceId travelDate nowMs db = .ok (n, db') :=
  updateLocks_goes _ (.inl rfl) db

theorem releaseHold_goes (live : Option HoldRecord) (db : ReservedDb) :
    ∃ db', AcquireHold.releaseHold live db = .ok ((), db') := by
  cases live with
  | none => exact ⟨db, rfl⟩
  | some hold =>
    obtain ⟨n, db', hu⟩ := updateLocks_goes
      (fun row => row.holdId = some hold.holdId && row.state = .held) (.inr rfl) db
    exact ⟨db', Txn.bind_ok.mpr ⟨n, db', hu, rfl⟩⟩

/-- The sweep and the release, on one row. -/
theorem LocksKept.vacate_eq (h : LocksKept db) {row : LockRow} (hrow : row ∈ db.seatLocks.rows) :
    releaseHoldRow (params.liveHold db)
      (expireIf (isLapsed params.serviceId params.travelDate params.nowMs) row) =
        params.vacate db row := by
  rw [AcquireHold.vacate, expireIf, setIf]
  split
  · -- an expired row is not held any more
    simp [releaseHoldRow, setIf]
  · rw [releaseHoldRow, setIf]
    cases hlive : params.liveHold db with
    | none => rfl
    | some hold =>
      by_cases hid : row.holdId = some hold.holdId
      · simp [hid, (h.liveHold_rows hlive hrow hid).1]
      · simp [hid]

/-- The rows of a new hold do not go in beside a claim on one of its seats. -/
theorem insertLocks_collides {holdId : String}
    (hfresh : ∀ row ∈ db.seatLocks.rows, row.holdId ≠ some holdId) {row : LockRow}
    (hrow : row ∈ db.seatLocks.rows) (hlive : row.isLive = true)
    (hservice : row.serviceId = params.serviceId) (hdate : row.travelDate = params.travelDate)
    (hseat : row.seatId ∈ params.seats) :
    insertLocks (params.newRows holdId) db = .error .unique := by
  cases hinsert : insertLocks (params.newRows holdId) db with
  | error e =>
    simp only [insertLocks, statement] at hinsert
    split at hinsert
    · cases hinsert
    · exact hinsert ▸ rfl
  | ok p =>
    obtain ⟨hlocks, -⟩ := insertLocks_ok hinsert
    rw [← params.map_seatId_newRows holdId] at hseat
    obtain ⟨new, hnew, hsame⟩ := List.mem_map.mp hseat
    have hnewEq := (AcquireHold.mem_newRows hnew).2
    have heq := p.2.live_unique (hlocks ▸ List.mem_append_left _ hrow)
      (hlocks ▸ List.mem_append_right _ hnew) hlive (by rw [hnewEq]; rfl)
      (by rw [hnewEq, hservice]) (by rw [hnewEq, hdate]) hsame.symm
    have hid := congrArg LockRow.holdId heq
    rw [hnewEq] at hid
    exact absurd hid (hfresh row hrow)

/-- What is left of a transaction whose live hold is not what is asked for. -/
theorem LocksKept.body_eq (h : LocksKept db) (raw : String)
    (hother : ∀ hold, params.liveHold db = some hold → ¬ params.Wants hold) :
    ∃ released, LocksOnly db released (params.vacate db) ∧
      params.body raw db = if (!params.skipAvailabilityCheckForTest) = true then
        (params.assertAvailable >>= fun _ => params.insertHold raw) released
      else params.insertHold raw released := by
  obtain ⟨n, swept, hsweep⟩ :=
    sweepExpiredHolds_goes params.serviceId params.travelDate params.nowMs db
  have hswept := sweepExpiredHolds_ok hsweep
  have hlive := liveHold_sweep h.together hswept
  obtain ⟨released, hrelease⟩ := releaseHold_goes (params.liveHold db) swept
  have hreleased := releaseHold_ok hrelease
  have hdiffers : (params.liveHold db).filter params.isSame = none := by
    rw [Option.filter_eq_none_iff]
    exact fun hold hhold hsame => hother hold hhold ((h.isSame_iff hhold).mp hsame)
  refine ⟨released, ⟨?_, ?_, ?_, ?_⟩, ?_⟩
  · rw [hreleased.locks, hswept.locks, List.map_map]
    exact List.map_congr_left fun row hrow => h.vacate_eq hrow
  · rw [hreleased.bookings, hswept.bookings]
  · rw [hreleased.seats, hswept.seats]
  · rw [hreleased.quotes, hswept.quotes]
  · rw [AcquireHold.body, Txn.bind_of_ok hsweep, Txn.bind_of_ok rfl]
    dsimp only
    rw [hlive, hdiffers]
    dsimp only
    rw [Txn.bind_of_ok hrelease]
    split <;> rfl

theorem AcquireHold.seats_ne_nil (params : AcquireHold) (h : params.seatIds ≠ []) :
    params.seats ≠ [] := by
  obtain ⟨seatId, hmem⟩ := List.exists_mem_of_ne_nil _ h
  exact List.ne_nil_of_mem (mem_sort.mpr (mem_unique.mpr hmem))

theorem AcquireHold.vacate_same (params : AcquireHold) (db : ReservedDb) (row : LockRow) :
    SameLock row (params.vacate db row) := by
  rw [vacate]
  split_ifs <;> exact ⟨rfl, rfl, rfl, rfl, rfl, rfl, rfl, rfl⟩

/-- A row that is in the way stays where it is. -/
theorem LocksKept.stays (h : LocksKept db) {row : LockRow} (hrow : row ∈ db.seatLocks.rows)
    (hblocks : params.Blocks db row) : params.vacate db row = row ∧ row.isLive = true := by
  have hlapsed : isLapsed params.serviceId params.travelDate params.nowMs row = false := by
    rcases hblocks.live with hbooked | ⟨-, ⟨at_, hat, hlt⟩, -⟩
    · simp [isLapsed, hbooked]
    · have hgt : ¬ at_ ≤ params.nowMs := by omega
      simp [isLapsed, hat, hgt]
  have hother : ((params.liveHold db).any fun hold => row.holdId = some hold.holdId) = false := by
    cases hlive : params.liveHold db with
    | none => rfl
    | some hold =>
      rw [Option.any_some, decide_eq_false_iff_not]
      intro hid
      rcases hblocks.live with hbooked | ⟨-, -, hother⟩
      · have hheld := (h.liveHold_rows hlive hrow hid).1
        rw [hbooked] at hheld
        cases hheld
      · exact hother hold hlive hid
  refine ⟨by simp [AcquireHold.vacate, hlapsed, hother], ?_⟩
  rcases hblocks.live with hbooked | ⟨hheld, -⟩
  · simp [LockRow.isLive, hbooked]
  · simp [LockRow.isLive, hheld]

/-- And only such a row stays a claim on a seat that is asked for. -/
theorem LocksKept.blocks (h : LocksKept db) {row : LockRow} (hrow : row ∈ db.seatLocks.rows)
    (hlive : (params.vacate db row).isLive = true) (hservice : row.serviceId = params.serviceId)
    (hdate : row.travelDate = params.travelDate) (hseat : row.seatId ∈ params.seats) :
    params.Blocks db row := by
  rw [AcquireHold.vacate] at hlive
  split at hlive
  · cases hlive
  rename_i hlapsed
  split at hlive
  · cases hlive
  rename_i hother
  rw [AcquireHold.seats, mem_sort, mem_unique] at hseat
  refine ⟨hservice, hdate, hseat, ?_⟩
  simp only [LockRow.isLive, Bool.or_eq_true, decide_eq_true_eq] at hlive
  rcases hlive with hheld | hbooked
  · obtain ⟨-, at_, hat⟩ := h.dated row hrow hheld
    refine .inr ⟨hheld, ⟨at_, hat, ?_⟩, fun hold hhold hid => hother ?_⟩
    · by_contra hle
      exact hlapsed (by simp [isLapsed, hheld, hservice, hdate, hat]; omega)
    · rw [hhold]
      simpa using hid
  · exact .inl hbooked

/-- The check refuses seats, or passes. -/
theorem assertAvailable_cases (params : AcquireHold) (db : ReservedDb) :
    params.assertAvailable db = .ok ((), db) ∨ ∃ refusal,
      params.assertAvailable db = .error (.lifecycle refusal) ∧ refusal.code = .seatUnavailable := by
  rw [AcquireHold.assertAvailable, Txn.bind_of_ok rfl]
  split
  · exact .inr ⟨_, rfl, rfl⟩
  · exact .inl rfl

/-- It passes where nobody has a claim on a seat that is asked for. -/
theorem assertAvailable_goes (hfree : ∀ row ∈ db.seatLocks.rows, row.isLive = true →
    row.serviceId = params.serviceId → row.travelDate = params.travelDate →
      row.seatId ∉ params.seats) : params.assertAvailable db = .ok ((), db) := by
  rw [AcquireHold.assertAvailable, Txn.bind_of_ok rfl]
  rw [if_neg]
  · rfl
  · rw [not_not, List.filter_eq_nil_iff]
    intro seatId hmem
    obtain ⟨claim, hclaim, rfl⟩ := List.mem_map.mp hmem
    obtain ⟨row, hrow, rfl⟩ := List.mem_map.mp hclaim
    rw [List.mem_insertionSort, List.mem_filter] at hrow
    simp only [Bool.and_eq_true, decide_eq_true_eq] at hrow
    exact fun hseat =>
      hfree row hrow.1 hrow.2.2 hrow.2.1.1 hrow.2.1.2 (of_decide_eq_true hseat)

theorem findHoldById_none {holdId : String}
    (h : ∀ row ∈ db.seatLocks.rows, row.holdId ≠ some holdId) : db.findHoldById holdId = none := by
  have hnil : db.seatLocks.rows.filter (fun row => row.holdId = some holdId) = [] :=
    List.filter_eq_nil_iff.mpr fun row hrow => by simpa using h row hrow
  rw [ReservedDb.findHoldById, hnil]
  rfl

/-- With an id that is new, what is left of an insert is its statement. -/
theorem insertHold_eq {holdId : String} (hid : shortId "HLD-KSRTC" raw = .ok holdId)
    (hfresh : db.findHoldById holdId = none) (hseats : params.seats ≠ []) :
    params.insertHold raw db =
      (insertLocks (params.newRows holdId) >>= fun _ => pure (params.newHold holdId)) db := by
  rw [AcquireHold.insertHold, Txn.bind_of_ok (Txn.lift_ok.mpr ⟨hid, rfl⟩), Txn.bind_of_ok rfl]
  rw [if_neg (by simp [hfresh]), if_neg hseats]

/-! ## The outcomes -/

section Outcomes

variable {holdId : String} {released : ReservedDb}

/-- A request that is in nobody's way is answered with a new hold. -/
theorem LocksKept.takes (h : LocksKept db) (hseats : params.seatIds ≠ [])
    (hid : shortId "HLD-KSRTC" raw = .ok holdId)
    (hfresh : ∀ row ∈ db.seatLocks.rows, row.holdId ≠ some holdId)
    (hother : ∀ hold, params.liveHold db = some hold → ¬ params.Wants hold)
    (hfree : ∀ row ∈ db.seatLocks.rows, ¬ params.Blocks db row) :
    ∃ db', acquireHold params raw db = .ok (params.newHold holdId, db') ∧
      params.Replaced db db' holdId := by
  obtain ⟨released, hreleased, hbody⟩ := h.body_eq raw hother
  have hrows : ∀ row ∈ released.seatLocks.rows, ∃ r ∈ db.seatLocks.rows,
      row = params.vacate db r := by
    intro row hrow
    rw [hreleased.locks] at hrow
    obtain ⟨r, hr, rfl⟩ := List.mem_map.mp hrow
    exact ⟨r, hr, rfl⟩
  have hclear : ∀ row ∈ released.seatLocks.rows, row.isLive = true →
      row.serviceId = params.serviceId → row.travelDate = params.travelDate →
        row.seatId ∉ params.seats := by
    intro row hrow hlive hservice hdate hseat
    obtain ⟨r, hr, rfl⟩ := hrows row hrow
    have hsame := params.vacate_same db r
    exact hfree r hr (h.blocks hr hlive (hsame.serviceId.symm.trans hservice)
      (hsame.travelDate.symm.trans hdate) (hsame.seatId ▸ hseat))
  have hfresh' : ∀ row ∈ released.seatLocks.rows, row.holdId ≠ some holdId := by
    intro row hrow
    obtain ⟨r, hr, rfl⟩ := hrows row hrow
    rw [(params.vacate_same db r).holdId]
    exact hfresh r hr
  have hnumbered : Numbered released := by
    intro row hrow
    obtain ⟨r, hr, rfl⟩ := hrows row hrow
    rw [(params.vacate_same db r).holdId, (params.vacate_same db r).id]
    exact h.numbered r hr
  obtain ⟨db', hinsert⟩ := insertLocks_goes hnumbered hfresh' hclear
  have htail : params.insertHold raw released = .ok (params.newHold holdId, db') := by
    rw [insertHold_eq hid (findHoldById_none hfresh') (params.seats_ne_nil hseats),
      Txn.bind_of_ok hinsert]
    rfl
  have hok : params.body raw db = .ok (params.newHold holdId, db') := by
    rw [hbody]
    split
    · rw [Txn.bind_of_ok (assertAvailable_goes hclear), htail]
    · exact htail
  refine ⟨db', by rw [acquireHold, hok], ?_⟩
  obtain ⟨hlocks, hbookings, hbookingSeats, hquotes⟩ := insertLocks_ok hinsert
  refine ⟨⟨params.newRows holdId, by rw [hlocks, hreleased.locks], ?_, ?_, ?_⟩,
    hbookings.trans hreleased.bookings, hbookingSeats.trans hreleased.seats,
    hquotes.trans hreleased.quotes⟩
  · rw [params.map_seatId_newRows]
    exact params.nodup_seats
  · intro seatId
    rw [params.map_seatId_newRows, AcquireHold.seats, mem_sort, mem_unique]
  · exact fun row hrow => (AcquireHold.mem_newRows hrow).2

/-- A request with somebody in the way is refused, by the check or by the index. -/
theorem LocksKept.refuses (h : LocksKept db) (hseats : params.seatIds ≠ [])
    (hid : shortId "HLD-KSRTC" raw = .ok holdId)
    (hfresh : ∀ row ∈ db.seatLocks.rows, row.holdId ≠ some holdId)
    (hother : ∀ hold, params.liveHold db = some hold → ¬ params.Wants hold)
    {row : LockRow} (hrow : row ∈ db.seatLocks.rows) (hblocks : params.Blocks db row) :
    ∃ refusal, acquireHold params raw db = .error (.lifecycle refusal) ∧
      refusal.code = .seatUnavailable := by
  obtain ⟨released, hreleased, hbody⟩ := h.body_eq raw hother
  have hfresh' : ∀ row ∈ released.seatLocks.rows, row.holdId ≠ some holdId := by
    intro row hrow
    rw [hreleased.locks] at hrow
    obtain ⟨r, hr, rfl⟩ := List.mem_map.mp hrow
    rw [(params.vacate_same db r).holdId]
    exact hfresh r hr
  have hinsert : params.insertHold raw released = .error .unique := by
    rw [insertHold_eq hid (findHoldById_none hfresh') (params.seats_ne_nil hseats)]
    change (insertLocks (params.newRows holdId) released >>= _) = _
    have hstays : row ∈ released.seatLocks.rows := by
      rw [hreleased.locks, ← (h.stays hrow hblocks).1]
      exact List.mem_map_of_mem hrow
    rw [insertLocks_collides hfresh' hstays (h.stays hrow hblocks).2 hblocks.serviceId
      hblocks.travelDate (mem_sort.mpr (mem_unique.mpr hblocks.seat))]
    rfl
  have herror : params.body raw db = .error .unique ∨ ∃ refusal,
      params.body raw db = .error (.lifecycle refusal) ∧ refusal.code = .seatUnavailable := by
    rw [hbody]
    split
    · rcases assertAvailable_cases params released with hok | ⟨refusal, herr, hcode⟩
      · rw [Txn.bind_of_ok hok]
        exact .inl hinsert
      · refine .inr ⟨refusal, ?_, hcode⟩
        change (params.assertAvailable released >>= _) = _
        rw [herr]
        rfl
    · exact .inl hinsert
  rcases herror with herr | ⟨refusal, herr, hcode⟩
  · rw [acquireHold, herr]
    exact ⟨_, rfl, rfl⟩
  · rw [acquireHold, herr]
    exact ⟨refusal, rfl, hcode⟩

/-- A request for what is held already is answered with that hold. -/
theorem LocksKept.reuses (h : LocksKept db) (raw : String) {hold : HoldRecord}
    (hlive : params.liveHold db = some hold) (hwants : params.Wants hold) :
    ∃ db', acquireHold params raw db = .ok (hold, db') ∧ LocksOnly db db'
      (expireIf (isLapsed params.serviceId params.travelDate params.nowMs)) := by
  obtain ⟨n, swept, hsweep⟩ :=
    sweepExpiredHolds_goes params.serviceId params.travelDate params.nowMs db
  have hswept := sweepExpiredHolds_ok hsweep
  have hsame : (params.liveHold swept).filter params.isSame = some hold := by
    rw [liveHold_sweep h.together hswept, hlive, Option.filter_some,
      if_pos ((h.isSame_iff hlive).mpr hwants)]
  have hbody : params.body raw db = .ok (hold, swept) := by
    rw [AcquireHold.body, Txn.bind_of_ok hsweep, Txn.bind_of_ok rfl]
    dsimp only
    rw [hsame]
    rfl
  exact ⟨swept, by rw [acquireHold, hbody], hswept⟩

end Outcomes

/-- **What taking a hold does.** From every database in store: a live hold of exactly what is asked
for is answered as it is; otherwise the request takes a new hold in place of the live one where no
seat of it is somebody else's, and is refused, leaving the database as it was, where one is. -/
theorem acquireHold_spec {db : ReservedDb} (h : Stored db) (params : AcquireHold) (raw : String)
    {holdId : String} (hseats : params.seatIds ≠ []) (hid : shortId "HLD-KSRTC" raw = .ok holdId)
    (hfresh : ∀ row ∈ db.seatLocks.rows, row.holdId ≠ some holdId) :
    (∀ hold, params.liveHold db = some hold → params.Wants hold →
      ∃ db', acquireHold params raw db = .ok (hold, db') ∧ LocksOnly db db'
        (expireIf (isLapsed params.serviceId params.travelDate params.nowMs))) ∧
    ((∀ hold, params.liveHold db = some hold → ¬ params.Wants hold) →
      ((∃ answer, acquireHold params raw db = .ok answer) ↔
        ∀ row ∈ db.seatLocks.rows, ¬ params.Blocks db row) ∧
      (∀ hold db', acquireHold params raw db = .ok (hold, db') →
        hold = params.newHold holdId ∧ params.Replaced db db' holdId) ∧
      ∀ e, acquireHold params raw db = .error e →
        (∃ refusal, e = .lifecycle refusal ∧ refusal.code = .seatUnavailable) ∧
          (Transaction.acquireHold params).leave raw db = db) := by
  refine ⟨fun hold => h.kept.reuses raw, fun hother => ?_⟩
  by_cases hblocked : ∃ row ∈ db.seatLocks.rows, params.Blocks db row
  · obtain ⟨row, hrow, hblocks⟩ := hblocked
    obtain ⟨refusal, herr, hcode⟩ := h.kept.refuses hseats hid hfresh hother hrow hblocks
    have hleave : (Transaction.acquireHold params).leave raw db = db := by
      rw [Transaction.leave, Transaction.run, herr]
    rw [herr]
    refine ⟨iff_of_false ?_ fun hfree => hfree row hrow hblocks, ?_, ?_⟩
    · rintro ⟨answer, hok⟩
      cases hok
    · intro hold db' hok
      cases hok
    · intro e he
      obtain rfl := Except.error.inj he
      exact ⟨⟨refusal, rfl, hcode⟩, hleave⟩
  · have hfree : ∀ row ∈ db.seatLocks.rows, ¬ params.Blocks db row :=
      fun row hrow hblocks => hblocked ⟨row, hrow, hblocks⟩
    obtain ⟨db', hok, hreplaced⟩ := h.kept.takes hseats hid hfresh hother hfree
    rw [hok]
    refine ⟨iff_of_true ⟨_, rfl⟩ hfree, ?_, ?_⟩
    · intro hold db'' heq
      obtain ⟨rfl, rfl⟩ := Prod.mk.inj (Except.ok.inj heq)
      exact ⟨rfl, hreplaced⟩
    · intro e he
      cases he

/-- A request of one transaction for seats of one coach. -/
def specimenRequestFor (seatIds : List String) (nowMs : ℤ) : AcquireHold :=
  ⟨"ksrtc", ⟨"bap", "https://bap", "T1"⟩, "S1", "2026-09-10", seatIds, nowMs, 600, false⟩

/-- The database with two seats of it held. -/
def specimenHeld : ReservedDb :=
  (Transaction.acquireHold (specimenRequestFor ["1", "2"] 0)).leave "a1" .empty

/-- The two seats are asked for again, in another order and one of them twice. -/
theorem acquireHold_spec_again :
    ∃ db', acquireHold (specimenRequestFor ["2", "1", "2"] 1000) "b2" specimenHeld =
      .ok ((specimenRequestFor ["1", "2"] 0).newHold "HLD-KSRTC-A1", db') ∧
        LocksOnly specimenHeld db' (expireIf (isLapsed "S1" "2026-09-10" 1000)) := by
  refine (acquireHold_spec (.step (.acquireHold (specimenRequestFor ["1", "2"] 0)) "a1" .empty)
    (specimenRequestFor ["2", "1", "2"] 1000) "b2" (by decide) rfl (by decide)).1
      ((specimenRequestFor ["1", "2"] 0).newHold "HLD-KSRTC-A1") (by decide) ⟨rfl, rfl, fun seatId => ?_⟩
  simp only [specimenRequestFor, AcquireHold.newHold, AcquireHold.seats, mem_sort, mem_unique,
    List.mem_cons, List.not_mem_nil, or_false]
  tauto

end TransitBpp
