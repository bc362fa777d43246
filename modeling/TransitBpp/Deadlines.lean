import TransitBpp.LiveHolds
import TransitBpp.Reads

/-!
# A late confirm never books

A confirm checks that its hold is live, reads the clock for `created_at`, builds its order, and only
then runs its transaction, which looks at the state of the hold and not at its expiry. That an
expired hold is never booked rests on the sweep inside the order builder: it runs under a clock
reading that is no earlier than `created_at`, and a hold it spares lapses after it.

`Deadlines` is what every run keeps: which expiry a hold was published with, and that a sweep,
once it ran, leaves nothing lapsed behind of the holds that were read before it.
-/

namespace TransitBpp

open Interleave Js

variable {db db' : ReservedDb} {t : Transaction} {raw : String} {d : Deployment}

/-! ## What a run keeps -/

/-- A hold that a select of the run was answered. -/
def Published (tr : List (Entry Op Resp)) (hold : HoldRecord) : Prop :=
  ∃ i params, (⟨i, .transaction (.acquireHold params), .ok hold⟩ : Entry Op Resp) ∈ tr

/-- The held rows of a hold lapse after an instant. -/
def LapsesAfter (db : ReservedDb) (holdId : String) (nowMs : ℤ) : Prop :=
  ∀ row ∈ db.seatLocks.rows, row.holdId = some holdId → row.state = .held →
    ∀ at_, row.expiresAt = some at_ → nowMs < at_

/-- A held row is not sold, and lapses at some instant. -/
def Dated (db : ReservedDb) : Prop :=
  ∀ row ∈ db.seatLocks.rows, row.state = .held → row.bookingId = none ∧
    ∃ at_, row.expiresAt = some at_

/-- What every run keeps of holds and their expiries. -/
structure Deadlines (s : History) : Prop where
  /-- a hold is held as a whole -/
  together : HeldTogether s.world.db
  /-- a held row is not sold, and lapses -/
  dated : Dated s.world.db
  /-- every lock is of a hold that was published -/
  taken : ∀ row ∈ s.world.db.seatLocks.rows, ∃ hold, Published s.trace hold ∧
    row.holdId = some hold.holdId
  /-- a published hold has a lock -/
  named : ∀ hold, Published s.trace hold → ∃ row ∈ s.world.db.seatLocks.rows,
    row.holdId = some hold.holdId
  /-- and while it is held it lapses when it was published to -/
  published : ∀ hold, Published s.trace hold → ∀ row ∈ s.world.db.seatLocks.rows,
    row.holdId = some hold.holdId → row.state = .held → row.expiresAt = some hold.expiresAt
  /-- readings of the clock are in order -/
  ordered : ∀ later i nowMs earlier, s.trace = later ++ ⟨i, .now, nowMs⟩ :: earlier →
    ∀ j at_, ReadClock (own j earlier) at_ → at_ ≤ nowMs
  /-- a sweep leaves no lapsed hold behind of those that were read before it -/
  swept : ∀ later i serviceId travelDate nowMs n earlier, s.trace = later ++
      ⟨i, .transaction (.sweepExpiredHolds serviceId travelDate nowMs), .ok n⟩ :: earlier →
    ∀ hold ∈ holdsRead earlier, hold.serviceId = serviceId → hold.travelDate = travelDate →
      LapsesAfter s.world.db hold.holdId nowMs
  /-- every booking was sold a lock -/
  sold : ∀ booking ∈ s.world.db.bookings.rows, ∃ row ∈ s.world.db.seatLocks.rows,
    row.bookingId = some booking.id
  /-- before the published expiry of its hold -/
  inTime : ∀ booking ∈ s.world.db.bookings.rows, ∀ row ∈ s.world.db.seatLocks.rows,
    row.bookingId = some booking.id → ∀ hold, Published s.trace hold →
      row.holdId = some hold.holdId → booking.createdAt < hold.expiresAt

theorem Deadlines.initial (clock : ℤ) (source : Source) :
    Deadlines ⟨World.initial clock source, []⟩ where
  together := fun _ h => absurd h List.not_mem_nil
  dated := fun _ h => absurd h List.not_mem_nil
  taken := fun _ h => absurd h List.not_mem_nil
  named := fun _ ⟨_, _, h⟩ => absurd h List.not_mem_nil
  published := fun _ ⟨_, _, h⟩ => absurd h List.not_mem_nil
  ordered := by simp
  swept := by simp
  sold := fun _ h => absurd h List.not_mem_nil
  inTime := fun _ h => absurd h List.not_mem_nil

/-! ## One transaction -/

theorem Dated.step (h : Dated db) {a : t.Answer} (hrun : t.run raw db = .ok (a, db')) :
    Dated db' := by
  obtain ⟨f, new, hmoved⟩ := Transaction.locks_moved hrun
  intro row hrow hs
  rw [hmoved.rows] at hrow
  rcases List.mem_append.mp hrow with hrow | hrow
  · obtain ⟨r, hr, rfl⟩ := List.mem_map.mp hrow
    have hstay := (hmoved.moves r).held hs
    rw [hstay] at hs ⊢
    exact h r hr hs
  · rcases hmoved.new with rfl | ⟨params, holdId, -, rfl, -⟩
    · cases hrow
    · rw [(AcquireHold.mem_newRows hrow).2]
      exact ⟨rfl, _, rfl⟩

/-- A lock keeps its booking. -/
theorem Dated.bookingId (h : Dated db) {row row' : LockRow} (hrow : row ∈ db.seatLocks.rows)
    (hmove : LockMove t row row') {bookingId : String} (hb : row.bookingId = some bookingId) :
    row'.bookingId = some bookingId := by
  cases hmove with
  | book params ht hid hs =>
    -- a row that can be booked has no booking yet
    rw [(h row hrow hs).1] at hb
    cases hb
  | _ => exact hb

/-- A lock that has a booking after a transaction had it before, or was just sold to it. -/
theorem lock_sold {a : t.Answer} (hrun : t.run raw db = .ok (a, db')) {row' : LockRow}
    (hrow : row' ∈ db'.seatLocks.rows) {bookingId : String}
    (hb : row'.bookingId = some bookingId) : ∃ row ∈ db.seatLocks.rows, LockMove t row row' ∧
      (row.bookingId = some bookingId ∨ ∃ params, t = .confirmBooking params ∧
        bookingId = params.orderId ∧ row.holdId = some params.holdId ∧ row.state = .held) := by
  rcases lock_after hrun hrow with ⟨row, hmem, hmove⟩ | ⟨params, holdId, -, hnew, -⟩
  · refine ⟨row, hmem, hmove, ?_⟩
    cases hmove with
    | book params ht hid hs => exact Or.inr ⟨params, ht, (Option.some.inj hb).symm, hid, hs⟩
    | _ => exact Or.inl hb
  · rw [(AcquireHold.mem_newRows hnew).2] at hb
    cases hb

/-- A lock of a hold that has locks already, held after a transaction, was so before it. -/
theorem held_before {a : t.Answer} (hrun : t.run raw db = .ok (a, db')) {row' : LockRow}
    {holdId : String} (hknown : ∃ row ∈ db.seatLocks.rows, row.holdId = some holdId)
    (hrow : row' ∈ db'.seatLocks.rows) (hid : row'.holdId = some holdId)
    (hs : row'.state = .held) : row' ∈ db.seatLocks.rows := by
  rcases lock_after hrun hrow with ⟨row, hmem, hmove⟩ | ⟨params, holdId', -, hnew, hfresh⟩
  · rwa [hmove.held hs]
  · obtain ⟨row, hmem, hrowId⟩ := hknown
    rw [(AcquireHold.mem_newRows hnew).2] at hid
    exact absurd (hrowId.trans hid.symm) (hfresh row hmem)

/-- A hold that was just taken is held until the instant it was answered with. -/
theorem acquireHold_held {params : AcquireHold} {hold : HoldRecord} (hrows : HoldRows db')
    (hdated : Dated db') (hrun : acquireHold params raw db = .ok (hold, db')) :
    ∃ row ∈ db'.seatLocks.rows, row.holdId = some hold.holdId ∧ row.state = .held ∧
      row.expiresAt = some hold.expiresAt := by
  cases acquireHold_ok hrun with
  | reused _ hlive _ =>
    obtain ⟨hfound, hstatus⟩ := Option.filter_eq_some_iff.mp hlive
    obtain ⟨newest, hmem, rows, -, hsome, -, -, rfl⟩ := findLatestHold_eq hrows hfound
    obtain ⟨hs, -⟩ := holdStatus_live.mp (of_decide_eq_true hstatus)
    obtain ⟨-, at_, hat⟩ := hdated newest hmem hs
    obtain ⟨holdId, hid⟩ := Option.isSome_iff_exists.mp hsome
    refine ⟨newest, hmem, ?_, hs, ?_⟩
    · simp [holdFromRows, hid]
    · simp [holdFromRows, hat]
  | taken _ _ _ _ hins hhold =>
    obtain ⟨seatId, hseat⟩ := List.exists_mem_of_ne_nil _ hins.seats
    rw [← params.map_seatId_newRows] at hseat
    obtain ⟨row, hrow, -⟩ := List.mem_map.mp hseat
    refine ⟨row, hins.locks ▸ List.mem_append_right _ hrow, ?_⟩
    rw [hhold, (AcquireHold.mem_newRows hrow).2]
    exact ⟨rfl, rfl, rfl⟩

/-- A lock of a hold that no lock was of before is of the hold just taken. -/
theorem acquireHold_new {params : AcquireHold} {hold : HoldRecord}
    (hrun : acquireHold params raw db = .ok (hold, db')) {row : LockRow}
    (hrow : row ∈ db'.seatLocks.rows) (hfresh : ∀ r ∈ db.seatLocks.rows, r.holdId ≠ row.holdId) :
    row.holdId = some hold.holdId := by
  have hexpired : ∀ {f : LockRow → LockRow} {rows : List LockRow},
      (∀ r, (f r).holdId = r.holdId) → (∀ r ∈ rows, r.holdId ≠ row.holdId) →
        ∀ r ∈ rows.map f, r.holdId ≠ row.holdId := by
    intro f rows hf hrows r hr
    obtain ⟨r₀, hr₀, rfl⟩ := List.mem_map.mp hr
    rw [hf]
    exact hrows r₀ hr₀
  have hsweep : ∀ r, (expireIf (isLapsed params.serviceId params.travelDate params.nowMs)
      r).holdId = r.holdId := fun r => by
    rw [expireIf, setIf]
    split <;> rfl
  have hrelease : ∀ live r, (releaseHoldRow live r).holdId = r.holdId := fun live r => by
    rw [releaseHoldRow, setIf]
    split <;> rfl
  cases acquireHold_ok hrun with
  | reused hswept _ _ =>
    rw [hswept.locks] at hrow
    exact absurd rfl (hexpired hsweep hfresh row hrow)
  | taken hswept _ hreleased _ hins hhold =>
    rw [hins.locks, hreleased.locks, hswept.locks] at hrow
    rcases List.mem_append.mp hrow with hrow | hrow
    · exact absurd rfl (hexpired (hrelease _) (hexpired hsweep hfresh) row hrow)
    · rw [hhold, (AcquireHold.mem_newRows hrow).2]
      rfl

/-- A hold that was answered before, or is the one just taken. -/
theorem published_cons {tr : List (Entry Op Resp)} {i : ℕ} {op : Op} {r : Resp op}
    {hold : HoldRecord} (h : Published (⟨i, op, r⟩ :: tr) hold) :
    Published tr hold ∨ ∃ params,
      (⟨op, r⟩ : Line Op Resp) = ⟨.transaction (.acquireHold params), .ok hold⟩ := by
  obtain ⟨j, params, hmem⟩ := h
  rcases List.mem_cons.mp hmem with heq | hmem
  · exact Or.inr ⟨params, (congrArg Entry.line heq).symm⟩
  · exact Or.inl ⟨j, params, hmem⟩

theorem Published.cons {tr : List (Entry Op Resp)} {hold : HoldRecord} (h : Published tr hold)
    (e : Entry Op Resp) : Published (e :: tr) hold := by
  obtain ⟨i, params, hmem⟩ := h
  exact ⟨i, params, List.mem_cons_of_mem _ hmem⟩

/-! ## The step -/

section Step

variable {s : History} {i : ℕ} {req : Request} {a : t.Answer} {w : World}

/-- Clock readings stay in order: a new one is the clock's, and no earlier one was ahead of it. -/
theorem Deadlines.ordered_step (h : Deadlines s) (hbase : Base s) {o : Choice} {op : Op}
    {r : Resp op} (hexec : s.world.exec d req.process o op = some (w, r)) :
    ∀ later j nowMs earlier, (⟨i, op, r⟩ : Entry Op Resp) :: s.trace =
      later ++ ⟨j, .now, nowMs⟩ :: earlier →
        ∀ k at_, ReadClock (own k earlier) at_ → at_ ≤ nowMs := by
  intro later j nowMs earlier heq k at_ hread
  rcases later with _ | ⟨e, later⟩
  · obtain ⟨hnow, rfl⟩ := List.cons.inj heq
    cases hnow
    obtain ⟨-, rfl⟩ := Prod.mk.inj (Option.some.inj hexec)
    exact hbase.clock k at_ hread
  · exact h.ordered later j nowMs earlier (List.cons.inj heq).2 k at_ hread

/-- An operation that commits nothing keeps the deadlines. -/
theorem Deadlines.quiet (h : Deadlines s) (hbase : Base s) {o : Choice} {op : Op} {r : Resp op}
    (hexec : s.world.exec d req.process o op = some (w, r)) (hdb : w.db = s.world.db)
    (hnot : ∀ t a, (⟨op, r⟩ : Line Op Resp) ≠ ⟨.transaction t, .ok a⟩) :
    Deadlines ⟨w, ⟨i, op, r⟩ :: s.trace⟩ := by
  have hold : ∀ hold, Published (⟨i, op, r⟩ :: s.trace) hold → Published s.trace hold :=
    fun hold hp => (published_cons hp).resolve_right fun ⟨_, heq⟩ => hnot _ _ heq
  refine ⟨?_, ?_, ?_, ?_, ?_, h.ordered_step hbase hexec, ?_, ?_, ?_⟩ <;>
    simp only [hdb]
  · exact h.together
  · exact h.dated
  · intro row hrow
    obtain ⟨hold, hp, hid⟩ := h.taken row hrow
    exact ⟨hold, hp.cons _, hid⟩
  · exact fun hold' hp => h.named hold' (hold hold' hp)
  · exact fun hold' hp => h.published hold' (hold hold' hp)
  · intro later j serviceId travelDate nowMs n earlier heq
    rcases later with _ | ⟨e, later⟩
    · exact absurd (congrArg Entry.line (List.cons.inj heq).1) (hnot _ _)
    · exact h.swept later j serviceId travelDate nowMs n earlier (List.cons.inj heq).2
  · exact h.sold
  · exact fun booking hb row hrow hid hold' hp => h.inTime booking hb row hrow hid hold'
      (hold hold' hp)

/-- **In time.** The hold a confirm is about to book lapses after the confirm's own reading of the
clock: it was swept for since. -/
theorem Deadlines.confirm_in_time (h : Deadlines s) (run : ConfirmRun d req (own i s.trace)) :
    LapsesAfter s.world.db run.hold.holdId run.nowMs := by
  -- the last things read, newest first, are the claims, the sweep, its clock, an id, the clock
  have hlines := run.built.lines
  obtain ⟨later, tr, hsweep, hbefore⟩ := own_eq_append_cons [_] hlines
  obtain ⟨later', tr', hnow, hbefore'⟩ := own_eq_append_cons [_, _] hlines
  have hclock : run.nowMs ≤ run.built.nowMs := by
    refine h.ordered later' i run.built.nowMs tr' hnow i run.nowMs ?_
    rw [hbefore']
    exact List.mem_cons_of_mem _ (List.mem_cons_self ..)
  have hread : (⟨.findLatestHold d.operatorKey (identityOf run.context), .ok (some run.hold)⟩ :
      Line Op Resp) ∈ own i tr := by
    rw [hbefore]
    exact List.mem_cons_of_mem _ (List.mem_cons_of_mem _ (List.mem_cons_of_mem _ run.holdRead))
  obtain ⟨-, -, hservice, hdate⟩ := assertHoldLive_ok run.checked.live
  intro row hrow hid hs at_ hat
  exact lt_of_le_of_lt hclock
    (h.swept later i _ _ _ _ tr hsweep run.hold (mem_holdsRead hread) hservice hdate row hrow hid
      hs at_ hat)

/-- What a published hold is after a transaction: as it was, or just taken. -/
theorem Deadlines.published_step (h : Deadlines s) (hrows : HoldRows w.db) (hdated : Dated w.db)
    (htogether : HeldTogether w.db) (hrun : t.run raw s.world.db = .ok (a, w.db))
    {hold : HoldRecord} (hp : Published (⟨i, .transaction t, .ok a⟩ :: s.trace) hold) :
    (Published s.trace hold ∧ ∃ row ∈ s.world.db.seatLocks.rows, row.holdId = some hold.holdId) ∨
      (∃ row ∈ w.db.seatLocks.rows, row.holdId = some hold.holdId) ∧
        ∀ row ∈ w.db.seatLocks.rows, row.holdId = some hold.holdId →
          row.state = .held ∧ row.expiresAt = some hold.expiresAt := by
  rcases published_cons hp with hp | ⟨params, heq⟩
  · exact Or.inl ⟨hp, h.named hold hp⟩
  · cases heq
    obtain ⟨row, hrow, hid, hs, hat⟩ := acquireHold_held hrows hdated hrun
    refine Or.inr ⟨⟨row, hrow, hid⟩, fun row' hrow' hid' => ?_⟩
    obtain ⟨hs', hat'⟩ := htogether row hrow row' hrow' (hid.trans hid'.symm) hs
    exact ⟨hs', hat'.trans hat⟩

/-- A sweep leaves no row of its departure behind that has lapsed. -/
theorem lapsesAfter_of_sweep {serviceId travelDate : String} {nowMs : ℤ} {n : ℕ}
    (hrun : sweepExpiredHolds serviceId travelDate nowMs db = .ok (n, db')) {hold : HoldRecord}
    (hfits : Fits db hold) (hservice : hold.serviceId = serviceId)
    (hdate : hold.travelDate = travelDate) : LapsesAfter db' hold.holdId nowMs := by
  have hswept := sweepExpiredHolds_ok hrun
  intro row hrow hid hs at_ hat
  rw [hswept.locks] at hrow
  obtain ⟨r, hr, rfl⟩ := List.mem_map.mp hrow
  by_cases hl : isLapsed serviceId travelDate nowMs r = true
  · simp [expireIf, setIf, hl] at hs
  · rw [expireIf_of_not (Bool.not_eq_true _ ▸ hl)] at hid hs hat
    obtain ⟨hrs, hrd⟩ := hfits.departure r hr hid
    simpa [isLapsed, hs, hrs, hrd, hservice, hdate, hat] using hl

/-- The step lemma for what committed. -/
theorem Deadlines.commit (h : Deadlines s) (hbase : Base s)
    (hbase' : Base ⟨w, ⟨i, .transaction t, .ok a⟩ :: s.trace⟩)
    (hknows : Knows d req (own i s.trace) (.transaction t)) {o : Choice}
    (hexec : s.world.exec d req.process o (.transaction t) = some (w, .ok a))
    (hrun : t.run raw s.world.db = .ok (a, w.db)) :
    Deadlines ⟨w, ⟨i, .transaction t, .ok a⟩ :: s.trace⟩ := by
  have htogether : HeldTogether w.db := h.together.step hbase.store.rows hrun
  have hdated : Dated w.db := h.dated.step hrun
  have hpublished := fun hold (hp : Published (⟨i, .transaction t, .ok a⟩ :: s.trace) hold) =>
    h.published_step hbase'.store.rows hdated htogether hrun hp
  refine ⟨htogether, hdated, ?_, ?_, ?_, h.ordered_step hbase hexec, ?_, ?_, ?_⟩
  · -- a lock is one there was, or of the hold that was just published
    intro row hrow
    rcases lock_after hrun hrow with ⟨r, hr, hmove⟩ | ⟨params, holdId, ht, hnew, hfresh⟩
    · obtain ⟨hold, hp, hid⟩ := h.taken r hr
      exact ⟨hold, hp.cons _, hmove.same.holdId.trans hid⟩
    · subst ht
      refine ⟨a, ⟨i, params, List.mem_cons_self ..⟩, acquireHold_new hrun hrow ?_⟩
      rw [(AcquireHold.mem_newRows hnew).2]
      exact hfresh
  · intro hold hp
    rcases hpublished hold hp with ⟨-, row, hrow, hid⟩ | ⟨hnamed, -⟩
    · obtain ⟨row', hrow', hmove⟩ := lock_stays hrun hrow
      exact ⟨row', hrow', hmove.same.holdId.trans hid⟩
    · exact hnamed
  · intro hold hp row hrow hid hs
    rcases hpublished hold hp with ⟨hp, hknown⟩ | ⟨-, hall⟩
    · exact h.published hold hp row (held_before hrun hknown hrow hid hs) hid hs
    · exact (hall row hrow hid).2
  · intro later j serviceId travelDate nowMs n earlier heq hold hread hservice hdate
    rcases later with _ | ⟨e, later⟩
    · obtain ⟨hentry, rfl⟩ := List.cons.inj heq
      cases hentry
      exact lapsesAfter_of_sweep hrun (hbase.store.fits hold hread) hservice hdate
    · have htr := (List.cons.inj heq).2
      have hlapses := h.swept later j serviceId travelDate nowMs n earlier htr hold hread hservice
        hdate
      have hmem : hold ∈ holdsRead s.trace := by
        rw [htr]
        obtain ⟨e, he, hhold⟩ := List.mem_filterMap.mp hread
        exact List.mem_filterMap.mpr
          ⟨e, List.mem_append_right _ (List.mem_cons_of_mem _ he), hhold⟩
      intro row hrow hid hs
      exact hlapses row (held_before hrun (hbase.store.fits hold hmem).row hrow hid hs) hid hs
  · intro booking hbooking
    rcases booking_after hrun hbooking with ⟨b, hb, hsame⟩ | ⟨params, rfl, rfl⟩
    · obtain ⟨row, hrow, hid⟩ := h.sold b hb
      obtain ⟨row', hrow', hmove⟩ := lock_stays hrun hrow
      exact ⟨row', hrow', hsame.id ▸ h.dated.bookingId hrow hmove hid⟩
    · -- the hold has a lock, and the confirm booked all of its locks
      obtain ⟨run, rfl⟩ := hknows
      have hbooked := confirmBooking_ok hrun
      have hfits := hbase.store.fits run.hold (mem_holdsRead run.read)
      obtain ⟨row, hrow, hid⟩ := hfits.row
      have hs := hbooked.all_held hbase.store.rows hfits run.names row hrow hid
      refine ⟨bookHold run.params row, hbooked.locks ▸ List.mem_map_of_mem hrow, ?_⟩
      rw [bookHold, setIf, if_pos (by simp [hs, hid, ConfirmRun.params, newBooking])]
      rfl
  · intro booking hbooking row hrow hid hold hp hholdId
    rcases hpublished hold hp with ⟨hp₀, -⟩ | ⟨-, hall⟩
    · obtain ⟨r, hr, hmove, hsold⟩ := lock_sold hrun hrow hid
      rw [hmove.same.holdId] at hholdId
      rcases booking_after hrun hbooking with ⟨b, hb, hsame⟩ | ⟨params, rfl, rfl⟩
      · rw [hsame.createdAt]
        rcases hsold with hsold | ⟨params, rfl, horder, -, -⟩
        · exact h.inTime b hb r hr (hsame.id ▸ hsold) hold hp₀ hholdId
        · exact absurd (hsame.id.symm.trans horder) ((confirmBooking_ok hrun).fresh b hb)
      · obtain ⟨run, rfl⟩ := hknows
        rcases hsold with hsold | ⟨params, hparams, -, hrid, hs⟩
        · obtain ⟨b, hb, hbid⟩ := hbase.store.linked.owned r hr _ hsold
          exact absurd hbid ((confirmBooking_ok hrun).fresh b hb)
        · obtain rfl := Transaction.confirmBooking.inj hparams
          exact h.confirm_in_time run r hr hrid hs _ (h.published hold hp₀ r hr hholdId hs)
    · exact absurd ((hdated row hrow (hall row hrow hholdId).1).1.symm.trans hid) (by simp)

end Step

/-! ## Runs -/

/-- **A late confirm never books.** In every run of the provider, whatever is interleaved and
however long each request takes between its operations: every booking was sold a lock of a hold
that some select was answered; while the hold is held, it lapses when that answer said; and every
booking sold a lock of it was created strictly before. -/
theorem late_confirm_never_books {clock : ℤ} {source : Source} {c : Pool}
    (h : Reach (provider d) (fun _ _ => True) ⟨⟨World.initial clock source, []⟩, []⟩ c) :
    (∀ booking ∈ c.hist.world.db.bookings.rows, ∃ row ∈ c.hist.world.db.seatLocks.rows,
      row.bookingId = some booking.id ∧ ∃ hold, Published c.hist.trace hold ∧
        row.holdId = some hold.holdId) ∧
    ∀ hold, Published c.hist.trace hold → ∀ row ∈ c.hist.world.db.seatLocks.rows,
      row.holdId = some hold.holdId →
        (row.state = .held → row.expiresAt = some hold.expiresAt) ∧
        ∀ booking ∈ c.hist.world.db.bookings.rows, row.bookingId = some booking.id →
          booking.createdAt < hold.expiresAt := by
  obtain ⟨-, -, hinv⟩ := run_keeps Deadlines (Deadlines.initial clock source)
    (fun hbase _ hinv _ hknows hdoes => by
      have hbase' := hbase.perform hknows hdoes
      obtain ⟨o, w, hexec, rfl⟩ := hdoes
      rcases World.exec_db hexec with ⟨hdb, hnot⟩ | ⟨t, a, heq, hrun⟩
      · exact hinv.quiet hbase hexec hdb hnot
      · cases heq
        exact hinv.commit hbase hbase' hknows hexec hrun)
    (fun hinv hdb _ => by
      refine ⟨?_, ?_, ?_, ?_, ?_, hinv.ordered, ?_, ?_, ?_⟩ <;> rw [hdb]
      exacts [hinv.together, hinv.dated, hinv.taken, hinv.named, hinv.published, hinv.swept,
        hinv.sold, hinv.inTime]) h
  refine ⟨fun booking hbooking => ?_, fun hold hp row hrow hid => ?_⟩
  · obtain ⟨row, hrow, hsold⟩ := hinv.sold booking hbooking
    exact ⟨row, hrow, hsold, hinv.taken row hrow⟩
  · exact ⟨hinv.published hold hp row hrow hid,
      fun booking hbooking hsold => hinv.inTime booking hbooking row hrow hsold hold hp hid⟩

/-- A sale, nine minutes into a hold of ten. -/
theorem late_confirm_never_books_specimen : ∃ c,
    Reach (provider specimenDeployment) (fun _ _ => True) specimenStart c ∧
    (c.hist.world.db.bookings.rows.map BookingRow.createdAt) = [specimenClock + 540000] ∧
    (∀ booking ∈ c.hist.world.db.bookings.rows, ∃ row ∈ c.hist.world.db.seatLocks.rows,
      row.bookingId = some booking.id ∧ ∃ hold, Published c.hist.trace hold ∧
        row.holdId = some hold.holdId) ∧
    ∀ hold, Published c.hist.trace hold → ∀ row ∈ c.hist.world.db.seatLocks.rows,
      row.holdId = some hold.holdId →
        (row.state = .held → row.expiresAt = some hold.expiresAt) ∧
        ∀ booking ∈ c.hist.world.db.bookings.rows, row.bookingId = some booking.id →
          booking.createdAt < hold.expiresAt := by
  have hrun : (specimenStart.follow (provider specimenDeployment) (fun _ _ => true)
      ([.start (specimenSelect "T1" ["1", "2"])] ++ steps 0 12 "a1" ++ [.env (.tick 540000)] ++
        [.start (specimenConfirm 0 "T1" [("1", "A", "female"), ("2", "B", "male")] [])] ++
          steps 1 21 "b1")).map
        (fun c => c.hist.world.db.bookings.rows.map BookingRow.createdAt) =
      some [specimenClock + 540000] := by
    decide +kernel
  obtain ⟨c, hfollow, hcreated⟩ := Option.map_eq_some_iff.mp hrun
  have hreach : Reach (provider specimenDeployment) (fun _ _ => True) specimenStart c :=
    (Config.follow_reach .refl hfollow).mono fun _ _ _ => trivial
  exact ⟨c, hreach, hcreated, late_confirm_never_books hreach⟩

end TransitBpp
