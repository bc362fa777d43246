import Mathlib.Data.List.Induction
import TransitBpp.Runs

/-!
# One live hold per transaction

A select replaces the hold its transaction had, which it finds through `findLatestHold`: the
newest by the clock reading the hold was taken under, not by insertion. `LatestLive` is the
invariant behind "at most one live hold": every live row belongs to the newest hold. It survives
everything but a hold that is inserted under a clock reading older than one already stored, and
`TakenInOrder` is the condition that none is.
-/

namespace TransitBpp

open Interleave Js

variable {db db' : ReservedDb} {t : Transaction} {raw : String} {operator : String}
variable {identity : ReservedIdentity} {d : Deployment}

/-! ## The newest row -/

/-- The first of some rows under `ORDER BY created_at DESC, rowid DESC`. -/
def newestRow (rows : List LockRow) : Option LockRow :=
  (rows.reverse.insertionSort fun a b => b.createdAt ≤ a.createdAt).head?

theorem newestRow_append_singleton (rows : List LockRow) (row : LockRow) :
    newestRow (rows ++ [row]) = match newestRow rows with
      | none => some row
      | some newest => if newest.createdAt ≤ row.createdAt then some row else some newest := by
  rw [newestRow, List.reverse_append, List.reverse_singleton, List.singleton_append,
    List.insertionSort_cons, newestRow]
  cases rows.reverse.insertionSort fun a b : LockRow => b.createdAt ≤ a.createdAt with
  | nil => rfl
  | cons newest rest =>
    rw [List.orderedInsert_cons]
    by_cases h : newest.createdAt ≤ row.createdAt <;> simp [h]

theorem newestRow_mem {rows : List LockRow} {newest : LockRow} (h : newestRow rows = some newest) :
    newest ∈ rows := by
  have hmem := List.mem_of_mem_head? h
  rwa [List.mem_insertionSort, List.mem_reverse] at hmem

theorem newestRow_isSome {rows : List LockRow} {row : LockRow} (h : row ∈ rows) :
    ∃ newest, newestRow rows = some newest := by
  rcases hn : newestRow rows with _ | newest
  · rw [newestRow, List.head?_eq_none_iff] at hn
    have hmem : row ∈ rows.reverse.insertionSort fun a b => b.createdAt ≤ a.createdAt := by
      rwa [List.mem_insertionSort, List.mem_reverse]
    rw [hn] at hmem
    cases hmem
  · exact ⟨newest, rfl⟩

/-- The newest row is the newest. -/
theorem newestRow_ge {rows : List LockRow} {newest : LockRow} (h : newestRow rows = some newest) :
    ∀ row ∈ rows, row.createdAt ≤ newest.createdAt := by
  induction rows using List.reverseRecOn generalizing newest with
  | nil => exact fun row hr => by cases hr
  | append_singleton rows last ih =>
    rw [newestRow_append_singleton] at h
    intro row hrow
    rcases hn : newestRow rows with _ | before
    · rw [hn] at h
      obtain rfl := Option.some.inj h
      rcases List.mem_append.mp hrow with hrow | hrow
      · obtain ⟨n, hsome⟩ := newestRow_isSome hrow
        rw [hn] at hsome
        cases hsome
      · rw [List.mem_singleton.mp hrow]
    · rw [hn] at h
      dsimp only at h
      have hbefore := ih hn
      split at h <;> obtain rfl := Option.some.inj h
      · rcases List.mem_append.mp hrow with hrow | hrow
        · exact (hbefore row hrow).trans ‹_›
        · rw [List.mem_singleton.mp hrow]
      · rcases List.mem_append.mp hrow with hrow | hrow
        · exact hbefore row hrow
        · rw [List.mem_singleton.mp hrow]
          omega

/-- Rows appended under a clock reading no older than any other hold the newest. -/
theorem newestRow_append {rows new : List LockRow} (hnew : new ≠ [])
    (hge : ∀ row ∈ new, ∀ row' ∈ rows, row'.createdAt ≤ row.createdAt) :
    ∃ newest ∈ new, newestRow (rows ++ new) = some newest := by
  induction new using List.reverseRecOn with
  | nil => exact absurd rfl hnew
  | append_singleton new last ih =>
    rw [← List.append_assoc, newestRow_append_singleton]
    have hlast : last ∈ new ++ [last] := List.mem_append_right _ (List.mem_singleton_self _)
    rcases hn : newestRow (rows ++ new) with _ | newest
    · exact ⟨last, hlast, rfl⟩
    · dsimp only
      split
      · exact ⟨last, hlast, rfl⟩
      · rename_i hlt
        rcases List.mem_append.mp (newestRow_mem hn) with hold | hmem
        · exact absurd (hge last hlast newest hold) hlt
        · exact ⟨newest, List.mem_append_left _ hmem, rfl⟩

/-- Moving rows in place, and appending other transactions' rows, moves the rows of a transaction's
holds in place. -/
theorem holdRowsOf_map {f : LockRow → LockRow} {new : List LockRow}
    (hsame : ∀ row, SameLock row (f row))
    (hrows : db'.seatLocks.rows = db.seatLocks.rows.map f ++ new)
    (hnew : ∀ row ∈ new, ¬ (row.operator = operator ∧ row.identity = identity)) :
    db'.holdRowsOf operator identity = (db.holdRowsOf operator identity).map f := by
  have hnil : new.filter (fun row => row.operator = operator && row.identity = identity &&
      row.holdId.isSome) = [] := by
    refine List.filter_eq_nil_iff.mpr fun row hrow hcols => hnew row hrow ?_
    simp only [Bool.and_eq_true, decide_eq_true_eq] at hcols
    exact hcols.1
  have hfilter : ∀ rows : List LockRow, ((rows.map f).filter fun row =>
      row.operator = operator && row.identity = identity && row.holdId.isSome) =
        (rows.filter fun row => row.operator = operator && row.identity = identity &&
          row.holdId.isSome).map f := by
    intro rows
    rw [List.filter_map]
    refine congrArg (List.map f) (List.filter_congr fun row _ => ?_)
    simp only [Function.comp_apply, (hsame row).operator, (hsame row).identity,
      (hsame row).holdId]
  rw [ReservedDb.holdRowsOf, hrows, List.filter_append, hnil, List.append_nil, hfilter,
    ← List.map_reverse, ReservedDb.holdRowsOf]
  refine (List.map_insertionSort _ _ _ _ fun a _ b _ => ?_).symm
  rw [(hsame a).createdAt, (hsame b).createdAt]

/-! ## A hold is held as a whole -/

/-- If one row of a hold is held, all are, until the same instant. -/
def HeldTogether (db : ReservedDb) : Prop :=
  ∀ row ∈ db.seatLocks.rows, ∀ row' ∈ db.seatLocks.rows, row.holdId = row'.holdId →
    row.state = .held → row'.state = .held ∧ row'.expiresAt = row.expiresAt

/-- The step lemma for an update: it takes rows out of `held`, and takes all of a hold or none. -/
theorem HeldTogether.setIf (h : HeldTogether db) {p : LockRow → Bool} {g : LockRow → LockRow}
    (hrows : db'.seatLocks.rows = db.seatLocks.rows.map (setIf p g))
    (hg : ∀ row, p row = true → (g row).state ≠ .held ∧ (g row).holdId = row.holdId)
    (hp : ∀ row ∈ db.seatLocks.rows, ∀ row' ∈ db.seatLocks.rows, row.holdId = row'.holdId →
      row.state = .held → row'.state = .held → row'.expiresAt = row.expiresAt →
        p row' = true → p row = true) : HeldTogether db' := by
  have hholdId : ∀ row, (TransitBpp.setIf p g row).holdId = row.holdId := by
    intro row
    rw [TransitBpp.setIf]
    split
    · rename_i hrow
      exact (hg row hrow).2
    · rfl
  have hstay : ∀ row, (TransitBpp.setIf p g row).state = .held →
      p row = false ∧ TransitBpp.setIf p g row = row := by
    intro row hstate
    rw [TransitBpp.setIf] at hstate ⊢
    split at hstate
    · rename_i hrow
      exact absurd hstate (hg row hrow).1
    · rename_i hrow
      exact ⟨Bool.not_eq_true _ ▸ hrow, if_neg hrow⟩
  intro row hrow row' hrow' heq hstate
  rw [hrows] at hrow hrow'
  obtain ⟨r, hr, rfl⟩ := List.mem_map.mp hrow
  obtain ⟨r', hr', rfl⟩ := List.mem_map.mp hrow'
  rw [hholdId, hholdId] at heq
  obtain ⟨hpr, hkeep⟩ := hstay r hstate
  rw [hkeep] at hstate ⊢
  obtain ⟨hstate', hexpiry⟩ := h r hr r' hr' heq hstate
  have hkeep' : TransitBpp.setIf p g r' = r' := by
    rw [TransitBpp.setIf, if_neg]
    intro hpr'
    rw [hp r hr r' hr' heq hstate hstate' hexpiry hpr'] at hpr
    cases hpr
  rw [hkeep']
  exact ⟨hstate', hexpiry⟩

theorem HeldTogether.of_eq (h : HeldTogether db) (heq : db'.seatLocks = db.seatLocks) :
    HeldTogether db' := by
  rw [HeldTogether, heq]
  exact h

/-- A sweep of one departure takes all of a hold or none. -/
theorem HeldTogether.sweep (h : HeldTogether db) (hrows : HoldRows db)
    {serviceId travelDate : String} {nowMs : ℤ}
    (hswept : LocksOnly db db' (expireIf (isLapsed serviceId travelDate nowMs))) :
    HeldTogether db' := by
  refine h.setIf hswept.locks (fun row _ => ⟨by simp, rfl⟩) ?_
  intro row hr row' hr' heq hstate hstate' hexpiry hlapsed
  obtain ⟨hservice, hdate, -⟩ := hrows.agree row hr row' hr' heq
  simpa [isLapsed, hstate, hstate', hservice, hdate, hexpiry] using hlapsed

theorem HeldTogether.release (h : HeldTogether db) {live : Option HoldRecord}
    (hreleased : LocksOnly db db' (releaseHoldRow live)) : HeldTogether db' := by
  refine h.setIf hreleased.locks (fun row _ => ⟨by simp, rfl⟩) ?_
  intro row _ row' _ heq hstate hstate' _ hmine
  cases live with
  | none => cases hmine
  | some hold => simpa [hstate, hstate', heq] using hmine

/-- Rows of a new hold are held as a whole. -/
theorem HeldTogether.insert (h : HeldTogether db) {params : AcquireHold} {holdId : String}
    (hins : HoldInserted params db db' holdId) : HeldTogether db' := by
  have hfresh := findHoldById_eq_none hins.fresh
  intro row hrow row' hrow' heq hstate
  rw [hins.locks] at hrow hrow'
  rcases List.mem_append.mp hrow with hrow | hrow <;>
    rcases List.mem_append.mp hrow' with hrow' | hrow'
  · exact h row hrow row' hrow' heq hstate
  · rw [(AcquireHold.mem_newRows hrow').2] at heq
    exact absurd heq (hfresh row hrow)
  · rw [(AcquireHold.mem_newRows hrow).2] at heq
    exact absurd heq.symm (hfresh row' hrow')
  · rw [(AcquireHold.mem_newRows hrow).2, (AcquireHold.mem_newRows hrow').2]
    exact ⟨rfl, rfl⟩

/-- The step lemma. -/
theorem HeldTogether.step (h : HeldTogether db) (hrows : HoldRows db) :
    ∀ {t : Transaction} {a : t.Answer}, t.run raw db = .ok (a, db') → HeldTogether db'
  | .sweepExpiredHolds _ _ _, _, hrun => h.sweep hrows (sweepExpiredHolds_ok hrun)
  | .sweepExpiredHoldsForServices serviceIds travelDate nowMs, _, hrun => by
    refine h.setIf (sweepExpiredHoldsForServices_ok hrun).locks (fun row _ => ⟨by simp, rfl⟩) ?_
    intro row hr row' hr' heq hstate hstate' hexpiry hlapsed
    obtain ⟨hservice, hdate, -⟩ := hrows.agree row hr row' hr' heq
    simpa [isLapsedIn, hstate, hstate', hservice, hdate, hexpiry] using hlapsed
  | .acquireHold _, _, hrun => by
    cases acquireHold_ok hrun with
    | reused hswept _ _ => exact h.sweep hrows hswept
    | taken hswept _ hreleased _ hins _ =>
      exact ((h.sweep hrows hswept).release hreleased).insert hins
  | .confirmBooking params, _, hrun => by
    refine h.setIf (confirmBooking_ok hrun).locks (fun row _ => ⟨by simp, rfl⟩) ?_
    intro row _ row' _ heq hstate hstate' _ hmine
    simpa [hstate, hstate', heq] using hmine
  | .applyCancellation params, _, hrun => by
    refine h.setIf (applyCancellation_ok hrun).locks (fun row _ => ⟨by simp, rfl⟩) ?_
    intro row _ row' _ _ _ hstate' _ hmine
    simp [hstate'] at hmine
  | .saveRefundQuote _, _, hrun => h.of_eq (saveRefundQuote_ok hrun).2.1
  | .updateStoredOrder _ _, _, hrun => h.of_eq (updateStoredOrder_ok hrun).locks
  | .clearManifests _, _, hrun => by
    obtain ⟨_, hcleared⟩ := clearManifests_ok hrun
    exact h.of_eq hcleared.locks

/-! ## The live hold of a transaction -/

/-- A row of a transaction that is held, and until later than now. -/
def LockRow.isLiveFor (operator : String) (identity : ReservedIdentity) (now : ℤ)
    (row : LockRow) : Bool :=
  row.operator = operator && row.identity = identity && row.state = .held &&
    row.expiresAt.any fun at_ => now < at_

/-- At most one hold of a transaction is live, and `findLatestHold` answers it with exactly its
seats. -/
structure OneLiveHold (db : ReservedDb) (operator : String) (identity : ReservedIdentity)
    (now : ℤ) : Prop where
  /-- live rows are of one hold -/
  one : ∀ row ∈ db.seatLocks.rows, ∀ row' ∈ db.seatLocks.rows,
    row.isLiveFor operator identity now = true → row'.isLiveFor operator identity now = true →
      row.holdId = row'.holdId
  /-- which is the one that is found -/
  latest : ∀ row ∈ db.seatLocks.rows, row.isLiveFor operator identity now = true →
    ∃ hold, db.findLatestHold operator identity = some hold ∧ row.holdId = some hold.holdId ∧
      hold.seatIds.Perm ((db.seatLocks.rows.filter fun row =>
        row.isLiveFor operator identity now).map LockRow.seatId)

/-- Every live row of a transaction belongs to its newest hold. -/
def LatestLive (db : ReservedDb) (operator : String) (identity : ReservedIdentity) (now : ℤ) :
    Prop :=
  ∀ row ∈ db.seatLocks.rows, row.isLiveFor operator identity now = true →
    ∀ newest, (db.holdRowsOf operator identity).head? = some newest →
      newest.holdId = row.holdId

theorem LockRow.isLiveFor_iff {operator : String} {identity : ReservedIdentity} {now : ℤ}
    {row : LockRow} : row.isLiveFor operator identity now = true ↔
      row.operator = operator ∧ row.identity = identity ∧ row.state = .held ∧
        ∃ at_, row.expiresAt = some at_ ∧ now < at_ := by
  simp only [isLiveFor, Bool.and_eq_true, decide_eq_true_eq, Option.any_eq_true_iff_get, and_assoc]
  refine and_congr_right fun _ => and_congr_right fun _ => and_congr_right fun _ => ?_
  cases row.expiresAt <;> simp

/-- A row of a transaction is among the rows `findLatestHold` reads. -/
theorem mem_holdRowsOf {row : LockRow} : row ∈ db.holdRowsOf operator identity ↔
    row ∈ db.seatLocks.rows ∧ row.operator = operator ∧ row.identity = identity ∧
      row.holdId.isSome := by
  rw [ReservedDb.holdRowsOf, List.mem_insertionSort, List.mem_reverse, List.mem_filter]
  simp [and_assoc]

theorem head?_holdRowsOf {row : LockRow} (h : row ∈ db.holdRowsOf operator identity) :
    ∃ newest ∈ db.holdRowsOf operator identity,
      (db.holdRowsOf operator identity).head? = some newest := by
  rcases hh : (db.holdRowsOf operator identity).head? with _ | newest
  · rw [List.head?_eq_none_iff.mp hh] at h
    cases h
  · exact ⟨newest, List.mem_of_mem_head? hh, rfl⟩

/-- The invariant gives the property. -/
theorem LatestLive.oneLiveHold {now : ℤ} (h : LatestLive db operator identity now)
    (hrows : HoldRows db) (hheld : HeldTogether db) : OneLiveHold db operator identity now := by
  have hmine : ∀ row ∈ db.seatLocks.rows, row.isLiveFor operator identity now = true →
      ∃ newest ∈ db.seatLocks.rows, (db.holdRowsOf operator identity).head? = some newest ∧
        newest.holdId = row.holdId := by
    intro row hrow hlive
    obtain ⟨ho, hi, -, -⟩ := LockRow.isLiveFor_iff.mp hlive
    obtain ⟨newest, hmem, hhead⟩ := head?_holdRowsOf
      (mem_holdRowsOf.mpr ⟨hrow, ho, hi, hrows.named row hrow⟩)
    exact ⟨newest, (mem_holdRowsOf.mp hmem).1, hhead, h row hrow hlive newest hhead⟩
  have hone : ∀ row ∈ db.seatLocks.rows, ∀ row' ∈ db.seatLocks.rows,
      row.isLiveFor operator identity now = true →
        row'.isLiveFor operator identity now = true → row.holdId = row'.holdId := by
    intro row hrow row' hrow' hlive hlive'
    obtain ⟨newest, -, hhead, hid⟩ := hmine row hrow hlive
    exact hid.symm.trans (h row' hrow' hlive' newest hhead)
  refine ⟨hone, fun row hrow hlive => ?_⟩
  obtain ⟨newest, hnewest, hhead, hid⟩ := hmine row hrow hlive
  obtain ⟨holdId, hsome⟩ := Option.isSome_iff_exists.mp (hrows.named row hrow)
  have hread : db.findLatestHold operator identity = some (holdFromRows newest
      ((db.holdRowsOf operator identity).filter fun row => row.holdId = newest.holdId)) := by
    rw [ReservedDb.findLatestHold, hhead]
    rfl
  have hholdId : (holdFromRows newest ((db.holdRowsOf operator identity).filter
      fun row => row.holdId = newest.holdId)).holdId = holdId := by
    change newest.holdId.getD "" = holdId
    rw [hid, hsome]
    rfl
  refine ⟨_, hread, hholdId.symm ▸ hsome, ?_⟩
  refine (Fits.of_read hrows hread).seats.symm.trans ?_
  -- the rows of the hold are the live rows of the transaction
  rw [hholdId, ReservedDb.seatsOfHold]
  refine List.Perm.of_eq (congrArg _ (List.filter_congr fun row' hrow' => ?_))
  rw [Bool.eq_iff_iff, decide_eq_true_eq]
  constructor
  · intro hid'
    obtain ⟨ho, hi, hs, at_, hat, hlt⟩ := LockRow.isLiveFor_iff.mp hlive
    obtain ⟨-, -, ho', hi', -⟩ := hrows.agree row hrow row' hrow' (hsome.trans hid'.symm)
    obtain ⟨hs', hat'⟩ := hheld row hrow row' hrow' (hsome.trans hid'.symm) hs
    exact LockRow.isLiveFor_iff.mpr ⟨ho'.symm.trans ho, hi'.symm.trans hi, hs', at_,
      hat'.trans hat, hlt⟩
  · exact fun hlive' => (hone row' hrow' row hrow hlive' hlive).trans hsome

/-- A row that is held after a move was held before it, and did not move. -/
theorem LockMove.held {row row' : LockRow} (h : LockMove t row row') (hs : row'.state = .held) :
    row' = row := by
  cases h <;> first | rfl | cases hs

/-- Time passes without harm. -/
theorem LatestLive.mono {now now' : ℤ} (h : LatestLive db operator identity now)
    (hnow : now ≤ now') : LatestLive db operator identity now' := by
  intro row hrow hlive
  obtain ⟨ho, hi, hs, at_, hat, hlt⟩ := LockRow.isLiveFor_iff.mp hlive
  exact h row hrow (LockRow.isLiveFor_iff.mpr ⟨ho, hi, hs, at_, hat, lt_of_le_of_lt hnow hlt⟩)

/-- Moving rows in place, and appending other transactions' rows, keeps the invariant. -/
theorem LatestLive.moved {now : ℤ} (h : LatestLive db operator identity now)
    {f : LockRow → LockRow} {new : List LockRow} (hmoves : ∀ row, LockMove t row (f row))
    (hrows : db'.seatLocks.rows = db.seatLocks.rows.map f ++ new)
    (hnew : ∀ row ∈ new, ¬ (row.operator = operator ∧ row.identity = identity)) :
    LatestLive db' operator identity now := by
  intro row hrow hlive newest hhead
  obtain ⟨ho, hi, hs, at_, hat, hlt⟩ := LockRow.isLiveFor_iff.mp hlive
  rw [hrows] at hrow
  rcases List.mem_append.mp hrow with hrow | hrow
  · obtain ⟨r, hr, rfl⟩ := List.mem_map.mp hrow
    have hstay := (hmoves r).held hs
    rw [hstay] at ho hi hs hat ⊢
    rw [holdRowsOf_map (fun row => (hmoves row).same) hrows hnew, List.head?_map] at hhead
    obtain ⟨n, hn, rfl⟩ := Option.map_eq_some_iff.mp hhead
    rw [(hmoves n).same.holdId]
    exact h r hr (LockRow.isLiveFor_iff.mpr ⟨ho, hi, hs, at_, hat, hlt⟩) n hn
  · exact absurd ⟨ho, hi⟩ (hnew row hrow)

/-! ## Taking a hold -/

theorem findLatestHold_head {newest : LockRow}
    (h : (db.holdRowsOf operator identity).head? = some newest) :
    db.findLatestHold operator identity = some (holdFromRows newest
      ((db.holdRowsOf operator identity).filter fun row => row.holdId = newest.holdId)) := by
  rw [ReservedDb.findLatestHold, h]
  rfl

theorem holdStatus_live {hold : HoldRecord} {nowMs : ℤ} :
    holdStatus hold nowMs = .live ↔ hold.state = .held ∧ nowMs < hold.expiresAt := by
  rw [holdStatus]
  cases hold.state <;> simp

theorem expireIf_of_not {p : LockRow → Bool} {row : LockRow} (h : p row = false) :
    expireIf p row = row := by
  rw [expireIf, setIf, h]
  rfl

/-- The sweep inside `acquireHold` does not change which hold is live. -/
theorem liveHold_sweep {params : AcquireHold} (hheld : HeldTogether db)
    (hswept : LocksOnly db db'
      (expireIf (isLapsed params.serviceId params.travelDate params.nowMs))) :
    params.liveHold db' = params.liveHold db := by
  have hmoves : ∀ row, LockMove (.acquireHold params) row
      (expireIf (isLapsed params.serviceId params.travelDate params.nowMs) row) :=
    LockMove.of_expireIf rfl fun _ => isLapsed_held
  have hmap : db'.holdRowsOf params.operator params.identity = _ :=
    holdRowsOf_map (fun row => (hmoves row).same)
      (hswept.locks.trans (List.append_nil _).symm) fun _ h => absurd h List.not_mem_nil
  rcases hhead : (db.holdRowsOf params.operator params.identity).head? with _ | newest
  · simp [AcquireHold.liveHold, ReservedDb.findLatestHold, hmap, hhead]
  have hnewest := (mem_holdRowsOf.mp (List.mem_of_mem_head? hhead)).1
  have hhead' : (db'.holdRowsOf params.operator params.identity).head? =
      some (expireIf (isLapsed params.serviceId params.travelDate params.nowMs) newest) := by
    rw [hmap, List.head?_map, hhead]
    rfl
  rw [AcquireHold.liveHold, findLatestHold_head hhead', AcquireHold.liveHold,
    findLatestHold_head hhead, Option.filter_some, Option.filter_some]
  by_cases hlive : newest.state = .held ∧ params.nowMs < newest.expiresAt.getD 0
  · -- none of its rows lapsed, so the sweep left the hold as it was
    have hstay : ∀ row ∈ db.seatLocks.rows, row.holdId = newest.holdId →
        expireIf (isLapsed params.serviceId params.travelDate params.nowMs) row = row := by
      intro row hrow hid
      obtain ⟨-, hexpiry⟩ := hheld newest hnewest row hrow hid.symm hlive.1
      refine expireIf_of_not ?_
      rcases he : newest.expiresAt with _ | at_
      · simp [isLapsed, hexpiry, he]
      · rw [he, Option.getD_some] at hlive
        simp [isLapsed, hexpiry, he, hlive.2]
    have hrowsEq : (db'.holdRowsOf params.operator params.identity).filter (fun row =>
        row.holdId = (expireIf (isLapsed params.serviceId params.travelDate params.nowMs)
          newest).holdId) = (db.holdRowsOf params.operator params.identity).filter fun row =>
            row.holdId = newest.holdId := by
      rw [hstay newest hnewest rfl, hmap, List.filter_map]
      refine (List.map_congr_left fun row hrow => ?_).trans ((List.map_id _).trans ?_)
      · obtain ⟨hmem, hid⟩ := List.mem_filter.mp hrow
        refine hstay row (mem_holdRowsOf.mp hmem).1 ?_
        exact (hmoves row).same.holdId.symm.trans (of_decide_eq_true hid)
      · refine List.filter_congr fun row _ => ?_
        rw [Function.comp_apply, (hmoves row).same.holdId]
    rw [hrowsEq, hstay newest hnewest rfl]
  · have hdead : ∀ rows, holdStatus (holdFromRows newest rows) params.nowMs ≠ .live :=
      fun rows h => hlive (holdStatus_live.mp h)
    have hdead' : ∀ rows, holdStatus (holdFromRows
        (expireIf (isLapsed params.serviceId params.travelDate params.nowMs) newest) rows)
          params.nowMs ≠ .live := by
      intro rows h
      have hs := holdStatus_live.mp h
      rcases hl : isLapsed params.serviceId params.travelDate params.nowMs newest with _ | _
      · rw [expireIf_of_not hl] at h
        exact hdead rows h
      · rw [expireIf, setIf, hl] at hs
        cases hs.1
    rw [if_neg (by simpa using hdead' _), if_neg (by simpa using hdead _)]

/-- Some seat asked for is somebody else's: a live row of it neither lapses in the sweep nor is
released with the hold that is replaced. -/
def AcquireHold.isContested (params : AcquireHold) (db : ReservedDb) : Bool :=
  db.seatLocks.rows.any fun row =>
    row.isLive && row.serviceId = params.serviceId && row.travelDate = params.travelDate &&
      row.seatId ∈ params.seats && !isLapsed params.serviceId params.travelDate params.nowMs row &&
        !(params.liveHold db).any fun hold => row.holdId = some hold.holdId && row.state = .held

/-- A hold is taken in order: the live hold is what is asked for already, or some seat is somebody
else's, or no row of the transaction is newer than the request's own clock reading, or the hold
would have lapsed by now. -/
def AcquireHold.TakenInOrder (params : AcquireHold) (db : ReservedDb) (clock : ℤ) : Prop :=
  (params.liveHold db).any params.isSame = true ∨ params.isContested db = true ∨
    (∀ row ∈ db.seatLocks.rows, row.operator = params.operator → row.identity = params.identity →
      row.createdAt ≤ params.nowMs) ∨ params.expiresAt ≤ clock

instance (params : AcquireHold) (db : ReservedDb) (clock : ℤ) :
    Decidable (params.TakenInOrder db clock) :=
  inferInstanceAs (Decidable (_ ∨ _ ∨ _ ∨ _))

/-- A hold that is inserted was not contested. -/
theorem not_contested {params : AcquireHold} {swept released : ReservedDb}
    (hheld : HeldTogether db)
    (hswept : LocksOnly db swept
      (expireIf (isLapsed params.serviceId params.travelDate params.nowMs)))
    (hreleased : LocksOnly swept released (releaseHoldRow (params.liveHold swept)))
    (hfree : ∀ claim ∈ released.liveClaims params.serviceId params.travelDate,
      claim.seatId ∉ params.seats) : params.isContested db = false := by
  rw [Bool.eq_false_iff]
  intro hcontested
  obtain ⟨row, hrow, hc⟩ := List.any_eq_true.mp hcontested
  simp only [Bool.and_eq_true, decide_eq_true_eq, Bool.not_eq_true'] at hc
  obtain ⟨⟨⟨⟨⟨hlive, hservice⟩, hdate⟩, hseat⟩, hlapsed⟩, hother⟩ := hc
  have hstay : releaseHoldRow (params.liveHold swept)
      (expireIf (isLapsed params.serviceId params.travelDate params.nowMs) row) = row := by
    rw [expireIf_of_not hlapsed, liveHold_sweep hheld hswept]
    exact if_neg fun hmine => Bool.false_ne_true (hother.symm.trans hmine)
  have hmem : row ∈ released.seatLocks.rows := by
    rw [hreleased.locks, hswept.locks, List.map_map, ← hstay]
    exact List.mem_map_of_mem hrow
  refine hfree (released.claimOf row) ?_ hseat
  refine List.mem_map_of_mem ((List.mem_insertionSort _).mpr (List.mem_filter.mpr ⟨hmem, ?_⟩))
  simp [hservice, hdate, hlive]

/-- After the release no row of the transaction is live. -/
theorem none_live {params : AcquireHold} {swept released : ReservedDb} {now : ℤ}
    (h : LatestLive db params.operator params.identity now) (hrows : HoldRows db)
    (hheld : HeldTogether db) (hnow : params.nowMs ≤ now)
    (hswept : LocksOnly db swept
      (expireIf (isLapsed params.serviceId params.travelDate params.nowMs)))
    (hreleased : LocksOnly swept released (releaseHoldRow (params.liveHold swept))) :
    ∀ row ∈ released.seatLocks.rows,
      row.isLiveFor params.operator params.identity now = false := by
  intro row hrow
  rw [Bool.eq_false_iff]
  intro hlive
  rw [hreleased.locks, hswept.locks, List.map_map] at hrow
  obtain ⟨r, hr, rfl⟩ := List.mem_map.mp hrow
  obtain ⟨ho, hi, hs, at_, hat, hlt⟩ := LockRow.isLiveFor_iff.mp hlive
  have hstay := (LockMove.of_release params (params.liveHold swept) r).held hs
  rw [Function.comp_apply, hstay] at ho hi hs hat
  have hlive' : r.isLiveFor params.operator params.identity now = true :=
    LockRow.isLiveFor_iff.mpr ⟨ho, hi, hs, at_, hat, hlt⟩
  -- the newest hold is this row's, it is live at the request's instant, so it was released
  obtain ⟨newest, hmem, hhead⟩ := head?_holdRowsOf
    (mem_holdRowsOf.mpr ⟨hr, ho, hi, hrows.named r hr⟩)
  have hid := h r hr hlive' newest hhead
  obtain ⟨hns, hne⟩ := hheld r hr newest (mem_holdRowsOf.mp hmem).1 hid.symm hs
  have hfound : ∃ hold, params.liveHold swept = some hold ∧ r.holdId = some hold.holdId := by
    obtain ⟨holdId, hsome⟩ := Option.isSome_iff_exists.mp (hrows.named r hr)
    refine ⟨holdFromRows newest ((db.holdRowsOf params.operator params.identity).filter
      fun row => row.holdId = newest.holdId), ?_, ?_⟩
    · rw [liveHold_sweep hheld hswept, AcquireHold.liveHold, findLatestHold_head hhead,
        Option.filter_some, if_pos]
      rw [decide_eq_true_eq, holdStatus_live]
      refine ⟨hns, ?_⟩
      change params.nowMs < newest.expiresAt.getD 0
      rw [hne, hat, Option.getD_some]
      omega
    · change r.holdId = some (newest.holdId.getD "")
      rw [hid, hsome, Option.getD_some]
  obtain ⟨hold, hliveHold, hrid⟩ := hfound
  have hunlapsed : isLapsed params.serviceId params.travelDate params.nowMs r = false := by
    have hgt : ¬ at_ ≤ params.nowMs := by omega
    simp [isLapsed, hat, hgt]
  rw [expireIf_of_not hunlapsed, hliveHold] at hstay
  have hgone : releaseHoldRow (some hold) r = { r with state := .released } := by
    simp [releaseHoldRow, setIf, hrid, hs]
  rw [hgone] at hstay
  have hstate := congrArg LockRow.state hstay
  rw [hs] at hstate
  cases hstate

/-- The rows a transaction's holds left, once rows are moved and others appended. -/
theorem newestRow_holdRowsOf : (db.holdRowsOf operator identity).head? =
    newestRow (db.seatLocks.rows.filter fun row =>
      row.operator = operator && row.identity = identity && row.holdId.isSome) := rfl

/-- The step lemma for a hold that is inserted in order. -/
theorem LatestLive.insert {params : AcquireHold} {released : ReservedDb} {holdId : String}
    {now : ℤ} (hnone : ∀ row ∈ released.seatLocks.rows,
      row.isLiveFor params.operator params.identity now = false)
    (hins : HoldInserted params released db' holdId)
    (horder : (∀ row ∈ released.seatLocks.rows, row.operator = params.operator →
      row.identity = params.identity → row.createdAt ≤ params.nowMs) ∨ params.expiresAt ≤ now) :
    LatestLive db' params.operator params.identity now := by
  intro row hrow hlive newest hhead
  rw [hins.locks] at hrow
  have hmem : row ∈ params.newRows holdId := by
    rcases List.mem_append.mp hrow with hrow | hrow
    · rw [hnone row hrow] at hlive
      cases hlive
    · exact hrow
  rcases horder with horder | hlapsed
  · -- the new rows are the newest
    have hfilter : (params.newRows holdId).filter (fun row => row.operator = params.operator &&
        row.identity = params.identity && row.holdId.isSome) = params.newRows holdId := by
      refine List.filter_eq_self.mpr fun row hrow => ?_
      rw [(AcquireHold.mem_newRows hrow).2]
      simp
    rw [newestRow_holdRowsOf, hins.locks, List.filter_append, hfilter] at hhead
    have hge : ∀ row ∈ params.newRows holdId, ∀ row' ∈ released.seatLocks.rows.filter
        (fun row => row.operator = params.operator && row.identity = params.identity &&
          row.holdId.isSome), row'.createdAt ≤ row.createdAt := by
      intro row hrow row' hrow'
      obtain ⟨hmem', hcols⟩ := List.mem_filter.mp hrow'
      simp only [Bool.and_eq_true, decide_eq_true_eq] at hcols
      rw [(AcquireHold.mem_newRows hrow).2]
      exact horder row' hmem' hcols.1.1 hcols.1.2
    obtain ⟨n, hn, hnewest⟩ := newestRow_append (List.ne_nil_of_mem hmem) hge
    obtain rfl := Option.some.inj (hnewest.symm.trans hhead)
    rw [(AcquireHold.mem_newRows hn).2, (AcquireHold.mem_newRows hmem).2]
  · obtain ⟨-, -, -, at_, hat, hlt⟩ := LockRow.isLiveFor_iff.mp hlive
    rw [(AcquireHold.mem_newRows hmem).2] at hat
    obtain rfl := Option.some.inj hat
    omega

/-- The step lemma for a transaction's own hold. -/
theorem LatestLive.acquire {params : AcquireHold} {hold : HoldRecord} {now : ℤ}
    (h : LatestLive db params.operator params.identity now) (hrows : HoldRows db)
    (hheld : HeldTogether db) (hnow : params.nowMs ≤ now)
    (hcheck : params.skipAvailabilityCheckForTest = false) (horder : params.TakenInOrder db now)
    (htaken : HoldTaken params db db' hold) :
    LatestLive db' params.operator params.identity now := by
  cases htaken with
  | reused hswept _ _ =>
    have hmoves : ∀ row, LockMove (.acquireHold params) row
        (expireIf (isLapsed params.serviceId params.travelDate params.nowMs) row) :=
      LockMove.of_expireIf rfl fun _ => isLapsed_held
    exact h.moved hmoves (hswept.locks.trans (List.append_nil _).symm)
      fun _ h => absurd h List.not_mem_nil
  | @taken swept released holdId hswept hdiffers hreleased hfree hins _ =>
    refine LatestLive.insert (none_live h hrows hheld hnow hswept hreleased) hins ?_
    rcases horder with hsame | hcontested | horder | hlapsed
    · obtain ⟨live, hlive, hsame⟩ := (Option.any_eq_true _ _).mp hsame
      rw [← liveHold_sweep hheld hswept] at hlive
      rw [hdiffers live hlive] at hsame
      cases hsame
    · rw [not_contested hheld hswept hreleased (hfree hcheck)] at hcontested
      cases hcontested
    · refine Or.inl fun row hrow ho hi => ?_
      rw [hreleased.locks, hswept.locks, List.map_map] at hrow
      obtain ⟨r, hr, rfl⟩ := List.mem_map.mp hrow
      have hsame := (LockMove.of_release params (params.liveHold swept) r).same
      rw [Function.comp_apply, hsame.createdAt]
      exact horder r hr (hsame.operator.symm.trans ho) (hsame.identity.symm.trans hi)
    · exact Or.inr hlapsed

/-- The step lemma: only a hold of the transaction itself, inserted out of order, could break it. -/
theorem LatestLive.step {now : ℤ} (h : LatestLive db operator identity now) (hrows : HoldRows db)
    (hheld : HeldTogether db)
    (horder : ∀ params, t = .acquireHold params → params.nowMs ≤ now ∧
      params.skipAvailabilityCheckForTest = false ∧ params.TakenInOrder db now)
    {a : t.Answer} (hrun : t.run raw db = .ok (a, db')) :
    LatestLive db' operator identity now := by
  by_cases hmine : ∃ params, t = .acquireHold params ∧ params.operator = operator ∧
      params.identity = identity
  · obtain ⟨params, rfl, rfl, rfl⟩ := hmine
    obtain ⟨hnow, hcheck, horder⟩ := horder params rfl
    exact h.acquire hrows hheld hnow hcheck horder (acquireHold_ok hrun)
  · obtain ⟨f, new, hmoved⟩ := Transaction.locks_moved hrun
    -- the rows that are appended are another transaction's
    refine h.moved hmoved.moves hmoved.rows ?_
    rintro row hrow ⟨ho, hi⟩
    rcases hmoved.new with rfl | ⟨params, holdId, ht, rfl, -⟩
    · cases hrow
    · rw [(AcquireHold.mem_newRows hrow).2] at ho hi
      exact hmine ⟨params, ht, ho, hi⟩

/-! ## Runs -/

/-- Every hold is taken in order. -/
def InOrder (s : History) : Act? → Prop
  | .perform _ _ (.transaction (.acquireHold params)) =>
    params.TakenInOrder s.world.db s.world.clock
  | _ => True

instance (s : History) (m : Act?) : Decidable (InOrder s m) := by
  unfold InOrder
  split <;> infer_instance

/-- **One live hold.** In every run of the provider in which every hold is taken in order, and in
every state it reaches, every transaction has at most one live hold, and `findLatestHold` answers
it with exactly its seats. -/
theorem one_live_hold {clock : ℤ} {source : Source} {c : Pool}
    (h : Reach (provider d) InOrder ⟨⟨World.initial clock source, []⟩, []⟩ c)
    (identity : ReservedIdentity) :
    OneLiveHold c.hist.world.db d.operatorKey identity c.hist.world.clock := by
  have hinv := h.invariant (fun s => Base s ∧ HeldTogether s.world.db ∧
    LatestLive s.world.db d.operatorKey identity s.world.clock) handle_knows
    ⟨Base.initial clock source, fun row hrow => absurd hrow List.not_mem_nil,
      fun row hrow => absurd hrow List.not_mem_nil⟩ ?_ ?_
  · exact hinv.2.2.oneLiveHold hinv.1.store.rows hinv.2.1
  · rintro s s' i req op r ⟨hbase, hheld, hlatest⟩ hallow hknows hdoes
    refine ⟨hbase.perform hknows hdoes, ?_⟩
    obtain ⟨o, w, hexec, rfl⟩ := hdoes
    rw [(World.exec_clock hexec).1]
    rcases World.exec_db hexec with ⟨hdb, -⟩ | ⟨t, a, heq, hrun⟩
    · rw [hdb]
      exact ⟨hheld, hlatest⟩
    · cases heq
      refine ⟨hheld.step hbase.store.rows hrun, hlatest.step hbase.store.rows hheld ?_ hrun⟩
      rintro params rfl
      obtain ⟨hclock, -, -, hcheck, -⟩ := hknows
      exact ⟨hbase.clock i _ hclock, hcheck, hallow⟩
  · rintro s e w ⟨hbase, hheld, hlatest⟩ - henv
    obtain ⟨hbase', hdb, hle⟩ := hbase.env henv
    refine ⟨hbase', ?_⟩
    rw [hdb]
    exact ⟨hheld, hlatest.mono hle⟩

/-- Two selects of a transaction in order: the second replaces the first's hold, and the newest is
found. -/
theorem one_live_hold_specimen : ∃ c, Reach (provider specimenDeployment) InOrder specimenStart c ∧
    (c.hist.world.db.seatLocks.rows.map fun row => (row.seatId, row.state)) =
      [("1", .released), ("2", .held)] ∧
    OneLiveHold c.hist.world.db "ksrtc" ⟨"bap", "https://bap", "T1"⟩ c.hist.world.clock := by
  have hrun : (specimenStart.follow (provider specimenDeployment)
      (fun s m => decide (InOrder s m))
      ([.start (specimenSelect "T1" ["1"])] ++ steps 0 12 "a1" ++ [.env (.tick 1000)] ++
        [.start (specimenSelect "T1" ["2"])] ++ steps 1 12 "b2")).map
        (fun c => c.hist.world.db.seatLocks.rows.map fun row => (row.seatId, row.state)) =
      some [("1", .released), ("2", .held)] := by
    decide +kernel
  obtain ⟨c, hfollow, hrows⟩ := Option.map_eq_some_iff.mp hrun
  have hreach : Reach (provider specimenDeployment) InOrder specimenStart c :=
    (Config.follow_reach .refl hfollow).mono fun s m h => of_decide_eq_true h
  exact ⟨c, hreach, hrows, one_live_hold hreach ⟨"bap", "https://bap", "T1"⟩⟩

/-- A move of a pool whose requests are selects of one transaction that name seats. -/
def isSelectOf (context : ReservedContext) : History → Act? → Bool
  | _, .start ⟨_, .select context' input⟩ => context' = context && seatIdsFrom input.tags ≠ []
  | _, .start _ => false
  | _, _ => true

/-- A pair of rows of a transaction that are live and of two holds. -/
def TwoLiveHolds (db : ReservedDb) (operator : String) (identity : ReservedIdentity) (now : ℤ) :
    Prop :=
  ∃ row ∈ db.seatLocks.rows, ∃ row' ∈ db.seatLocks.rows,
    row.isLiveFor operator identity now = true ∧ row'.isLiveFor operator identity now = true ∧
      row.holdId ≠ row'.holdId

instance (db : ReservedDb) (operator : String) (identity : ReservedIdentity) (now : ℤ) :
    Decidable (TwoLiveHolds db operator identity now) := by
  unfold TwoLiveHolds
  infer_instance

/-- **A stranded hold.** The first select reads its clock, the second reads a later one and takes
seat 2, and then the first takes seat 1 under its earlier reading. The newest hold is now the
second's, which was released, so a third select releases nothing and takes seat 2 again. -/
theorem one_live_hold_stranded : ∃ c, Reach (provider specimenDeployment)
    (fun s m => isSelectOf (specimenContext "T1") s m = true) specimenStart c ∧
      ¬ OneLiveHold c.hist.world.db "ksrtc" ⟨"bap", "https://bap", "T1"⟩ c.hist.world.clock := by
  have hrun : (specimenStart.follow (provider specimenDeployment)
      (isSelectOf (specimenContext "T1"))
      ([.start (specimenSelect "T1" ["1"])] ++ steps 0 5 "a1" ++ [.env (.tick 1000)] ++
        [.start (specimenSelect "T1" ["2"])] ++ steps 1 12 "b2" ++ steps 0 7 "a1" ++
        [.start (specimenSelect "T1" ["2"])] ++ steps 2 12 "c3")).map
        (fun c => decide (TwoLiveHolds c.hist.world.db "ksrtc" ⟨"bap", "https://bap", "T1"⟩
          c.hist.world.clock)) = some true := by
    decide +kernel
  obtain ⟨c, hfollow, htwo⟩ := Option.map_eq_some_iff.mp hrun
  obtain ⟨row, hrow, row', hrow', hlive, hlive', hne⟩ := of_decide_eq_true htwo
  refine ⟨c, Config.follow_reach .refl hfollow, fun h => ?_⟩
  exact hne (h.one row hrow row' hrow' hlive hlive')

end TransitBpp
