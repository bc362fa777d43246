import TransitBpp.Ledger

/-!
# A hold is uniform

A hold is read off one of its rows, and five statements move rows of a hold. `Uniform` is what they
keep: until a hold is booked its rows are twins, and once it is, each is booked or, its seat
cancelled, released. So the row that is read speaks for all of them, but for the state of a booking
that is cancelled in part.
-/

namespace TransitBpp

open Js

variable {db db' : ReservedDb} {t : Transaction} {raw : String}

/-! ## What every transaction keeps -/

/-- What the rows of a hold have in common. -/
structure Uniform (db : ReservedDb) : Prop where
  /-- until one is booked, they are twins -/
  twins : ∀ row ∈ db.seatLocks.rows, ∀ row' ∈ db.seatLocks.rows, row.holdId = row'.holdId →
    row.bookingId = none → LockRow.Twins row row'
  /-- what was booked never lapses, and is only ever released -/
  booked : ∀ row ∈ db.seatLocks.rows, row.bookingId ≠ none →
    row.expiresAt = none ∧ (row.state = .booked ∨ row.state = .released)
  /-- and what is booked has a booking -/
  unbooked : ∀ row ∈ db.seatLocks.rows, row.bookingId = none → row.state ≠ .booked

theorem Uniform.empty : Uniform .empty :=
  ⟨fun _ h => absurd h List.not_mem_nil, fun _ h => absurd h List.not_mem_nil,
    fun _ h => absurd h List.not_mem_nil⟩

/-- A row keeps its booking. -/
theorem LockMove.keeps_booking {row row' : LockRow} (h : LockMove t row row')
    (hnone : row'.bookingId = none) : row.bookingId = none := by
  cases h with
  | book params _ _ _ => cases hnone
  | _ => exact hnone

/-- The step lemma. -/
theorem Uniform.step (h : Uniform db) {a : t.Answer} (hrun : t.run raw db = .ok (a, db')) :
    Uniform db' := by
  obtain ⟨f, new, hmoved, hstep⟩ := Transaction.locks_keep_twins hrun
  -- a new hold is held, under an id of its own
  have hnew : ∀ row ∈ new, row.state = .held ∧ row.bookingId = none ∧
      (∀ row' ∈ new, LockRow.Twins row row') ∧
        ∀ row' ∈ db.seatLocks.rows, row'.holdId ≠ row.holdId := by
    rcases hmoved.new with rfl | ⟨params, holdId, -, rfl, hfresh⟩
    · exact fun row hrow => absurd hrow List.not_mem_nil
    · intro row hrow
      rw [(AcquireHold.mem_newRows hrow).2]
      refine ⟨rfl, rfl, fun row' hrow' => ?_, hfresh⟩
      rw [(AcquireHold.mem_newRows hrow').2]
      exact ⟨rfl, rfl, rfl, rfl, rfl, rfl⟩
  have hcases : ∀ row' ∈ db'.seatLocks.rows,
      (∃ row ∈ db.seatLocks.rows, row' = f row) ∨ row' ∈ new := by
    intro row' hrow'
    rw [hmoved.rows] at hrow'
    rcases List.mem_append.mp hrow' with hold | hadded
    · obtain ⟨row, hrow, rfl⟩ := List.mem_map.mp hold
      exact Or.inl ⟨row, hrow, rfl⟩
    · exact Or.inr hadded
  refine ⟨?_, ?_, ?_⟩
  · intro row₁ hrow₁ row₂ hrow₂ hid hnone
    rcases hcases row₁ hrow₁ with ⟨row, hrow, rfl⟩ | hadded
    · have hsame := (hmoved.moves row).same.holdId
      rcases hcases row₂ hrow₂ with ⟨row', hrow', rfl⟩ | hadded'
      · have hsame' := (hmoved.moves row').same.holdId
        have hbefore := (hmoved.moves row).keeps_booking hnone
        exact hstep row row' (h.twins row hrow row' hrow' (hsame.symm.trans (hid.trans hsame')) hbefore)
          hbefore
      · exact absurd (hsame.symm.trans hid) ((hnew row₂ hadded').2.2.2 row hrow)
    · rcases hcases row₂ hrow₂ with ⟨row', hrow', rfl⟩ | hadded'
      · have hsame' := (hmoved.moves row').same.holdId
        exact absurd (hsame'.symm.trans hid.symm) ((hnew row₁ hadded).2.2.2 row' hrow')
      · exact (hnew row₁ hadded).2.2.1 row₂ hadded'
  · intro row' hrow' hsome
    rcases hcases row' hrow' with ⟨row, hrow, rfl⟩ | hadded
    · have hmove := hmoved.moves row
      generalize f row = row' at hmove hsome ⊢
      cases hmove with
      | stay => exact h.booked row hrow hsome
      | expire _ _ hheld _ | release _ _ hheld =>
        rcases (h.booked row hrow hsome).2 with hstate | hstate <;> rw [hstate] at hheld <;>
          cases hheld
      | book _ _ _ _ => exact ⟨rfl, Or.inl rfl⟩
      | cancel _ _ _ _ _ => exact ⟨(h.booked row hrow hsome).1, Or.inr rfl⟩
    · exact absurd (hnew row' hadded).2.1 hsome
  · intro row' hrow' hnone
    rcases hcases row' hrow' with ⟨row, hrow, rfl⟩ | hadded
    · have hmove := hmoved.moves row
      generalize f row = row' at hmove hnone ⊢
      cases hmove with
      | stay => exact h.unbooked row hrow hnone
      | book _ _ _ _ => cases hnone
      | expire _ _ _ _ | release _ _ _ | cancel _ _ _ _ _ => simp
    · simp [(hnew row' hadded).1]

/-- The run lemma. -/
theorem Ledger.Reach.uniform {s s' : Ledger} (h : Ledger.Reach s s') (hs : Uniform s.db) :
    Uniform s'.db := by
  induction h with
  | refl => exact hs
  | @step s' call _ _ ih =>
    cases call with
    | findLatestHold operator identity => exact ih
    | run raw t =>
      rw [Ledger.perform]
      cases hrun : t.run raw s'.db with
      | error e => exact ih
      | ok answer => exact ih.step hrun

/-- Once one row of a hold is booked, the others are booked too, or released. -/
theorem Uniform.booked_hold (h : Uniform db) {row row' : LockRow} (hrow : row ∈ db.seatLocks.rows)
    (hrow' : row' ∈ db.seatLocks.rows) (hid : row.holdId = row'.holdId)
    (hsome : row.bookingId ≠ none) :
    row'.bookingId ≠ none ∧ row'.expiresAt = none ∧
      (row'.state = .booked ∨ row'.state = .released) := by
  have hsome' : row'.bookingId ≠ none := fun hnone =>
    hsome ((h.twins row' hrow' row hrow hid.symm hnone).bookingId.symm.trans hnone)
  exact ⟨hsome', h.booked row' hrow' hsome'⟩

/-! ## Whether a hold was ever booked -/

/-- Some row of a hold is booked, or was in an earlier state. -/
def Ledger.EverBooked (s : Ledger) (holdId : Option String) : Prop :=
  ∃ s₀, Ledger.Reach .initial s₀ ∧ Ledger.Reach s₀ s ∧ ∃ row ∈ s₀.db.seatLocks.rows,
    row.holdId = holdId ∧ row.state = .booked

/-- A call moves each row. -/
theorem Ledger.perform_moves (s : Ledger) (call : Ledger.Call) {row : LockRow}
    (hrow : row ∈ s.db.seatLocks.rows) : ∃ row' ∈ (s.perform call).db.seatLocks.rows,
      row'.holdId = row.holdId ∧ (row.bookingId ≠ none → row'.bookingId ≠ none) := by
  cases call with
  | findLatestHold operator identity => exact ⟨row, hrow, rfl, id⟩
  | run raw t =>
    rw [Ledger.perform]
    cases hrun : t.run raw s.db with
    | error e => exact ⟨row, hrow, rfl, id⟩
    | ok answer =>
      obtain ⟨row', hrow', hmove⟩ := lock_stays hrun hrow
      exact ⟨row', hrow', hmove.same.holdId, fun hsome hnone => hsome (hmove.keeps_booking hnone)⟩

theorem Ledger.Reach.keeps_booking {s s' : Ledger} (h : Ledger.Reach s s') {row : LockRow}
    (hrow : row ∈ s.db.seatLocks.rows) (hsome : row.bookingId ≠ none) :
    ∃ row' ∈ s'.db.seatLocks.rows, row'.holdId = row.holdId ∧ row'.bookingId ≠ none := by
  induction h with
  | refl => exact ⟨row, hrow, rfl, hsome⟩
  | @step s' call _ _ ih =>
    obtain ⟨row', hrow', hid, hsome'⟩ := ih
    obtain ⟨row'', hrow'', hid', hkeeps⟩ := s'.perform_moves call hrow'
    exact ⟨row'', hrow'', hid'.trans hid, hkeeps hsome'⟩

/-- A hold was ever booked exactly if its rows have a booking. -/
theorem Ledger.everBooked_iff {s : Ledger} (h : Ledger.Reach .initial s) {row : LockRow}
    (hrow : row ∈ s.db.seatLocks.rows) : s.EverBooked row.holdId ↔ row.bookingId ≠ none := by
  constructor
  · rintro ⟨s₀, hreach₀, hreach, row₀, hrow₀, hid₀, hbooked⟩
    have hsome₀ : row₀.bookingId ≠ none := fun hnone =>
      (hreach₀.uniform .empty).unbooked row₀ hrow₀ hnone hbooked
    obtain ⟨row', hrow', hid', hsome'⟩ := hreach.keeps_booking hrow₀ hsome₀
    exact ((h.uniform .empty).booked_hold hrow' hrow (hid'.trans hid₀) hsome').1
  · -- by induction on the run: the call that gave the row its booking booked it
    intro hsome
    induction h generalizing row with
    | refl => exact absurd hrow List.not_mem_nil
    | @step s' call hreach hlegal ih =>
      have hearlier : ∀ {row' : LockRow}, row' ∈ s'.db.seatLocks.rows →
          row'.bookingId ≠ none → (s'.perform call).EverBooked row'.holdId := by
        intro row' hrow' hsome'
        obtain ⟨s₀, hreach₀, hlater, hbooked⟩ := ih hrow' hsome'
        exact ⟨s₀, hreach₀, .step hlater hlegal, hbooked⟩
      cases call with
      | findLatestHold operator identity => exact hearlier hrow hsome
      | run raw t =>
        cases hrun : t.run raw s'.db with
        | error e =>
          rw [Ledger.perform, hrun] at hrow
          exact hearlier hrow hsome
        | ok answer =>
          have hdb : (s'.perform (.run raw t)).db = answer.2 := by rw [Ledger.perform, hrun]
          rcases lock_after hrun (hdb ▸ hrow) with ⟨row', hrow', hmove⟩ | ⟨params, holdId, -, hnew, -⟩
          · by_cases hsome' : row'.bookingId = none
            · -- only a confirm writes a booking, and it books the row
              have hbooked : row.state = .booked := by
                cases hmove with
                | book _ _ _ _ => rfl
                | _ => exact absurd hsome' hsome
              exact ⟨_, .step hreach hlegal, .refl, row, hrow, rfl, hbooked⟩
            · exact hmove.same.holdId ▸ hearlier hrow' hsome'
          · rw [(AcquireHold.mem_newRows hnew).2] at hsome
            exact absurd rfl hsome

/-! ## What is read of a hold -/

/-- A hold as one of the two reads finds it. -/
def ReservedDb.Finds (db : ReservedDb) (hold : HoldRecord) : Prop :=
  (∃ operator identity, db.findLatestHold operator identity = some hold) ∨
    ∃ holdId, db.findHoldById holdId = some hold

/-- A hold is read off one of its rows, and its seats are those of all of them. -/
theorem ReservedDb.Finds.eq (hrows : HoldRows db) {hold : HoldRecord} (h : db.Finds hold) :
    ∃ first ∈ db.seatLocks.rows, first.holdId = some hold.holdId ∧
      hold = holdFromRows first (db.seatLocks.rows.filter fun row => row.holdId = first.holdId) := by
  have hsort : ∀ {first : LockRow} {rows rows' : List LockRow}, rows.Perm rows' →
      holdFromRows first rows = holdFromRows first rows' := by
    intro first rows rows' hperm
    have hseats := (hperm.map LockRow.seatId)
    simp only [holdFromRows, sort_eq_of_perm hseats]
  rcases h with ⟨operator, identity, hread⟩ | ⟨holdId, hread⟩
  · obtain ⟨first, hfirst, rows, hperm, hsome, -, -, rfl⟩ := findLatestHold_eq hrows hread
    obtain ⟨holdId, hid⟩ := Option.isSome_iff_exists.mp hsome
    exact ⟨first, hfirst, by rw [hid, holdFromRows, hid, Option.getD_some], hsort hperm⟩
  · obtain ⟨first, hhead, rfl⟩ := Option.map_eq_some_iff.mp hread
    have hperm := List.perm_insertionSort (fun a b : LockRow => a.seatId ≤ b.seatId)
      (db.seatLocks.rows.filter fun row => row.holdId = some holdId)
    obtain ⟨hfirst, hid⟩ := List.mem_filter.mp (hperm.mem_iff.mp (List.mem_of_mem_head? hhead))
    have hid : first.holdId = some holdId := of_decide_eq_true hid
    refine ⟨first, hfirst, by rw [hid, holdFromRows, hid, Option.getD_some], ?_⟩
    rw [hid]
    exact hsort hperm

/-! ## The result -/

/-- A hold is uniform, but for the state of one that is booked and then cancelled in part. -/
theorem hold_uniform {s : Ledger} (h : Ledger.Reach .initial s) :
    (∀ row ∈ s.db.seatLocks.rows, ∀ row' ∈ s.db.seatLocks.rows, row.holdId = row'.holdId →
      row.serviceId = row'.serviceId ∧ row.travelDate = row'.travelDate ∧
        row.operator = row'.operator ∧ row.identity = row'.identity ∧
          row.createdAt = row'.createdAt) ∧
    (s.db.seatLocks.rows.Pairwise fun row row' => row.holdId = row'.holdId →
      row.seatId ≠ row'.seatId) ∧
    (∀ row ∈ s.db.seatLocks.rows, ∀ row' ∈ s.db.seatLocks.rows, row.holdId = row'.holdId →
      (¬ s.EverBooked row.holdId → row.state = row'.state ∧ row.expiresAt = row'.expiresAt) ∧
        (s.EverBooked row.holdId → row'.state = .booked ∨ row'.state = .released)) ∧
    ∀ hold, s.db.Finds hold →
      hold.seatIds.Perm (s.db.seatsOfHold hold.holdId) ∧
      (∀ row ∈ s.db.seatLocks.rows, row.holdId = some hold.holdId →
        row.serviceId = hold.serviceId ∧ row.travelDate = hold.travelDate ∧
          row.operator = hold.operator ∧ row.identity = hold.identity ∧
            row.createdAt = hold.createdAt ∧ row.expiresAt.getD 0 = hold.expiresAt) ∧
      (∃ row ∈ s.db.seatLocks.rows, row.holdId = some hold.holdId ∧ row.state = hold.state) ∧
      (¬ s.EverBooked (some hold.holdId) → ∀ row ∈ s.db.seatLocks.rows,
        row.holdId = some hold.holdId → row.state = hold.state) ∧
      (s.EverBooked (some hold.holdId) → ∀ nowMs, holdStatus hold nowMs ≠ .live) := by
  have hrows := (h.inv Ledger.Inv.initial).rows
  have huniform : Uniform s.db := h.uniform .empty
  have hstate : ∀ row ∈ s.db.seatLocks.rows, ∀ row' ∈ s.db.seatLocks.rows,
      row.holdId = row'.holdId →
      (¬ s.EverBooked row.holdId → row.state = row'.state ∧ row.expiresAt = row'.expiresAt) ∧
        (s.EverBooked row.holdId → row'.state = .booked ∨ row'.state = .released) := by
    intro row hrow row' hrow' hid
    rw [Ledger.everBooked_iff h hrow]
    constructor
    · intro hnone
      have htwins := huniform.twins row hrow row' hrow' hid (not_not.mp hnone)
      exact ⟨htwins.state, htwins.expiresAt⟩
    · intro hsome
      exact (huniform.booked_hold hrow hrow' hid hsome).2.2
  refine ⟨hrows.agree, hrows.distinct, hstate, fun hold hfinds => ?_⟩
  obtain ⟨first, hfirst, hid, hhold⟩ := hfinds.eq hrows
  have hcols : hold.serviceId = first.serviceId ∧ hold.travelDate = first.travelDate ∧
      hold.operator = first.operator ∧ hold.identity = first.identity ∧
        hold.createdAt = first.createdAt ∧ hold.expiresAt = first.expiresAt.getD 0 ∧
          hold.state = first.state := by
    rw [hhold]
    exact ⟨rfl, rfl, rfl, rfl, rfl, rfl, rfl⟩
  obtain ⟨hservice, hdate, hoperator, hidentity, hcreated, hexpires, hread⟩ := hcols
  refine ⟨?_, ?_, ⟨first, hfirst, hid, hread.symm⟩, ?_, ?_⟩
  · have hseats : hold.seatIds = sort ((s.db.seatLocks.rows.filter fun row =>
        row.holdId = first.holdId).map LockRow.seatId) := by rw [hhold]; rfl
    rw [hseats, hid]
    exact sort_perm _
  · intro row hrow hof
    have hsame := hof.trans hid.symm
    obtain ⟨hs, hd, ho, hi, hc⟩ := hrows.agree row hrow first hfirst hsame
    refine ⟨hs.trans hservice.symm, hd.trans hdate.symm, ho.trans hoperator.symm,
      hi.trans hidentity.symm, hc.trans hcreated.symm, ?_⟩
    rw [hexpires]
    by_cases hnone : row.bookingId = none
    · rw [(huniform.twins row hrow first hfirst hsame hnone).expiresAt]
    · rw [(huniform.booked_hold hrow hfirst hsame hnone).2.1,
        (huniform.booked_hold hrow hrow rfl hnone).2.1]
  · intro hnever row hrow hof
    rw [hread]
    exact ((hstate row hrow first hfirst (hof.trans hid.symm)).1 (hof ▸ hnever)).1
  · intro hever nowMs
    rcases (hstate first hfirst first hfirst rfl).2 (hid ▸ hever) with hbooked | hreleased
    · simp [holdStatus, hread, hbooked]
    · simp [holdStatus, hread, hreleased]

namespace Ledger

/-- The cancellation of one seat of the two. -/
def specimenCancellation : ApplyCancellation where
  bookingId := "B1"
  seatIds := ["1"]
  slabCode := .over72h
  refundBySeat := [("1", 0)]
  nowMs := 3000

/-- A booked hold, one seat of it cancelled. -/
def cancelledInPart : Ledger := specimen.perform (.run "" (.applyCancellation specimenCancellation))

theorem cancelledInPart_reach : Reach initial cancelledInPart := .step specimen_reach trivial

/-- Its smallest seat is released, so read by its id it is expired. Its other seat is booked, so
read by its buyer it is spent. -/
theorem cancelledInPart_mixed :
    Reach initial cancelledInPart ∧
      (cancelledInPart.db.findHoldById "HLD-KSRTC-A1").map (fun hold =>
        (hold.state, holdStatus hold 4000)) = some (.released, .expired) ∧
      (cancelledInPart.db.findLatestHold "ksrtc" ⟨"bap", "https://bap", "T1"⟩).map (fun hold =>
        (hold.holdId, hold.state, holdStatus hold 4000)) =
          some ("HLD-KSRTC-A1", .booked, .spent) := by
  refine ⟨cancelledInPart_reach, ?_, ?_⟩ <;> decide +kernel

/-- All the same its seats are those of its rows, and neither reading is live. -/
theorem hold_uniform_specimen :
    ∃ hold, cancelledInPart.db.findHoldById "HLD-KSRTC-A1" = some hold ∧
      hold.seatIds.Perm (cancelledInPart.db.seatsOfHold hold.holdId) := by
  have hsome : (cancelledInPart.db.findHoldById "HLD-KSRTC-A1").isSome = true := by decide +kernel
  obtain ⟨hold, hread⟩ := Option.isSome_iff_exists.mp hsome
  exact ⟨hold, hread,
    ((hold_uniform cancelledInPart_reach).2.2.2 hold (Or.inr ⟨_, hread⟩)).1⟩

end Ledger

end TransitBpp
