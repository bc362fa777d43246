import TransitBpp.Seats

/-!
# The gender lock

A seat is published before its buyer holds it and checked after, on other claims. The two readings
agree because a hold never shows whose it is to the lock: a seat that is held reads as empty, and a
seat that changes hands between the two readings is held or unclaimed in both. What is left is the
women booked or simulated beside the seat, and those do not change.
-/

namespace TransitBpp

open Js

namespace SeatNeighbourhood

variable {input after : SeatNeighbourhood} {party : ReservedIdentity}
variable {seatIds : List String} {seatId : String}

/-! ## Claims and states -/

theorem claim?_iff (hclaims : (input.claims.map LiveSeatClaim.seatId).Nodup) {claim : LiveSeatClaim} :
    input.claim? seatId = some claim ↔ claim ∈ input.claims ∧ claim.seatId = seatId := by
  constructor
  · intro h
    obtain ⟨claim', hmem, heq⟩ := List.mem_map.mp (mem_of_mapGet_mapOf h)
    obtain ⟨rfl, rfl⟩ := Prod.mk.injEq .. ▸ heq
    exact ⟨hmem, rfl⟩
  · rintro ⟨hmem, rfl⟩
    have hkeys : ((input.claims.map fun claim => (claim.seatId, claim)).map Prod.fst).Nodup := by
      rwa [List.map_map]
    exact mapGet_mapOf hkeys (List.mem_map.mpr ⟨claim, hmem, rfl⟩)

theorem isSome_claim? (hclaims : (input.claims.map LiveSeatClaim.seatId).Nodup) :
    (input.claim? seatId).isSome = true ↔ seatId ∈ input.claims.map LiveSeatClaim.seatId := by
  simp only [Option.isSome_iff_exists, claim?_iff hclaims, List.mem_map]

/-- A seat can be taken where nobody has claimed it and the simulation has not sold it. -/
theorem stateOf_open :
    (input.stateOf seatId = .available ∨ input.stateOf seatId = .femaleOnly) ↔
      input.claim? seatId = none ∧ mapGet input.seededSold seatId = none := by
  rw [stateOf]
  cases hclaim : input.claim? seatId with
  | some claim =>
    cases hstate : claim.state <;> simp only [hstate]
    · split <;> simp
    · simp
  | none =>
    cases hsold : mapGet input.seededSold seatId with
    | some gender => simp
    | none =>
      simp only [Option.isSome_none, Bool.false_eq_true, if_false]
      split <;> simp

/-- Of the seats that can be taken, the female-only ones are those beside a woman. -/
theorem stateOf_femaleOnly (h : input.stateOf seatId = .available ∨ input.stateOf seatId = .femaleOnly) :
    input.stateOf seatId = .femaleOnly ↔ input.isFemaleOnly seatId = true := by
  obtain ⟨hclaim, hseeded⟩ := stateOf_open.mp h
  simp only [stateOf, hclaim, hseeded, Option.isSome_none, Bool.false_eq_true, if_false]
  split <;> simp_all

/-- The state that is published of a seat is its state. -/
theorem stateOf_of_seatStates {state : SeatState} (h : mapGet input.seatStates seatId = some state) :
    input.stateOf seatId = state := by
  obtain ⟨seat, -, heq⟩ := List.mem_map.mp (mem_of_mapGet_mapOf h)
  obtain ⟨rfl, rfl⟩ := Prod.mk.injEq .. ▸ heq
  rfl

/-! ## Before and after a hold -/

/-- The viewer, who is this party, holds these seats and no others: its earlier holds are gone and
nothing else has changed. -/
structure Holds (input after : SeatNeighbourhood) (party : ReservedIdentity)
    (seatIds : List String) : Prop where
  /-- the same coach -/
  map : after.map = input.map
  /-- the same simulation -/
  seededSold : after.seededSold = input.seededSold
  /-- who was shown the seats -/
  shown : input.viewer = some party
  /-- and who has taken them -/
  taken : after.viewer = some party
  /-- the viewer's holds are replaced -/
  claims : ∃ held : List LiveSeatClaim,
    after.claims.Perm
      ((input.claims.filter fun c => ¬ (c.state = .held ∧ c.identity = party)) ++ held) ∧
    (∀ c ∈ held, c.state = .held ∧ c.identity = party) ∧
    (held.map LiveSeatClaim.seatId).Nodup ∧
    ∀ seatId, seatId ∈ held.map LiveSeatClaim.seatId ↔ seatId ∈ seatIds

/-- The claims after a hold are one to a seat as well. -/
theorem Holds.nodup (h : Holds input after party seatIds)
    (hclaims : (input.claims.map LiveSeatClaim.seatId).Nodup)
    (hopen : ∀ seatId ∈ seatIds, input.claim? seatId = none) :
    (after.claims.map LiveSeatClaim.seatId).Nodup := by
  obtain ⟨held, hperm, -, hnodup, hseats⟩ := h.claims
  rw [(hperm.map _).nodup_iff, List.map_append, List.nodup_append]
  refine ⟨hclaims.sublist (List.filter_sublist.map _), hnodup, ?_⟩
  rintro seatId hearlier _ hheld rfl
  obtain ⟨claim, hmem, rfl⟩ := List.mem_map.mp hearlier
  have hnone := hopen claim.seatId ((hseats _).mp hheld)
  rw [(claim?_iff hclaims).mpr ⟨(List.mem_filter.mp hmem).1, rfl⟩] at hnone
  cases hnone

/-- A booking reads the same before and after, and so does a seat that nobody holds in between. -/
theorem Holds.gender (h : Holds input after party seatIds)
    (hclaims : (input.claims.map LiveSeatClaim.seatId).Nodup)
    (hseeded : ∀ c ∈ input.claims, mapGet input.seededSold c.seatId = none)
    (hopen : ∀ seatId ∈ seatIds,
      input.claim? seatId = none ∧ mapGet input.seededSold seatId = none) (seatId : String) :
    after.occupantGender seatId = input.occupantGender seatId ∨
      (after.occupantGender seatId).1 = none ∧ (input.occupantGender seatId).1 = none := by
  have hafter := h.nodup hclaims fun seatId hseat => (hopen seatId hseat).1
  obtain ⟨held, hperm, hheld, -, hseats⟩ := h.claims
  have hmem : ∀ claim, claim ∈ after.claims ↔
      (claim ∈ input.claims ∧ ¬ (claim.state = .held ∧ claim.identity = party)) ∨ claim ∈ held := by
    intro claim
    rw [hperm.mem_iff, List.mem_append, List.mem_filter, decide_eq_true_eq]
  cases hbefore : input.claim? seatId with
  | some claim =>
    obtain ⟨hclaim, rfl⟩ := (claim?_iff hclaims).mp hbefore
    by_cases hown : claim.state = .held ∧ claim.identity = party
    · -- the viewer's own hold: released, and the simulation had not sold the seat
      have hnone : after.claim? claim.seatId = none := by
        rw [← Option.not_isSome_iff_eq_none, isSome_claim? hafter, List.mem_map]
        rintro ⟨claim', hclaim', hseat⟩
        rcases (hmem claim').mp hclaim' with ⟨hearlier, hother⟩ | hnew
        · obtain rfl := Option.some.inj
            (hbefore.symm.trans ((claim?_iff hclaims).mpr ⟨hearlier, hseat⟩))
          exact hother hown
        · have hnone := (hopen claim.seatId ((hseats _).mp (List.mem_map.mpr ⟨_, hnew, hseat⟩))).1
          rw [hbefore] at hnone
          cases hnone
      right
      simp [occupantGender, hnone, hbefore, hown.1, h.seededSold, hseeded claim hclaim]
    · -- another claim: it stands
      left
      have hstays := (claim?_iff hafter).mpr ⟨(hmem claim).mpr (.inl ⟨hclaim, hown⟩), rfl⟩
      simp only [occupantGender, hstays, hbefore]
  | none =>
    cases hnow : after.claim? seatId with
    | none =>
      left
      simp only [occupantGender, hnow, hbefore, h.seededSold]
    | some claim =>
      -- a seat the viewer has taken: nobody was there, and a hold names nobody
      right
      obtain ⟨hclaim, hseat⟩ := (claim?_iff hafter).mp hnow
      rcases (hmem claim).mp hclaim with ⟨hearlier, -⟩ | hnew
      · rw [(claim?_iff hclaims).mpr ⟨hearlier, hseat⟩] at hbefore
        cases hbefore
      · have hsold := (hopen seatId ((hseats _).mp (List.mem_map.mpr ⟨_, hnew, hseat⟩))).2
        simp [occupantGender, hnow, hbefore, (hheld claim hnew).1, hsold]

/-- A hold moves no lock. -/
theorem Holds.isFemaleOnly (h : Holds input after party seatIds)
    (hclaims : (input.claims.map LiveSeatClaim.seatId).Nodup)
    (hseeded : ∀ c ∈ input.claims, mapGet input.seededSold c.seatId = none)
    (hopen : ∀ seatId ∈ seatIds,
      input.claim? seatId = none ∧ mapGet input.seededSold seatId = none) (seatId : String) :
    after.isFemaleOnly seatId = input.isFemaleOnly seatId := by
  have hseat : after.seat? seatId = input.seat? seatId := by rw [seat?, seat?, h.map]
  simp only [SeatNeighbourhood.isFemaleOnly, hseat, h.shown, h.taken]
  cases input.seat? seatId with
  | none => rfl
  | some seat =>
    refine congrArg (List.any seat.adjacentSeatIds) (funext fun neighbourId => ?_)
    rcases h.gender hclaims hseeded hopen neighbourId with heq | ⟨hnow, hbefore⟩
    · rw [heq]
    · revert hnow hbefore
      rcases after.occupantGender neighbourId with ⟨gender, owner⟩
      rcases input.occupantGender neighbourId with ⟨gender', owner'⟩
      rintro rfl rfl
      rfl

end SeatNeighbourhood

/-! ## The check -/

/-- A woman's seat is never the one that is refused. -/
theorem assertGenderLocks_female (input : SeatNeighbourhood) (seatId : String)
    (earlier later : List SeatAssignment) :
    assertGenderLocks input (earlier ++ ⟨seatId, some .female⟩ :: later) =
      assertGenderLocks input (earlier ++ later) := by
  simp only [assertGenderLocks, List.find?_append, List.find?_cons]
  simp

/-- A refusal of the check is of the lock. -/
theorem assertGenderLocks_refuses {input : SeatNeighbourhood} {assignments : List SeatAssignment}
    {a : SeatAssignment} (ha : a ∈ assignments) (hgender : a.gender ≠ some .female)
    (hlocked : input.isFemaleOnly a.seatId = true) : ∃ refusal,
      assertGenderLocks input assignments = .error (.lifecycle refusal) ∧
        refusal.code = .seatGenderLocked := by
  rw [assertGenderLocks]
  split
  · rename_i hnone
    have := List.find?_eq_none.mp hnone a ha
    simp [hgender, hlocked] at this
  · exact ⟨_, rfl, rfl⟩

open SeatNeighbourhood in
/-- **The gender lock that is published is the one that is enforced.** A seat the viewer was shown
as female-only refuses, once held, whoever is not declared female, and only such a seat does. -/
theorem gender_lock_enforced {input after : SeatNeighbourhood} {party : ReservedIdentity}
    {seatIds : List String} {seatId : String}
    (hclaims : (input.claims.map LiveSeatClaim.seatId).Nodup)
    (hseeded : ∀ c ∈ input.claims, mapGet input.seededSold c.seatId = none)
    (hopen : ∀ seatId ∈ seatIds, mapGet input.seatStates seatId = some .available ∨
      mapGet input.seatStates seatId = some .femaleOnly)
    (h : Holds input after party seatIds) (hseat : seatId ∈ seatIds) :
    mapGet input.seatStates seatId = some .femaleOnly ↔
      (∀ assignments : List SeatAssignment,
        (∃ a ∈ assignments, a.seatId = seatId ∧ a.gender ≠ some .female) → ∃ refusal,
          assertGenderLocks after assignments = .error (.lifecycle refusal) ∧
            refusal.code = .seatGenderLocked) ∧
      ∀ earlier later : List SeatAssignment,
        assertGenderLocks after (earlier ++ ⟨seatId, some .female⟩ :: later) =
          assertGenderLocks after (earlier ++ later) := by
  have hstate : ∀ seatId ∈ seatIds,
      input.stateOf seatId = .available ∨ input.stateOf seatId = .femaleOnly := fun seatId hseat =>
    (hopen seatId hseat).imp stateOf_of_seatStates stateOf_of_seatStates
  have hlock := h.isFemaleOnly hclaims hseeded
    (fun seatId hseat => stateOf_open.mp (hstate seatId hseat)) seatId
  have hpublished : mapGet input.seatStates seatId = some .femaleOnly ↔
      after.isFemaleOnly seatId = true := by
    rw [hlock, ← stateOf_femaleOnly (hstate seatId hseat)]
    refine ⟨stateOf_of_seatStates, fun hfemale => (hopen seatId hseat).resolve_left fun hshown => ?_⟩
    rw [stateOf_of_seatStates hshown] at hfemale
    cases hfemale
  rw [hpublished]
  constructor
  · refine fun hlocked => ⟨?_, assertGenderLocks_female after seatId⟩
    rintro assignments ⟨a, ha, rfl, hgender⟩
    exact assertGenderLocks_refuses ha hgender hlocked
  · rintro ⟨hrefused, -⟩
    obtain ⟨refusal, hrefusal, -⟩ := hrefused [⟨seatId, none⟩] ⟨_, .head _, rfl, by simp⟩
    by_contra hfree
    have hpasses : assertGenderLocks after [⟨seatId, none⟩] = .ok () :=
      assertGenderLocks_ok.mpr (by simpa using hfree)
    rw [hpasses] at hrefusal
    cases hrefusal

/-- Three berths in a row, a woman on the middle one and the viewer's hold on the last. -/
def lockedRow : SeatNeighbourhood where
  map :=
    { seatMapId := "SLEEPER-1", kind := .sleeper, decks := 1, documentedCapacity := none
      seats :=
        [⟨"L1", 1, 1, 1, .berth, true, none, ["L2"]⟩, ⟨"L2", 1, 1, 2, .berth, false, none, ["L1", "L3"]⟩,
          ⟨"L3", 1, 1, 3, .berth, true, none, ["L2"]⟩] }
  seededSold := []
  claims :=
    [⟨"L2", .booked, some "H1", some "B1", ⟨"app", "https://app", "T1"⟩, some .female⟩,
      ⟨"L3", .held, some "H2", none, ⟨"app", "https://app", "T2"⟩, none⟩]
  viewer := some ⟨"app", "https://app", "T2"⟩

/-- The same row once the viewer has given up the last berth for the first. -/
def lockedRowHeld : SeatNeighbourhood :=
  { lockedRow with
    claims :=
      [⟨"L2", .booked, some "H1", some "B1", ⟨"app", "https://app", "T1"⟩, some .female⟩,
        ⟨"L1", .held, some "H3", none, ⟨"app", "https://app", "T2"⟩, none⟩] }

/-- The first berth was shown as locked, and is refused to a man. -/
theorem gender_lock_enforced_row : ∃ refusal,
    assertGenderLocks lockedRowHeld [⟨"L1", some .male⟩] = .error (.lifecycle refusal) ∧
      refusal.code = .seatGenderLocked :=
  ((@gender_lock_enforced lockedRow lockedRowHeld ⟨"app", "https://app", "T2"⟩ ["L1"] "L1"
    (by decide) (by decide) (by decide)
    ⟨rfl, rfl, rfl, rfl, [⟨"L1", .held, some "H3", none, ⟨"app", "https://app", "T2"⟩, none⟩],
      by decide, by decide, by decide, by simp⟩ (by decide)).mp (by decide)).1
    [⟨"L1", some .male⟩] ⟨_, .head _, rfl, by decide⟩

end TransitBpp
