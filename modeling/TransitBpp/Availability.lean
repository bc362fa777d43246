import TransitBpp.Effects
import Mathlib.Data.String.Basic

/-!
# Batched availability

A search sweeps and reads the claims of every service it looks at in two statements, where it once
ran `sweepExpiredHolds` and `liveClaims` for each. Here the two paths are compared: `ServiceStep`
is one statement of the slow path, `runSteps` runs them in any order in which a departure is swept
before it is read, and `batched_availability` says that nothing distinguishes the two.

The argument is that sweeps of single departures add up to a sweep of all of them
(`Sql.Table.update_update`), and that a departure already swept reads the same however many
others are.
-/

namespace TransitBpp

open Js

section Availability

variable {travelDate : String} {nowMs : ℤ} {db db₁ db₂ : ReservedDb}

/-! ## Sweeping -/

/-- The change every sweep makes. -/
def expire (row : LockRow) : LockRow := { row with state := .expired }

/-- The sweep of several departures as the update it is. -/
def sweepIn (serviceIds : List String) (travelDate : String) (nowMs : ℤ) : Txn ℕ :=
  updateLocks (isLapsedIn serviceIds travelDate nowMs) expire

theorem sweepExpiredHoldsForServices_eq (serviceIds : List String) :
    sweepExpiredHoldsForServices serviceIds travelDate nowMs db =
      sweepIn serviceIds travelDate nowMs db := by
  by_cases hnil : serviceIds = []
  · subst hnil
    -- no row is picked, so the table is rewritten as it was
    have hnone : isLapsedIn [] travelDate nowMs = fun _ => false := by
      funext row
      simp [isLapsedIn]
    have hunique : ∀ key ∈ [LockRow.primaryKey, LockRow.liveKey],
        Sql.UniqueOn key (db.seatLocks.rows.map fun r => if false = true then expire r else r) := by
      simpa using db.seatLocks.unique
    rw [sweepExpiredHoldsForServices, if_pos rfl, sweepIn, hnone, updateLocks, statement,
      Sql.Table.update, Sql.Table.write, dif_pos hunique]
    simp only [Bool.false_eq_true, if_false, List.map_id', Option.map_some, List.countP_false]
    rfl
  · rw [sweepExpiredHoldsForServices, if_neg hnil]
    rfl

/-- A sweep never fails: it only takes rows out of the index of live seats. -/
theorem sweepIn_total (travelDate : String) (nowMs : ℤ) (serviceIds : List String)
    (db : ReservedDb) :
    ∃ n db', sweepIn serviceIds travelDate nowMs db = .ok (n, db') := by
  obtain ⟨t, ht⟩ := Sql.Table.update_isSome (t := db.seatLocks)
    (p := isLapsedIn serviceIds travelDate nowMs) (f := expire) (by
      intro key hkey row _
      rcases List.mem_pair.mp hkey with rfl | rfl
      · exact Or.inl rfl
      · exact Or.inr rfl)
  exact ⟨_, _, by rw [sweepIn, updateLocks, statement, ht]⟩

theorem sweepIn_ok {serviceIds : List String} {n : ℕ}
    (h : sweepIn serviceIds travelDate nowMs db = .ok (n, db₁)) :
    LocksOnly db db₁ (expireIf (isLapsedIn serviceIds travelDate nowMs)) :=
  (updateLocks_ok h).1

theorem sweepExpiredHolds_eq (serviceId : String) :
    sweepExpiredHolds serviceId travelDate nowMs = sweepIn [serviceId] travelDate nowMs := by
  have hsame : isLapsed serviceId travelDate nowMs = isLapsedIn [serviceId] travelDate nowMs := by
    funext row
    simp [isLapsed, isLapsedIn]
  rw [sweepExpiredHolds, hsame]
  rfl

/-- Two sweeps in turn are one sweep of all their departures, and expire as many holds. -/
theorem sweepIn_append {earlier later : List String} {n m : ℕ}
    (h₁ : sweepIn earlier travelDate nowMs db = .ok (n, db₁))
    (h₂ : sweepIn later travelDate nowMs db₁ = .ok (m, db₂)) :
    sweepIn (earlier ++ later) travelDate nowMs db = .ok (n + m, db₂) := by
  rw [sweepIn, updateLocks] at h₁ h₂ ⊢
  obtain ⟨t₁, ht₁, rfl⟩ := statement_ok.mp h₁
  obtain ⟨t₂, ht₂, rfl⟩ := statement_ok.mp h₂
  have hboth : isLapsedIn (earlier ++ later) travelDate nowMs = fun row =>
      isLapsedIn earlier travelDate nowMs row || isLapsedIn later travelDate nowMs row := by
    funext row
    simp only [isLapsedIn, List.mem_append, Bool.decide_or]
    grind
  have hout : ∀ row, isLapsedIn earlier travelDate nowMs row = true →
      isLapsedIn later travelDate nowMs (expire row) = false := by
    intro row _
    simp [isLapsedIn, expire]
  refine statement_ok.mpr ⟨t₂, ?_, rfl⟩
  rw [hboth]
  exact Sql.Table.update_update hout ht₁ ht₂

/-- Which departures a sweep covers matters, how they are listed does not. -/
theorem sweepIn_congr {xs ys : List String} (h : ∀ id, id ∈ xs ↔ id ∈ ys) :
    sweepIn xs travelDate nowMs = sweepIn ys travelDate nowMs := by
  have hsame : isLapsedIn xs travelDate nowMs = isLapsedIn ys travelDate nowMs := by
    funext row
    simp [isLapsedIn, h]
  rw [sweepIn, hsame, sweepIn]

/-! ## Reading -/

/-- The rows `liveClaims` reads. -/
def isLiveOn (serviceId travelDate : String) (row : LockRow) : Bool :=
  row.serviceId = serviceId && row.travelDate = travelDate && row.isLive

/-- A swept departure reads as its rows that had not lapsed, whatever else was swept. -/
theorem filter_isLiveOn_swept {serviceIds : List String} {serviceId : String}
    (hmem : serviceId ∈ serviceIds) (rows : List LockRow) :
    (rows.map (expireIf (isLapsedIn serviceIds travelDate nowMs))).filter
        (isLiveOn serviceId travelDate) =
      rows.filter fun row => isLiveOn serviceId travelDate row &&
        !isLapsed serviceId travelDate nowMs row := by
  induction rows with
  | nil => rfl
  | cons row rows ih =>
    rw [List.map_cons, List.filter_cons, List.filter_cons, ih]
    by_cases hid : row.serviceId = serviceId
    · have hlapsed : isLapsedIn serviceIds travelDate nowMs row =
          isLapsed serviceId travelDate nowMs row := by
        simp [isLapsedIn, isLapsed, hid, hmem]
      by_cases hl : isLapsed serviceId travelDate nowMs row = true
      · simp [expireIf, setIf, hlapsed, hl, isLiveOn, LockRow.isLive]
      · simp [expireIf, setIf, hlapsed, hl]
    · by_cases hl : isLapsedIn serviceIds travelDate nowMs row = true <;>
        simp [expireIf, setIf, hl, isLiveOn, hid]

/-- Two sweeps that both cover a departure leave it reading the same. -/
theorem liveClaims_swept {xs ys : List String} {serviceId : String}
    (h₁ : LocksOnly db db₁ (expireIf (isLapsedIn xs travelDate nowMs)))
    (h₂ : LocksOnly db db₂ (expireIf (isLapsedIn ys travelDate nowMs))) (hx : serviceId ∈ xs)
    (hy : serviceId ∈ ys) :
    db₁.liveClaims serviceId travelDate = db₂.liveClaims serviceId travelDate := by
  have hrows : db₁.seatLocks.rows.filter (isLiveOn serviceId travelDate) =
      db₂.seatLocks.rows.filter (isLiveOn serviceId travelDate) := by
    rw [h₁.locks, h₂.locks, filter_isLiveOn_swept hx, filter_isLiveOn_swept hy]
  have hclaim : db₁.claimOf = db₂.claimOf := by
    funext row
    rw [ReservedDb.claimOf, ReservedDb.claimOf, h₁.seats, h₂.seats]
  have hshow : ∀ db : ReservedDb, db.liveClaims serviceId travelDate =
      ((db.seatLocks.rows.filter (isLiveOn serviceId travelDate)).insertionSort
        fun a b => a.seatId ≤ b.seatId).map db.claimOf := fun _ => rfl
  rw [hshow, hshow, hrows, hclaim]

/-- The order `liveClaimsForServices` reads its rows in. -/
def byServiceAndSeat (a b : LockRow) : Prop :=
  a.serviceId < b.serviceId ∨ (a.serviceId = b.serviceId ∧ a.seatId ≤ b.seatId)

instance : DecidableRel byServiceAndSeat := fun _ _ => inferInstanceAs (Decidable (_ ∨ _))

instance : Std.Total byServiceAndSeat where
  total a b := by
    rcases lt_trichotomy a.serviceId b.serviceId with h | h | h
    · exact Or.inl (Or.inl h)
    · rcases le_total a.seatId b.seatId with hs | hs
      · exact Or.inl (Or.inr ⟨h, hs⟩)
      · exact Or.inr (Or.inr ⟨h.symm, hs⟩)
    · exact Or.inr (Or.inl h)

instance : IsTrans LockRow byServiceAndSeat where
  trans a b c := by
    rintro (h | ⟨h, hs⟩) (h' | ⟨h', hs'⟩)
    · exact Or.inl (h.trans h')
    · exact Or.inl (h' ▸ h)
    · exact Or.inl (h ▸ h')
    · exact Or.inr ⟨h.trans h', hs.trans hs'⟩

/-- No two live rows are for one seat, so how ties are broken never shows. -/
theorem seat_eq_of_live {serviceId : String} {a b : LockRow} (ha : a ∈ db.seatLocks.rows)
    (hb : b ∈ db.seatLocks.rows) (hla : isLiveOn serviceId travelDate a = true)
    (hlb : isLiveOn serviceId travelDate b = true) (hseat : a.seatId = b.seatId) : a = b := by
  have hkey : ∀ row, isLiveOn serviceId travelDate row = true →
      row.liveKey = some [serviceId, travelDate, row.seatId] := by
    intro row hrow
    simp only [isLiveOn, Bool.and_eq_true, decide_eq_true_eq] at hrow
    obtain ⟨⟨rfl, rfl⟩, hlive⟩ := hrow
    rw [LockRow.liveKey, if_pos hlive]
  exact (db.seatLocks.unique LockRow.liveKey (by simp)).eq_of_key ha hb (hkey a hla)
    (hseat ▸ hkey b hlb)

/-- The rows `liveClaimsForServices` reads, in the order it reads them. -/
def claimRows (db : ReservedDb) (serviceIds : List String) (travelDate : String) : List LockRow :=
  (db.seatLocks.rows.filter fun row => row.serviceId ∈ serviceIds &&
    row.travelDate = travelDate && row.isLive).insertionSort byServiceAndSeat

/-- One service's share of the batched read is what the single read sorts. -/
theorem claimRows_filter_perm {serviceIds : List String} {serviceId : String}
    (hmem : serviceId ∈ serviceIds) :
    ((claimRows db serviceIds travelDate).filter fun row => row.serviceId = serviceId).Perm
      (db.seatLocks.rows.filter (isLiveOn serviceId travelDate)) := by
  refine ((List.perm_insertionSort _ _).filter _).trans (List.Perm.of_eq ?_)
  rw [List.filter_filter]
  refine List.filter_congr fun row _ => ?_
  by_cases hid : row.serviceId = serviceId <;> simp [isLiveOn, hid, hmem]

/-- And within one service it is in the order of the seats. -/
theorem claimRows_filter_sorted (serviceIds : List String) (serviceId : String) :
    ((claimRows db serviceIds travelDate).filter fun row => row.serviceId = serviceId).Pairwise
      fun a b => a.seatId ≤ b.seatId := by
  have hsorted := (List.pairwise_insertionSort byServiceAndSeat
    (db.seatLocks.rows.filter fun row => row.serviceId ∈ serviceIds &&
      row.travelDate = travelDate && row.isLive)).filter fun row => row.serviceId = serviceId
  refine (List.Pairwise.and_mem.mp hsorted).imp ?_
  rintro a b ⟨ha, hb, h | h⟩
  · have hsame : a.serviceId = b.serviceId :=
      (of_decide_eq_true (List.mem_filter.mp ha).2).trans
        (of_decide_eq_true (List.mem_filter.mp hb).2).symm
    exact absurd (hsame ▸ h) (lt_irrefl _)
  · exact h.2

/-- The batched read lists, under each id it was asked for, what the single read answers. -/
theorem mapGet_liveClaimsForServices {serviceIds : List String} {serviceId : String}
    (hmem : serviceId ∈ serviceIds) :
    mapGet (db.liveClaimsForServices serviceIds travelDate) serviceId =
      some (db.liveClaims serviceId travelDate) := by
  have hread : db.liveClaimsForServices serviceIds travelDate =
      (unique serviceIds).map fun id => (id, ((claimRows db serviceIds travelDate).filter
        fun row => row.serviceId = id).map db.claimOf) := rfl
  have hperm : ((claimRows db serviceIds travelDate).filter
      fun row => row.serviceId = serviceId).Perm
        (db.seatLocks.rows.filter (isLiveOn serviceId travelDate)) := claimRows_filter_perm hmem
  have hrows : ((claimRows db serviceIds travelDate).filter fun row => row.serviceId = serviceId) =
      (db.seatLocks.rows.filter (isLiveOn serviceId travelDate)).insertionSort
        fun a b => a.seatId ≤ b.seatId := by
    refine List.Perm.eq_of_pairwise ?_ (claimRows_filter_sorted serviceIds serviceId)
      (List.pairwise_insertionSort _ _) (hperm.trans (List.perm_insertionSort _ _).symm)
    intro a b ha hb hab hba
    obtain ⟨ha, hla⟩ := List.mem_filter.mp (hperm.mem_iff.mp ha)
    obtain ⟨hb, hlb⟩ := List.mem_filter.mp ((List.mem_insertionSort _).mp hb)
    exact seat_eq_of_live ha hb hla hlb (le_antisymm hab hba)
  rw [hread, mapGet_map (mem_unique.mpr hmem), hrows]
  rfl

/-! ## One service at a time -/

/-- A statement of the path that asks about one service at a time. -/
inductive ServiceStep : Type where
  /-- expire the lapsed holds of a service -/
  | sweep : String → ServiceStep
  /-- read the claims of a service -/
  | claims : String → ServiceStep
  deriving DecidableEq, Repr

namespace ServiceStep

/-- The service a statement is about. -/
def serviceId : ServiceStep → String
  | sweep id => id
  | claims id => id

/-- The service a statement sweeps. -/
def swept? : ServiceStep → Option String
  | sweep id => some id
  | claims _ => none

/-- The service a statement reads. -/
def read? : ServiceStep → Option String
  | sweep _ => none
  | claims id => some id

end ServiceStep

/-- Run statements in turn: how many holds they expired, and what each read answered. -/
def runSteps (travelDate : String) (nowMs : ℤ) :
    List ServiceStep → Txn (ℕ × List (String × List LiveSeatClaim))
  | [] => return (0, [])
  | .sweep serviceId :: steps => do
    let n ← sweepExpiredHolds serviceId travelDate nowMs
    let rest ← runSteps travelDate nowMs steps
    return (n + rest.1, rest.2)
  | .claims serviceId :: steps => do
    let claims := (← get).liveClaims serviceId travelDate
    let rest ← runSteps travelDate nowMs steps
    return (rest.1, (serviceId, claims) :: rest.2)

/-- Statements that sweep and read each listed service, in an order of their own. -/
structure OneByOne (serviceIds : List String) (steps : List ServiceStep) : Prop where
  /-- no other service is asked about -/
  listed : ∀ step ∈ steps, step.serviceId ∈ serviceIds
  /-- every listed one is swept -/
  swept : ∀ id ∈ serviceIds, ServiceStep.sweep id ∈ steps
  /-- and read -/
  read : ∀ id ∈ serviceIds, ServiceStep.claims id ∈ steps
  /-- and swept before it is read -/
  inTurn : ∀ earlier id later, steps = earlier ++ ServiceStep.claims id :: later →
    ServiceStep.sweep id ∈ earlier

/-- What running statements comes to, after a sweep of `before`: one sweep of what they and it
cover, and answers that are what the swept database answers. -/
theorem runSteps_eq {steps : List ServiceStep} :
    ∀ {before : List String} {n : ℕ} {now : ReservedDb},
      sweepIn before travelDate nowMs db = .ok (n, now) →
      (∀ earlier id later, steps = earlier ++ ServiceStep.claims id :: later →
        id ∈ before ∨ ServiceStep.sweep id ∈ earlier) →
      ∃ m answers db', runSteps travelDate nowMs steps now = .ok ((m, answers), db') ∧
        sweepIn (before ++ steps.filterMap ServiceStep.swept?) travelDate nowMs db =
          .ok (n + m, db') ∧
        answers.map Prod.fst = steps.filterMap ServiceStep.read? ∧
        ∀ answer ∈ answers, answer.2 = db'.liveClaims answer.1 travelDate := by
  induction steps with
  | nil =>
    intro before n now hnow _
    exact ⟨0, [], now, rfl, by simpa using hnow, rfl, by simp⟩
  | cons step steps ih =>
    intro before n now hnow hturn
    cases step with
    | sweep serviceId =>
      obtain ⟨m, next, hnext⟩ := sweepIn_total travelDate nowMs [serviceId] now
      have hboth := sweepIn_append hnow hnext
      obtain ⟨k, answers, db', hrun, hswept, hread, hanswers⟩ := ih hboth (by
        intro earlier id later hsplit
        rcases hturn (.sweep serviceId :: earlier) id later (by rw [hsplit]; rfl) with h | h
        · exact Or.inl (List.mem_append_left _ h)
        · rcases List.mem_cons.mp h with h | h
          · obtain rfl := ServiceStep.sweep.inj h
            exact Or.inl (by simp)
          · exact Or.inr h)
      refine ⟨m + k, answers, db', ?_, ?_, hread, hanswers⟩
      · rw [runSteps, sweepExpiredHolds_eq]
        exact Txn.bind_ok.mpr ⟨m, next, hnext, Txn.bind_ok.mpr ⟨_, _, hrun, rfl⟩⟩
      · rw [← Nat.add_assoc]
        simpa [ServiceStep.swept?] using hswept
    | claims serviceId =>
      obtain ⟨k, answers, db', hrun, hswept, hread, hanswers⟩ := ih hnow (by
        intro earlier id later hsplit
        rcases hturn (.claims serviceId :: earlier) id later (by rw [hsplit]; rfl) with h | h
        · exact Or.inl h
        · exact Or.inr ((List.mem_cons.mp h).resolve_left (by simp)))
      have hbefore : serviceId ∈ before := (hturn [] serviceId steps rfl).resolve_right (by simp)
      refine ⟨k, (serviceId, now.liveClaims serviceId travelDate) :: answers, db', ?_, ?_, ?_, ?_⟩
      · rw [runSteps]
        exact Txn.bind_ok.mpr ⟨now, now, rfl, Txn.bind_ok.mpr ⟨_, _, hrun, rfl⟩⟩
      · rw [List.filterMap_cons_none rfl]
        exact hswept
      · rw [List.map_cons, hread]
        rfl
      · intro answer hanswer
        rcases List.mem_cons.mp hanswer with rfl | hanswer
        -- what it read was swept by then, and the later sweeps do not show
        · exact liveClaims_swept (sweepIn_ok hnow) (sweepIn_ok hswept) hbefore
            (List.mem_append_left _ hbefore)
        · exact hanswers answer hanswer

/-- Sweeping and reading in one statement each leaves the database that sweeping and reading one
service at a time leaves, expires as many holds, and answers each listed service the same claims
in the same order. -/
theorem batched_availability (db : ReservedDb) (serviceIds : List String) (travelDate : String)
    (nowMs : ℤ) {steps : List ServiceStep} (h : OneByOne serviceIds steps) :
    ∃ n answers db',
      sweepExpiredHoldsForServices serviceIds travelDate nowMs db = .ok (n, db') ∧
      runSteps travelDate nowMs steps db = .ok ((n, answers), db') ∧
      (∀ id, id ∈ answers.map Prod.fst ↔ id ∈ serviceIds) ∧
      ∀ answer ∈ answers,
        mapGet (db'.liveClaimsForServices serviceIds travelDate) answer.1 = some answer.2 := by
  obtain ⟨start, now, hnow⟩ := sweepIn_total travelDate nowMs [] db
  obtain ⟨hstart, rfl⟩ : start = 0 ∧ now = db := by
    rw [← sweepExpiredHoldsForServices_eq] at hnow
    obtain ⟨rfl, rfl⟩ := Txn.pure_ok.mp hnow
    exact ⟨rfl, rfl⟩
  obtain ⟨n, answers, db', hrun, hswept, hread, hanswers⟩ := runSteps_eq hnow
    fun earlier id later hsplit => Or.inr (h.inTurn earlier id later hsplit)
  rw [hstart, Nat.zero_add, List.nil_append] at hswept
  have hcovers : ∀ id, id ∈ steps.filterMap ServiceStep.swept? ↔ id ∈ serviceIds := by
    intro id
    rw [List.mem_filterMap]
    constructor
    · rintro ⟨step, hstep, hid⟩
      cases step with
      | sweep serviceId =>
        obtain rfl := Option.some.inj hid
        exact h.listed _ hstep
      | claims _ => cases hid
    · intro hid
      exact ⟨_, h.swept id hid, rfl⟩
  have hids : ∀ id, id ∈ answers.map Prod.fst ↔ id ∈ serviceIds := by
    intro id
    rw [hread, List.mem_filterMap]
    constructor
    · rintro ⟨step, hstep, hid⟩
      cases step with
      | sweep _ => cases hid
      | claims serviceId =>
        obtain rfl := Option.some.inj hid
        exact h.listed _ hstep
    · intro hid
      exact ⟨_, h.read id hid, rfl⟩
  refine ⟨n, answers, db', ?_, hrun, hids, ?_⟩
  · rw [sweepExpiredHoldsForServices_eq, ← sweepIn_congr hcovers]
    exact hswept
  · intro answer hanswer
    rw [hanswers answer hanswer]
    exact mapGet_liveClaimsForServices ((hids _).mp (List.mem_map_of_mem hanswer))

/-- Two departures with a lapsed hold on one and a live one on the other. -/
def lapsedAndLive : ReservedDb :=
  { ReservedDb.empty with
    seatLocks := ⟨[
      ⟨"HLD-KSRTC-A-1", "S1", "2026-09-10", "1", .held, some "HLD-KSRTC-A", none, "KSRTC",
        ⟨"bap", "https://bap", "T1"⟩, some 4, 0⟩,
      ⟨"HLD-KSRTC-B-1", "S2", "2026-09-10", "1", .held, some "HLD-KSRTC-B", none, "KSRTC",
        ⟨"bap", "https://bap", "T2"⟩, some 9, 0⟩], by decide⟩ }

/-- The rule there, at a list with a repeated and an unknown id, taken in another order. -/
theorem batched_availability_specimen :
    ∃ n answers db',
      sweepExpiredHoldsForServices ["S1", "S9", "S1"] "2026-09-10" 5 lapsedAndLive =
        .ok (n, db') ∧
      runSteps "2026-09-10" 5 [.sweep "S9", .sweep "S1", .claims "S9", .sweep "S1", .claims "S1"]
        lapsedAndLive = .ok ((n, answers), db') ∧
      (∀ id, id ∈ answers.map Prod.fst ↔ id ∈ ["S1", "S9", "S1"]) ∧
      ∀ answer ∈ answers,
        mapGet (db'.liveClaimsForServices ["S1", "S9", "S1"] "2026-09-10") answer.1 =
          some answer.2 := by
  refine batched_availability lapsedAndLive _ _ _ ⟨by decide, by decide, by decide, ?_⟩
  intro earlier id later hsplit
  rcases earlier with _ | ⟨_, _ | ⟨_, _ | ⟨_, _ | ⟨_, _ | ⟨_, earlier⟩⟩⟩⟩⟩ <;> simp at hsplit <;> grind

end Availability

end TransitBpp
