import TransitBpp.Runs

/-!
# Manifest pushes

`fleetManifest.ts` and `publishManifestFor`. A push that a confirm or a cancellation started reads the
claims of its departure later, beside every other request, and does not sweep them: the counts it sends
are those of the locks it finds, and a lapsed hold that nobody has swept is counted as held.
-/

namespace TransitBpp

open Interleave Js

/-! ## What a push sends -/

/-- `ManifestSeatCounts`. -/
structure ManifestSeatCounts : Type where
  /-- the seats on the map -/
  total : ℕ
  /-- sold by this provider -/
  booked : ℕ
  /-- held -/
  held : ℕ
  /-- sold by the simulation -/
  simulated : ℕ
  deriving DecidableEq, Repr

/-- How many claims are of a strength. -/
def claimCount (state : ClaimState) (claims : List LiveSeatClaim) : ℕ :=
  claims.countP fun claim => claim.state = state

/-- The split of the seats of a departure. -/
def manifestSeatCounts (d : Deployment) (service : ReservedService) (seatMap : SeatMap)
    (travelDate : String) (claims : List LiveSeatClaim) : Except Failure ManifestSeatCounts := do
  let seeded ← seededOccupancy d.collation service seatMap travelDate d.reservation.occupancySeed
  return ⟨seatMap.seats.length, claimCount .booked claims, claimCount .held claims, seeded.length⟩

/-- What goes out to the fleet simulator. -/
inductive FleetMessage : Type where
  /-- `PUT`: the counts of a departure, as of an instant -/
  | publish (serviceId travelDate : String) (seats : ManifestSeatCounts) (asOf : ℤ) : FleetMessage
  /-- `DELETE`: nothing is booked on it -/
  | clear (serviceId travelDate : String) : FleetMessage
  deriving DecidableEq, Repr

/-- The message for the claims a push has read. -/
def manifestMessage (d : Deployment) (push : ManifestPush) (service : ReservedService)
    (seatMap : SeatMap) (claims : List LiveSeatClaim) : Except Failure FleetMessage :=
  if claims.length = 0 then return .clear push.serviceId push.travelDate
  else do
    return .publish push.serviceId push.travelDate
      (← manifestSeatCounts d service seatMap push.travelDate claims) push.asOf

/-- `publishManifestFor`, from the instant it was started at. -/
def publishManifestFor (d : Deployment) (push : ManifestPush) : Act (Option FleetMessage) := do
  match ← attempt (Prog.perform (Op.service push.serviceId)) with
  | none => return none
  | some service =>
    let seatMap ← seatMapFor service
    let claims ← attempt (Prog.perform (Op.liveClaims push.serviceId push.travelDate))
    return some (← manifestMessage d push service seatMap claims)

/-! ## The system -/

/-- A push that was started, by its number. -/
structure PushTask : Type where
  /-- how many were started before it -/
  index : ℕ
  /-- the push -/
  push : ManifestPush
  deriving DecidableEq

/-- Who performs operations: a request, or a push. -/
abbrev Caller : Type := Request ⊕ PushTask

/-- What one comes to: an answer, or what was sent, where anything was. -/
abbrev Outcome : Type := Answer ⊕ Option FleetMessage

/-- The provider with its pushes under way. -/
def egress (d : Deployment) :
    System Op Resp World Caller (Except Failure Outcome) Choice Happening where
  handler
    | .inl request => (provider d).handler request >>= fun result => .ret (result.map .inl)
    | .inr task => (publishManifestFor d task.push).run >>= fun result => .ret (result.map .inr)
  exec _ caller o op w :=
    match caller with
    | .inl request => w.exec d request.process o op
    | .inr _ => w.exec d 0 o op
  env := World.happen

/-- A push runs once a confirm or a cancellation has started it. -/
def isStarted (s : History) : Move Op Caller Happening → Bool
  | .start (.inr task) => s.world.pushes.reverse[task.index]? = some task.push
  | _ => true

/-- A configuration of it. -/
abbrev FleetPool : Type := Config Op Resp World Caller (Except Failure Outcome)

/-- A state that requests and pushes can lead to. -/
abbrev FleetReach (d : Deployment) : FleetPool → FleetPool → Prop :=
  Reach (egress d) fun s m => isStarted s m = true

/-! ## What is true of a departure -/

/-- A lock of a departure, in a state. -/
def LockRow.isOn (serviceId travelDate : String) (state : SeatLockState) (row : LockRow) : Bool :=
  row.serviceId = serviceId && row.travelDate = travelDate && row.state = state

/-- The `BOOKED` locks of a departure. -/
def ReservedDb.bookedOn (db : ReservedDb) (serviceId travelDate : String) : ℕ :=
  db.seatLocks.rows.countP (LockRow.isOn serviceId travelDate .booked)

/-- The `HELD` locks of a departure. -/
def ReservedDb.heldOn (db : ReservedDb) (serviceId travelDate : String) : ℕ :=
  db.seatLocks.rows.countP (LockRow.isOn serviceId travelDate .held)

/-- Those that lapse later than an instant. -/
def ReservedDb.heldAfter (db : ReservedDb) (serviceId travelDate : String) (asOf : ℤ) : ℕ :=
  db.seatLocks.rows.countP fun row =>
    LockRow.isOn serviceId travelDate .held row && row.expiresAt.any fun at_ => asOf < at_

/-- A message tells the truth at its instant. -/
structure Truthful (db : ReservedDb) (push : ManifestPush) (message : FleetMessage) : Prop where
  /-- the counts are those of the departure -/
  counts : ∀ seats, message = .publish push.serviceId push.travelDate seats push.asOf →
    seats.booked = db.bookedOn push.serviceId push.travelDate ∧
      seats.held = db.heldAfter push.serviceId push.travelDate push.asOf
  /-- a clear is sent where there is nothing to count -/
  cleared : message = .clear push.serviceId push.travelDate ↔
    db.bookedOn push.serviceId push.travelDate = 0 ∧
      db.heldAfter push.serviceId push.travelDate push.asOf = 0

/-- No hold of the departure has lapsed unswept. -/
def NoneLapsed (db : ReservedDb) (push : ManifestPush) : Prop :=
  ∀ row ∈ db.seatLocks.rows, row.isOn push.serviceId push.travelDate .held = true →
    row.expiresAt.any (fun at_ => push.asOf < at_) = true

/-! ## Counting claims -/

section

variable {db : ReservedDb} {serviceId travelDate : String}

theorem liveClaims_perm : (db.liveClaims serviceId travelDate).Perm ((db.seatLocks.rows.filter fun row =>
    row.serviceId = serviceId && row.travelDate = travelDate && row.isLive).map db.claimOf) := by
  rw [ReservedDb.liveClaims]
  exact (List.perm_insertionSort _ _).map _

theorem claimCount_booked :
    claimCount .booked (db.liveClaims serviceId travelDate) = db.bookedOn serviceId travelDate := by
  rw [claimCount, liveClaims_perm.countP_eq, List.countP_map, List.countP_filter, ReservedDb.bookedOn]
  refine List.countP_congr fun row _ => ?_
  simp only [Function.comp, LockRow.isOn, LockRow.isLive, ReservedDb.claimOf, ReservedDb.claimState,
    Bool.and_eq_true, Bool.or_eq_true, decide_eq_true_eq]
  by_cases hbooked : row.state = .booked <;> simp [hbooked]

theorem claimCount_held :
    claimCount .held (db.liveClaims serviceId travelDate) = db.heldOn serviceId travelDate := by
  rw [claimCount, liveClaims_perm.countP_eq, List.countP_map, List.countP_filter, ReservedDb.heldOn]
  refine List.countP_congr fun row _ => ?_
  simp only [Function.comp, LockRow.isOn, LockRow.isLive, ReservedDb.claimOf, ReservedDb.claimState,
    Bool.and_eq_true, Bool.or_eq_true, decide_eq_true_eq]
  by_cases hbooked : row.state = .booked <;> simp [hbooked]

/-- Every claim is booked or held. -/
theorem length_eq_claimCounts (claims : List LiveSeatClaim) :
    claims.length = claimCount .booked claims + claimCount .held claims := by
  rw [claimCount, claimCount, List.length_eq_countP_add_countP fun claim => decide (claim.state = .booked)]
  congr 1
  refine List.countP_congr fun claim _ => ?_
  cases claim.state <;> simp

/-- Every hold lapses later exactly where as many do as there are. -/
theorem heldAfter_eq_heldOn {push : ManifestPush} :
    db.heldOn push.serviceId push.travelDate = db.heldAfter push.serviceId push.travelDate push.asOf ↔
      NoneLapsed db push := by
  have hsplit : db.heldOn push.serviceId push.travelDate =
      db.heldAfter push.serviceId push.travelDate push.asOf + db.seatLocks.rows.countP fun row =>
        row.isOn push.serviceId push.travelDate .held && !row.expiresAt.any fun at_ => push.asOf < at_ := by
    rw [ReservedDb.heldOn, ReservedDb.heldAfter]
    induction db.seatLocks.rows with
    | nil => rfl
    | cons row rows ih =>
      simp only [List.countP_cons, ih]
      cases row.isOn push.serviceId push.travelDate .held <;>
        cases row.expiresAt.any (fun at_ => push.asOf < at_) <;> simp <;> omega
  rw [hsplit]
  constructor
  · intro h row hrow hheld
    have hnone : db.seatLocks.rows.countP (fun row =>
        row.isOn push.serviceId push.travelDate .held &&
          !row.expiresAt.any fun at_ => push.asOf < at_) = 0 := by omega
    have hrow := List.countP_eq_zero.mp hnone row hrow
    simpa [hheld] using hrow
  · intro h
    have hnone : db.seatLocks.rows.countP (fun row =>
        row.isOn push.serviceId push.travelDate .held &&
          !row.expiresAt.any fun at_ => push.asOf < at_) = 0 := by
      refine List.countP_eq_zero.mpr fun row hrow => ?_
      intro hboth
      obtain ⟨hheld, hlapsed⟩ := Bool.and_eq_true_iff.mp hboth
      rw [h row hrow hheld] at hlapsed
      cases hlapsed
    omega

end

/-! ## One message -/

/-- The counts of a message are those of the claims it was made from. -/
theorem manifestMessage_ok {d : Deployment} {push : ManifestPush} {service : ReservedService}
    {seatMap : SeatMap} {claims : List LiveSeatClaim} {message : FleetMessage}
    (h : manifestMessage d push service seatMap claims = .ok message) :
    claims = [] ∧ message = .clear push.serviceId push.travelDate ∨
      claims ≠ [] ∧ ∃ seats, message = .publish push.serviceId push.travelDate seats push.asOf ∧
        seats.booked = claimCount .booked claims ∧ seats.held = claimCount .held claims := by
  rw [manifestMessage] at h
  split at h
  · rename_i hnone
    exact .inl ⟨List.eq_nil_of_length_eq_zero hnone, (Except.ok.inj h).symm⟩
  · rename_i hsome
    refine .inr ⟨fun hnil => hsome (by rw [hnil]; rfl), ?_⟩
    rw [manifestSeatCounts] at h
    cases hseeded : seededOccupancy d.collation service seatMap push.travelDate
        d.reservation.occupancySeed with
    | error e =>
      rw [hseeded] at h
      cases h
    | ok seeded =>
      rw [hseeded] at h
      exact ⟨_, (Except.ok.inj h).symm, rfl, rfl⟩

/-- A message that counts the claims of a departure is true exactly where no hold has lapsed unswept. -/
theorem truthful_iff {d : Deployment} {db : ReservedDb} {push : ManifestPush}
    {service : ReservedService} {seatMap : SeatMap} {message : FleetMessage}
    (h : manifestMessage d push service seatMap
      (db.liveClaims push.serviceId push.travelDate) = .ok message) :
    Truthful db push message ↔ NoneLapsed db push := by
  rw [← heldAfter_eq_heldOn]
  have hlength := length_eq_claimCounts (db.liveClaims push.serviceId push.travelDate)
  rw [claimCount_booked, claimCount_held] at hlength
  rcases manifestMessage_ok h with ⟨hnil, rfl⟩ | ⟨hsome, seats, rfl, hbooked, hheld⟩
  · rw [hnil, List.length_nil] at hlength
    constructor
    · intro htrue
      have hafter := (htrue.cleared.mp rfl).2
      omega
    · intro heq
      exact ⟨fun seats hpublish => (nomatch hpublish), fun _ => ⟨by omega, by omega⟩, fun _ => rfl⟩
  · rw [claimCount_booked] at hbooked
    rw [claimCount_held] at hheld
    have hpos := List.length_pos_iff.mpr hsome
    constructor
    · intro htrue
      exact hheld.symm.trans (htrue.counts seats rfl).2
    · intro heq
      refine ⟨fun seats' hpublish => ?_, fun hclear => (nomatch hclear), fun hzero => ?_⟩
      · obtain rfl : seats = seats' := by injection hpublish
        exact ⟨hbooked, hheld.trans heq⟩
      · omega

/-! ## Every push of a run -/

section

variable {d : Deployment} {task : PushTask} {jr : Journal}

/-- Nothing is asked of an operation. -/
def Anything (_ : Journal) (_ : Op) : Prop := True

/-- What a push has read when it sends. -/
def Sends (d : Deployment) (push : ManifestPush) (jr : Journal) (message : FleetMessage) : Prop :=
  ∃ claims earlier service seatMap,
    jr = ⟨.liveClaims push.serviceId push.travelDate, .ok claims⟩ :: earlier ∧
      manifestMessage d push service seatMap claims = .ok message

theorem publishManifestFor_sends (push : ManifestPush) :
    Handler.Journal Anything (fun found jr' => ∀ message, found = some message →
      Sends d push jr' message) (fun _ _ => True) (publishManifestFor d push) jr := by
  rw [publishManifestFor, Handler.journal_bind, journal_attempt]
  refine journal_op.mpr ⟨trivial, ?_⟩
  rintro (e | _ | service)
  · trivial
  · exact fun message h => nomatch h
  · rw [ends_ok, Handler.journal_bind, seatMapFor, Handler.journal_bind, journal_attempt]
    refine journal_op.mpr ⟨trivial, ?_⟩
    rintro (e | _ | seatMap)
    · trivial
    · trivial
    · rw [ends_ok, Handler.journal_pure, Handler.journal_bind, journal_attempt]
      refine journal_op.mpr ⟨trivial, ?_⟩
      rintro (e | claims)
      · trivial
      · rw [ends_ok, Handler.journal_bind, Handler.journal_lift]
        refine ⟨fun message hmessage found hfound => ?_, fun _ _ => trivial⟩
        obtain rfl := Option.some.inj hfound
        exact ⟨claims, _, service, seatMap, rfl, hmessage⟩

/-- What a caller came to. -/
def CameTo (d : Deployment) : Caller → Except Failure Outcome → Journal → Prop
  | .inl _, _, _ => True
  | .inr task, outcome, jr => ∀ message, outcome = .ok (.inr (some message)) →
    Sends d task.push jr message

theorem egress_cameTo (caller : Caller) :
    ((egress d).handler caller).Journal Anything (CameTo d caller) [] := by
  cases caller with
  | inl request =>
    refine Prog.journal_bind.mpr ?_
    refine Prog.Journal.mono (fun _ _ _ _ => trivial) (fun _ _ _ _ => ?_) (handle_knows request)
    trivial
  | inr task =>
    refine Prog.journal_bind.mpr ?_
    refine Prog.Journal.mono (fun _ _ _ _ => trivial) ?_ (publishManifestFor_sends task.push)
    rintro (e | found) jr - hsends message hsent
    · cases hsent
    · obtain rfl : found = some message := by
        injection hsent with h
        injection h
      exact hsends message rfl

end

/-- **What a push sends is true exactly where no hold of its departure has lapsed unswept**, for every
push that requests can have started and every moment at which it can read. -/
theorem push_tells_truth_iff {d : Deployment} {clock : ℤ} {source : Source} {c c' : FleetPool}
    (h : FleetReach d ⟨⟨World.initial clock source, []⟩, []⟩ c) {i : ℕ} {task : PushTask} {op : Op}
    (hstep : Step (egress d) c (.perform i (.inr task) op) c') {message : FleetMessage}
    (hsent : c'.answer i = some (.ok (.inr (some message)))) :
    Truthful c.hist.world.db task.push message ↔ NoneLapsed c.hist.world.db task.push := by
  have hkept := (Reach.step h (by rfl) hstep).journal egress_cameTo
  cases hstep with
  | @perform _ _ _ k r _ htask hdoes =>
    have hlt := (List.getElem?_eq_some_iff.mp htask).1
    have hrest : (c.tasks.set i ⟨.inr task, k r⟩)[i]? = some ⟨.inr task, k r⟩ :=
      List.getElem?_set_self hlt
    rw [Config.answer, hrest] at hsent
    split at hsent
    · rename_i hret
      obtain rfl := Option.some.inj hsent
      injection Option.some.inj hret with hreq hk
      rw [hk] at hrest hkept
      obtain ⟨claims, earlier, service, seatMap, hown, hmessage⟩ := hkept.answer hrest message rfl
      obtain ⟨o, w, hexec, rfl⟩ := hdoes
      have hself := own_cons_self (⟨i, op, r⟩ : Entry Op Resp) c.hist.trace
      rw [hself] at hown
      injection (List.cons.inj hown).1 with hop hr
      subst hop
      obtain rfl := eq_of_heq hr
      have hread : o.read (c.hist.world.db.liveClaims task.push.serviceId task.push.travelDate) =
          .ok claims := by
        simp only [egress, World.exec] at hexec
        exact (Prod.mk.inj (Option.some.inj hexec)).2
      obtain rfl := Choice.read_ok hread
      exact truthful_iff hmessage
    · cases hsent

/-! ### Two pushes -/

/-- The entries of a schedule of requests, in a run with pushes. -/
def asCaller : Event Request Choice Happening → Event Caller Choice Happening
  | .start request => .start (.inl request)
  | .run i o => .run i o
  | .env e => .env e

/-- The provider before its first request. -/
def fleetStart : FleetPool := ⟨⟨World.initial specimenClock specimenSource, []⟩, []⟩

/-- What a task has sent. -/
def sentBy (c : FleetPool) (i : ℕ) : Option FleetMessage :=
  match c.answer i with
  | some (.ok (.inr found)) => found
  | _ => none

/-- The push that a task is. -/
def pushOf (c : FleetPool) (i : ℕ) : Option PushTask :=
  c.tasks[i]?.bind fun task => task.req.getRight?

/-- The last move of a push, the message it sends, and the state it was made from. -/
theorem sent_of_run {d : Deployment} {c₀ : FleetPool} {evs : List (Event Caller Choice Happening)}
    {i : ℕ} {o : Choice} {task : PushTask} {message : FleetMessage} {held : ℕ}
    (hrun : ((c₀.follow (egress d) isStarted evs).bind fun c => (c.next (egress d) (.run i o)).map fun p =>
      (pushOf c i, sentBy p.2 i, c.hist.world.db.heldAfter task.push.serviceId task.push.travelDate
        task.push.asOf)) = some (some task, some message, held)) :
    ∃ c c' op, FleetReach d c₀ c ∧ Step (egress d) c (.perform i (.inr task) op) c' ∧
      c'.answer i = some (.ok (.inr (some message))) ∧
      c.hist.world.db.heldAfter task.push.serviceId task.push.travelDate task.push.asOf = held := by
  obtain ⟨c, hfollow, hlast⟩ := Option.bind_eq_some_iff.mp hrun
  obtain ⟨⟨m, c'⟩, hnext, heq⟩ := Option.map_eq_some_iff.mp hlast
  obtain ⟨hpush, hsent, hheld⟩ : pushOf c i = some task ∧ sentBy c' i = some message ∧
      c.hist.world.db.heldAfter task.push.serviceId task.push.travelDate task.push.asOf = held := by
    simpa using heq
  obtain ⟨req, op, k, htask, rfl⟩ := Config.next_run hnext
  obtain rfl : req = .inr task := by
    rw [pushOf, htask] at hpush
    cases req with
    | inl request => cases hpush
    | inr task' => rw [← Option.some.inj hpush]
  refine ⟨c, c', op, Config.follow_reach .refl hfollow, Config.next_step hnext, ?_, hheld⟩
  rw [sentBy] at hsent
  split at hsent
  · rename_i hanswer
    rw [hanswer, hsent]
  · cases hsent

/-- The push that a sale starts. -/
def specimenPush (asOf : ℤ) : PushTask := ⟨0, "S1", "2026-09-10", asOf⟩

/-- Two seats are sold, and the push reads them. -/
def truePush : List (Event Caller Choice Happening) :=
  specimenSale.map asCaller ++ [.start (.inr (specimenPush specimenClock)), .run 2 ⟨"", none⟩,
    .run 2 ⟨"", none⟩]

theorem push_tells_truth_specimen : ∃ c, FleetReach specimenDeployment fleetStart c ∧ ∃ message,
    Truthful c.hist.world.db (specimenPush specimenClock).push message ↔
      NoneLapsed c.hist.world.db (specimenPush specimenClock).push := by
  obtain ⟨c, c', op, hreach, hstep, hsent, -⟩ := @sent_of_run specimenDeployment fleetStart truePush 2
    ⟨"", none⟩ (specimenPush specimenClock)
    (.publish "S1" "2026-09-10" ⟨2, 2, 0, 0⟩ specimenClock) 0 (by decide +kernel)
  exact ⟨c, hreach, _, push_tells_truth_iff hreach hstep hsent⟩

/-- Seat 1 is held, and seat 2 a second later. The second hold is confirmed, and while it is, the first
one lapses. -/
def lapsedSale : List (Event Request Choice Happening) :=
  [.start (specimenSelect "T1" ["1"])] ++ steps 0 12 "a1" ++
    [.env (.tick 1000), .start (specimenSelect "T2" ["2"])] ++ steps 1 12 "a2" ++
    [.env (.tick 598000), .start (specimenConfirm 0 "T2" [("2", "B", "female")] [])] ++
    steps 2 14 "b2" ++ [.env (.tick 1000)] ++ steps 2 7 "b2"

/-- The push that the confirm starts reads both holds. -/
def lapsedPush : List (Event Caller Choice Happening) :=
  lapsedSale.map asCaller ++
    [.start (.inr (specimenPush (specimenClock + 600000))), .run 3 ⟨"", none⟩, .run 3 ⟨"", none⟩]

/-- The hold that lapsed is published as held. -/
theorem push_counts_lapsed_hold : ∃ c c' op message, FleetReach specimenDeployment fleetStart c ∧
    Step (egress specimenDeployment) c
      (.perform 3 (.inr (specimenPush (specimenClock + 600000))) op) c' ∧
    c'.answer 3 = some (.ok (.inr (some message))) ∧
    ¬ Truthful c.hist.world.db (specimenPush (specimenClock + 600000)).push message := by
  obtain ⟨c, c', op, hreach, hstep, hsent, hheld⟩ := @sent_of_run specimenDeployment fleetStart lapsedPush
    3 ⟨"", none⟩ (specimenPush (specimenClock + 600000))
    (.publish "S1" "2026-09-10" ⟨2, 1, 1, 0⟩ (specimenClock + 600000)) 0 (by decide +kernel)
  refine ⟨c, c', op, _, hreach, hstep, hsent, fun htrue => ?_⟩
  have hone := (htrue.counts _ rfl).2
  rw [hheld] at hone
  exact absurd hone (by decide)

end TransitBpp
