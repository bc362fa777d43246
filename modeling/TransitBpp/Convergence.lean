import TransitBpp.FleetManifest
import TransitBpp.Reads

/-!
# Pushes that arrive out of order

The receiving simulator keeps one manifest of each departure, discards a publish that is not strictly newer
than the one it keeps, and drops the manifest on a clear. A publish carries the instant its push was started
at, but a clear carries none, and two pushes can be started in one millisecond, so what the simulator ends
with is the final count only where the deliveries settle on a push that read after the last change.
-/

namespace TransitBpp

open Interleave Js

/-! ## The receiving simulator -/

/-- What the simulator keeps of a departure. -/
structure KeptManifest : Type where
  /-- the counts -/
  seats : ManifestSeatCounts
  /-- as of when -/
  asOf : ℤ
  deriving DecidableEq, Repr

/-- The simulator: at most one manifest of each service and date. -/
abbrev Simulator : Type := String → String → Option KeptManifest

/-- Whether a publish is strictly newer than what is kept. -/
def KeptManifest.isOlder (asOf : ℤ) : Option KeptManifest → Bool
  | none => true
  | some kept => kept.asOf < asOf

/-- One delivery. -/
def Simulator.receive (sim : Simulator) : FleetMessage → Simulator
  | .publish serviceId travelDate seats asOf => fun id date =>
    if id = serviceId ∧ date = travelDate ∧ KeptManifest.isOlder asOf (sim id date) = true then
      some ⟨seats, asOf⟩
    else sim id date
  | .clear serviceId travelDate => fun id date =>
    if id = serviceId ∧ date = travelDate then none else sim id date

/-- Deliveries one after the other. -/
def Simulator.receiveAll (sim : Simulator) (messages : List FleetMessage) : Simulator :=
  messages.foldl receive sim

/-- Nothing is kept yet. -/
def Simulator.empty : Simulator := fun _ _ => none

/-- The simulator shows a booked count: the count of the manifest it keeps, and none for zero. -/
def Simulator.Shows (sim : Simulator) (serviceId travelDate : String) (booked : ℕ) : Prop :=
  (sim serviceId travelDate).map (fun kept => kept.seats.booked) = if booked = 0 then none else some booked

section

variable {sim : Simulator} {serviceId travelDate : String}

theorem receiveAll_append (earlier later : List FleetMessage) :
    sim.receiveAll (earlier ++ later) = (sim.receiveAll earlier).receiveAll later :=
  List.foldl_append

/-- Messages that leave a departure as it is kept: none clears it, and none is newer. -/
theorem receiveAll_keeps {kept : KeptManifest} : ∀ {messages : List FleetMessage} {sim : Simulator},
    sim serviceId travelDate = some kept →
    (∀ m ∈ messages, m ≠ .clear serviceId travelDate) →
    (∀ m ∈ messages, ∀ seats asOf, m = .publish serviceId travelDate seats asOf → asOf ≤ kept.asOf) →
    (sim.receiveAll messages) serviceId travelDate = some kept
  | [], _, hkept, _, _ => hkept
  | m :: messages, sim, hkept, hclear, holder => by
    change ((sim.receive m).receiveAll messages) serviceId travelDate = some kept
    refine receiveAll_keeps ?_
      (fun m' h => hclear m' (List.mem_cons_of_mem _ h)) fun m' h => holder m' (List.mem_cons_of_mem _ h)
    cases m with
    | publish id date seats asOf =>
      simp only [Simulator.receive]
      split
      · rename_i hnewer
        obtain ⟨rfl, rfl, hnewer⟩ := hnewer
        have hle := holder _ (List.mem_cons_self ..) seats asOf rfl
        rw [hkept, KeptManifest.isOlder, decide_eq_true_eq] at hnewer
        omega
      · exact hkept
    | clear id date =>
      simp only [Simulator.receive]
      rw [if_neg, hkept]
      rintro ⟨rfl, rfl⟩
      exact hclear _ (List.mem_cons_self ..) rfl

/-- Messages that leave a departure dropped: none publishes it. -/
theorem receiveAll_drops : ∀ {messages : List FleetMessage} {sim : Simulator},
    sim serviceId travelDate = none →
    (∀ m ∈ messages, ∀ seats asOf, m ≠ .publish serviceId travelDate seats asOf) →
    (sim.receiveAll messages) serviceId travelDate = none
  | [], _, hnone, _ => hnone
  | m :: messages, sim, hnone, hpublish => by
    change ((sim.receive m).receiveAll messages) serviceId travelDate = none
    refine receiveAll_drops ?_
      fun m' h => hpublish m' (List.mem_cons_of_mem _ h)
    cases m with
    | publish id date seats asOf =>
      simp only [Simulator.receive]
      rw [if_neg, hnone]
      rintro ⟨rfl, rfl, -⟩
      exact hpublish _ (List.mem_cons_self ..) seats asOf rfl
    | clear id date =>
      simp only [Simulator.receive]
      split
      · rfl
      · exact hnone

end

/-! ## Commits of a departure -/

/-- A confirm or a cancellation of a departure that committed. -/
inductive CommitsOn (db : ReservedDb) (serviceId travelDate : String) (e : Entry Op Resp) : Prop where
  /-- a booking was made on it -/
  | confirmed (params : ConfirmBooking) : e.line = ⟨.transaction (.confirmBooking params), .ok ()⟩ →
      params.serviceId = serviceId → params.travelDate = travelDate → CommitsOn db serviceId travelDate e
  /-- seats of a booking on it were cancelled -/
  | cancelled (params : ApplyCancellation) (booking : BookingRow) :
      e.line = ⟨.transaction (.applyCancellation params), .ok ()⟩ → booking ∈ db.bookings.rows →
      booking.id = params.bookingId → booking.serviceId = serviceId → booking.travelDate = travelDate →
      CommitsOn db serviceId travelDate e

section

variable {db db' : ReservedDb} {t : Transaction} {raw : String} {serviceId travelDate : String}

/-- A booking stays on its departure, so a commit of it stays one. -/
theorem CommitsOn.later {e : Entry Op Resp} (h : CommitsOn db serviceId travelDate e) {a : t.Answer}
    (hrun : t.run raw db = .ok (a, db')) : CommitsOn db' serviceId travelDate e := by
  cases h with
  | confirmed params hline hservice hdate => exact .confirmed params hline hservice hdate
  | cancelled params booking hline hmem hid hservice hdate =>
    obtain ⟨booking', hmem', hsame⟩ := booking_stays hrun ⟨booking, hmem, .refl booking⟩
    exact .cancelled params booking' hline hmem' (hsame.id.trans hid) (hsame.serviceId.trans hservice)
      (hsame.travelDate.trans hdate)

/-- Locks that are booked on a departure exactly where they were. -/
theorem bookedOn_map {f : LockRow → LockRow} {new : List LockRow}
    (hrows : db'.seatLocks.rows = db.seatLocks.rows.map f ++ new)
    (hsame : ∀ row ∈ db.seatLocks.rows,
      (f row).isOn serviceId travelDate .booked = row.isOn serviceId travelDate .booked)
    (hnew : ∀ row ∈ new, row.state = .held) :
    db'.bookedOn serviceId travelDate = db.bookedOn serviceId travelDate := by
  have hnone : new.countP (LockRow.isOn serviceId travelDate .booked) = 0 :=
    List.countP_eq_zero.mpr fun row hrow => by simp [LockRow.isOn, hnew row hrow]
  rw [ReservedDb.bookedOn, hrows, List.countP_append, hnone, List.countP_map, ReservedDb.bookedOn]
  exact List.countP_congr fun row hrow => by rw [Function.comp, hsame row hrow]

/-- **Nothing else changes what is booked on a departure.** -/
theorem bookedOn_same (h : Linked db) {holds : List HoldRecord} (hfits : ∀ hold ∈ holds, Fits db hold)
    (hlegal : t.Legal holds) {a : t.Answer} (hrun : t.run raw db = .ok (a, db')) {i : ℕ}
    (hnot : ¬ CommitsOn db' serviceId travelDate ⟨i, .transaction t, .ok a⟩) :
    db'.bookedOn serviceId travelDate = db.bookedOn serviceId travelDate := by
  cases t with
  | confirmBooking params =>
    obtain ⟨hold, hmem, hnames⟩ := hlegal
    have hrows : db'.seatLocks.rows = db.seatLocks.rows.map (bookHold params) ++ [] := by
      rw [(confirmBooking_ok hrun).locks, List.append_nil]
    refine bookedOn_map hrows (fun row hrow => ?_)
      fun row hrow => absurd hrow List.not_mem_nil
    rw [bookHold, setIf]
    split
    · rename_i hmine
      simp only [Bool.and_eq_true, decide_eq_true_eq] at hmine
      obtain ⟨hservice, hdate⟩ := (hfits hold hmem).departure row hrow (hnames.holdId ▸ hmine.1)
      -- the hold is of the departure of the booking, which is another one
      have hother : ¬ (row.serviceId = serviceId ∧ row.travelDate = travelDate) := by
        rintro ⟨rfl, rfl⟩
        exact hnot (.confirmed params rfl (hnames.serviceId.trans hservice.symm)
          (hnames.travelDate.trans hdate.symm))
      simp [LockRow.isOn, hother]
    · rfl
  | applyCancellation params =>
    have hrows : db'.seatLocks.rows =
        db.seatLocks.rows.map (releaseSeats params params.seatIds) ++ [] := by
      rw [(applyCancellation_ok hrun).locks, List.append_nil]
    refine bookedOn_map hrows (fun row hrow => ?_)
      fun row hrow => absurd hrow List.not_mem_nil
    rw [releaseSeats, setIf]
    split
    · rename_i hmine
      simp only [Bool.and_eq_true, decide_eq_true_eq] at hmine
      obtain ⟨booking, hmem, hid, hservice, hdate, -⟩ := h.booked row hrow hmine.2
      have hbooking : booking.id = params.bookingId := Option.some.inj (hid.symm.trans hmine.1.1)
      obtain ⟨booking', hmem', hsame⟩ := booking_stays hrun ⟨booking, hmem, .refl booking⟩
      have hother : ¬ (row.serviceId = serviceId ∧ row.travelDate = travelDate) := by
        rintro ⟨rfl, rfl⟩
        exact hnot (.cancelled params booking' rfl hmem' (hsame.id.trans hbooking)
          (hsame.serviceId.trans hservice.symm) (hsame.travelDate.trans hdate.symm))
      simp [LockRow.isOn, hother]
    · rfl
  | _ =>
    obtain ⟨f, new, hmoved⟩ := Transaction.locks_moved hrun
    refine bookedOn_map hmoved.rows (fun row hrow => ?_) fun row hrow => ?_
    · have hmove := hmoved.moves row
      have hbooked := hmove.booked_iff (by intro params ht; cases ht) (by intro params ht; cases ht)
      rw [LockRow.isOn, LockRow.isOn, hmove.same.serviceId, hmove.same.travelDate]
      simp only [hbooked]
    · rcases hmoved.new with rfl | ⟨params, holdId, -, rfl, -⟩
      · exact absurd hrow List.not_mem_nil
      · rw [(AcquireHold.mem_newRows hrow).2]

end

/-! ## What a run with pushes keeps -/

/-- What a push does is look things up. -/
def LooksUp : Op → Prop
  | .service _ | .seatMap _ | .liveClaims _ _ => True
  | _ => False

/-- What a caller knows when it performs an operation. -/
def CallerKnows (d : Deployment) : Caller → Journal → Op → Prop
  | .inl request => Knows d request
  | .inr _ => fun _ => LooksUp

/-- No request answers with a message. -/
def AnswersInKind : Caller → Except Failure Outcome → Journal → Prop
  | .inl _, outcome, _ => ∀ found, outcome ≠ .ok (.inr found)
  | .inr _, _, _ => True

section

variable {d : Deployment}

theorem publishManifestFor_acts (push : ManifestPush) :
    Handler.Acts LooksUp (publishManifestFor d push) := by
  refine Handler.acts_bind ⟨trivial, fun _ => trivial⟩ fun found => ?_
  cases found with
  | none => exact Handler.acts_pure _
  | some service =>
    refine Handler.acts_bind ?_ fun seatMap => ?_
    · refine Handler.acts_bind ⟨trivial, fun _ => trivial⟩ fun found => ?_
      cases found with
      | none => exact Handler.acts_throw _
      | some seatMap => exact Handler.acts_pure _
    · refine Handler.acts_bind ⟨trivial, fun _ => trivial⟩ fun claims => ?_
      exact Handler.acts_bind Handler.acts_lift fun message => Handler.acts_pure _

theorem egress_knows (caller : Caller) :
    ((egress d).handler caller).Journal (CallerKnows d caller) (AnswersInKind caller) [] := by
  cases caller with
  | inl request =>
    refine Prog.journal_bind.mpr ?_
    refine Prog.Journal.mono (fun _ _ _ hP => hP) (fun result _ _ _ => ?_) (handle_knows request)
    intro found hsent
    cases result with
    | error e => cases hsent
    | ok answer =>
      injection hsent with hsent
      cases hsent
  | inr task =>
    refine Prog.journal_bind.mpr ?_
    exact (publishManifestFor_acts task.push).journal (fun _ _ hop => hop) fun _ _ => trivial

end

/-- The departure an operation starts a push of, if it starts one. -/
def Op.pushed : Op → Option (String × String)
  | .startManifestPush serviceId travelDate => some (serviceId, travelDate)
  | _ => none

/-- The same of an entry of a trace. -/
def startOf (e : Entry Op Resp) : Option (String × String) := e.op.pushed

/-- Every push was started by an entry of the trace, in its order. -/
def PushesStarted (s : History) : Prop :=
  s.world.pushes.map (fun push => (push.serviceId, push.travelDate)) = s.trace.filterMap startOf

/-- What was read as booked on a departure is booked on it until the next commit. -/
def BookedAsRead (s : History) : Prop :=
  ∀ serviceId travelDate later e earlier claims, s.trace = later ++ e :: earlier →
    e.line = ⟨.liveClaims serviceId travelDate, .ok claims⟩ →
    (∀ x ∈ later, ¬ CommitsOn s.world.db serviceId travelDate x) →
    claimCount .booked claims = s.world.db.bookedOn serviceId travelDate

/-- What holds at every moment of a run with pushes. -/
structure Tracked (s : History) : Prop where
  /-- the store's own invariant -/
  store : Ledger.Inv (ledgerOf s)
  /-- the pushes are those of the trace -/
  started : PushesStarted s
  /-- readings stand until the next commit -/
  booked : BookedAsRead s

section

variable {d : Deployment} {s s' : History} {i : ℕ} {op : Op} {r : Resp op}

/-- A push is started by its operation, at the clock, and by no other. -/
theorem World.exec_pushes {process : ℕ} {o : Choice} {w w' : World}
    (h : w.exec d process o op = some (w', r)) :
    w'.pushes = (op.pushed.map fun p => ⟨p.1, p.2, w.clock⟩).toList ++ w.pushes := by
  cases op with
  | transaction t =>
    simp only [World.exec] at h
    split at h <;> obtain ⟨rfl, -⟩ := Prod.mk.inj (Option.some.inj h) <;> rfl
  | manifestSweepDue nowMs =>
    simp only [World.exec] at h
    split at h <;> obtain ⟨rfl, -⟩ := Prod.mk.inj (Option.some.inj h) <;> rfl
  | enterConfirmation key =>
    simp only [World.exec] at h
    split at h <;> obtain ⟨rfl, -⟩ := Prod.mk.inj (Option.some.inj h) <;> rfl
  | awaitConfirmation promise =>
    simp only [World.exec] at h
    split at h
    · obtain ⟨rfl, -⟩ := Prod.mk.inj (Option.some.inj h)
      rfl
    · cases h
  | _ =>
    obtain ⟨rfl, -⟩ := Prod.mk.inj (Option.some.inj h)
    rfl

theorem PushesStarted.perform (h : PushesStarted s) {process : ℕ} {o : Choice} {w : World}
    (hexec : s.world.exec d process o op = some (w, r)) :
    PushesStarted ⟨w, ⟨i, op, r⟩ :: s.trace⟩ := by
  rw [PushesStarted, World.exec_pushes hexec, List.map_append, h, List.filterMap_cons, startOf]
  cases op.pushed <;> rfl

/-- A reading made now is what is booked now. -/
theorem booked_of_read {process : ℕ} {o : Choice} {w : World} {serviceId travelDate : String}
    {claims : List LiveSeatClaim} (hexec : s.world.exec d process o op = some (w, r))
    (hline : (⟨op, r⟩ : Line Op Resp) = ⟨.liveClaims serviceId travelDate, .ok claims⟩) :
    claimCount .booked claims = w.db.bookedOn serviceId travelDate := by
  injection hline with hop hr
  subst hop
  obtain rfl := eq_of_heq hr
  obtain ⟨rfl, hread⟩ := Prod.mk.inj (Option.some.inj hexec)
  rw [Choice.read_ok hread]
  exact claimCount_booked

/-- An operation that leaves the counts of the departures it does not commit to leaves the readings. -/
theorem BookedAsRead.perform (h : BookedAsRead s) {process : ℕ} {o : Choice} {w : World}
    (hexec : s.world.exec d process o op = some (w, r))
    (hcommits : ∀ serviceId travelDate x, CommitsOn s.world.db serviceId travelDate x →
      CommitsOn w.db serviceId travelDate x)
    (hsame : ∀ serviceId travelDate, ¬ CommitsOn w.db serviceId travelDate ⟨i, op, r⟩ →
      w.db.bookedOn serviceId travelDate = s.world.db.bookedOn serviceId travelDate) :
    BookedAsRead ⟨w, ⟨i, op, r⟩ :: s.trace⟩ := by
  intro serviceId travelDate later e earlier claims htrace hline hnone
  cases later with
  | nil =>
    obtain ⟨rfl, -⟩ := List.cons.inj htrace
    exact booked_of_read hexec hline
  | cons x later =>
    obtain ⟨rfl, hrest⟩ := List.cons.inj htrace
    rw [hsame serviceId travelDate (hnone _ (List.mem_cons_self ..))]
    exact h serviceId travelDate later e earlier claims hrest hline fun x hx hcommit =>
      hnone x (List.mem_cons_of_mem _ hx) (hcommits serviceId travelDate x hcommit)

/-- A request keeps it. -/
theorem Tracked.request (h : Tracked s) {request : Request} (hknows : Knows d request (own i s.trace) op)
    (hdoes : Does (provider d) i request op s r s') : Tracked s' := by
  have hstore := (ledger_step .refl hknows hdoes).inv h.store
  obtain ⟨o, w, hdone, rfl⟩ := hdoes
  have hexec : s.world.exec d request.process o op = some (w, r) := hdone
  refine ⟨hstore, h.started.perform hexec, ?_⟩
  rcases World.exec_db hexec with ⟨hdb, -⟩ | ⟨t, a, heq, hrun⟩
  · exact h.booked.perform hexec (fun _ _ _ hcommit => hdb ▸ hcommit) fun _ _ _ => by rw [hdb]
  · injection heq with hop hr
    subst hop
    obtain rfl := eq_of_heq hr
    exact h.booked.perform hexec (fun _ _ _ hcommit => hcommit.later hrun) fun _ _ hnot =>
      bookedOn_same h.store.linked h.store.fits (legal_of_knows hknows) hrun hnot

/-- A push keeps it. -/
theorem Tracked.push (h : Tracked s) {o : Choice} {w : World} (hlooks : LooksUp op)
    (hexec : s.world.exec d 0 o op = some (w, r)) : Tracked ⟨w, ⟨i, op, r⟩ :: s.trace⟩ := by
  have hworld : w = s.world ∧ holdRead ⟨i, op, r⟩ = none := by
    cases op with
    | service _ | seatMap _ | liveClaims _ _ =>
      obtain ⟨rfl, -⟩ := Prod.mk.inj (Option.some.inj hexec)
      exact ⟨rfl, rfl⟩
    | _ => exact absurd hlooks id
  obtain ⟨rfl, hnone⟩ := hworld
  refine ⟨?_, h.started.perform hexec, h.booked.perform hexec (fun _ _ _ hcommit => hcommit) fun _ _ _ => rfl⟩
  have hledger : ledgerOf ⟨s.world, ⟨i, op, r⟩ :: s.trace⟩ = ledgerOf s := by
    rw [ledgerOf, holdsRead, List.filterMap_cons_none hnone]
    rfl
  rw [hledger]
  exact h.store

end

theorem FleetReach.tracked {d : Deployment} {clock : ℤ} {source : Source} {c : FleetPool}
    (h : FleetReach d ⟨⟨World.initial clock source, []⟩, []⟩ c) : Tracked c.hist := by
  have hinitial : Tracked ⟨World.initial clock source, []⟩ := by
    refine ⟨Ledger.Inv.initial, rfl, ?_⟩
    intro serviceId travelDate later e earlier claims htrace
    simp at htrace
  refine Reach.invariant (P := CallerKnows d) (Q := AnswersInKind) Tracked egress_knows hinitial ?_ ?_ h
  · intro s s' i caller op r hs _ hknows hdoes
    cases caller with
    | inl request => exact hs.request hknows hdoes
    | inr task =>
      obtain ⟨o, w, hexec, rfl⟩ := hdoes
      exact hs.push hknows hexec
  · intro s e w hs _ henv
    cases e with
    | tick ms =>
      obtain rfl := Option.some.inj henv
      exact ⟨hs.store, hs.started, hs.booked⟩
    | publish source =>
      obtain rfl := Option.some.inj henv
      exact ⟨hs.store, hs.started, hs.booked⟩

/-! ## The last push of a departure -/

/-- A push runs after it was started: every operation of it comes after as many starts. -/
def StartedBefore (c : FleetPool) (i : ℕ) (task : PushTask) : Prop :=
  c.hist.world.pushes.reverse[task.index]? = some task.push ∧
    ∀ later e earlier, c.hist.trace = later ++ e :: earlier → e.task = i →
      task.index < (earlier.filterMap startOf).length

/-- A numbered push keeps its number. -/
theorem pushes_stay {pushes pushes' : List ManifestPush} (h : pushes <:+ pushes') {k : ℕ}
    {push : ManifestPush} (hpush : pushes.reverse[k]? = some push) : pushes'.reverse[k]? = some push := by
  obtain ⟨newer, rfl⟩ := h
  have hlt := (List.getElem?_eq_some_iff.mp hpush).1
  rw [List.reverse_append, List.getElem?_append_left hlt]
  exact hpush

theorem FleetReach.startedBefore {d : Deployment} {clock : ℤ} {source : Source} {c : FleetPool}
    (h : FleetReach d ⟨⟨World.initial clock source, []⟩, []⟩ c) :
    ∀ i task rest, c.tasks[i]? = some ⟨.inr task, rest⟩ → StartedBefore c i task := by
  induction h with
  | refl => exact fun i task rest htask => by simp at htask
  | @step c c' m hreach hallowed hstep ih =>
    have hstarted := (FleetReach.tracked hreach).started
    have hlength : c.hist.world.pushes.length = (c.hist.trace.filterMap startOf).length := by
      rw [← hstarted, List.length_map]
    have hnamed := (Reach.journal egress_knows hreach).named
    cases hstep with
    | start caller =>
      intro i task rest htask
      rcases Nat.lt_or_ge i c.tasks.length with hi | hi
      · rw [List.getElem?_append_left hi] at htask
        exact ih i task rest htask
      · -- the push that just joined has done nothing yet
        obtain ⟨hlt, hget⟩ := List.getElem?_eq_some_iff.mp htask
        have hpos : i = c.tasks.length := by
          rw [List.length_append, List.length_singleton] at hlt
          omega
        subst hpos
        rw [List.getElem_concat_length rfl] at hget
        obtain rfl : caller = .inr task := (Task.mk.inj hget).1
        refine ⟨by simpa [isStarted] using hallowed, fun later e earlier htrace htask => ?_⟩
        have hlt := hnamed e (htrace ▸ List.mem_append_right _ (List.mem_cons_self ..))
        omega
    | @perform j req op k r s' hperformer hdoes =>
      obtain ⟨o, w, hexec, rfl⟩ := hdoes
      have hsuffix : c.hist.world.pushes <:+ w.pushes := by
        cases req <;> exact ⟨_, (World.exec_pushes hexec).symm⟩
      intro i task rest htask
      obtain ⟨rest', htask'⟩ : ∃ rest', c.tasks[i]? = some ⟨.inr task, rest'⟩ := by
        by_cases hij : j = i
        · subst hij
          rw [List.getElem?_set_self (List.getElem?_eq_some_iff.mp hperformer).1] at htask
          obtain rfl : req = .inr task := (Task.mk.inj (Option.some.inj htask)).1
          exact ⟨_, hperformer⟩
        · rw [List.getElem?_set_ne hij] at htask
          exact ⟨rest, htask⟩
      obtain ⟨hpush, hafter⟩ := ih i task rest' htask'
      refine ⟨pushes_stay hsuffix hpush, fun later e earlier htrace htask => ?_⟩
      cases later with
      | nil =>
        obtain ⟨rfl, rfl⟩ := List.cons.inj htrace
        rw [← hlength, ← List.length_reverse]
        exact (List.getElem?_eq_some_iff.mp hpush).1
      | cons x later =>
        obtain ⟨rfl, hrest⟩ := List.cons.inj htrace
        exact hafter later e earlier hrest htask
    | @env e w henv =>
      have hpushes : w.pushes = c.hist.world.pushes := by
        cases e <;> obtain rfl := Option.some.inj henv <;> rfl
      intro i task rest htask
      obtain ⟨hpush, hafter⟩ := ih i task rest htask
      exact ⟨hpushes ▸ hpush, hafter⟩

/-- What was done since a task's last operation. -/
def sinceLast (s : History) (i : ℕ) : List (Entry Op Resp) := since (fun e => e.task = i) s.trace

/-- Nothing was committed on a departure since a push read it. -/
def Fresh (c : FleetPool) (i : ℕ) (serviceId travelDate : String) : Prop :=
  ∀ e ∈ sinceLast c.hist i, ¬ CommitsOn c.hist.world.db serviceId travelDate e

/-- No push of its departure was started after this one. -/
def PushTask.IsLast (task : PushTask) (s : History) : Prop :=
  ∀ k push, s.world.pushes.reverse[k]? = some push → push.serviceId = task.push.serviceId →
    push.travelDate = task.push.travelDate → k ≤ task.index

/-- Every request that committed on a departure went on to start its push. -/
def GoesOn (s : History) (serviceId travelDate : String) : Prop :=
  ∀ later e earlier, s.trace = later ++ e :: earlier → CommitsOn s.world.db serviceId travelDate e →
    ∃ e' ∈ later, e'.task = e.task ∧ e'.op = .startManifestPush serviceId travelDate

/-- The push an entry started has as number the number of starts before it. -/
theorem PushesStarted.number {s : History} (h : PushesStarted s) {later earlier : List (Entry Op Resp)}
    {e : Entry Op Resp} (htrace : s.trace = later ++ e :: earlier) {serviceId travelDate : String}
    (hop : e.op = .startManifestPush serviceId travelDate) :
    ∃ push, s.world.pushes.reverse[(earlier.filterMap startOf).length]? = some push ∧
      push.serviceId = serviceId ∧ push.travelDate = travelDate := by
  have hstart : startOf e = some (serviceId, travelDate) := by
    rw [startOf, hop]
    rfl
  rw [PushesStarted, htrace, List.filterMap_append, List.filterMap_cons_some hstart] at h
  have hget : (s.world.pushes.map fun push => (push.serviceId, push.travelDate)).reverse[
      (earlier.filterMap startOf).length]? = some (serviceId, travelDate) := by
    rw [h, List.reverse_append, List.reverse_cons, List.append_assoc, List.getElem?_append_right (by simp)]
    simp
  rw [← List.map_reverse, List.getElem?_map] at hget
  obtain ⟨push, hpush, hdeparture⟩ := Option.map_eq_some_iff.mp hget
  obtain ⟨rfl, rfl⟩ := Prod.mk.inj hdeparture
  exact ⟨push, hpush, rfl, rfl⟩

/-- What a push has sent, it has read last. -/
theorem sent_of_reach {d : Deployment} {clock : ℤ} {source : Source} {c : FleetPool}
    (h : FleetReach d ⟨⟨World.initial clock source, []⟩, []⟩ c) {i : ℕ} {message : FleetMessage}
    (hsent : sentBy c i = some message) :
    ∃ task rest claims later earlier service seatMap, c.tasks[i]? = some ⟨.inr task, rest⟩ ∧
      c.hist.trace = later ++ ⟨i, .liveClaims task.push.serviceId task.push.travelDate, .ok claims⟩ :: earlier ∧
      sinceLast c.hist i = later ∧ manifestMessage d task.push service seatMap claims = .ok message := by
  obtain ⟨outcome, hanswer, hfound⟩ : ∃ outcome, c.answer i = some outcome ∧
      outcome = .ok (.inr (some message)) := by
    rw [sentBy] at hsent
    split at hsent
    · rename_i found hanswer
      exact ⟨_, hanswer, by rw [hsent]⟩
    · cases hsent
  subst hfound
  rw [Config.answer] at hanswer
  split at hanswer
  · rename_i caller a htask
    obtain rfl := Option.some.inj hanswer
    have hkept := h.journal egress_cameTo
    cases caller with
    | inl request => exact absurd rfl ((h.journal egress_knows).answer htask (some message))
    | inr task =>
      obtain ⟨claims, rest, service, seatMap, hown, hmessage⟩ := hkept.answer htask message rfl
      obtain ⟨later, earlier, htrace, -, hlater⟩ := own_eq_cons hown
      refine ⟨task, _, claims, later, earlier, service, seatMap, htask, htrace, ?_, hmessage⟩
      rw [sinceLast, htrace]
      exact since_append (fun e he => decide_eq_false (hlater e he)) (decide_eq_true rfl) earlier
  · cases hanswer

/-- **The last push of a departure is fresh**, where every request that committed on it went on to start its
push: none can have committed after the last start. -/
theorem last_push_fresh {d : Deployment} {clock : ℤ} {source : Source} {c : FleetPool}
    (h : FleetReach d ⟨⟨World.initial clock source, []⟩, []⟩ c) {i : ℕ} {task : PushTask}
    {rest : Prog Op Resp (Except Failure Outcome)} (htask : c.tasks[i]? = some ⟨.inr task, rest⟩)
    {message : FleetMessage} (hsent : sentBy c i = some message) (hlast : task.IsLast c.hist)
    (hgoes : GoesOn c.hist task.push.serviceId task.push.travelDate) :
    Fresh c i task.push.serviceId task.push.travelDate := by
  obtain ⟨task', rest', claims, later, earlier, service, seatMap, htask', htrace, hsince, -⟩ :=
    sent_of_reach h hsent
  obtain ⟨-, hafter⟩ := h.startedBefore i task rest htask
  have hread := hafter later _ earlier htrace rfl
  intro e he hcommit
  rw [hsince] at he
  obtain ⟨newer, older, rfl⟩ := List.append_of_mem he
  -- the commit's own push was started after the commit, so after this push had read
  obtain ⟨start, hstart, -, hop⟩ := hgoes newer e _ (by rw [htrace, List.append_assoc]; rfl) hcommit
  obtain ⟨newest, between, rfl⟩ := List.append_of_mem hstart
  have hsplit : c.hist.trace = newest ++ start :: (between ++ e :: (older ++
      ⟨i, .liveClaims task'.push.serviceId task'.push.travelDate, .ok claims⟩ :: earlier)) := by
    rw [htrace]
    simp only [List.append_assoc, List.cons_append]
  obtain ⟨push, hpush, hservice, hdate⟩ := h.tracked.started.number hsplit hop
  have hle := hlast _ push hpush hservice hdate
  have hsuffix : earlier <:+ between ++ e :: (older ++
      ⟨i, .liveClaims task'.push.serviceId task'.push.travelDate, .ok claims⟩ :: earlier) :=
    (List.suffix_cons _ _).trans ((List.suffix_append older _).trans
      ((List.suffix_cons e _).trans (List.suffix_append between _)))
  have hmore := (hsuffix.sublist.filterMap startOf).length_le
  omega

/-! ## Deliveries -/

/-- An order in which every message that was sent is delivered, once: the pushes by task. -/
structure Deliveries (c : FleetPool) : Type where
  /-- whose message comes when -/
  order : List ℕ
  /-- each push that sent, once -/
  once : order.Perm ((List.range c.tasks.length).filter fun i => (sentBy c i).isSome)

/-- What the simulator keeps after some of them. -/
def keptAfter (c : FleetPool) (order : List ℕ) : Simulator :=
  Simulator.empty.receiveAll (order.filterMap (sentBy c))

/-- The deliveries settle on a departure: the message the simulator ends with is of a push that read after
the last commit, or there is nothing to show and nothing was shown. -/
inductive CaughtUp {c : FleetPool} (deliveries : Deliveries c) (serviceId travelDate : String) : Prop where
  /-- nothing is booked, and no push ever published -/
  | unpublished : c.hist.world.db.bookedOn serviceId travelDate = 0 →
      (∀ i ∈ deliveries.order, ∀ seats asOf,
        sentBy c i ≠ some (.publish serviceId travelDate seats asOf)) →
      CaughtUp deliveries serviceId travelDate
  /-- something is booked, a fresh publish is newer than what is kept when it comes, and what comes after it
  is neither a clear nor newer -/
  | published {before after : List ℕ} {i : ℕ} {seats : ManifestSeatCounts} {asOf : ℤ} :
      deliveries.order = before ++ i :: after →
      sentBy c i = some (.publish serviceId travelDate seats asOf) → Fresh c i serviceId travelDate →
      c.hist.world.db.bookedOn serviceId travelDate ≠ 0 →
      KeptManifest.isOlder asOf (keptAfter c before serviceId travelDate) = true →
      (∀ j ∈ after, sentBy c j ≠ some (.clear serviceId travelDate)) →
      (∀ j ∈ after, ∀ seats' asOf', sentBy c j = some (.publish serviceId travelDate seats' asOf') →
        asOf' ≤ asOf) →
      CaughtUp deliveries serviceId travelDate
  /-- no publish comes after a fresh clear -/
  | cleared {before after : List ℕ} {i : ℕ} : deliveries.order = before ++ i :: after →
      sentBy c i = some (.clear serviceId travelDate) → Fresh c i serviceId travelDate →
      (∀ j ∈ after, ∀ seats asOf, sentBy c j ≠ some (.publish serviceId travelDate seats asOf)) →
      CaughtUp deliveries serviceId travelDate

section

variable {d : Deployment} {clock : ℤ} {source : Source} {c : FleetPool} {serviceId travelDate : String}

/-- The counts of a fresh message are those of the store. -/
theorem fresh_counts (h : FleetReach d ⟨⟨World.initial clock source, []⟩, []⟩ c) {i : ℕ}
    {message : FleetMessage} (hsent : sentBy c i = some message)
    (hfresh : Fresh c i serviceId travelDate) :
    (∀ seats asOf, message = .publish serviceId travelDate seats asOf →
      seats.booked = c.hist.world.db.bookedOn serviceId travelDate) ∧
    (message = .clear serviceId travelDate → c.hist.world.db.bookedOn serviceId travelDate = 0) := by
  obtain ⟨task, rest, claims, later, earlier, service, seatMap, -, htrace, hsince, hmessage⟩ :=
    sent_of_reach h hsent
  have hread : task.push.serviceId = serviceId → task.push.travelDate = travelDate →
      claimCount .booked claims = c.hist.world.db.bookedOn serviceId travelDate := by
    rintro rfl rfl
    exact h.tracked.booked _ _ later _ earlier claims htrace rfl fun x hx => hfresh x (hsince ▸ hx)
  rcases manifestMessage_ok hmessage with ⟨rfl, rfl⟩ | ⟨-, seats, rfl, hbooked, -⟩
  · refine ⟨fun _ _ heq => (nomatch heq), fun heq => ?_⟩
    injection heq with hservice hdate
    exact (hread hservice hdate).symm
  · refine ⟨fun seats' asOf heq => ?_, fun heq => (nomatch heq)⟩
    injection heq with hservice hdate hseats
    rw [← hseats, hbooked]
    exact hread hservice hdate

/-- A condition on the messages of tasks is one on the messages delivered. -/
theorem delivered_all {after : List ℕ} {P : FleetMessage → Prop}
    (h : ∀ j ∈ after, ∀ message, sentBy c j = some message → P message) :
    ∀ message ∈ after.filterMap (sentBy c), P message := by
  intro message hmem
  obtain ⟨j, hj, hsent⟩ := List.mem_filterMap.mp hmem
  exact h j hj message hsent

theorem CaughtUp.shows (h : FleetReach d ⟨⟨World.initial clock source, []⟩, []⟩ c)
    {deliveries : Deliveries c} (hsettled : CaughtUp deliveries serviceId travelDate) :
    (keptAfter c deliveries.order).Shows serviceId travelDate
      (c.hist.world.db.bookedOn serviceId travelDate) := by
  have hsplit : ∀ {before after : List ℕ} {i : ℕ} {message : FleetMessage},
      deliveries.order = before ++ i :: after → sentBy c i = some message →
      keptAfter c deliveries.order =
        ((keptAfter c before).receive message).receiveAll (after.filterMap (sentBy c)) := by
    intro before after i message horder hsent
    rw [keptAfter, horder, List.filterMap_append, List.filterMap_cons_some hsent, receiveAll_append]
    rfl
  cases hsettled with
  | unpublished hzero hnone =>
    rw [Simulator.Shows, hzero, if_pos rfl, Option.map_eq_none_iff]
    exact receiveAll_drops rfl (delivered_all fun j hj message hsent seats asOf heq =>
      hnone j hj seats asOf (heq ▸ hsent))
  | @published before after i seats asOf horder hsent hfresh hbooked hnewer hclear holder =>
    have hcount := (fresh_counts h hsent hfresh).1 seats asOf rfl
    have hkept : (keptAfter c deliveries.order) serviceId travelDate = some ⟨seats, asOf⟩ := by
      rw [hsplit horder hsent]
      refine receiveAll_keeps ?_ (delivered_all fun j hj message hmessage heq =>
        hclear j hj (heq ▸ hmessage)) (delivered_all fun j hj message hmessage seats' asOf' heq =>
          holder j hj seats' asOf' (heq ▸ hmessage))
      rw [Simulator.receive]
      exact if_pos ⟨rfl, rfl, hnewer⟩
    rw [Simulator.Shows, hkept, if_neg hbooked, ← hcount]
    rfl
  | @cleared before after i horder hsent hfresh hpublish =>
    rw [Simulator.Shows, (fresh_counts h hsent hfresh).2 rfl, if_pos rfl, Option.map_eq_none_iff,
      hsplit horder hsent]
    refine receiveAll_drops ?_ (delivered_all fun j hj message hmessage seats asOf heq =>
      hpublish j hj seats asOf (heq ▸ hmessage))
    rw [Simulator.receive]
    exact if_pos ⟨rfl, rfl⟩

end

/-- **Pushes converge where they settle.** In every state that any interleaving of requests and pushes leads
to, and for every order of delivery, the simulator shows what is booked on a departure if the deliveries
settle on it. Where every request that committed on a departure went on to start its push, the push started
last is fresh once it has sent. -/
theorem pushes_converge {d : Deployment} {clock : ℤ} {source : Source} {c : FleetPool}
    (h : FleetReach d ⟨⟨World.initial clock source, []⟩, []⟩ c) :
    (∀ (deliveries : Deliveries c) (serviceId travelDate : String),
      CaughtUp deliveries serviceId travelDate →
        (keptAfter c deliveries.order).Shows serviceId travelDate
          (c.hist.world.db.bookedOn serviceId travelDate)) ∧
    ∀ (i : ℕ) (task : PushTask) (rest : Prog Op Resp (Except Failure Outcome)) (message : FleetMessage),
      c.tasks[i]? = some ⟨.inr task, rest⟩ → sentBy c i = some message → task.IsLast c.hist →
      GoesOn c.hist task.push.serviceId task.push.travelDate →
        Fresh c i task.push.serviceId task.push.travelDate :=
  ⟨fun _ _ _ hsettled => hsettled.shows h, fun _ _ _ _ htask hsent hlast hgoes =>
    last_push_fresh h htask hsent hlast hgoes⟩

/-! ### Two orders of delivery -/

/-- Two seats are sold and pushed, and a second later they are cancelled and pushed. -/
def soldAndCancelled : List (Event Caller Choice Happening) :=
  truePush ++ [.run 2 ⟨"", none⟩, .env (.tick 1000)] ++
    ([.start (specimenSoftCancel "T1" specimenOrderId ["1", "2"])] ++ steps 3 4 "q1" ++
      [.start (specimenCancel "T1" specimenOrderId ["1", "2"] "RFQ-KSRTC-Q1")] ++ steps 4 9 "" :
        List (Event Request Choice Happening)).map asCaller ++
    [.start (.inr ⟨1, "S1", "2026-09-10", specimenClock + 1000⟩), .run 5 ⟨"", none⟩, .run 5 ⟨"", none⟩,
      .run 5 ⟨"", none⟩]

/-- Everybody is done, nothing is booked or held, and the two pushes sent a publish and a clear. -/
structure SoldAndCancelled (c : FleetPool) : Prop where
  /-- it can happen -/
  reach : FleetReach specimenDeployment fleetStart c
  /-- every request and push is done -/
  done : ∀ i < c.tasks.length, (c.answer i).isSome = true
  /-- nothing is booked -/
  booked : c.hist.world.db.bookedOn "S1" "2026-09-10" = 0
  /-- no hold is live -/
  held : c.hist.world.db.heldOn "S1" "2026-09-10" = 0
  /-- the push of the sale -/
  first : sentBy c 2 = some (.publish "S1" "2026-09-10" ⟨2, 2, 0, 0⟩ specimenClock)
  /-- the push of the cancellation -/
  second : sentBy c 5 = some (.clear "S1" "2026-09-10")
  /-- nobody else sent anything -/
  senders : ((List.range c.tasks.length).filter fun i => (sentBy c i).isSome) = [2, 5]
  /-- the second read last -/
  last : sinceLast c.hist 5 = []

theorem soldAndCancelled_run : ∃ c, SoldAndCancelled c := by
  have hrun : (fleetStart.follow (egress specimenDeployment) isStarted soldAndCancelled).map (fun c =>
      (((List.range c.tasks.length).all fun i => (c.answer i).isSome,
        c.hist.world.db.bookedOn "S1" "2026-09-10", c.hist.world.db.heldOn "S1" "2026-09-10",
        (sinceLast c.hist 5).length), [sentBy c 2, sentBy c 5],
        (List.range c.tasks.length).filter fun i => (sentBy c i).isSome)) =
      some ((true, 0, 0, 0), [some (.publish "S1" "2026-09-10" ⟨2, 2, 0, 0⟩ specimenClock),
        some (.clear "S1" "2026-09-10")], [2, 5]) := by
    decide +kernel
  obtain ⟨c, hfollow, hfacts⟩ := Option.map_eq_some_iff.mp hrun
  simp only [Prod.mk.injEq, List.cons.injEq, and_true] at hfacts
  obtain ⟨⟨hdone, hbooked, hheld, hlast⟩, ⟨hfirst, hsecond⟩, hsenders⟩ := hfacts
  refine ⟨c, Config.follow_reach .refl hfollow, fun i hi => ?_, hbooked, hheld, hfirst, hsecond, hsenders,
    List.eq_nil_of_length_eq_zero hlast⟩
  exact List.all_eq_true.mp hdone i (List.mem_range.mpr hi)

/-- In the order they were sent. -/
theorem pushes_converge_in_order : ∃ c, SoldAndCancelled c ∧ ∃ deliveries : Deliveries c,
    (keptAfter c deliveries.order).Shows "S1" "2026-09-10"
      (c.hist.world.db.bookedOn "S1" "2026-09-10") := by
  obtain ⟨c, hc⟩ := soldAndCancelled_run
  let deliveries : Deliveries c := ⟨[2, 5], by rw [hc.senders]⟩
  refine ⟨c, hc, deliveries, (pushes_converge hc.reach).1 deliveries "S1" "2026-09-10" ?_⟩
  refine .cleared (show deliveries.order = [2] ++ 5 :: [] from rfl) hc.second ?_ fun j hj =>
    absurd hj List.not_mem_nil
  intro e he
  rw [hc.last] at he
  exact absurd he List.not_mem_nil

/-- The clear overtakes the publish, and the simulator goes on showing two booked seats. -/
theorem clear_overtakes_publish : ∃ c, SoldAndCancelled c ∧ ∃ deliveries : Deliveries c,
    ¬ (keptAfter c deliveries.order).Shows "S1" "2026-09-10"
      (c.hist.world.db.bookedOn "S1" "2026-09-10") := by
  obtain ⟨c, hc⟩ := soldAndCancelled_run
  let deliveries : Deliveries c := ⟨[5, 2], by rw [hc.senders]; exact .swap 2 5 []⟩
  refine ⟨c, hc, deliveries, fun hshows => ?_⟩
  have hkept : keptAfter c [5, 2] = Simulator.empty.receiveAll [.clear "S1" "2026-09-10",
      .publish "S1" "2026-09-10" ⟨2, 2, 0, 0⟩ specimenClock] := by
    rw [keptAfter, List.filterMap_cons_some hc.second, List.filterMap_cons_some hc.first, List.filterMap_nil]
  rw [show deliveries.order = [5, 2] from rfl, hkept, hc.booked] at hshows
  cases hshows

end TransitBpp
