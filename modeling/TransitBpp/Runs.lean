import TransitBpp.Knowledge
import TransitBpp.Ledger

/-!
# Runs of the provider

What holds of every run of the provider, whatever else a result assumes about it. `exec_db` says
the database changes only by committed transactions; `provider_refines` is the refinement of the
ledger: every database a run reaches is one that legal calls reach, so everything proved of a
ledger holds of the provider. The clock never goes back, and no request's reading is ahead of it.
-/

namespace TransitBpp

open Interleave Js

/-- A configuration of the provider. -/
abbrev Pool : Type := Config Op Resp World Request (Except Failure Answer)

/-- The world and the trace of a run. -/
abbrev History : Type := Hist Op Resp World

/-- One move of a run. -/
abbrev Act? : Type := Move Op Request Happening

variable {d : Deployment} {process : ℕ} {o : Choice} {w w' : World}

/-! ## One operation -/

/-- The database changes only by a committed transaction. -/
theorem World.exec_db {op : Op} {r : Resp op} (h : w.exec d process o op = some (w', r)) :
    (w'.db = w.db ∧ ∀ t a, (⟨op, r⟩ : Line Op Resp) ≠ ⟨.transaction t, .ok a⟩) ∨
      ∃ t a, (⟨op, r⟩ : Line Op Resp) = ⟨.transaction t, .ok a⟩ ∧
        t.run o.id w.db = .ok (a, w'.db) := by
  cases op with
  | transaction t =>
    simp only [World.exec] at h
    split at h
    · obtain ⟨rfl, rfl⟩ := Prod.mk.inj (Option.some.inj h)
      refine Or.inl ⟨rfl, ?_⟩
      intro t' a heq
      cases heq
    · obtain ⟨rfl, rfl⟩ := Prod.mk.inj (Option.some.inj h)
      refine Or.inl ⟨rfl, ?_⟩
      intro t' a heq
      cases heq
    · rename_i a db' _ hrun
      obtain ⟨rfl, rfl⟩ := Prod.mk.inj (Option.some.inj h)
      exact Or.inr ⟨t, a, rfl, hrun⟩
  | manifestSweepDue nowMs =>
    refine Or.inl ⟨?_, fun t a heq => by cases heq⟩
    simp only [World.exec] at h
    split at h <;> obtain ⟨rfl, -⟩ := Prod.mk.inj (Option.some.inj h) <;> rfl
  | enterConfirmation key =>
    refine Or.inl ⟨?_, fun t a heq => by cases heq⟩
    simp only [World.exec] at h
    split at h <;> obtain ⟨rfl, -⟩ := Prod.mk.inj (Option.some.inj h) <;> rfl
  | awaitConfirmation promise =>
    refine Or.inl ⟨?_, fun t a heq => by cases heq⟩
    simp only [World.exec] at h
    split at h
    · obtain ⟨rfl, -⟩ := Prod.mk.inj (Option.some.inj h)
      rfl
    · cases h
  | _ =>
    refine Or.inl ⟨?_, fun t a heq => by cases heq⟩
    obtain ⟨rfl, -⟩ := Prod.mk.inj (Option.some.inj h)
    rfl

/-- No operation moves the clock or the source. -/
theorem World.exec_clock {op : Op} {r : Resp op} (h : w.exec d process o op = some (w', r)) :
    w'.clock = w.clock ∧ w'.source = w.source := by
  cases op with
  | transaction t =>
    simp only [World.exec] at h
    split at h <;> obtain ⟨rfl, -⟩ := Prod.mk.inj (Option.some.inj h) <;> exact ⟨rfl, rfl⟩
  | manifestSweepDue nowMs =>
    simp only [World.exec] at h
    split at h <;> obtain ⟨rfl, -⟩ := Prod.mk.inj (Option.some.inj h) <;> exact ⟨rfl, rfl⟩
  | enterConfirmation key =>
    simp only [World.exec] at h
    split at h <;> obtain ⟨rfl, -⟩ := Prod.mk.inj (Option.some.inj h) <;> exact ⟨rfl, rfl⟩
  | awaitConfirmation promise =>
    simp only [World.exec] at h
    split at h
    · obtain ⟨rfl, -⟩ := Prod.mk.inj (Option.some.inj h)
      exact ⟨rfl, rfl⟩
    · cases h
  | _ =>
    obtain ⟨rfl, -⟩ := Prod.mk.inj (Option.some.inj h)
    exact ⟨rfl, rfl⟩

/-- A read that answers, answers what there is. -/
theorem Choice.read_ok {α : Type} {a b : α} (h : o.read a = .ok b) : b = a := by
  unfold Choice.read at h
  split at h
  · cases h
  · exact (Except.ok.inj h).symm

/-! ## The provider refines the ledger -/

/-- The hold an entry of a trace read, if it read one. -/
def holdRead : Entry Op Resp → Option HoldRecord
  | ⟨_, .findLatestHold _ _, .ok found⟩ => found
  | _ => none

/-- Every hold a trace read. -/
def holdsRead (tr : List (Entry Op Resp)) : List HoldRecord := tr.filterMap holdRead

theorem mem_holdsRead {tr : List (Entry Op Resp)} {i : ℕ} {operator : String}
    {identity : ReservedIdentity} {hold : HoldRecord}
    (h : (⟨.findLatestHold operator identity, .ok (some hold)⟩ : Line Op Resp) ∈ own i tr) :
    hold ∈ holdsRead tr :=
  List.mem_filterMap.mpr ⟨_, mem_own.mp h, rfl⟩

/-- The ledger of a run: the database, and the holds its requests have read. -/
def ledgerOf (s : History) : Ledger := ⟨s.world.db, holdsRead s.trace⟩

/-- What passing the hold check says: the hold is of the departure the request names. -/
theorem assertHoldLive_ok {resolved : Resolved} {found : Option HoldRecord} {nowMs : ℤ}
    {hold : HoldRecord} (h : assertHoldLive resolved found nowMs = .ok hold) :
    found = some hold ∧ holdStatus hold nowMs = .live ∧
      hold.serviceId = resolved.service.serviceId ∧ hold.travelDate = resolved.travelDate := by
  cases found with
  | none => cases h
  | some found =>
    rw [assertHoldLive] at h
    split at h
    · cases hi : istIsoInstant found.expiresAt <;> rw [hi] at h <;> cases h
    · rename_i hlive
      split at h
      · cases h
      · rename_i hdeparture
        obtain rfl := Except.ok.inj h
        simp only [not_or, not_not] at hlive hdeparture
        exact ⟨rfl, hlive, hdeparture.1, hdeparture.2⟩

/-- What reading a manifest for a hold says: it names each seat of the hold once. -/
theorem manifestFor_ok {hold : HoldRecord} {tags : Option (List BuyerTag)}
    {records : List ManifestRecord} (h : manifestFor hold tags = .ok records) :
    (records.map ManifestRecord.seatId).Nodup ∧
      ∀ seatId, seatId ∈ records.map ManifestRecord.seatId ↔ seatId ∈ hold.seatIds := by
  unfold manifestFor at h
  split at h
  · cases h
  · rename_i entries _
    rcases hp : parseManifest entries with e | records' <;> simp only [hp, bind, Except.bind] at h
    · cases h
    · rcases hm : assertManifestMatchesHold records' hold.seatIds with e | u <;> rw [hm] at h
      · cases h
      · obtain rfl := Except.ok.inj h
        exact ⟨nodup_of_parseManifest hp, mem_iff_of_matchesHold hm⟩

/-- A confirm names the hold it read. -/
theorem ConfirmRun.names {req : Request} {jr : Journal} (run : ConfirmRun d req jr) :
    run.params.Names run.hold := by
  obtain ⟨-, -, hservice, hdate⟩ := assertHoldLive_ok run.checked.live
  obtain ⟨hnodup, hseats⟩ := manifestFor_ok run.checked.manifest
  have hids : run.params.seats.map NewSeat.seatId = run.records.map ManifestRecord.seatId := by
    rw [params, newBooking, List.map_map]
    rfl
  exact ⟨rfl, hservice.symm, hdate.symm, hids ▸ hnodup, fun seatId => hids ▸ hseats seatId⟩

/-- A confirm read its hold before it checked it. -/
theorem ConfirmRun.holdRead {req : Request} {jr : Journal} (run : ConfirmRun d req jr) :
    (⟨.findLatestHold d.operatorKey (identityOf run.context), .ok (some run.hold)⟩ :
      Line Op Resp) ∈ run.checkedJr := by
  rw [run.checked.lines]
  exact List.mem_cons_of_mem _ (List.mem_cons_self ..)

/-- A confirm read its hold. -/
theorem ConfirmRun.read {req : Request} {jr : Journal} (run : ConfirmRun d req jr) :
    (⟨.findLatestHold d.operatorKey (identityOf run.context), .ok (some run.hold)⟩ :
      Line Op Resp) ∈ jr :=
  run.suffix.subset run.holdRead

/-- Every transaction of the provider is legal. -/
theorem legal_of_knows {req : Request} {s : History} {i : ℕ} {t : Transaction}
    (h : Knows d req (own i s.trace) (.transaction t)) : t.Legal (holdsRead s.trace) := by
  cases t with
  | confirmBooking params =>
    obtain ⟨run, rfl⟩ := h
    exact ⟨run.hold, mem_holdsRead run.read, run.names⟩
  | _ => trivial

/-- One operation of the provider is some calls of the ledger. -/
theorem ledger_step {req : Request} {s s' : History} {i : ℕ} {op : Op} {r : Resp op}
    {s₀ : Ledger} (h : Ledger.Reach s₀ (ledgerOf s)) (hknows : Knows d req (own i s.trace) op)
    (hdoes : Does (provider d) i req op s r s') : Ledger.Reach s₀ (ledgerOf s') := by
  obtain ⟨o, w, hexec, rfl⟩ := hdoes
  rcases World.exec_db hexec with ⟨hdb, hnot⟩ | ⟨t, a, heq, hrun⟩
  · -- nothing was committed, so at most a hold was read
    have hkeep : holdRead ⟨i, op, r⟩ = none →
        ledgerOf ⟨w, ⟨i, op, r⟩ :: s.trace⟩ = ledgerOf s := by
      intro hnone
      rw [ledgerOf, hdb, holdsRead, List.filterMap_cons_none hnone]
      rfl
    cases op with
    | findLatestHold operator identity =>
      rcases r with e | found
      · rw [hkeep rfl]
        exact h
      · obtain ⟨rfl, hread⟩ := Prod.mk.inj (Option.some.inj hexec)
        obtain rfl := Choice.read_ok hread
        have hstep := @Ledger.Reach.step _ _ (.findLatestHold operator identity) h trivial
        have hnext : ledgerOf ⟨s.world, ⟨i, .findLatestHold operator identity,
            .ok (s.world.db.findLatestHold operator identity)⟩ :: s.trace⟩ =
            (ledgerOf s).perform (.findLatestHold operator identity) := by
          rw [ledgerOf, holdsRead, List.filterMap_cons]
          rcases hf : s.world.db.findLatestHold operator identity with _ | hold <;>
            simp [holdRead, Ledger.perform, ledgerOf, holdsRead, hf]
        rw [hnext]
        exact hstep
    | _ =>
      rw [hkeep rfl]
      exact h
  · cases heq
    have hstep := @Ledger.Reach.step _ _ (.run o.id t) h (legal_of_knows hknows)
    have hnext : ledgerOf ⟨w, ⟨i, .transaction t, .ok a⟩ :: s.trace⟩ =
        (ledgerOf s).perform (.run o.id t) := by
      simp only [Ledger.perform, ledgerOf, hrun]
      rfl
    rw [hnext]
    exact hstep

/-- **Refinement.** Whatever the provider does, its database and the holds its requests have read
are a ledger that legal calls reach. -/
theorem provider_refines {allows : History → Act? → Prop} {w₀ : World} {s₀ : Ledger}
    (h₀ : Ledger.Reach s₀ ⟨w₀.db, []⟩) {c : Pool}
    (h : Reach (provider d) allows ⟨⟨w₀, []⟩, []⟩ c) : Ledger.Reach s₀ (ledgerOf c.hist) := by
  refine h.invariant (fun s => Ledger.Reach s₀ (ledgerOf s)) handle_knows h₀
    (fun hs _ hknows hdoes => ledger_step hs hknows hdoes) ?_
  intro s e w hs _ henv
  have hdb : w.db = s.world.db := by
    cases e <;> obtain rfl := Option.some.inj henv <;> rfl
  rw [ledgerOf, hdb]
  exact hs

/-! ## What every run keeps -/

/-- What holds at every moment of every run. -/
structure Base (s : History) : Prop where
  /-- the store's own invariant -/
  store : Ledger.Inv (ledgerOf s)
  /-- no request's reading is ahead of the clock -/
  clock : ∀ i nowMs, ReadClock (own i s.trace) nowMs → nowMs ≤ s.world.clock

theorem Base.initial (clock : ℤ) (source : Source) : Base ⟨World.initial clock source, []⟩ :=
  ⟨Ledger.Inv.initial, fun _ _ h => absurd h List.not_mem_nil⟩

/-- An operation keeps it. -/
theorem Base.perform {req : Request} {s s' : History} {i : ℕ} {op : Op} {r : Resp op}
    (h : Base s) (hknows : Knows d req (own i s.trace) op)
    (hdoes : Does (provider d) i req op s r s') : Base s' := by
  refine ⟨(ledger_step .refl hknows hdoes).inv h.store, fun j nowMs hread => ?_⟩
  obtain ⟨o, w, hexec, rfl⟩ := hdoes
  rw [(World.exec_clock hexec).1]
  rcases List.mem_cons.mp (mem_own.mp hread) with heq | hmem
  · -- the clock itself was read
    cases heq
    obtain ⟨rfl, rfl⟩ := Prod.mk.inj (Option.some.inj hexec)
    exact le_rfl
  · exact h.clock j nowMs (mem_own.mpr hmem)

/-- What happens on its own keeps it. -/
theorem Base.env {s : History} {e : Happening} {w : World} (h : Base s)
    (henv : World.happen e s.world = some w) : Base ⟨w, s.trace⟩ ∧ w.db = s.world.db ∧
      s.world.clock ≤ w.clock := by
  cases e with
  | tick ms =>
    obtain rfl := Option.some.inj henv
    have hle : s.world.clock ≤ s.world.clock + (ms : ℤ) := by omega
    exact ⟨⟨h.store, fun i nowMs hread => (h.clock i nowMs hread).trans hle⟩, rfl, hle⟩
  | publish source =>
    obtain rfl := Option.some.inj henv
    exact ⟨⟨h.store, h.clock⟩, rfl, le_rfl⟩

/-- What every transaction keeps, every run keeps from there on. -/
theorem Reach.db_keeps {allows : History → Act? → Prop} {K : ReservedDb → Prop}
    (hstep : ∀ {t : Transaction} {raw : String} {db db' : ReservedDb} {a : t.Answer},
      t.run raw db = .ok (a, db') → K db → K db')
    {c c' : Pool} (h : Reach (provider d) allows c c') (hK : K c.hist.world.db) :
    K c'.hist.world.db := by
  induction h with
  | refl => exact hK
  | step _ _ hmove ih =>
    cases hmove with
    | start req => exact ih
    | perform htask hdoes =>
      obtain ⟨o, w, hexec, rfl⟩ := hdoes
      rcases World.exec_db hexec with ⟨hdb, -⟩ | ⟨t, a, -, hrun⟩
      · exact hdb ▸ ih
      · exact hstep hrun ih
    | @env e w henv => cases e <;> obtain rfl := Option.some.inj henv <;> exact ih

/-! ## A specimen deployment

One service of two adjacent seats on every date, for the runs below that are about one input. -/

/-- Ten-minute holds, and manifests kept for a week. -/
def specimenDeployment : Deployment where
  operatorKey := "ksrtc"
  operatorId := "KSRTC"
  operatorName := "KSRTC"
  subscriberId := "bpp"
  subscriberUri := "https://bpp"
  publicBaseUrl := "https://bpp"
  reservation := ⟨30, 30, 1, 600, 7, by decide, by decide, by decide, by decide, by decide⟩
  manifestSweepIntervalMs := 60000
  collation := fun a b => Js.strLe a b

/-- A service at six in the morning. -/
def specimenService (serviceId : String) : ReservedService where
  serviceId := serviceId
  serviceNumber := serviceId
  brand := .ksrtc
  operatingCorporation := none
  operatingCorporationBasis := .inferred
  provenance := .inferred
  provenanceSourceCount := 1
  serviceClass := .ashwamedha
  boardingPoints := [⟨"P1", "Mysuru", none, 0⟩]
  droppingPoints := [⟨"P2", "Bengaluru", none, 180⟩]
  operatingPattern := .daily
  departureMinute := 360
  runningMinutes := 180
  seatMapId := "M"
  fareTableId := "F"
  popularity := 0
  reservationFeePaise := 1000
  tollPaise := 500
  boards := by decide
  drops := by decide

/-- Two seats, side by side. -/
def specimenSeatMap : SeatMap where
  seatMapId := "M"
  kind := .seater
  decks := 1
  documentedCapacity := none
  seats := [⟨"1", 1, 1, 1, .seat, true, none, ["2"]⟩, ⟨"2", 1, 1, 2, .seat, false, none, ["1"]⟩]

/-- Every service id is one of these, at a hundred rupees. -/
def specimenSource : Source where
  service id := some (specimenService id)
  seatMap _ := some specimenSeatMap
  fareTable _ := some ⟨"F", [⟨"P1", "P2", .ashwamedha, 10000, .v⟩]⟩
  services _ := [specimenService "S1"]

/-- Two days before the departure the requests below name. -/
def specimenClock : ℤ := 1788900000000

/-- The provider before its first request. -/
def specimenStart : Pool := ⟨⟨World.initial specimenClock specimenSource, []⟩, []⟩

/-- A buyer's transaction. -/
def specimenContext (transactionId : String) : ReservedContext :=
  ⟨transactionId, "bap", "https://bap", some "bpp", some "https://bpp"⟩

/-- The group of tags that names seats. -/
def seatsGroup (seatIds : List String) : BuyerTag :=
  ⟨some "SEATS", some (seatIds.map fun seatId => ⟨some "SEAT_ID", some seatId⟩)⟩

/-- The group of tags that names the passenger of each seat. -/
def manifestGroup (passengers : List (String × String × String)) : BuyerTag :=
  ⟨some "MANIFEST", some (passengers.flatMap fun p => [⟨some "SEAT_ID", some p.1⟩,
    ⟨some "NAME", some p.2.1⟩, ⟨some "GENDER", some p.2.2⟩])⟩

/-- An order for the one departure of the specimen. -/
def specimenInput (count : ℕ) (tags : List BuyerTag) : OrderInput where
  items := some [⟨"RSV-S1-2026-09-10-ASHWAMEDHA", some count⟩]
  providerId := some "KSRTC"
  fulfillments := none
  billing := none
  payments := some [[("status", .str "PAID")]]
  tags := some tags

/-- A select that names seats. -/
def specimenSelect (transactionId : String) (seatIds : List String) : Request :=
  ⟨0, .select (specimenContext transactionId)
    (specimenInput seatIds.length [seatsGroup seatIds])⟩

/-- A confirm with its manifest, served by a process, with further tags. -/
def specimenConfirm (process : ℕ) (transactionId : String)
    (passengers : List (String × String × String)) (tags : List BuyerTag) : Request :=
  ⟨process, .confirm (specimenContext transactionId)
    (specimenInput passengers.length (manifestGroup passengers :: tags))⟩

/-- Ask for a refund quote for seats. -/
def specimenSoftCancel (transactionId orderId : String) (seatIds : List String) : Request :=
  ⟨0, .cancel (specimenContext transactionId) orderId .soft (some [seatsGroup seatIds])⟩

/-- Commit a cancellation of seats against a quote. -/
def specimenCancel (transactionId orderId : String) (seatIds : List String) (quoteId : String) :
    Request :=
  ⟨0, .cancel (specimenContext transactionId) orderId .confirm
    (some [seatsGroup seatIds, ⟨some "REFUND_SLAB", some [⟨some "REFUND_QUOTE_ID", some quoteId⟩]⟩])⟩

/-- Some operations of one task, none of which fails; the id generator answers `id`. -/
def steps (task : ℕ) (count : ℕ) (id : String) : List (Event Request Choice Happening) :=
  List.replicate count (.run task ⟨id, none⟩)

/-- Buy seats 1 and 2 in a transaction: the select is task 0 and the confirm task 1. -/
def specimenSale : List (Event Request Choice Happening) :=
  [.start (specimenSelect "T1" ["1", "2"])] ++ steps 0 12 "a1" ++
    [.start (specimenConfirm 0 "T1" [("1", "A", "female"), ("2", "B", "male")] [])] ++
      steps 1 21 "b1"

/-- The order that sale makes. -/
def specimenOrderId : String := "SPECIMEN-RSV-KSRTC-B1"

/-- Ask for a quote for seats of that order, as task 2. -/
def specimenQuote (seatIds : List String) : List (Event Request Choice Happening) :=
  [.start (specimenSoftCancel "T1" specimenOrderId seatIds)] ++ steps 2 4 "q1"

end TransitBpp
