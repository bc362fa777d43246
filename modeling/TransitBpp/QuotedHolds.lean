import TransitBpp.Sales

/-!
# What is quoted is what is held

The three answers about one hold. An init and a confirm charge for the seats of the hold, which
lists each seat once; a select charges for the seats its request lists. So they agree exactly if
the request lists no seat twice (`quoted_is_held_iff`), whatever else is going on.
-/

namespace TransitBpp

open Interleave Js

variable {d : Deployment} {req : Request} {s s' : History} {db db' : ReservedDb} {jr jr' : Journal}
variable {context context' : ReservedContext} {input input' : OrderInput} {order order' : Order}

/-! ## The hold that was taken -/

/-- A hold is of the seats, the departure and the transaction it was taken for. -/
structure Took (db : ReservedDb) (params : AcquireHold) (hold : HoldRecord) : Prop where
  /-- its rows are those it was answered with -/
  fits : Fits db hold
  /-- its seats are those asked for, each once -/
  seats : hold.seatIds = params.seats
  /-- its service -/
  serviceId : hold.serviceId = params.serviceId
  /-- its transaction -/
  owner : ∀ row ∈ db.seatLocks.rows, row.holdId = some hold.holdId →
    row.operator = params.operator ∧ row.identity = params.identity

/-- Taking a hold takes it. -/
theorem Took.of_acquire {params : AcquireHold} {hold : HoldRecord} (hrows : HoldRows db')
    (h : HoldTaken params db db' hold) : Took db' params hold := by
  cases h with
  | reused _ hlive hsame =>
    have hread := (Option.filter_eq_some_iff.mp hlive).1
    simp only [AcquireHold.isSame, Bool.and_eq_true, decide_eq_true_eq] at hsame
    refine ⟨.of_read hrows hread, hsame.2, hsame.1.1, fun row hrow hid => ?_⟩
    obtain ⟨newest, hnewest, rows, -, hsome, hoperator, hidentity, rfl⟩ :=
      findLatestHold_eq hrows hread
    obtain ⟨holdId, hholdId⟩ := Option.isSome_iff_exists.mp hsome
    rw [holdFromRows, hholdId, Option.getD_some] at hid
    obtain ⟨-, -, ho, hi, -⟩ := hrows.agree row hrow newest hnewest (hid.trans hholdId.symm)
    exact ⟨ho.trans hoperator, hi.trans hidentity⟩
  | @taken _ released holdId _ _ _ _ hins heq =>
    subst heq
    have hnew : ∀ row ∈ db'.seatLocks.rows, row.holdId = some holdId →
        row ∈ params.newRows holdId := by
      intro row hrow hid
      rw [hins.locks] at hrow
      rcases List.mem_append.mp hrow with hrow | hrow
      · exact absurd hid (findHoldById_eq_none hins.fresh row hrow)
      · exact hrow
    refine ⟨⟨fun row hrow hid => ?_, ?_, ?_⟩, rfl, rfl, fun row hrow hid => ?_⟩
    · rw [(AcquireHold.mem_newRows (hnew row hrow hid)).2]
      exact ⟨rfl, rfl⟩
    · have hold : released.seatLocks.rows.filter (fun row => row.holdId = some holdId) = [] :=
        List.filter_eq_nil_iff.mpr fun row hrow => by
          simpa using findHoldById_eq_none hins.fresh row hrow
      have hall : (params.newRows holdId).filter (fun row => row.holdId = some holdId) =
          params.newRows holdId :=
        List.filter_eq_self.mpr fun row hrow => by
          rw [(AcquireHold.mem_newRows hrow).2]
          exact decide_eq_true rfl
      change (db'.seatsOfHold holdId).Perm params.seats
      rw [ReservedDb.seatsOfHold, hins.locks, List.filter_append, hold, List.nil_append, hall,
        params.map_seatId_newRows]
    · obtain ⟨row, hrow⟩ : ∃ row, row ∈ params.newRows holdId := by
        refine List.exists_mem_of_ne_nil _ fun hnil => hins.seats ?_
        rw [← params.map_seatId_newRows holdId, hnil]
        rfl
      refine ⟨row, ?_, ?_⟩
      · rw [hins.locks]
        exact List.mem_append_right _ hrow
      · rw [(AcquireHold.mem_newRows hrow).2]
        rfl
    · rw [(AcquireHold.mem_newRows (hnew row hrow hid)).2]
      exact ⟨rfl, rfl⟩

/-- It stays what it was. -/
theorem Took.step {params : AcquireHold} {hold : HoldRecord} (h : Took db params hold)
    {t : Transaction} {raw : String} {a : t.Answer} (hrun : t.run raw db = .ok (a, db')) :
    Took db' params hold := by
  refine ⟨h.fits.step hrun, h.seats, h.serviceId, fun row' hrow' hid => ?_⟩
  rcases lock_after hrun hrow' with ⟨row, hrow, hmove⟩ | ⟨params', holdId, -, hnew, hfresh⟩
  · rw [hmove.same.operator, hmove.same.identity]
    exact h.owner row hrow (hmove.same.holdId.symm.trans hid)
  · obtain ⟨old, hold, holdId_eq⟩ := h.fits.row
    rw [(AcquireHold.mem_newRows hnew).2] at hid
    exact absurd (holdId_eq.trans hid.symm) (hfresh old hold)

/-- A hold of the same id, read at whatever time, is of the same seats. -/
theorem Took.same {params : AcquireHold} {hold hold' : HoldRecord} (h : Took db params hold)
    (h' : Fits db hold') (hid : hold'.holdId = hold.holdId) :
    hold'.serviceId = params.serviceId ∧ hold'.seatIds.Perm params.seats := by
  obtain ⟨row, hrow, hrowId⟩ := h.fits.row
  refine ⟨?_, ?_⟩
  · rw [← h.serviceId, ← (h.fits.departure row hrow hrowId).1]
    exact (h'.departure row hrow (hid ▸ hrowId)).1.symm
  · rw [← h.seats]
    exact (hid ▸ h'.seats).symm.trans h.fits.seats

/-! ## Every run -/

/-- What a run keeps of the holds it has taken and of the orders it has sold. -/
structure Dealings (d : Deployment) (s : History) : Prop where
  /-- the store's own invariant -/
  base : Base s
  /-- what was read of the bookings -/
  reads : Reads s
  /-- what was sold -/
  sales : Sales d s
  /-- every hold that was taken is what it was taken for -/
  took : ∀ i params hold, (⟨i, .transaction (.acquireHold params), .ok hold⟩ : Entry Op Resp) ∈
    s.trace → Took s.world.db params hold

theorem Dealings.perform (h : Dealings d s) {i : ℕ} {op : Op} {r : Resp op}
    (hknows : Knows d req (own i s.trace) op) (hnames : NamesBooking d op)
    (hdoes : Does (provider d) i req op s r s') : Dealings d s' := by
  refine ⟨h.base.perform hknows hdoes, h.reads.perform hdoes,
    h.sales.perform h.reads hknows hnames hdoes, ?_⟩
  have hrows := (h.base.perform hknows hdoes).store.rows
  obtain ⟨o, w, hexec, rfl⟩ := hdoes
  intro j params hold hmem
  rcases World.exec_db hexec with ⟨hdb, hnot⟩ | ⟨t, a, heq, hrun⟩
  · rcases List.mem_cons.mp hmem with heq | hmem
    · exact absurd (congrArg Entry.line heq.symm) (hnot _ _)
    · change Took w.db params hold
      rw [hdb]
      exact h.took j params hold hmem
  · cases heq
    rcases List.mem_cons.mp hmem with heq | hmem
    · cases heq
      exact .of_acquire hrows (acquireHold_ok hrun)
    · exact (h.took j params hold hmem).step hrun

theorem reach_dealings {allows : History → Act? → Prop} {clock : ℤ} {source : Source} {c : Pool}
    (h : Reach (provider d) allows ⟨⟨World.initial clock source, []⟩, []⟩ c) :
    Dealings d c.hist := by
  refine h.invariant (Dealings d) (fun req => (handle_knows req).and (handle_runs req))
    ⟨.initial clock source, .initial clock source, .initial clock source,
      fun _ _ _ hmem => absurd hmem List.not_mem_nil⟩
    (fun hs _ hknown hdoes => hs.perform hknown.1 hknown.2 hdoes) ?_
  intro s e w hs _ henv
  obtain ⟨hbase, hdb, -⟩ := hs.base.env henv
  refine ⟨hbase, hs.reads.env henv, hs.sales.env hdb, ?_⟩
  rw [show ({ world := w, trace := s.trace } : History).world.db = s.world.db from hdb]
  exact hs.took

/-! ## Prices -/

/-- A quote depends on the fare, the service, the concession and the number of seats. -/
theorem BuildOrder.quote_congr {x y : BuildOrder} (hfare : x.farePaise = y.farePaise)
    (hservice : x.resolved.service = y.resolved.service)
    (hclaim : x.concessionClaim = y.concessionClaim) (hcount : x.seatCount = y.seatCount) :
    x.quote = y.quote := by
  simp only [quote, discountPaise, concessionLines, basePaise, feePaise, tollPaise, claim?, hfare,
    hservice, hclaim, hcount]

/-- Two requests have read the same catalogue. -/
structure SameCatalogue (jr jr' : Journal) : Prop where
  /-- the same services -/
  service : ∀ id id' service service', (⟨.service id, .ok (some service)⟩ : Line Op Resp) ∈ jr →
    (⟨.service id', .ok (some service')⟩ : Line Op Resp) ∈ jr' →
      service.serviceId = service'.serviceId → service = service'
  /-- the same fares -/
  fareTable : ∀ id table table', (⟨.fareTable id, .ok (some table)⟩ : Line Op Resp) ∈ jr →
    (⟨.fareTable id, .ok (some table')⟩ : Line Op Resp) ∈ jr' → table = table'

/-- Two requests are for the same pair of stops and the same concession, under one catalogue. -/
structure SameTerms (terms terms' : Terms) (input input' : OrderInput) (jr jr' : Journal) : Prop
    where
  /-- the pair of stops -/
  pair : terms'.pair = terms.pair
  /-- the concession -/
  concession : concessionFromOrderTags input'.tags = concessionFromOrderTags input.tags
  /-- the catalogue -/
  catalogue : SameCatalogue jr jr'

/-- Then they come to the same service and the same fare. -/
theorem SameTerms.priced {terms terms' : Terms} (h : SameTerms terms terms' input input' jr jr')
    (hof : terms.Of input jr) (hof' : terms'.Of input' jr')
    (hid : terms'.resolved.service.serviceId = terms.resolved.service.serviceId) :
    terms'.resolved.service = terms.resolved.service ∧ terms'.cell = terms.cell := by
  obtain ⟨id, hservice⟩ := hof.read.service
  obtain ⟨id', hservice'⟩ := hof'.read.service
  have hsame := h.catalogue.service id id' _ _ hservice hservice' hid.symm
  have hfares' := hof'.read.fareTable
  rw [← hsame] at hfares'
  have htable := h.catalogue.fareTable _ _ _ hof.read.fareTable hfares'
  have hfare' := hof'.fare
  rw [← htable, h.pair, ← hsame, hof.fare] at hfare'
  exact ⟨hsame.symm, (Except.ok.inj hfare').symm⟩

/-! ## Sales -/

/-- Two orders are of one price and of the same seats. -/
structure SameSale (order order' : Order) : Prop where
  /-- the total -/
  price : order'.quote.price = order.quote.price
  /-- the seats -/
  seats : ∀ seatId, seatId ∈ namedIn "SEATS" order'.tags ↔ seatId ∈ namedIn "SEATS" order.tags

/-- The holds an order names. -/
def Order.holdIds (order : Order) : List String :=
  (order.tags.filter fun t => t.code = "HOLD_INFO").flatMap fun t =>
    (t.list.filter fun e => e.code = "HOLD_ID").map TagEntry.value

theorem Rendered.seats {input : BuildOrder} (h : Rendered input order)
    (hseats : input.seatIds ≠ []) : namedIn "SEATS" order.tags = input.seatIds :=
  congrArg SeatView.seats (h.seatView hseats)

/-- Orders built on one fare for one number of the same seats are the same sale. -/
theorem Rendered.sameSale {x y : BuildOrder} (hx : Rendered x order) (hy : Rendered y order')
    (hfare : y.farePaise = x.farePaise) (hservice : y.resolved.service = x.resolved.service)
    (hclaim : y.concessionClaim = x.concessionClaim) (hcount : y.seatCount = x.seatCount)
    (hnamed : x.seatIds ≠ []) (hseats : ∀ seatId, seatId ∈ y.seatIds ↔ seatId ∈ x.seatIds) :
    order'.quote = order.quote ∧
      ∀ seatId, seatId ∈ namedIn "SEATS" order'.tags ↔ seatId ∈ namedIn "SEATS" order.tags := by
  have hnamed' : y.seatIds ≠ [] := by
    obtain ⟨seatId, hmem⟩ := List.exists_mem_of_ne_nil _ hnamed
    exact List.ne_nil_of_mem ((hseats seatId).mpr hmem)
  refine ⟨?_, ?_⟩
  · have hquote := hy.quote
    rw [BuildOrder.quote_congr hfare hservice hclaim hcount, hx.quote] at hquote
    exact (Except.ok.inj hquote).symm
  · rw [hx.seats hnamed, hy.seats hnamed']
    exact hseats

/-- An order names its hold and counts its seats. -/
theorem renderOrder_names {input : BuildOrder} {snapshot : Snapshot}
    (h : renderOrder d input snapshot = .ok order) :
    order.holdIds = input.hold.toList.map HoldRecord.holdId ∧
      order.items.map Item.selectedCount = [some input.seatCount] := by
  obtain ⟨quote, -, h⟩ := Except.bind_ok.mp h
  obtain ⟨item, hitem, h⟩ := Except.bind_ok.mp h
  obtain ⟨f, -, h⟩ := Except.bind_ok.mp h
  obtain ⟨createdAt, -, h⟩ := Except.bind_ok.mp h
  have hcount : item.selectedCount = some input.seatCount := by
    obtain ⟨itemId, -, hitem⟩ := Except.bind_ok.mp hitem
    obtain ⟨shown, -, hitem⟩ := Except.bind_ok.mp hitem
    obtain ⟨departure, -, hitem⟩ := Except.bind_ok.mp hitem
    obtain rfl := Except.ok.inj hitem
    rfl
  have hown : ([specimenTag specimenNotice,
      seatMapTag input.resolved.seatMap.seatMapId snapshot.states,
      seatMapLayoutTag input.resolved.seatMap] ++
        (if input.seatIds.length > 0 then [seatsTag input.seatIds] else [])).filter
          (fun t => t.code = "HOLD_INFO") = [] := by
    refine List.filter_eq_nil_iff.mpr fun t ht => ?_
    simp only [List.mem_append, List.mem_cons, List.not_mem_nil, or_false] at ht
    rcases ht with (rfl | rfl | rfl) | ht
    · simp [specimenTag]
    · simp [seatMapTag]
    · simp [seatMapLayoutTag]
    · split at ht
      · rw [List.mem_singleton.mp ht]
        simp [seatsTag]
      · cases ht
  dsimp only at h
  split at h
  · rename_i hnone
    obtain ⟨holdTags, hhold, h⟩ := Except.bind_ok.mp h
    obtain rfl := Except.ok.inj hhold
    obtain rfl := Except.ok.inj h
    refine ⟨?_, by rw [List.map_singleton, hcount]⟩
    rw [Order.holdIds, List.append_nil, hown, hnone]
    rfl
  · rename_i hold hsome
    obtain ⟨tag, htag, h⟩ := Except.bind_ok.mp h
    obtain ⟨holdTags, hhold, h⟩ := Except.bind_ok.mp h
    obtain ⟨expires, -, htag⟩ := Except.bind_ok.mp htag
    obtain rfl := Except.ok.inj htag
    obtain rfl := Except.ok.inj hhold
    obtain rfl := Except.ok.inj h
    refine ⟨?_, by rw [List.map_singleton, hcount]⟩
    rw [Order.holdIds, List.filter_append, hown, hsome]
    simp

/-! ## Requests on one hold -/

section

variable {i j : ℕ} {params : ConfirmBooking}

/-- A select has its hold. -/
theorem SelectRun.took (run : SelectRun d context input (own i s.trace) order)
    (h : Dealings d s) : Took s.world.db (holdRequest d run.terms.resolved (identityOf context)
      (seatIdsFrom input.tags) run.nowMs) run.hold :=
  h.took i _ _ (mem_own.mp run.held)

/-- An order that names seats is charged for as many as it names. -/
theorem seatCount_selectedOrder {terms : Terms} {identity : ReservedIdentity}
    {hold : Option HoldRecord} (hseats : seatIdsFrom input.tags ≠ []) :
    (selectedOrder terms.resolved terms.pair terms.cell identity input hold).seatCount =
      (seatIdsFrom input.tags).length :=
  if_pos (List.length_pos_of_ne_nil hseats)

/-- Who has checked a hold has read it. -/
theorem HoldRun.fits (run : HoldRun d context input (own j s.trace)) (h : Dealings d s) :
    Fits s.world.db run.hold := by
  have hread : (⟨.findLatestHold d.operatorKey (identityOf context), .ok (some run.hold)⟩ :
      Line Op Resp) ∈ run.checkedJr := by
    rw [run.checked.lines]
    exact List.mem_cons_of_mem _ (List.mem_cons_self ..)
  exact h.base.store.fits _ (mem_holdsRead (run.earlier.subset hread))

/-- A select that names no seat twice, and a later request on its hold. -/
theorem HoldRun.same (run' : HoldRun d context' input' (own j s.trace)) (h : Dealings d s)
    (run : SelectRun d context input (own i s.trace) order)
    (hnodup : (seatIdsFrom input.tags).Nodup) (hid : run'.hold.holdId = run.hold.holdId)
    (hterms : SameTerms run.terms run'.terms input input' (own i s.trace) (own j s.trace)) :
    run'.terms.resolved.service = run.terms.resolved.service ∧
      run'.terms.cell = run.terms.cell ∧ run'.hold.seatIds.Perm (seatIdsFrom input.tags) := by
  obtain ⟨hservice, hseats⟩ := (run.took h).same (run'.fits h) hid
  obtain ⟨-, -, hlive, -⟩ := assertHoldLive_ok run'.checked.live
  obtain ⟨hsame, hcell⟩ := hterms.priced run.read run'.read (hlive.symm.trans hservice)
  refine ⟨hsame, hcell, hseats.trans ((sort_perm _).trans ?_)⟩
  exact (List.perm_ext_iff_of_nodup (nodup_unique _) hnodup).mpr fun _ => mem_unique

/-- An init on the hold sells what was selected. -/
theorem InitRun.sameSale (run' : InitRun d context' input' (own j s.trace) order')
    (h : Dealings d s) (run : SelectRun d context input (own i s.trace) order)
    (hseats : seatIdsFrom input.tags ≠ []) (hnodup : (seatIdsFrom input.tags).Nodup)
    (hid : order'.holdIds = order.holdIds)
    (hterms : SameTerms run.terms run'.terms input input' (own i s.trace) (own j s.trace)) :
    SameSale order order' := by
  have hholdId : run'.hold.holdId = run.hold.holdId := by
    rw [(renderOrder_names run'.render).1, (renderOrder_names run.render).1] at hid
    exact List.head_eq_of_cons_eq hid
  obtain ⟨hservice, hcell, hperm⟩ := run'.toHoldRun.same h run hnodup hholdId hterms
  obtain ⟨hquote, hlisted⟩ := (renderOrder_ok run.render).sameSale (renderOrder_ok run'.render)
    (congrArg FareCell.farePaise hcell) hservice hterms.concession
    (by
      rw [seatCount_selectedOrder hseats]
      exact congrArg Nat.cast hperm.length_eq) hseats fun _ => hperm.mem_iff
  exact ⟨congrArg Quote.price hquote, hlisted⟩

/-- What is booked of the hold is what was selected. -/
theorem BookRun.sameSale (run' : BookRun d context' input' (own j s.trace) params)
    (h : Dealings d s) (run : SelectRun d context input (own i s.trace) order)
    (hseats : seatIdsFrom input.tags ≠ []) (hnodup : (seatIdsFrom input.tags).Nodup)
    (hid : params.holdId = run.hold.holdId)
    (hterms : SameTerms run.terms run'.terms input input' (own i s.trace) (own j s.trace)) :
    params.order.quote = order.quote ∧ ∀ seatId,
      seatId ∈ namedIn "SEATS" params.order.tags ↔ seatId ∈ namedIn "SEATS" order.tags := by
  obtain ⟨hservice, hcell, hperm⟩ :=
    run'.toHoldRun.same h run hnodup (run'.holdId.symm.trans hid) hterms
  obtain ⟨hdistinct, hmatches⟩ := manifestFor_ok run'.checked.manifest
  have hrecords : (run'.records.map ManifestRecord.seatId).Perm (seatIdsFrom input.tags) := by
    refine (List.perm_ext_iff_of_nodup hdistinct hnodup).mpr fun seatId => ?_
    rw [hmatches, hperm.mem_iff]
  refine (renderOrder_ok run.render).sameSale (renderOrder_ok run'.render)
    (congrArg FareCell.farePaise hcell) hservice hterms.concession ?_ hseats
    fun _ => hrecords.mem_iff
  rw [seatCount_selectedOrder hseats, ← hrecords.length_eq, List.length_map]
  rfl

/-- A confirm answers what it has booked, while nothing of it is cancelled. -/
theorem BookRun.answers (run : BookRun d context input (own j s.trace) params)
    (h : Dealings d s) (hbooked : (⟨.transaction (.confirmBooking params), .ok ()⟩ :
      Line Op Resp) ∈ own j s.trace) {row : BookingRow} {operator bapId bapUri : String}
    (hread : (⟨.bookingByReference operator bapId bapUri params.orderId, .ok (some row)⟩ :
      Line Op Resp) ∈ own j s.trace) : StillSold s.trace params row.order := by
  have hmem := mem_own.mp hread
  obtain ⟨hname | hname, hnamed⟩ := h.sales.byReference _ _ _ _ _ _ hmem
  · exact h.sales.shown _ (mem_own.mp hbooked) params ⟨j, rfl⟩ _ hmem row.order
      (.inl ⟨row, rfl, hname, rfl⟩)
  · exact absurd hname (hnamed.reference_ne run.named)

end

/-! ## The answers about one hold -/

section

variable {c : Pool} {i : ℕ}

/-- What a select quoted is what is held, and what an init and a confirm on its hold sell. -/
structure QuotedIsHeld (c : Pool) (run : SelectRun d context input jr order) : Prop where
  /-- the answer names the hold -/
  named : order.holdIds = [run.hold.holdId]
  /-- which is the transaction's -/
  owned : ∀ row ∈ c.hist.world.db.seatLocks.rows, row.holdId = some run.hold.holdId →
    row.operator = d.operatorKey ∧ row.identity = identityOf context
  /-- and of distinct seats -/
  distinct : (c.hist.world.db.seatsOfHold run.hold.holdId).Nodup
  /-- the item counts its seats -/
  counted : order.items.map Item.selectedCount =
    [some ((c.hist.world.db.seatsOfHold run.hold.holdId).length : ℤ)]
  /-- the quote charges for that many -/
  charged : BuildOrder.quote { selectedOrder run.terms.resolved run.terms.pair run.terms.cell
    (identityOf context) input (some run.hold) with
      seatCount := (c.hist.world.db.seatsOfHold run.hold.holdId).length } = .ok order.quote
  /-- and the answer lists them -/
  listed : ∀ seatId, seatId ∈ namedIn "SEATS" order.tags ↔
    seatId ∈ c.hist.world.db.seatsOfHold run.hold.holdId
  /-- an init on the hold sells the same -/
  inits : ∀ j req' context' input' order' refund tags,
    c.tasks[j]? = some ⟨req', .ret (.ok (.order order' refund tags))⟩ →
      req'.action = .init context' input' → order'.holdIds = order.holdIds →
        Nonempty (InitRun d context' input' (own j c.hist.trace) order') ∧
          ∀ run' : InitRun d context' input' (own j c.hist.trace) order',
            SameTerms run.terms run'.terms input input' jr (own j c.hist.trace) →
              SameSale order order'
  /-- and so does a confirm that books it; its seats unless one was cancelled before they were read
  back -/
  confirms : ∀ j req' context' input' order' refund tags params,
    c.tasks[j]? = some ⟨req', .ret (.ok (.order order' refund tags))⟩ →
      req'.action = .confirm context' input' →
        (⟨.transaction (.confirmBooking params), .ok ()⟩ : Line Op Resp) ∈ own j c.hist.trace →
          params.holdId = run.hold.holdId →
            Nonempty (BookRun d context' input' (own j c.hist.trace) params) ∧
              ∀ run' : BookRun d context' input' (own j c.hist.trace) params,
                SameTerms run.terms run'.terms input input' jr (own j c.hist.trace) →
                  order'.quote.price = order.quote.price ∧
                    ((∀ e ∈ c.hist.trace, applies params.orderId e = false) →
                      SameSale order order')

/-- **What is quoted is what is held**, exactly if the select names no seat twice. -/
theorem quoted_is_held_iff {allows : History → Act? → Prop} {clock : ℤ} {source : Source}
    (h : Reach (provider d) allows ⟨⟨World.initial clock source, []⟩, []⟩ c) {req : Request}
    {refund : Option Quote} {tags : List Tag}
    (hanswer : c.tasks[i]? = some ⟨req, .ret (.ok (.order order refund tags))⟩)
    (haction : req.action = .select context input) (hseats : seatIdsFrom input.tags ≠ []) :
    Nonempty (SelectRun d context input (own i c.hist.trace) order) ∧
      ∀ run : SelectRun d context input (own i c.hist.trace) order,
        QuotedIsHeld c run ↔ (seatIdsFrom input.tags).Nodup := by
  have hruns := h.journal handle_runs
  have hdealings := reach_dealings h
  refine ⟨(hruns.answer hanswer _ rfl).1 context input haction hseats, fun run => ?_⟩
  have htook := run.took hdealings
  have hheld : (c.hist.world.db.seatsOfHold run.hold.holdId).Perm
      (sort (unique (seatIdsFrom input.tags))) := by
    have hperm := htook.fits.seats
    rwa [htook.seats] at hperm
  have hlength : (c.hist.world.db.seatsOfHold run.hold.holdId).length =
      (unique (seatIdsFrom input.tags)).length :=
    (hheld.trans (sort_perm _)).length_eq
  have hcounted := (renderOrder_names run.render).2
  rw [seatCount_selectedOrder hseats] at hcounted
  constructor
  · intro hquoted
    have hcount := hcounted.symm.trans hquoted.counted
    rw [List.singleton_inj, Option.some.injEq, hlength] at hcount
    exact nodup_of_length_unique (Nat.cast_injective hcount).symm
  · intro hnodup
    rw [length_unique hnodup] at hlength
    refine ⟨(renderOrder_names run.render).1, htook.owner, ?_, ?_, ?_, fun seatId => ?_, ?_, ?_⟩
    · exact hdealings.base.store.rows.nodup_seatsOfHold _
    · rw [hlength]
      exact hcounted
    · rw [hlength, ← (renderOrder_ok run.render).quote]
      exact BuildOrder.quote_congr rfl rfl rfl (seatCount_selectedOrder hseats).symm
    · rw [(renderOrder_ok run.render).seats hseats, hheld.mem_iff, mem_sort, mem_unique]
      exact Iff.rfl
    · intro j req' context' input' order' refund' tags' hanswer' haction' hid
      refine ⟨(hruns.answer hanswer' _ rfl).2.1 context' input' haction', fun run' hterms => ?_⟩
      exact run'.sameSale hdealings run hseats hnodup hid hterms
    · intro j req' context' input' order' refund' tags' params hanswer' haction' hbooked hid
      obtain ⟨hrun, row, hrow, hread⟩ :=
        (hruns.answer hanswer' _ rfl).2.2 context' input' haction' params hbooked
      refine ⟨hrun, fun run' hterms => ?_⟩
      have hsold := run'.answers hdealings hbooked hread
      obtain ⟨hquote, hlisted⟩ := run'.sameSale hdealings run hseats hnodup hid hterms
      have hprice := congrArg Quote.price (hsold.quote.trans hquote)
      rw [← hrow]
      refine ⟨hprice, fun huncut => ⟨hprice, ?_⟩⟩
      rw [hsold.seats huncut]
      exact hlisted

end

/-! ### Two selects -/

/-- What a task that selects has asked for and been answered. -/
def selectOf (c : Pool) (i : ℕ) : Option (OrderInput × Order) :=
  c.tasks[i]?.bind fun task => match task.req.action, task.rest with
    | .select _ input, .ret (.ok (.order order _ _)) => some (input, order)
    | _, _ => none

theorem task_of_selectOf {c : Pool} {i : ℕ} (h : selectOf c i = some (input, order)) :
    ∃ req context refund tags, c.tasks[i]? = some ⟨req, .ret (.ok (.order order refund tags))⟩ ∧
      req.action = .select context input := by
  obtain ⟨⟨req, rest⟩, htask, hselect⟩ := Option.bind_eq_some_iff.mp h
  dsimp only at hselect
  split at hselect
  · rename_i context input' order' refund tags haction
    obtain ⟨rfl, rfl⟩ := Prod.mk.inj (Option.some.inj hselect)
    exact ⟨req, context, refund, tags, htask, haction⟩
  · cases hselect

/-- The select of a sale, and what came of it. -/
theorem quoted_is_held_iff_specimen : ∃ (c : Pool) (context : ReservedContext) (input : OrderInput)
    (order : Order) (run : SelectRun specimenDeployment context input (own 0 c.hist.trace) order),
    Reach (provider specimenDeployment) (fun _ _ => True) specimenStart c ∧
    (c.answer 1).isSome = true ∧ seatIdsFrom input.tags = ["1", "2"] ∧ QuotedIsHeld c run := by
  have hrun : (specimenStart.follow (provider specimenDeployment) (fun _ _ => true)
      specimenSale).bind (fun c => (selectOf c 0).map fun p =>
        (seatIdsFrom p.1.tags, (c.answer 1).isSome)) = some (["1", "2"], true) := by
    decide +kernel
  obtain ⟨c, hfollow, hrest⟩ := Option.bind_eq_some_iff.mp hrun
  obtain ⟨⟨input, order⟩, hselect, hfacts⟩ := Option.map_eq_some_iff.mp hrest
  obtain ⟨hseats, hconfirmed⟩ := Prod.mk.inj hfacts
  have hreach : Reach (provider specimenDeployment) (fun _ _ => True) specimenStart c :=
    (Config.follow_reach .refl hfollow).mono fun _ _ _ => trivial
  obtain ⟨req, context, refund, tags, hanswer, haction⟩ := task_of_selectOf hselect
  dsimp only at hseats
  obtain ⟨⟨run⟩, hiff⟩ := quoted_is_held_iff hreach hanswer haction (by rw [hseats]; decide)
  exact ⟨c, context, input, order, run, hreach, hconfirmed, hseats,
    (hiff run).mpr (by rw [hseats]; decide)⟩

/-- A select that names seat 1 twice is charged for two seats, and holds one. -/
theorem quoted_twice_held_once : ∃ (c : Pool) (context : ReservedContext) (input : OrderInput)
    (order : Order) (run : SelectRun specimenDeployment context input (own 0 c.hist.trace) order),
    Reach (provider specimenDeployment) (fun _ _ => True) specimenStart c ∧
    seatIdsFrom input.tags = ["1", "1"] ∧ order.items.map Item.selectedCount = [some 2] ∧
    c.hist.world.db.seatsOfHold run.hold.holdId = ["1"] ∧ ¬ QuotedIsHeld c run := by
  have hrun : (specimenStart.follow (provider specimenDeployment) (fun _ _ => true)
      ([.start (specimenSelect "T1" ["1", "1"])] ++ steps 0 12 "a1")).bind (fun c =>
        (selectOf c 0).map fun p => (seatIdsFrom p.1.tags, p.2.items.map Item.selectedCount,
          p.2.holdIds.map c.hist.world.db.seatsOfHold)) =
      some (["1", "1"], [some 2], [["1"]]) := by
    decide +kernel
  obtain ⟨c, hfollow, hrest⟩ := Option.bind_eq_some_iff.mp hrun
  obtain ⟨⟨input, order⟩, hselect, hfacts⟩ := Option.map_eq_some_iff.mp hrest
  obtain ⟨hseats, hfacts⟩ := Prod.mk.inj hfacts
  obtain ⟨hcount, hheld⟩ := Prod.mk.inj hfacts
  have hreach : Reach (provider specimenDeployment) (fun _ _ => True) specimenStart c :=
    (Config.follow_reach .refl hfollow).mono fun _ _ _ => trivial
  obtain ⟨req, context, refund, tags, hanswer, haction⟩ := task_of_selectOf hselect
  dsimp only at hseats hcount hheld
  obtain ⟨run⟩ := ((hreach.journal handle_runs).answer hanswer _ rfl).1 context input haction
    (by rw [hseats]; decide)
  have hone : c.hist.world.db.seatsOfHold run.hold.holdId = ["1"] := by
    rw [(renderOrder_names run.render).1] at hheld
    exact List.head_eq_of_cons_eq hheld
  refine ⟨c, context, input, order, run, hreach, hseats, hcount, hone, fun hquoted => ?_⟩
  have hcounted := hquoted.counted
  rw [hcount, hone] at hcounted
  exact absurd hcounted (by decide)

end TransitBpp
