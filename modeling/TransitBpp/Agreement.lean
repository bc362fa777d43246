import TransitBpp.StoredOrders
import TransitBpp.Rewrites

/-!
# The stored order agrees with the seat rows

An order may disagree with its seats only between the last cancellation to commit and the write of
that request, so long as nobody writes back what has been overtaken: `Unwritten` is the one and
`InStep` the other. `OrdersKept` is the invariant every such run keeps, and `stored_order_agrees`
what it says of a state.

Neither condition is checked by the code. A write that fails leaves the seats cancelled and the
order as it was, and of two cancellations that overlap the one that read first may write last.
-/

namespace TransitBpp

open Interleave Js

variable {d : Deployment} {req : Request} {s s' : History} {w : World} {i process : ℕ}
variable {o : Choice} {op : Op} {r : Resp op} {t : Transaction} {a : t.Answer}
variable {tr : List (Entry Op Resp)} {e : Entry Op Resp} {bookingId : String}

/-! ## The last cancellation -/

/-- The request whose cancellation of the booking was the last to commit has not written the order
back. -/
def Unwritten (tr : List (Entry Op Resp)) (bookingId : String) : Prop :=
  ∃ e ∈ tr.find? (applies bookingId), ∀ e' ∈ tr, e'.task = e.task → stores bookingId e' = false

instance (tr : List (Entry Op Resp)) (bookingId : String) : Decidable (Unwritten tr bookingId) := by
  unfold Unwritten
  infer_instance

/-- A cancellation that commits is the last, and has yet to be written back. -/
theorem Unwritten.apply (happlies : applies bookingId e = true)
    (hnone : ∀ e' ∈ e :: tr, e'.task = e.task → stores bookingId e' = false) :
    Unwritten (e :: tr) bookingId :=
  ⟨e, List.find?_cons_of_pos happlies, hnone⟩

/-- What neither cancels nor writes changes nothing. -/
theorem unwritten_cons (happlies : applies bookingId e = false)
    (hstores : stores bookingId e = false) :
    Unwritten (e :: tr) bookingId ↔ Unwritten tr bookingId := by
  have hfind : (e :: tr).find? (applies bookingId) = tr.find? (applies bookingId) :=
    List.find?_cons_of_neg (by rw [happlies]; exact Bool.false_ne_true)
  unfold Unwritten
  rw [hfind]
  refine exists_congr fun e₀ => and_congr_right fun _ => ?_
  refine ⟨fun h e' he' => h e' (List.mem_cons_of_mem _ he'), fun h e' he' htask => ?_⟩
  rcases List.mem_cons.mp he' with rfl | he'
  · exact hstores
  · exact h e' he' htask

/-- Only the request that cancelled last can write it back. -/
theorem Unwritten.cons (h : Unwritten tr bookingId) (happlies : applies bookingId e = false) :
    Unwritten (e :: tr) bookingId ∨
      ∃ e₀ ∈ tr.find? (applies bookingId), e₀.task = e.task := by
  obtain ⟨e₀, hlast, hnone⟩ := h
  by_cases htask : e₀.task = e.task
  · exact .inr ⟨e₀, hlast, htask⟩
  · refine .inl ⟨e₀, ?_, fun e' he' heq => ?_⟩
    · rw [List.find?_cons_of_neg (by rw [happlies]; exact Bool.false_ne_true)]
      exact hlast
    · rcases List.mem_cons.mp he' with rfl | he'
      · exact absurd heq.symm htask
      · exact hnone e' he' heq

/-- Whose write ends it made the last cancellation, so there is none in what came after that. -/
theorem Unwritten.last_seen (h : Unwritten tr bookingId) {later earlier : List (Entry Op Resp)}
    (htr : tr = later ++ earlier) (happlies : applies bookingId e = false)
    (hwritten : ¬ Unwritten (e :: tr) bookingId)
    (hown : ∀ e' ∈ later, e'.task = e.task → applies bookingId e' = false) :
    ∀ e' ∈ later, applies bookingId e' = false := by
  obtain ⟨e₀, hlast, htask⟩ := (h.cons happlies).resolve_left hwritten
  by_contra hsome
  push Not at hsome
  obtain ⟨e', he', happlied⟩ := hsome
  have hfound : (later.find? (applies bookingId)).isSome = true :=
    List.find?_isSome.mpr ⟨e', he', Bool.eq_true_of_not_eq_false happlied⟩
  rw [htr, List.find?_append, Option.or_of_isSome hfound] at hlast
  have happlied := List.find?_some hlast
  rw [hown e₀ (List.mem_of_find?_eq_some hlast) htask] at happlied
  cases happlied

/-- The entry is a task's read of a booking by its id, which a cancellation does after it was
applied. -/
def readsRowBy (i : ℕ) : Entry Op Resp → Bool
  | ⟨j, .bookingById _, .ok _⟩ => j = i
  | _ => false

/-- The entry is a task's list of the manifests that are due. -/
def listsBy (i : ℕ) : Entry Op Resp → Bool
  | ⟨j, .staleManifests _, .ok _⟩ => j = i
  | _ => false

/-- Nobody writes back what has been overtaken: a cancellation no seats it read before another was
applied, and a sweep no order it listed before that was written, unless the last cancellation has
still to write it. -/
def InStep (s : History) : Act? → Prop
  | .perform i _ (.transaction (.updateStoredOrder bookingId _)) =>
    Unwritten s.trace bookingId ∨
      ∀ e ∈ since (readsRowBy i) s.trace, applies bookingId e = false
  | .perform i _ (.transaction (.clearManifests stale)) =>
    ∀ bookingId ∈ stale.map Prod.fst, Unwritten s.trace bookingId ∨
      ∀ e ∈ since (listsBy i) s.trace, stores bookingId e = false
  | _ => True

instance (s : History) (m : Act?) : Decidable (InStep s m) := by
  unfold InStep
  split <;> infer_instance

/-! ## The invariant -/

/-- An order says of its seats what the stored one says, unless that will be written again. -/
def ListedRight (x : String × Order) (s : History) : Prop :=
  Unwritten s.trace x.1 ∨
    ∃ row ∈ s.world.db.bookings.rows, row.id = x.1 ∧ row.order.seatView = x.2.seatView

/-- What a run keeps of the orders it has stored and read. -/
structure OrdersKept (s : History) : Prop where
  /-- orders name seats where they should -/
  shaped : ∀ row ∈ s.world.db.bookings.rows, row.order.Shaped
  /-- a booking has seats -/
  seated : ∀ row ∈ s.world.db.bookings.rows,
    ∃ seat ∈ s.world.db.bookingSeats.rows, seat.bookingId = row.id
  /-- its status is that of its seats -/
  settled : ∀ row ∈ s.world.db.bookings.rows, Settles s.world.db row.id row.status
  /-- only who cancelled writes an order back -/
  stored : ∀ e ∈ s.trace, ∀ bookingId, stores bookingId e = true →
    ∃ e' ∈ s.trace, e'.task = e.task ∧ applies bookingId e' = true
  /-- an order that was read names seats where it should -/
  readShaped : ∀ e ∈ s.trace, ∀ row, rowRead e.line = some row → row.order.Shaped
  /-- and so does an order that was listed -/
  listedShaped : ∀ e ∈ s.trace, ∀ x, Lists e x → x.2.Shaped
  /-- the seats that were read of a booking are some -/
  readSeated : ∀ e ∈ s.trace, ∀ x, ReadsSeats e x → x.2 ≠ []
  /-- a row that was read is right until a cancellation is applied -/
  rows : Undisturbed ReadsRow (fun row e => applies row.id e = true) RowRight s
  /-- and so are seats -/
  seats : Undisturbed ReadsSeats (fun x e => applies x.1 e = true) SeatsRight s
  /-- a listed order is right until one is written back -/
  listed : Undisturbed Lists (fun x e => stores x.1 e = true) ListedRight s
  /-- an order that has been written back agrees with its seats -/
  agrees : ∀ row ∈ s.world.db.bookings.rows, ¬ Unwritten s.trace row.id →
    Agrees s.world.db row.id row.order.seatView

theorem OrdersKept.initial (clock : ℤ) (source : Source) :
    OrdersKept ⟨World.initial clock source, []⟩ :=
  ⟨fun _ h => absurd h List.not_mem_nil, fun _ h => absurd h List.not_mem_nil,
    fun _ h => absurd h List.not_mem_nil, fun _ h => absurd h List.not_mem_nil,
    fun _ h => absurd h List.not_mem_nil, fun _ h => absurd h List.not_mem_nil,
    fun _ h => absurd h List.not_mem_nil, Undisturbed.initial _, Undisturbed.initial _,
    Undisturbed.initial _, fun _ h => absurd h List.not_mem_nil⟩

/-- What happens on its own keeps it. -/
theorem OrdersKept.env (h : OrdersKept s) (hdb : w.db = s.world.db) : OrdersKept ⟨w, s.trace⟩ := by
  obtain ⟨hshaped, hseated, hsettled, hstored, hread, hlisted, hsome, hrows, hseats, hlists,
    hagrees⟩ := h
  refine ⟨?_, ?_, ?_, hstored, hread, hlisted, hsome, hrows.world ?_, hseats.world ?_,
    hlists.world ?_, ?_⟩
  · rwa [← hdb] at hshaped
  · simpa only [hdb] using hseated
  · rwa [← hdb] at hsettled
  · intro row hright
    rwa [RowRight, ← hdb] at hright
  · intro x hright
    rwa [SeatsRight, ← hdb] at hright
  · intro x hright
    rwa [ListedRight, ← hdb] at hright
  · rwa [← hdb] at hagrees

/-! ### What is read -/

/-- An order that is read names seats where it should. -/
theorem OrdersKept.readShaped_cons (h : OrdersKept s)
    (hexec : s.world.exec d process o op = some (w, r)) :
    ∀ e ∈ (⟨i, op, r⟩ : Entry Op Resp) :: s.trace, ∀ row, rowRead e.line = some row →
      row.order.Shaped := by
  intro e he row hread
  rcases List.mem_cons.mp he with rfl | he
  · exact h.shaped row (rowRead_mem hexec hread)
  · exact h.readShaped e he row hread

theorem OrdersKept.listedShaped_cons (h : OrdersKept s)
    (hexec : s.world.exec d process o op = some (w, r)) :
    ∀ e ∈ (⟨i, op, r⟩ : Entry Op Resp) :: s.trace, ∀ x, Lists e x → x.2.Shaped := by
  intro e he x hlists
  rcases List.mem_cons.mp he with rfl | he
  · obtain ⟨-, row, hrow, -, horder⟩ := hlists.stored hexec
    exact horder ▸ h.shaped row hrow
  · exact h.listedShaped e he x hlists

/-- Seats are read of a booking whose row was read just before. -/
theorem ReadsSeats.stored (hreads : Reads s) (hexec : s.world.exec d process o op = some (w, r))
    (hknows : Knows d req (own i s.trace) op) {x : String × List BookingSeatRow}
    (hread : ReadsSeats ⟨i, op, r⟩ x) :
    w = s.world ∧ x.2 = s.world.db.seatsOf x.1 ∧ s.world.db.Exists x.1 := by
  obtain ⟨j, heq⟩ := hread
  cases heq
  obtain ⟨hw, hr⟩ := Prod.mk.inj (Option.some.inj hexec)
  exact ⟨hw.symm, Choice.read_ok hr, hreads.justRead hknows⟩

theorem OrdersKept.readSeated_cons (h : OrdersKept s) (hreads : Reads s)
    (hexec : s.world.exec d process o op = some (w, r))
    (hknows : Knows d req (own i s.trace) op) :
    ∀ e ∈ (⟨i, op, r⟩ : Entry Op Resp) :: s.trace, ∀ x, ReadsSeats e x → x.2 ≠ [] := by
  intro e he x hread
  rcases List.mem_cons.mp he with rfl | he
  · obtain ⟨-, hseats, row, hrow, hid⟩ := hread.stored hreads hexec hknows
    obtain ⟨seat, hseat, hb⟩ := h.seated row hrow
    rw [hseats]
    exact List.ne_nil_of_mem (mem_seatsOf.mpr ⟨hseat, hb.trans hid⟩)
  · exact h.readSeated e he x hread

/-- A row that is read is right, and stays so until a cancellation is applied. -/
theorem OrdersKept.rows_cons (h : OrdersKept s)
    (hexec : s.world.exec d process o op = some (w, r)) :
    Undisturbed ReadsRow (fun row e => applies row.id e = true) RowRight
      ⟨w, ⟨i, op, r⟩ :: s.trace⟩ := by
  refine h.rows.perform ?_ fun row hnot hright => hright.step hexec (Bool.eq_false_iff.mpr hnot)
  rintro row ⟨j, id, heq⟩
  cases heq
  obtain ⟨rfl, hr⟩ := Prod.mk.inj (Option.some.inj hexec)
  have hrow : row ∈ s.world.db.bookings.rows :=
    List.mem_of_find?_eq_some (Choice.read_ok hr).symm
  exact ⟨⟨row, hrow, rfl⟩, h.settled row hrow⟩

theorem OrdersKept.seats_cons (h : OrdersKept s) (hreads : Reads s)
    (hexec : s.world.exec d process o op = some (w, r))
    (hknows : Knows d req (own i s.trace) op) :
    Undisturbed ReadsSeats (fun x e => applies x.1 e = true) SeatsRight
      ⟨w, ⟨i, op, r⟩ :: s.trace⟩ := by
  refine h.seats.perform (fun x hread => ?_) fun x hnot hright =>
    hright.step hexec (Bool.eq_false_iff.mpr hnot)
  obtain ⟨rfl, hseats, hexists⟩ := hread.stored hreads hexec hknows
  refine ⟨hexists, ?_⟩
  rw [hseats]
  exact seatsAre_seatsOf s.world.db x.1

/-! ### What is written -/

/-- Only who cancelled writes an order back. -/
theorem OrdersKept.stored_cons (h : OrdersKept s) (hreads : Reads s)
    (hknows : Knows d req (own i s.trace) op) :
    ∀ e ∈ (⟨i, op, r⟩ : Entry Op Resp) :: s.trace, ∀ bookingId, stores bookingId e = true →
      ∃ e' ∈ (⟨i, op, r⟩ : Entry Op Resp) :: s.trace, e'.task = e.task ∧
        applies bookingId e' = true := by
  intro e he bookingId hstores
  rcases List.mem_cons.mp he with rfl | he
  · obtain ⟨j, order, heq⟩ := stores_iff.mp hstores
    cases heq
    obtain ⟨run, rfl, -⟩ := hknows
    refine ⟨_, List.mem_cons_of_mem _ (mem_own.mp run.applied), rfl, decide_eq_true ?_⟩
    exact (hreads.byId _ _ _ (mem_own.mp run.reread)).symm
  · obtain ⟨e', he', htask, happlies⟩ := h.stored e he bookingId hstores
    exact ⟨e', List.mem_cons_of_mem _ he', htask, happlies⟩

/-- A cancellation that is applied now has yet to be written back. -/
theorem OrdersKept.unwritten_of_applies (h : OrdersKept s)
    (hknows : Knows d req (own i s.trace) op) (happlies : applies bookingId ⟨i, op, r⟩ = true) :
    Unwritten (⟨i, op, r⟩ :: s.trace) bookingId := by
  refine Unwritten.apply happlies fun e he htask => ?_
  obtain ⟨j, params, heq, -⟩ := applies_iff.mp happlies
  cases heq
  rcases List.mem_cons.mp he with rfl | he
  · rfl
  · -- who writes back has applied a cancellation before
    refine Bool.eq_false_iff.mpr fun hstores => ?_
    obtain ⟨e', he', htask', happlied⟩ := h.stored e he bookingId hstores
    obtain ⟨j, params', rfl, -⟩ := applies_iff.mp happlied
    obtain rfl := htask'.trans htask
    obtain ⟨run, -⟩ := hknows
    have hown : (⟨.transaction (.applyCancellation params'), .ok ()⟩ : Line Op Resp) ∈
        own _ s.trace := mem_own.mpr he'
    exact run.unapplied _ hown params' rfl

/-- What was listed last by a task, nothing of that task was done since. -/
theorem SweepRun.split {stale : List (String × Order)} (run : SweepRun d stale (own i s.trace)) :
    ∃ later e earlier, s.trace = later ++ e :: earlier ∧ (∀ x ∈ stale, Lists e x) ∧
      since (listsBy i) s.trace = later := by
  obtain ⟨later, earlier, htrace, -, hlater⟩ := own_eq_cons run.lines
  refine ⟨later, _, earlier, htrace, fun x hx => ⟨i, _, stale, rfl, hx⟩, ?_⟩
  rw [htrace]
  refine since_append (fun e he => ?_) (decide_eq_true rfl) earlier
  unfold listsBy
  split
  · exact decide_eq_false (hlater _ he)
  · rfl

/-- A transaction that does not write an order back leaves what it says of its seats. -/
theorem OrdersKept.view_kept (h : OrdersKept s) (hknows : Knows d req (own i s.trace) (.transaction t))
    (hallow : InStep s (.perform i req (.transaction t))) {row row' : BookingRow}
    (hmove : BookingMove t row row') (hrow : row ∈ s.world.db.bookings.rows)
    (hnot : stores row.id ⟨i, .transaction t, .ok a⟩ = false) :
    Unwritten s.trace row.id ∨ row'.order.seatView = row.order.seatView := by
  cases hmove with
  | stay => exact .inr rfl
  | settle _ _ _ _ _ => exact .inr rfl
  | store order ht =>
    subst ht
    exact absurd (hnot.symm.trans (decide_eq_true rfl)) Bool.false_ne_true
  | redact stale order order' ht hmem hredact =>
    subst ht
    obtain ⟨run⟩ := hknows
    obtain ⟨later, e, earlier, htrace, hlists, hsince⟩ := run.split
    rcases hallow row.id (List.mem_map_of_mem hmem) with hun | hnone
    · exact .inl hun
    · -- the order that was listed still says what the stored one does
      rw [hsince] at hnone
      have hright := h.listed later e earlier (row.id, order) htrace (hlists _ hmem)
        fun e' he' => Bool.eq_false_iff.mp (hnone e' he')
      rcases hright with hun | ⟨stored, hstored, hid, hview⟩
      · exact .inl hun
      · obtain rfl := s.world.db.booking_unique hstored hrow hid
        exact .inr ((Order.seatView_withoutManifestNames hredact).trans hview.symm)

/-- An order that was listed stays right until one is written back. -/
theorem ListedRight.step (h : OrdersKept s) (hknows : Knows d req (own i s.trace) op)
    (hallow : InStep s (.perform i req op)) (hexec : s.world.exec d process o op = some (w, r))
    {x : String × Order} (hnot : stores x.1 ⟨i, op, r⟩ = false) (hright : ListedRight x s) :
    ListedRight x ⟨w, ⟨i, op, r⟩ :: s.trace⟩ := by
  by_cases happlies : applies x.1 ⟨i, op, r⟩ = true
  · exact .inl (h.unwritten_of_applies hknows happlies)
  rw [Bool.not_eq_true] at happlies
  rcases hright with hun | ⟨row, hrow, hid, hview⟩
  · exact .inl ((unwritten_cons happlies hnot).mpr hun)
  rcases World.exec_db hexec with ⟨hdb, -⟩ | ⟨t, a, heq, hrun⟩
  · refine .inr ⟨row, ?_, hid, hview⟩
    rwa [hdb]
  · cases heq
    obtain ⟨g, new, hmoved⟩ := Transaction.bookings_moved hrun
    have hmove := hmoved.moves row
    rcases h.view_kept hknows hallow hmove hrow (hid ▸ hnot) with hun | hsame
    · exact .inl ((unwritten_cons happlies hnot).mpr (hid ▸ hun))
    · refine .inr ⟨g row, ?_, hmove.same.id.trans hid, hsame.trans hview⟩
      rw [hmoved.rows]
      exact List.mem_append_left _ (List.mem_map_of_mem hrow)

theorem OrdersKept.listed_cons (h : OrdersKept s) (hknows : Knows d req (own i s.trace) op)
    (hallow : InStep s (.perform i req op)) (hexec : s.world.exec d process o op = some (w, r)) :
    Undisturbed Lists (fun x e => stores x.1 e = true) ListedRight
      ⟨w, ⟨i, op, r⟩ :: s.trace⟩ := by
  refine h.listed.perform (fun x hlists => ?_) fun x hnot hright =>
    hright.step h hknows hallow hexec (Bool.eq_false_iff.mpr hnot)
  obtain ⟨rfl, row, hrow, hid, horder⟩ := hlists.stored hexec
  exact .inr ⟨row, hrow, hid, congrArg Order.seatView horder⟩

/-- What a cancellation reads before it writes back: the row, then the seats, and in between and
since then nothing of its own. -/
theorem RewriteRun.split (run : RewriteRun d req (own i s.trace)) :
    ∃ later later' earlier,
      s.trace = later ++ ⟨i, .bookingSeats run.row.id, .ok run.seats⟩ ::
        (later' ++ ⟨i, .bookingById run.cancel.params.bookingId, .ok (some run.row)⟩ :: earlier) ∧
      (∀ e ∈ later, e.task ≠ i) ∧ ∀ e ∈ later', e.task ≠ i := by
  obtain ⟨later, rest, htrace, hown, hlater⟩ := own_eq_cons run.lines
  obtain ⟨later', earlier, hrest, -, hlater'⟩ := own_eq_cons hown
  exact ⟨later, later', earlier, htrace.trans (congrArg (fun rest => later ++ _ :: rest) hrest),
    hlater, hlater'⟩

/-- **What is written back agrees** with the seats, if it is the last cancellation that is. -/
theorem OrdersKept.written (h : OrdersKept s) (run : RewriteRun d req (own i s.trace))
    (hallow : Unwritten s.trace run.row.id ∨
      ∀ e ∈ since (readsRowBy i) s.trace, applies run.row.id e = false)
    {order : Order} {r : Resp (.transaction (.updateStoredOrder run.row.id order))}
    (hwritten : ¬ Unwritten (⟨i, .transaction (.updateStoredOrder run.row.id order), r⟩ :: s.trace)
      run.row.id) :
    Agrees s.world.db run.row.id (cancelledOrder { run.row with seats := run.seats }).seatView := by
  obtain ⟨later, later', earlier, htrace, hlater, hlater'⟩ := run.split
  generalize hread : (⟨i, .bookingById run.cancel.params.bookingId, .ok (some run.row)⟩ :
    Entry Op Resp) = eᵣ at htrace
  generalize hseat : (⟨i, .bookingSeats run.row.id, .ok run.seats⟩ : Entry Op Resp) = eₛ at htrace
  have hsplit : s.trace = (later ++ eₛ :: later') ++ eᵣ :: earlier := by
    rw [htrace, List.append_assoc, List.cons_append]
  have hown : ∀ e ∈ later ++ eₛ :: later', e.task = i → e = eₛ := by
    intro e he htask
    rcases List.mem_append.mp he with he | he
    · exact absurd htask (hlater e he)
    · exact (List.mem_cons.mp he).resolve_right fun he => hlater' e he htask
  have happly : applies run.row.id eₛ = false := by
    rw [← hseat]
    rfl
  have hnone : ∀ e ∈ later ++ eₛ :: later', applies run.row.id e = false := by
    by_cases hun : Unwritten s.trace run.row.id
    · refine hun.last_seen hsplit rfl hwritten fun e he htask => ?_
      rw [hown e he htask]
      exact happly
    · have hsince : since (readsRowBy i) s.trace = later ++ eₛ :: later' := by
        rw [hsplit]
        refine since_append (fun e he => ?_) ?_ earlier
        · by_cases htask : e.task = i
          · rw [hown e he htask, ← hseat]
            rfl
          · unfold readsRowBy
            split
            · exact decide_eq_false htask
            · rfl
        · rw [← hread]
          exact decide_eq_true rfl
      rw [← hsince]
      exact hallow.resolve_left hun
  have hmemᵣ : eᵣ ∈ s.trace := by
    rw [hsplit]
    exact List.mem_append_right _ (List.mem_cons_self ..)
  have hmemₛ : eₛ ∈ s.trace := by
    rw [htrace]
    exact List.mem_append_right _ (List.mem_cons_self ..)
  have hrow := h.rows _ eᵣ _ run.row hsplit ⟨i, _, hread.symm⟩
    fun e he => Bool.eq_false_iff.mp (hnone e he)
  have hseats := h.seats later eₛ _ (run.row.id, run.seats) htrace ⟨i, hseat.symm⟩
    fun e he => Bool.eq_false_iff.mp (hnone e (List.mem_append_left _ he))
  have hshaped : run.row.order.Shaped := by
    refine h.readShaped eᵣ hmemᵣ run.row ?_
    rw [← hread]
    rfl
  have hseated := h.readSeated eₛ hmemₛ (run.row.id, run.seats) ⟨i, hseat.symm⟩
  have hview : CancelledView { run.row with seats := run.seats } _ :=
    cancelledOrder_seatView hshaped hseated
  exact agrees_of_cancelledView hview hrow.2 hseats.2

/-! ### A new booking -/

/-- The seats of a new booking are the ones it was made with, all of them confirmed. -/
theorem HoldBooked.seatIs {params : ConfirmBooking} {db db' : ReservedDb}
    (h : HoldBooked params db db') (hlinked : Linked db) {seatId : String}
    {status : BookingStatus} : db'.SeatIs params.orderId seatId status ↔
      status = .confirmed ∧ seatId ∈ params.seats.map NewSeat.seatId := by
  constructor
  · rintro ⟨seat, hseat, hb, rfl, rfl⟩
    rw [h.seats] at hseat
    rcases List.mem_append.mp hseat with hseat | hseat
    · obtain ⟨row, hrow, hid⟩ := hlinked.seated seat hseat
      exact absurd (hid.trans hb) (h.fresh row hrow)
    · obtain ⟨new, hnew, rfl⟩ := List.mem_map.mp hseat
      exact ⟨rfl, List.mem_map_of_mem hnew⟩
  · rintro ⟨rfl, hseatId⟩
    obtain ⟨new, hnew, rfl⟩ := List.mem_map.mp hseatId
    have hrow : _ ∈ params.seatRows := List.mem_map_of_mem hnew
    have hmem := List.mem_append_right db.bookingSeats.rows hrow
    rw [← h.seats] at hmem
    exact ⟨_, hmem, rfl, rfl, rfl⟩

/-- What a confirm sells is in order. -/
structure Made (params : ConfirmBooking) (db' : ReservedDb) : Prop where
  /-- its order names seats where it should -/
  shaped : params.order.Shaped
  /-- it has seats -/
  seated : ∃ seat ∈ db'.bookingSeats.rows, seat.bookingId = params.orderId
  /-- its status is that of its seats -/
  settled : Settles db' params.orderId .confirmed
  /-- and its order agrees with them -/
  agrees : Agrees db' params.orderId params.order.seatView

theorem ConfirmRun.made {db' : ReservedDb} (hlinked : Linked s.world.db) (hreads : Reads s)
    (run : ConfirmRun d req (own i s.trace)) {u : Unit}
    (hrun : confirmBooking run.params s.world.db = .ok (u, db')) : Made run.params db' := by
  have hbooked := confirmBooking_ok hrun
  have hrecords := hreads.records_ne_nil run
  have hids : run.params.seats.map NewSeat.seatId = run.records.map ManifestRecord.seatId := by
    rw [ConfirmRun.params, newBooking, List.map_map]
    rfl
  have hseatIs : ∀ seatId status, db'.SeatIs run.params.orderId seatId status ↔
      status = .confirmed ∧ seatId ∈ run.records.map ManifestRecord.seatId := by
    intro seatId status
    rw [hbooked.seatIs hlinked, hids]
  -- some seat is confirmed
  obtain ⟨record, hrecord⟩ := List.exists_mem_of_ne_nil _ hrecords
  have hsome : db'.SeatIs run.params.orderId record.seatId .confirmed :=
    (hseatIs _ _).mpr ⟨rfl, List.mem_map_of_mem hrecord⟩
  have hrendered := renderOrder_ok run.render
  have hseats : (bookedOrder run.resolved run.pair run.cell (identityOf run.context) run.records
      run.input run.nowMs run.orderId run.reference).seatIds ≠ [] :=
    List.map_eq_nil_iff.not.mpr hrecords
  refine ⟨hrendered.shaped hseats, ?_, ?_, ?_⟩
  · obtain ⟨seat, hseat, hb, -⟩ := hsome
    exact ⟨seat, hseat, hb⟩
  · exact ⟨fun h => BookingStatus.noConfusion h, fun hnone => absurd hsome (hnone _)⟩
  · have hview : run.params.order.seatView = _ := hrendered.seatView hseats
    rw [hview]
    refine ⟨⟨fun h => ?_, fun hnone => absurd hsome (hnone _)⟩, fun seatId => ?_,
      fun seatId => ?_, fun seatId _ hcan => ?_⟩
    · cases h
    · rw [hseatIs]
      exact ⟨fun h => ⟨rfl, h⟩, fun h => h.2⟩
    · rw [hseatIs]
      exact ⟨fun h => absurd h List.not_mem_nil, fun h => by cases h.1⟩
    · cases ((hseatIs _ _).mp hcan).1

/-! ### One operation -/

/-- The status of a booking after a transaction is that of its seats. -/
theorem OrdersKept.settled_kept (h : OrdersKept s)
    (hexec : s.world.exec d process o (.transaction t) = some (w, .ok a))
    (hrun : t.run o.id s.world.db = .ok (a, w.db)) {row row' : BookingRow}
    (hmove : BookingMove t row row') (hrow : row ∈ s.world.db.bookings.rows)
    (hrow' : row' ∈ w.db.bookings.rows) : Settles w.db row'.id row'.status := by
  by_cases happlied : ∃ params, t = .applyCancellation params ∧ row.id = params.bookingId
  · obtain ⟨params, rfl, hid⟩ := happlied
    exact (applyCancellation_ok hrun).settles hrow' (hmove.same.id.trans hid)
  · have hnot : applies row.id (⟨0, .transaction t, .ok a⟩ : Entry Op Resp) = false := by
      refine Bool.eq_false_iff.mpr fun happlies => ?_
      obtain ⟨_, params, heq, hid⟩ := applies_iff.mp happlies
      cases heq
      exact happlied ⟨params, rfl, hid.symm⟩
    have hstatus : row'.status = row.status := by
      cases hmove with
      | settle params _ _ ht hid => exact absurd ⟨params, ht, hid⟩ happlied
      | _ => rfl
    rw [hstatus, hmove.same.id]
    refine (h.settled row hrow).trans ?_
    simp only [seats_kept hexec hnot ⟨row, hrow, rfl⟩]

/-- An order a transaction writes names seats where it should. -/
theorem OrdersKept.shaped_kept (h : OrdersKept s)
    (hknows : Knows d req (own i s.trace) (.transaction t)) {row row' : BookingRow}
    (hmove : BookingMove t row row') (hrow : row ∈ s.world.db.bookings.rows) :
    row'.order.Shaped := by
  cases hmove with
  | stay => exact h.shaped row hrow
  | settle _ _ _ _ _ => exact h.shaped row hrow
  | store order ht =>
    subst ht
    obtain ⟨run, -, rfl⟩ := hknows
    have hshaped := h.readShaped _ (mem_own.mp run.reread) run.row rfl
    have hseated := h.readSeated _ (mem_own.mp run.seatsRead) (run.row.id, run.seats) ⟨i, rfl⟩
    let read : BookingRecord := { run.row with seats := run.seats }
    have hread : read.order.Shaped := hshaped
    exact hread.cancelledOrder hseated
  | redact stale order order' ht hmem hredact =>
    subst ht
    obtain ⟨run⟩ := hknows
    have hlisted := h.listedShaped _ (mem_own.mp run.listed) (row.id, order) ⟨i, _, stale, rfl, hmem⟩
    exact hlisted.withoutManifestNames hredact

/-- An order that has been written back agrees with its seats after a transaction. -/
theorem OrdersKept.agrees_kept (h : OrdersKept s)
    (hknows : Knows d req (own i s.trace) (.transaction t))
    (hallow : InStep s (.perform i req (.transaction t)))
    (hexec : s.world.exec d process o (.transaction t) = some (w, .ok a))
    (hrun : t.run o.id s.world.db = .ok (a, w.db)) {row row' : BookingRow}
    (hmove : BookingMove t row row') (hrow : row ∈ s.world.db.bookings.rows)
    (hrow' : row' ∈ w.db.bookings.rows)
    (hwritten : ¬ Unwritten (⟨i, .transaction t, .ok a⟩ :: s.trace) row.id) :
    Agrees w.db row.id row'.order.seatView := by
  by_cases happlies : applies row.id ⟨i, .transaction t, .ok a⟩ = true
  · exact absurd (h.unwritten_of_applies hknows happlies) hwritten
  rw [Bool.not_eq_true] at happlies
  refine Agrees.congr ?_ (seats_kept hexec happlies ⟨row, hrow, rfl⟩)
  by_cases hstores : stores row.id ⟨i, .transaction t, .ok a⟩ = true
  · -- it is written back now
    obtain ⟨_, order, heq⟩ := stores_iff.mp hstores
    cases heq
    obtain ⟨run, hid, rfl⟩ := hknows
    rw [(updateStoredOrder_ok hrun).order_eq hrow' hmove.same.id]
    rw [hid] at hwritten hallow ⊢
    exact h.written run hallow hwritten
  · rw [Bool.not_eq_true] at hstores
    have hbefore : ¬ Unwritten s.trace row.id :=
      fun hun => hwritten ((unwritten_cons happlies hstores).mpr hun)
    have hview := (h.view_kept hknows hallow hmove hrow hstores).resolve_left hbefore
    rw [hview]
    exact h.agrees row hrow hbefore

/-- What a transaction leaves of the bookings. -/
theorem OrdersKept.booking (h : OrdersKept s) (hbase : Base s) (hreads : Reads s)
    (hknows : Knows d req (own i s.trace) (.transaction t))
    (hallow : InStep s (.perform i req (.transaction t)))
    (hexec : s.world.exec d process o (.transaction t) = some (w, .ok a))
    (hrun : t.run o.id s.world.db = .ok (a, w.db)) {row' : BookingRow}
    (hrow' : row' ∈ w.db.bookings.rows) :
    row'.order.Shaped ∧ (∃ seat ∈ w.db.bookingSeats.rows, seat.bookingId = row'.id) ∧
      Settles w.db row'.id row'.status ∧
        (¬ Unwritten (⟨i, .transaction t, .ok a⟩ :: s.trace) row'.id →
          Agrees w.db row'.id row'.order.seatView) := by
  obtain ⟨g, new, hmoved⟩ := Transaction.bookings_moved hrun
  have hmem := hrow'
  rw [hmoved.rows] at hmem
  rcases List.mem_append.mp hmem with hmem | hmem
  · obtain ⟨row, hrow, rfl⟩ := List.mem_map.mp hmem
    have hmove := hmoved.moves row
    refine ⟨h.shaped_kept hknows hmove hrow, ?_, h.settled_kept hexec hrun hmove hrow hrow', ?_⟩
    · obtain ⟨seat, hseat, hb⟩ := h.seated row hrow
      obtain ⟨seat', hseat', hsame⟩ := seat_stays hrun ⟨seat, hseat, .refl seat⟩
      exact ⟨seat', hseat', hsame.bookingId.trans (hb.trans hmove.same.id.symm)⟩
    · rw [hmove.same.id]
      exact h.agrees_kept hknows hallow hexec hrun hmove hrow hrow'
  · rw [hmoved.new] at hmem
    cases t with
    | confirmBooking params =>
      obtain rfl := List.mem_singleton.mp hmem
      obtain ⟨run, rfl⟩ := hknows
      have hmade := run.made hbase.store.linked hreads hrun
      exact ⟨hmade.shaped, hmade.seated, hmade.settled, fun _ => hmade.agrees⟩
    | _ => cases hmem

/-- An operation keeps it. -/
theorem OrdersKept.perform (h : OrdersKept s) (hbase : Base s) (hreads : Reads s)
    (hallow : InStep s (.perform i req op)) (hknows : Knows d req (own i s.trace) op)
    (hdoes : Does (provider d) i req op s r s') : OrdersKept s' := by
  obtain ⟨o, w, hexec, rfl⟩ := hdoes
  have hbooking : ∀ row ∈ w.db.bookings.rows, row.order.Shaped ∧
      (∃ seat ∈ w.db.bookingSeats.rows, seat.bookingId = row.id) ∧
        Settles w.db row.id row.status ∧ (¬ Unwritten (⟨i, op, r⟩ :: s.trace) row.id →
          Agrees w.db row.id row.order.seatView) := by
    intro row hrow
    rcases World.exec_db hexec with ⟨hdb, hnot⟩ | ⟨t, a, heq, hrun⟩
    · -- nothing is committed
      have happlies : applies row.id (⟨i, op, r⟩ : Entry Op Resp) = false := by
        refine Bool.eq_false_iff.mpr fun happlies => ?_
        obtain ⟨_, _, heq, -⟩ := applies_iff.mp happlies
        exact hnot _ _ (congrArg Entry.line heq)
      have hstores : stores row.id (⟨i, op, r⟩ : Entry Op Resp) = false := by
        refine Bool.eq_false_iff.mpr fun hstores => ?_
        obtain ⟨_, _, heq⟩ := stores_iff.mp hstores
        exact hnot _ _ (congrArg Entry.line heq)
      rw [hdb] at hrow ⊢
      rw [unwritten_cons happlies hstores]
      exact ⟨h.shaped row hrow, h.seated row hrow, h.settled row hrow, h.agrees row hrow⟩
    · cases heq
      have hcommits : s.world.exec d req.process o (.transaction t) = some (w, .ok a) := hexec
      exact h.booking hbase hreads hknows hallow hcommits hrun hrow
  exact ⟨fun row hrow => (hbooking row hrow).1, fun row hrow => (hbooking row hrow).2.1,
    fun row hrow => (hbooking row hrow).2.2.1, h.stored_cons hreads hknows,
    h.readShaped_cons hexec, h.listedShaped_cons hexec, h.readSeated_cons hreads hexec hknows,
    h.rows_cons hexec, h.seats_cons hreads hexec hknows, h.listed_cons hknows hallow hexec,
    fun row hrow => (hbooking row hrow).2.2.2⟩

/-! ## Every state -/

/-- **The stored order agrees with the seat rows** in every state of a run where nobody writes back
what has been overtaken, once the last cancellation to commit has been written back. -/
theorem stored_order_agrees {clock : ℤ} {source : Source} {c : Pool}
    (h : Reach (provider d) InStep ⟨⟨World.initial clock source, []⟩, []⟩ c) {row : BookingRow}
    (hrow : row ∈ c.hist.world.db.bookings.rows)
    (hwritten : ¬ Unwritten c.hist.trace row.id) :
    Agrees c.hist.world.db row.id row.order.seatView := by
  obtain ⟨-, -, hkept⟩ := run_keeps OrdersKept (OrdersKept.initial clock source)
    (fun hbase hreads hinv hallow hknows hdoes => hinv.perform hbase hreads hallow hknows hdoes)
    (fun hinv hdb _ => hinv.env hdb) h
  exact hkept.agrees row hrow hwritten

/-- Two commitments on one booking, of seat 1 and of seat 2, each with a quote of its own. -/
def twoCommitments : List (Event Request Choice Happening) :=
  specimenSale ++ specimenQuote ["1"] ++
    [.start (specimenSoftCancel "T1" specimenOrderId ["2"])] ++ steps 3 4 "q2" ++
    [.start (specimenCancel "T1" specimenOrderId ["1"] "RFQ-KSRTC-Q1"),
      .start (specimenCancel "T1" specimenOrderId ["2"] "RFQ-KSRTC-Q2")]

/-- One after the other they leave an order without a confirmed seat. -/
theorem stored_order_agrees_specimen : ∃ (c : Pool) (row : BookingRow),
    Reach (provider specimenDeployment) InStep specimenStart c ∧
    row ∈ c.hist.world.db.bookings.rows ∧ row.order.seatView.cancelled = ["1", "2"] ∧
    Agrees c.hist.world.db row.id row.order.seatView := by
  have hrun : (specimenStart.follow (provider specimenDeployment)
      (fun s m => decide (InStep s m)) (twoCommitments ++ steps 4 9 "" ++ steps 5 9 "")).bind
        (fun c => c.hist.world.db.bookings.rows.head?.map fun row =>
          (row.order.seatView.cancelled, decide (Unwritten c.hist.trace row.id))) =
      some (["1", "2"], false) := by
    decide +kernel
  obtain ⟨c, hfollow, hrest⟩ := Option.bind_eq_some_iff.mp hrun
  obtain ⟨row, hrow, hfacts⟩ := Option.map_eq_some_iff.mp hrest
  obtain ⟨hcancelled, hwritten⟩ := Prod.mk.inj hfacts
  have hreach : Reach (provider specimenDeployment) InStep specimenStart c :=
    (Config.follow_reach .refl hfollow).mono fun s m h => of_decide_eq_true h
  have hmem : row ∈ c.hist.world.db.bookings.rows := List.mem_of_mem_head? hrow
  exact ⟨c, row, hreach, hmem, hcancelled,
    stored_order_agrees hreach hmem (of_decide_eq_false hwritten)⟩

/-- Overlapping, the one that read first writes last: nobody fails, nobody is still running, and
the order lists seat 2 though it is cancelled. -/
theorem stored_order_overtaken : ∃ (c : Pool) (row : BookingRow),
    Reach (provider specimenDeployment) (fun _ _ => True) specimenStart c ∧
    (∀ i ∈ List.range 6, (c.answer i).isSome = true) ∧ row ∈ c.hist.world.db.bookings.rows ∧
    ¬ Unwritten c.hist.trace row.id ∧ ¬ Agrees c.hist.world.db row.id row.order.seatView := by
  have hrun : (specimenStart.follow (provider specimenDeployment) (fun _ _ => true)
      (twoCommitments ++ steps 4 7 "" ++ steps 5 9 "" ++ steps 4 2 "")).bind
        (fun c => c.hist.world.db.bookings.rows.head?.map fun row =>
          (decide (∀ i ∈ List.range 6, (c.answer i).isSome = true),
            decide (Unwritten c.hist.trace row.id), row.order.seatView.seats,
            c.hist.world.db.bookingSeats.rows.all fun seat => seat.status = .cancelled)) =
      some (true, false, ["2"], true) := by
    decide +kernel
  obtain ⟨c, hfollow, hrest⟩ := Option.bind_eq_some_iff.mp hrun
  obtain ⟨row, hrow, hfacts⟩ := Option.map_eq_some_iff.mp hrest
  obtain ⟨hanswers, hfacts⟩ := Prod.mk.inj hfacts
  obtain ⟨hwritten, hfacts⟩ := Prod.mk.inj hfacts
  obtain ⟨hseats, hcancelled⟩ := Prod.mk.inj hfacts
  have hreach : Reach (provider specimenDeployment) (fun _ _ => True) specimenStart c :=
    (Config.follow_reach .refl hfollow).mono fun _ _ _ => trivial
  refine ⟨c, row, hreach, of_decide_eq_true hanswers, List.mem_of_mem_head? hrow,
    of_decide_eq_false hwritten, fun hagrees => ?_⟩
  -- a seat the order lists would be confirmed
  obtain ⟨seat, hseat, -, -, hconfirmed⟩ := (hagrees.seats "2").mp (by rw [hseats]; decide)
  have hstatus := of_decide_eq_true (List.all_eq_true.mp hcancelled seat hseat)
  rw [hstatus] at hconfirmed
  cases hconfirmed

end TransitBpp
