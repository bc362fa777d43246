import TransitBpp.Circulation
import TransitBpp.InFlight

/-!
# One booking, one answer

Confirms of one transaction, however many, at whatever processes, and however they meet: each that
succeeds answers with the booking of the transaction, of which there is one. A confirm comes to it in
three ways, by reading it, by making it and reading it back, and by waiting for a confirm of the same
process that does one of the two: `Found` is the first two, and `Handed` what a run keeps of the
third. A confirm that is refused, though nothing is wrong with its request and no read of it fails,
has looked for the booking before there was one.
-/

namespace TransitBpp

open Interleave Js

variable {d : Deployment} {req : Request} {s s' : History} {jr jr' : Journal} {key : ConfirmationKey}
variable {context : ReservedContext} {input : OrderInput} {row : BookingRow} {i : ℕ} {op : Op}
variable {r : Resp op}

/-! ## What a confirm knows -/

/-- The key of a confirm. -/
def confirmationKey (d : Deployment) (context : ReservedContext) : ConfirmationKey :=
  (d.operatorKey, identityOf context)

/-- How a request has come by the row of its transaction's booking. -/
inductive Found (d : Deployment) (key : ConfirmationKey) (row : BookingRow) (jr : Journal) : Prop where
  /-- it looked for it -/
  | existing (hread : (⟨.bookingByTransaction key.1 key.2, .ok (some row)⟩ : Line Op Resp) ∈ jr) :
      Found d key row jr
  /-- it made it, and read it back -/
  | made (params : ConfirmBooking) (hoperator : params.operator = key.1)
      (hidentity : params.identity = key.2) (hnamed : BookingNamed d params.orderId params.reference)
      (hbooked : (⟨.transaction (.confirmBooking params), .ok ()⟩ : Line Op Resp) ∈ jr)
      (hread : (⟨.bookingByReference key.1 key.2.bapId key.2.bapUri params.orderId, .ok (some row)⟩ :
        Line Op Resp) ∈ jr) : Found d key row jr

/-- How a request has come by what it answers a confirm with: itself, or from another. -/
inductive Learned (d : Deployment) (key : ConfirmationKey) (row : BookingRow) (jr : Journal) :
    Prop where
  /-- itself -/
  | found (h : Found d key row jr) : Learned d key row jr
  /-- it waited for a confirm of its process -/
  | awaited (promise : ℕ) (booking : BookingRecord) (hbooking : booking.toBookingRow = row)
      (hjoined : (⟨.enterConfirmation key, .joined promise⟩ : Line Op Resp) ∈ jr)
      (hawaited : (⟨.awaitConfirmation promise, .ok booking⟩ : Line Op Resp) ∈ jr) :
      Learned d key row jr

theorem Found.later (h : Found d key row jr) (hs : jr <:+ jr') : Found d key row jr' := by
  cases h with
  | existing hread => exact .existing (hs.subset hread)
  | made params hoperator hidentity hnamed hbooked hread =>
    exact .made params hoperator hidentity hnamed (hs.subset hbooked) (hs.subset hread)

/-- What a request settles a confirmation with is its transaction's booking. -/
def HandsOver (d : Deployment) (jr : Journal) : Op → Prop
  | .transaction (.confirmBooking params) => BookingNamed d params.orderId params.reference
  | .settleConfirmation promise (.ok booking) => ∃ key,
    (⟨.enterConfirmation key, .created promise⟩ : Line Op Resp) ∈ jr ∧
      Found d key booking.toBookingRow jr
  | _ => True

/-- An operation that neither makes a booking nor settles a confirmation. -/
def Plain (op : Op) : Prop := Incidental op ∧ ¬ Confirming op

instance : Broad Plain := ⟨fun _ h h' => ⟨h, h'⟩⟩

theorem Plain.handsOver (h : Plain op) : HandsOver d jr op := by
  unfold HandsOver
  split
  · exact h.1.elim
  · exact absurd trivial h.2
  · trivial

/-- Work that is all plain. -/
theorem acts_hands {α : Type} {x : Act α} (h : Handler.Acts Plain x) :
    Handler.Journal (HandsOver d) (fun _ _ => True) (fun _ _ => True) x jr := by
  refine h.journal (fun _ _ hop => hop.handsOver) ?_
  rintro (e | a) jr' <;> trivial

/-- Looking for the booking of a transaction failed. -/
def LookFailed (key : ConfirmationKey) (jr : Journal) : Prop :=
  (∃ e, (⟨.bookingByTransaction key.1 key.2, .error e⟩ : Line Op Resp) ∈ jr) ∨
    ∃ bookingId e, (⟨.bookingSeats bookingId, .error e⟩ : Line Op Resp) ∈ jr

/-- Why a confirm fails though nothing is wrong with its request: there was no booking of its
transaction when it looked, or looking failed. -/
def Early (key : ConfirmationKey) (jr : Journal) : Prop :=
  (⟨.bookingByTransaction key.1 key.2, .ok none⟩ : Line Op Resp) ∈ jr ∨ LookFailed key jr

theorem Early.later (h : Early key jr) (hs : jr <:+ jr') : Early key jr' := by
  rcases h with h | ⟨e, h⟩ | ⟨bookingId, e, h⟩
  · exact .inl (hs.subset h)
  · exact .inr (.inl ⟨e, hs.subset h⟩)
  · exact .inr (.inr ⟨bookingId, e, hs.subset h⟩)

theorem bookingFromRow_finds (row : BookingRow) : Handler.Journal (HandsOver d)
    (fun booking jr' => booking.toBookingRow = row ∧
      jr' = ⟨.bookingSeats row.id, .ok booking.seats⟩ :: jr)
    (fun e jr' => jr' = ⟨.bookingSeats row.id, .error e⟩ :: jr) (bookingFromRow row) jr := by
  rw [bookingFromRow, Handler.journal_bind, journal_attempt]
  refine journal_op.mpr ⟨trivial, ?_⟩
  rintro (e | seats)
  · rfl
  · exact ⟨rfl, rfl⟩

/-- What looking for the booking of a transaction finds. -/
def Looks (d : Deployment) (key : ConfirmationKey) : Option BookingRecord → Journal → Prop
  | none, jr => (⟨.bookingByTransaction key.1 key.2, .ok none⟩ : Line Op Resp) ∈ jr
  | some booking, jr => Found d key booking.toBookingRow jr

theorem findBookingByTransaction_finds (operator : String) (identity : ReservedIdentity) :
    Handler.Journal (HandsOver d) (Looks d (operator, identity))
      (fun _ jr' => Early (operator, identity) jr') (findBookingByTransaction operator identity)
      jr := by
  rw [findBookingByTransaction, bookingFrom, Handler.journal_bind, journal_attempt]
  refine journal_op.mpr ⟨trivial, ?_⟩
  rintro (e | _ | row)
  · exact .inr (.inl ⟨e, by simp⟩)
  · exact List.mem_cons_self ..
  · rw [ends_ok, Handler.journal_bind]
    refine (bookingFromRow_finds row).mono (fun _ _ _ hop => hop) ?_ ?_
    · rintro booking jr₁ - ⟨rfl, rfl⟩
      exact .existing (by simp)
    · rintro e jr₁ - rfl
      exact .inr (.inr ⟨row.id, e, by simp⟩)

theorem findBooking_finds {params : ConfirmBooking} (hoperator : params.operator = key.1)
    (hidentity : params.identity = key.2) (hnamed : BookingNamed d params.orderId params.reference)
    (hbooked : (⟨.transaction (.confirmBooking params), .ok ()⟩ : Line Op Resp) ∈ jr) :
    Handler.Journal (HandsOver d) (fun found jr' => ∀ booking, found = some booking →
        Found d key booking.toBookingRow jr') (fun _ _ => True)
      (findBooking params.operator params.identity.bapId params.identity.bapUri params.orderId)
      jr := by
  rw [findBooking, bookingFrom, Handler.journal_bind, journal_attempt]
  refine journal_op.mpr ⟨trivial, ?_⟩
  rintro (e | _ | row)
  · trivial
  · exact fun booking h => by cases h
  · rw [ends_ok, Handler.journal_bind]
    refine (bookingFromRow_finds row).mono (fun _ _ _ hop => hop) ?_ fun _ _ _ _ => trivial
    rintro booking jr₁ - ⟨rfl, rfl⟩ booking' h
    obtain rfl := Option.some.inj h
    refine .made params hoperator hidentity hnamed (by simp [hbooked]) ?_
    rw [← hoperator, ← hidentity]
    simp

theorem commitBooking_finds {params : ConfirmBooking} (hoperator : params.operator = key.1)
    (hidentity : params.identity = key.2) (hnamed : BookingNamed d params.orderId params.reference) :
    Handler.Journal (HandsOver d) (fun booking jr' => Found d key booking.toBookingRow jr')
      (fun _ _ => True) (commitBooking params) jr := by
  rw [commitBooking, Handler.journal_bind, Handler.journal_tryCatch, Handler.journal_bind]
  refine journal_transact.mpr ⟨hnamed, fun _ => ?_, fun e => ?_⟩
  · rw [Handler.journal_pure]
    dsimp only
    rw [Handler.journal_bind]
    refine (findBooking_finds hoperator hidentity hnamed (List.mem_cons_self ..)).weaken
      (fun found jr₂ _ hfound => ?_) fun _ _ _ => trivial
    cases found with
    | none => trivial
    | some booking => exact hfound booking rfl
  · rcases e with e | - | message
    · trivial
    · dsimp only
      rw [Handler.journal_bind]
      have hfinds := @findBookingByTransaction_finds d
        (⟨.transaction (.confirmBooking params), .error .unique⟩ :: jr) params.operator params.identity
      refine hfinds.mono (fun _ _ _ hop => hop) (fun found jr₂ _ hfound => ?_) fun _ _ _ _ => trivial
      cases found with
      | none => trivial
      | some booking =>
        have hkey : (params.operator, params.identity) = key := Prod.ext hoperator hidentity
        exact hkey ▸ hfound
    · trivial

theorem confirmNew_finds (context : ReservedContext) (input : OrderInput) :
    Handler.Journal (HandsOver d)
      (fun booking jr' => Found d (confirmationKey d context) booking.toBookingRow jr')
      (fun _ _ => True) (confirmNew d context input) jr := by
  rw [confirmNew, Handler.journal_bind]
  refine (acts_hands (resolveSelection_acts (fun _ => id) input)).weaken (fun resolved jr₁ _ _ => ?_)
    fun _ _ _ => trivial
  rw [Handler.journal_bind]
  refine (acts_hands (liveHoldAndManifest_acts (fun _ => id) resolved _ input)).weaken
    (fun held jr₂ _ _ => ?_) fun _ _ _ => trivial
  rw [Handler.journal_bind, Handler.journal_lift]
  refine ⟨fun pair _ => ?_, fun _ _ => trivial⟩
  rw [Handler.journal_bind, Handler.journal_lift]
  refine ⟨fun cell _ => ?_, fun _ _ => trivial⟩
  rw [Handler.journal_bind, journal_perform]
  refine ⟨trivial, fun nowMs => ?_⟩
  rw [Handler.journal_bind, journal_perform]
  refine ⟨trivial, fun raw => ?_⟩
  rw [Handler.journal_bind]
  refine (acts_hands (buildOrder_acts (fun _ => id) _)).weaken (fun order jr₃ _ _ => ?_)
    fun _ _ _ => trivial
  have hname : '-' ∉ (String.ofList ((usable raw).take 8)).toList := by
    rw [String.toList_ofList]
    exact not_mem_usable raw
  rw [Handler.journal_bind]
  have hfinds := @commitBooking_finds d jr₃ (confirmationKey d context)
  refine (hfinds rfl rfl ⟨_, hname, rfl, rfl⟩).weaken (fun booking jr₄ _ hfound => ?_)
    fun _ _ _ => trivial
  rw [Handler.journal_bind]
  exact journal_perform.mpr ⟨trivial, fun _ => hfound.later (List.suffix_cons _ _)⟩

/-- A confirm is refused for its own sake: it is not addressed to this provider, or not paid. -/
def Refused (d : Deployment) (context : ReservedContext) (input : OrderInput) (e : Failure) : Prop :=
  assertBppAddress d context = .error e ∨ assertPaymentStatus input.payments "PAID" = .error e

theorem confirm_learns (context : ReservedContext) (input : OrderInput) :
    Handler.Journal (HandsOver d)
      (fun answer jr' => ∃ row, answer = .order row.order none [] ∧
        Learned d (confirmationKey d context) row jr')
      (fun e jr' => Refused d context input e ∨ Early (confirmationKey d context) jr')
      (confirm d context input) [] := by
  rw [confirm, Handler.journal_bind, Handler.journal_lift]
  refine ⟨fun _ _ => ?_, fun e he => .inl (.inl he)⟩
  rw [Handler.journal_bind, Handler.journal_lift]
  refine ⟨fun _ _ => ?_, fun e he => .inl (.inr he)⟩
  dsimp only
  rw [Handler.journal_bind]
  refine (findBookingByTransaction_finds _ _).mono (fun _ _ _ hop => hop)
    (fun existing jr₁ _ hfound => ?_) fun e jr₁ _ hearly => .inr hearly
  cases existing with
  | some existing => exact ⟨existing.toBookingRow, rfl, .found hfound⟩
  | none =>
    -- there was none when it looked, which explains all that may go wrong from here on
    have hearly : Early (confirmationKey d context) jr₁ := .inl hfound
    dsimp only
    rw [Handler.journal_bind]
    refine journal_perform.mpr ⟨trivial, ?_⟩
    rintro (promise | promise)
    · dsimp only
      rw [Handler.journal_bind, journal_attempt]
      refine journal_op.mpr ⟨trivial, ?_⟩
      rintro (e | booking)
      · exact .inr (hearly.later ((List.suffix_cons _ _).trans (List.suffix_cons _ _)))
      · exact ⟨booking.toBookingRow, rfl, .awaited promise booking rfl (by simp [confirmationKey])
          (by simp)⟩
    · dsimp only
      rw [Handler.journal_bind, Handler.journal_run]
      have hfiled : (⟨.enterConfirmation (confirmationKey d context), .created promise⟩ :
          Line Op Resp) ∈ (⟨.enterConfirmation (d.operatorKey, identityOf context),
            .created promise⟩ :: jr₁ : Journal) := List.mem_cons_self ..
      refine (confirmNew_finds context input).mono (fun _ _ _ hop => hop)
        (fun booking jr₂ hs hfound => ?_) fun e jr₂ hs _ => ?_
      · refine ⟨⟨_, hs.subset hfiled, hfound⟩, fun _ => ⟨trivial, fun _ => ?_⟩⟩
        refine ⟨booking.toBookingRow, rfl, .found (hfound.later ?_)⟩
        exact (List.suffix_cons _ _).trans (List.suffix_cons _ _)
      · refine ⟨trivial, fun _ => ⟨trivial, fun _ => .inr (hearly.later ?_)⟩⟩
        exact (List.suffix_cons _ _).trans (hs.trans
          ((List.suffix_cons _ _).trans (List.suffix_cons _ _)))

/-- What a confirm has come to when it answers. -/
def ConfirmEnds (d : Deployment) (req : Request) (result : Except Failure Answer) (jr : Journal) :
    Prop :=
  ∀ context input, req.action = .confirm context input →
    (∀ answer, result = .ok answer → ∃ row, answer = .order row.order none [] ∧
      Learned d (confirmationKey d context) row jr) ∧
    ∀ e, result = .error e → Refused d context input e ∨ Early (confirmationKey d context) jr

/-- **Every confirm answers with a booking it has learned of.** -/
theorem handle_learns (req : Request) :
    ((provider d).handler req).Journal (HandsOver d) (ConfirmEnds d req) [] := by
  have hother : (∀ context input, req.action ≠ .confirm context input) →
      Handler.Acts (fun op => (∀ params, op ≠ .transaction (.confirmBooking params)) ∧
        ¬ Confirming op) (handle d req) →
        ((provider d).handler req).Journal (HandsOver d) (ConfirmEnds d req) [] := by
    intro hne hacts
    refine hacts.journal (fun jr op hop => ?_) fun a jr context input haction => ?_
    · unfold HandsOver
      split
      · exact absurd rfl (hop.1 _)
      · exact absurd trivial hop.2
      · trivial
    · exact absurd haction (hne context input)
  have hplain : ∀ op, Plain op → (∀ params, op ≠ .transaction (.confirmBooking params)) ∧
      ¬ Confirming op := by
    rintro op ⟨hop, hnot⟩
    refine ⟨?_, hnot⟩
    rintro params rfl
    exact hop
  rcases haction : req.action with
    intent | ⟨context, input⟩ | ⟨context, input⟩ | ⟨context, input⟩ |
    ⟨context, orderId, refId⟩ | ⟨context, orderId, step, tags⟩
  · refine hother (by simp [haction]) ?_
    rw [handle, haction]
    exact (search_sweeps hplain intent).acts hplain (fun _ => ⟨by simp, id⟩) fun _ => ⟨by simp, id⟩
  · refine hother (by simp [haction]) ?_
    rw [handle, haction]
    exact select_acts hplain (fun _ => ⟨by simp, id⟩) context input
  · refine hother (by simp [haction]) ?_
    rw [handle, haction]
    exact init_acts hplain context input
  · refine Prog.Journal.mono (fun _ _ _ hop => hop) ?_ (by
      change Prog.Journal _ _ (handle d req).run []
      rw [handle, haction]
      exact confirm_learns context input)
    rintro (e | answer) jr' - hend context' input' heq
    all_goals
      rw [haction] at heq
      cases heq
    · exact ⟨fun answer hanswer => (by cases hanswer), fun e' he => Except.error.inj he ▸ hend⟩
    · exact ⟨fun answer' hanswer => Except.ok.inj hanswer ▸ hend, fun e he => by cases he⟩
  · refine hother (by simp [haction]) ?_
    rw [handle, haction]
    exact (status_sweeps hplain context orderId refId).acts hplain (fun _ => ⟨by simp, id⟩)
      fun _ => ⟨by simp, id⟩
  · refine hother (by simp [haction]) ?_
    rw [handle, haction]
    exact cancel_acts hplain (fun _ => ⟨by simp, id⟩) (fun _ _ => ⟨by simp, id⟩) context orderId
      step tags

/-! ## What a run keeps -/

/-- A confirmation was filed under a key. -/
def FiledUnder (tr : List (Entry Op Resp)) (key : ConfirmationKey) (promise : ℕ) : Prop :=
  ∃ i, (⟨i, .enterConfirmation key, .created promise⟩ : Entry Op Resp) ∈ tr

theorem FiledUnder.cons {tr : List (Entry Op Resp)} {promise : ℕ} (h : FiledUnder tr key promise)
    (e : Entry Op Resp) : FiledUnder (e :: tr) key promise :=
  h.imp fun _ hmem => List.mem_cons_of_mem _ hmem

/-- The confirmations of a run are each of one key. -/
structure Keyed (s : History) : Prop where
  /-- those in a map were filed under their key -/
  mapped : ∀ process key promise, (key, promise) ∈ s.world.confirmations process →
    FiledUnder s.trace key promise
  /-- so were those a request found -/
  joined : ∀ i key promise, (⟨i, .enterConfirmation key, .joined promise⟩ : Entry Op Resp) ∈ s.trace →
    FiledUnder s.trace key promise
  /-- what was filed is on record -/
  filed : ∀ key promise, FiledUnder s.trace key promise → promise < s.world.promises.length
  /-- under one key -/
  once : ∀ key key' promise, FiledUnder s.trace key promise → FiledUnder s.trace key' promise →
    key = key'

theorem Keyed.initial (clock : ℤ) (source : Source) : Keyed ⟨World.initial clock source, []⟩ := by
  refine ⟨fun _ _ _ h => absurd h List.not_mem_nil, fun _ _ _ h => absurd h List.not_mem_nil, ?_, ?_⟩
  · rintro key promise ⟨i, h⟩
    exact absurd h List.not_mem_nil
  · rintro key key' promise ⟨i, h⟩
    exact absurd h List.not_mem_nil

theorem Keyed.env (h : Keyed s) {e : Happening} {w : World}
    (henv : World.happen e s.world = some w) : Keyed ⟨w, s.trace⟩ := by
  cases e <;> obtain rfl := Option.some.inj henv <;> exact ⟨h.mapped, h.joined, h.filed, h.once⟩

/-- A line that files nothing leaves what was filed. -/
theorem filedUnder_cons {tr : List (Entry Op Resp)} {promise : ℕ}
    (hne : ∀ key, (⟨op, r⟩ : Line Op Resp) ≠ ⟨.enterConfirmation key, .created promise⟩)
    (h : FiledUnder (⟨i, op, r⟩ :: tr) key promise) : FiledUnder tr key promise := by
  obtain ⟨j, hmem⟩ := h
  rcases List.mem_cons.mp hmem with heq | hmem
  · exact absurd (congrArg Entry.line heq.symm) (hne key)
  · exact ⟨j, hmem⟩

/-- An operation that files nothing keeps it. -/
theorem Keyed.unfiled (h : Keyed s)
    (hne : ∀ key promise, (⟨op, r⟩ : Line Op Resp) ≠ ⟨.enterConfirmation key, .created promise⟩)
    (hjoin : ∀ key promise, (⟨op, r⟩ : Line Op Resp) = ⟨.enterConfirmation key, .joined promise⟩ →
      FiledUnder s.trace key promise)
    (hlength : w.promises.length = s.world.promises.length)
    (hmap : ∀ process e, e ∈ w.confirmations process → e ∈ s.world.confirmations process) :
    Keyed ⟨w, ⟨i, op, r⟩ :: s.trace⟩ := by
  have hold : ∀ {key promise}, FiledUnder (⟨i, op, r⟩ :: s.trace) key promise →
      FiledUnder s.trace key promise :=
    filedUnder_cons fun key heq => hne _ _ heq
  refine ⟨fun process key promise hmem => ?_, fun j key promise hmem => ?_,
    fun key promise hfiled => ?_, fun key key' promise hfiled hfiled' => ?_⟩
  · exact (h.mapped _ _ _ (hmap _ _ hmem)).cons _
  · rcases List.mem_cons.mp hmem with heq | hmem
    · exact (hjoin _ _ (congrArg Entry.line heq.symm)).cons _
    · exact (h.joined j key promise hmem).cons _
  · exact (h.filed _ _ (hold hfiled)).trans_eq hlength.symm
  · exact h.once _ _ _ (hold hfiled) (hold hfiled')

theorem Keyed.perform (h : Keyed s) (hdoes : Does (provider d) i req op s r s') : Keyed s' := by
  obtain ⟨o, w, hexec, rfl⟩ := hdoes
  have hfiles := World.exec_files hexec
  generalize hl : (⟨op, r⟩ : Line Op Resp) = l at hfiles
  cases hfiles with
  | @joins key promise hfound hpromises hmap =>
    refine h.unfiled (fun _ _ heq => ?_) (fun key' promise' heq => ?_) (congrArg _ hpromises)
      fun process e he => hmap ▸ he
    · cases hl.symm.trans heq
    · cases hl.symm.trans heq
      exact h.mapped _ _ _ hfound
  | @creates key hpromises hmap =>
    cases hl
    have hlength : w.promises.length = s.world.promises.length + 1 := by simp [hpromises]
    -- the new one is filed under a number that none had before
    have hnew : ∀ {key' promise}, FiledUnder (⟨i, .enterConfirmation key,
        .created s.world.promises.length⟩ :: s.trace) key' promise →
          promise < s.world.promises.length ∧ FiledUnder s.trace key' promise ∨
            key' = key ∧ promise = s.world.promises.length := by
      rintro key' promise ⟨j, hmem⟩
      rcases List.mem_cons.mp hmem with heq | hmem
      · cases heq
        exact .inr ⟨rfl, rfl⟩
      · exact .inl ⟨h.filed _ _ ⟨j, hmem⟩, j, hmem⟩
    refine ⟨fun process key' promise hmem => ?_, fun j key' promise hmem => ?_,
      fun key' promise hfiled => ?_, fun key' key'' promise hfiled hfiled' => ?_⟩
    · rcases hmap process _ hmem with hmem | ⟨-, heq⟩
      · exact (h.mapped _ _ _ hmem).cons _
      · obtain ⟨rfl, rfl⟩ := Prod.mk.inj heq
        exact ⟨i, List.mem_cons_self ..⟩
    · rcases List.mem_cons.mp hmem with heq | hmem
      · cases heq
      · exact (h.joined j key' promise hmem).cons _
    · change promise < w.promises.length
      rcases hnew hfiled with ⟨hlt, -⟩ | ⟨-, heq⟩ <;> omega
    · rcases hnew hfiled with ⟨hlt, hfiled⟩ | ⟨hkey, heq⟩ <;>
        rcases hnew hfiled' with ⟨hlt', hfiled'⟩ | ⟨hkey', heq'⟩
      · exact h.once _ _ _ hfiled hfiled'
      · omega
      · omega
      · exact hkey.trans hkey'.symm
  | settles hpromises hmap =>
    refine h.unfiled (fun _ _ heq => ?_) (fun _ _ heq => ?_) (by simp [hpromises])
      fun process e he => hmap ▸ he
    · cases hl.symm.trans heq
    · cases hl.symm.trans heq
  | leaves henter hsettle hpromises hmap =>
    exact h.unfiled (fun _ _ heq => henter _ _ (hl.symm.trans heq))
      (fun _ _ heq => absurd (hl.symm.trans heq) (henter _ _)) (congrArg _ hpromises) hmap

/-- A row, as it was read at some time, is the booking of a transaction. -/
structure IsBooking (s : History) (key : ConfirmationKey) (row : BookingRow) : Prop where
  /-- of this operator -/
  operator : row.operator = key.1
  /-- and this buyer -/
  identity : row.identity = key.2
  /-- its order has its id -/
  id : row.order.id = some row.id
  /-- it is still stored -/
  stored : ∃ row' ∈ s.world.db.bookings.rows, SameBooking row row'
  /-- and it was read -/
  shown : ∃ e ∈ s.trace, Shows e row.id row.order

/-- Orders have the id of their booking. -/
abbrev OwnId (bookingId : String) (order : Order) : Prop := order.id = some bookingId

theorem ownId_lasting : Lasting OwnId := by
  refine ⟨fun h hredact => ?_, id⟩
  rw [OwnId, Order.withoutManifestNames_ok hredact]
  exact h

/-- What a run keeps of the bookings its confirms hand out. -/
structure Handed (d : Deployment) (s : History) : Prop where
  /-- what was held, sold and read -/
  dealings : Dealings d s
  /-- the confirmations are each of one key -/
  keyed : Keyed s
  /-- orders have the id of their booking -/
  ids : Circulates OwnId s
  /-- every booking was made by a confirm -/
  born : ∀ row ∈ s.world.db.bookings.rows, row.operator = d.operatorKey ∧
    ∃ e ∈ s.trace, ∃ params, Commits e params ∧ row.id = params.orderId
  /-- what was made is stored -/
  made : ∀ e ∈ s.trace, ∀ params, Commits e params →
    ∃ row ∈ s.world.db.bookings.rows, SameBooking params.row row
  /-- what was read by a transaction is of that transaction -/
  asked : ∀ i operator identity row,
    (⟨i, .bookingByTransaction operator identity, .ok (some row)⟩ : Entry Op Resp) ∈ s.trace →
      row.operator = operator ∧ row.identity = identity
  /-- and where there was none, none had been made -/
  missed : ∀ later i operator identity earlier, s.trace = later ++
    (⟨i, .bookingByTransaction operator identity, .ok none⟩ : Entry Op Resp) :: earlier →
      ∀ e ∈ earlier, ∀ params, Commits e params →
        ¬ (params.operator = operator ∧ params.identity = identity)
  /-- a confirmation comes to the booking of its key -/
  settled : ∀ promise booking, s.world.promises[promise]? = some (some (.ok booking)) →
    ∃ key, FiledUnder s.trace key promise ∧ IsBooking s key booking.toBookingRow
  /-- and so does who waited for it -/
  awaited : ∀ i promise booking,
    (⟨i, .awaitConfirmation promise, .ok booking⟩ : Entry Op Resp) ∈ s.trace →
      ∃ key, FiledUnder s.trace key promise ∧ IsBooking s key booking.toBookingRow

/-- What a request has found is its transaction's booking. -/
theorem Found.isBooking (h : Handed d s) (hfound : Found d key row (own i s.trace)) :
    IsBooking s key row := by
  cases hfound with
  | existing hread =>
    have hmem := mem_own.mp hread
    obtain ⟨hoperator, hidentity⟩ := h.asked _ _ _ _ hmem
    exact ⟨hoperator, hidentity, h.ids.read hread rfl, h.dealings.reads.row _ hmem row rfl,
      _, hmem, .inl ⟨row, rfl, rfl, rfl⟩⟩
  | made params hoperator hidentity hnamed hbooked hread =>
    have hmem := mem_own.mp hread
    have hid : row.id = params.orderId := by
      obtain ⟨hname | hname, hrow⟩ := h.dealings.sales.byReference _ _ _ _ _ _ hmem
      · exact hname
      · exact absurd hname (hrow.reference_ne hnamed)
    -- there is one row of that id, and it is the one that was made
    obtain ⟨row', hrow', hsame⟩ := h.dealings.reads.row _ hmem row rfl
    obtain ⟨made, hmade, hsame'⟩ := h.made _ (mem_own.mp hbooked) params ⟨i, rfl⟩
    have hids : row'.id = made.id := hsame.id.trans (hid.trans hsame'.id.symm)
    obtain rfl := s.world.db.booking_unique hrow' hmade hids
    have hrow : row.operator = params.operator ∧ row.identity = params.identity := by
      have heq := hsame.eq
      rw [hsame'.eq] at heq
      constructor
      · exact (congrArg BookingRow.operator heq).symm
      · exact (congrArg BookingRow.identity heq).symm
    exact ⟨hrow.1.trans hoperator, hrow.2.trans hidentity, h.ids.read hread rfl,
      ⟨row', hrow', hsame⟩, _, hmem, .inl ⟨row, rfl, rfl, rfl⟩⟩

/-- And so is what it has learned. -/
theorem Learned.isBooking (h : Handed d s) (hlearned : Learned d key row (own i s.trace)) :
    IsBooking s key row := by
  cases hlearned with
  | found hfound => exact hfound.isBooking h
  | awaited promise booking hbooking hjoined hawaited =>
    obtain ⟨key', hfiled, his⟩ := h.awaited _ _ _ (mem_own.mp hawaited)
    have hkey := h.keyed.once _ _ _ (h.keyed.joined _ _ _ (mem_own.mp hjoined)) hfiled
    rw [hkey, ← hbooking]
    exact his

/-! ### One operation -/

theorem Handed.initial (clock : ℤ) (source : Source) :
    Handed d ⟨World.initial clock source, []⟩ := by
  refine ⟨⟨.initial clock source, .initial clock source, .initial clock source,
    fun _ _ _ h => absurd h List.not_mem_nil⟩, .initial clock source, .initial clock source,
    fun _ h => absurd h List.not_mem_nil, fun _ h => absurd h List.not_mem_nil,
    fun _ _ _ _ h => absurd h List.not_mem_nil, fun later _ _ _ earlier h => ?_,
    fun promise booking h => ?_, fun _ _ _ h => absurd h List.not_mem_nil⟩
  · cases later <;> cases h
  · cases h

/-- A booking stays one. -/
theorem IsBooking.step (h : IsBooking s key row) (hdoes : Does (provider d) i req op s r s') :
    IsBooking s' key row := by
  obtain ⟨e, he, hshows⟩ := h.shown
  obtain ⟨o, w, hexec, rfl⟩ := hdoes
  refine ⟨h.operator, h.identity, h.id, ?_, e, List.mem_cons_of_mem _ he, hshows⟩
  rcases World.exec_db hexec with ⟨hdb, -⟩ | ⟨t, a, -, hrun⟩
  · change ∃ row' ∈ w.db.bookings.rows, SameBooking row row'
    rw [hdb]
    exact h.stored
  · exact booking_stays hrun h.stored

/-- What is stored was made, and what is made is stored. -/
theorem Handed.rows (h : Handed d s) (hknows : Knows d req (own i s.trace) op)
    (hdoes : Does (provider d) i req op s r s') :
    (∀ row ∈ s'.world.db.bookings.rows, row.operator = d.operatorKey ∧
      ∃ e ∈ s'.trace, ∃ params, Commits e params ∧ row.id = params.orderId) ∧
    ∀ e ∈ s'.trace, ∀ params, Commits e params →
      ∃ row ∈ s'.world.db.bookings.rows, SameBooking params.row row := by
  obtain ⟨o, w, hexec, rfl⟩ := hdoes
  have hborn : ∀ row ∈ s.world.db.bookings.rows, row.operator = d.operatorKey ∧
      ∃ e ∈ (⟨i, op, r⟩ : Entry Op Resp) :: s.trace, ∃ params, Commits e params ∧
        row.id = params.orderId := by
    intro row hrow
    obtain ⟨hoperator, e, he, hcommits⟩ := h.born row hrow
    exact ⟨hoperator, e, List.mem_cons_of_mem _ he, hcommits⟩
  rcases World.exec_db hexec with ⟨hdb, hnot⟩ | ⟨t, a, heq, hrun⟩
  · change (∀ row ∈ w.db.bookings.rows, _) ∧ ∀ e ∈ _, ∀ params, _ → ∃ row ∈ w.db.bookings.rows, _
    rw [hdb]
    refine ⟨hborn, ?_⟩
    rintro e he params ⟨j, rfl⟩
    rcases List.mem_cons.mp he with heq | he
    · exact absurd (congrArg Entry.line heq.symm) (hnot _ _)
    · exact h.made _ he params ⟨j, rfl⟩
  · cases heq
    refine ⟨fun row hrow => ?_, ?_⟩
    · rcases booking_after hrun hrow with ⟨row₀, hrow₀, hsame⟩ | ⟨params, rfl, rfl⟩
      · obtain ⟨hoperator, e, he, params, hcommits, hid⟩ := hborn row₀ hrow₀
        have hsameOperator : row.operator = row₀.operator := by rw [hsame.eq]
        exact ⟨hsameOperator.trans hoperator, e, he, params, hcommits, hsame.id.trans hid⟩
      · obtain ⟨run, rfl⟩ := hknows
        exact ⟨rfl, _, List.mem_cons_self .., run.params, ⟨i, rfl⟩, rfl⟩
    · rintro e he params ⟨j, rfl⟩
      rcases List.mem_cons.mp he with heq | he
      · cases heq
        refine ⟨params.row, ?_, .refl _⟩
        have hbookings := HoldBooked.bookings (confirmBooking_ok hrun)
        exact hbookings ▸ List.mem_append_right _ (List.mem_singleton_self _)
      · exact booking_stays hrun (h.made _ he params ⟨j, rfl⟩)

/-- What a confirmation comes to is the booking of its key. -/
theorem Handed.outcomes (h : Handed d s) (hhands : HandsOver d (own i s.trace) op)
    (hdoes : Does (provider d) i req op s r s') {promise : ℕ} {booking : BookingRecord}
    (hsettled : s'.world.promises[promise]? = some (some (.ok booking))) :
    ∃ key, FiledUnder s'.trace key promise ∧ IsBooking s' key booking.toBookingRow := by
  have hkept : s.world.promises[promise]? = some (some (.ok booking)) →
      ∃ key, FiledUnder s'.trace key promise ∧ IsBooking s' key booking.toBookingRow := by
    intro hbefore
    obtain ⟨key, hfiled, his⟩ := h.settled promise booking hbefore
    refine ⟨key, ?_, his.step hdoes⟩
    obtain ⟨o, w, -, rfl⟩ := hdoes
    exact hfiled.cons _
  have hfiles : ∃ w, Files req.process s.world w ⟨op, r⟩ ∧ s' = ⟨w, ⟨i, op, r⟩ :: s.trace⟩ := by
    obtain ⟨o, w, hexec, rfl⟩ := hdoes
    exact ⟨w, World.exec_files hexec, rfl⟩
  obtain ⟨w, hfiles, hs'⟩ := hfiles
  have hworld : s'.world = w := by rw [hs']
  rw [hworld] at hsettled
  generalize hl : (⟨op, r⟩ : Line Op Resp) = l at hfiles
  cases hfiles with
  | joins _ hpromises _ => exact hkept (hpromises ▸ hsettled)
  | creates hpromises _ =>
    rw [hpromises] at hsettled
    rcases Nat.lt_trichotomy promise s.world.promises.length with hlt | rfl | hgt
    · rw [List.getElem?_append_left hlt] at hsettled
      exact hkept hsettled
    · rw [List.getElem?_concat_length] at hsettled
      cases hsettled
    · rw [List.getElem?_eq_none (by simp; omega)] at hsettled
      cases hsettled
  | @settles settled result hpromises _ =>
    cases hl
    rw [hpromises, List.getElem?_set] at hsettled
    split at hsettled
    · rename_i heq
      subst heq
      split at hsettled
      · -- it is settled now, with what its request has found
        obtain rfl := Option.some.inj (Option.some.inj hsettled)
        obtain ⟨key, hfiled, hfound⟩ := hhands
        refine ⟨key, ⟨i, ?_⟩, (hfound.isBooking h).step hdoes⟩
        rw [hs']
        exact List.mem_cons_of_mem _ (mem_own.mp hfiled)
      · cases hsettled
    · exact hkept hsettled
  | leaves _ _ hpromises _ => exact hkept (hpromises ▸ hsettled)

/-- An operation keeps it. -/
theorem Handed.perform (h : Handed d s) (hknows : Knows d req (own i s.trace) op)
    (hnames : NamesBooking d op) (hhands : HandsOver d (own i s.trace) op)
    (hdoes : Does (provider d) i req op s r s') : Handed d s' := by
  obtain ⟨hborn, hmade⟩ := h.rows hknows hdoes
  refine ⟨h.dealings.perform hknows hnames hdoes, h.keyed.perform hdoes, ?_, hborn, hmade,
    fun j operator identity row hmem => ?_, fun later j operator identity earlier htrace => ?_,
    fun promise booking => h.outcomes hhands hdoes, fun j promise booking hmem => ?_⟩
  · refine h.ids.perform ownId_lasting hknows ?_ hdoes
    rintro params rfl
    obtain ⟨run, rfl⟩ := hknows
    obtain ⟨parts⟩ := renderOrder_parts run.render
    exact congrArg Order.id parts.eq
  · obtain ⟨o, w, hexec, rfl⟩ := hdoes
    rcases List.mem_cons.mp hmem with heq | hmem
    · cases heq
      obtain ⟨-, hr⟩ := Prod.mk.inj (Option.some.inj hexec)
      have hfound := List.find?_some (Choice.read_ok hr).symm
      simpa using hfound
    · exact h.asked j operator identity row hmem
  · obtain ⟨o, w, hexec, rfl⟩ := hdoes
    cases later with
    | cons e later => exact h.missed later j operator identity earlier (List.cons.inj htrace).2
    | nil =>
      -- it looks now, and what was made would be found
      obtain ⟨heq, rfl⟩ := List.cons.inj htrace
      cases heq
      rintro e he params hcommits ⟨hoperator, hidentity⟩
      obtain ⟨-, hr⟩ := Prod.mk.inj (Option.some.inj hexec)
      obtain ⟨row, hrow, hsame⟩ := h.made e he params hcommits
      have hnone := List.find?_eq_none.mp (Choice.read_ok hr).symm row hrow
      rw [hsame.eq] at hnone
      simp [ConfirmBooking.row, hoperator, hidentity] at hnone
  · have hdoes' := hdoes
    obtain ⟨o, w, hexec, rfl⟩ := hdoes
    have hbefore : (⟨j, .awaitConfirmation promise, .ok booking⟩ : Entry Op Resp) ∈ s.trace ∨
        s.world.promises[promise]? = some (some (.ok booking)) := by
      rcases List.mem_cons.mp hmem with heq | hmem
      · cases heq
        simp only [provider, World.exec] at hexec
        split at hexec
        · rename_i result hpromise
          obtain ⟨-, rfl⟩ := Prod.mk.inj (Option.some.inj hexec)
          exact .inr hpromise
        · cases hexec
      · exact .inl hmem
    rcases hbefore with hmem | hpromise
    · obtain ⟨key, hfiled, his⟩ := h.awaited j promise booking hmem
      exact ⟨key, hfiled.cons _, his.step hdoes'⟩
    · obtain ⟨key, hfiled, his⟩ := h.settled promise booking hpromise
      exact ⟨key, hfiled.cons _, his.step hdoes'⟩

/-! ## Every run -/

theorem reach_handed {allows : History → Act? → Prop} {clock : ℤ} {source : Source} {c : Pool}
    (h : Reach (provider d) allows ⟨⟨World.initial clock source, []⟩, []⟩ c) : Handed d c.hist := by
  refine h.invariant (Handed d)
    (fun req => ((handle_knows req).and (handle_runs req)).and (handle_learns req))
    (.initial clock source)
    (fun hs _ hknown hdoes => hs.perform hknown.1.1 hknown.1.2 hknown.2 hdoes) ?_
  intro s e w hs _ henv
  obtain ⟨hdealings, hkeyed, hids, hborn, hmade, hasked, hmissed, hsettled, hawaited⟩ := hs
  obtain ⟨hbase, hdb, -⟩ := hdealings.base.env henv
  have hworld : ({ world := w, trace := s.trace } : History).world.db = s.world.db := hdb
  have hpromises : w.promises = s.world.promises := by
    cases e <;> obtain rfl := Option.some.inj henv <;> rfl
  have his : ∀ {key row}, IsBooking s key row → IsBooking ⟨w, s.trace⟩ key row := by
    rintro key row ⟨hoperator, hidentity, hid, hstored, hshown⟩
    exact ⟨hoperator, hidentity, hid, hworld ▸ hstored, hshown⟩
  refine ⟨⟨hbase, hdealings.reads.env henv, hdealings.sales.env hdb, ?_⟩, hkeyed.env henv,
    hids.env hdb, ?_, ?_, hasked, hmissed, fun promise booking hpromise => ?_,
    fun j promise booking hmem => ?_⟩
  · rw [hworld]
    exact hdealings.took
  · rw [hworld]
    exact hborn
  · rw [hworld]
    exact hmade
  · obtain ⟨key, hfiled, hbooking⟩ := hsettled promise booking (hpromises ▸ hpromise)
    exact ⟨key, hfiled, his hbooking⟩
  · obtain ⟨key, hfiled, hbooking⟩ := hawaited j promise booking hmem
    exact ⟨key, hfiled, his hbooking⟩

/-- What is read of a booking is priced as it is stored. -/
theorem IsBooking.quote (h : IsBooking s key row) (hs : Handed d s) {row' : BookingRow}
    (hrow' : row' ∈ s.world.db.bookings.rows) (hid : row'.id = row.id) :
    row.order.quote = row'.order.quote := by
  obtain ⟨-, e, he, params, hcommits, hmade⟩ := hs.born row' hrow'
  obtain ⟨e', he', hshows⟩ := h.shown
  rw [← hid, hmade] at hshows
  obtain ⟨stored, hstored, hstoredId, hsold⟩ := hs.dealings.sales.stored e he params hcommits
  obtain rfl := s.world.db.booking_unique hstored hrow' (hstoredId.trans hmade.symm)
  exact (hs.dealings.sales.shown e he params hcommits e' he' _ hshows).quote.trans hsold.quote.symm

/-- There is one booking of a transaction. -/
theorem ReservedDb.transaction_unique {db : ReservedDb} {row row' : BookingRow}
    (h : row ∈ db.bookings.rows) (h' : row' ∈ db.bookings.rows)
    (hoperator : row.operator = row'.operator) (hidentity : row.identity = row'.identity) :
    row = row' := by
  have hkey : row.transactionKey = row'.transactionKey := by
    rw [BookingRow.transactionKey, BookingRow.transactionKey, hoperator, hidentity]
  exact (db.bookings.unique BookingRow.transactionKey (by simp)).eq_of_key h h' hkey rfl

/-- What a confirm answers: the order of its transaction's booking, at its price. -/
structure AnswersBooking (c : Pool) (context : ReservedContext) (answer : Answer) (row : BookingRow) :
    Prop where
  /-- the booking is stored -/
  stored : row ∈ c.hist.world.db.bookings.rows
  /-- it is the transaction's -/
  identity : row.identity = identityOf context
  /-- and the only one -/
  only : ∀ row' ∈ c.hist.world.db.bookings.rows, row'.identity = identityOf context → row' = row
  /-- its order is answered -/
  order : ∃ order, answer = .order order none [] ∧ order.id = some row.id ∧
    order.quote = row.order.quote

/-- A request looked for the booking of a transaction before one was made. -/
def LookedBefore (tr : List (Entry Op Resp)) (i : ℕ) (key : ConfirmationKey) : Prop :=
  ∃ later earlier, tr = later ++
    (⟨i, .bookingByTransaction key.1 key.2, .ok none⟩ : Entry Op Resp) :: earlier ∧
      ∀ e ∈ earlier, ∀ params, Commits e params → params.identity ≠ key.2

/-- **One booking, one answer**: a confirm that succeeds answers its transaction's one booking, and
one that fails was refused for its own sake, could not look, or looked before there was one. -/
theorem confirms_answer_one_booking {allows : History → Act? → Prop} {clock : ℤ} {source : Source}
    {c : Pool} (h : Reach (provider d) allows ⟨⟨World.initial clock source, []⟩, []⟩ c)
    {result : Except Failure Answer} (hanswer : c.tasks[i]? = some ⟨req, .ret result⟩)
    (haction : req.action = .confirm context input) :
    (∀ answer, result = .ok answer → ∃ row, AnswersBooking c context answer row) ∧
    ∀ e, result = .error e → Refused d context input e ∨
      LookFailed (confirmationKey d context) (own i c.hist.trace) ∨
        LookedBefore c.hist.trace i (confirmationKey d context) := by
  have hs := reach_handed h
  obtain ⟨hok, herror⟩ := (h.journal handle_learns).answer hanswer context input haction
  refine ⟨fun answer heq => ?_, fun e heq => ?_⟩
  · obtain ⟨row, rfl, hlearned⟩ := hok answer heq
    have his := hlearned.isBooking hs
    obtain ⟨row', hrow', hsame⟩ := his.stored
    have hidentity : row'.identity = row.identity := by rw [hsame.eq]
    refine ⟨row', hrow', hidentity.trans his.identity, fun other hother hmine => ?_, row.order, rfl,
      ?_, his.quote hs hrow' hsame.id⟩
    · refine ReservedDb.transaction_unique hother hrow' ?_ (hmine.trans (hidentity.trans
        his.identity).symm)
      exact (hs.born other hother).1.trans (hs.born row' hrow').1.symm
    · rw [hsame.id]
      exact his.id
  · rcases herror e heq with hrefused | hlooked | hfailed
    · exact .inl hrefused
    · -- it looked, and what had been made would have been found
      obtain ⟨later, earlier, htrace⟩ := List.append_of_mem (mem_own.mp hlooked)
      refine .inr (.inr ⟨later, earlier, htrace, fun e' he' params hcommits hidentity => ?_⟩)
      have hmem : e' ∈ c.hist.trace := by
        rw [htrace]
        exact List.mem_append_right _ (List.mem_cons_of_mem _ he')
      obtain ⟨row, hrow, hsame⟩ := hs.made e' hmem params hcommits
      have hoperator : row.operator = params.operator := by
        rw [hsame.eq]
        rfl
      exact hs.missed later i _ _ earlier htrace e' he' params hcommits
        ⟨hoperator.symm.trans (hs.born row hrow).1, hidentity⟩
    · exact .inr (.inl hfailed)

/-- The sale of two seats again, asked of another process. -/
def specimenAgain : Request :=
  specimenConfirm 1 "T1" [("1", "A", "female"), ("2", "B", "male")] []

/-- What a task that confirms has asked for and been answered. -/
def confirmOf (c : Pool) (i : ℕ) : Option (ReservedContext × Option String) :=
  c.tasks[i]?.bind fun task => match task.req.action, task.rest with
    | .confirm context _, .ret (.ok (.order order _ _)) => some (context, order.id)
    | _, _ => none

theorem task_of_confirmOf {c : Pool} {id : Option String} (h : confirmOf c i = some (context, id)) :
    ∃ req input order refund tags, c.tasks[i]? = some ⟨req, .ret (.ok (.order order refund tags))⟩ ∧
      req.action = .confirm context input ∧ order.id = id := by
  obtain ⟨⟨req, rest⟩, htask, hconfirm⟩ := Option.bind_eq_some_iff.mp h
  dsimp only at hconfirm
  split at hconfirm
  · rename_i context' input order refund tags haction
    obtain ⟨rfl, rfl⟩ := Prod.mk.inj (Option.some.inj hconfirm)
    exact ⟨req, input, order, refund, tags, htask, haction, rfl⟩
  · cases hconfirm

/-- What a task was refused with. -/
def refusalOf (c : Pool) (i : ℕ) : Option ReservedErrorCode :=
  match c.answer i with
  | some (.error (.lifecycle e)) => some e.code
  | _ => none

/-- Asked once the booking exists, it answers the booking that was made. -/
theorem confirms_answer_one_booking_specimen : ∃ (c : Pool) (answer : Answer) (row : BookingRow),
    Reach (provider specimenDeployment) (fun _ _ => True) specimenStart c ∧
    c.answer 2 = some (.ok answer) ∧
    AnswersBooking c (specimenContext "T1") answer row ∧ row.id = specimenOrderId := by
  have hrun : (specimenStart.follow (provider specimenDeployment) (fun _ _ => true)
      (specimenSale ++ [.start specimenAgain] ++ steps 2 2 "")).bind (fun c => confirmOf c 2) =
        some (specimenContext "T1", some specimenOrderId) := by
    decide +kernel
  obtain ⟨c, hfollow, hconfirm⟩ := Option.bind_eq_some_iff.mp hrun
  have hreach : Reach (provider specimenDeployment) (fun _ _ => True) specimenStart c :=
    (Config.follow_reach .refl hfollow).mono fun _ _ _ => trivial
  obtain ⟨req, input, order, refund, tags, htask, haction, hid⟩ := task_of_confirmOf hconfirm
  obtain ⟨row, hrow⟩ := (confirms_answer_one_booking hreach htask haction).1 _ rfl
  refine ⟨c, _, row, hreach, by rw [Config.answer, htask], hrow, ?_⟩
  obtain ⟨order', heq, hown, -⟩ := hrow.order
  cases heq
  exact Option.some.inj (hown.symm.trans hid)

/-- Asked before, and overtaken by the sale, it is refused: the hold of its transaction, which was
live when it looked, is not held any more. -/
theorem confirm_overtaken : ∃ c : Pool,
    Reach (provider specimenDeployment) (fun _ _ => True) specimenStart c ∧
    confirmOf c 1 = some (specimenContext "T1", some specimenOrderId) ∧
    refusalOf c 2 = some .holdExpired := by
  have hrun : (specimenStart.follow (provider specimenDeployment) (fun _ _ => true)
      ([.start (specimenSelect "T1" ["1", "2"])] ++ steps 0 12 "a1" ++
        [.start (specimenConfirm 0 "T1" [("1", "A", "female"), ("2", "B", "male")] []),
          .start specimenAgain] ++ steps 2 9 "c1" ++ steps 1 21 "b1" ++ steps 2 9 "c1")).map
        (fun c => (confirmOf c 1, refusalOf c 2)) =
      some (some (specimenContext "T1", some specimenOrderId), some .holdExpired) := by
    decide +kernel
  obtain ⟨c, hfollow, hfacts⟩ := Option.map_eq_some_iff.mp hrun
  obtain ⟨hfirst, hsecond⟩ := Prod.mk.inj hfacts
  exact ⟨c, (Config.follow_reach .refl hfollow).mono fun _ _ _ => trivial, hfirst, hsecond⟩

end TransitBpp
