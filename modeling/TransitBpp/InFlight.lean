import TransitBpp.Runs
import TransitBpp.Operations
import TransitBpp.Progress

/-!
# Confirmations in flight

The one place where a request waits for another: a confirm that finds an equal one at work in its
process waits for what that one comes to. `Charted` says what the confirmations of a run always
are: each was filed by a request of the same process, and what was settled stays settled. A request
that filed one never waits, so it settles it in the end, and nobody waits for ever: `request_returns`
says so of every fair run.
-/

namespace TransitBpp

open Interleave Js

variable {d : Deployment} {jr jr' : Journal} {promise : ℕ}

/-! ## What a request knows -/

/-- The request filed this confirmation. -/
def FiledIn (jr : Journal) (promise : ℕ) : Prop :=
  ∃ key, (⟨.enterConfirmation key, .created promise⟩ : Line Op Resp) ∈ jr

/-- The request found this confirmation, filed by another. -/
def JoinedIn (jr : Journal) (promise : ℕ) : Prop :=
  ∃ key, (⟨.enterConfirmation key, .joined promise⟩ : Line Op Resp) ∈ jr

/-- The request settled this confirmation. -/
def SettledIn (jr : Journal) (promise : ℕ) : Prop :=
  ∃ result, (⟨.settleConfirmation promise result, ()⟩ : Line Op Resp) ∈ jr

/-- A request waits only for a confirmation it found, and only if it filed none; it settles only
what it filed. -/
def WaitsForOthers (jr : Journal) : Op → Prop
  | .awaitConfirmation promise => JoinedIn jr promise ∧ ∀ p, ¬ FiledIn jr p
  | .settleConfirmation promise _ => FiledIn jr promise
  | _ => True

/-- A request that returns has settled what it filed. -/
def LeavesNothing (jr : Journal) : Prop := ∀ promise, FiledIn jr promise → SettledIn jr promise

/-- Nothing new in a journal is about confirmations. -/
def SilentSince (jr jr' : Journal) : Prop := ∀ l ∈ jr', l ∈ jr ∨ ¬ Confirming l.op

theorem SilentSince.filed (h : SilentSince jr jr') (hfiled : FiledIn jr' promise) : FiledIn jr promise := by
  obtain ⟨key, hmem⟩ := hfiled
  rcases h _ hmem with hmem | hnot
  · exact ⟨key, hmem⟩
  · exact absurd trivial hnot

theorem FiledIn.later (h : FiledIn jr promise) (hs : jr <:+ jr') : FiledIn jr' promise :=
  h.imp fun _ hmem => hs.subset hmem

/-- A line that files nothing. -/
theorem filedIn_cons {l : Line Op Resp} (hl : ∀ key p, l ≠ ⟨.enterConfirmation key, .created p⟩)
    (h : FiledIn (l :: jr) promise) : FiledIn jr promise := by
  obtain ⟨key, hmem⟩ := h
  rcases List.mem_cons.mp hmem with heq | hmem
  · exact absurd heq.symm (hl key promise)
  · exact ⟨key, hmem⟩

/-- A handler that leaves confirmations alone. -/
theorem acts_aside {α : Type} {x : Act α} (h : Handler.Acts (fun op => ¬ Confirming op) x) :
    Handler.Journal WaitsForOthers (fun _ => SilentSince jr) (fun _ => SilentSince jr) x jr := by
  have hknows : x.run.Journal WaitsForOthers (fun _ _ => True) jr := by
    refine h.journal (fun jr' op hop => ?_) fun _ _ => trivial
    cases op <;> first | trivial | exact absurd trivial hop
  refine Prog.Journal.mono (fun _ _ _ hop => hop.1) ?_ (hknows.and h.all.adds)
  rintro (e | a) jr' - hend
  · exact hend.2
  · exact hend.2

/-- A handler that leaves confirmations alone leaves nothing to settle. -/
theorem acts_leaves {α : Type} {x : Act α} (h : Handler.Acts (fun op => ¬ Confirming op) x) :
    x.run.Journal WaitsForOthers (fun _ => LeavesNothing) [] := by
  refine Prog.Journal.mono (fun _ _ _ hop => hop) ?_ (acts_aside h)
  have hnone : ∀ {jr' : Journal}, SilentSince [] jr' → LeavesNothing jr' := by
    intro jr' haside p hfiled
    obtain ⟨key, hmem⟩ := haside.filed hfiled
    exact absurd hmem List.not_mem_nil
  rintro (e | a) jr' - hend
  · exact hnone hend
  · exact hnone hend

theorem confirmNew_aside (context : ReservedContext) (input : OrderInput) :
    Handler.Acts (fun op => ¬ Confirming op) (confirmNew d context input) :=
  confirmNew_acts (fun _ => id) (fun _ => id) context input

theorem confirm_leaves (context : ReservedContext) (input : OrderInput) :
    Handler.Journal WaitsForOthers (fun _ => LeavesNothing) (fun _ => LeavesNothing)
      (confirm d context input) [] := by
  have hnone : LeavesNothing [] := by
    rintro p ⟨key, hmem⟩
    exact absurd hmem List.not_mem_nil
  rw [confirm, Handler.journal_bind, Handler.journal_lift]
  refine ⟨fun _ _ => ?_, fun _ _ => hnone⟩
  rw [Handler.journal_bind, Handler.journal_lift]
  refine ⟨fun _ _ => ?_, fun _ _ => hnone⟩
  dsimp only
  have hunfiled : ∀ {jr : Journal}, SilentSince [] jr → ∀ p, ¬ FiledIn jr p := by
    intro jr haside p hfiled
    obtain ⟨key, hmem⟩ := haside.filed hfiled
    exact absurd hmem List.not_mem_nil
  rw [Handler.journal_bind]
  refine (acts_aside (findBookingByTransaction_acts (fun _ => id) _ _)).mono
    (fun _ _ _ hop => hop) (fun existing jr₁ _ haside => ?_)
    fun e jr₁ _ haside p hfiled => absurd hfiled (hunfiled haside p)
  cases existing with
  | some existing => exact fun p hfiled => absurd hfiled (hunfiled haside p)
  | none =>
    dsimp only
    rw [Handler.journal_bind]
    refine journal_perform.mpr ⟨trivial, ?_⟩
    rintro (promise | promise)
    · -- another request's, to wait for
      have hjoined : ∀ p, ¬ FiledIn (⟨.enterConfirmation (d.operatorKey, identityOf context),
          .joined promise⟩ :: jr₁) p := by
        intro p hfiled
        exact hunfiled haside p (filedIn_cons (fun key p heq => by cases heq) hfiled)
      have hleaves : ∀ result : Except Failure BookingRecord,
          LeavesNothing (⟨.awaitConfirmation promise, result⟩ :: ⟨.enterConfirmation
            (d.operatorKey, identityOf context), .joined promise⟩ :: jr₁) := by
        intro result p hfiled
        exact absurd (filedIn_cons (fun key p heq => by cases heq) hfiled) (hjoined p)
      dsimp only
      rw [Handler.journal_bind, journal_attempt]
      refine journal_op.mpr ⟨⟨⟨_, List.mem_cons_self⟩, hjoined⟩, ?_⟩
      rintro (e | booking)
      · exact hleaves _
      · exact hleaves _
    · -- a new one, to be settled whatever it comes to
      have hsettles : ∀ {jr₂ : Journal} {result : Except Failure BookingRecord},
          SilentSince (⟨.enterConfirmation (d.operatorKey, identityOf context), .created promise⟩ :: jr₁)
            jr₂ →
          LeavesNothing (⟨.leaveConfirmation (d.operatorKey, identityOf context) promise, ()⟩ ::
            ⟨.settleConfirmation promise result, ()⟩ :: jr₂) := by
        intro jr₂ result haside₂ p hfiled
        have hfiled₂ := haside₂.filed (filedIn_cons (fun key p heq => by cases heq)
          (filedIn_cons (fun key p heq => by cases heq) hfiled))
        obtain ⟨key, hmem⟩ := hfiled₂
        rcases List.mem_cons.mp hmem with heq | hmem
        · cases heq
          exact ⟨result, by simp⟩
        · exact absurd ⟨key, hmem⟩ (hunfiled haside p)
      dsimp only
      rw [Handler.journal_bind, Handler.journal_run]
      refine (acts_aside (confirmNew_aside context input)).mono (fun _ _ _ hop => hop)
        (fun booking jr₂ hs haside₂ => ?_) fun e jr₂ hs haside₂ => ?_
      · refine ⟨FiledIn.later ⟨_, List.mem_cons_self⟩ hs, fun _ => ⟨trivial, fun _ => ?_⟩⟩
        exact hsettles haside₂
      · refine ⟨FiledIn.later ⟨_, List.mem_cons_self⟩ hs, fun _ => ⟨trivial, fun _ => ?_⟩⟩
        exact hsettles haside₂

/-- **Every request settles what it files, and waits only if it filed nothing.** -/
theorem handle_leaves (req : Request) :
    ((provider d).handler req).Journal WaitsForOthers (fun _ => LeavesNothing) [] := by
  change Prog.Journal _ _ (handle d req).run _
  rcases haction : req.action with
    intent | ⟨context, input⟩ | ⟨context, input⟩ | ⟨context, input⟩ |
    ⟨context, orderId, refId⟩ | ⟨context, orderId, step, tags⟩ <;> simp only [handle, haction]
  · exact acts_leaves ((search_sweeps (fun _ => id) intent).acts (fun _ => id) (fun _ => id)
      fun _ => id)
  · exact acts_leaves (select_acts (fun _ => id) (fun _ => id) context input)
  · exact acts_leaves (init_acts (fun _ => id) context input)
  · refine Prog.Journal.mono (fun _ _ _ hop => hop) ?_ (confirm_leaves context input)
    rintro (e | a) jr' - hend
    · exact hend
    · exact hend
  · exact acts_leaves ((status_sweeps (fun _ => id) context orderId refId).acts (fun _ => id)
      (fun _ => id) fun _ => id)
  · exact acts_leaves (cancel_acts (fun _ => id) (fun _ => id) (fun _ _ => id) context orderId step
      tags)

/-! ## What the confirmations of a run are -/

/-- What an operation does to the confirmations of its process. -/
inductive Files (process : ℕ) (w w' : World) : Line Op Resp → Prop where
  /-- it finds one -/
  | joins {key : ConfirmationKey} {promise : ℕ} (hfound : (key, promise) ∈ w.confirmations process)
      (hpromises : w'.promises = w.promises) (hmap : w'.confirmations = w.confirmations) :
      Files process w w' ⟨.enterConfirmation key, .joined promise⟩
  /-- it files one -/
  | creates {key : ConfirmationKey} (hpromises : w'.promises = w.promises ++ [none])
      (hmap : ∀ p e, e ∈ w'.confirmations p →
        e ∈ w.confirmations p ∨ p = process ∧ e = (key, w.promises.length)) :
      Files process w w' ⟨.enterConfirmation key, .created w.promises.length⟩
  /-- it settles one -/
  | settles {promise : ℕ} {result : Except Failure BookingRecord}
      (hpromises : w'.promises = w.promises.set promise (some result))
      (hmap : w'.confirmations = w.confirmations) :
      Files process w w' ⟨.settleConfirmation promise result, ()⟩
  /-- it leaves them alone, or takes one out of the map -/
  | leaves {l : Line Op Resp} (henter : ∀ key r, l ≠ ⟨.enterConfirmation key, r⟩)
      (hsettle : ∀ promise result, l ≠ ⟨.settleConfirmation promise result, ()⟩)
      (hpromises : w'.promises = w.promises)
      (hmap : ∀ p e, e ∈ w'.confirmations p → e ∈ w.confirmations p) : Files process w w' l

theorem World.exec_files {process : ℕ} {o : Choice} {w w' : World} {op : Op} {r : Resp op}
    (h : w.exec d process o op = some (w', r)) : Files process w w' ⟨op, r⟩ := by
  cases op with
  | transaction t =>
    simp only [World.exec] at h
    split at h <;> obtain ⟨rfl, -⟩ := Prod.mk.inj (Option.some.inj h) <;>
      exact .leaves (fun _ _ heq => by cases heq) (fun _ _ heq => by cases heq) rfl fun _ _ => id
  | manifestSweepDue nowMs =>
    simp only [World.exec] at h
    split at h <;> obtain ⟨rfl, -⟩ := Prod.mk.inj (Option.some.inj h) <;>
      exact .leaves (fun _ _ heq => by cases heq) (fun _ _ heq => by cases heq) rfl fun _ _ => id
  | enterConfirmation key =>
    simp only [World.exec] at h
    split at h
    · rename_i e hfound
      obtain ⟨rfl, rfl⟩ := Prod.mk.inj (Option.some.inj h)
      obtain rfl : e.1 = key := by simpa using List.find?_some hfound
      exact .joins (List.mem_of_find?_eq_some hfound) rfl rfl
    · obtain ⟨rfl, rfl⟩ := Prod.mk.inj (Option.some.inj h)
      refine .creates rfl fun p e he => ?_
      dsimp only at he
      split at he
      · rename_i hp
        rcases List.mem_cons.mp he with rfl | he
        · exact .inr ⟨hp, rfl⟩
        · exact .inl he
      · exact .inl he
  | awaitConfirmation promise =>
    simp only [World.exec] at h
    split at h
    · obtain ⟨rfl, -⟩ := Prod.mk.inj (Option.some.inj h)
      exact .leaves (fun _ _ heq => by cases heq) (fun _ _ heq => by cases heq) rfl fun _ _ => id
    · cases h
  | settleConfirmation promise result =>
    obtain ⟨rfl, rfl⟩ := Prod.mk.inj (Option.some.inj h)
    exact .settles rfl rfl
  | leaveConfirmation key promise =>
    obtain ⟨rfl, -⟩ := Prod.mk.inj (Option.some.inj h)
    refine .leaves (fun _ _ heq => by cases heq) (fun _ _ heq => by cases heq) rfl fun p e he => ?_
    dsimp only at he
    split at he
    · exact (List.mem_filter.mp he).1
    · exact he
  | _ =>
    obtain ⟨rfl, -⟩ := Prod.mk.inj (Option.some.inj h)
    exact .leaves (fun _ _ heq => by cases heq) (fun _ _ heq => by cases heq) rfl fun _ _ => id

/-- A request of this process filed this confirmation. -/
def FiledAt (c : Pool) (process promise : ℕ) : Prop :=
  ∃ i t, c.tasks[i]? = some t ∧ t.req.process = process ∧ FiledIn (own i c.hist.trace) promise

/-- What the confirmations of a run are. -/
structure Charted (c : Pool) : Prop where
  /-- those in the map of a process were filed there -/
  mapped : ∀ process key promise, (key, promise) ∈ c.hist.world.confirmations process →
    FiledAt c process promise
  /-- so were those a request found -/
  joined : ∀ i t promise, c.tasks[i]? = some t → JoinedIn (own i c.hist.trace) promise →
    FiledAt c t.req.process promise
  /-- what was filed is on record -/
  filed : ∀ i promise, FiledIn (own i c.hist.trace) promise →
    promise < c.hist.world.promises.length
  /-- what was settled has an outcome -/
  settled : ∀ i promise, FiledIn (own i c.hist.trace) promise →
    SettledIn (own i c.hist.trace) promise →
      ∃ result, c.hist.world.promises[promise]? = some (some result)

variable {c c' : Pool} {m : Act?} {process : ℕ}

theorem FiledAt.step (h : FiledAt c process promise) (hstep : Step (provider d) c m c') :
    FiledAt c' process promise := by
  obtain ⟨i, t, ht, hprocess, hfiled⟩ := h
  obtain ⟨t', ht', hreq⟩ := hstep.req_stays ht
  exact ⟨i, t', ht', hreq ▸ hprocess, hfiled.later hstep.own_suffix⟩

/-- What a request settled it had filed. -/
theorem SettledIn.filed {i : ℕ} {t : Task Op Resp Request (Except Failure Answer)}
    (hkept : Kept (fun _ => WaitsForOthers) (fun _ _ => LeavesNothing) c)
    (ht : c.tasks[i]? = some t) (h : SettledIn (own i c.hist.trace) promise) :
    FiledIn (own i c.hist.trace) promise := by
  obtain ⟨result, hmem⟩ := h
  obtain ⟨later, earlier, heq⟩ := List.append_of_mem hmem
  have hsuffix : ⟨.settleConfirmation promise result, ()⟩ :: earlier <:+ own i c.hist.trace :=
    ⟨later, heq.symm⟩
  have hfiled : FiledIn earlier promise := hkept.past i t ht _ earlier hsuffix
  exact hfiled.later ((List.suffix_cons _ _).trans hsuffix)

/-- What is in a journal after one more operation. -/
theorem mem_own_cons {i j : ℕ} {op : Op} {r : Resp op} {tr : List (Entry Op Resp)}
    {l : Line Op Resp} (h : l ∈ own j (⟨i, op, r⟩ :: tr)) : l ∈ own j tr ∨ j = i ∧ l = ⟨op, r⟩ := by
  rcases List.mem_cons.mp (mem_own.mp h) with heq | hmem
  · cases heq
    exact .inr ⟨rfl, rfl⟩
  · exact .inl (mem_own.mpr hmem)

theorem Charted.step (h : Charted c) (hkept : Kept (fun _ => WaitsForOthers)
    (fun _ _ => LeavesNothing) c) (hstep : Step (provider d) c m c') : Charted c' := by
  have hfiledAt : ∀ {process promise}, FiledAt c process promise → FiledAt c' process promise :=
    fun hfiled => hfiled.step hstep
  cases hstep with
  | start req =>
    refine ⟨fun process key promise hmem => hfiledAt (h.mapped _ _ _ hmem), ?_, h.filed, h.settled⟩
    intro i t promise ht hjoined
    rcases Nat.lt_or_ge i c.tasks.length with hi | hi
    · rw [List.getElem?_append_left hi] at ht
      exact hfiledAt (h.joined i t promise ht hjoined)
    · -- the new task has done nothing yet
      obtain ⟨key, hmem⟩ := hjoined
      rw [own_eq_nil fun e he => Nat.ne_of_lt (Nat.lt_of_lt_of_le (hkept.named e he) hi)] at hmem
      exact absurd hmem List.not_mem_nil
  | @perform i req op k r s' htask hdoes =>
    obtain ⟨o, w, hexec, rfl⟩ := hdoes
    have hlt := (List.getElem?_eq_some_iff.mp htask).1
    have htasks : ∀ {j : ℕ} {t : Task Op Resp Request (Except Failure Answer)},
        (c.tasks.set i ⟨req, k r⟩)[j]? = some t →
        ∃ t₀, c.tasks[j]? = some t₀ ∧ t₀.req = t.req := by
      intro j t ht
      by_cases hij : i = j
      · subst hij
        rw [List.getElem?_set_self hlt] at ht
        exact ⟨_, htask, by rw [← Option.some.inj ht]⟩
      · exact ⟨t, by rwa [List.getElem?_set_ne hij] at ht, rfl⟩
    have hold : ∀ {j : ℕ} {t : Task Op Resp Request (Except Failure Answer)} {promise : ℕ},
        (c.tasks.set i ⟨req, k r⟩)[j]? = some t →
        JoinedIn (own j c.hist.trace) promise →
        FiledAt ⟨⟨w, ⟨i, op, r⟩ :: c.hist.trace⟩, c.tasks.set i ⟨req, k r⟩⟩ t.req.process promise := by
      intro j t promise ht hjoined
      obtain ⟨t₀, ht₀, hreq⟩ := htasks ht
      exact hfiledAt (hreq ▸ h.joined j t₀ promise ht₀ hjoined)
    -- nothing is joined, filed or settled but by an operation that does it
    have hfiledIn : ∀ {j promise}, FiledIn (own j (⟨i, op, r⟩ :: c.hist.trace)) promise →
        FiledIn (own j c.hist.trace) promise ∨
          j = i ∧ ∃ key, (⟨op, r⟩ : Line Op Resp) = ⟨.enterConfirmation key, .created promise⟩ := by
      rintro j promise ⟨key, hmem⟩
      rcases mem_own_cons hmem with hmem | ⟨hji, heq⟩
      · exact .inl ⟨key, hmem⟩
      · exact .inr ⟨hji, key, heq.symm⟩
    have hjoinedIn : ∀ {j promise}, JoinedIn (own j (⟨i, op, r⟩ :: c.hist.trace)) promise →
        JoinedIn (own j c.hist.trace) promise ∨
          j = i ∧ ∃ key, (⟨op, r⟩ : Line Op Resp) = ⟨.enterConfirmation key, .joined promise⟩ := by
      rintro j promise ⟨key, hmem⟩
      rcases mem_own_cons hmem with hmem | ⟨hji, heq⟩
      · exact .inl ⟨key, hmem⟩
      · exact .inr ⟨hji, key, heq.symm⟩
    have hsettledIn : ∀ {j promise}, SettledIn (own j (⟨i, op, r⟩ :: c.hist.trace)) promise →
        SettledIn (own j c.hist.trace) promise ∨
          ∃ result, (⟨op, r⟩ : Line Op Resp) = ⟨.settleConfirmation promise result, ()⟩ := by
      rintro j promise ⟨result, hmem⟩
      rcases mem_own_cons hmem with hmem | ⟨-, heq⟩
      · exact .inl ⟨result, hmem⟩
      · exact .inr ⟨result, heq.symm⟩
    cases World.exec_files hexec with
    | @joins key promise hfound hpromises hmap =>
      refine ⟨fun process key promise hmem => hfiledAt (h.mapped _ _ _ (hmap ▸ hmem)),
        fun j t p ht hjoined => ?_, fun j p hfiled => ?_, fun j p hfiled hsettled => ?_⟩
      · rcases hjoinedIn hjoined with hjoined | ⟨rfl, key', heq⟩
        · exact hold ht hjoined
        · cases heq
          obtain ⟨t₀, ht₀, hreq⟩ := htasks ht
          obtain rfl := Option.some.inj (htask.symm.trans ht₀)
          exact hfiledAt (hreq ▸ h.mapped _ _ _ hfound)
      · rcases hfiledIn hfiled with hfiled | ⟨-, key', heq⟩
        · exact hpromises ▸ h.filed j p hfiled
        · cases heq
      · rcases hfiledIn hfiled with hfiled | ⟨-, key', heq⟩
        · rcases hsettledIn hsettled with hsettled | ⟨result, heq⟩
          · exact hpromises ▸ h.settled j p hfiled hsettled
          · cases heq
        · cases heq
    | @creates key hpromises hmap =>
      refine ⟨fun process key' promise hmem => ?_, fun j t p ht hjoined => ?_,
        fun j p hfiled => ?_, fun j p hfiled hsettled => ?_⟩
      · rcases hmap _ _ hmem with hmem | ⟨rfl, heq⟩
        · exact hfiledAt (h.mapped _ _ _ hmem)
        · cases heq
          exact ⟨i, _, List.getElem?_set_self hlt, rfl, key, mem_own.mpr List.mem_cons_self⟩
      · rcases hjoinedIn hjoined with hjoined | ⟨-, key', heq⟩
        · exact hold ht hjoined
        · cases heq
      · dsimp only
        rw [hpromises, List.length_append]
        rcases hfiledIn hfiled with hfiled | ⟨-, key', heq⟩
        · exact Nat.lt_add_right _ (h.filed j p hfiled)
        · cases heq
          exact Nat.lt_succ_self _
      · have hsettled' : SettledIn (own j c.hist.trace) p := by
          rcases hsettledIn hsettled with hsettled | ⟨result, heq⟩
          · exact hsettled
          · cases heq
        have hfiled' : FiledIn (own j c.hist.trace) p := by
          rcases hfiledIn hfiled with hfiled | ⟨rfl, key', heq⟩
          · exact hfiled
          · exact hsettled'.filed hkept htask
        obtain ⟨result, hresult⟩ := h.settled j p hfiled' hsettled'
        refine ⟨result, ?_⟩
        dsimp only
        rw [hpromises, List.getElem?_append_left (h.filed j p hfiled')]
        exact hresult
    | @settles promise result hpromises hmap =>
      have hfiled' : ∀ {j p}, FiledIn (own j (⟨i, .settleConfirmation promise result,
          ()⟩ :: c.hist.trace)) p → FiledIn (own j c.hist.trace) p := by
        intro j p hfiled
        rcases hfiledIn hfiled with hfiled | ⟨-, key', heq⟩
        · exact hfiled
        · cases heq
      refine ⟨fun process key promise hmem => hfiledAt (h.mapped _ _ _ (hmap ▸ hmem)),
        fun j t p ht hjoined => ?_, fun j p hfiled => ?_, fun j p hfiled hsettled => ?_⟩
      · rcases hjoinedIn hjoined with hjoined | ⟨-, key', heq⟩
        · exact hold ht hjoined
        · cases heq
      · dsimp only
        rw [hpromises, List.length_set]
        exact h.filed j p (hfiled' hfiled)
      · have hown := h.filed j p (hfiled' hfiled)
        dsimp only
        rw [hpromises]
        by_cases hsame : promise = p
        · subst hsame
          exact ⟨result, List.getElem?_set_self hown⟩
        · rw [List.getElem?_set_ne hsame]
          rcases hsettledIn hsettled with hsettled | ⟨result', heq⟩
          · exact h.settled j p (hfiled' hfiled) hsettled
          · cases heq
            exact absurd rfl hsame
    | leaves henter hsettle hpromises hmap =>
      refine ⟨fun process key promise hmem => hfiledAt (h.mapped _ _ _ (hmap _ _ hmem)),
        fun j t p ht hjoined => ?_, fun j p hfiled => ?_, fun j p hfiled hsettled => ?_⟩
      · rcases hjoinedIn hjoined with hjoined | ⟨-, key, heq⟩
        · exact hold ht hjoined
        · exact absurd heq (henter _ _)
      · rcases hfiledIn hfiled with hfiled | ⟨-, key, heq⟩
        · exact hpromises ▸ h.filed j p hfiled
        · exact absurd heq (henter _ _)
      · rcases hfiledIn hfiled with hfiled | ⟨-, key, heq⟩
        · rcases hsettledIn hsettled with hsettled | ⟨result, heq⟩
          · exact hpromises ▸ h.settled j p hfiled hsettled
          · exact absurd heq (hsettle _ _)
        · exact absurd heq (henter _ _)
  | @env e w henv =>
    have hsame : w.confirmations = c.hist.world.confirmations ∧
        w.promises = c.hist.world.promises := by
      cases e <;> obtain rfl := Option.some.inj henv <;> exact ⟨rfl, rfl⟩
    refine ⟨fun process key promise hmem => hfiledAt (h.mapped _ _ _ (hsame.1 ▸ hmem)),
      fun i t promise ht hjoined => hfiledAt (h.joined i t promise ht hjoined),
      fun i promise hfiled => hsame.2 ▸ h.filed i promise hfiled,
      fun i promise hfiled hsettled => hsame.2 ▸ h.settled i promise hfiled hsettled⟩

/-! ## Nobody waits for ever -/

/-- Every operation but waiting can be performed at any moment. -/
theorem World.unblocked {op : Op} (h : ∀ promise, op ≠ .awaitConfirmation promise) (w : World) :
    ∃ o next, w.exec d process o op = some next := by
  cases op with
  | awaitConfirmation promise => exact absurd rfl (h promise)
  | transaction t =>
    exact ⟨⟨"", some ""⟩, (w, .error (.error "")), rfl⟩
  | manifestSweepDue nowMs =>
    simp only [World.exec]
    split <;> exact ⟨⟨"", none⟩, _, rfl⟩
  | enterConfirmation key =>
    simp only [World.exec]
    split <;> exact ⟨⟨"", none⟩, _, rfl⟩
  | _ => exact ⟨⟨"", none⟩, _, rfl⟩

/-- A world in which nothing is in flight yet: the processes have just come up. -/
def World.Fresh (w : World) : Prop := w.promises = [] ∧ ∀ process, w.confirmations process = []

variable {w₀ : World} {allows : History → Act? → Prop} {pools : ℕ → Pool} {n : ℕ}
variable {i : ℕ} {t : Task Op Resp Request (Except Failure Answer)}

theorem charted_of_reach (hw₀ : w₀.Fresh) (h : Reach (provider d) allows ⟨⟨w₀, []⟩, []⟩ c) :
    Charted c := by
  induction h with
  | refl =>
    refine ⟨fun process key promise hmem => ?_, fun i t promise ht _ => by simp at ht, ?_, ?_⟩
    · rw [hw₀.2 process] at hmem
      exact absurd hmem List.not_mem_nil
    · rintro i promise ⟨key, hmem⟩
      exact absurd hmem List.not_mem_nil
    · rintro i promise ⟨key, hmem⟩
      exact absurd hmem List.not_mem_nil
  | step hreach _ hstep ih => exact ih.step (hreach.journal handle_leaves) hstep

/-- Every task of a process is served fairly. -/
def ServedFairly (d : Deployment) (pools : ℕ → Pool) (process : ℕ) : Prop :=
  ∀ n i t, (pools n).tasks[i]? = some t → t.req.process = process → FairTo (provider d) pools i

/-- What was filed is settled in the end. -/
theorem FiledAt.settles (hw₀ : w₀.Fresh) (h : Endless (provider d) allows pools)
    (h₀ : Reach (provider d) allows ⟨⟨w₀, []⟩, []⟩ (pools 0))
    (hserved : ServedFairly d pools process) (hfiled : FiledAt (pools n) process promise) :
    ∃ m, n ≤ m ∧ ∀ m', m ≤ m' →
      ∃ result, (pools m').hist.world.promises[promise]? = some (some result) := by
  obtain ⟨i, ⟨req, rest⟩, ht, hprocess, hfiled⟩ := hfiled
  have hkept : ∀ m, Kept (fun _ => WaitsForOthers) (fun _ _ => LeavesNothing) (pools m) :=
    fun m => (h.reach h₀).journal handle_leaves
  have hfiled' : ∀ m, n ≤ m → FiledIn (own i (pools m).hist.trace) promise := fun m hm =>
    h.keeps (K := fun c => FiledIn (own i c.hist.trace) promise)
      (fun hstep hfiled => hfiled.later hstep.own_suffix) hfiled hm
  have hgoes : ∀ n' op k, n ≤ n' →
      (∀ m, n' ≤ m → (pools m).tasks[i]? = some ⟨req, .call op k⟩) →
        ∃ m, n' ≤ m ∧ ∀ m', m ≤ m' → (pools m').CanGo (provider d) i := by
    refine fun n' op k hn' hstays => ⟨n', Nat.le_refl n', fun m hm => ?_⟩
    have hknows : WaitsForOthers (own i (pools m).hist.trace) op :=
      ((hkept m).journal i _ (hstays m hm)).1
    -- a request that filed a confirmation never waits for another
    have hfree : ∀ p, op ≠ .awaitConfirmation p := by
      rintro p rfl
      exact hknows.2 promise (hfiled' m (Nat.le_trans hn' hm))
    obtain ⟨o, next, hexec⟩ := World.unblocked hfree (pools m).hist.world
    exact ⟨req, op, k, o, next, hstays m hm, hexec⟩
  obtain ⟨m, hm, a, hanswer⟩ := h.answers (hserved n i _ ht hprocess) hgoes (Nat.le_refl n) ht
  have hsettled : SettledIn (own i (pools m).hist.trace) promise :=
    (hkept m).answer hanswer promise (hfiled' m hm)
  refine ⟨m, hm, fun m' hm' => ?_⟩
  have hsettled' : SettledIn (own i (pools m').hist.trace) promise :=
    h.keeps (K := fun c => SettledIn (own i c.hist.trace) promise)
      (fun hstep hsettled => hsettled.imp fun _ hmem => hstep.own_suffix.subset hmem) hsettled hm'
  exact (charted_of_reach hw₀ (h.reach h₀)).settled i promise (hfiled' m' (Nat.le_trans hm hm')) hsettled'

/-- **Every request returns**, in every run that serves its process fairly. -/
theorem request_returns (hw₀ : w₀.Fresh) (h : Endless (provider d) allows pools)
    (h₀ : Reach (provider d) allows ⟨⟨w₀, []⟩, []⟩ (pools 0))
    (hserved : ServedFairly d pools process) (ht : (pools n).tasks[i]? = some t)
    (hprocess : t.req.process = process) : ∃ m, n ≤ m ∧ ∃ a, (pools m).answer i = some a := by
  obtain ⟨req, rest⟩ := t
  have hgoes : ∀ n' op k, 0 ≤ n' →
      (∀ m, n' ≤ m → (pools m).tasks[i]? = some ⟨req, .call op k⟩) →
        ∃ m, n' ≤ m ∧ ∀ m', m ≤ m' → (pools m').CanGo (provider d) i := by
    intro n' op k _ hstays
    have hgo : ∀ {m}, n' ≤ m → (∃ o next, (pools m).hist.world.exec d req.process o op = some next) →
        (pools m).CanGo (provider d) i := by
      rintro m hm ⟨o, next, hexec⟩
      exact ⟨req, op, k, o, next, hstays m hm, hexec⟩
    by_cases hawait : ∃ promise, op = .awaitConfirmation promise
    · obtain ⟨promise, rfl⟩ := hawait
      have hkept : Kept (fun _ => WaitsForOthers) (fun _ _ => LeavesNothing) (pools n') :=
        (h.reach h₀).journal handle_leaves
      have hjoined : JoinedIn (own i (pools n').hist.trace) promise :=
        (hkept.journal i _ (hstays n' (Nat.le_refl n'))).1.1
      have hfiled : FiledAt (pools n') req.process promise :=
        (charted_of_reach hw₀ (h.reach h₀)).joined i _ promise (hstays n' (Nat.le_refl n')) hjoined
      obtain ⟨m, hm, hsettles⟩ := hfiled.settles hw₀ h h₀ (hprocess ▸ hserved)
      refine ⟨m, hm, fun m' hm' => hgo (Nat.le_trans hm hm') ?_⟩
      obtain ⟨result, hresult⟩ := hsettles m' hm'
      exact ⟨⟨"", none⟩, ((pools m').hist.world, result), by simp only [World.exec, hresult]⟩
    · have hfree : ∀ promise, op ≠ .awaitConfirmation promise := fun promise heq =>
        hawait ⟨promise, heq⟩
      exact ⟨n', Nat.le_refl n', fun m hm => hgo hm (World.unblocked hfree _)⟩
  obtain ⟨m, hm, a, hanswer⟩ := h.answers (hserved n i _ ht hprocess) hgoes (Nat.zero_le n) ht
  exact ⟨m, hm, a, by simp only [Config.answer, hanswer]⟩

end TransitBpp
