import TransitBpp.TransitExchanges

/-!
# Every request is served in the end

A confirm waits for the encoder, for its own promise, or for the promise of another confirm, which never
waits for a third. So where the encoder answers and promises call back, every confirm is answered, the
one operation that can wait goes on, and every handler returns. `transit_requests_served` says so of all
exchanges of every fair run that never ends.
-/

namespace TransitBpp.Trv11

open Interleave Js JsonSchema

/-! ## Confirms go on -/

/-- A confirm that waits for no other one. -/
def Task.Alone (t : Task) : Prop := ∀ j, t.stage ≠ .joined j

section Confirms

variable {hmac : Hmac} {services : PassOperatorKey → Service} {s s' : State} {m : Move} {i j : ℕ}
  {t t' : Task} {outcome : Except Failure ConfirmedOrder}

theorem Stage.Next.alone {stage stage' : Stage} (h : stage.Next stage') (j : ℕ) : stage' ≠ .joined j := by
  rintro rfl
  cases h

theorem Task.InFlight.alone (h : t.InFlight) : t.Alone := by
  intro j hstage
  rcases h with ⟨issue, hencoding⟩ | ⟨outcome, hsettled⟩
  · rw [hstage] at hencoding
    cases hencoding
  · rw [hstage] at hsettled
    cases hsettled

/-- A confirm stays alone. -/
theorem Does.alone (h : Does hmac services s m s') (ht : s.tasks[i]? = some t) (halone : t.Alone) :
    ∃ t', s'.tasks[i]? = some t' ∧ t'.Alone := by
  rcases h.next ht with hsame | ⟨stage, ht', hnext⟩
  · exact ⟨t, hsame, halone⟩
  · exact ⟨_, ht', hnext.alone⟩

/-- **Who is waited for waits for nobody.** -/
theorem Reachable.alone (h : Reachable hmac services s) :
    ∀ (i : ℕ) (t : Task) (j : ℕ), s.tasks[i]? = some t → t.stage = .joined j →
      ∃ owner, s.tasks[j]? = some owner ∧ owner.Alone := by
  induction h with
  | refl => intro i t j ht; cases ht
  | @tail s s' hreach hmove ih =>
    obtain ⟨m, hstep⟩ := hmove
    have hdoes := step_does hstep
    intro i t j ht hstage
    rcases hdoes.joins ht hstage with hbefore | hpending
    · obtain ⟨owner, howner, halone⟩ := ih i t j hbefore hstage
      exact hdoes.alone howner halone
    · obtain ⟨owner, howner, -, hflight⟩ := (Reachable.kept hreach).owners _ _ hpending
      exact hdoes.alone howner hflight.alone

theorem answerOf_iff : s.answerOf i = some outcome ↔
    ∃ t, s.tasks[i]? = some t ∧ t.stage = .answered outcome := by
  constructor
  · intro h
    rw [State.answerOf] at h
    split at h
    · rename_i operator request draws outcome' ht
      obtain rfl := Option.some.inj h
      exact ⟨_, ht, rfl⟩
    · cases h
  · rintro ⟨⟨operator, request, draws, stage⟩, ht, hstage⟩
    obtain rfl : stage = .answered outcome := hstage
    rw [State.answerOf, ht]

/-- What a confirm was answered is final. -/
theorem Does.answerOf (h : Does hmac services s m s') (hanswer : s.answerOf i = some outcome) :
    s'.answerOf i = some outcome := by
  obtain ⟨t, ht, hstage⟩ := answerOf_iff.mp hanswer
  rcases h.next ht with hsame | ⟨t', ht', hnext⟩
  · exact answerOf_iff.mpr ⟨t, hsame, hstage⟩
  · rw [hstage] at hnext
    cases hnext

/-- A confirm is one more task, of its own transaction. -/
theorem confirm_tasks (operator : PassOperatorKey) (request : ConfirmRequest) (draws : Draws) :
    ∃ t, (s.confirm hmac services operator request draws).tasks = s.tasks ++ [t] ∧
      t.key = ⟨operator, request.identity⟩ := by
  rw [State.confirm]
  split
  · exact ⟨_, rfl, rfl⟩
  · split
    · exact ⟨_, rfl, rfl⟩
    · split <;> exact ⟨_, rfl, rfl⟩

end Confirms

/-! ## Confirms are answered -/

/-- The confirm that an event is about. -/
def TransitEvent.about : TransitEvent → Option ℕ
  | tick _ => none
  | encoded i _ => some i
  | conclude i => some i
  | resume i => some i

/-- The confirms of a pool. -/
def TransitPool.confirms (pool : TransitPool) : List Task := pool.hist.world.state.tasks

/-- Confirm `i` does not stay where it is for ever while the encoder or a promise could see to it. -/
def SeenTo (h : TransitHost) (c : TransitConfig) (pools : ℕ → TransitPool) (i : ℕ) : Prop :=
  ∀ n t, (∀ m, n ≤ m → (pools m).confirms[i]? = some t) → ¬ ∀ m, n ≤ m →
    ∃ e w, TransitEvent.about e = some i ∧ (pools m).hist.world.happen h c e = some w

section Pools

variable {h : TransitHost} {c : TransitConfig} {w w' : TransitWorld} {pool pool' : TransitPool}
  {pools : ℕ → TransitPool} {i n : ℕ} {t : Task} {clock : ClockTime}
  {outcome : Except Failure ConfirmedOrder}
  {allows : Hist TransitOp TransitResp TransitWorld → Interleave.Move TransitOp TransitRequest
    TransitEvent → Prop} {pm : Interleave.Move TransitOp TransitRequest TransitEvent}

/-- A move of a world is a move of the confirms, or leaves them alone. -/
def TransitWorld.Moves (h : TransitHost) (c : TransitConfig) (w w' : TransitWorld) : Prop :=
  w'.state = w.state ∨ ∃ m, w.state.step h.hmac c.services m = some w'.state

theorem TransitWorld.moves_advance {m : Move} (hadvance : w.advance h c m = some w') :
    w.Moves h c w' := by
  obtain ⟨state, hstep, rfl⟩ := Option.map_eq_some_iff.mp hadvance
  exact .inr ⟨m, hstep⟩

theorem TransitWorld.moves_exec {o : Outside} {op : TransitOp} {r : TransitResp op}
    (hexec : w.exec h c o op = some (w', r)) : w.Moves h c w' := by
  cases op with
  | search operator identity query =>
    unfold TransitWorld.exec at hexec
    obtain ⟨advanced, hadvance, hsame⟩ := Option.map_eq_some_iff.mp hexec
    obtain ⟨rfl, -⟩ := Prod.mk.inj hsame
    exact moves_advance hadvance
  | clock =>
    obtain ⟨rfl, -⟩ := Prod.mk.inj (Option.some.inj hexec)
    exact .inl rfl
  | read =>
    obtain ⟨rfl, -⟩ := Prod.mk.inj (Option.some.inj hexec)
    exact .inl rfl
  | confirm operator request =>
    unfold TransitWorld.exec at hexec
    obtain ⟨advanced, hadvance, hsame⟩ := Option.map_eq_some_iff.mp hexec
    obtain ⟨rfl, -⟩ := Prod.mk.inj hsame
    exact moves_advance hadvance
  | answer i =>
    obtain ⟨answered, -, hsame⟩ := Option.map_eq_some_iff.mp hexec
    obtain ⟨rfl, -⟩ := Prod.mk.inj hsame
    exact .inl rfl

theorem TransitWorld.moves_happen {e : TransitEvent} (hhappen : w.happen h c e = some w') :
    w.Moves h c w' := by
  cases e with
  | tick clock =>
    obtain rfl := Option.some.inj hhappen
    exact .inl rfl
  | encoded i outcome => exact moves_advance hhappen
  | conclude i => exact moves_advance hhappen
  | resume i => exact moves_advance hhappen

theorem moves_of_step (hstep : Step (transitProvider h c) pool pm pool') :
    pool.hist.world.Moves h c pool'.hist.world := by
  cases hstep with
  | start req => exact .inl rfl
  | perform htask hdoes =>
    obtain ⟨o, w, hexec, rfl⟩ := hdoes
    exact TransitWorld.moves_exec hexec
  | env henv => exact TransitWorld.moves_happen henv

/-- A confirm stays as it is, or goes on. -/
theorem TransitWorld.Moves.next (hmoves : w.Moves h c w') (ht : w.state.tasks[i]? = some t) :
    w'.state.tasks[i]? = some t ∨
      ∃ stage, w'.state.tasks[i]? = some { t with stage := stage } ∧ t.stage.Next stage := by
  rcases hmoves with hsame | ⟨m, hstep⟩
  · exact .inl (hsame ▸ ht)
  · exact (step_does hstep).next ht

/-- What a confirm was answered is final. -/
theorem answer_stays (hstep : Step (transitProvider h c) pool pm pool')
    (hanswer : pool.hist.world.state.answerOf i = some outcome) :
    pool'.hist.world.state.answerOf i = some outcome := by
  rcases moves_of_step hstep with hsame | ⟨m, hmove⟩
  · exact hsame ▸ hanswer
  · exact (step_does hmove).answerOf hanswer

/-- A confirm goes on, if it can from some moment on. -/
theorem confirm_goes_on (hendless : Endless (transitProvider h c) allows pools)
    (hseen : SeenTo h c pools i) (ht : (pools n).confirms[i]? = some t)
    (hcan : (∀ m, n ≤ m → (pools m).confirms[i]? = some t) → ∃ m, n ≤ m ∧ ∀ m', m ≤ m' →
      ∃ e w, TransitEvent.about e = some i ∧ (pools m').hist.world.happen h c e = some w) :
    ∃ m, n ≤ m ∧ ∃ stage, (pools m).confirms[i]? = some { t with stage := stage } ∧
      t.stage.Next stage := by
  by_contra hnot
  have hstays : ∀ m, n ≤ m → (pools m).confirms[i]? = some t := by
    intro m hm
    induction m, hm using Nat.le_induction with
    | base => exact ht
    | succ m hm ih =>
      rcases hendless m with heq | ⟨pm, -, hstep⟩
      · exact heq ▸ ih
      · rcases (moves_of_step hstep).next ih with hsame | hnext
        · exact hsame
        · exact absurd ⟨m + 1, by omega, hnext⟩ hnot
  -- it can go on for ever and does not, which nobody allows
  obtain ⟨m, hm, hcan⟩ := hcan hstays
  exact hseen m t (fun m' hm' => hstays m' (Nat.le_trans hm hm')) hcan

/-- Who is settled is answered. -/
theorem settled_answered (hendless : Endless (transitProvider h c) allows pools)
    (hseen : SeenTo h c pools i) (ht : (pools n).confirms[i]? = some t)
    (hstage : t.stage = .settled outcome) :
    ∃ m, n ≤ m ∧ ∃ outcome, (pools m).hist.world.state.answerOf i = some outcome := by
  obtain ⟨m, hm, stage, ht', hnext⟩ := confirm_goes_on hendless hseen ht fun hstays => by
    refine ⟨n, Nat.le_refl n, fun m hm => ⟨.conclude i, ?_⟩⟩
    have htask : (pools m).hist.world.state.tasks[i]? = some t := hstays m hm
    simp [TransitEvent.about, TransitWorld.happen, TransitWorld.advance, State.step, htask, hstage]
  rw [hstage] at hnext
  cases hnext with
  | conclude => exact ⟨m, hm, outcome, answerOf_iff.mpr ⟨_, ht', rfl⟩⟩

/-- Who waits for no other confirm is answered. -/
theorem alone_answered (hendless : Endless (transitProvider h c) allows pools)
    (hseen : SeenTo h c pools i) (ht : (pools n).confirms[i]? = some t) (halone : t.Alone) :
    ∃ m, n ≤ m ∧ ∃ outcome, (pools m).hist.world.state.answerOf i = some outcome := by
  cases hstage : t.stage with
  | joined j => exact absurd hstage (halone j)
  | answered outcome => exact ⟨n, Nat.le_refl n, outcome, answerOf_iff.mpr ⟨t, ht, hstage⟩⟩
  | settled outcome => exact settled_answered hendless hseen ht hstage
  | encoding issue =>
    -- the encoder may always fail
    obtain ⟨m, hm, stage, ht', hnext⟩ := confirm_goes_on hendless hseen ht fun hstays => by
      refine ⟨n, Nat.le_refl n, fun m hm => ⟨.encoded i (.error ""), ?_⟩⟩
      have htask : (pools m).hist.world.state.tasks[i]? = some t := hstays m hm
      simp [TransitEvent.about, TransitWorld.happen, TransitWorld.advance, State.step, htask, hstage,
        Except.map, Except.mapError]
    rw [hstage] at hnext
    cases hnext with
    | settle =>
      obtain ⟨m', hm', hanswer⟩ := settled_answered hendless hseen ht' rfl
      exact ⟨m', by omega, hanswer⟩

/-- **Every confirm is answered**, whether it waits for the encoder or for another one. -/
theorem confirm_answered (hendless : Endless (transitProvider h c) allows pools)
    (hreach : ∀ n, Reachable h.hmac c.services (pools n).hist.world.state)
    (hseen : ∀ i, SeenTo h c pools i) (ht : (pools n).confirms[i]? = some t) :
    ∃ m, n ≤ m ∧ ∃ outcome, ∀ m', m ≤ m' → (pools m').hist.world.state.answerOf i = some outcome := by
  have hfinal {i m : ℕ} {outcome : Except Failure ConfirmedOrder}
      (hanswer : (pools m).hist.world.state.answerOf i = some outcome) {m' : ℕ} (hm' : m ≤ m') :
      (pools m').hist.world.state.answerOf i = some outcome :=
    hendless.keeps (fun hstep hanswer => answer_stays hstep hanswer) hanswer hm'
  by_cases halone : t.Alone
  · obtain ⟨m, hm, outcome, hanswer⟩ := alone_answered hendless (hseen i) ht halone
    exact ⟨m, hm, outcome, fun m' => hfinal hanswer⟩
  · -- the one it has joined is answered first
    simp only [Task.Alone, not_forall, not_not] at halone
    obtain ⟨j, hstage⟩ := halone
    obtain ⟨owner, howner, halone⟩ := Reachable.alone (hreach n) i t j ht hstage
    obtain ⟨m₁, hm₁, outcome, hanswer⟩ := alone_answered hendless (hseen j) howner halone
    obtain ⟨m, hm, stage, ht', hnext⟩ := confirm_goes_on hendless (hseen i) ht fun hstays => by
      refine ⟨m₁, hm₁, fun m hm => ⟨.resume i, ?_⟩⟩
      have htask : (pools m).hist.world.state.tasks[i]? = some t := hstays m (by omega)
      obtain ⟨owner', howner', hstage'⟩ := answerOf_iff.mp (hfinal hanswer hm)
      simp [TransitEvent.about, TransitWorld.happen, TransitWorld.advance, State.step, htask, hstage,
        howner', hstage']
    rw [hstage] at hnext
    cases hnext with
    | resume _ outcome => exact ⟨m, hm, outcome, fun m' => hfinal (answerOf_iff.mpr ⟨_, ht', rfl⟩)⟩

end Pools

/-! ## Handlers return -/

/-- A handler awaits only what it was given. -/
def Awaits (jr : List (Line TransitOp TransitResp)) : TransitOp → Prop
  | .answer i => ∃ operator request, (⟨.confirm operator request, i⟩ : Line TransitOp TransitResp) ∈ jr
  | _ => True

/-- A handler that awaits no more than that. -/
def Waits {α : Type} (x : TransitHandler α) (jr : List (Line TransitOp TransitResp)) : Prop :=
  Handler.Journal Awaits (fun _ _ => True) (fun _ _ => True) x jr

section Handlers

variable {h : TransitHost} {c : TransitConfig} {operator : PassOperatorKey} {work : Work}
  {jr : List (Line TransitOp TransitResp)} {α β : Type}

theorem waits_perform {op : TransitOp} {f : TransitResp op → TransitHandler α} (hop : Awaits jr op)
    (hf : ∀ r, Waits (f r) (⟨op, r⟩ :: jr)) : Waits (perform op >>= f) jr :=
  Handler.journal_bind.mpr ⟨hop, hf⟩

theorem waits_lift {x : Except Failure β} {f : β → TransitHandler α} (hf : ∀ b, Waits (f b) jr) :
    Waits (liftM x >>= f) jr :=
  Handler.journal_bind.mpr (Handler.journal_lift.mpr ⟨fun b _ => hf b, fun _ _ => trivial⟩)

theorem waits_pure (a : α) : Waits (pure a) jr := trivial

theorem passSearch_waits (request : SearchRequest) : Waits (passSearch c operator request) jr :=
  waits_perform trivial fun _ => waits_lift fun _ => waits_pure _

/-- **An order waits for its own confirm only.** -/
theorem orderWork_waits : Waits (orderWork c operator work) jr := by
  cases work with
  | search request => exact passSearch_waits request
  | select request => exact waits_perform trivial fun _ => waits_lift fun _ => waits_pure _
  | init request => exact waits_perform trivial fun _ => waits_lift fun _ => waits_pure _
  | confirm request =>
    refine waits_perform trivial fun i => ?_
    refine waits_perform ⟨operator, request, List.mem_cons_self⟩ fun _ => ?_
    exact waits_lift fun _ => waits_pure _
  | status context orderId refId =>
    exact waits_perform trivial fun _ => waits_lift fun _ => waits_pure _

theorem transitHandler_waits (request : TransitRequest) : Waits (transitHandler h c request) jr := by
  cases request with
  | pass work => exact orderWork_waits
  | network key work =>
    cases work with
    | search request =>
      rw [transitHandler]
      split
      · exact passSearch_waits request
      · exact waits_lift fun _ => waits_perform trivial fun _ => waits_lift fun _ => waits_pure _
    | select request => exact @orderWork_waits c key.pass (.select request) jr
    | init request => exact @orderWork_waits c key.pass (.init request) jr
    | confirm request => exact @orderWork_waits c key.pass (.confirm request) jr
    | status context orderId refId =>
      exact @orderWork_waits c key.pass (.status context orderId refId) jr

theorem transitProvider_waits (request : TransitRequest) :
    ((transitProvider h c).handler request).Journal Awaits (fun _ _ => True) [] := by
  refine Prog.Journal.mono (fun _ _ _ => id) ?_ (transitHandler_waits request)
  rintro (failure | answer) jr - -
  · trivial
  · trivial

end Handlers

section Returns

variable {h : TransitHost} {c : TransitConfig} {w : TransitWorld} {pool : TransitPool}
  {pools : ℕ → TransitPool} {i n : ℕ} {clock : ClockTime}
  {t : Interleave.Task TransitOp TransitResp TransitRequest (Except Failure TransitAnswer)}
  {allows : Hist TransitOp TransitResp TransitWorld → Interleave.Move TransitOp TransitRequest
    TransitEvent → Prop}

/-- Every confirm that was given is there. -/
def ConfirmsGiven (s : Hist TransitOp TransitResp TransitWorld) : Prop :=
  ∀ (task : ℕ) (operator : PassOperatorKey) (request : PaidRequest) (i : ℕ),
    (⟨task, .confirm operator request, i⟩ : Entry TransitOp TransitResp) ∈ s.trace →
      ∃ t, s.world.state.tasks[i]? = some t

theorem TransitWorld.Moves.given {w' : TransitWorld} (hmoves : w.Moves h c w')
    (hgiven : ∃ t, w.state.tasks[i]? = some t) : ∃ t, w'.state.tasks[i]? = some t := by
  obtain ⟨t, ht⟩ := hgiven
  rcases hmoves.next ht with hsame | ⟨t', ht', -⟩
  · exact ⟨t, hsame⟩
  · exact ⟨_, ht'⟩

/-- A confirm that was just asked is there, and is of its own transaction. -/
theorem exec_gives {o : Outside} {w' : TransitWorld} {operator : PassOperatorKey} {request : PaidRequest}
    {i : ℕ} (hexec : w.exec h c o (.confirm operator request) = some (w', i)) :
    ∃ t, w'.state.tasks[i]? = some t ∧ t.key = ⟨operator, request.identity⟩ := by
  unfold TransitWorld.exec at hexec
  obtain ⟨advanced, hadvance, hsame⟩ := Option.map_eq_some_iff.mp hexec
  obtain ⟨rfl, rfl⟩ := Prod.mk.inj hsame
  obtain ⟨state, hstep, rfl⟩ := Option.map_eq_some_iff.mp hadvance
  obtain rfl := Option.some.inj hstep
  obtain ⟨t, htasks, hkey⟩ := @confirm_tasks h.hmac c.services w.state operator
    request.toConfirmRequest o.draws
  exact ⟨t, by rw [htasks]; simp, hkey⟩

theorem confirms_given
    (hreach : Reach (transitProvider h c) allows ⟨⟨TransitWorld.initial clock, []⟩, []⟩ pool) :
    ConfirmsGiven pool.hist := by
  refine Reach.invariant ConfirmsGiven transitProvider_waits
    (fun _ _ _ _ he => absurd he List.not_mem_nil) ?_ ?_ hreach
  · rintro s s' task req op r hgiven - - ⟨o, w, hexec, rfl⟩ task' operator request i he
    rcases List.mem_cons.mp he with heq | he
    · obtain ⟨rfl, rfl, hr⟩ := Entry.mk.inj heq
      obtain rfl := eq_of_heq hr
      obtain ⟨t, ht, -⟩ := exec_gives hexec
      exact ⟨t, ht⟩
    · exact (TransitWorld.moves_exec hexec).given (hgiven task' operator request i he)
  · rintro s e w hgiven - hhappen task operator request i he
    exact (TransitWorld.moves_happen hhappen).given (hgiven task operator request i he)

/-- No other operation waits. -/
theorem exec_unblocked {op : TransitOp} (hop : ∀ i, op ≠ .answer i) (o : Outside) :
    ∃ next, w.exec h c o op = some next := by
  cases op with
  | answer i => exact absurd rfl (hop i)
  | search operator identity query => exact ⟨_, rfl⟩
  | confirm operator request => exact ⟨_, rfl⟩
  | clock => exact ⟨_, rfl⟩
  | read => exact ⟨_, rfl⟩

/-- **Every handler returns**, in every run that sees to the confirms. -/
theorem handler_returns (hhost : h.Proper) (hconfig : c.Proper)
    (hendless : Endless (transitProvider h c) allows pools)
    (h₀ : Reach (transitProvider h c) allows ⟨⟨TransitWorld.initial clock, []⟩, []⟩ (pools 0))
    (hfair : FairTo (transitProvider h c) pools i) (hseen : ∀ i, SeenTo h c pools i)
    (ht : (pools n).tasks[i]? = some t) :
    ∃ m, n ≤ m ∧ ∃ result, (pools m).answer i = some result := by
  obtain ⟨req, rest⟩ := t
  have hreach (n : ℕ) : Reach (transitProvider h c) allows ⟨⟨TransitWorld.initial clock, []⟩, []⟩
      (pools n) := hendless.reach h₀
  have hgoes : ∀ n' op k, 0 ≤ n' → (∀ m, n' ≤ m → (pools m).tasks[i]? = some ⟨req, .call op k⟩) →
      ∃ m, n' ≤ m ∧ ∀ m', m ≤ m' → (pools m').CanGo (transitProvider h c) i := by
    intro n' op k _ hstays
    have hgo {m : ℕ} (hm : n' ≤ m)
        (hexec : ∃ o next, (pools m).hist.world.exec h c o op = some next) :
        (pools m).CanGo (transitProvider h c) i := by
      obtain ⟨o, next, hexec⟩ := hexec
      exact ⟨req, op, k, o, next, hstays m hm, hexec⟩
    -- only a confirm is waited for, and it is one that was given to this handler
    by_cases hanswer : ∃ j, op = .answer j
    · obtain ⟨j, rfl⟩ := hanswer
      have hkept := (hreach n').journal transitProvider_waits
      obtain ⟨operator, request, hgiven⟩ := (hkept.journal i _ (hstays n' (Nat.le_refl n'))).1
      obtain ⟨confirm, hconfirm⟩ := confirms_given (hreach n') i operator request j (mem_own.mp hgiven)
      obtain ⟨m, hm, outcome, hanswered⟩ := confirm_answered hendless
        (fun m => (pool_stands hhost hconfig (hreach m)).1.reachable) hseen hconfirm
      refine ⟨m, hm, fun m' hm' => hgo (Nat.le_trans hm hm') ⟨Specimen.outside, ?_⟩⟩
      exact ⟨((pools m').hist.world, outcome), by simp only [TransitWorld.exec, hanswered m' hm']; rfl⟩
    · have hother : ∀ j, op ≠ .answer j := fun j heq => hanswer ⟨j, heq⟩
      exact ⟨n', Nat.le_refl n', fun m hm =>
        hgo hm ⟨Specimen.outside, exec_unblocked hother Specimen.outside⟩⟩
  obtain ⟨m, hm, result, hresult⟩ := hendless.answers hfair hgoes (Nat.zero_le n) ht
  exact ⟨m, hm, result, by simp only [Config.answer, hresult]⟩

end Returns

/-! ## Every request is served -/

section Office

variable {h : TransitHost} {c : TransitConfig} {w : TransitWorld} {offices : ℕ → TransitOffice}
  {i j n : ℕ} {clock : ClockTime} {y : TransitExchange} {outcome : Except Failure ConfirmedOrder}
  {allows : Hist TransitOp TransitResp TransitWorld → Interleave.Move TransitOp TransitRequest
    TransitEvent → Prop}

/-- **Every request is served in the end**: where handlers go on, the encoder answers, promises call back
and exchanges are seen to, whatever was taken in is answered as its schema says. -/
theorem transit_requests_served (hhost : h.Proper) (hconfig : c.Proper)
    (hendless : EndlessOffice (transitProvider h c) (transitDesk h c) TransitWorld.clock allows offices)
    (h₀ : OfficeReach (transitProvider h c) (transitDesk h c) TransitWorld.clock allows
      (TransitWorld.initial clock) (offices 0))
    (hfair : ∀ i, FairTo (transitProvider h c) (fun n => (offices n).pool) i)
    (hseen : ∀ i, SeenTo h c (fun n => (offices n).pool) i)
    (hturns : ∀ j, FairTurns (transitDesk h c) TransitWorld.clock offices j)
    (hy : (offices n).exchanges[j]? = some y) :
    ∃ m, n ≤ m ∧ ∃ z, (offices m).exchanges[j]? = some z ∧ z.body = y.body ∧
      Heard h c (offices m).pool z := by
  have hfits := transit_fits (hendless.reach (n := n) h₀) (List.mem_of_getElem? hy)
  have hanswers : ∀ i, y.task = some i →
      ∃ m, n ≤ m ∧ ∃ result, (offices m).pool.answer i = some result := by
    intro i htask
    obtain ⟨a, -, -, t, ht, -⟩ := inHand_transit (hfits.inHand htask)
    exact handler_returns hhost hconfig hendless.pools h₀.pool (hfair i) hseen ht
  obtain ⟨m, hm, z, hz, hbody, hclosed⟩ := hendless.closes (hturns j) hy hfits hanswers
  have hreach := hendless.reach (n := m) h₀
  exact ⟨m, hm, z, hz, hbody, heard_of_closed hhost hconfig hreach.pool
    (transit_fits hreach (List.mem_of_getElem? hz)) hclosed⟩

/-- Nothing more happens to a confirm that is answered. -/
theorem happen_answered {e : TransitEvent} (hanswer : w.state.answerOf i = some outcome)
    (habout : e.about = some i) : w.happen h c e = none := by
  obtain ⟨t, ht, hstage⟩ := answerOf_iff.mp hanswer
  cases e with
  | tick clock => cases habout
  | encoded i' encoded =>
    obtain rfl := Option.some.inj habout
    simp [TransitWorld.happen, TransitWorld.advance, State.step, ht, hstage]
  | conclude i' =>
    obtain rfl := Option.some.inj habout
    simp [TransitWorld.happen, TransitWorld.advance, State.step, ht, hstage]
  | resume i' =>
    obtain rfl := Option.some.inj habout
    simp [TransitWorld.happen, TransitWorld.advance, State.step, ht, hstage]

/-- A schedule at whose end every confirm is answered sees to all of them. -/
theorem course_seenTo {o : TransitOffice} {errands : List (Errand TransitIncoming Outside TransitEvent)}
    {allowed : Hist TransitOp TransitResp TransitWorld → Interleave.Move TransitOp TransitRequest
      TransitEvent → Bool}
    (hanswered : ∀ i ∈ List.range (o.course (transitProvider h c) (transitDesk h c) TransitWorld.clock
        allowed errands errands.length).pool.hist.world.state.tasks.length,
      ((o.course (transitProvider h c) (transitDesk h c) TransitWorld.clock allowed errands
        errands.length).pool.hist.world.state.answerOf i).isSome = true) (i : ℕ) :
    SeenTo h c (fun n => (o.course (transitProvider h c) (transitDesk h c) TransitWorld.clock allowed
      errands n).pool) i := by
  intro n t hstays hcan
  have ht := hstays (n + errands.length) (Nat.le_add_right ..)
  obtain ⟨e, w, habout, hhappen⟩ := hcan (n + errands.length) (Nat.le_add_right ..)
  dsimp only at ht hhappen
  rw [Office.course_over (Nat.le_add_left ..)] at ht hhappen
  have hlt := (List.getElem?_eq_some_iff.mp ht).1
  obtain ⟨outcome, hanswer⟩ := Option.isSome_iff_exists.mp (hanswered i (List.mem_range.mpr hlt))
  rw [happen_answered hanswer habout] at hhappen
  cases hhappen

end Office

theorem transit_requests_served_specimen : ∃ m y, 1 ≤ m ∧
    (Specimen.day m).exchanges[0]? = some y ∧
      Heard Specimen.host Specimen.config (Specimen.day m).pool y := by
  have hends : (∀ i ∈ List.range (Specimen.day Specimen.errands.length).pool.tasks.length,
      ((Specimen.day Specimen.errands.length).pool.answer i).isSome = true) ∧
      (∀ i ∈ List.range (Specimen.day Specimen.errands.length).pool.hist.world.state.tasks.length,
        ((Specimen.day Specimen.errands.length).pool.hist.world.state.answerOf i).isSome = true) ∧
      ∀ x ∈ (Specimen.day Specimen.errands.length).exchanges, x.phase.isClosed = true := by
    decide +kernel
  have harrived : ((Specimen.day 1).exchanges[0]?.map fun y => y.phase.isClosed) = some false := by
    decide +kernel
  obtain ⟨y, hy, -⟩ := Option.map_eq_some_iff.mp harrived
  have hendless : EndlessOffice (transitProvider Specimen.host Specimen.config)
      (transitDesk Specimen.host Specimen.config) TransitWorld.clock (fun _ _ => true = true)
      Specimen.day := Office.course_endless
  unfold Specimen.day at hends
  obtain ⟨m, hm, z, hz, -, hheard⟩ := transit_requests_served Specimen.host_proper
    Specimen.config_proper hendless .refl (fun i => Office.course_fair hends.1 i)
    (fun i => course_seenTo hends.2.1 i) (fun j => Office.course_fairTurns hends.2.2 j) hy
  exact ⟨m, z, hm, hz, hheard⟩

end TransitBpp.Trv11
