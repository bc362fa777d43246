import TransitBpp.Reconnecting

/-!
# What the handle can do after failures
-/

namespace TransitBpp.Db

open Interleave

variable {D Q A β γ δ : Type} {E : Engine D Q A} {allowed : Call Q → Fault → Bool}

/-! ## Runs alone -/

section Leads

variable (E allowed) (req : Request Q A β)

/-- Wherever a program alone on the handle ends from `w`, `ok` or `err` holds. -/
def Leads (ok : γ → State D → Prop) (err : Thrown → State D → Prop) (x : Act Q A γ) (w : State D) :
    Prop :=
  ∀ tr, Handler.Amid (system E allowed) (fun _ _ => False) 0 req (fun _ _ => True)
    (fun b s => ok b s.world) (fun e s => err e s.world) x ⟨w, tr⟩

variable {E allowed req} {ok : γ → State D → Prop} {err : Thrown → State D → Prop} {w : State D}

theorem leads_pure {b : γ} (h : ok b w) : Leads E allowed req ok err (pure b) w := fun _ => h

theorem leads_throw {e : Thrown} (h : err e w) : Leads E allowed req ok err (throw e) w := fun _ => h

theorem leads_bind {x : Act Q A δ} {f : δ → Act Q A γ}
    (h : Leads E allowed req (fun a => Leads E allowed req ok err (f a)) err x w) :
    Leads E allowed req ok err (x >>= f) w := by
  intro tr
  rw [Handler.amid_bind]
  exact Handler.amid_mono (fun a s ha => ha s.trace) (fun e s he => he) (h tr)

theorem leads_tryCatch {x : Act Q A γ} {f : Thrown → Act Q A γ}
    (h : Leads E allowed req ok (fun e => Leads E allowed req ok err (f e)) x w) :
    Leads E allowed req ok err (tryCatch x f) w := by
  intro tr
  rw [Handler.amid_tryCatch]
  exact Handler.amid_mono (fun a s ha => ha) (fun e s he => he s.trace) (h tr)

theorem Leads.mono {ok' : γ → State D → Prop} {err' : Thrown → State D → Prop} {x : Act Q A γ}
    (h : Leads E allowed req ok err x w) (hok : ∀ b w', ok b w' → ok' b w')
    (herr : ∀ e w', err e w' → err' e w') : Leads E allowed req ok' err' x w :=
  fun tr => Handler.amid_mono (fun b s => hok b s.world) (fun e s => herr e s.world) (h tr)

theorem leads_perform {op : Op Q} {ok : Resp A op → State D → Prop}
    (h : ∀ fault, permits allowed fault op = true → ok (step E fault op w).1 (step E fault op w).2) :
    Leads E allowed req ok err (perform op) w := by
  intro tr
  refine ⟨fun s => s = ⟨w, tr⟩, fun _ _ h _ => h.elim, rfl, ?_⟩
  rintro _ r s rfl hdoes
  obtain ⟨fault, hpermits, rfl, rfl⟩ := does_iff.mp hdoes
  exact ⟨trivial, h fault hpermits⟩

theorem leads_call {c : Call Q} {ok : Option A → State D → Prop}
    (h : ∀ fault, permits allowed fault (.call w.current c) = true →
      ∀ answer connection durable, w.here.respond E fault c w.durable =
        (answer, connection, durable) → Ends ok err answer (w.answered connection durable)) :
    Leads E allowed req ok err (call w.current c) w := by
  intro tr
  refine ⟨fun s => s = ⟨w, tr⟩, fun _ _ h _ => h.elim, rfl, ?_⟩
  rintro _ r s rfl hdoes
  obtain ⟨fault, hpermits, rfl, rfl⟩ := does_iff.mp hdoes
  obtain ⟨response, hresponse⟩ : ∃ response, w.here.respond E fault c w.durable = response :=
    ⟨_, rfl⟩
  have hends := h fault hpermits response.1 response.2.1 response.2.2 hresponse
  refine ⟨trivial, ?_⟩
  simp only [step_call, hresponse]
  obtain ⟨_ | _, connection, durable⟩ := response <;> exact hends

theorem leads_look {ok : Bool × ℕ → State D → Prop} (h : ok (w.inTransaction, w.current) w) :
    Leads E allowed req ok err look w :=
  leads_perform fun _ _ => h

theorem leads_note {isOpen : Bool} {ok : Unit → State D → Prop}
    (h : ok () { w with inTransaction := isOpen }) : Leads E allowed req ok err (note isOpen) w :=
  leads_perform fun _ _ => h

theorem leads_noteDone {kind : OperationKind} {ok : Unit → State D → Prop}
    (h : ∀ isOpen, ok () { w with inTransaction := isOpen }) :
    Leads E allowed req ok err (noteDone kind) w := by
  cases kind with
  | begin => exact leads_note (h true)
  | commit => exact leads_note (h false)
  | rollback => exact leads_note (h false)
  | other => exact leads_pure (h w.inTransaction)

theorem leads_noteBegun {kind : OperationKind} {ok : Unit → State D → Prop}
    (h : ∀ isOpen, ok () { w with inTransaction := isOpen }) :
    Leads E allowed req ok err (noteBegun kind) w := by
  cases kind with
  | begin => exact leads_note (h true)
  | commit => exact leads_pure (h w.inTransaction)
  | rollback => exact leads_pure (h w.inTransaction)
  | other => exact leads_pure (h w.inTransaction)

/-- A reconnect believes in no transaction, and its connection has none. -/
theorem leads_reconnect : Leads E allowed req
    (fun _ w' => w'.here = .autocommit ∧ w'.inTransaction = false)
    (fun _ w' => (w'.here = .autocommit ∨ w'.here = .lost) ∧ w'.inTransaction = false)
    reconnect w := by
  refine leads_bind (leads_perform fun fault _ => ?_)
  have hstep : step (A := A) E fault .reconnect w = (w.reconnected.current, w.reconnected) := rfl
  rw [hstep]
  refine leads_bind (leads_call fun fault _ answer connection durable hresponse => ?_)
  rw [State.here_reconnected] at hresponse
  rcases @Connection.respond_other D Q A E w.reconnected.durable fault _
    commandKind_pragma with ⟨hok, hauto⟩ | ⟨⟨error, herror⟩, hends⟩
  · simp only [hresponse] at hok hauto
    subst hok hauto
    rw [ends_ok]
    exact leads_pure ⟨State.here_answered .., rfl⟩
  · simp only [hresponse] at herror hends
    subst herror
    exact ⟨by simpa using hends, rfl⟩

end Leads

/-! ## One operation -/

/-- A connection that is lost is not believed to hold a transaction. -/
def State.Noticed (w : State D) : Prop := w.here = .lost → w.inTransaction = false

section Attempts

variable {req : Request Q A β} {kind : OperationKind} {operation : ℕ → Act Q A (Option A)}
variable {K L : Connection D → Prop} {w : State D}

/-- An attempt leaves the connection as its operation does, and does not leave a lost one unnoticed. -/
theorem leads_attempt (hw : w.Noticed)
    (hop : ∀ w' : State D, w'.Noticed → (w'.here = w.here ∨ w'.here = .autocommit) →
      Leads E allowed req
        (fun _ w₁ => w₁.inTransaction = w'.inTransaction ∧ w₁.here ≠ .lost ∧ L w₁.here)
        (fun e w₁ => w₁.inTransaction = w'.inTransaction ∧ K w₁.here ∧
          (w₁.here = .lost → w'.here = .lost ∨ isDeadStreamError e = true))
        (operation w'.current) w')
    (hauto : K .autocommit) (hlost : K .lost) (hroll : kind = .rollback → ∀ c, K c → L c) :
    Leads E allowed req (fun _ w₁ => w₁.Noticed ∧ L w₁.here) (fun _ w₁ => w₁.Noticed ∧ K w₁.here)
      (attempt kind operation) w := by
  refine leads_bind (leads_look (leads_tryCatch (leads_bind ?_)))
  refine (hop w hw (.inl rfl)).mono ?_ ?_
  · rintro a w₁ ⟨-, hne, hK⟩
    exact leads_bind (leads_noteDone fun isOpen => leads_pure ⟨fun h => absurd h hne, hK⟩)
  · rintro e w₁ ⟨hflag, hK, hdead⟩
    simp only [recover]
    split
    · -- nothing was left to roll back
      rename_i hnothing
      exact leads_bind (leads_note (leads_pure ⟨fun _ => rfl, hroll hnothing.1 _ hK⟩))
    · split
      · exact leads_bind (leads_note (leads_throw ⟨fun _ => rfl, hK⟩))
      · split
        · rename_i hlive
          refine leads_throw ⟨fun h => ?_, hK⟩
          rcases hdead h with h' | h'
          · rw [hflag]
            exact hw h'
          · simp [h'] at hlive
        · refine leads_bind (leads_reconnect.mono ?_ ?_)
          · rintro - w₂ ⟨hhere, hclosed⟩
            split
            · exact leads_bind (leads_note (leads_throw ⟨fun _ => rfl, by simpa [hhere] using hauto⟩))
            · refine leads_bind (leads_look (leads_bind ?_))
              refine (hop w₂ (fun _ => hclosed) (.inr hhere)).mono ?_ ?_
              · rintro a w₃ ⟨-, hne, hK⟩
                exact leads_bind (leads_noteBegun fun _ => leads_pure ⟨fun h => absurd h hne, hK⟩)
              · rintro e' w₃ ⟨hflag', hK, -⟩
                exact ⟨fun _ => hflag'.trans hclosed, hK⟩
          · rintro e' w₂ ⟨hhere | hhere, hclosed⟩
            · exact ⟨fun _ => hclosed, by rwa [hhere]⟩
            · exact ⟨fun _ => hclosed, by rwa [hhere]⟩

theorem leads_exec {sql : String} (hw : w.Noticed)
    (hok : ∀ fault c a, permits allowed fault (.call w.current (.exec sql)) = true →
      (c = w.here ∨ c = .autocommit) → ∀ durable,
      (c.respond E fault (.exec sql) durable).1 = .ok a →
        L (c.respond E fault (.exec sql) durable).2.1)
    (herr : ∀ fault c e, permits allowed fault (.call w.current (.exec sql)) = true →
      (c = w.here ∨ c = .autocommit) → ∀ durable,
      (c.respond E fault (.exec sql) durable).1 = .error e →
        K (c.respond E fault (.exec sql) durable).2.1)
    (hauto : K .autocommit) (hlost : K .lost)
    (hroll : commandKind sql = .rollback → ∀ c, K c → L c) :
    Leads E allowed req (fun _ w₁ => w₁.Noticed ∧ L w₁.here) (fun _ w₁ => w₁.Noticed ∧ K w₁.here)
      (exec sql) w := by
  refine leads_attempt hw (fun w' _ hhere => ?_) hauto hlost hroll
  refine leads_call fun fault hpermits answer connection durable hresponse => ?_
  have hpermits' : permits allowed fault (.call w.current (.exec sql)) = true := by
    cases fault <;> exact hpermits
  cases answer with
  | ok a =>
    have h : (w'.here.respond E fault (.exec sql) w'.durable).1 = .ok a := by rw [hresponse]
    have hne := (Connection.respond_ok h).2.2
    have hK := hok fault _ a hpermits' hhere w'.durable h
    rw [hresponse] at hne hK
    exact ⟨rfl, by simpa using hne, by simpa using hK⟩
  | error e =>
    have h : (w'.here.respond E fault (.exec sql) w'.durable).1 = .error e := by rw [hresponse]
    have hdead := Connection.respond_lost h
    have hK := herr fault _ e hpermits' hhere w'.durable h
    rw [hresponse] at hdead hK
    exact ⟨rfl, by simpa using hK, by simpa using hdead⟩

/-- A statement leaves no lost connection unnoticed. -/
theorem leads_withStatement {q : Q} (hw : w.Noticed) :
    Leads E allowed req (fun _ w₁ => w₁.Noticed) (fun _ w₁ => w₁.Noticed) (withStatement q) w := by
  refine (leads_attempt (K := fun _ => True) (L := fun _ => True) hw (fun w' _ _ => ?_)
    trivial trivial (fun _ _ _ => trivial)).mono (fun _ _ h => h.1) (fun _ _ h => h.1)
  refine leads_bind (leads_call fun fault _ answer connection durable hresponse => ?_)
  cases answer with
  | error e =>
    have h : (w'.here.respond E fault (.prepare q) w'.durable).1 = .error e := by rw [hresponse]
    have hdead := Connection.respond_lost h
    rw [hresponse] at hdead
    exact ⟨rfl, trivial, by simpa using hdead⟩
  | ok a =>
    have hne : connection ≠ .lost := by
      have h : (w'.here.respond E fault (.prepare q) w'.durable).1 = .ok a := by rw [hresponse]
      simpa [hresponse] using (Connection.respond_ok h).2.2
    rw [ends_ok, ← State.current_answered w' connection durable]
    refine leads_call fun fault' _ answer' connection' durable' hresponse' => ?_
    rw [State.here_answered, State.durable_answered] at hresponse'
    cases answer' with
    | ok a' =>
      have h : (connection.respond E fault' (.run q) durable).1 = .ok a' := by rw [hresponse']
      have hne' := (Connection.respond_ok h).2.2
      rw [hresponse'] at hne'
      exact ⟨rfl, by simpa using hne', trivial⟩
    | error e =>
      have h : (connection.respond E fault' (.run q) durable).1 = .error e := by rw [hresponse']
      have hdead := Connection.respond_lost h
      rw [hresponse'] at hdead
      exact ⟨rfl, trivial, fun hl => .inr ((hdead (by simpa using hl)).resolve_left hne)⟩

end Attempts

/-! ## One transaction -/

/-- The two failures that leave a transaction open behind the back of its caller: a `BEGIN` that the
server executed and a `ROLLBACK` that it did not, each with an error that says nothing about it. -/
def strands : Call Q → Fault → Bool
  | .exec sql, fault =>
    !isDeadStreamError fault.error && !isTransactionAlreadyGone fault.error &&
      (commandKind sql = .begin && fault.executed || commandKind sql = .rollback && !fault.executed)
  | _, _ => false

/-- The handle is ready for a transaction. -/
structure State.Ready (w : State D) : Prop where
  noticed : w.Noticed
  closed : ¬ w.here.Open

section Noticing

variable {req : Request Q A β} {w : State D}

theorem leads_exec_noticed {sql : String} (hw : w.Noticed) :
    Leads E allowed req (fun _ w₁ => w₁.Noticed) (fun _ w₁ => w₁.Noticed) (exec sql) w :=
  (leads_exec (K := fun _ => True) (L := fun _ => True) hw (fun _ _ _ _ _ _ _ => trivial)
    (fun _ _ _ _ _ _ _ => trivial) trivial trivial (fun _ _ _ => trivial)).mono
    (fun _ _ h => h.1) (fun _ _ h => h.1)

/-- The body, statement by statement. -/
theorem leads_issue {fn : Body Q A β} : ∀ {w : State D}, w.Noticed →
    Leads E allowed req (fun _ w₁ => w₁.Noticed) (fun _ w₁ => w₁.Noticed)
      (ExceptT.mk (issue fn)) w := by
  induction fn with
  | ret result =>
    intro w hw tr
    rcases result with e | b <;> exact hw
  | call q k ih =>
    intro w hw tr
    rw [Handler.Amid]
    change Interleave.Amid _ _ _ _ _ ((withStatement q).run >>= fun answer => issue (k answer)) _ _
    rw [amid_bind]
    refine amid_mono ?_ (leads_withStatement hw tr)
    rintro (e | a) s hs
    · exact ih _ hs s.trace
    · exact ih _ hs s.trace

/-- Whatever a transaction meets, it leaves no lost connection unnoticed. -/
theorem leads_withTransaction_noticed {fn : Body Q A β} (hw : w.Noticed) :
    Leads E allowed req (fun _ w₁ => w₁.Noticed) (fun _ w₁ => w₁.Noticed)
      (withTransaction fn) w := by
  have habandon : ∀ e w₁, State.Noticed w₁ → Leads E allowed req (fun (_ : β) w₂ => w₂.Noticed)
      (fun _ w₂ => w₂.Noticed)
      (do
        tryCatch
          (do
            let _ ← exec "ROLLBACK"
            return ())
          fun _ => return ()
        throw e) w₁ := by
    intro e w₁ hw₁
    refine leads_bind (leads_tryCatch (leads_bind ((leads_exec_noticed hw₁).mono ?_ ?_)))
    · exact fun _ _ h => leads_pure (leads_throw h)
    · exact fun _ _ h => leads_pure (leads_throw h)
  refine leads_bind ((leads_exec_noticed hw).mono ?_ (fun _ _ h => h))
  intro _ w₁ hw₁
  refine leads_tryCatch (leads_bind ((leads_issue hw₁).mono ?_ ?_))
  · intro b w₂ hw₂
    exact leads_bind ((leads_exec_noticed hw₂).mono (fun _ _ h => leads_pure h)
      (fun e w₃ h => habandon e w₃ h))
  · exact fun e w₂ h => habandon e w₂ h

end Noticing

section Transactions

variable {req : Request Q A β} {w : State D}
variable (hallowed : ∀ c fault, allowed c fault = true → strands c fault = false)
include hallowed

/-- A failure that the server executed leaves no transaction open that was not. -/
theorem not_open_of_begin {fault : Option Fault} {c : Connection D} {durable : D} {e : Thrown}
    (hpermits : permits allowed fault (.call w.current (.exec "BEGIN IMMEDIATE")) = true)
    (hc : ¬ c.Open)
    (h : (c.respond E fault (.exec "BEGIN IMMEDIATE") durable).1 = .error e) :
    ¬ (c.respond E fault (.exec "BEGIN IMMEDIATE") durable).2.1.Open := by
  rcases fault with _ | ⟨_ | _, error⟩
  · rcases c with _ | tables | _
    · simp [Connection.respond, Connection.serve, commandKind_begin] at h
    · exact absurd ⟨tables, rfl⟩ hc
    · exact Connection.not_open_lost
  · rintro ⟨tables, hopen⟩
    exact hc ⟨tables, (Connection.after_inside hopen).1⟩
  · rintro ⟨tables, hopen⟩
    obtain ⟨-, hdead, hgone⟩ := Connection.after_inside hopen
    have := hallowed _ _ hpermits
    simp [strands, hdead, hgone, commandKind_begin] at this

theorem leads_begin (hw : w.Ready) : Leads E allowed req (fun _ w₁ => w₁.Noticed)
    (fun _ w₁ => w₁.Ready) (exec "BEGIN IMMEDIATE") w := by
  refine (leads_exec (K := fun c => ¬ c.Open) (L := fun _ => True) hw.noticed
    (fun _ _ _ _ _ _ _ => trivial) ?_ Connection.not_open_autocommit Connection.not_open_lost
    (fun _ _ _ => trivial)).mono (fun _ _ h => h.1) (fun _ _ h => ⟨h.1, h.2⟩)
  rintro fault c e hpermits (rfl | rfl) durable h
  · exact not_open_of_begin hallowed hpermits hw.closed h
  · exact not_open_of_begin hallowed hpermits Connection.not_open_autocommit h

omit hallowed in
theorem leads_commit (hw : w.Noticed) : Leads E allowed req (fun _ w₁ => w₁.Ready)
    (fun _ w₁ => w₁.Noticed) (exec "COMMIT") w := by
  refine (leads_exec (K := fun _ => True) (L := fun c => ¬ c.Open) hw ?_
    (fun _ _ _ _ _ _ _ => trivial) trivial trivial (fun hkind => ?_)).mono
    (fun _ _ h => ⟨h.1, h.2⟩) (fun _ _ h => h.1)
  · rintro fault c a - - durable h
    obtain ⟨rfl, -, -⟩ := Connection.respond_ok h
    rcases c with _ | tables | _
    · simp [Connection.respond, Connection.serve, commandKind_commit] at h
    · simpa [Connection.respond, Connection.serve, commandKind_commit] using
        Connection.not_open_autocommit
    · exact Connection.not_open_lost
  · rw [commandKind_commit] at hkind
    cases hkind

theorem not_open_of_rollback {fault : Option Fault} {c : Connection D} {durable : D}
    (hpermits : permits allowed fault (.call w.current (.exec "ROLLBACK")) = true) :
    ¬ (c.respond E fault (.exec "ROLLBACK") durable).2.1.Open := by
  have hserve : ¬ (c.serve E (.exec "ROLLBACK") durable).2.1.Open := by
    rcases c with _ | tables | _
    · simpa [Connection.serve, commandKind_rollback] using Connection.not_open_autocommit
    · simpa [Connection.serve, commandKind_rollback] using Connection.not_open_autocommit
    · exact Connection.not_open_lost
  rcases fault with _ | ⟨_ | _, error⟩
  · exact hserve
  · rintro ⟨tables, hopen⟩
    obtain ⟨-, hdead, hgone⟩ := Connection.after_inside hopen
    have := hallowed _ _ hpermits
    simp [strands, hdead, hgone, commandKind_rollback] at this
  · rintro ⟨tables, hopen⟩
    exact hserve ⟨tables, (Connection.after_inside hopen).1⟩

theorem leads_rollback (hw : w.Noticed) : Leads E allowed req (fun _ w₁ => w₁.Ready)
    (fun _ w₁ => w₁.Ready) (exec "ROLLBACK") w := by
  refine (leads_exec (K := fun c => ¬ c.Open) (L := fun c => ¬ c.Open) hw ?_ ?_
    Connection.not_open_autocommit Connection.not_open_lost (fun _ _ => id)).mono
    (fun _ _ h => ⟨h.1, h.2⟩) (fun _ _ h => ⟨h.1, h.2⟩)
  · exact fun fault c a hpermits _ durable _ => not_open_of_rollback hallowed hpermits
  · exact fun fault c e hpermits _ durable _ => not_open_of_rollback hallowed hpermits

/-- The `catch` branch of a transaction. -/
theorem leads_abandon {e : Thrown} (hw : w.Noticed) : Leads E allowed req
    (fun (_ : β) w₁ => w₁.Ready) (fun _ w₁ => w₁.Ready)
    (do
      tryCatch
        (do
          let _ ← exec "ROLLBACK"
          return ())
        fun _ => return ()
      throw e) w := by
  refine leads_bind (leads_tryCatch (leads_bind ((leads_rollback hallowed hw).mono ?_ ?_)))
  · exact fun _ _ h => leads_pure (leads_throw h)
  · exact fun _ _ h => leads_pure (leads_throw h)

/-- **One transaction leaves the handle ready for the next**, whatever failures it met. -/
theorem leads_withTransaction {fn : Body Q A β} (hw : w.Ready) : Leads E allowed req
    (fun _ w₁ => w₁.Ready) (fun _ w₁ => w₁.Ready) (withTransaction fn) w := by
  refine leads_bind ((leads_begin hallowed hw).mono ?_ (fun _ _ h => h))
  intro _ w₁ hw₁
  refine leads_tryCatch (leads_bind ((leads_issue hw₁).mono ?_ ?_))
  · intro b w₂ hw₂
    exact leads_bind ((leads_commit hw₂).mono (fun _ _ h => leads_pure h)
      (fun _ _ h => leads_abandon hallowed h))
  · exact fun _ _ h => leads_abandon hallowed h

end Transactions

/-! ## Every schedule -/

/-- What a sequence of `withTransaction` calls, one behind the other, can make of the handle. -/
inductive Calls (E : Engine D Q A) (allowed : Call Q → Fault → Bool) (β : Type) :
    Hist (Op Q) (Resp A) (State D) → Hist (Op Q) (Resp A) (State D) → Prop where
  /-- no call yet -/
  | refl (s : Hist (Op Q) (Resp A) (State D)) : Calls E allowed β s s
  /-- one more -/
  | next {s s₁ s₂ : Hist (Op Q) (Resp A) (State D)} {fn : Body Q A β} {result : Except Thrown β} :
      Calls E allowed β s s₁ →
      Alone (system E allowed) 0 (.transaction fn) (withTransaction fn).run s₁ result s₂ →
      Calls E allowed β s s₂

/-- Without the two failures that strand a transaction the handle is ready after every call. -/
theorem Calls.ready (hallowed : ∀ c fault, allowed c fault = true → strands c fault = false)
    {s s' : Hist (Op Q) (Resp A) (State D)} (h : Calls E allowed β s s') (hs : s.world.Ready) :
    s'.world.Ready := by
  induction h with
  | refl => exact hs
  | @next s₁ s₂ fn result _ halone ih =>
    have hends := halone.amid (fun {_ e _} => nomatch e) (fun _ _ _ h _ => h.elim)
      (leads_withTransaction hallowed ih s₁.trace)
    cases result with
    | ok b => exact hends
    | error e => exact hends

theorem Calls.noticed {s s' : Hist (Op Q) (Resp A) (State D)} (h : Calls E allowed β s s')
    (hs : s.world.Noticed) : s'.world.Noticed := by
  induction h with
  | refl => exact hs
  | @next s₁ s₂ fn result _ halone ih =>
    have hends := halone.amid (fun {_ e _} => nomatch e) (fun _ _ _ h _ => h.elim)
      (leads_withTransaction_noticed ih s₁.trace)
    cases result with
    | ok b => exact hends
    | error e => exact hends

/-! ## Once the failures stop -/

section Quietly

variable (E)

/-- A program run alone, with nothing that fails. -/
def quietly (x : Act Q A γ) (w : State D) : Except Thrown γ × State D :=
  x.run.evaluate (step E none) w

variable {E} {x : Act Q A γ} {f : γ → Act Q A δ} {g : Thrown → Act Q A γ} {w w' : State D}

theorem quietly_bind_ok {a : γ} (h : quietly E x w = (.ok a, w')) :
    quietly E (x >>= f) w = quietly E (f a) w' := by
  rw [quietly, ExceptT.run_bind, Prog.evaluate_bind]
  rw [quietly] at h
  rw [h]
  rfl

theorem quietly_bind_error {e : Thrown} (h : quietly E x w = (.error e, w')) :
    quietly E (x >>= f) w = (.error e, w') := by
  rw [quietly, ExceptT.run_bind, Prog.evaluate_bind]
  rw [quietly] at h
  rw [h]
  rfl

theorem quietly_tryCatch_ok {a : γ} (h : quietly E x w = (.ok a, w')) :
    quietly E (tryCatch x g) w = (.ok a, w') := by
  change (x.run >>= _).evaluate (step E none) w = _
  rw [Prog.evaluate_bind]
  rw [quietly] at h
  rw [h]
  rfl

theorem quietly_tryCatch_error {e : Thrown} (h : quietly E x w = (.error e, w')) :
    quietly E (tryCatch x g) w = quietly E (g e) w' := by
  change (x.run >>= _).evaluate (step E none) w = _
  rw [Prog.evaluate_bind]
  rw [quietly] at h
  rw [h]
  rfl

theorem quietly_call (c : Call Q) (w : State D) : quietly E (call w.current c) w =
    ((w.here.serve E c w.durable).1,
      w.answered (w.here.serve E c w.durable).2.1 (w.here.serve E c w.durable).2.2) := rfl

end Quietly

section Quiet

variable {kind : OperationKind} {operation : ℕ → Act Q A (Option A)} {w w' : State D}

/-- What an operation that went through makes of the flag. -/
def State.noted (w : State D) : OperationKind → State D
  | .begin => { w with inTransaction := true }
  | .commit => { w with inTransaction := false }
  | .rollback => { w with inTransaction := false }
  | .other => w

@[simp] theorem State.here_noted (w : State D) (kind : OperationKind) :
    (w.noted kind).here = w.here := by
  cases kind <;> rfl

theorem quietly_attempt {a : Option A} (h : quietly E (operation w.current) w = (.ok a, w')) :
    quietly E (attempt kind operation) w = (.ok a, w'.noted kind) := by
  have hlook : quietly E (A := A) (Q := Q) look w = (.ok (w.inTransaction, w.current), w) := rfl
  rw [attempt, quietly_bind_ok hlook]
  refine quietly_tryCatch_ok ?_
  rw [quietly_bind_ok h]
  cases kind <;> rfl

/-- An error that is about neither the stream nor the transaction is thrown on. -/
theorem quietly_attempt_plain {e : Thrown}
    (h : quietly E (operation w.current) w = (.error e, w')) (hdead : isDeadStreamError e = false)
    (hgone : isTransactionAlreadyGone e = false) :
    quietly E (attempt kind operation) w = (.error e, w') := by
  have hlook : quietly E (A := A) (Q := Q) look w = (.ok (w.inTransaction, w.current), w) := rfl
  have hnothing : isNothingToRollBack e ≠ true := by
    intro h
    rw [isTransactionAlreadyGone_of_nothing h] at hgone
    cases hgone
  rw [attempt, quietly_bind_ok hlook, quietly_tryCatch_error (quietly_bind_error h)]
  simp only [recover, hnothing, hgone, hdead, and_false, if_false, Bool.and_false, Bool.not_false,
    if_true, Bool.false_eq_true]
  rfl

theorem quietly_reconnect (w : State D) :
    quietly E (reconnect (A := A) (Q := Q)) w = (.ok (), w.reconnected) := by
  have hperform : quietly E (A := A) (Q := Q) (perform .reconnect) w =
      (.ok w.reconnected.current, w.reconnected) := rfl
  have hpragma : quietly E (call w.reconnected.current (.exec "PRAGMA foreign_keys = ON"))
      w.reconnected = (.ok none, w.reconnected) := by
    rw [quietly_call, State.here_reconnected]
    simp only [Connection.serve, commandKind_pragma]
    rw [← State.here_reconnected w, State.answered_here]
  rw [reconnect, quietly_bind_ok hperform, quietly_bind_ok hpragma]
  rfl

/-- A transaction begins on a handle that is ready, on a fresh connection if it has to. -/
theorem quietly_begin (hw : w.Ready) :
    ∃ w', quietly E (exec "BEGIN IMMEDIATE") w = (.ok none, w') ∧ w'.here = .inside w.durable := by
  have hauto : ∀ w : State D, w.here = .autocommit →
      quietly E (call w.current (.exec "BEGIN IMMEDIATE")) w =
        (.ok none, w.answered (.inside w.durable) w.durable) := by
    intro w hhere
    rw [quietly_call, hhere]
    simp only [Connection.serve, commandKind_begin]
  rcases hhere : w.here with _ | tables | _
  · exact ⟨_, quietly_attempt (hauto w hhere), by simp⟩
  · exact absurd ⟨tables, hhere⟩ hw.closed
  · -- the stream died since: the first try finds out, the second is on a fresh connection
    have hfail : quietly E (call w.current (.exec "BEGIN IMMEDIATE")) w =
        (.error streamNotFound, w) := by
      rw [quietly_call, hhere]
      simp only [Connection.serve_lost]
      rw [← hhere, State.answered_here]
    have hlook : quietly E (A := A) (Q := Q) look w = (.ok (w.inTransaction, w.current), w) := rfl
    have hlook' : quietly E (A := A) (Q := Q) look w.reconnected =
        (.ok (false, w.reconnected.current), w.reconnected) := rfl
    have hdead : isDeadStreamError streamNotFound = true := by decide
    refine ⟨_, ?_, State.here_answered { w.reconnected with inTransaction := true } _ w.durable⟩
    rw [exec, attempt, quietly_bind_ok hlook, quietly_tryCatch_error (quietly_bind_error hfail)]
    simp only [recover, commandKind_begin, reduceCtorEq, false_and, if_false, hw.noticed hhere,
      Bool.false_and, Bool.false_eq_true, hdead, Bool.not_true]
    rw [quietly_bind_ok (quietly_reconnect w), quietly_bind_ok hlook',
      quietly_bind_ok (hauto _ (State.here_reconnected w))]
    rfl

theorem quietly_prepare {q : Q} {tables : D} (hw : w.here = .inside tables) :
    quietly E (call w.current (.prepare q)) w = (.ok none, w) := by
  rw [quietly_call, hw]
  simp only [Connection.serve]
  rw [← hw, State.answered_here]

/-- A statement inside a transaction, answered as the engine does. -/
theorem quietly_withStatement_ok {q : Q} {a : A} {tables tables' : D}
    (hw : w.here = .inside tables) (hrun : E.run q tables = .ok (a, tables')) :
    quietly E (withStatement q) w = (.ok (some a), w.answered (.inside tables') w.durable) := by
  rw [withStatement]
  refine quietly_attempt ?_
  rw [quietly_bind_ok (quietly_prepare hw), quietly_call, hw]
  simp only [Connection.serve, hrun]
  rfl

/-- A statement inside a transaction, refused as the engine does. -/
theorem quietly_withStatement_refused {q : Q} {e : Thrown} {tables : D}
    (hw : w.here = .inside tables) (hrun : E.run q tables = .error e) :
    quietly E (withStatement q) w = (.error e, w) := by
  obtain ⟨hdead, hgone⟩ := E.plain _ _ _ hrun
  refine quietly_attempt_plain ?_ hdead hgone
  rw [quietly_bind_ok (quietly_prepare hw), quietly_call, hw]
  simp only [Connection.serve, hrun]
  rw [← hw, State.answered_here]

/-- A body inside a transaction does to the tables it sees what it does with nothing in its way. -/
theorem quietly_issue {fn : Body Q A β} : ∀ {w : State D} {tables : D}, w.here = .inside tables →
    quietly E (ExceptT.mk (issue fn)) w = ((E.evaluate fn tables).1,
      w.answered (.inside (E.evaluate fn tables).2) w.durable) := by
  induction fn with
  | ret result =>
    intro w tables hw
    refine Prod.ext rfl ?_
    exact (State.answered_here w).symm.trans (by rw [hw]; rfl)
  | call q k ih =>
    intro w tables hw
    have hstep : quietly E (ExceptT.mk (issue (.call q k))) w =
        quietly E (ExceptT.mk (issue (k (quietly E (withStatement q) w).1)))
          (quietly E (withStatement q) w).2 := Prog.evaluate_bind
    rw [hstep]
    rcases hrun : E.run q tables with e | ⟨a, tables'⟩
    · rw [Engine.evaluate_refused hrun, quietly_withStatement_refused hw hrun]
      exact ih _ hw
    · rw [Engine.evaluate_ok hrun, quietly_withStatement_ok hw hrun, ih _ (State.here_answered ..)]
      simp

theorem quietly_commit {tables : D} (hw : w.here = .inside tables) :
    ∃ w', quietly E (exec "COMMIT") w = (.ok none, w') ∧ w'.durable = tables := by
  have hcall : quietly E (call w.current (.exec "COMMIT")) w =
      (.ok none, w.answered .autocommit tables) := by
    rw [quietly_call, hw]
    simp only [Connection.serve, commandKind_commit]
  exact ⟨_, quietly_attempt hcall, by rw [commandKind_commit]; rfl⟩

end Quiet

/-- The handle does what it is for: a transaction that meets no failure and whose body succeeds
resolves with what the body answers, and what the body wrote is durable. -/
def Recovers (E : Engine D Q A) (w : State D) : Prop :=
  ∀ (β : Type) (fn : Body Q A β) (b : β) (tables : D), E.evaluate fn w.durable = (.ok b, tables) →
    ∃ w', quietly E (withTransaction fn) w = (.ok b, w') ∧ w'.durable = tables

theorem State.Ready.recovers {w : State D} (hw : w.Ready) : Recovers E w := by
  intro β fn b tables hfn
  obtain ⟨w₁, hbegin, hinside⟩ := quietly_begin (E := E) hw
  have hbody : quietly E (ExceptT.mk (issue fn)) w₁ = _ := quietly_issue hinside
  rw [hfn] at hbody
  obtain ⟨w₂, hcommit, hdurable⟩ := quietly_commit (E := E)
    (State.here_answered w₁ (.inside tables) w₁.durable)
  refine ⟨w₂, ?_, hdurable⟩
  rw [withTransaction, quietly_bind_ok hbegin]
  refine quietly_tryCatch_ok ?_
  rw [quietly_bind_ok hbody, quietly_bind_ok hcommit]
  rfl

/-- A transaction that was left open refuses every other for as long as nothing fails, and nobody
closes it. -/
theorem quietly_withTransaction_of_open {w : State D} (hw : w.here.Open) (fn : Body Q A β) :
    quietly E (withTransaction fn) w = (.error cannotBegin, w) := by
  obtain ⟨tables, hhere⟩ := hw
  have hcall : quietly E (call w.current (.exec "BEGIN IMMEDIATE")) w = (.error cannotBegin, w) := by
    rw [quietly_call, hhere]
    simp only [Connection.serve, commandKind_begin]
    rw [← hhere, State.answered_here]
  exact quietly_bind_error (quietly_attempt_plain hcall (by decide) (by decide))

theorem recovers_iff {w : State D} (hw : w.Noticed) : Recovers E w ↔ ¬ w.here.Open := by
  constructor
  · intro h hopen
    obtain ⟨w', hrun, -⟩ := h Unit (.ret (.ok ())) () w.durable rfl
    rw [quietly_withTransaction_of_open hopen] at hrun
    cases hrun
  · exact fun h => (State.Ready.mk hw h).recovers

theorem State.opened_ready (durable : D) : (State.opened durable).Ready where
  noticed := fun _ => rfl
  closed := Connection.not_open_autocommit

/-- **What wedges the queue**: after any calls under any failures the handle recovers unless the
current connection was left inside a transaction, and only a `BEGIN` executed and a `ROLLBACK` not
executed, answered with an error that names neither, leave one. -/
theorem transactions_recover (E : Engine D Q A) (allowed : Call Q → Fault → Bool) (durable : D)
    (s : Hist (Op Q) (Resp A) (State D)) (h : Calls E allowed β ⟨State.opened durable, []⟩ s) :
    (Recovers E s.world ↔ ¬ s.world.here.Open) ∧
      ((∀ c fault, allowed c fault = true → strands c fault = false) → Recovers E s.world) :=
  ⟨recovers_iff (h.noticed (State.opened_ready durable).noticed),
    fun hallowed => (h.ready hallowed (State.opened_ready durable)).recovers⟩

/-- One call of `withTransaction(insertOne)` on a fresh handle, under the given failures. -/
def firstCall (allowed : Call (Option String) → Fault → Bool) (faults : List (Option Fault)) :=
  runAlone (system rows allowed) 0 (.transaction insertOne) (withTransaction insertOne).run faults
    ⟨State.opened [], []⟩

/-- The stream dies under the insert, with the server having executed it. -/
theorem transactions_recover_specimen : ∃ s, Calls rows (fun c fault => !strands c fault) Unit
      ⟨State.opened [], []⟩ s ∧ s.world.durable = [] ∧ Recovers rows s.world := by
  have hrun : (firstCall (fun c fault => !strands c fault)
      ([none, none, none, none, none, some ⟨true, streamNotFound⟩] ++ List.replicate 6 none)).map
        (fun p => p.2.world.durable) = some [] := by decide
  obtain ⟨⟨result, s⟩, hs, hdurable⟩ := Option.map_eq_some_iff.mp hrun
  have hcalls := Calls.next (.refl _) (runAlone_alone hs)
  exact ⟨s, hcalls, hdurable,
    (transactions_recover rows _ [] s hcalls).2 fun c fault h => by simpa using h⟩

/-- A `BEGIN` that the server executed and that timed out on its way back: from then on every
transaction is refused, though nothing fails any more. -/
theorem begin_timed_out : ∃ s, Calls rows (fun _ _ => true) Unit ⟨State.opened [], []⟩ s ∧
    rows.evaluate insertOne s.world.durable = (.ok (), ["booking"]) ∧
    (quietly rows (withTransaction insertOne) s.world).1 = .error cannotBegin ∧
    ¬ Recovers rows s.world := by
  have hrun : (firstCall (fun _ _ => true) [none, some ⟨true, ⟨some "operation timed out"⟩⟩]).map
      (fun p => (p.2.world.durable, p.2.world.here)) = some ([], .inside []) := by decide
  obtain ⟨⟨result, s⟩, hs, hends⟩ := Option.map_eq_some_iff.mp hrun
  obtain ⟨hdurable, hhere⟩ := Prod.mk.inj hends
  have hopen : s.world.here.Open := ⟨[], hhere⟩
  have hevaluate : rows.evaluate insertOne s.world.durable = (.ok (), ["booking"]) := by
    rw [hdurable]
    rfl
  have hrefused := quietly_withTransaction_of_open (E := rows) hopen insertOne
  refine ⟨s, .next (.refl _) (runAlone_alone hs), hevaluate, by rw [hrefused], fun hrecovers => ?_⟩
  obtain ⟨w', hresolved, -⟩ := hrecovers Unit insertOne () _ hevaluate
  rw [hrefused] at hresolved
  cases hresolved

end TransitBpp.Db
