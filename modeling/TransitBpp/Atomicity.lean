import TransitBpp.Reconnecting

/-!
# One transaction among reads outside the queue

The in-transaction flag and the current connection are shared by the transaction and by statements
that nobody queues. What the transaction relies on is `Rely`: until it has begun the others open no
transaction, and from then on they neither replace the connection nor touch the flag. A read that
meets no failure keeps it, and `calm` says of a run that no read did otherwise.
-/

namespace TransitBpp.Db

open Interleave

variable {D Q A β γ δ : Type} {E : Engine D Q A}

/-- What happened on the handle. -/
abbrev Past (D Q A : Type) : Type := Hist (Op Q) (Resp A) (State D)

/-! ## Reads -/

/-- A statement that changes no table. -/
def Engine.ReadOnly (E : Engine D Q A) (q : Q) : Prop :=
  ∀ tables a tables', E.run q tables = .ok (a, tables') → tables' = tables

/-- The failures that lose the transaction open on a connection: of the stream or of the transaction,
but not of a `COMMIT` that the server had executed. -/
def drops (c : Call Q) (fault : Fault) : Bool :=
  (isDeadStreamError fault.error || isTransactionAlreadyGone fault.error) &&
    match c with
    | .exec sql => !(commandKind sql = .commit && fault.executed)
    | _ => true

/-- One transaction, and whatever reads arrive beside it. -/
def onlyReads (E : Engine D Q A) : Past D Q A → Move (Op Q) (Request Q A β) Empty → Prop
  | _, .start (.transaction _) => False
  | _, .start (.statement q) => E.ReadOnly q
  | _, _ => True

/-- What a read does. -/
def ReadOp (E : Engine D Q A) : Op Q → Prop
  | .look => True
  | .note isOpen => isOpen = false
  | .reconnect => True
  | .call _ (.exec sql) => commandKind sql = .other
  | .call _ (.prepare _) => True
  | .call _ (.run q) => E.ReadOnly q

/-- Every operation of a program is one of a kind. -/
def Acts (O : Op Q → Prop) (x : Act Q A γ) : Prop := x.run.All O fun _ => True

section Acts

variable {O : Op Q → Prop}

theorem acts_bind {x : Act Q A γ} {f : γ → Act Q A δ} (hx : Acts O x) (hf : ∀ a, Acts O (f a)) :
    Acts O (x >>= f) := by
  rw [Acts, ExceptT.run_bind, Prog.all_bind]
  refine hx.mono (fun _ h => h) ?_
  rintro (e | a) -
  · trivial
  · exact hf a

theorem acts_tryCatch {x : Act Q A γ} {f : Thrown → Act Q A γ} (hx : Acts O x)
    (hf : ∀ e, Acts O (f e)) : Acts O (tryCatch x f) := by
  change (x.run >>= _).All O _
  rw [Prog.all_bind]
  refine hx.mono (fun _ h => h) ?_
  rintro (e | a) -
  · exact hf e
  · trivial

theorem acts_perform {op : Op Q} (h : O op) : Acts O (perform (A := A) op) := ⟨h, fun _ => trivial⟩

theorem acts_call {db : ℕ} {c : Call Q} (h : O (.call db c)) : Acts O (call (A := A) db c) :=
  ⟨h, fun _ => trivial⟩

theorem acts_pure (a : γ) : Acts (A := A) O (pure a : Act Q A γ) := trivial

theorem acts_throw (e : Thrown) : Acts (A := A) O (throw e : Act Q A γ) := trivial

/-- An attempt does what its operation does, looks, reconnects and notes. -/
theorem acts_attempt {kind : OperationKind} {operation : ℕ → Act Q A (Option A)}
    (hop : ∀ db, Acts O (operation db)) (hlook : O .look)
    (hnote : ∀ isOpen, (isOpen = true → kind = .begin) → O (.note isOpen)) (hreconnect : O .reconnect)
    (hpragma : ∀ db, O (.call db (.exec "PRAGMA foreign_keys = ON"))) :
    Acts O (attempt kind operation) := by
  have hfalse : Acts (A := A) O (note false) := acts_perform (hnote false (fun h => nomatch h))
  have hdone : Acts (A := A) O (noteDone kind) := by
    cases kind with
    | begin => exact acts_perform (hnote true fun _ => rfl)
    | commit => exact hfalse
    | rollback => exact hfalse
    | other => exact acts_pure ()
  have hbegun : Acts (A := A) O (noteBegun kind) := by
    cases kind with
    | begin => exact acts_perform (hnote true fun _ => rfl)
    | commit => exact acts_pure ()
    | rollback => exact acts_pure ()
    | other => exact acts_pure ()
  refine acts_bind (acts_perform hlook) fun p => ?_
  refine acts_tryCatch (acts_bind (hop _) fun a => acts_bind hdone fun _ => acts_pure _) fun e => ?_
  simp only [recover]
  split
  · exact acts_bind hfalse fun _ => acts_pure _
  · split
    · exact acts_bind hfalse fun _ => acts_throw _
    · split
      · exact acts_throw _
      · refine acts_bind (acts_bind (acts_perform hreconnect) fun db =>
          acts_bind (acts_call (hpragma db)) fun _ => acts_pure _) fun _ => ?_
        split
        · exact acts_bind hfalse fun _ => acts_throw _
        · exact acts_bind (acts_perform hlook) fun p' =>
            acts_bind (hop _) fun a => acts_bind hbegun fun _ => acts_pure _

theorem acts_withStatement {q : Q} (hq : E.ReadOnly q) :
    Acts (ReadOp E) (withStatement (A := A) q) := by
  refine acts_attempt (fun db => acts_bind (acts_call trivial) fun _ => acts_call hq) trivial ?_
    trivial (fun _ => commandKind_pragma)
  intro isOpen h
  cases isOpen with
  | false => rfl
  | true => cases h rfl

end Acts

/-! ## What the transaction relies on -/

/-- The transaction's `BEGIN` went through. -/
def begins : Entry (Op Q) (Resp A) → Bool
  | ⟨i, .call _ (.exec sql), .ok _⟩ => i == 0 && commandKind sql = .begin
  | _ => false

def begun (tr : List (Entry (Op Q) (Resp A))) : Bool := tr.any begins

/-- A read recovers, or is told that the transaction is gone. -/
def disturbs : Entry (Op Q) (Resp A) → Bool
  | ⟨_, .note _, _⟩ => true
  | ⟨_, .reconnect, _⟩ => true
  | ⟨_, .call _ _, .error error⟩ => isTransactionAlreadyGone error
  | _ => false

/-- No read disturbed the transaction once it had begun. -/
def calm : List (Entry (Op Q) (Resp A)) → Bool
  | [] => true
  | e :: tr => calm tr && (!begun tr || e.task == 0 || !disturbs e)

/-- Every connection but the current one is closed. -/
def State.OneOpen (w : State D) : Prop := ∀ db, db ≠ w.current → w.connections db = .lost

theorem State.oneOpen_reconnected {w : State D} (h : w.OneOpen) : w.reconnected.OneOpen := by
  intro db hdb
  have hnext : db ≠ w.current + 1 := hdb
  by_cases hcurrent : db = w.current
  · subst hcurrent
    simp [State.reconnected]
  · simp [State.reconnected, hnext, hcurrent, h db hcurrent]

/-- What the others do to the transaction. -/
structure Rely (s s' : Past D Q A) : Prop where
  durable : s'.world.durable = s.world.durable
  started : begun s'.trace = begun s.trace
  oneOpen : s.world.OneOpen → s'.world.OneOpen
  flag : s.world.inTransaction = false → s'.world.inTransaction = false
  before : begun s.trace = false → ¬ s.world.here.Open → ¬ s'.world.here.Open
  current : begun s.trace = true → s'.world.current = s.world.current
  inTransaction : begun s.trace = true → s'.world.inTransaction = s.world.inTransaction
  here : begun s.trace = true → s.world.OneOpen → s'.world.here = s.world.here ∨ s'.world.here = .lost

namespace Connection

variable {c : Connection D} {call : Call Q} {durable : D} {fault : Option Fault} {error : Thrown}

/-- A call of a read leaves its connection as it is, or finds it lost, or loses a transaction. -/
theorem serve_read {db : ℕ} (h : ReadOp E (.call db call)) : (c.serve E call durable).2.1 = c := by
  rcases c with _ | tables | _
  · rcases call with sql | q | q
    · simp only [ReadOp] at h
      simp only [serve, h]
    · rfl
    · simp only [serve]
      split <;> rfl
  · rcases call with sql | q | q
    · simp only [ReadOp] at h
      simp only [serve, h]
    · rfl
    · simp only [serve]
      split
      · rename_i hrun
        rw [h _ _ _ hrun]
      · rfl
  · rw [serve_lost]

theorem respond_read {db : ℕ} (h : ReadOp E (.call db call)) :
    (c.respond E fault call durable).2.1 = c ∨
      ∃ error, (c.respond E fault call durable).1 = .error error ∧
        (c.respond E fault call durable).2.1 = c.after error := by
  rcases fault with _ | ⟨_ | _, error⟩
  · exact .inl (serve_read h)
  · exact .inr ⟨error, rfl, rfl⟩
  · exact .inr ⟨error, rfl, by simp only [respond, serve_read h]⟩

end Connection

theorem begins_of_ne {i : ℕ} (hi : i ≠ 0) (op : Op Q) (r : Resp A op) :
    begins (⟨i, op, r⟩ : Entry (Op Q) (Resp A)) = false := by
  rw [begins.eq_def]
  split
  · rename_i heq
    cases heq
    simp [hi]
  · rfl

/-- The step lemma of the reads: in a calm run they do what the transaction relies on. -/
theorem rely_of_read {i : ℕ} {req : Request Q A β} {op : Op Q} {s s' : Past D Q A} {r : Resp A op}
    (hi : i ≠ 0) (hop : ReadOp E op) (hcalm : calm s'.trace = true)
    (hdoes : Does (system E drops) i req op s r s') : Rely s s' := by
  obtain ⟨fault, -, rfl, rfl⟩ := does_iff.mp hdoes
  have hpast : ∀ r : Resp A op, begun (⟨i, op, r⟩ :: s.trace) = begun s.trace := by
    intro r
    simp only [begun, List.any_cons, begins_of_ne hi, Bool.false_or]
  have hquiet : begun s.trace = true →
      disturbs (⟨i, op, (step E fault op s.world).1⟩ : Entry (Op Q) (Resp A)) = false := by
    intro hbegun
    simp only [calm, hbegun, Bool.and_eq_true, Bool.not_true, Bool.false_or, Bool.or_eq_true,
      beq_iff_eq, hi, false_or, Bool.not_eq_true'] at hcalm
    exact hcalm.2
  cases op with
  | look => exact ⟨rfl, hpast _, id, id, fun _ => id, fun _ => rfl, fun _ => rfl, fun _ _ => .inl rfl⟩
  | note isOpen =>
    obtain rfl : isOpen = false := hop
    have hnot : begun s.trace ≠ true := fun h => Bool.noConfusion (hquiet h)
    exact ⟨rfl, hpast _, id, fun _ => rfl, fun _ => id, fun h => absurd h hnot,
      fun h => absurd h hnot, fun h => absurd h hnot⟩
  | reconnect =>
    have hnot : begun s.trace ≠ true := fun h => Bool.noConfusion (hquiet h)
    refine ⟨rfl, hpast _, State.oneOpen_reconnected, fun _ => rfl, fun _ _ => ?_,
      fun h => absurd h hnot, fun h => absurd h hnot, fun h => absurd h hnot⟩
    change ¬ s.world.reconnected.here.Open
    rw [State.here_reconnected]
    exact Connection.not_open_autocommit
  | call db c =>
    obtain ⟨response, hresponse⟩ : ∃ response,
      (s.world.connections db).respond E fault c s.world.durable = response := ⟨_, rfl⟩
    have hread := @Connection.respond_read D Q A E (s.world.connections db) c s.world.durable
      fault db hop
    have hdurable : response.2.2 = s.world.durable := by
      rw [← hresponse]
      refine Connection.respond_durable ?_ ?_
      · rintro sql rfl hkind
        rw [show commandKind sql = .other from hop] at hkind
        cases hkind
      · rintro q a tables rfl - hrun
        exact hop _ _ _ hrun
    rw [hresponse] at hread
    have hstep : step E fault (.call db c) s.world = (response.1,
        { s.world with
          durable := response.2.2
          connections := Function.update s.world.connections db response.2.1 }) := by
      simp only [step, hresponse]
    simp only [hstep] at hquiet hcalm ⊢
    -- what can become of the connection the call was made on
    have hlost : s.world.connections db = .lost → response.2.1 = .lost := by
      intro hlost
      rcases hread with hread | ⟨error, -, hread⟩
      · exact hread.trans hlost
      · rw [hread, hlost]
        rfl
    have hopen : response.2.1.Open → (s.world.connections db).Open := by
      rintro ⟨tables, h⟩
      rcases hread with hread | ⟨error, -, hread⟩
      · exact ⟨tables, hread ▸ h⟩
      · exact ⟨tables, (Connection.after_inside (hread.symm.trans h)).1⟩
    have hkept : begun s.trace = true →
        response.2.1 = s.world.connections db ∨ response.2.1 = .lost := by
      intro hbegun
      rcases hread with hread | ⟨error, herror, hread⟩
      · exact .inl hread
      · have hgone := hquiet hbegun
        rw [herror] at hgone
        rw [hread]
        exact Connection.after_of_not_gone hgone
    refine ⟨hdurable, hpast _, fun hone db' hdb' => ?_, id, fun _ hclosed => ?_, fun _ => rfl,
      fun _ => rfl, fun hbegun _ => ?_⟩
    · by_cases hdb : db' = db
      · subst hdb
        simpa using hlost (hone _ hdb')
      · simpa [Function.update_of_ne hdb] using hone _ hdb'
    · by_cases hdb : s.world.current = db
      · subst hdb
        simpa [State.here] using fun h => hclosed (hopen h)
      · simpa [State.here, Function.update_of_ne hdb] using hclosed
    · by_cases hdb : s.world.current = db
      · subst hdb
        simpa [State.here] using hkept hbegun
      · exact .inl (by simp [State.here, Function.update_of_ne hdb])

/-! ## What the transaction is amid them -/

/-- No transaction is open on the current connection, whether it has not begun (`past` is `false`) or
is gone. -/
structure Outside (past : Bool) (tables : D) (s : Past D Q A) : Prop where
  started : begun s.trace = past
  oneOpen : s.world.OneOpen
  closed : ¬ s.world.here.Open
  flag : past = false → s.world.inTransaction = false
  durable : s.world.durable = tables

/-- The transaction is open on connection `db` and sees the tables `view`, or its stream was lost and
nobody has noticed. -/
structure During (isOpen : Bool) (db : ℕ) (tables view : D) (s : Past D Q A) : Prop where
  started : begun s.trace = true
  oneOpen : s.world.OneOpen
  current : s.world.current = db
  here : s.world.here = .inside view ∨ s.world.here = .lost
  flag : s.world.inTransaction = isOpen
  durable : s.world.durable = tables

theorem Outside.stable (past : Bool) (tables : D) :
    Stable Rely (Outside (Q := Q) (A := A) past tables) := by
  intro s s' hrely h
  refine ⟨hrely.started.trans h.started, hrely.oneOpen h.oneOpen, ?_, fun hpast => hrely.flag (h.flag hpast),
    hrely.durable.trans h.durable⟩
  cases past with
  | false => exact hrely.before h.started h.closed
  | true =>
    rcases hrely.here h.started h.oneOpen with hhere | hhere
    · rw [hhere]
      exact h.closed
    · rw [hhere]
      exact Connection.not_open_lost

theorem During.stable (isOpen : Bool) (db : ℕ) (tables view : D) :
    Stable Rely (During (Q := Q) (A := A) isOpen db tables view) := by
  intro s s' hrely h
  refine ⟨hrely.started.trans h.started, hrely.oneOpen h.oneOpen, (hrely.current h.started).trans h.current, ?_,
    (hrely.inTransaction h.started).trans h.flag, hrely.durable.trans h.durable⟩
  rcases hrely.here h.started h.oneOpen with hhere | hhere
  · rw [hhere]
    exact h.here
  · exact .inr hhere

theorem durable_stable (tables : D) :
    Stable Rely (fun s : Past D Q A => s.world.durable = tables) :=
  fun _ _ hrely h => hrely.durable.trans h

/-- A statement of the transaction is not executed on a connection without a transaction. -/
def Guard (s : Past D Q A) : Op Q → Prop
  | .call db (.run _) => s.world.connections db ≠ .autocommit
  | _ => True

section Holds

variable (E) (req : Request Q A β)

/-- Wherever the transaction's program ends amid the reads, `ok` or `err` holds. -/
def Holds (ok : γ → Past D Q A → Prop) (err : Thrown → Past D Q A → Prop) (x : Act Q A γ)
    (s : Past D Q A) : Prop :=
  Handler.Amid (system E drops) Rely 0 req Guard ok err x s

variable {E req} {ok : γ → Past D Q A → Prop} {err : Thrown → Past D Q A → Prop} {s : Past D Q A}

theorem holds_bind {x : Act Q A δ} {f : δ → Act Q A γ}
    (h : Holds E req (fun a => Holds E req ok err (f a)) err x s) :
    Holds E req ok err (x >>= f) s :=
  Handler.amid_bind.mpr h

theorem holds_tryCatch {x : Act Q A γ} {f : Thrown → Act Q A γ}
    (h : Holds E req ok (fun e => Holds E req ok err (f e)) x s) :
    Holds E req ok err (tryCatch x f) s :=
  Handler.amid_tryCatch.mpr h

theorem Holds.mono {ok' : γ → Past D Q A → Prop} {err' : Thrown → Past D Q A → Prop}
    {x : Act Q A γ} (h : Holds E req ok err x s) (hok : ∀ b s', ok b s' → ok' b s')
    (herr : ∀ e s', err e s' → err' e s') : Holds E req ok' err' x s :=
  Handler.amid_mono hok herr h

/-- A step of the handle itself. -/
theorem holds_perform {op : Op Q} {ok : Resp A op → Past D Q A → Prop} {I : Past D Q A → Prop}
    (hI : Stable Rely I) (hs : I s)
    (h : ∀ s₁, I s₁ → Guard s₁ op ∧ ∀ fault, ok (step E fault op s₁.world).1
      ⟨(step E fault op s₁.world).2, ⟨0, op, (step E fault op s₁.world).1⟩ :: s₁.trace⟩) :
    Holds E req ok err (perform op) s := by
  refine ⟨I, hI, hs, fun s₁ r s₂ h₁ hdoes => ?_⟩
  obtain ⟨fault, -, rfl, rfl⟩ := does_iff.mp hdoes
  exact ⟨(h s₁ h₁).1, (h s₁ h₁).2 fault⟩

/-- An error that means that the transaction is lost. -/
def lossy (error : Thrown) : Bool := isDeadStreamError error || isTransactionAlreadyGone error

theorem lossy_of_permits {executed : Bool} {e : Thrown} {db : ℕ} {c : Call Q}
    (h : permits drops (some ⟨executed, e⟩) (.call db c) = true) : lossy e = true := by
  simp only [permits, drops, Bool.and_eq_true] at h
  exact h.1

/-- A call: on the current connection, or on one that was closed in the meantime. -/
theorem holds_call {db : ℕ} {c : Call Q} {ok : Option A → Past D Q A → Prop} {I : Past D Q A → Prop}
    (hI : Stable Rely I) (hs : I s) (hone : ∀ s₁, I s₁ → s₁.world.OneOpen)
    (hhere : ∀ s₁, I s₁ → s₁.world.current = db → Guard s₁ (.call db c) ∧
      ∀ fault, permits drops fault (.call db c) = true →
        ∀ response, s₁.world.here.respond E fault c s₁.world.durable = response →
          Ends ok err response.1 ⟨s₁.world.answered response.2.1 response.2.2,
            ⟨0, .call db c, response.1⟩ :: s₁.trace⟩)
    (haway : ∀ s₁, I s₁ → s₁.world.current ≠ db → ∀ e, lossy e = true →
      err e ⟨s₁.world, ⟨0, .call db c, .error e⟩ :: s₁.trace⟩) :
    Holds E req ok err (call db c) s := by
  refine ⟨I, hI, hs, fun s₁ r s₂ h₁ hdoes => ?_⟩
  obtain ⟨fault, hpermits, rfl, rfl⟩ := does_iff.mp hdoes
  by_cases hdb : s₁.world.current = db
  · subst hdb
    obtain ⟨hguard, hends⟩ := hhere s₁ h₁ rfl
    refine ⟨hguard, ?_⟩
    obtain ⟨response, hresponse⟩ : ∃ response,
      s₁.world.here.respond E fault c s₁.world.durable = response := ⟨_, rfl⟩
    have hends' := hends fault hpermits response hresponse
    simp only [step_call, hresponse]
    obtain ⟨_ | _, connection, durable⟩ := response <;> exact hends'
  · have hlost := hone s₁ h₁ db (Ne.symm hdb)
    obtain ⟨e, hlossy, hstep⟩ : ∃ e, lossy e = true ∧
        step E fault (.call db c) s₁.world = (.error e, s₁.world) := by
      have hsame : Function.update s₁.world.connections db .lost = s₁.world.connections := by
        rw [← hlost, Function.update_eq_self]
      rcases fault with _ | ⟨_ | _, e⟩
      · exact ⟨streamNotFound, by decide, by
          simp only [step, hlost, Connection.respond, Connection.serve_lost, hsame]⟩
      · exact ⟨e, lossy_of_permits hpermits, by
          simp only [step, hlost, Connection.respond, Connection.after, hsame]⟩
      · exact ⟨e, lossy_of_permits hpermits, by
          simp only [step, hlost, Connection.respond, Connection.serve_lost, Connection.after, hsame]⟩
    simp only [hstep]
    refine ⟨?_, haway s₁ h₁ hdb e hlossy⟩
    cases c with
    | run q => simp [Guard, hlost]
    | exec sql => trivial
    | prepare q => trivial

end Holds

/-! ### Outside a transaction -/

namespace Connection

variable {c : Connection D} {durable : D} {fault : Option Fault} {error : Thrown} {sql : String}

theorem after_not_open (h : lossy error = true) : ¬ (c.after error).Open := by
  rintro ⟨tables, hopen⟩
  obtain ⟨-, hdead, hgone⟩ := after_inside hopen
  simp [lossy, hdead, hgone] at h

theorem serve_not_open (hc : ¬ c.Open) (hkind : commandKind sql ≠ .begin) :
    ¬ (c.serve E (.exec sql) durable).2.1.Open := by
  rcases c with _ | tables | _
  · simp only [serve]
    split
    · exact absurd ‹_› hkind
    · exact not_open_autocommit
    · exact not_open_autocommit
    · exact not_open_autocommit
  · exact absurd ⟨tables, rfl⟩ hc
  · exact not_open_lost

theorem respond_not_open (hc : ¬ c.Open) (hkind : commandKind sql ≠ .begin) :
    ¬ (c.respond E fault (.exec sql) durable).2.1.Open := by
  rcases fault with _ | ⟨_ | _, error⟩
  · exact serve_not_open hc hkind
  · exact fun ⟨tables, hopen⟩ => hc ⟨tables, (after_inside hopen).1⟩
  · exact fun ⟨tables, hopen⟩ => serve_not_open hc hkind ⟨tables, (after_inside hopen).1⟩

/-- What is refused outside a transaction is refused because there is none. -/
theorem respond_outside {db : ℕ} (hc : ¬ c.Open)
    (hpermits : permits drops fault (Op.call db (.exec sql) : Op Q) = true)
    (h : (c.respond E fault (.exec sql) durable).1 = .error error) : lossy error = true := by
  rcases fault with _ | ⟨_ | _, error'⟩
  · rcases c with _ | tables | _
    · simp only [respond, serve] at h
      split at h
      · cases h
      · obtain rfl := Except.error.inj h
        decide
      · obtain rfl := Except.error.inj h
        decide
      · cases h
    · exact absurd ⟨tables, rfl⟩ hc
    · obtain rfl := Except.error.inj h
      decide
  · obtain rfl := Except.error.inj h
    exact lossy_of_permits hpermits
  · obtain rfl := Except.error.inj h
    exact lossy_of_permits hpermits

/-- What goes through outside a transaction is neither a `COMMIT` nor a `ROLLBACK`. -/
theorem respond_outside_ok {a : Option A} (hc : ¬ c.Open) (hkind : commandKind sql ≠ .begin)
    (h : (c.respond E fault (.exec sql) durable).1 = .ok a) : commandKind sql = .other := by
  obtain ⟨rfl, hlost, -⟩ := respond_ok h
  rcases c with _ | tables | _
  · simp only [respond, serve] at h
    split at h
    · exact absurd ‹_› hkind
    · cases h
    · cases h
    · assumption
  · exact absurd ⟨tables, rfl⟩ hc
  · exact absurd rfl hlost

end Connection

section Outside

variable {req : Request Q A β} {past : Bool} {tables : D} {s : Past D Q A}

/-- A step of the transaction itself keeps it outside. -/
theorem Outside.push (h : Outside past tables s) {e : Entry (Op Q) (Resp A)}
    (he : begins e = false) {w : State D} (hone : w.OneOpen) (hclosed : ¬ w.here.Open)
    (hflag : s.world.inTransaction = false → w.inTransaction = false)
    (hdurable : w.durable = s.world.durable) : Outside past tables ⟨w, e :: s.trace⟩ := by
  refine ⟨?_, hone, hclosed, fun hpast => hflag (h.flag hpast), hdurable.trans h.durable⟩
  rw [← h.started]
  simp only [begun, List.any_cons, he, Bool.false_or]

theorem State.OneOpen.answered {w : State D} (h : w.OneOpen) (connection : Connection D)
    (durable : D) : (w.answered connection durable).OneOpen := by
  intro db hdb
  have hne : db ≠ w.current := hdb
  simpa [State.answered, Function.update_of_ne hne] using h db hne

/-- A command other than `BEGIN` outside a transaction. -/
theorem holds_call_outside {db : ℕ} {sql : String} (hkind : commandKind sql ≠ .begin)
    (hs : Outside past tables s) : Holds E req
      (fun _ s' => Outside past tables s' ∧ commandKind sql = .other)
      (fun e s' => Outside past tables s' ∧ lossy e = true) (call db (.exec sql)) s := by
  have hbegins : ∀ r, begins (⟨0, .call db (.exec sql), r⟩ : Entry (Op Q) (Resp A)) = false := by
    rintro (e | a)
    · rfl
    · simp [begins, hkind]
  refine holds_call (Outside.stable past tables) hs (fun _ h => h.oneOpen) ?_ ?_
  · intro s₁ h₁ _
    refine ⟨trivial, fun fault hpermits response hresponse => ?_⟩
    have hpush : Outside past tables ⟨s₁.world.answered response.2.1 response.2.2,
        ⟨0, .call db (.exec sql), response.1⟩ :: s₁.trace⟩ := by
      refine h₁.push (hbegins _) (h₁.oneOpen.answered _ _) ?_ id ?_
      · rw [State.here_answered, ← hresponse]
        exact Connection.respond_not_open h₁.closed hkind
      · rw [State.durable_answered, ← hresponse]
        refine Connection.respond_durable (fun _ _ _ => h₁.closed) ?_
        rintro q a tables h - -
        cases h
    obtain ⟨answer, connection, durable⟩ := response
    cases answer with
    | error e =>
      exact ⟨hpush, Connection.respond_outside h₁.closed hpermits (by rw [hresponse])⟩
    | ok a =>
      have hok : (s₁.world.here.respond E fault (.exec sql) s₁.world.durable).1 = .ok a := by
        rw [hresponse]
      exact ⟨hpush, Connection.respond_outside_ok h₁.closed hkind hok⟩
  · intro s₁ h₁ _ e he
    exact ⟨h₁.push rfl h₁.oneOpen h₁.closed id rfl, he⟩

theorem holds_look_outside (hs : Outside past tables s) : Holds E req
    (fun r s' => Outside past tables s' ∧ r.1 = s'.world.inTransaction)
    (fun _ _ => False) look s :=
  holds_perform (Outside.stable past tables) hs fun _ h₁ =>
    ⟨trivial, fun _ => ⟨h₁.push rfl h₁.oneOpen h₁.closed id rfl, rfl⟩⟩

theorem holds_note_outside (hs : Outside past tables s) : Holds E req
    (fun _ s' => Outside past tables s') (fun _ _ => False) (note false) s :=
  holds_perform (Outside.stable past tables) hs fun _ h₁ =>
    ⟨trivial, fun _ => h₁.push rfl h₁.oneOpen h₁.closed (fun _ => rfl) rfl⟩

theorem holds_reconnect_outside (hs : Outside past tables s) : Holds E req
    (fun _ s' => Outside past tables s') (fun e s' => Outside past tables s' ∧ lossy e = true)
    reconnect s := by
  have hperform : Holds E req (fun _ s' => Outside past tables s') (fun _ _ => False)
      (perform .reconnect) s := by
    refine holds_perform (Outside.stable past tables) hs fun s₁ h₁ => ⟨trivial, fun _ => ?_⟩
    refine h₁.push rfl (State.oneOpen_reconnected h₁.oneOpen) ?_ (fun _ => rfl) rfl
    change ¬ s₁.world.reconnected.here.Open
    rw [State.here_reconnected]
    exact Connection.not_open_autocommit
  have hkind : commandKind "PRAGMA foreign_keys = ON" ≠ .begin := by decide
  refine holds_bind (hperform.mono ?_ (fun _ _ h => h.elim))
  intro db s₁ h₁
  exact holds_bind ((holds_call_outside hkind h₁).mono (fun _ _ h => h.1) (fun _ _ h => h))

/-- An attempt that failed once the transaction is gone fails, and it stays gone. -/
theorem holds_recover_outside {kind : OperationKind} {operation : ℕ → Act Q A (Option A)}
    {wasInTransaction : Bool} {e : Thrown} (hrollback : kind ≠ .rollback)
    (hop : wasInTransaction = false → ∀ db s', Outside past tables s' → Holds E req
      (fun _ _ => False) (fun e s' => Outside past tables s' ∧ lossy e = true) (operation db) s')
    (he : lossy e = true) (hs : Outside past tables s) : Holds E req (fun _ _ => False)
      (fun e s' => Outside past tables s' ∧ lossy e = true)
      (recover kind operation wasInTransaction e) s := by
  simp only [recover, hrollback, false_and, if_false]
  split
  · exact holds_bind ((holds_note_outside hs).mono (fun _ _ h => ⟨h, he⟩) (fun _ _ h => h.elim))
  · split
    · exact ⟨hs, he⟩
    · refine holds_bind ((holds_reconnect_outside hs).mono ?_ (fun _ _ h => h))
      intro _ s₁ h₁
      split
      · exact holds_bind ((holds_note_outside h₁).mono (fun _ _ h => ⟨h, he⟩) (fun _ _ h => h.elim))
      · rename_i hwas
        refine holds_bind ((holds_look_outside h₁).mono ?_ (fun _ _ h => h.elim))
        rintro ⟨_, db⟩ s₂ ⟨h₂, -⟩
        exact holds_bind ((hop (by simpa using hwas) db s₂ h₂).mono (fun _ _ h => h.elim)
          (fun _ _ h => h))

/-- A `COMMIT` outside a transaction fails. -/
theorem holds_commit_outside (hs : Outside past tables s) : Holds E req (fun _ _ => False)
    (fun e s' => Outside past tables s' ∧ lossy e = true) (exec "COMMIT") s := by
  have hkind : commandKind "COMMIT" ≠ .begin := by decide
  have hcall : ∀ db s', Outside past tables s' → Holds E req (fun _ _ => False)
      (fun e s' => Outside past tables s' ∧ lossy e = true) (call db (.exec "COMMIT")) s' := by
    intro db s' h'
    refine (holds_call_outside hkind h').mono ?_ (fun _ _ h => h)
    rintro _ _ ⟨-, hother⟩
    rw [commandKind_commit] at hother
    cases hother
  rw [exec, commandKind_commit]
  refine holds_bind ((holds_look_outside hs).mono ?_ (fun _ _ h => h.elim))
  rintro ⟨wasInTransaction, db⟩ s₁ ⟨h₁, -⟩
  refine holds_tryCatch (holds_bind ((hcall db s₁ h₁).mono (fun _ _ h => h.elim) ?_))
  rintro e s₂ ⟨h₂, he⟩
  exact holds_recover_outside (by decide) (fun _ => hcall) he h₂

/-- The transaction has begun, or nothing has happened. -/
theorem holds_call_begin {db : ℕ} (hs : Outside false tables s) : Holds E req
    (fun _ s' => During false db tables tables s') (fun _ s' => Outside false tables s')
    (call db (.exec "BEGIN IMMEDIATE")) s := by
  refine holds_call (Outside.stable false tables) hs (fun _ h => h.oneOpen) ?_
    (fun s₁ h₁ _ e _ => h₁.push rfl h₁.oneOpen h₁.closed id rfl)
  intro s₁ h₁ hcurrent
  refine ⟨trivial, fun fault hpermits response hresponse => ?_⟩
  have hdurable : response.2.2 = s₁.world.durable := by
    rw [← hresponse]
    refine Connection.respond_durable (fun _ _ _ => h₁.closed) ?_
    rintro q a tables h - -
    cases h
  obtain ⟨answer, connection, durable⟩ := response
  cases answer with
  | ok a =>
    obtain ⟨rfl, -, -⟩ := Connection.respond_ok (E := E) (a := a) (congrArg Prod.fst hresponse)
    have hinside : connection = .inside s₁.world.durable := by
      rcases hhere : s₁.world.here with _ | view | _ <;> rw [hhere] at hresponse
      · simp only [Connection.respond, Connection.serve, commandKind_begin] at hresponse
        exact (Prod.mk.inj (Prod.mk.inj hresponse).2).1.symm
      · exact absurd ⟨view, hhere⟩ h₁.closed
      · simp [Connection.respond, Connection.serve_lost] at hresponse
    refine ⟨?_, h₁.oneOpen.answered _ _, hcurrent, .inl ?_, h₁.flag rfl, hdurable.trans h₁.durable⟩
    · simp [begun, begins, commandKind_begin]
    · rw [State.here_answered, hinside, h₁.durable]
  | error e =>
    refine h₁.push rfl (h₁.oneOpen.answered _ _) ?_ id hdurable
    rw [State.here_answered]
    rcases fault with _ | ⟨_ | _, error⟩
    · rcases hhere : s₁.world.here with _ | view | _ <;> rw [hhere] at hresponse
      · simp [Connection.respond, Connection.serve, commandKind_begin] at hresponse
      · exact absurd ⟨view, hhere⟩ h₁.closed
      · simp only [Connection.respond, Connection.serve_lost] at hresponse
        rw [← (Prod.mk.inj (Prod.mk.inj hresponse).2).1]
        exact Connection.not_open_lost
    · rw [← (Prod.mk.inj (Prod.mk.inj hresponse).2).1]
      exact Connection.after_not_open (lossy_of_permits hpermits)
    · rw [← (Prod.mk.inj (Prod.mk.inj hresponse).2).1]
      exact Connection.after_not_open (lossy_of_permits hpermits)

theorem holds_note_during {db : ℕ} {view : D} (hs : During false db tables view s) : Holds E req
    (fun _ s' => During true db tables view s') (fun _ _ => False) (note true) s :=
  holds_perform (During.stable false db tables view) hs fun s₁ h₁ => ⟨trivial, fun _ =>
    ⟨by simp [begun, begins, ← h₁.started], h₁.oneOpen, h₁.current, h₁.here, rfl, h₁.durable⟩⟩

theorem holds_begin (hs : Outside false tables s) : Holds E req
    (fun _ s' => ∃ db, During true db tables tables s') (fun _ s' => Outside false tables s')
    (exec "BEGIN IMMEDIATE") s := by
  rw [exec, commandKind_begin]
  refine holds_bind ((holds_look_outside hs).mono ?_ (fun _ _ h => h.elim))
  rintro ⟨wasInTransaction, db⟩ s₁ ⟨h₁, hwas⟩
  obtain rfl : wasInTransaction = false := hwas.trans (h₁.flag rfl)
  refine holds_tryCatch (holds_bind ((holds_call_begin h₁).mono ?_ ?_))
  · exact fun a s₂ h₂ => holds_bind ((holds_note_during h₂).mono (fun _ _ h => ⟨db, h⟩)
      (fun _ _ h => h.elim))
  · intro e s₂ h₂
    simp only [recover, reduceCtorEq, false_and, if_false, Bool.false_and, Bool.false_eq_true]
    split
    · exact h₂
    · refine holds_bind ((holds_reconnect_outside h₂).mono ?_ (fun _ _ h => h.1))
      intro _ s₃ h₃
      refine holds_bind ((holds_look_outside h₃).mono ?_ (fun _ _ h => h.elim))
      rintro ⟨_, db'⟩ s₄ ⟨h₄, -⟩
      exact holds_bind ((holds_call_begin h₄).mono (fun a s₅ h₅ => holds_bind
        ((holds_note_during h₅).mono (fun _ _ h => ⟨db', h⟩) (fun _ _ h => h.elim))) (fun _ _ h => h))

end Outside

/-! ### Inside a transaction -/

section During

variable {req : Request Q A β} {db : ℕ} {tables view : D} {s : Past D Q A}

/-- A step of the transaction that loses it. -/
theorem During.lose {isOpen : Bool} (h : During isOpen db tables view s)
    {e : Entry (Op Q) (Resp A)} {w : State D} (hone : w.OneOpen) (hclosed : ¬ w.here.Open)
    (hdurable : w.durable = s.world.durable) : Outside true tables ⟨w, e :: s.trace⟩ :=
  ⟨by simp [begun, ← h.started], hone, hclosed, fun h => Bool.noConfusion h,
    hdurable.trans h.durable⟩

/-- A step of the transaction that keeps it. -/
theorem During.push {isOpen : Bool} (h : During isOpen db tables view s)
    {e : Entry (Op Q) (Resp A)} {view' : D} {w : State D} (hone : w.OneOpen)
    (hcurrent : w.current = s.world.current) (hhere : w.here = .inside view' ∨ w.here = .lost)
    (hflag : w.inTransaction = s.world.inTransaction) (hdurable : w.durable = s.world.durable) :
    During isOpen db tables view' ⟨w, e :: s.trace⟩ :=
  ⟨by simp [begun, ← h.started], hone, hcurrent.trans h.current, hhere, hflag.trans h.flag,
    hdurable.trans h.durable⟩

theorem holds_look_during (hs : During true db tables view s) : Holds E req
    (fun r s' => During true db tables view s' ∧ r = (true, db)) (fun _ _ => False) look s :=
  holds_perform (During.stable true db tables view) hs fun _ h₁ => ⟨trivial, fun _ =>
    ⟨h₁.push h₁.oneOpen rfl h₁.here rfl rfl, Prod.ext h₁.flag h₁.current⟩⟩

/-- A call inside a transaction: what the server makes of it, or the transaction is lost. -/
theorem holds_call_during {c : Call Q} {ok : Option A → Past D Q A → Prop}
    {refused : Thrown → Past D Q A → Prop}
    (hs : During true db tables view s)
    (hserve : ∀ s₁ : Past D Q A, During true db tables view s₁ → s₁.world.here = .inside view →
      ∀ response, (Connection.inside view).serve E c tables = response →
        Ends ok refused response.1 ⟨s₁.world.answered response.2.1 response.2.2,
          ⟨0, .call db c, response.1⟩ :: s₁.trace⟩) :
    Holds E req ok (fun e s' => refused e s' ∨ lossy e = true ∧ Outside true tables s')
      (call db c) s := by
  refine holds_call (During.stable true db tables view) hs (fun _ h => h.oneOpen) ?_
    (fun s₁ h₁ hne => absurd h₁.current hne)
  intro s₁ h₁ hcurrent
  refine ⟨?_, fun fault hpermits response hresponse => ?_⟩
  · cases c with
    | run q =>
      have hdb : s₁.world.connections db = s₁.world.here := by rw [← hcurrent]; rfl
      rcases h₁.here with hhere | hhere <;> simp [Guard, hdb, hhere]
    | exec sql => trivial
    | prepare q => trivial
  have hlost : ∀ (response : Except Thrown (Option A) × Connection D × D) (e : Thrown),
      response.1 = .error e → lossy e = true → ¬ response.2.1.Open →
      response.2.2 = s₁.world.durable →
      Ends ok (fun e s' => refused e s' ∨ lossy e = true ∧ Outside true tables s') response.1
        ⟨s₁.world.answered response.2.1 response.2.2, ⟨0, .call db c, response.1⟩ :: s₁.trace⟩ := by
    rintro ⟨_, connection, durable⟩ e rfl he hclosed hdurable
    exact .inr ⟨he, h₁.lose (h₁.oneOpen.answered _ _) (by rwa [State.here_answered]) hdurable⟩
  subst hresponse
  rcases fault with _ | ⟨executed, e⟩
  · rcases h₁.here with hhere | hhere
    · have hends := hserve s₁ h₁ hhere _ rfl
      simp only [Connection.respond, hhere, h₁.durable] at hends ⊢
      rcases hserved : (Connection.inside view).serve E c tables with ⟨_ | _, connection, durable⟩ <;>
        rw [hserved] at hends
      · exact .inl hends
      · exact hends
    · rw [hhere]
      refine hlost _ streamNotFound ?_ (by decide) ?_ ?_
      · simp only [Connection.respond, Connection.serve_lost]
      · simp only [Connection.respond, Connection.serve_lost]
        exact Connection.not_open_lost
      · simp only [Connection.respond, Connection.serve_lost]
  · refine hlost _ e ?_ (lossy_of_permits hpermits) ?_ ?_
    · cases executed <;> rfl
    · cases executed <;> exact Connection.after_not_open (lossy_of_permits hpermits)
    · cases executed with
      | false => rfl
      | true =>
        refine Connection.serve_durable ?_ ?_
        · rintro sql rfl hkind
          simp [permits, drops, hkind] at hpermits
        · rintro q a tables' - hauto
          rcases h₁.here with hhere | hhere <;> rw [hhere] at hauto <;> cases hauto

/-- A statement of the transaction does in it what the engine does, or the transaction is lost. -/
theorem holds_withStatement {q : Q} (hs : During true db tables view s) : Holds E req
    (fun r s' => ∃ a view', E.run q view = .ok (a, view') ∧ r = some a ∧
      During true db tables view' s')
    (fun e s' => (E.run q view = .error e ∧ During true db tables view s') ∨
      lossy e = true ∧ Outside true tables s') (withStatement q) s := by
  refine holds_bind ((holds_look_during hs).mono ?_ (fun _ _ h => h.elim))
  rintro _ s₁ ⟨h₁, rfl⟩
  have hprepare : Holds E req (fun _ s' => During true db tables view s')
      (fun e s' => False ∨ lossy e = true ∧ Outside true tables s') (call db (.prepare q)) s₁ := by
    refine holds_call_during h₁ fun s₂ h₂ _ response hresponse => ?_
    subst hresponse
    exact h₂.push (h₂.oneOpen.answered _ _) rfl (.inl (State.here_answered ..)) rfl h₂.durable.symm
  have hrun : ∀ s₂, During true db tables view s₂ → Holds E req
      (fun r s' => ∃ a view', E.run q view = .ok (a, view') ∧ r = some a ∧
        During true db tables view' s')
      (fun e s' => (E.run q view = .error e ∧ During true db tables view s') ∨
        lossy e = true ∧ Outside true tables s') (call db (.run q)) s₂ := by
    intro s₂ h₂
    refine holds_call_during h₂ fun s₃ h₃ _ response hresponse => ?_
    subst hresponse
    rcases hq : E.run q view with e | ⟨a, view'⟩
    · simp only [Connection.serve, hq]
      exact ⟨rfl, h₃.push (h₃.oneOpen.answered _ _) rfl (.inl (State.here_answered ..)) rfl
        h₃.durable.symm⟩
    · simp only [Connection.serve, hq]
      exact ⟨a, view', rfl, rfl, h₃.push (h₃.oneOpen.answered _ _) rfl
        (.inl (State.here_answered ..)) rfl h₃.durable.symm⟩
  refine holds_tryCatch (holds_bind (holds_bind (hprepare.mono (fun a s₂ h₂ => (hrun s₂ h₂).mono
    (fun r s₃ h₃ => h₃) ?_) ?_)))
  · rintro e s₃ (⟨hrefused, h₃⟩ | ⟨he, h₃⟩)
    · obtain ⟨hdead, hgone⟩ := E.plain _ _ _ hrefused
      simp only [recover, reduceCtorEq, false_and, if_false, hdead, hgone, Bool.and_false,
        Bool.false_eq_true, Bool.not_false, if_true]
      exact .inl ⟨hrefused, h₃⟩
    · exact (holds_recover_outside (by decide) (fun h => Bool.noConfusion h) he h₃).mono
        (fun _ _ h => h.elim) (fun _ _ h => .inr ⟨h.2, h.1⟩)
  · rintro e s₂ (h | ⟨he, h₂⟩)
    · exact h.elim
    · exact (holds_recover_outside (by decide) (fun h => Bool.noConfusion h) he h₂).mono
        (fun _ _ h => h.elim) (fun _ _ h => .inr ⟨h.2, h.1⟩)

/-- A body that issues nothing more once a statement of it met a lost transaction. -/
def Stops : Body Q A β → Prop
  | .ret _ => True
  | .call _ k => (∀ e, lossy e = true → ∃ result, k (.error e) = .ret result) ∧ ∀ r, Stops (k r)

/-- The body, statement by statement. -/
theorem holds_issue {fn : Body Q A β} : ∀ {view : D} {s : Past D Q A}, Stops fn →
    During true db tables view s → Holds E req
      (fun b s' => (∃ view', E.evaluate fn view = (.ok b, view') ∧ During true db tables view' s') ∨
        Outside true tables s')
      (fun _ s' => (∃ view', During true db tables view' s') ∨ Outside true tables s')
      (ExceptT.mk (issue fn)) s := by
  induction fn with
  | ret result =>
    intro view s _ hs
    rcases result with e | b
    · exact .inl ⟨view, hs⟩
    · exact .inl ⟨view, rfl, hs⟩
  | call q k ih =>
    rintro view s ⟨hstop, hrest⟩ hs
    rw [Holds, Handler.Amid]
    change Amid _ _ _ _ _ ((withStatement q).run >>= fun answer => issue (k answer)) _ _
    rw [amid_bind]
    refine amid_mono ?_ (holds_withStatement hs)
    rintro (e | r) s₁ h
    · rcases h with ⟨hrefused, h₁⟩ | ⟨he, h₁⟩
      · rw [Engine.evaluate_refused hrefused]
        exact ih (.error e) (hrest _) h₁
      · obtain ⟨result, hresult⟩ := hstop e he
        rw [hresult]
        rcases result with e' | b
        · exact .inr h₁
        · exact .inr h₁
    · obtain ⟨a, view', hrun, rfl, h₁⟩ := h
      rw [Engine.evaluate_ok hrun]
      exact ih (.ok (some a)) (hrest _) h₁

/-- A `COMMIT` inside a transaction makes what it sees durable, or leaves the tables as they were. -/
theorem holds_commit_during (hs : During true db tables view s) : Holds E req
    (fun _ s' => s'.world.durable = view) (fun _ s' => s'.world.durable = tables)
    (exec "COMMIT") s := by
  rw [exec, commandKind_commit]
  refine holds_bind ((holds_look_during hs).mono ?_ (fun _ _ h => h.elim))
  rintro _ s₁ ⟨h₁, rfl⟩
  have hcall : Holds E req (fun _ s' => s'.world.durable = view)
      (fun e s' => False ∨ lossy e = true ∧ Outside true tables s')
      (call db (.exec "COMMIT")) s₁ := by
    refine holds_call_during h₁ fun s₂ h₂ _ response hresponse => ?_
    simp only [Connection.serve, commandKind_commit] at hresponse
    subst hresponse
    rfl
  have hnote : ∀ s', s'.world.durable = view → Holds E req (fun _ s' => s'.world.durable = view)
      (fun _ _ => False) (note false) s' := fun s' h' =>
    holds_perform (durable_stable view) h' fun _ h => ⟨trivial, fun _ => h⟩
  refine holds_tryCatch (holds_bind (hcall.mono ?_ ?_))
  · exact fun a s₂ h₂ => holds_bind ((hnote s₂ h₂).mono (fun _ _ h => h) (fun _ _ h => h.elim))
  · rintro e s₂ (h | ⟨he, h₂⟩)
    · exact h.elim
    · exact (holds_recover_outside (by decide) (fun h => Bool.noConfusion h) he h₂).mono
        (fun _ _ h => h.elim) (fun _ _ h => h.1.durable)

end During

/-! ### The whole transaction -/

section Whole

variable {req : Request Q A β} {tables : D} {s : Past D Q A}

/-- What touches no table. -/
def Spares : Op Q → Prop
  | .call _ (.exec sql) => commandKind sql ≠ .commit
  | .call _ (.run _) => False
  | _ => True

theorem holds_of_spares {x : Act Q A γ} (hx : Acts Spares x) (hs : s.world.durable = tables) :
    Holds E req (fun _ s' => s'.world.durable = tables) (fun _ s' => s'.world.durable = tables)
      x s := by
  refine amid_mono ?_ (Prog.All.amid (durable_stable tables) ?_ hx hs)
  · rintro (e | a) s' ⟨-, h⟩ <;> exact h
  · intro op s r s' h hop hdoes
    obtain ⟨fault, -, rfl, rfl⟩ := does_iff.mp hdoes
    cases op with
    | call db c =>
      cases c with
      | exec sql =>
        refine ⟨trivial, (Connection.respond_durable ?_ ?_).trans h⟩
        · rintro _ ⟨⟩ hkind
          exact absurd hkind hop
        · rintro q a tables' h - -
          cases h
      | prepare q =>
        refine ⟨trivial, (Connection.respond_durable ?_ ?_).trans h⟩
        · rintro _ h -
          cases h
        · rintro q a tables' h - -
          cases h
      | run q => exact absurd hop id
    | look => exact ⟨trivial, h⟩
    | note isOpen => exact ⟨trivial, h⟩
    | reconnect => exact ⟨trivial, h⟩

theorem acts_rollback : Acts Spares (exec (Q := Q) (A := A) "ROLLBACK") := by
  have hrollback : commandKind "ROLLBACK" ≠ .commit := by decide
  have hpragma : commandKind "PRAGMA foreign_keys = ON" ≠ .commit := by decide
  exact acts_attempt (fun db => acts_call hrollback) trivial (fun _ _ => trivial) trivial
    (fun _ => hpragma)

/-- The `catch` branch leaves the tables as they are. -/
theorem holds_abandon {e : Thrown} (hs : s.world.durable = tables) : Holds E req
    (fun (_ : β) _ => False) (fun _ s' => s'.world.durable = tables)
    (do
      tryCatch
        (do
          let _ ← exec "ROLLBACK"
          return ())
        fun _ => return ()
      throw e) s := by
  refine holds_bind (holds_tryCatch (holds_bind ((holds_of_spares acts_rollback hs).mono ?_ ?_)))
  · exact fun _ _ h => h
  · exact fun _ _ h => h

/-- The run lemma: what the transaction answers is what became of the tables. -/
theorem holds_withTransaction {fn : Body Q A β} (hstops : Stops fn) (hs : Outside false tables s) :
    Holds E req (fun b s' => E.evaluate fn tables = (.ok b, s'.world.durable))
      (fun _ s' => s'.world.durable = tables) (withTransaction fn) s := by
  refine holds_bind ((holds_begin hs).mono ?_ (fun _ _ h => h.durable))
  rintro _ s₁ ⟨db, h₁⟩
  refine holds_tryCatch (holds_bind ((holds_issue hstops h₁).mono ?_ ?_))
  · rintro b s₂ (⟨view, heval, h₂⟩ | h₂)
    · refine holds_bind ((holds_commit_during h₂).mono ?_ ?_)
      · rintro _ s₃ rfl
        exact heval
      · exact fun e s₃ h₃ => (holds_abandon h₃).mono (fun _ _ h => h.elim) (fun _ _ h => h)
    · refine holds_bind ((holds_commit_outside h₂).mono (fun _ _ h => h.elim) ?_)
      exact fun e s₃ h₃ => (holds_abandon h₃.1.durable).mono (fun _ _ h => h.elim) (fun _ _ h => h)
  · rintro e s₂ (⟨view, h₂⟩ | h₂)
    · exact (holds_abandon h₂.durable).mono (fun _ _ h => h.elim) (fun _ _ h => h)
    · exact (holds_abandon h₂.durable).mono (fun _ _ h => h.elim) (fun _ _ h => h)

end Whole

/-- No transaction is open or believed to be. -/
structure State.Idle (w : State D) : Prop where
  oneOpen : w.OneOpen
  closed : ¬ w.here.Open
  flag : w.inTransaction = false

/-- One transaction on an idle handle. -/
def oneTransaction (fn : Body Q A β) (w : State D) :
    Config (Op Q) (Resp A) (State D) (Request Q A β) (Settled A β) :=
  ⟨⟨w, []⟩, [⟨.transaction fn, Request.handler (.transaction fn)⟩]⟩

/-- What a transaction comes to, and what became of the tables. -/
def Atomic (E : Engine D Q A) (fn : Body Q A β) (tables : D) : Settled A β → Past D Q A → Prop
  | .inl (.ok b), s => E.evaluate fn tables = (.ok b, s.world.durable)
  | .inl (.error _), s => s.world.durable = tables
  | .inr _, _ => True

theorem Atomic.stable (fn : Body Q A β) (tables : D) (settled : Settled A β) :
    Stable Rely (Atomic E fn tables settled) := by
  intro s s' hrely h
  rcases settled with (e | b) | r
  · exact hrely.durable.trans h
  · exact h.trans (by rw [hrely.durable])
  · trivial

theorem amid_transaction {fn : Body Q A β} (hstops : Stops fn) {w : State D} (hw : w.Idle) :
    Amid (system E drops) Rely 0 (.transaction fn) Guard (Request.handler (.transaction fn))
      (Atomic E fn w.durable) ⟨w, []⟩ := by
  rw [Request.handler, amid_bind]
  have hs : Outside false w.durable (⟨w, []⟩ : Past D Q A) :=
    ⟨rfl, hw.oneOpen, hw.closed, fun _ => hw.flag, rfl⟩
  refine amid_mono ?_ (holds_withTransaction hstops hs)
  rintro (e | b) s h <;> exact h

/-- **A transaction beside reads is atomic**, in every run in which no read disturbs it once it has
begun and for every body that stops when it is lost: it resolves with everything it wrote durable, or
rejects with nothing durable, and no statement of it runs on a connection without a transaction. -/
theorem transaction_atomic (E : Engine D Q A) (fn : Body Q A β) (hstops : Stops fn) (w : State D)
    (hw : w.Idle) (c : Config (Op Q) (Resp A) (State D) (Request Q A β) (Settled A β))
    (hreach : Reach (system E drops) (onlyReads E) (oneTransaction fn w) c)
    (hcalm : calm c.hist.trace = true) :
    (∀ b, c.answer 0 = some (.inl (.ok b)) →
      E.evaluate fn w.durable = (.ok b, c.hist.world.durable)) ∧
    (∀ e, c.answer 0 = some (.inl (.error e)) → c.hist.world.durable = w.durable) ∧
    ∀ db q c', Step (system E drops) c (.perform 0 (.transaction fn) (.call db (.run q))) c' →
      c.hist.world.connections db ≠ .autocommit := by
  have hstart : ∀ (s : Past D Q A) (req : Request Q A β), onlyReads E s (.start req) →
      ((system E drops).handler req).All (ReadOp E) fun _ => True := by
    rintro s (fn' | q) hreq
    · exact absurd hreq id
    · change ((withStatement q).run >>= _).All _ _
      rw [Prog.all_bind]
      exact (acts_withStatement hreq).mono (fun _ h => h) (fun _ _ => trivial)
  have hrest : ∀ j t, j ≠ 0 → (oneTransaction fn w).tasks[j]? = some t →
      t.rest.All (ReadOp E) fun _ => True := by
    intro j t hj ht
    simp [oneTransaction, hj] at ht
  obtain ⟨⟨p, hp, hamid⟩, -⟩ := hreach.amid (fun tr => calm tr = true) (ReadOp E)
    (fun e tr h => (Bool.and_eq_true _ _ ▸ h : calm tr = true ∧ _).1) hstart
    (fun hj hop hcalm hdoes => rely_of_read hj hop hcalm hdoes) (fun {_ e _} => nomatch e)
    (Atomic.stable fn w.durable) rfl hrest (amid_transaction hstops hw) hcalm
  have hanswer : ∀ settled, c.answer 0 = some settled → Atomic E fn w.durable settled c.hist := by
    intro settled h
    cases p with
    | ret settled' =>
      rw [Config.answer, hp] at h
      obtain rfl := Option.some.inj h
      exact hamid
    | call op k =>
      rw [Config.answer, hp] at h
      cases h
  refine ⟨fun b hb => hanswer _ hb, fun e he => hanswer _ he, ?_⟩
  intro db q c' hstep
  cases hstep with
  | perform htask hdoes =>
    rw [hp] at htask
    obtain rfl := (Task.mk.inj (Option.some.inj htask)).2
    obtain ⟨I, -, hI, hnext⟩ := hamid
    exact (hnext _ _ _ hI hdoes).1

/-- Whether a move is one of a select, or of a task that is there. -/
def onlySelects : Past (List String) (Option String) (List String) →
    Move (Op (Option String)) (Request (Option String) (List String) Unit) Empty → Bool
  | _, .start (.transaction _) => false
  | _, .start (.statement q) => q.isNone
  | _, _ => true

/-- One insert beside selects, along a schedule. -/
def insertBesideSelects (schedule : List (Event (Request (Option String) (List String) Unit)
    (Option Fault) Empty)) :=
  (oneTransaction insertOne (State.opened [])).follow (system rows drops) onlySelects schedule

theorem insertBesideSelects_reach {schedule} {c} (h : insertBesideSelects schedule = some c) :
    Reach (system rows drops) (onlyReads rows) (oneTransaction insertOne (State.opened [])) c := by
  refine (Config.follow_reach .refl h).mono ?_
  rintro s (⟨_ | _ | _⟩ | ⟨i, req, op⟩ | e) hmove
  · cases hmove
  · rintro tables a tables' hrun
    cases hrun
    rfl
  · cases hmove
  · trivial
  · trivial

theorem State.opened_idle (tables : D) : (State.opened tables).Idle where
  oneOpen := fun db hdb => by
    have hne : db ≠ 0 := hdb
    simp [State.opened, hne]
  closed := Connection.not_open_autocommit
  flag := rfl

theorem insertOne_stops : Stops insertOne :=
  ⟨fun e _ => ⟨.error e, rfl⟩, fun _ => trivial⟩

/-- A select is answered in the middle, and the stream dies under the insert. -/
theorem transaction_atomic_specimen : ∃ c,
    Reach (system rows drops) (onlyReads rows) (oneTransaction insertOne (State.opened [])) c ∧
    calm c.hist.trace = true ∧ c.answer 0 = some (.inl (.error streamNotFound)) ∧
    c.hist.world.durable = [] := by
  have hrun : (insertBesideSelects ([.start (.statement none), .run 0 none, .run 0 none, .run 0 none,
      .run 1 none, .run 1 none, .run 1 none, .run 0 none, .run 0 none,
      .run 0 (some ⟨true, streamNotFound⟩)] ++ List.replicate 6 (.run 0 none))).map
        (fun c => (calm c.hist.trace, c.answer 0)) = some (true, some (.inl (.error streamNotFound))) := by
    rfl
  obtain ⟨c, hc, hends⟩ := Option.map_eq_some_iff.mp hrun
  obtain ⟨hcalm, hanswer⟩ := Prod.mk.inj hends
  exact ⟨c, insertBesideSelects_reach hc, hcalm, hanswer,
    (transaction_atomic rows insertOne insertOne_stops _ (State.opened_idle []) c
      (insertBesideSelects_reach hc) hcalm).2.1 _ hanswer⟩

/-- The server discarded the transaction while it was idle, and a select beside it was told first:
the insert is committed on its own, and the transaction rejects. -/
theorem insert_outside_its_transaction : ∃ c,
    Reach (system rows drops) (onlyReads rows) (oneTransaction insertOne (State.opened [])) c ∧
    c.answer 0 = some (.inl (.error cannotCommit)) ∧ c.hist.world.durable = ["booking"] := by
  have hrun : (insertBesideSelects ([.start (.statement none), .run 0 none, .run 0 none, .run 0 none,
      .run 1 none, .run 1 (some ⟨false, ⟨some "interactive transaction was rolled back"⟩⟩),
      .run 1 none] ++ List.replicate 8 (.run 0 none))).map
        (fun c => (c.answer 0, c.hist.world.durable)) =
      some (some (.inl (.error cannotCommit)), ["booking"]) := by
    rfl
  obtain ⟨c, hc, hends⟩ := Option.map_eq_some_iff.mp hrun
  obtain ⟨hanswer, hdurable⟩ := Prod.mk.inj hends
  exact ⟨c, insertBesideSelects_reach hc, hanswer, hdurable⟩

end TransitBpp.Db
