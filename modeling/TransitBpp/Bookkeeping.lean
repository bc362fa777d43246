import TransitBpp.Reconnecting

/-!
# One caller at a time

A `ReconnectingDatabase` whose every call is awaited before the next one is made, with its cache of
prepared statements. Nothing else runs between two steps of a call, so a call is a function from one
state of the handle to the next; what will happen to each call of the driver is part of the state.
-/

namespace TransitBpp.Db.Single

variable {D Q A : Type}

/-- A prepared statement, which runs on the connection that prepared it. -/
structure Statement (Q : Type) : Type where
  /-- the connection that prepared it -/
  connection : ℕ
  /-- its text -/
  sql : Q

/-- An entry of `statementCache`. -/
structure Cached (Q : Type) : Type where
  /-- the generation it was prepared in -/
  generation : ℕ
  /-- what its promise is fulfilled with -/
  statement : Statement Q

/-- A call of the driver, with the connection that the operation was handed and what it came to. -/
inductive Event (Q A : Type) : Type where
  /-- `db.exec(sql)` -/
  | exec (db : ℕ) (sql : String) (answer : Except Thrown (Option A)) : Event Q A
  /-- `db.prepare(sql)` -/
  | prepared (db : ℕ) (sql : Q) (answer : Except Thrown (Option A)) : Event Q A
  /-- `statement.run(...)` or `statement.all(...)` -/
  | ran (db : ℕ) (statement : Statement Q) (answer : Except Thrown (Option A)) : Event Q A
  /-- the pragma of `reconnect` -/
  | restored (db : ℕ) (answer : Except Thrown (Option A)) : Event Q A

/-- The server, one `ReconnectingDatabase` on it, and what was done on its behalf. -/
structure Handle (D Q A : Type) : Type extends State D where
  /-- `this.generation` -/
  generation : ℕ
  /-- `this.statementCache` -/
  statementCache : List (Q × Cached Q)
  /-- what will happen to the calls of the driver -/
  faults : ℕ → Option Fault
  /-- the calls of the driver so far, newest first -/
  trace : List (Event Q A)

/-- `new ReconnectingDatabase(...)` on these tables. -/
def Handle.opened (durable : D) (faults : ℕ → Option Fault) : Handle D Q A where
  toState := State.opened durable
  generation := 0
  statementCache := []
  faults := faults
  trace := []

namespace Handle

variable (E : Engine D Q A)

/-- What a call of the driver comes to. -/
def answer (h : Handle D Q A) (db : ℕ) (call : Call Q) : Except Thrown (Option A) :=
  (step E (h.faults 0) (.call db call) h.toState).1

/-- The state after it. -/
def called (h : Handle D Q A) (db : ℕ) (call : Call Q) (event : Event Q A) : Handle D Q A :=
  { h with
    toState := (step E (h.faults 0) (.call db call) h.toState).2
    faults := fun n => h.faults (n + 1)
    trace := event :: h.trace }

/-- `this.inTransaction = open`. -/
def note (h : Handle D Q A) (isOpen : Bool) : Handle D Q A :=
  { h with toState := { h.toState with inTransaction := isOpen } }

/-- What `attempt` notes of an operation that went through. -/
def noteDone (h : Handle D Q A) : OperationKind → Handle D Q A
  | .begin => h.note true
  | .commit => h.note false
  | .rollback => h.note false
  | .other => h

/-- What it notes of one that went through on a fresh connection. -/
def noteBegun (h : Handle D Q A) : OperationKind → Handle D Q A
  | .begin => h.note true
  | _ => h

/-- A fresh connection. -/
def renewed (h : Handle D Q A) : Handle D Q A :=
  { h with
    toState := h.toState.reconnected
    generation := h.generation + 1
    statementCache := [] }

/-- Close the current connection, open another, forget the statements, and turn foreign keys on. -/
def reconnect (h : Handle D Q A) : Except Thrown (Option A) × Handle D Q A :=
  let fresh := h.renewed
  let pragma := fresh.answer E fresh.current (.exec "PRAGMA foreign_keys = ON")
  (pragma, fresh.called E fresh.current (.exec "PRAGMA foreign_keys = ON")
    (.restored fresh.current pragma))

/-- What `attempt` runs on a connection. -/
abbrev Operation (D Q A : Type) : Type :=
  ℕ → Handle D Q A → Except Thrown (Option A) × Handle D Q A

/-- The `catch` branch of `attempt`. -/
def recover (kind : OperationKind) (operation : Operation D Q A) (wasInTransaction : Bool)
    (error : Thrown) (h : Handle D Q A) : Except Thrown (Option A) × Handle D Q A :=
  if kind = .rollback ∧ isNothingToRollBack error then (.ok none, h.note false)
  else if wasInTransaction && isTransactionAlreadyGone error then (.error error, h.note false)
  else if !isDeadStreamError error then (.error error, h)
  else
    match h.reconnect E with
    | (.error failed, h₁) => (.error failed, h₁)
    | (.ok _, h₁) =>
      if wasInTransaction then (.error error, h₁.note false)
      else
        match operation h₁.current h₁ with
        | (.ok result, h₂) => (.ok result, h₂.noteBegun kind)
        | (.error failed, h₂) => (.error failed, h₂)

def attempt (kind : OperationKind) (operation : Operation D Q A) (h : Handle D Q A) :
    Except Thrown (Option A) × Handle D Q A :=
  match operation h.current h with
  | (.ok result, h₁) => (.ok result, h₁.noteDone kind)
  | (.error error, h₁) => recover E kind operation h.inTransaction error h₁

variable [DecidableEq Q]

/-- Prepare a statement; one that is not prepared is not kept. -/
def prepare (db : ℕ) (sql : Q) (h : Handle D Q A) : Except Thrown (Statement Q) × Handle D Q A :=
  let answer := h.answer E db (.prepare sql)
  let h₁ := h.called E db (.prepare sql) (.prepared db sql answer)
  match answer with
  | .ok _ => (.ok ⟨db, sql⟩, { h₁ with
      statementCache := Js.mapSet h₁.statementCache sql ⟨h.generation, ⟨db, sql⟩⟩ })
  | .error error => (.error error, { h₁ with statementCache := Js.mapDelete h₁.statementCache sql })

/-- The prepared statement for a text on the live connection. -/
def statementFor (db : ℕ) (sql : Q) (h : Handle D Q A) : Except Thrown (Statement Q) × Handle D Q A :=
  match Js.mapGet h.statementCache sql with
  | some cached =>
    if cached.generation = h.generation then (.ok cached.statement, h) else h.prepare E db sql
  | none => h.prepare E db sql

/-- Run a prepared statement, on the connection it is bound to. -/
def run (db : ℕ) (statement : Statement Q) (h : Handle D Q A) :
    Except Thrown (Option A) × Handle D Q A :=
  let answer := h.answer E statement.connection (.run statement.sql)
  (answer, h.called E statement.connection (.run statement.sql) (.ran db statement answer))

/-- The operation of `withStatement`. -/
def statement (sql : Q) : Operation D Q A := fun db h =>
  match h.statementFor E db sql with
  | (.ok statement, h₁) => h₁.run E db statement
  | (.error error, h₁) => (.error error, h₁)

/-- `prepare(sql)` and one of its functions. -/
def withStatement (sql : Q) (h : Handle D Q A) : Except Thrown (Option A) × Handle D Q A :=
  h.attempt E .other (statement E sql)

/-- The operation of `exec`. -/
def command (sql : String) : Operation D Q A := fun db h =>
  let answer := h.answer E db (.exec sql)
  (answer, h.called E db (.exec sql) (.exec db sql answer))

def exec (sql : String) (h : Handle D Q A) : Except Thrown (Option A) × Handle D Q A :=
  h.attempt E (commandKind sql) (command E sql)

end Handle

/-- What the caller asks of the handle. -/
inductive Ask (Q : Type) : Type where
  /-- `database.exec(sql)` -/
  | exec : String → Ask Q
  /-- one of the functions of `database.prepare(sql)` -/
  | statement : Q → Ask Q

/-- The kind of what a caller asks. -/
def Ask.kind : Ask Q → OperationKind
  | .exec sql => commandKind sql
  | .statement _ => .other

/-- One call, to its end. -/
def Ask.serve [DecidableEq Q] (E : Engine D Q A) (h : Handle D Q A) :
    Ask Q → Except Thrown (Option A) × Handle D Q A
  | .exec sql => h.exec E sql
  | .statement sql => h.withStatement E sql

/-- The calls of a caller, one after another. -/
def Handle.served [DecidableEq Q] (E : Engine D Q A) (h : Handle D Q A) (asks : List (Ask Q)) :
    Handle D Q A := asks.foldl (fun h ask => (ask.serve E h).2) h

/-- A failure that is not of the stream befell a call that the server did not execute. -/
def Described (faults : ℕ → Option Fault) : Prop :=
  ∀ n fault, faults n = some fault → fault.executed = true → isDeadStreamError fault.error = true

/-! ## What is exact -/

namespace Event

/-- A statement of the caller was executed. -/
def executes : Event Q A → Bool
  | .exec .. => true
  | .ran .. => true
  | _ => false

/-- The connection that the operation was handed. -/
def db : Event Q A → ℕ
  | .exec db .. => db
  | .prepared db .. => db
  | .ran db .. => db
  | .restored db _ => db

/-- What it came to. -/
def answer : Event Q A → Except Thrown (Option A)
  | .exec _ _ answer => answer
  | .prepared _ _ answer => answer
  | .ran _ _ answer => answer
  | .restored _ answer => answer

end Event

/-- The executions of a statement during one call, newest first. -/
inductive Executed (h h' : Handle D Q A) : List (Event Q A) → Prop where
  /-- it could not be prepared -/
  | never : Executed h h' []
  /-- it was executed once -/
  | once (event : Event Q A) : Executed h h' [event]
  /-- outside a transaction the stream was dead, and it was executed again on a new connection -/
  | twice {first second : Event Q A} {error : Thrown} : first.answer = .error error →
      isDeadStreamError error = true → ¬ h.here.Open → first.db = h.current →
      second.db = h'.current → h.current < h'.current → Executed h h' [second, first]

/-- Every prepared statement ran on the connection that the operation was handed, which had prepared
it. -/
def Bound (trace : List (Event Q A)) : Prop :=
  ∀ (later earlier : List (Event Q A)) (db : ℕ) (statement : Statement Q)
    (answer : Except Thrown (Option A)), trace = later ++ .ran db statement answer :: earlier →
      statement.connection = db ∧ ∃ a, .prepared db statement.sql (.ok a) ∈ earlier

/-- The books of a handle after one call. -/
structure Exact [DecidableEq Q] (E : Engine D Q A) (h : Handle D Q A) (ask : Ask Q) : Prop where
  /-- a transaction is believed to be open if and only if one is -/
  flag : (ask.serve E h).2.inTransaction = true ↔ (ask.serve E h).2.here.Open
  /-- how often the statement was executed -/
  executed : ∃ events, (ask.serve E h).2.trace = events ++ h.trace ∧
    Executed h (ask.serve E h).2 (events.filter Event.executes)
  /-- a `COMMIT` reported as a success found its transaction open, and committed it -/
  committed : ∀ sql a, ask = .exec sql → commandKind sql = .commit → (ask.serve E h).1 = .ok a →
    h.here = .inside (ask.serve E h).2.durable ∧ (ask.serve E h).2.current = h.current
  /-- an open transaction was open before, on the same connection, or has just been begun -/
  opened : (ask.serve E h).2.here.Open →
    h.here.Open ∧ (ask.serve E h).2.current = h.current ∨
      ∃ sql a, ask = .exec sql ∧ commandKind sql = .begin ∧ (ask.serve E h).1 = .ok a
  /-- which connection the prepared statements ran on -/
  bound : Bound (ask.serve E h).2.trace

/-! ## One call of the driver -/

/-- What a call of this kind that went through makes of its connection. -/
def Settles (c c' : Connection D) (durable' : D) : OperationKind → Prop
  | .begin => c'.Open
  | .commit => c = .inside durable' ∧ ¬ c'.Open
  | .rollback => ¬ c'.Open
  | .other => c'.Open ↔ c.Open

/-- The kind of a call of the driver. -/
def kindOf : Call Q → OperationKind
  | .exec sql => commandKind sql
  | _ => .other

section

variable {E : Engine D Q A} {c : Connection D} {call : Call Q} {durable : D} {fault : Option Fault}
  {error : Thrown} {a : Option A}

theorem serve_settles (h : (c.serve E call durable).1 = .ok a) :
    Settles c (c.serve E call durable).2.1 (c.serve E call durable).2.2 (kindOf call) := by
  cases call with
  | prepare sql => cases c <;> exact Iff.rfl
  | run sql =>
    cases c with
    | lost => exact Iff.rfl
    | autocommit =>
      simp only [Connection.serve, kindOf, Settles]
      split <;> exact Iff.rfl
    | inside tables =>
      simp only [Connection.serve, kindOf, Settles]
      split
      · exact ⟨fun _ => ⟨_, rfl⟩, fun _ => ⟨_, rfl⟩⟩
      · exact Iff.rfl
  | exec sql =>
    cases c with
    | lost => cases h
    | autocommit =>
      simp only [Connection.serve, kindOf] at h ⊢
      cases hkind : commandKind sql with
      | begin => exact ⟨_, rfl⟩
      | commit =>
        rw [hkind] at h
        cases h
      | rollback => exact Connection.not_open_autocommit
      | other => exact Iff.rfl
    | inside tables =>
      simp only [Connection.serve, kindOf] at h ⊢
      cases hkind : commandKind sql with
      | begin => exact ⟨_, rfl⟩
      | commit => exact ⟨rfl, Connection.not_open_autocommit⟩
      | rollback => exact Connection.not_open_autocommit
      | other => exact Iff.rfl

/-- A failure leaves a transaction open if it is about neither the stream nor the transaction. -/
theorem after_open : (c.after error).Open ↔
    c.Open ∧ isDeadStreamError error = false ∧ isTransactionAlreadyGone error = false := by
  constructor
  · rintro ⟨tables, htables⟩
    obtain ⟨rfl, hdead, hgone⟩ := Connection.after_inside htables
    exact ⟨⟨tables, rfl⟩, hdead, hgone⟩
  · rintro ⟨⟨tables, rfl⟩, hdead, hgone⟩
    exact ⟨tables, by simp only [Connection.after, hdead, hgone, Bool.false_eq_true, if_false]⟩

/-- So does one that the server answers with. -/
theorem serve_error_open (h : (c.serve E call durable).1 = .error error) :
    (c.serve E call durable).2.1.Open ↔
      c.Open ∧ isDeadStreamError error = false ∧ isTransactionAlreadyGone error = false := by
  cases c with
  | lost =>
    rw [Connection.serve_lost]
    exact ⟨fun hopen => absurd hopen Connection.not_open_lost,
      fun hopen => absurd hopen.1 Connection.not_open_lost⟩
  | autocommit =>
    have hsame : (Connection.autocommit.serve E call durable).2.1 = .autocommit := by
      cases call with
      | prepare sql => cases h
      | run sql =>
        simp only [Connection.serve] at h ⊢
        split at h
        · cases h
        · rfl
      | exec sql =>
        simp only [Connection.serve] at h ⊢
        split at h
        · cases h
        · rfl
        · rfl
        · cases h
    rw [hsame]
    exact ⟨fun hopen => absurd hopen Connection.not_open_autocommit,
      fun hopen => absurd hopen.1 Connection.not_open_autocommit⟩
  | inside tables =>
    have hrefused : ((Connection.inside tables).serve E call durable).2.1 = .inside tables ∧
        isDeadStreamError error = false ∧ isTransactionAlreadyGone error = false := by
      cases call with
      | prepare sql => cases h
      | run sql =>
        simp only [Connection.serve] at h ⊢
        split at h
        · cases h
        · obtain rfl := Except.error.inj h
          exact ⟨rfl, E.plain _ _ _ ‹_›⟩
      | exec sql =>
        simp only [Connection.serve] at h ⊢
        split at h
        · obtain rfl := Except.error.inj h
          exact ⟨rfl, by decide, by decide⟩
        · cases h
        · cases h
        · cases h
    rw [hrefused.1]
    exact ⟨fun hopen => ⟨hopen, hrefused.2⟩, fun hopen => hopen.1⟩

theorem respond_settles (h : (c.respond E fault call durable).1 = .ok a) :
    Settles c (c.respond E fault call durable).2.1 (c.respond E fault call durable).2.2
      (kindOf call) := by
  obtain ⟨rfl, -, -⟩ := Connection.respond_ok h
  exact serve_settles h

theorem respond_error_open (hplain : ∀ f, fault = some f → f.executed = true →
    isDeadStreamError f.error = true) (h : (c.respond E fault call durable).1 = .error error) :
    (c.respond E fault call durable).2.1.Open ↔
      c.Open ∧ isDeadStreamError error = false ∧ isTransactionAlreadyGone error = false := by
  rcases fault with _ | ⟨_ | _, failed⟩
  · exact serve_error_open h
  · obtain rfl := Except.error.inj h
    exact after_open
  · obtain rfl := Except.error.inj h
    have hdead := hplain _ rfl rfl
    simp only [Connection.respond, after_open, hdead, Bool.true_eq_false, false_and, and_false]

end

/-! ## The books -/

/-- What every step keeps, but for the flag. -/
structure Books (h : Handle D Q A) : Prop where
  faults : Described h.faults
  cached : ∀ e ∈ h.statementCache, e.2.statement = ⟨h.current, e.1⟩ ∧
    ∃ a, .prepared h.current e.1 (.ok a) ∈ h.trace
  bound : Bound h.trace

/-- What an operation makes of the handle, on its current connection. -/
structure Does (kind : OperationKind) (h h' : Handle D Q A) (answer : Except Thrown (Option A)) :
    Prop where
  books : Books h'
  current : h'.current = h.current
  flag : h'.inTransaction = h.inTransaction
  trace : ∃ events, h'.trace = events ++ h.trace ∧ (events.filter Event.executes = [] ∨
    ∃ event, events.filter Event.executes = [event] ∧ event.db = h.current ∧ event.answer = answer)
  ok : ∀ a, answer = .ok a → Settles h.here h'.here h'.durable kind
  error : ∀ error, answer = .error error → (h'.here.Open ↔
    h.here.Open ∧ isDeadStreamError error = false ∧ isTransactionAlreadyGone error = false)

section

variable {E : Engine D Q A} {h : Handle D Q A} {kind : OperationKind}

theorem bound_cons {event : Event Q A} {trace : List (Event Q A)} (h : Bound trace)
    (hran : ∀ db statement answer, event = .ran db statement answer →
      statement.connection = db ∧ ∃ a, .prepared db statement.sql (.ok a) ∈ trace) :
    Bound (event :: trace) := by
  intro later earlier db statement answer heq
  cases later with
  | nil =>
    obtain ⟨rfl, rfl⟩ := List.cons.inj heq
    exact hran db statement answer rfl
  | cons first later => exact h later earlier db statement answer (List.cons.inj heq).2

/-- A call of the driver on the current connection. -/
theorem called_books (hbooks : Books h) (call : Call Q) {event : Event Q A}
    (hran : ∀ db statement answer, event = .ran db statement answer →
      statement.connection = db ∧ ∃ a, .prepared db statement.sql (.ok a) ∈ h.trace) :
    Books (h.called E h.current call event) := by
  refine ⟨fun n fault hfault => hbooks.faults (n + 1) fault hfault, fun e he => ?_,
    bound_cons hbooks.bound hran⟩
  obtain ⟨hstatement, a, hprepared⟩ := hbooks.cached e he
  exact ⟨hstatement, a, List.mem_cons_of_mem _ hprepared⟩

theorem called_settles (call : Call Q) (event : Event Q A) {a : Option A}
    (hok : h.answer E h.current call = .ok a) :
    Settles h.here (h.called E h.current call event).here (h.called E h.current call event).durable
      (kindOf call) := by
  have hrespond : (h.here.respond E (h.faults 0) call h.durable).1 = .ok a := hok
  have hsettles := respond_settles hrespond
  rw [Handle.called, step_call]
  simpa only [State.here_answered, State.durable_answered] using hsettles

theorem called_error (hbooks : Books h) (call : Call Q) (event : Event Q A) {error : Thrown}
    (herror : h.answer E h.current call = .error error) :
    (h.called E h.current call event).here.Open ↔
      h.here.Open ∧ isDeadStreamError error = false ∧ isTransactionAlreadyGone error = false := by
  have hrespond : (h.here.respond E (h.faults 0) call h.durable).1 = .error error := herror
  have hopen := respond_error_open (fun f hf => hbooks.faults 0 f hf) hrespond
  rw [Handle.called, step_call]
  simpa only [State.here_answered] using hopen

theorem exec_does (hbooks : Books h) (sql : String) :
    Does (commandKind sql) h (Handle.command E sql h.current h).2
      (Handle.command E sql h.current h).1 where
  books := called_books hbooks _ nofun
  current := rfl
  flag := rfl
  trace := ⟨[_], rfl, .inr ⟨_, rfl, rfl, rfl⟩⟩
  ok _ hok := called_settles (.exec sql) _ hok
  error _ herror := called_error hbooks _ _ herror

/-- What `statementFor` makes of the handle: the statement it answers was prepared by the current
connection. -/
structure Prepares (h h' : Handle D Q A) (sql : Q) (answer : Except Thrown (Statement Q)) : Prop where
  books : Books h'
  current : h'.current = h.current
  flag : h'.inTransaction = h.inTransaction
  trace : ∃ events, h'.trace = events ++ h.trace ∧ events.filter Event.executes = []
  ok : ∀ statement, answer = .ok statement → statement = ⟨h.current, sql⟩ ∧
    (∃ a, .prepared h.current sql (.ok a) ∈ h'.trace) ∧ (h'.here.Open ↔ h.here.Open)
  error : ∀ error, answer = .error error → (h'.here.Open ↔
    h.here.Open ∧ isDeadStreamError error = false ∧ isTransactionAlreadyGone error = false)

variable [DecidableEq Q]

theorem prepare_prepares (hbooks : Books h) (sql : Q) :
    Prepares h (h.prepare E h.current sql).2 sql (h.prepare E h.current sql).1 := by
  have hcalled : Books (h.called E h.current (.prepare sql)
      (.prepared h.current sql (h.answer E h.current (.prepare sql)))) :=
    called_books hbooks (.prepare sql) nofun
  cases hanswer : h.answer E h.current (.prepare sql) with
  | ok a =>
    simp only [Handle.prepare, hanswer] at hcalled ⊢
    refine ⟨⟨hcalled.faults, fun e he => ?_, hcalled.bound⟩, rfl, rfl, ⟨[_], rfl, rfl⟩, ?_, nofun⟩
    · rcases Js.mem_mapSet he with he | rfl
      · exact hcalled.cached e he
      · exact ⟨rfl, a, List.mem_cons_self⟩
    · rintro statement ⟨⟩
      exact ⟨rfl, ⟨a, List.mem_cons_self⟩, called_settles (.prepare sql)
        (.prepared h.current sql (.ok a)) hanswer⟩
  | error failed =>
    simp only [Handle.prepare, hanswer] at hcalled ⊢
    refine ⟨⟨hcalled.faults, fun e he => hcalled.cached e (Js.mem_of_mem_mapDelete he), hcalled.bound⟩,
      rfl, rfl, ⟨[_], rfl, rfl⟩, nofun, ?_⟩
    rintro error ⟨⟩
    exact called_error hbooks (.prepare sql) (.prepared h.current sql (.error failed)) hanswer

theorem statementFor_prepares (hbooks : Books h) (sql : Q) :
    Prepares h (h.statementFor E h.current sql).2 sql (h.statementFor E h.current sql).1 := by
  rw [Handle.statementFor]
  split
  · rename_i cached hcached
    split
    · obtain ⟨hstatement, hprepared⟩ := hbooks.cached _ (Js.mem_of_mapGet hcached)
      refine ⟨hbooks, rfl, rfl, ⟨[], rfl, rfl⟩, ?_, nofun⟩
      rintro statement ⟨⟩
      exact ⟨hstatement, hprepared, Iff.rfl⟩
    · exact prepare_prepares hbooks sql
  · exact prepare_prepares hbooks sql

theorem statement_does (hbooks : Books h) (sql : Q) :
    Does .other h (Handle.statement E sql h.current h).2 (Handle.statement E sql h.current h).1 := by
  have hprepares := statementFor_prepares (E := E) hbooks sql
  rw [Handle.statement]
  split
  · rename_i statement h₁ hprepared
    rw [hprepared] at hprepares
    obtain ⟨rfl, hmade, hopen⟩ := hprepares.ok _ rfl
    obtain ⟨events, htrace, hnone⟩ := hprepares.trace
    have hcurrent : h₁.current = h.current := hprepares.current
    rw [← hcurrent] at hmade ⊢
    refine ⟨called_books hprepares.books _ ?_, hprepares.current, hprepares.flag,
      ⟨_ :: events, congrArg _ htrace, .inr ⟨.ran h₁.current ⟨h₁.current, sql⟩
        (h₁.answer E h₁.current (.run sql)), ?_, hcurrent, rfl⟩⟩, fun a ha => ?_,
      fun error herror => ?_⟩
    · rintro _ _ _ ⟨⟩
      exact ⟨rfl, hmade⟩
    · rw [List.filter_cons_of_pos rfl, hnone]
    · exact (called_settles (h := h₁) (.run sql) _ ha).trans hopen
    · exact (called_error hprepares.books (.run sql) _ herror).trans (and_congr_left' hopen)
  · rename_i failed h₁ hprepared
    rw [hprepared] at hprepares
    obtain ⟨events, htrace, hnone⟩ := hprepares.trace
    refine ⟨hprepares.books, hprepares.current, hprepares.flag, ⟨events, htrace, .inl hnone⟩, nofun, ?_⟩
    rintro error ⟨⟩
    exact hprepares.error failed rfl

omit [DecidableEq Q]

/-! ## An attempt -/

/-- What an attempt makes of the handle. -/
structure Attempts (kind : OperationKind) (h h' : Handle D Q A) (answer : Except Thrown (Option A)) :
    Prop where
  books : Books h'
  flag : h'.inTransaction = true ↔ h'.here.Open
  executed : ∃ events, h'.trace = events ++ h.trace ∧
    Executed h h' (events.filter Event.executes)
  committed : ∀ a, kind = .commit → answer = .ok a →
    h.here = .inside h'.durable ∧ h'.current = h.current
  opened : h'.here.Open → h.here.Open ∧ h'.current = h.current ∨
    kind = .begin ∧ ∃ a, answer = .ok a

theorem executed_of_does {h h' : Handle D Q A} {answer : Except Thrown (Option A)}
    (hdoes : Does kind h h' answer) : ∃ events, h'.trace = events ++ h.trace ∧
      ∀ h'', Executed h h'' (events.filter Event.executes) := by
  obtain ⟨events, htrace, hnone | ⟨event, hone, -, -⟩⟩ := hdoes.trace
  · exact ⟨events, htrace, fun h'' => hnone ▸ .never⟩
  · exact ⟨events, htrace, fun h'' => hone ▸ .once event⟩

/-- Nothing was executed after the operation failed. -/
theorem attempts_of_failed {h h₁ : Handle D Q A} {error : Thrown}
    {answer : Except Thrown (Option A)} (hdoes : Does kind h h₁ (.error error)) (isOpen : Bool)
    (hflag : isOpen = true ↔ h₁.here.Open) (hcommit : kind = .commit → ∀ a, answer ≠ .ok a) :
    Attempts kind h (h₁.note isOpen) answer := by
  obtain ⟨events, htrace, hexecuted⟩ := executed_of_does hdoes
  refine ⟨⟨hdoes.books.faults, hdoes.books.cached, hdoes.books.bound⟩, hflag,
    ⟨events, htrace, hexecuted _⟩, fun a hkind ha => absurd ha (hcommit hkind a), fun hopen => ?_⟩
  exact .inl ⟨((hdoes.error error rfl).mp hopen).1, hdoes.current⟩

/-- What `reconnect` makes of the handle: a fresh connection on which nothing is open. -/
structure Renews (h h' : Handle D Q A) : Prop where
  books : Books h'
  current : h'.current = h.current + 1
  flag : h'.inTransaction = false
  closed : ¬ h'.here.Open
  trace : ∃ event, h'.trace = event :: h.trace ∧ event.executes = false

theorem reconnect_renews {h : Handle D Q A} (hbooks : Books h) : Renews h (h.reconnect E).2 := by
  have hrenewed : Books h.renewed := ⟨hbooks.faults, nofun, hbooks.bound⟩
  have hhere : h.renewed.here = .autocommit := State.here_reconnected h.toState
  refine ⟨called_books hrenewed _ nofun, rfl, rfl, fun hopen => ?_, _, rfl, rfl⟩
  have hclosed := @Connection.respond_other D Q A E h.renewed.durable (h.renewed.faults 0) _
    commandKind_pragma
  have hafter : (h.reconnect E).2.here =
      (Connection.autocommit.respond E (h.renewed.faults 0) (.exec "PRAGMA foreign_keys = ON")
        h.renewed.durable).2.1 := by
    rw [← hhere]
    exact State.here_answered ..
  rw [hafter] at hopen
  rcases hclosed with ⟨-, hclosed⟩ | ⟨-, hclosed | hclosed⟩
  · exact Connection.not_open_autocommit (hclosed ▸ hopen)
  · exact Connection.not_open_autocommit (hclosed ▸ hopen)
  · exact Connection.not_open_lost (hclosed ▸ hopen)

/-- Nothing was executed once the connection was replaced. -/
theorem attempts_of_renewed {h h₁ h₂ : Handle D Q A} {error : Thrown}
    {answer : Except Thrown (Option A)} (hdoes : Does kind h h₁ (.error error))
    (hrenews : Renews h₁ h₂) (isOpen : Bool) (hisOpen : isOpen = false) (hanswer : ∀ a, answer ≠ .ok a) :
    Attempts kind h (h₂.note isOpen) answer := by
  obtain ⟨events, htrace, hexecuted⟩ := executed_of_does hdoes
  obtain ⟨event, htrace', hevent⟩ := hrenews.trace
  refine ⟨⟨hrenews.books.faults, hrenews.books.cached, hrenews.books.bound⟩,
    ⟨fun h => ?_, fun hopen => absurd hopen hrenews.closed⟩, ⟨event :: events, ?_, ?_⟩,
    fun a _ ha => absurd ha (hanswer a), fun hopen => absurd hopen hrenews.closed⟩
  · exact absurd (hisOpen.symm.trans h) nofun
  · exact htrace'.trans (congrArg _ htrace)
  · rw [List.filter_cons_of_neg (by rw [hevent]; nofun)]
    exact hexecuted _

/-- The operation again, on a fresh connection. -/
theorem attempts_of_again {h h₁ h₂ h₃ : Handle D Q A} {error : Thrown}
    {answer : Except Thrown (Option A)} (hclosed : ¬ h.here.Open)
    (hdead : isDeadStreamError error = true) (hdoes : Does kind h h₁ (.error error))
    (hrenews : Renews h₁ h₂) (hagain : Does kind h₂ h₃ answer) (isOpen : Bool)
    (hflag : isOpen = true ↔ h₃.here.Open)
    (hopened : h₃.here.Open → kind = .begin ∧ ∃ a, answer = .ok a)
    (hcommit : kind = .commit → ∀ a, answer ≠ .ok a) :
    Attempts kind h (h₃.note isOpen) answer := by
  refine ⟨⟨hagain.books.faults, hagain.books.cached, hagain.books.bound⟩, hflag, ?_,
    fun a hkind ha => absurd ha (hcommit hkind a), fun hopen => .inr (hopened hopen)⟩
  obtain ⟨event, hevent, hpragma⟩ := hrenews.trace
  obtain ⟨events, htrace, hfirst⟩ := hdoes.trace
  obtain ⟨events', htrace', hsecond⟩ := hagain.trace
  refine ⟨events' ++ event :: events, ?_, ?_⟩
  · show h₃.trace = _
    rw [htrace', hevent, htrace, List.append_assoc, List.cons_append]
  · rw [List.filter_append, List.filter_cons_of_neg (by rw [hpragma]; nofun)]
    rcases hfirst with hfirst | ⟨first, hfirst, hdb, hanswer⟩
    · rw [hfirst, List.append_nil]
      rcases hsecond with hsecond | ⟨second, hsecond, -, -⟩
      · exact hsecond ▸ .never
      · exact hsecond ▸ .once second
    · rcases hsecond with hsecond | ⟨second, hsecond, hdb', -⟩
      · rw [hfirst, hsecond, List.nil_append]
        exact .once first
      · rw [hfirst, hsecond, List.singleton_append]
        have hcurrent : h₂.current = h.current + 1 := by rw [hrenews.current, hdoes.current]
        have hcurrent' : (h₃.note isOpen).current = h.current + 1 := hagain.current.trans hcurrent
        refine .twice hanswer hdead hclosed hdb (hdb'.trans (hcurrent.trans hcurrent'.symm)) ?_
        rw [hcurrent']
        exact Nat.lt_succ_self _

theorem attempt_attempts {operation : Handle.Operation D Q A}
    (hoperation : ∀ {h : Handle D Q A}, Books h →
      Does kind h (operation h.current h).2 (operation h.current h).1)
    {h : Handle D Q A} (hbooks : Books h) (hflag : h.inTransaction = true ↔ h.here.Open) :
    Attempts kind h (h.attempt E kind operation).2 (h.attempt E kind operation).1 := by
  have hdoes := hoperation hbooks
  rw [Handle.attempt]
  split
  · -- the operation went through
    rename_i a h₁ hresult
    rw [hresult] at hdoes
    obtain ⟨events, htrace, hexecuted⟩ := executed_of_does hdoes
    have hsettles := hdoes.ok a rfl
    have hbooks₁ := hdoes.books
    cases kind with
    | begin =>
      exact ⟨⟨hbooks₁.faults, hbooks₁.cached, hbooks₁.bound⟩, ⟨fun _ => hsettles, fun _ => rfl⟩,
        ⟨events, htrace, hexecuted _⟩, nofun, fun _ => .inr ⟨rfl, a, rfl⟩⟩
    | commit =>
      exact ⟨⟨hbooks₁.faults, hbooks₁.cached, hbooks₁.bound⟩,
        ⟨nofun, fun hopen => absurd hopen hsettles.2⟩, ⟨events, htrace, hexecuted _⟩,
        fun _ _ _ => ⟨hsettles.1, hdoes.current⟩, fun hopen => absurd hopen hsettles.2⟩
    | rollback =>
      exact ⟨⟨hbooks₁.faults, hbooks₁.cached, hbooks₁.bound⟩,
        ⟨nofun, fun hopen => absurd hopen hsettles⟩, ⟨events, htrace, hexecuted _⟩, nofun,
        fun hopen => absurd hopen hsettles⟩
    | other =>
      refine ⟨hbooks₁, ?_, ⟨events, htrace, hexecuted _⟩, nofun,
        fun hopen => .inl ⟨hsettles.mp hopen, hdoes.current⟩⟩
      exact (hdoes.flag ▸ hflag).trans hsettles.symm
  · rename_i error h₁ hresult
    rw [hresult] at hdoes
    have hopen := hdoes.error error rfl
    rw [Handle.recover]
    split
    · -- there was nothing to roll back
      rename_i hnothing
      have hgone := isTransactionAlreadyGone_of_nothing hnothing.2
      refine attempts_of_failed hdoes false ⟨nofun, fun h => ?_⟩
        fun hkind => absurd (hnothing.1.symm.trans hkind) nofun
      exact absurd (hopen.mp h).2.2 (by rw [hgone]; nofun)
    · split
      · -- the server has dropped the transaction
        rename_i hgone
        obtain ⟨-, hgone⟩ := Bool.and_eq_true_iff.mp hgone
        refine attempts_of_failed hdoes false ⟨nofun, fun h => ?_⟩ nofun
        exact absurd (hopen.mp h).2.2 (by rw [hgone]; nofun)
      · rename_i hkept
        split
        · -- any other failure
          rename_i hlive
          have hdead : isDeadStreamError error = false := by simpa using hlive
          refine attempts_of_failed hdoes h₁.inTransaction ?_ nofun
          rw [hdoes.flag, hflag, hopen]
          refine ⟨fun h => ⟨h, hdead, ?_⟩, fun h => h.1⟩
          rw [hflag.mpr h, Bool.true_and] at hkept
          simpa using hkept
        · -- the stream was dead
          rename_i hlive
          have hdead : isDeadStreamError error = true := by simpa using hlive
          have hrenews := reconnect_renews (E := E) hdoes.books
          split
          · rename_i failed h₂ hreconnect
            rw [hreconnect] at hrenews
            exact attempts_of_renewed hdoes hrenews h₂.inTransaction hrenews.flag nofun
          · rename_i pragma h₂ hreconnect
            rw [hreconnect] at hrenews
            split
            · exact attempts_of_renewed hdoes hrenews false rfl nofun
            · rename_i hwas
              have hclosed : ¬ h.here.Open := fun h => hwas (hflag.mpr h)
              have hagain := hoperation hrenews.books
              split
              · rename_i a h₃ hresult
                rw [hresult] at hagain
                have hsettles := hagain.ok a rfl
                have hfalse : h₃.inTransaction = false := hagain.flag.trans hrenews.flag
                cases kind with
                | begin =>
                  exact attempts_of_again hclosed hdead hdoes hrenews hagain true
                    ⟨fun _ => hsettles, fun _ => rfl⟩ (fun _ => ⟨rfl, a, rfl⟩) nofun
                | commit => exact absurd ⟨_, hsettles.1⟩ hrenews.closed
                | rollback =>
                  exact attempts_of_again hclosed hdead hdoes hrenews hagain h₃.inTransaction
                    ⟨fun h => absurd (hfalse.symm.trans h) nofun, fun h => absurd h hsettles⟩
                    (fun h => absurd h hsettles) nofun
                | other =>
                  have hclosed₃ : ¬ h₃.here.Open := fun h => hrenews.closed (hsettles.mp h)
                  exact attempts_of_again hclosed hdead hdoes hrenews hagain h₃.inTransaction
                    ⟨fun h => absurd (hfalse.symm.trans h) nofun, fun h => absurd h hclosed₃⟩
                    (fun h => absurd h hclosed₃) nofun
              · rename_i failed h₃ hresult
                rw [hresult] at hagain
                have hfalse : h₃.inTransaction = false := hagain.flag.trans hrenews.flag
                have hclosed₃ : ¬ h₃.here.Open :=
                  fun h => hrenews.closed ((hagain.error failed rfl).mp h).1
                exact attempts_of_again hclosed hdead hdoes hrenews hagain h₃.inTransaction
                  ⟨fun h => absurd (hfalse.symm.trans h) nofun, fun h => absurd h hclosed₃⟩
                  (fun h => absurd h hclosed₃) nofun

/-! ## Every call -/

variable [DecidableEq Q]

theorem serve_attempts (ask : Ask Q) {h : Handle D Q A} (hbooks : Books h)
    (hflag : h.inTransaction = true ↔ h.here.Open) :
    Attempts ask.kind h (ask.serve E h).2 (ask.serve E h).1 := by
  cases ask with
  | exec sql => exact attempt_attempts (fun hbooks => exec_does hbooks sql) hbooks hflag
  | statement sql => exact attempt_attempts (fun hbooks => statement_does hbooks sql) hbooks hflag

/-- The calls keep the books. -/
theorem served_kept (asks : List (Ask Q)) {h : Handle D Q A} (hbooks : Books h)
    (hflag : h.inTransaction = true ↔ h.here.Open) :
    Books (h.served E asks) ∧ ((h.served E asks).inTransaction = true ↔ (h.served E asks).here.Open) := by
  induction asks generalizing h with
  | nil => exact ⟨hbooks, hflag⟩
  | cons ask asks ih =>
    have hattempts := serve_attempts (E := E) ask hbooks hflag
    exact ih hattempts.books hattempts.flag

/-- **The bookkeeping is exact**: after every call of one caller, whatever failures befall the calls of
the driver. -/
theorem bookkeeping_exact (E : Engine D Q A) (durable : D) (faults : ℕ → Option Fault)
    (hfaults : Described faults) (asks : List (Ask Q)) (ask : Ask Q) :
    Exact E ((Handle.opened durable faults).served E asks) ask := by
  have hopened : Books (Handle.opened durable faults : Handle D Q A) :=
    ⟨hfaults, nofun, fun later earlier db statement answer heq => by cases later <;> cases heq⟩
  have hclosed : ¬ (Handle.opened durable faults : Handle D Q A).here.Open :=
    Connection.not_open_autocommit
  obtain ⟨hbooks, hflag⟩ := served_kept (E := E) asks hopened ⟨nofun, fun h => absurd h hclosed⟩
  have hattempts := serve_attempts (E := E) ask hbooks hflag
  refine ⟨hattempts.flag, hattempts.executed, ?_, fun hopen => ?_, hattempts.books.bound⟩
  · rintro sql a rfl hkind ha
    exact hattempts.committed a hkind ha
  · rcases hattempts.opened hopen with hopen | ⟨hkind, a, ha⟩
    · exact .inl hopen
    · cases ask with
      | exec sql => exact .inr ⟨sql, a, rfl, hkind, ha⟩
      | statement sql => cases hkind

end

/-! ### A stream that dies twice -/

/-- The stream is dead at the second and at the fifth call of the driver. -/
def twiceDead : ℕ → Option Fault
  | 1 => some ⟨false, streamNotFound⟩
  | 4 => some ⟨true, streamNotFound⟩
  | _ => none

theorem bookkeeping_exact_specimen :
    Exact rows ((Handle.opened [] twiceDead).served rows
      [.exec "BEGIN IMMEDIATE", .statement (some "booking"), .exec "ROLLBACK"]) (.exec "COMMIT") := by
  refine bookkeeping_exact rows [] twiceDead (fun n fault h _ => ?_) _ _
  simp only [twiceDead] at h
  split at h
  · obtain rfl := Option.some.inj h
    decide
  · obtain rfl := Option.some.inj h
    decide
  · cases h

end TransitBpp.Db.Single
