import TransitBpp.Interleave
import TransitBpp.Js

/-!
# A transaction on a connection that can be lost

`ReconnectingDatabase` and `withTransaction`. The database engine behind the driver is a parameter:
tables `D`, statements `Q` and answers `A`. What the module adds is in the model: which connection is
current, whether a transaction is believed to be open, and when a call is repeated. A call reaches the
server or fails on the way, before or after the server executed it, and a failure that says that the
stream or the transaction is gone has lost it.

The cache of prepared statements is left out: a preparation has no effect, and one that was cached is
one that does not fail.
-/

namespace TransitBpp.Db

open Interleave

variable {D Q A β : Type}

/-! ## Errors -/

/-- What was thrown, as far as it is looked at: the message, if it is an `Error`. -/
structure Thrown where
  /-- `error.message` -/
  message : Option String
deriving DecidableEq

/-- `DEAD_STREAM_PATTERNS`. -/
def deadStreamPatterns : List Js.Pattern :=
  [.text "stream not found",
    .andThen (.text "stream ") (.andThen (.optional (.text "has ")) (.text "expired")),
    .andThen (.text "stream ")
      (.andThen (.optional (.either (.text "has been ") (.text "was "))) (.text "closed"))]

def isDeadStreamError (error : Thrown) : Bool :=
  error.message.any fun message => deadStreamPatterns.any fun pattern => pattern.test message

/-- `command`, an optional hyphen between spaces, and `no transaction is active`. -/
def noTransactionPattern (command : String) : Js.Pattern :=
  .andThen (.text command) (.andThen .spaces (.andThen (.optional (.text "-"))
    (.andThen .spaces (.text "no transaction is active"))))

/-- A ROLLBACK that failed because there is nothing to roll back. -/
def isNothingToRollBack (error : Thrown) : Bool :=
  error.message.any (noTransactionPattern "cannot rollback").test

/-- The server ended the transaction. -/
def isTransactionAlreadyGone (error : Thrown) : Bool :=
  error.message.any fun message =>
    isNothingToRollBack error || (noTransactionPattern "cannot commit").test message ||
      (Js.Pattern.text "interactive transaction was rolled back").test message

theorem isTransactionAlreadyGone_of_nothing {error : Thrown} (h : isNothingToRollBack error = true) :
    isTransactionAlreadyGone error = true := by
  obtain ⟨message⟩ := error
  cases message with
  | none => exact h
  | some message => simp only [isTransactionAlreadyGone, Option.any_some, h, Bool.true_or]

inductive OperationKind : Type where
  /-- `BEGIN` -/
  | begin : OperationKind
  /-- `COMMIT` -/
  | commit : OperationKind
  /-- `ROLLBACK` -/
  | rollback : OperationKind
  /-- any other -/
  | other : OperationKind
deriving DecidableEq

def commandKind (sql : String) : OperationKind :=
  let trimmed := (sql.toList.dropWhile Js.isSpace).map Char.toUpper
  if "BEGIN".toList.isPrefixOf trimmed then .begin
  else if "COMMIT".toList.isPrefixOf trimmed then .commit
  else if "ROLLBACK".toList.isPrefixOf trimmed then .rollback
  else .other

theorem commandKind_begin : commandKind "BEGIN IMMEDIATE" = .begin := by decide

theorem commandKind_commit : commandKind "COMMIT" = .commit := by decide

theorem commandKind_rollback : commandKind "ROLLBACK" = .rollback := by decide

theorem commandKind_pragma : commandKind "PRAGMA foreign_keys = ON" = .other := by decide

/-! ## The server -/

/-- The database engine: what a statement answers and does to the tables it sees. A statement that it
refuses is refused with an error about the statement, not about the stream or the transaction. -/
structure Engine (D Q A : Type) where
  /-- execute a statement -/
  run : Q → D → Except Thrown (A × D)
  plain : ∀ q d e, run q d = .error e →
    isDeadStreamError e = false ∧ isTransactionAlreadyGone e = false

/-- What the driver is asked for. -/
inductive Call (Q : Type) : Type where
  /-- `db.exec(sql)` -/
  | exec : String → Call Q
  /-- `db.prepare(sql)` -/
  | prepare : Q → Call Q
  /-- run a prepared statement -/
  | run : Q → Call Q

/-- One connection, as the server has it. -/
inductive Connection (D : Type) : Type where
  /-- no transaction is open -/
  | autocommit : Connection D
  /-- a transaction is open, and these are the tables it sees -/
  | inside : D → Connection D
  /-- the stream is gone, or the connection is closed -/
  | lost : Connection D
deriving DecidableEq

def streamNotFound : Thrown := ⟨some "stream not found"⟩
def cannotBegin : Thrown := ⟨some "cannot start a transaction within a transaction"⟩
def cannotCommit : Thrown := ⟨some "cannot commit - no transaction is active"⟩
def cannotRollback : Thrown := ⟨some "cannot rollback - no transaction is active"⟩

/-- A call that the server executes, on a connection and the durable tables. -/
def Connection.serve (E : Engine D Q A) (call : Call Q) (c : Connection D) (durable : D) :
    Except Thrown (Option A) × Connection D × D :=
  match c, call with
  | .lost, _ => (.error streamNotFound, .lost, durable)
  | .autocommit, .exec sql =>
    match commandKind sql with
    | .begin => (.ok none, .inside durable, durable)
    | .commit => (.error cannotCommit, .autocommit, durable)
    | .rollback => (.error cannotRollback, .autocommit, durable)
    | .other => (.ok none, .autocommit, durable)
  | .inside tables, .exec sql =>
    match commandKind sql with
    | .begin => (.error cannotBegin, .inside tables, durable)
    | .commit => (.ok none, .autocommit, tables)
    | .rollback => (.ok none, .autocommit, durable)
    | .other => (.ok none, .inside tables, durable)
  | c, .prepare _ => (.ok none, c, durable)
  | .autocommit, .run q =>
    match E.run q durable with
    | .ok (a, tables) => (.ok (some a), .autocommit, tables)
    | .error e => (.error e, .autocommit, durable)
  | .inside tables, .run q =>
    match E.run q tables with
    | .ok (a, tables') => (.ok (some a), .inside tables', durable)
    | .error e => (.error e, .inside tables, durable)

/-- A failure of one call on the way: whether the server had executed it, and what is thrown. -/
structure Fault where
  /-- the server executed it -/
  executed : Bool
  /-- what the caller is told -/
  error : Thrown

/-- What a failure leaves of a connection. -/
def Connection.after (error : Thrown) : Connection D → Connection D
  | .lost => .lost
  | c =>
    if isDeadStreamError error then .lost
    else if isTransactionAlreadyGone error then .autocommit
    else c

/-- A call, under what happens to it on the way. -/
def Connection.respond (E : Engine D Q A) (fault : Option Fault) (call : Call Q) (c : Connection D)
    (durable : D) : Except Thrown (Option A) × Connection D × D :=
  match fault with
  | none => c.serve E call durable
  | some ⟨true, error⟩ =>
    (.error error, (c.serve E call durable).2.1.after error, (c.serve E call durable).2.2)
  | some ⟨false, error⟩ => (.error error, c.after error, durable)

/-! ## The handle -/

/-- The server and one `ReconnectingDatabase` on it. -/
structure State (D : Type) where
  /-- the committed tables -/
  durable : D
  /-- every connection made or to be made -/
  connections : ℕ → Connection D
  /-- `this.current` -/
  current : ℕ
  /-- `this.inTransaction` -/
  inTransaction : Bool

/-- A fresh handle. -/
def State.opened (durable : D) : State D where
  durable := durable
  connections := Function.update (fun _ => .lost) 0 .autocommit
  current := 0
  inTransaction := false

/-- The steps between two of which another task can run. -/
inductive Op (Q : Type) : Type where
  /-- read `this.inTransaction` and `this.current` -/
  | look : Op Q
  /-- `this.inTransaction = open` -/
  | note : Bool → Op Q
  /-- `this.current.close(); this.current = this.factory(); this.inTransaction = false` -/
  | reconnect : Op Q
  /-- a call of the driver on one connection -/
  | call : ℕ → Call Q → Op Q

/-- What a step answers. -/
abbrev Resp (A : Type) : Op Q → Type
  | .look => Bool × ℕ
  | .note _ => Unit
  | .reconnect => ℕ
  | .call _ _ => Except Thrown (Option A)

/-- What a step does. -/
def step (E : Engine D Q A) (fault : Option Fault) : (op : Op Q) → State D → Resp A op × State D
  | .look, s => ((s.inTransaction, s.current), s)
  | .note isOpen, s => ((), { s with inTransaction := isOpen })
  | .reconnect, s =>
    (s.current + 1,
      { s with
        connections :=
          Function.update (Function.update s.connections s.current .lost) (s.current + 1) .autocommit
        current := s.current + 1
        inTransaction := false })
  | .call db call, s =>
    let (answer, connection, durable) := (s.connections db).respond E fault call s.durable
    (answer,
      { s with durable := durable, connections := Function.update s.connections db connection })

/-- A program of the handle. -/
abbrev Act (Q A : Type) : Type → Type := Handler (Op Q) (Resp A) Thrown

def perform (op : Op Q) : Act Q A (Resp A op) := ExceptT.lift (Prog.perform op)

def look : Act Q A (Bool × ℕ) := perform .look

def note (isOpen : Bool) : Act Q A Unit := perform (.note isOpen)

def call (db : ℕ) (c : Call Q) : Act Q A (Option A) :=
  ExceptT.mk (Prog.perform (Op.call db c))

/-- Close the current connection, open another, and turn foreign keys on. -/
def reconnect : Act Q A Unit := do
  let db : ℕ ← perform .reconnect
  let _ ← call db (.exec "PRAGMA foreign_keys = ON")
  return ()

/-- What `attempt` notes of an operation that went through. -/
def noteDone : OperationKind → Act Q A Unit
  | .begin => note true
  | .commit => note false
  | .rollback => note false
  | .other => return ()

/-- What it notes of one that went through on a fresh connection. -/
def noteBegun : OperationKind → Act Q A Unit
  | .begin => note true
  | _ => return ()

/-- The `catch` branch of `attempt`. -/
def recover (kind : OperationKind) (operation : ℕ → Act Q A (Option A)) (wasInTransaction : Bool)
    (error : Thrown) : Act Q A (Option A) :=
  if kind = .rollback ∧ isNothingToRollBack error then do
    note false
    return none
  else if wasInTransaction && isTransactionAlreadyGone error then do
    note false
    throw error
  else if !isDeadStreamError error then throw error
  else do
    reconnect
    if wasInTransaction then do
      note false
      throw error
    else do
      let (_, db) ← look
      let result ← operation db
      noteBegun kind
      return result

def attempt (kind : OperationKind) (operation : ℕ → Act Q A (Option A)) : Act Q A (Option A) := do
  let (wasInTransaction, db) ← look
  tryCatch
    (do
      let result ← operation db
      noteDone kind
      return result)
    (recover kind operation wasInTransaction)

def withStatement (q : Q) : Act Q A (Option A) :=
  attempt .other fun db => do
    let _ ← call db (.prepare q)
    call db (.run q)

def exec (sql : String) : Act Q A (Option A) :=
  attempt (commandKind sql) fun db => call db (.exec sql)

/-- The function a caller runs inside a transaction: statements, each answered or refused. -/
abbrev Body (Q A β : Type) : Type :=
  Prog Q (fun _ => Except Thrown (Option A)) (Except Thrown β)

/-- The statements of a body, issued on the handle. -/
def issue : Body Q A β → Prog (Op Q) (Resp A) (Except Thrown β)
  | .ret result => .ret result
  | .call q k => (withStatement q).run >>= fun answer => issue (k answer)

/-- `runTransaction`. -/
def withTransaction (fn : Body Q A β) : Act Q A β := do
  let _ ← exec "BEGIN IMMEDIATE"
  tryCatch
    (do
      let result ← ExceptT.mk (issue fn)
      let _ ← exec "COMMIT"
      return result)
    fun error => do
      tryCatch
        (do
          let _ ← exec "ROLLBACK"
          return ())
        fun _ => return ()
      throw error

/-- What a body answers and makes of the tables, with nothing in its way. -/
def Engine.evaluate (E : Engine D Q A) (fn : Body Q A β) (tables : D) : Except Thrown β × D :=
  fn.evaluate (fun q d =>
    match E.run q d with
    | .ok (a, d') => (.ok (some a), d')
    | .error e => (.error e, d)) tables

theorem Engine.evaluate_ok {E : Engine D Q A} {q : Q} {a : A} {tables tables' : D}
    {k : Except Thrown (Option A) → Body Q A β} (h : E.run q tables = .ok (a, tables')) :
    E.evaluate (.call q k) tables = E.evaluate (k (.ok (some a))) tables' := by
  rw [evaluate, Prog.evaluate, h]
  rfl

theorem Engine.evaluate_refused {E : Engine D Q A} {q : Q} {e : Thrown} {tables : D}
    {k : Except Thrown (Option A) → Body Q A β} (h : E.run q tables = .error e) :
    E.evaluate (.call q k) tables = E.evaluate (k (.error e)) tables := by
  rw [evaluate, Prog.evaluate, h]
  rfl

/-! ## Requests, and the failures of a schedule -/

/-- What is asked of the handle. -/
inductive Request (Q A β : Type) : Type where
  /-- `withTransaction(fn)` -/
  | transaction : Body Q A β → Request Q A β
  /-- a statement outside the queue -/
  | statement : Q → Request Q A β

/-- What a request comes to. -/
abbrev Settled (A β : Type) : Type := Except Thrown β ⊕ Except Thrown (Option A)

def Request.handler : Request Q A β → Prog (Op Q) (Resp A) (Settled A β)
  | .transaction fn => (withTransaction fn).run >>= fun result => .ret (.inl result)
  | .statement q => (withStatement q).run >>= fun result => .ret (.inr result)

/-- Whether a schedule that allows some failures permits what happens to this step. -/
def permits (allowed : Call Q → Fault → Bool) : Option Fault → Op Q → Bool
  | some fault, .call _ c => allowed c fault
  | _, _ => true

/-- The handle under a schedule of failures. -/
def system (E : Engine D Q A) (allowed : Call Q → Fault → Bool) :
    System (Op Q) (Resp A) (State D) (Request Q A β) (Settled A β) (Option Fault) Empty where
  handler := Request.handler
  exec _ _ fault op s :=
    if permits allowed fault op then some ((step E fault op s).2, (step E fault op s).1) else none
  env e := nomatch e

variable {E : Engine D Q A} {allowed : Call Q → Fault → Bool}

theorem does_iff {i : ℕ} {req : Request Q A β} {op : Op Q} {s s' : Hist (Op Q) (Resp A) (State D)}
    {r : Resp A op} : Does (system E allowed) i req op s r s' ↔
      ∃ fault, permits allowed fault op = true ∧ r = (step E fault op s.world).1 ∧
        s' = ⟨(step E fault op s.world).2, ⟨i, op, r⟩ :: s.trace⟩ := by
  constructor
  · rintro ⟨fault, w, hexec, rfl⟩
    by_cases hpermits : permits allowed fault op = true
    · simp only [system, hpermits, if_true, Option.some.injEq] at hexec
      obtain ⟨rfl, rfl⟩ := Prod.mk.inj hexec
      exact ⟨fault, hpermits, rfl, rfl⟩
    · simp [system, hpermits] at hexec
  · rintro ⟨fault, hpermits, rfl, rfl⟩
    exact ⟨fault, _, by simp only [system, hpermits, if_true], rfl⟩

/-! ### The current connection -/

namespace State

/-- The current connection, as the server has it. -/
def here (w : State D) : Connection D := w.connections w.current

/-- The state once the server answered a call on the current connection. -/
def answered (w : State D) (connection : Connection D) (durable : D) : State D :=
  { w with durable := durable, connections := Function.update w.connections w.current connection }

/-- The state once the current connection was replaced. -/
def reconnected (w : State D) : State D where
  durable := w.durable
  connections :=
    Function.update (Function.update w.connections w.current .lost) (w.current + 1) .autocommit
  current := w.current + 1
  inTransaction := false

variable (w : State D) (connection connection' : Connection D) (durable durable' : D) (isOpen : Bool)

@[simp] theorem answered_answered : (w.answered connection durable).answered connection' durable' =
    w.answered connection' durable' := by
  simp only [answered, Function.update_idem]

theorem answered_here : w.answered w.here w.durable = w := by
  simp only [answered, here, Function.update_eq_self]

@[simp] theorem here_answered : (w.answered connection durable).here = connection :=
  Function.update_self ..

@[simp] theorem current_answered : (w.answered connection durable).current = w.current := rfl

@[simp] theorem durable_answered : (w.answered connection durable).durable = durable := rfl

@[simp] theorem inTransaction_answered :
    (w.answered connection durable).inTransaction = w.inTransaction := rfl

@[simp] theorem here_reconnected : w.reconnected.here = .autocommit := Function.update_self ..

@[simp] theorem here_flagged : { w with inTransaction := isOpen }.here = w.here := rfl

end State

/-- A call on the current connection. -/
theorem step_call (fault : Option Fault) (c : Call Q) (w : State D) :
    step E fault (.call w.current c) w = ((w.here.respond E fault c w.durable).1,
      w.answered (w.here.respond E fault c w.durable).2.1 (w.here.respond E fault c w.durable).2.2) :=
  rfl

namespace Connection

/-- A transaction is open on the connection. -/
def Open (c : Connection D) : Prop := ∃ tables, c = .inside tables

theorem not_open_autocommit : ¬ (Connection.autocommit : Connection D).Open := by
  rintro ⟨_, h⟩
  cases h

theorem not_open_lost : ¬ (Connection.lost : Connection D).Open := by
  rintro ⟨_, h⟩
  cases h

variable {c : Connection D} {call : Call Q} {durable : D} {fault : Option Fault} {error : Thrown}

theorem serve_lost : (Connection.lost : Connection D).serve E call durable =
    (.error streamNotFound, .lost, durable) := by
  cases call <;> rfl

/-- What the server answers changes the durable tables at a `COMMIT` of an open transaction and at a
statement outside one, and nowhere else. -/
theorem serve_durable (hcommit : ∀ sql, call = .exec sql → commandKind sql = .commit → ¬ c.Open)
    (hrun : ∀ q a tables, call = .run q → c = .autocommit → E.run q durable = .ok (a, tables) →
      tables = durable) : (c.serve E call durable).2.2 = durable := by
  rcases c with _ | tables | _
  · rcases call with sql | q | q
    · simp only [serve]
      split <;> rfl
    · rfl
    · simp only [serve]
      split
      · exact hrun _ _ _ rfl rfl ‹_›
      · rfl
  · rcases call with sql | q | q
    · simp only [serve]
      split
      · rfl
      · exact absurd ⟨tables, rfl⟩ (hcommit _ rfl ‹_›)
      · rfl
      · rfl
    · rfl
    · simp only [serve]
      split <;> rfl
  · rw [serve_lost]

theorem respond_durable
    (hcommit : ∀ sql, call = .exec sql → commandKind sql = .commit → ¬ c.Open)
    (hrun : ∀ q a tables, call = .run q → c = .autocommit → E.run q durable = .ok (a, tables) →
      tables = durable) : (c.respond E fault call durable).2.2 = durable := by
  rcases fault with _ | ⟨_ | _, error⟩
  · exact serve_durable hcommit hrun
  · rfl
  · exact serve_durable hcommit hrun

theorem serve_ne_lost (h : c ≠ .lost) : (c.serve E call durable).2.1 ≠ .lost := by
  rcases c with _ | tables | _
  · rcases call with sql | q | q <;> simp only [serve]
    · split <;> simp
    · simp
    · split <;> simp
  · rcases call with sql | q | q <;> simp only [serve]
    · split <;> simp
    · simp
    · split <;> simp
  · exact absurd rfl h

theorem after_lost (h : c.after error = .lost) : c = .lost ∨ isDeadStreamError error = true := by
  cases c with
  | lost => exact .inl rfl
  | autocommit =>
    simp only [after] at h
    split at h
    · exact .inr ‹_›
    · split at h <;> cases h
  | inside tables =>
    simp only [after] at h
    split at h
    · exact .inr ‹_›
    · split at h <;> cases h

/-- A failure that leaves a transaction open is about neither the stream nor the transaction. -/
theorem after_inside {tables : D} (h : c.after error = .inside tables) : c = .inside tables ∧
    isDeadStreamError error = false ∧ isTransactionAlreadyGone error = false := by
  cases c with
  | lost => cases h
  | autocommit =>
    simp only [after] at h
    split at h
    · cases h
    · split at h <;> cases h
  | inside tables' =>
    simp only [after] at h
    split at h
    · cases h
    · split at h
      · cases h
      · exact ⟨h, by simpa using ‹¬ isDeadStreamError error = true›,
          by simpa using ‹¬ isTransactionAlreadyGone error = true›⟩

theorem after_autocommit : (Connection.autocommit : Connection D).after error = .autocommit ∨
    (Connection.autocommit : Connection D).after error = .lost := by
  simp only [after]
  split
  · exact .inr rfl
  · split <;> exact .inl rfl

theorem after_of_not_gone (h : isTransactionAlreadyGone error = false) :
    c.after error = c ∨ c.after error = .lost := by
  cases c with
  | lost => exact .inl rfl
  | autocommit => exact after_autocommit
  | inside tables =>
    simp only [after, h, Bool.false_eq_true, if_false]
    split
    · exact .inr rfl
    · exact .inl rfl

/-- A statement that is none of the three leaves a connection without a transaction. -/
theorem respond_other {sql : String} (h : commandKind sql = .other) :
    ((Connection.autocommit.respond E fault (.exec sql) durable).1 = .ok none ∧
      (Connection.autocommit.respond E fault (.exec sql) durable).2.1 = .autocommit) ∨
    ((∃ error, (Connection.autocommit.respond E fault (.exec sql) durable).1 = .error error) ∧
      ((Connection.autocommit.respond E fault (.exec sql) durable).2.1 = .autocommit ∨
        (Connection.autocommit.respond E fault (.exec sql) durable).2.1 = .lost)) := by
  rcases fault with _ | ⟨_ | _, error⟩
  · exact .inl (by simp only [respond, serve, h, and_self])
  · exact .inr ⟨⟨error, rfl⟩, after_autocommit⟩
  · refine .inr ⟨⟨error, rfl⟩, ?_⟩
    simp only [respond, serve, h]
    exact after_autocommit

/-- A call that was answered did not lose its connection. -/
theorem respond_ok {a : Option A} (h : (c.respond E fault call durable).1 = .ok a) :
    fault = none ∧ c ≠ .lost ∧ (c.respond E fault call durable).2.1 ≠ .lost := by
  rcases fault with _ | ⟨_ | _, error⟩
  · have hc : c ≠ .lost := by
      rintro rfl
      rw [respond, serve_lost] at h
      cases h
    exact ⟨rfl, hc, serve_ne_lost hc⟩
  · cases h
  · cases h

/-- A call that failed and has lost its connection failed with an error of the stream. -/
theorem respond_lost (hfail : (c.respond E fault call durable).1 = .error error)
    (h : (c.respond E fault call durable).2.1 = .lost) :
    c = .lost ∨ isDeadStreamError error = true := by
  by_cases hc : c = .lost
  · exact .inl hc
  · rcases fault with _ | ⟨_ | _, error'⟩
    · exact absurd h (serve_ne_lost hc)
    · obtain rfl := Except.error.inj hfail
      exact after_lost h
    · obtain rfl := Except.error.inj hfail
      exact (after_lost h).imp (fun h => absurd h (serve_ne_lost hc)) id

end Connection

/-! ## A table of rows -/

/-- A table of rows: select them all, or insert one. -/
def rows : Engine (List String) (Option String) (List String) where
  run
    | none, table => .ok (table, table)
    | some row, table => .ok ([], table ++ [row])
  plain := by
    rintro (_ | row) table e h <;> cases h

/-- A body that inserts one row. -/
def insertOne : Body (Option String) (List String) Unit :=
  .call (some "booking") fun answer => .ret (answer.map fun _ => ())

end TransitBpp.Db
