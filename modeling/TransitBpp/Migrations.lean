import Mathlib.Data.List.Sort
import TransitBpp.Js

/-!
# Migrations

`migrationsUnder` and `openReservedDatabase`. A database is its record of migrations and its schema;
what SQLite makes of a script is a parameter, a list of statements that each change the schema or
are refused, and scripts hold no transaction control of their own. Statements are issued on a
connection, inside a transaction or not, and an attempt says which of them fail for a reason that
is not in the database. DDL is transactional: what a transaction wrote is in the database once it
is committed and nowhere before.
-/

namespace TransitBpp

open Js

/-! ## Files -/

/-- A migration on disk. -/
structure Migration : Type where
  /-- its number -/
  version : ℕ
  /-- its name -/
  name : String
  /-- its script -/
  sql : String
  deriving DecidableEq

/-- The files of a directory as they are listed, with their texts. -/
abbrev Directory : Type := List (String × String)

/-- `[a-z0-9_]`. -/
def isNameChar (c : Char) : Bool := c.isLower || c.isDigit || c = '_'

/-- `MIGRATION_FILE.exec(file)`, with the file's text: `/^(\d{4})_([a-z0-9_]+)\.sql$/`. -/
def migrationOf (file : String × String) : Option Migration :=
  match file.1.toList with
  | a :: b :: c :: d :: '_' :: rest =>
    let name := rest.take (rest.length - 4)
    match digits 10 [a, b, c, d] with
    | some (version, _) =>
      if name ≠ [] ∧ name.all isNameChar = true ∧ rest.drop (rest.length - 4) = ".sql".toList then
        some ⟨version, String.ofList name, file.2⟩
      else none
    | none => none
  | _ => none

/-- Why a database was not opened. -/
inductive OpenError : Type where
  /-- a remote database without a token -/
  | tokenless : String → OpenError
  /-- a number that no file has, after which the tree goes on -/
  | missing (expected previous version : ℕ) : OpenError
  /-- a database that is ahead of the build -/
  | ahead (version knownVersion : ℕ) : OpenError
  /-- a migration that failed, and what it failed with -/
  | migration : Migration → String → OpenError
  /-- what the driver raised -/
  | driver : String → OpenError
  deriving DecidableEq

/-- The message of the error. -/
def OpenError.message : OpenError → String
  | tokenless url =>
    s!"Reserved database URL {url} is remote and needs an auth token, but none was given"
  | missing expected previous version =>
    s!"Reserved migration {expected} is missing: the tree jumps from {previous} to {version}"
  | ahead version knownVersion =>
    s!"Reserved database is at schema version {version} and this build knows {knownVersion}; a newer schema read by older code is refused rather than tolerated"
  | migration m cause => s!"Reserved migration {m.version} ({m.name}) failed: {cause}"
  | driver message => message

/-- The migrations on disk, in order; a gap in their numbers is refused. -/
def migrationsUnder (root : Directory) : Except OpenError (List Migration) :=
  let migrations := (root.filterMap migrationOf).insertionSort fun left right =>
    left.version ≤ right.version
  match migrations.zipIdx.find? fun m => m.1.version ≠ m.2 + 1 with
  | some (migration, index) =>
    let previous := if index = 0 then none else migrations[index - 1]?
    throw (.missing (index + 1) ((previous.map Migration.version).getD 0) migration.version)
  | none => return migrations

/-! ## The database -/

/-- A row of `schema_migrations`. -/
structure AppliedMigration : Type where
  /-- primary key -/
  version : ℕ
  /-- when it was applied -/
  appliedAt : ℤ
  deriving DecidableEq

/-- A database, over whatever a schema is. -/
structure DatabaseFile (σ : Type) : Type where
  /-- `schema_migrations`, once it is there -/
  schemaMigrations : Option (List AppliedMigration)
  /-- everything else -/
  schema : σ

variable {σ α β : Type}

/-- The versions that are recorded. -/
def DatabaseFile.versions (file : DatabaseFile σ) : List ℕ :=
  (file.schemaMigrations.getD []).map AppliedMigration.version

/-- `CREATE TABLE IF NOT EXISTS schema_migrations`. -/
def DatabaseFile.withTable (file : DatabaseFile σ) : DatabaseFile σ :=
  { file with schemaMigrations := some (file.schemaMigrations.getD []) }

/-- `INSERT INTO schema_migrations`; the version is the primary key. -/
def DatabaseFile.record (version : ℕ) (appliedAt : ℤ) (file : DatabaseFile σ) :
    Except String (DatabaseFile σ) :=
  match file.schemaMigrations with
  | none => .error "no such table: schema_migrations"
  | some rows =>
    if version ∈ rows.map AppliedMigration.version then
      .error "UNIQUE constraint failed: schema_migrations.version"
    else .ok { file with schemaMigrations := some (rows ++ [⟨version, appliedAt⟩]) }

/-- What SQLite makes of a script: statements, each of which changes the schema or is refused. -/
abbrev Engine (σ : Type) : Type := String → List (σ → Except String σ)

/-- A connection to the database. -/
structure Connection (σ : Type) : Type where
  /-- what is committed -/
  file : DatabaseFile σ
  /-- what the open transaction sees, where one is open -/
  work : Option (DatabaseFile σ)
  /-- how many statements this call has issued -/
  issued : ℕ

/-- A failure that is not the statement's own: a disk, a limit, a stream. -/
structure Fault : Type where
  /-- what it says -/
  message : String
  /-- whether the transaction is gone with it -/
  endsTransaction : Bool

/-- What happens to the statements of one call. -/
structure Attempt : Type where
  /-- which of them fail -/
  fails : ℕ → Option Fault
  /-- what the clock says at each -/
  clock : ℕ → ℤ

/-- A program over a connection. -/
abbrev Session (σ α : Type) : Type := ExceptT OpenError (StateM (Connection σ)) α

namespace Connection

/-- A statement that writes, in the open transaction or on its own. -/
def write (f : DatabaseFile σ → Except String (DatabaseFile σ)) (c : Connection σ) :
    Except String (Connection σ) :=
  match c.work with
  | some work => (f work).map fun work => { c with work := some work }
  | none => (f c.file).map fun file => { c with file := file }

/-- `BEGIN`. -/
def begin (c : Connection σ) : Except String (Connection σ) :=
  match c.work with
  | some _ => .error "cannot start a transaction within a transaction"
  | none => .ok { c with work := some c.file }

/-- `COMMIT`. -/
def commit (c : Connection σ) : Except String (Connection σ) :=
  match c.work with
  | some work => .ok { c with file := work, work := none }
  | none => .error "cannot commit - no transaction is active"

end Connection

/-- Issue one statement. -/
def issue (attempt : Attempt) (run : Connection σ → Except String (Connection σ)) :
    Session σ Unit := fun c =>
  let issued := { c with issued := c.issued + 1 }
  match attempt.fails c.issued with
  | some fault =>
    (.error (.driver fault.message),
      if fault.endsTransaction then { issued with work := none } else issued)
  | none =>
    match run issued with
    | .error message => (.error (.driver message), issued)
    | .ok c => (.ok (), c)

/-- `ROLLBACK`, which ends a transaction that is open. Over a remote connection one that finds
nothing to roll back has got what it wanted. -/
def rollback (isRemote : Bool) : Session σ Unit := fun c =>
  match c.work with
  | some _ => (.ok (), { c with work := none })
  | none =>
    if isRemote then (.ok (), c)
    else (.error (.driver "cannot rollback - no transaction is active"), c)

/-! ## Opening -/

/-- `exec` of a script: its statements, up to the first that fails. -/
def execScript (engine : Engine σ) (attempt : Attempt) (sql : String) : Session σ Unit :=
  (engine sql).forM fun statement => issue attempt (Connection.write fun file =>
    (statement file.schema).map fun schema => { file with schema := schema })

/-- One migration and the record of it, in one transaction. -/
def applyMigration (engine : Engine σ) (attempt : Attempt) (isRemote : Bool)
    (migration : Migration) : Session σ Unit := do
  issue attempt Connection.begin
  tryCatch
    (do
      execScript engine attempt migration.sql
      let c ← get
      issue attempt (Connection.write (DatabaseFile.record migration.version (attempt.clock c.issued)))
      issue attempt Connection.commit)
    fun error => do
      rollback isRemote
      throw (.migration migration error.message)

/-- What a database is opened with. -/
structure OpenOptions : Type where
  /-- where it is -/
  url : String
  /-- the token of a remote one -/
  authToken : Option String
  /-- whether an open handle is used instead -/
  handle : Bool

/-- A hosted database. -/
def isRemoteDatabaseUrl (url : String) : Bool :=
  url.startsWith "libsql:" || url.startsWith "https:"

/-- Bring the database up to the schema this build knows. -/
def openReservedDatabase (engine : Engine σ) (attempt : Attempt) (options : OpenOptions)
    (root : Directory) : Session σ Unit := do
  if !options.handle && isRemoteDatabaseUrl options.url && (options.authToken.getD "").isEmpty then
    throw (.tokenless options.url)
  -- `PRAGMA foreign_keys = ON`
  issue attempt .ok
  issue attempt (Connection.write fun file => .ok file.withTable)
  let migrations ← (migrationsUnder root : Except OpenError (List Migration))
  let knownVersion := (migrations.getLast?.map Migration.version).getD 0
  issue attempt .ok
  let applied := ((← get).work.getD (← get).file).versions
  let ahead := applied.filter fun version => knownVersion < version
  if ahead ≠ [] then throw (.ahead (ahead.foldl max 0) knownVersion)
  (migrations.filter fun candidate => candidate.version ∉ applied).forM
    (applyMigration engine attempt (!options.handle && isRemoteDatabaseUrl options.url))

/-- One call: how, by which build, and what happens to it. -/
structure OpenCall : Type where
  /-- its options -/
  options : OpenOptions
  /-- the migrations its build has on disk -/
  root : Directory
  /-- what happens to its statements -/
  attempt : Attempt

/-- The call, on the connection that is handed to it or on a new one. -/
def OpenCall.run (call : OpenCall) (engine : Engine σ) (c : Connection σ) :
    Except OpenError Unit × Connection σ :=
  openReservedDatabase engine call.attempt call.options call.root
    { c with work := if call.options.handle then c.work else none, issued := 0 }

/-- A database that was never opened. -/
def Connection.empty (schema : σ) : Connection σ := ⟨⟨none, schema⟩, none, 0⟩

/-- Calls one after another. -/
def runCalls (engine : Engine σ) (calls : List OpenCall) (c : Connection σ) : Connection σ :=
  calls.foldl (fun c call => (call.run engine c).2) c

/-! ## Numbers without gaps -/

/-- The check for gaps passes exactly if the numbers have none. -/
theorem no_gap_iff {ms : List Migration} :
    (ms.zipIdx.find? fun m => m.1.version ≠ m.2 + 1) = none ↔
      ms.map Migration.version = List.range' 1 ms.length := by
  rw [List.find?_eq_none]
  constructor
  · intro h
    refine List.ext_getElem (by simp) fun i hi hi' => ?_
    rw [List.length_map] at hi
    have hat := h (ms[i], i) (List.mem_iff_getElem.mpr ⟨i, by simpa using hi, by simp⟩)
    simp only [ne_eq, decide_not, Bool.not_eq_true', decide_eq_false_iff_not, not_not] at hat
    simp [hat, Nat.add_comm]
  · intro h m hm
    obtain ⟨hlt, hget⟩ := List.mem_zipIdx' hm
    have hat : (ms.map Migration.version)[m.2]? = (List.range' 1 ms.length)[m.2]? := by rw [h]
    rw [List.getElem?_map, List.getElem?_eq_getElem hlt, List.getElem?_range' hlt] at hat
    simp only [Option.map_some, Option.some.injEq] at hat
    simp [hget, hat, Nat.add_comm]

/-- However the files are listed, sorting them gives the tree they make up. -/
theorem sorted_eq {files tree : List Migration} (hperm : files.Perm tree)
    (htree : tree.map Migration.version = List.range' 1 tree.length) :
    files.insertionSort (fun left right => left.version ≤ right.version) = tree := by
  have : Std.Total fun a b : Migration => a.version ≤ b.version :=
    ⟨fun a b => Nat.le_total a.version b.version⟩
  have : IsTrans Migration fun a b => a.version ≤ b.version := ⟨fun _ _ _ => Nat.le_trans⟩
  have hincreasing : tree.Pairwise fun a b => a.version < b.version := by
    rw [← List.pairwise_map, htree]
    exact List.pairwise_lt_range'
  have hinj : ∀ a ∈ tree, ∀ b ∈ tree, a.version = b.version → a = b := by
    refine fun a ha b hb => List.inj_on_of_nodup_map ?_ ha hb
    rw [htree]
    exact List.nodup_range'
  have hall := (List.perm_insertionSort (fun a b : Migration => a.version ≤ b.version) files).trans hperm
  refine List.Perm.eq_of_pairwise (fun a b ha hb hab hba => ?_)
    (List.pairwise_insertionSort (fun a b : Migration => a.version ≤ b.version) files)
    (hincreasing.imp Nat.le_of_lt) hall
  exact hinj a (hall.mem_iff.mp ha) b hb (Nat.le_antisymm hab hba)

/-- A directory is taken exactly if its migrations are numbered from 1 without a gap. -/
theorem migrationsUnder_ok_iff {root : Directory} {tree : List Migration} :
    migrationsUnder root = .ok tree ↔
      (root.filterMap migrationOf).Perm tree ∧
        tree.map Migration.version = List.range' 1 tree.length := by
  rw [migrationsUnder]
  constructor
  · intro h
    split at h
    · cases h
    · rename_i hnone
      obtain rfl := Except.ok.inj h
      exact ⟨(List.perm_insertionSort _ _).symm, no_gap_iff.mp hnone⟩
  · rintro ⟨hperm, htree⟩
    rw [sorted_eq hperm htree]
    split
    · rename_i hsome
      rw [no_gap_iff.mpr htree] at hsome
      cases hsome
    · rfl

/-! ## What a session leaves -/

namespace Session

/-- What a session ends with satisfies `Q`. -/
def Ends (p : Session σ α) (Q : Except OpenError α → Connection σ → Prop) (c : Connection σ) : Prop :=
  Q (p c).1 (p c).2

variable {p : Session σ α} {f : α → Session σ β} {c : Connection σ}
variable {P Q : Except OpenError α → Connection σ → Prop} {R : Except OpenError β → Connection σ → Prop}

theorem Ends.mono (h : p.Ends P c) (hPQ : ∀ r c', P r c' → Q r c') : p.Ends Q c := hPQ _ _ h

theorem ends_bind (h : p.Ends (fun r c' => (∀ a, r = .ok a → (f a).Ends R c') ∧
    ∀ e, r = .error e → R (.error e) c') c) : (p >>= f).Ends R c := by
  cases hr : (p c).1 with
  | ok a =>
    have hbind : (p >>= f) c = f a (p c).2 := by
      change ExceptT.bindCont f (p c).1 (p c).2 = _
      rw [hr]
      rfl
    rw [Ends, hbind]
    exact h.1 a hr
  | error e =>
    have hbind : (p >>= f) c = (.error e, (p c).2) := by
      change ExceptT.bindCont f (p c).1 (p c).2 = _
      rw [hr]
      rfl
    rw [Ends, hbind]
    exact h.2 e hr

theorem ends_pure {a : α} (h : Q (.ok a) c) : (pure a : Session σ α).Ends Q c := h

theorem ends_throw {e : OpenError} (h : Q (.error e) c) : (throw e : Session σ α).Ends Q c := h

theorem ends_tryCatch {handle : OpenError → Session σ α}
    (h : p.Ends (fun r c' => (∀ a, r = .ok a → Q (.ok a) c') ∧
      ∀ e, r = .error e → (handle e).Ends Q c') c) : (tryCatch p handle).Ends Q c := by
  cases hr : (p c).1 with
  | ok a =>
    have hp : p c = (.ok a, (p c).2) := Prod.ext hr rfl
    have hcatch : (tryCatch p handle : Session σ α) c = (.ok a, (p c).2) := by
      change (ExceptT.tryCatch p handle : Session σ α) c = _
      simp only [ExceptT.tryCatch, ExceptT.mk, bind, StateT.bind]
      rw [hp]
      rfl
    rw [Ends, hcatch]
    exact h.1 a hr
  | error e =>
    have hp : p c = (.error e, (p c).2) := Prod.ext hr rfl
    have hcatch : (tryCatch p handle : Session σ α) c = handle e (p c).2 := by
      change (ExceptT.tryCatch p handle : Session σ α) c = _
      simp only [ExceptT.tryCatch, ExceptT.mk, bind, StateT.bind]
      rw [hp]
    rw [Ends, hcatch]
    exact h.2 e hr

theorem ends_get {Q : Except OpenError (Connection σ) → Connection σ → Prop} (h : Q (.ok c) c) :
    (get : Session σ (Connection σ)).Ends Q c := h

theorem ends_lift {x : Except OpenError α} (h : Q x c) : (liftM x : Session σ α).Ends Q c := h

/-- Either way, no transaction is open afterwards. -/
theorem ends_rollback {isRemote : Bool} {Q : Except OpenError Unit → Connection σ → Prop}
    (hopen : Q (.ok ()) { c with work := none })
    (hgone : c.work = none → ∀ message, Q (.error (.driver message)) c) :
    (rollback isRemote).Ends Q c := by
  rw [Ends, rollback]
  cases hwork : c.work with
  | some work => exact hopen
  | none =>
    have hsame : { c with work := none } = c := by rw [← hwork]
    cases isRemote with
    | true => exact hsame ▸ hopen
    | false => exact hgone hwork _

/-- A statement fails and changes nothing but the fate of the transaction, or does what it says. -/
theorem ends_issue {attempt : Attempt} {run : Connection σ → Except String (Connection σ)}
    {Q : Except OpenError Unit → Connection σ → Prop}
    (hfail : ∀ message work, work = c.work ∨ work = none →
      (attempt.fails c.issued = none → run { c with issued := c.issued + 1 } = .error message) →
        Q (.error (.driver message)) { c with work := work, issued := c.issued + 1 })
    (hok : ∀ c', run { c with issued := c.issued + 1 } = .ok c' → Q (.ok ()) c') :
    (issue attempt run).Ends Q c := by
  rw [Ends, issue]
  cases hfault : attempt.fails c.issued with
  | some fault =>
    dsimp only
    split
    · exact hfail fault.message none (.inr rfl) fun h => by cases hfault.symm.trans h
    · exact hfail fault.message c.work (.inl rfl) fun h => by cases hfault.symm.trans h
  | none =>
    dsimp only
    cases hrun : run { c with issued := c.issued + 1 } with
    | error message => exact hfail message c.work (.inl rfl) fun _ => hrun
    | ok c' => exact hok c' hrun

end Session

/-! ## One migration -/

open Session

/-- What a script makes of a schema, where no statement of it is refused. -/
def Engine.script (engine : Engine σ) (sql : String) (schema : σ) : Except String σ :=
  (engine sql).foldlM (fun schema statement => statement schema) schema

/-- What migrations make of a schema, one after another. -/
def Engine.compose (engine : Engine σ) (migrations : List Migration) (schema : σ) :
    Except String σ :=
  migrations.foldlM (fun schema migration => engine.script migration.sql schema) schema

variable {engine : Engine σ} {attempt : Attempt} {c : Connection σ} {work : DatabaseFile σ}

/-- A write inside a transaction leaves what is committed alone. -/
theorem Connection.write_work {f : DatabaseFile σ → Except String (DatabaseFile σ)}
    {c' : Connection σ} (hwork : c.work = some work) (h : c.write f = .ok c') :
    c'.file = c.file ∧ ∃ work', f work = .ok work' ∧ c'.work = some work' := by
  rw [write, hwork] at h
  cases hf : f work with
  | error message =>
    simp only [hf] at h
    cases h
  | ok work' =>
    simp only [hf] at h
    obtain rfl := Except.ok.inj h
    exact ⟨rfl, work', rfl, rfl⟩

/-- A script inside a transaction: the step lemma is `Connection.write_work`, the induction is on
the statements that are left. -/
theorem ends_execScript {sql : String} (hwork : c.work = some work) :
    (execScript engine attempt sql).Ends (fun r c' => c'.file = c.file ∧
      ∀ u, r = .ok u → ∃ schema, engine.script sql work.schema = .ok schema ∧
        c'.work = some { work with schema := schema }) c := by
  rw [execScript, Engine.script]
  induction engine sql generalizing c work with
  | nil => exact ends_pure ⟨rfl, fun _ _ => ⟨work.schema, rfl, hwork⟩⟩
  | cons statement statements ih =>
    rw [List.forM]
    refine ends_bind (ends_issue (fun message work' _ _ => ?_) fun c' hrun => ?_)
    · exact ⟨nofun, fun e _ => ⟨rfl, nofun⟩⟩
    · obtain ⟨hfile, work', hstep, hwork'⟩ :=
        Connection.write_work (c := { c with issued := c.issued + 1 }) hwork hrun
      refine ⟨fun _ _ => ?_, nofun⟩
      cases hschema : statement work.schema with
      | error message =>
        simp only [hschema] at hstep
        cases hstep
      | ok schema =>
        simp only [hschema] at hstep
        obtain rfl := Except.ok.inj hstep
        refine (ih hwork').mono fun r c'' h => ⟨h.1.trans hfile, fun u hu => ?_⟩
        obtain ⟨final, hfinal, hwork''⟩ := h.2 u hu
        refine ⟨final, ?_, hwork''⟩
        rw [List.foldlM_cons, hschema]
        exact hfinal

/-- **One migration.** It is committed together with its record, or nothing is. -/
theorem ends_applyMigration {isRemote : Bool} {migration : Migration} (hidle : c.work = none) :
    (applyMigration engine attempt isRemote migration).Ends (fun r c' => c'.work = none ∧
      (∀ u, r = .ok u → ∃ schema appliedAt,
        engine.script migration.sql c.file.schema = .ok schema ∧
          DatabaseFile.record migration.version appliedAt { c.file with schema := schema } =
            .ok c'.file) ∧
      ∀ e, r = .error e → c'.file = c.file ∧
        ∀ m cause, e = .migration m cause → m = migration) c := by
  refine ends_bind (ends_issue (fun message work hwork _ => ?_) fun c₁ hbegin => ?_)
  · refine ⟨nofun, fun e he => ⟨?_, nofun, fun e' he' => ⟨rfl, ?_⟩⟩⟩
    · rcases hwork with rfl | rfl
      · exact hidle
      · rfl
    · obtain rfl := Except.error.inj he
      obtain rfl := Except.error.inj he'
      exact nofun
  -- inside the transaction nothing is committed
  have hopen : c₁.file = c.file ∧ c₁.work = some c.file := by
    simp only [Connection.begin, hidle] at hbegin
    obtain rfl := Except.ok.inj hbegin
    exact ⟨rfl, rfl⟩
  refine ⟨fun _ _ => ends_tryCatch ?_, nofun⟩
  have hbody : Ends (do
      execScript engine attempt migration.sql
      let c ← get
      issue attempt (Connection.write (DatabaseFile.record migration.version (attempt.clock c.issued)))
      issue attempt Connection.commit)
      (fun r c' => (∀ u, r = .ok u → c'.work = none ∧ ∃ schema appliedAt,
        engine.script migration.sql c.file.schema = .ok schema ∧
          DatabaseFile.record migration.version appliedAt { c.file with schema := schema } =
            .ok c'.file) ∧
        ∀ e, r = .error e → c'.file = c.file) c₁ := by
    refine ends_bind ((ends_execScript hopen.2).mono fun r c₂ ⟨hfile₂, hscript⟩ => ?_)
    have hfile : c₂.file = c.file := hfile₂.trans hopen.1
    refine ⟨fun u hu => ?_, fun e _ => ⟨nofun, fun _ _ => hfile⟩⟩
    obtain ⟨schema, hschema, hwork₂⟩ := hscript u hu
    refine ends_bind (ends_get ⟨fun _ _ => ?_, nofun⟩)
    refine ends_bind (ends_issue (fun message work _ _ => ?_) fun c₃ hrecord => ?_)
    · exact ⟨nofun, fun _ _ => ⟨nofun, fun _ _ => hfile⟩⟩
    obtain ⟨hfile₃, work', hrecorded, hwork₃⟩ :=
      Connection.write_work (c := { c₂ with issued := c₂.issued + 1 }) hwork₂ hrecord
    refine ⟨fun _ _ => ends_issue (fun message work _ _ => ?_) fun c₄ hcommit => ?_, nofun⟩
    · exact ⟨nofun, fun _ _ => hfile₃.trans hfile⟩
    · simp only [Connection.commit, hwork₃] at hcommit
      obtain rfl := Except.ok.inj hcommit
      exact ⟨fun _ _ => ⟨rfl, schema, _, hschema, hrecorded⟩, nofun⟩
  refine hbody.mono fun r c₂ ⟨hcommitted, hfailed⟩ => ⟨fun u hu => ?_, fun e he => ?_⟩
  · obtain ⟨hwork, hfile⟩ := hcommitted u hu
    exact ⟨hwork, fun _ _ => hfile, nofun⟩
  · have hfile := hfailed e he
    refine ends_bind (ends_rollback ⟨fun _ _ => ?_, nofun⟩ fun hnone message => ⟨nofun, fun e' he' => ?_⟩)
    · refine ends_throw ⟨rfl, nofun, fun e' he' => ⟨hfile, ?_⟩⟩
      obtain rfl := Except.error.inj he'
      rintro m cause hm
      exact (OpenError.migration.inj hm).1.symm
    · refine ⟨hnone, nofun, fun e'' he'' => ⟨hfile, ?_⟩⟩
      obtain rfl := Except.error.inj he'
      obtain rfl := Except.error.inj he''
      exact nofun

/-! ## Calls -/

section Calls

variable {schema : σ} {tree : List Migration} {k n : ℕ}

/-- The database is at a version: that many migrations of the tree are recorded, and the schema is
what they make of the first one, and no transaction is open. -/
structure Migrated (engine : Engine σ) (schema : σ) (tree : List Migration) (k : ℕ)
    (c : Connection σ) : Prop where
  /-- no transaction is open -/
  idle : c.work = none
  /-- the tree goes that far -/
  known : k ≤ tree.length
  /-- what is recorded -/
  versions : c.file.versions = List.range' 1 k
  /-- what is there -/
  schema : engine.compose (tree.take k) schema = .ok c.file.schema

theorem Migrated.congr {c' : Connection σ} (h : Migrated engine schema tree k c)
    (hidle : c'.work = none) (hversions : c'.file.versions = c.file.versions)
    (hschema : c'.file.schema = c.file.schema) : Migrated engine schema tree k c' :=
  ⟨hidle, h.known, hversions.trans h.versions, hschema ▸ h.schema⟩

/-- One migration more. -/
theorem Migrated.next {c' : Connection σ} (h : Migrated engine schema tree k c) {migration : Migration}
    (hnext : tree[k]? = some migration) (hversion : migration.version = k + 1) {later : σ}
    {appliedAt : ℤ} (hscript : engine.script migration.sql c.file.schema = .ok later)
    (hrecord : DatabaseFile.record migration.version appliedAt { c.file with schema := later } =
      .ok c'.file) (hidle : c'.work = none) : Migrated engine schema tree (k + 1) c' := by
  obtain ⟨hlt, hget⟩ := List.getElem?_eq_some_iff.mp hnext
  have hcompose : engine.compose (tree.take (k + 1)) schema = .ok later := by
    rw [List.take_add_one, hnext, Engine.compose, List.foldlM_append]
    have hbefore := h.schema
    rw [Engine.compose] at hbefore
    rw [hbefore]
    change (engine.script migration.sql c.file.schema >>= pure) = _
    rw [hscript]
    rfl
  simp only [DatabaseFile.record] at hrecord
  cases hrows : c.file.schemaMigrations with
  | none =>
    simp only [hrows] at hrecord
    cases hrecord
  | some rows =>
    simp only [hrows] at hrecord
    split at hrecord
    · cases hrecord
    · have hfile := Except.ok.inj hrecord
      have hversions := h.versions
      rw [DatabaseFile.versions, hrows, Option.getD_some] at hversions
      refine ⟨hidle, hlt, ?_, hfile ▸ hcompose⟩
      rw [← hfile, DatabaseFile.versions, Option.getD_some, List.map_append, hversions,
        List.range'_1_concat, List.map_cons, List.map_nil, hversion, Nat.add_comm]

/-- The numbers of a tree are its positions. -/
theorem version_eq (htree : tree.map Migration.version = List.range' 1 tree.length) {i : ℕ}
    {migration : Migration} (hat : tree[i]? = some migration) : migration.version = i + 1 := by
  have hnumber : (tree.map Migration.version)[i]? = (List.range' 1 tree.length)[i]? := by rw [htree]
  rw [List.getElem?_map, hat, List.getElem?_range' (List.getElem?_eq_some_iff.mp hat).1] at hnumber
  simp only [Option.map_some, Option.some.injEq] at hnumber
  omega

/-- The migrations that are left, one after another; the induction is on them. -/
theorem ends_pending {isRemote : Bool} {migrations : List Migration}
    (htree : tree.map Migration.version = List.range' 1 tree.length)
    (hleft : tree.take n = tree.take k ++ migrations) (hn : n ≤ tree.length) (hk : k ≤ n)
    (h : Migrated engine schema tree k c) :
    (migrations.forM (applyMigration engine attempt isRemote)).Ends (fun r c' => ∃ k', k ≤ k' ∧ k' ≤ n ∧
      Migrated engine schema tree k' c' ∧ (k' = k → c'.file = c.file) ∧ (r = .ok () → k' = n) ∧
        ∀ m cause, r = .error (.migration m cause) → m.version = k' + 1) c := by
  induction migrations generalizing k c with
  | nil =>
    have hlength := congrArg List.length hleft
    rw [List.append_nil, List.length_take, List.length_take] at hlength
    obtain rfl : k = n := by omega
    exact ends_pure ⟨k, le_rfl, le_rfl, h, fun _ => rfl, fun _ => rfl, nofun⟩
  | cons migration migrations ih =>
    have hlength := congrArg List.length hleft
    rw [List.length_append, List.length_cons, List.length_take, List.length_take] at hlength
    have hlt : k < n := by omega
    have hnext : tree[k]? = some migration := by
      rw [← List.getElem?_take_of_lt hlt, hleft, List.getElem?_append_right (by simp)]
      simp [Nat.min_eq_left h.known]
    have hversion := version_eq htree hnext
    rw [List.forM]
    refine ends_bind ((ends_applyMigration h.idle).mono fun r c' ⟨hidle, hdone, hfailed⟩ =>
      ⟨fun u hu => ?_, fun e he => ?_⟩)
    · obtain ⟨later, appliedAt, hscript, hrecord⟩ := hdone u hu
      have hleft' : tree.take n = tree.take (k + 1) ++ migrations := by
        rw [List.take_add_one, hnext, hleft, List.append_assoc]
        rfl
      refine (ih hleft' hlt (h.next hnext hversion hscript hrecord hidle)).mono ?_
      rintro r c'' ⟨k', hle, hle', hmigrated, _, hend, hwhich⟩
      exact ⟨k', Nat.le_of_succ_le hle, hle', hmigrated, fun hk' => by omega, hend, hwhich⟩
    · obtain ⟨hfile, hwhich⟩ := hfailed e he
      refine ⟨k, le_rfl, hk, h.congr hidle (by rw [hfile]) (by rw [hfile]), fun _ => hfile, nofun, ?_⟩
      rintro m cause hm
      rw [hwhich m cause (Except.error.inj hm)]
      exact hversion

/-- A build knows so many migrations of a tree: those are what its directory holds, in whatever
order the files are listed. -/
structure OpenCall.Knows (call : OpenCall) (tree : List Migration) (n : ℕ) : Prop where
  /-- the tree goes that far -/
  known : n ≤ tree.length
  /-- the files -/
  files : (call.root.filterMap migrationOf).Perm (tree.take n)

/-- What a call leaves of a database at version `k` under a build that knows `n` migrations. -/
structure Opened (engine : Engine σ) (schema : σ) (tree : List Migration) (k n : ℕ)
    (attempt : Attempt) (c : Connection σ) (r : Except OpenError Unit) (c' : Connection σ) : Prop where
  /-- it is at a version, no earlier than before, and at the build's own where the call went through;
  a migration that failed is the next one -/
  reached : ∃ k', k ≤ k' ∧ k' ≤ max k n ∧ Migrated engine schema tree k' c' ∧
    (r = .ok () → k' = n) ∧ ∀ m cause, r = .error (.migration m cause) → m.version = k' + 1
  /-- a build that is behind is refused and changes nothing -/
  refused : n < k → c'.file = c.file ∧ ∃ e, r = .error e ∧
    ((∀ i, attempt.fails i = none) → e = .ahead k n ∨ ∃ url, e = .tokenless url)
  /-- a build at the version changes nothing -/
  again : n = k → c.file.schemaMigrations.isSome → c'.file = c.file
  /-- the table is there once a call went through -/
  table : r = .ok () ∨ c.file.schemaMigrations.isSome → c'.file.schemaMigrations.isSome

/-- What is done to the database before any migration: at most the table is created. -/
structure Prepared (c c' : Connection σ) : Prop where
  /-- no transaction is open -/
  idle : c'.work = none
  /-- the table may have been created -/
  file : c'.file = c.file ∨ c'.file = c.file.withTable

theorem Prepared.versions {c' : Connection σ} (h : Prepared c c') :
    c'.file.versions = c.file.versions ∧ c'.file.schema = c.file.schema := by
  rcases h.file with hfile | hfile <;> rw [hfile] <;> exact ⟨rfl, rfl⟩

theorem Prepared.unchanged {c' : Connection σ} (h : Prepared c c')
    (htable : c.file.schemaMigrations.isSome) : c'.file = c.file := by
  rcases h.file with hfile | hfile
  · exact hfile
  · obtain ⟨rows, hrows⟩ := Option.isSome_iff_exists.mp htable
    rw [hfile, DatabaseFile.withTable, hrows, Option.getD_some, ← hrows]

/-- A database at a version has the table. -/
theorem Migrated.table (h : Migrated engine schema tree k c) (hk : 0 < k) :
    c.file.schemaMigrations.isSome := by
  cases hrows : c.file.schemaMigrations with
  | some rows => rfl
  | none =>
    have hversions := congrArg List.length h.versions
    simp [DatabaseFile.versions, hrows] at hversions
    omega

/-- A call that ends before any migration leaves the version. -/
theorem Prepared.opened {c' : Connection σ} (hprepared : Prepared c c')
    (h : Migrated engine schema tree k c) {e : OpenError}
    (hmigration : ∀ m cause, e ≠ .migration m cause)
    (he : n < k → (∀ i, attempt.fails i = none) → e = .ahead k n ∨ ∃ url, e = .tokenless url) :
    Opened engine schema tree k n attempt c (.error e) c' := by
  refine ⟨⟨k, le_rfl, le_max_left k n, ?_, nofun, fun m cause hm => ?_⟩, fun hlt => ?_, fun _ => ?_,
    fun htable => ?_⟩
  · exact h.congr hprepared.idle hprepared.versions.1 hprepared.versions.2
  · exact absurd (Except.error.inj hm) (hmigration m cause)
  · exact ⟨hprepared.unchanged (h.table (by omega)), e, rfl, he hlt⟩
  · exact hprepared.unchanged
  · have hbefore := htable.resolve_left nofun
    rwa [hprepared.unchanged hbefore]

/-- The migrations that are not recorded are those after the version. -/
theorem pending_eq (htree : tree.map Migration.version = List.range' 1 tree.length) :
    (tree.take n).filter (fun candidate => candidate.version ∉ List.range' 1 k) =
      (tree.take n).drop k := by
  have hat : ∀ {i : ℕ} {m : Migration}, (tree.take n)[i]? = some m → m.version = i + 1 := by
    intro i m hm
    rw [List.getElem?_take] at hm
    split at hm
    · exact version_eq htree hm
    · cases hm
  conv_lhs => rw [← List.take_append_drop k (tree.take n)]
  rw [List.filter_append, List.filter_eq_nil_iff.mpr, List.nil_append, List.filter_eq_self]
  · intro m hm
    obtain ⟨i, hi⟩ := List.mem_iff_getElem?.mp hm
    rw [List.getElem?_drop] at hi
    have hversion := hat hi
    simp only [List.mem_range'_1, decide_not, Bool.not_eq_true', decide_eq_false_iff_not]
    omega
  · intro m hm
    obtain ⟨i, hi⟩ := List.mem_iff_getElem?.mp hm
    rw [List.getElem?_take] at hi
    split at hi
    · have hversion := hat hi
      simp only [List.mem_range'_1, decide_not, Bool.not_eq_true', decide_eq_false_iff_not, not_not]
      omega
    · cases hi

/-- The greatest of the versions that are ahead is the version. -/
theorem foldl_max_ahead (hlt : n < k) :
    ((List.range' 1 k).filter fun version => n < version).foldl max 0 = k := by
  have hgreatest : ∀ (versions : List ℕ) (greatest : ℕ), (∀ version ∈ versions, version ≤ k) →
      greatest ≤ k → k ∈ versions ∨ greatest = k → versions.foldl max greatest = k := by
    intro versions
    induction versions with
    | nil => exact fun greatest _ _ h => h.resolve_left List.not_mem_nil
    | cons version versions ih =>
      intro greatest hle hgreatest h
      have hversion := hle version (.head _)
      refine ih _ (fun v hv => hle v (.tail _ hv)) (max_le hgreatest hversion) ?_
      rcases h with h | rfl
      · rcases List.mem_cons.mp h with rfl | h
        · exact .inr (max_eq_right hgreatest)
        · exact .inl h
      · exact .inr (max_eq_left hversion)
  refine hgreatest _ 0 (fun version hversion => ?_) (Nat.zero_le k) (.inl ?_)
  · have hmem := List.mem_range'_1.mp (List.mem_filter.mp hversion).1
    omega
  · refine List.mem_filter.mpr ⟨List.mem_range'_1.mpr (by omega), decide_eq_true hlt⟩

/-- A statement before the first migration goes through unless something happens to it. -/
theorem ends_prepare {b c' : Connection σ} {run : Connection σ → Except String (Connection σ)}
    {f : Unit → Session σ β} {R : Except OpenError β → Connection σ → Prop} (hidle : c.work = none)
    (hfile : c.file = b.file ∨ c.file = b.file.withTable)
    (hrun : run { c with issued := c.issued + 1 } = .ok c')
    (hfail : ∀ message c', Prepared b c' → (¬∀ i, attempt.fails i = none) →
      R (.error (.driver message)) c')
    (hok : (f ()).Ends R c') : (issue attempt run >>= f).Ends R c := by
  refine ends_bind (ends_issue (fun message work hwork hnone => ⟨nofun, fun e he => ?_⟩)
    fun c'' hrun' => ⟨fun _ _ => ?_, nofun⟩)
  · obtain rfl := Except.error.inj he
    refine hfail message _ ⟨?_, hfile⟩ fun h => ?_
    · rcases hwork with rfl | rfl
      · exact hidle
      · rfl
    · cases hrun.symm.trans (hnone (h c.issued))
  · obtain rfl := Except.ok.inj (hrun.symm.trans hrun')
    exact hok

/-- The migrations a build knows and what it takes them to be. -/
theorem knownVersion_eq (htree : tree.map Migration.version = List.range' 1 tree.length)
    (hn : n ≤ tree.length) : ((tree.take n).getLast?.map Migration.version).getD 0 = n := by
  rw [List.getLast?_eq_getElem?, List.length_take, Nat.min_eq_left hn]
  cases n with
  | zero => simp
  | succ n =>
    rw [Nat.add_sub_cancel, List.getElem?_take_of_lt (Nat.lt_succ_self n),
      List.getElem?_eq_getElem hn]
    simpa using version_eq htree (List.getElem?_eq_getElem hn)

/-- The step lemma: one call. -/
theorem ends_open (htree : tree.map Migration.version = List.range' 1 tree.length)
    (h : Migrated engine schema tree k c) {options : OpenOptions} {root : Directory}
    (hn : n ≤ tree.length) (hroot : migrationsUnder root = .ok (tree.take n)) :
    (openReservedDatabase engine attempt options root).Ends
      (Opened engine schema tree k n attempt c) c := by
  rw [openReservedDatabase]
  dsimp only
  split
  · refine ends_bind (ends_throw ⟨nofun, fun e he => ?_⟩)
    obtain rfl := Except.error.inj he
    exact Prepared.opened ⟨h.idle, .inl rfl⟩ h nofun fun _ _ => .inr ⟨options.url, rfl⟩
  have hdriver : ∀ message c', Prepared c c' → (¬∀ i, attempt.fails i = none) →
      Opened engine schema tree k n attempt c (.error (.driver message)) c' :=
    fun message c' hprepared hfault =>
      hprepared.opened h nofun fun _ hnone => absurd hnone hfault
  -- the pragma, the table, and the question which migrations are recorded
  have hcreate : Connection.write (fun file => .ok file.withTable)
      { c with issued := c.issued + 1 + 1 } =
        .ok { c with file := c.file.withTable, issued := c.issued + 1 + 1 } := by
    simp only [Connection.write, h.idle]
    rfl
  refine ends_prepare h.idle (.inl rfl) rfl hdriver ?_
  refine ends_prepare (b := c) h.idle (.inl rfl) hcreate hdriver ?_
  refine ends_bind (ends_lift ⟨fun migrations hmigrations => ?_, fun e he => ?_⟩)
  swap
  · cases hroot.symm.trans he
  obtain rfl := Except.ok.inj (hroot.symm.trans hmigrations)
  refine ends_prepare h.idle (.inr rfl) rfl hdriver ?_
  refine ends_bind (ends_get ⟨fun c₁ hc₁ => ?_, nofun⟩)
  refine ends_bind (ends_get ⟨fun c₂ hc₂ => ?_, nofun⟩)
  obtain rfl := Except.ok.inj hc₁
  obtain rfl := Except.ok.inj hc₂
  have hversions : c.file.withTable.versions = List.range' 1 k := h.versions
  dsimp only
  rw [knownVersion_eq htree hn, h.idle, Option.getD_none, hversions, pending_eq htree]
  have hprepared : Prepared c
      { c with file := c.file.withTable, work := none, issued := c.issued + 1 + 1 + 1 } :=
    ⟨rfl, .inr rfl⟩
  by_cases hlt : n < k
  · have hahead := foldl_max_ahead hlt
    rw [if_pos, hahead]
    · refine ends_bind (ends_throw ⟨nofun, fun e he => ?_⟩)
      obtain rfl := Except.error.inj he
      exact hprepared.opened h (fun _ _ => OpenError.noConfusion) fun _ _ => .inl rfl
    · intro hnil
      rw [hnil] at hahead
      exact absurd hahead (Nat.ne_of_lt (Nat.zero_lt_of_lt hlt))
  · have hk : k ≤ n := Nat.le_of_not_lt hlt
    rw [if_neg (not_not.mpr (List.filter_eq_nil_iff.mpr fun version hversion => ?_))]
    · have hleft : tree.take n = tree.take k ++ (tree.take n).drop k := by
        conv_lhs => rw [← List.take_append_drop k (tree.take n), List.take_take, Nat.min_eq_left hk]
      refine (ends_pending htree hleft hn hk
        (h.congr hprepared.idle hprepared.versions.1 hprepared.versions.2)).mono ?_
      rintro r c' ⟨k', hle, hle', hmigrated, hsame, hend, hwhich⟩
      refine ⟨⟨k', hle, le_max_of_le_right hle', hmigrated, hend, hwhich⟩, fun h => absurd h hlt, ?_, ?_⟩
      · rintro rfl htable
        exact (hsame (Nat.le_antisymm hle' hle)).trans (hprepared.unchanged htable)
      · intro _
        rcases Nat.eq_or_lt_of_le hle with heq | hmore
        · rw [hsame heq.symm]
          rfl
        · exact hmigrated.table (by omega)
    · have hmem := List.mem_range'_1.mp hversion
      rw [decide_eq_true_iff]
      omega

/-- A build that knows so many takes its directory for them. -/
theorem OpenCall.Knows.migrationsUnder {call : OpenCall} (h : call.Knows tree n)
    (htree : tree.map Migration.version = List.range' 1 tree.length) :
    TransitBpp.migrationsUnder call.root = .ok (tree.take n) := by
  refine migrationsUnder_ok_iff.mpr ⟨h.files, ?_⟩
  rw [List.map_take, htree, List.length_take, Nat.min_eq_left h.known,
    List.take_range'_of_length_ge h.known]

/-- One call of a build that knows so many. -/
theorem OpenCall.Knows.opened {call : OpenCall} (h : call.Knows tree n)
    (htree : tree.map Migration.version = List.range' 1 tree.length)
    (hat : Migrated engine schema tree k c) :
    Opened engine schema tree k n call.attempt c (call.run engine c).1 (call.run engine c).2 := by
  have hidle : (if call.options.handle then c.work else none) = none := by
    rw [hat.idle, ite_self]
  have hstart : Migrated engine schema tree k
      { c with work := if call.options.handle then c.work else none, issued := 0 } :=
    hat.congr hidle rfl rfl
  have hend : Opened engine schema tree k n call.attempt _ (call.run engine c).1
      (call.run engine c).2 := ends_open htree hstart h.known (h.migrationsUnder htree)
  exact ⟨hend.reached, hend.refused, hend.again, hend.table⟩

/-- **Migrations move only forward and whole.** Whatever builds open the database one after another
and whatever fails, what is recorded is `1..k` and the schema is what those migrations make of it.
A build that is behind changes nothing, a migration that fails is the next one, and a build at the
version changes nothing. -/
theorem migrations_forward_and_whole (engine : Engine σ) (schema : σ) (tree : List Migration)
    (htree : tree.map Migration.version = List.range' 1 tree.length) (calls : List OpenCall)
    (hcalls : ∀ call ∈ calls, ∃ n, call.Knows tree n) :
    ∃ k, Migrated engine schema tree k (runCalls engine calls (.empty schema)) ∧
      ∀ (call : OpenCall) (n : ℕ), call.Knows tree n →
        Opened engine schema tree k n call.attempt (runCalls engine calls (.empty schema))
          (call.run engine (runCalls engine calls (.empty schema))).1
          (call.run engine (runCalls engine calls (.empty schema))).2 := by
  have hrun : ∀ (c : Connection σ) (k : ℕ), Migrated engine schema tree k c →
      ∃ k', Migrated engine schema tree k' (runCalls engine calls c) := by
    induction calls with
    | nil => exact fun c k h => ⟨k, h⟩
    | cons call calls ih =>
      intro c k h
      obtain ⟨n, hknows⟩ := hcalls call (.head _)
      obtain ⟨k', _, _, hreached, _⟩ := (hknows.opened htree h).reached
      exact ih (fun call hcall => hcalls call (.tail _ hcall)) _ k' hreached
  obtain ⟨k, hk⟩ := hrun (.empty schema) 0 ⟨rfl, Nat.zero_le _, rfl, rfl⟩
  exact ⟨k, hk, fun call n hknows => hknows.opened htree hk⟩

/-- The second of two migrations fails, and a build that knows only the first one comes after. -/
theorem migrations_forward_and_whole_of_two :
    ∃ k, Migrated (fun sql => [fun schema => .ok (schema ++ [sql])]) []
        [⟨1, "holds", "a"⟩, ⟨2, "seats", "b"⟩] k
        (runCalls (fun sql => [fun schema => .ok (schema ++ [sql])])
          [⟨⟨"file:x", none, false⟩, [("0002_seats.sql", "b"), ("0001_holds.sql", "a")],
            ⟨fun i => if i = 8 then some ⟨"disk I/O error", true⟩ else none, fun _ => 0⟩⟩,
          ⟨⟨"file:x", none, false⟩, [("0001_holds.sql", "a"), ("README.md", "")],
            ⟨fun _ => none, fun _ => 0⟩⟩] (.empty [])) ∧
      k = 1 := by
  obtain ⟨k, hk, _⟩ := migrations_forward_and_whole
    (fun sql => [fun schema => .ok (schema ++ [sql])]) []
    [⟨1, "holds", "a"⟩, ⟨2, "seats", "b"⟩] rfl
    [⟨⟨"file:x", none, false⟩, [("0002_seats.sql", "b"), ("0001_holds.sql", "a")],
      ⟨fun i => if i = 8 then some ⟨"disk I/O error", true⟩ else none, fun _ => 0⟩⟩,
    ⟨⟨"file:x", none, false⟩, [("0001_holds.sql", "a"), ("README.md", "")],
      ⟨fun _ => none, fun _ => 0⟩⟩] (by
    rintro call hcall
    rcases List.mem_cons.mp hcall with rfl | hcall
    · exact ⟨2, by decide, by decide +kernel⟩
    · obtain rfl := List.mem_singleton.mp hcall
      exact ⟨1, by decide, by decide +kernel⟩)
  refine ⟨k, hk, ?_⟩
  have hversions := congrArg List.length hk.versions
  rw [List.length_range'] at hversions
  rw [← hversions]
  decide +kernel

end Calls

end TransitBpp
