import Mathlib.Data.List.Basic
import Mathlib.Logic.Function.Basic
import Mathlib.Logic.Relation
import Mathlib.Order.Nat

/-!
# The queue of transactions

`withTransaction` chains every call behind the last one on the same handle. The promises it makes are
named after the call that made them: the one its caller is given (`result`), and the one that the next
call waits for (`tail`), which swallows both outcomes. What `BEGIN`, the body, `COMMIT` and `ROLLBACK`
come to, and when, is up to the environment, and so is the order in which promises call back.
-/

namespace TransitBpp.Queue

variable {H V E : Type}

/-- A promise, by where it was made. -/
inductive Promise : Type where
  /-- `Promise.resolve()` -/
  | resolved : Promise
  /-- `result` of a call -/
  | result : ℕ → Promise
  /-- `result.then(() => undefined, () => undefined)` of a call -/
  | tail : ℕ → Promise
deriving DecidableEq

/-- How far `runTransaction` has come for a call. -/
inductive Stage (V E : Type) : Type where
  /-- `previous` has not called back -/
  | queued : Stage V E
  /-- `await database.exec("BEGIN IMMEDIATE")` -/
  | beginning : Stage V E
  /-- `await fn()` -/
  | inBody : Stage V E
  /-- `await database.exec("COMMIT")`, with the value of the body -/
  | committing : V → Stage V E
  /-- `await database.exec("ROLLBACK")`, with the error that was caught -/
  | rollingBack : E → Stage V E
  /-- `result` is settled -/
  | finished : Except E V → Stage V E

/-- What one of the four parts of a transaction came to. -/
inductive Outcome (V E : Type) : Type where
  /-- of `BEGIN IMMEDIATE` -/
  | begins : Except E Unit → Outcome V E
  /-- of `fn` -/
  | body : Except E V → Outcome V E
  /-- of `COMMIT` -/
  | commits : Except E Unit → Outcome V E
  /-- of `ROLLBACK` -/
  | rollsBack : Except E Unit → Outcome V E

/-- One call of `withTransaction`. -/
structure Call (H V E : Type) : Type where
  /-- the handle -/
  database : H
  /-- the promise it is queued behind -/
  previous : Promise
  /-- how far it has come -/
  stage : Stage V E
  /-- its `tail` is settled -/
  swallowed : Bool
  /-- what its own parts came to, in order -/
  outcomes : List (Outcome V E)

/-- A call, a part of which came to something. -/
def Call.come (c : Call H V E) (stage : Stage V E) (outcome : Outcome V E) : Call H V E :=
  { c with stage := stage, outcomes := c.outcomes ++ [outcome] }

/-- All calls so far, in call order, and the map from a handle to the promise to wait for. -/
structure State (H V E : Type) : Type where
  /-- the calls -/
  calls : List (Call H V E)
  /-- `transactionQueue` -/
  transactionQueue : H → Option Promise

/-- Nothing was called yet. -/
def State.initial : State H V E := ⟨[], fun _ => none⟩

/-- Whether a promise is settled. -/
def State.settled (s : State H V E) : Promise → Bool
  | .resolved => true
  | .result i => s.calls[i]?.any fun c => match c.stage with
    | .finished _ => true
    | _ => false
  | .tail i => s.calls[i]?.any Call.swallowed

/-- What can happen next. -/
inductive Move (H V E : Type) : Type where
  /-- `withTransaction(database, fn)` -/
  | call : H → Move H V E
  /-- `previous` calls back -/
  | callBack : ℕ → Move H V E
  /-- a step of the body -/
  | work : ℕ → Move H V E
  /-- a part that is awaited comes to something -/
  | comes : ℕ → Outcome V E → Move H V E
  /-- `result` calls the swallowing handlers back -/
  | swallow : ℕ → Move H V E

/-- `runTransaction`, from one `await` to the next. -/
def Stage.next : Stage V E → Outcome V E → Option (Stage V E)
  | .beginning, .begins (.ok ()) => some .inBody
  | .beginning, .begins (.error e) => some (.finished (.error e))
  | .inBody, .body (.ok v) => some (.committing v)
  | .inBody, .body (.error e) => some (.rollingBack e)
  | .committing v, .commits (.ok ()) => some (.finished (.ok v))
  | .committing _, .commits (.error e) => some (.rollingBack e)
  | .rollingBack e, .rollsBack _ => some (.finished (.error e))
  | _, _ => none

/-- One call, changed. -/
def State.put (s : State H V E) (i : ℕ) (c : Call H V E) : State H V E :=
  { s with calls := s.calls.set i c }

section

variable [DecidableEq H]

/-- `withTransaction`: queue behind the last call on the handle, and be what the next one waits for. -/
def State.withTransaction (s : State H V E) (database : H) : State H V E where
  calls := s.calls ++ [{
    database := database
    previous := (s.transactionQueue database).getD .resolved
    stage := .queued
    swallowed := false
    outcomes := [] }]
  transactionQueue :=
    Function.update s.transactionQueue database (some (.tail s.calls.length))

/-- What a move does, where it can happen. -/
def State.step (s : State H V E) : Move H V E → Option (State H V E)
  | .call database => some (s.withTransaction database)
  | .callBack i => do
    let c ← s.calls[i]?
    match c.stage with
    | .queued =>
      -- Both handlers of `then` start the transaction.
      if s.settled c.previous then some (s.put i { c with stage := .beginning }) else none
    | _ => none
  | .work i => do
    let c ← s.calls[i]?
    match c.stage with
    | .inBody => some s
    | _ => none
  | .comes i outcome => do
    let c ← s.calls[i]?
    let stage ← c.stage.next outcome
    some (s.put i (c.come stage outcome))
  | .swallow i => do
    let c ← s.calls[i]?
    if s.settled (.result i) && !c.swallowed then some (s.put i { c with swallowed := true })
    else none

/-- A move that is allowed. -/
def Steps (allowed : Move H V E → Prop) (s s' : State H V E) : Prop :=
  ∃ m, allowed m ∧ s.step m = some s'

/-- A finite run of allowed moves. -/
abbrev Run (allowed : Move H V E → Prop) : State H V E → State H V E → Prop :=
  Relation.ReflTransGen (Steps allowed)

/-- A state that calls at arbitrary moments can lead to. -/
def Reachable (s : State H V E) : Prop := Run (fun _ => True) .initial s

end

/-! ## What is promised of a call -/

namespace Call

/-- `BEGIN IMMEDIATE` was issued. -/
def Started (c : Call H V E) : Prop := c.stage ≠ .queued

/-- `result` is settled. -/
def Over (c : Call H V E) : Prop := ∃ r, c.stage = .finished r

/-- Between the two. -/
def UnderWay (c : Call H V E) : Prop := c.Started ∧ ¬ c.Over

end Call

/-- The error that `BEGIN`, the body or `COMMIT` raised. -/
def Outcome.raised : Outcome V E → Option E
  | .begins (.error e) => some e
  | .body (.error e) => some e
  | .commits (.error e) => some e
  | _ => none

/-- What a caller is owed for what its own transaction came to: the value of the body once it is
committed, or the first error of `BEGIN`, the body and `COMMIT`. -/
def Owed (outcomes : List (Outcome V E)) : Except E V → Prop
  | .ok v => outcomes = [.begins (.ok ()), .body (.ok v), .commits (.ok ())]
  | .error e => outcomes.findSome? Outcome.raised = some e

/-- What the four parts of a transaction will come to. -/
structure Fate (V E : Type) : Type where
  /-- `BEGIN IMMEDIATE` -/
  begins : Except E Unit
  /-- `fn` -/
  body : Except E V
  /-- `COMMIT` -/
  commits : Except E Unit
  /-- `ROLLBACK` -/
  rollsBack : Except E Unit

/-- No further call, and everything comes to what it will. -/
def Follows (fate : ℕ → Fate V E) : Move H V E → Prop
  | .call _ => False
  | .comes i (.begins r) => r = (fate i).begins
  | .comes i (.body r) => r = (fate i).body
  | .comes i (.commits r) => r = (fate i).commits
  | .comes i (.rollsBack r) => r = (fate i).rollsBack
  | _ => True

/-- The transactions of every handle are serialised. -/
structure Serialised [DecidableEq H] (s : State H V E) : Prop where
  /-- no two of them overlap -/
  alone : ∀ (i j : ℕ) (c c' : Call H V E), s.calls[i]? = some c → s.calls[j]? = some c' →
    c.database = c'.database → c.UnderWay → c'.UnderWay → i = j
  /-- they run in call order -/
  ordered : ∀ (i j : ℕ) (c c' : Call H V E), i < j → s.calls[i]? = some c →
    s.calls[j]? = some c' → c.database = c'.database → c'.Started → c.Over
  /-- a caller is told of its own transaction, and not of its `ROLLBACK` -/
  answered : ∀ (i : ℕ) (c : Call H V E) (r : Except E V), s.calls[i]? = some c → c.stage = .finished r → Owed c.outcomes r
  /-- a call is started whatever the calls before it come to -/
  proceeds : ∀ (fate : ℕ → Fate V E) (i : ℕ) (c : Call H V E), s.calls[i]? = some c →
    ∃ s' c', Run (Follows fate) s s' ∧ s'.calls[i]? = some c' ∧ c'.Started

/-! ## What a move does -/

/-- What a move makes of one call. -/
inductive Advance (s : State H V E) (i : ℕ) (c : Call H V E) : Call H V E → Prop where
  /-- it is started -/
  | callBack : c.stage = .queued → s.settled c.previous = true →
      Advance s i c { c with stage := .beginning }
  /-- a part of it came to something -/
  | comes {outcome : Outcome V E} {stage : Stage V E} : c.stage.next outcome = some stage →
      Advance s i c (c.come stage outcome)
  /-- its outcome was swallowed -/
  | swallow : s.settled (.result i) = true → Advance s i c { c with swallowed := true }

theorem step_cases [DecidableEq H] {s s' : State H V E} {m : Move H V E} (h : s.step m = some s') :
    (∃ database, s' = s.withTransaction database) ∨ s' = s ∨
      ∃ i c c', s.calls[i]? = some c ∧ Advance s i c c' ∧ s' = s.put i c' := by
  cases m with
  | call database => exact .inl ⟨database, (Option.some.inj h).symm⟩
  | callBack i =>
    obtain ⟨c, hc, h⟩ := Option.bind_eq_some_iff.mp h
    split at h
    · split at h
      · exact .inr (.inr ⟨i, c, _, hc, .callBack ‹_› ‹_›, (Option.some.inj h).symm⟩)
      · cases h
    · cases h
  | work i =>
    obtain ⟨c, hc, h⟩ := Option.bind_eq_some_iff.mp h
    split at h
    · exact .inr (.inl (Option.some.inj h).symm)
    · cases h
  | comes i outcome =>
    obtain ⟨c, hc, h⟩ := Option.bind_eq_some_iff.mp h
    obtain ⟨stage, hstage, h⟩ := Option.bind_eq_some_iff.mp h
    exact .inr (.inr ⟨i, c, _, hc, .comes hstage, (Option.some.inj h).symm⟩)
  | swallow i =>
    obtain ⟨c, hc, h⟩ := Option.bind_eq_some_iff.mp h
    split at h
    · rename_i hsettled
      simp only [Bool.and_eq_true] at hsettled
      exact .inr (.inr ⟨i, c, _, hc, .swallow hsettled.1, (Option.some.inj h).symm⟩)
    · cases h

/-- What every move keeps of a call. -/
structure Onward (c c' : Call H V E) : Prop where
  database : c'.database = c.database
  previous : c'.previous = c.previous
  started : c.Started → c'.Started
  finished : c.Over → c'.Over
  swallowed : c.swallowed = true → c'.swallowed = true

theorem Onward.refl (c : Call H V E) : Onward c c := ⟨rfl, rfl, id, id, id⟩

theorem Onward.trans {c₁ c₂ c₃ : Call H V E} (h : Onward c₁ c₂) (h' : Onward c₂ c₃) : Onward c₁ c₃ :=
  ⟨h'.database.trans h.database, h'.previous.trans h.previous, h'.started ∘ h.started,
    h'.finished ∘ h.finished, h'.swallowed ∘ h.swallowed⟩

theorem next_started {stage stage' : Stage V E} {outcome : Outcome V E}
    (h : stage.next outcome = some stage') :
    stage ≠ .queued ∧ (∀ r, stage ≠ .finished r) ∧ stage' ≠ .queued := by
  unfold Stage.next at h
  split at h <;> simp_all
  all_goals exact h ▸ nofun

theorem Advance.onward {s : State H V E} {i : ℕ} {c c' : Call H V E} (h : Advance s i c c') :
    Onward c c' := by
  cases h with
  | callBack hqueued =>
    refine ⟨rfl, rfl, fun hstarted => absurd hqueued hstarted, ?_, id⟩
    rintro ⟨r, hr⟩
    rw [hqueued] at hr
    cases hr
  | comes hnext =>
    obtain ⟨-, hover, hstarted⟩ := next_started hnext
    exact ⟨rfl, rfl, fun _ => hstarted, fun ⟨r, hr⟩ => absurd hr (hover r), id⟩
  | swallow => exact ⟨rfl, rfl, id, id, fun _ => rfl⟩

theorem getElem?_put {s : State H V E} {i j : ℕ} {c c' : Call H V E} (hi : s.calls[i]? = some c) :
    (s.put i c').calls[j]? = if i = j then some c' else s.calls[j]? := by
  have hlt : i < s.calls.length := (List.getElem?_eq_some_iff.mp hi).1
  simp only [State.put, List.getElem?_set, hlt, if_true]

section

variable [DecidableEq H]

/-- The calls made so far stay, and go on. -/
theorem Steps.onward {allowed : Move H V E → Prop} {s s' : State H V E} (h : Steps allowed s s')
    {i : ℕ} {c : Call H V E} (hc : s.calls[i]? = some c) :
    ∃ c', s'.calls[i]? = some c' ∧ Onward c c' := by
  obtain ⟨m, -, hstep⟩ := h
  rcases step_cases hstep with ⟨database, rfl⟩ | rfl | ⟨j, d, d', hd, hadvance, rfl⟩
  · refine ⟨c, ?_, Onward.refl c⟩
    rw [State.withTransaction, List.getElem?_append_left (List.getElem?_eq_some_iff.mp hc).1, hc]
  · exact ⟨c, hc, Onward.refl c⟩
  · rw [getElem?_put hd]
    by_cases hij : j = i
    · subst hij
      obtain rfl := Option.some.inj (hd.symm.trans hc)
      exact ⟨d', if_pos rfl, hadvance.onward⟩
    · exact ⟨c, by rw [if_neg hij, hc], Onward.refl c⟩

theorem Run.onward {allowed : Move H V E → Prop} {s s' : State H V E} (h : Run allowed s s') {i : ℕ}
    {c : Call H V E} (hc : s.calls[i]? = some c) : ∃ c', s'.calls[i]? = some c' ∧ Onward c c' := by
  induction h with
  | refl => exact ⟨c, hc, Onward.refl c⟩
  | tail _ hstep ih =>
    obtain ⟨c₁, hc₁, hon₁⟩ := ih
    obtain ⟨c₂, hc₂, hon₂⟩ := hstep.onward hc₁
    exact ⟨c₂, hc₂, hon₁.trans hon₂⟩

end

/-! ## The chain -/

/-- The handles, in call order. -/
def State.databases (s : State H V E) : List H := s.calls.map Call.database

/-- What waits for a promise is behind the last of the first `n` calls on its handle. -/
inductive Behind (databases : List H) (database : H) (n : ℕ) : Promise → Prop where
  /-- there is none -/
  | resolved : (∀ i < n, databases[i]? ≠ some database) → Behind databases database n .resolved
  /-- the last one -/
  | tail {k : ℕ} : k < n → databases[k]? = some database →
      (∀ i, k < i → i < n → databases[i]? ≠ some database) →
      Behind databases database n (.tail k)

theorem Behind.append {databases later : List H} {database : H} {n : ℕ} {p : Promise}
    (h : Behind databases database n p) (hn : n ≤ databases.length) :
    Behind (databases ++ later) database n p := by
  have hsame : ∀ i < n, (databases ++ later)[i]? = databases[i]? :=
    fun i hi => List.getElem?_append_left (hi.trans_le hn)
  cases h with
  | resolved hnone => exact .resolved fun i hi => by rw [hsame i hi]; exact hnone i hi
  | tail hk hdatabase hlast =>
    exact .tail hk (by rw [hsame _ hk, hdatabase])
      fun i hki hi => by rw [hsame i hi]; exact hlast i hki hi

/-- A call on another handle leaves the last one where it is. -/
theorem Behind.succ {databases : List H} {database : H} {n : ℕ} {p : Promise}
    (h : Behind databases database n p) (hn : databases[n]? ≠ some database) :
    Behind databases database (n + 1) p := by
  cases h with
  | resolved hnone =>
    refine .resolved fun i hi => ?_
    rcases Nat.lt_succ_iff_lt_or_eq.mp hi with hi | rfl
    · exact hnone i hi
    · exact hn
  | tail hk hdatabase hlast =>
    refine .tail (hk.trans (Nat.lt_succ_self n)) hdatabase fun i hki hi => ?_
    rcases Nat.lt_succ_iff_lt_or_eq.mp hi with hi | rfl
    · exact hlast i hki hi
    · exact hn

/-- How far a call has come, and what its parts came to, belong together. -/
def Call.Kept (c : Call H V E) : Prop :=
  match c.stage with
  | .queued => c.outcomes = []
  | .beginning => c.outcomes = []
  | .inBody => c.outcomes = [.begins (.ok ())]
  | .committing v => c.outcomes = [.begins (.ok ()), .body (.ok v)]
  | .rollingBack e => c.outcomes.findSome? Outcome.raised = some e
  | .finished r => Owed c.outcomes r

theorem Call.Kept.next {c : Call H V E} {outcome : Outcome V E} {stage : Stage V E} (h : c.Kept)
    (hnext : c.stage.next outcome = some stage) :
    (c.come stage outcome).Kept := by
  obtain ⟨database, previous, current, swallowed, outcomes⟩ := c
  simp only at hnext
  unfold Stage.next at hnext
  split at hnext <;> cases hnext <;> simp only [Call.Kept, Call.come] at h ⊢
  · rw [h]
    rfl
  · rw [h]
    rfl
  · rw [h]
    rfl
  · rw [h]
    rfl
  · rw [h]
    rfl
  · rw [h]
    rfl
  · rw [Owed, List.findSome?_append, h]
    rfl

/-- The invariant of the queue. -/
structure Chained (s : State H V E) : Prop where
  queue : ∀ database, Behind s.databases database s.calls.length
    ((s.transactionQueue database).getD .resolved)
  previous : ∀ (i : ℕ) (c : Call H V E), s.calls[i]? = some c →
    Behind s.databases c.database i c.previous
  started : ∀ (i : ℕ) (c : Call H V E), s.calls[i]? = some c → c.Started →
    s.settled c.previous = true
  swallowed : ∀ (i : ℕ) (c : Call H V E), s.calls[i]? = some c → c.swallowed = true → c.Over
  kept : ∀ (i : ℕ) (c : Call H V E), s.calls[i]? = some c → c.Kept

theorem chained_initial : Chained (State.initial : State H V E) := by
  refine ⟨fun database => .resolved nofun, nofun, nofun, nofun, nofun⟩

theorem settled_tail {s : State H V E} {k : ℕ} :
    s.settled (.tail k) = true ↔ ∃ c, s.calls[k]? = some c ∧ c.swallowed = true := by
  simp only [State.settled, Option.any_eq_true]

theorem settled_result {s : State H V E} {k : ℕ} :
    s.settled (.result k) = true ↔ ∃ c, s.calls[k]? = some c ∧ c.Over := by
  simp only [State.settled, Option.any_eq_true]
  refine exists_congr fun c => and_congr_right fun _ => ?_
  constructor
  · intro h
    split at h
    · exact ⟨_, ‹_›⟩
    · cases h
  · rintro ⟨r, hr⟩
    rw [hr]

section

variable [DecidableEq H]

/-- A settled promise stays settled. -/
theorem Steps.settled {allowed : Move H V E → Prop} {s s' : State H V E} (h : Steps allowed s s')
    {p : Promise} (hp : s.settled p = true) : s'.settled p = true := by
  cases p with
  | resolved => rfl
  | result i =>
    obtain ⟨c, hc, hover⟩ := settled_result.mp hp
    obtain ⟨c', hc', hon⟩ := h.onward hc
    exact settled_result.mpr ⟨c', hc', hon.finished hover⟩
  | tail i =>
    obtain ⟨c, hc, hswallowed⟩ := settled_tail.mp hp
    obtain ⟨c', hc', hon⟩ := h.onward hc
    exact settled_tail.mpr ⟨c', hc', hon.swallowed hswallowed⟩

theorem Chained.withTransaction {s : State H V E} (h : Chained s) (database : H) :
    Chained (s.withTransaction database) := by
  have hstep : Steps (fun _ => True) s (s.withTransaction database) :=
    ⟨.call database, trivial, rfl⟩
  have hdatabases : (s.withTransaction database).databases = s.databases ++ [database] := by
    simp only [State.databases, State.withTransaction, List.map_append, List.map_cons, List.map_nil]
  have hlength : s.databases.length = s.calls.length := List.length_map _
  have hlast : (s.databases ++ [database])[s.calls.length]? = some database := by
    rw [← hlength, List.getElem?_concat_length]
  -- Every call is an earlier one or the new one.
  have hcases : ∀ (i : ℕ) (c : Call H V E), (s.withTransaction database).calls[i]? = some c →
      s.calls[i]? = some c ∨ i = s.calls.length ∧ c = ⟨database,
        (s.transactionQueue database).getD .resolved, .queued, false, []⟩ := by
    intro i c hc
    rw [State.withTransaction, List.getElem?_append, List.getElem?_singleton] at hc
    split at hc
    · exact .inl hc
    · split at hc
      · exact .inr ⟨by omega, (Option.some.inj hc).symm⟩
      · cases hc
  refine ⟨fun d => ?_, fun i c hc => ?_, fun i c hc hstarted => ?_, fun i c hc hswallowed => ?_,
    fun i c hc => ?_⟩
  · rw [hdatabases, State.withTransaction, List.length_append, List.length_singleton]
    by_cases hd : d = database
    · subst hd
      simp only [Function.update_self, Option.getD_some]
      exact .tail (Nat.lt_succ_self _) hlast fun i hi hi' => absurd hi' (by omega)
    · simp only [Function.update_of_ne hd]
      refine ((h.queue d).append hlength.ge).succ ?_
      rw [hlast]
      exact fun heq => hd (Option.some.inj heq).symm
  · rw [hdatabases]
    rcases hcases i c hc with hc | ⟨rfl, rfl⟩
    · exact (h.previous i c hc).append
        (hlength ▸ (List.getElem?_eq_some_iff.mp hc).1.le)
    · exact (h.queue database).append hlength.ge
  · rcases hcases i c hc with hc | ⟨rfl, rfl⟩
    · exact hstep.settled (h.started i c hc hstarted)
    · exact absurd rfl hstarted
  · rcases hcases i c hc with hc | ⟨rfl, rfl⟩
    · exact h.swallowed i c hc hswallowed
    · cases hswallowed
  · rcases hcases i c hc with hc | ⟨rfl, rfl⟩
    · exact h.kept i c hc
    · rfl

theorem Chained.put {s : State H V E} (h : Chained s) {i : ℕ} {c c' : Call H V E}
    (hc : s.calls[i]? = some c) (hadvance : Advance s i c c') (hstep : Steps (fun _ => True) s
      (s.put i c')) : Chained (s.put i c') := by
  have hon := hadvance.onward
  have hdatabases : (s.put i c').databases = s.databases := by
    apply List.ext_getElem?
    intro j
    simp only [State.databases, List.getElem?_map, getElem?_put hc]
    by_cases hij : i = j
    · subst hij
      rw [if_pos rfl, hc, Option.map_some, Option.map_some, hon.database]
    · rw [if_neg hij]
  have hlength : (s.put i c').calls.length = s.calls.length := List.length_set
  -- Every call is as before or the one that went on.
  have hcases : ∀ (j : ℕ) (d : Call H V E), (s.put i c').calls[j]? = some d →
      s.calls[j]? = some d ∨ i = j ∧ c' = d := by
    intro j d hd
    rw [getElem?_put hc] at hd
    split at hd
    · exact .inr ⟨‹_›, Option.some.inj hd⟩
    · exact .inl hd
  refine ⟨fun database => ?_, fun j d hd => ?_, fun j d hd hstarted => ?_, fun j d hd hswallowed => ?_,
    fun j d hd => ?_⟩
  · rw [hdatabases, hlength]
    exact h.queue database
  · rw [hdatabases]
    rcases hcases j d hd with hd | ⟨rfl, rfl⟩
    · exact h.previous j d hd
    · rw [hon.database, hon.previous]
      exact h.previous i c hc
  · rcases hcases j d hd with hd | ⟨rfl, rfl⟩
    · exact hstep.settled (h.started j d hd hstarted)
    · rw [hon.previous]
      refine hstep.settled ?_
      cases hadvance with
      | callBack _ hprevious => exact hprevious
      | comes hnext => exact h.started i c hc (next_started hnext).1
      | swallow => exact h.started i c hc hstarted
  · rcases hcases j d hd with hd | ⟨rfl, rfl⟩
    · exact h.swallowed j d hd hswallowed
    · cases hadvance with
      | callBack => exact hon.finished (h.swallowed i c hc hswallowed)
      | comes => exact hon.finished (h.swallowed i c hc hswallowed)
      | swallow hover =>
        obtain ⟨d, hd, hover⟩ := settled_result.mp hover
        obtain rfl := Option.some.inj (hc.symm.trans hd)
        exact hover
  · rcases hcases j d hd with hd | ⟨rfl, rfl⟩
    · exact h.kept j d hd
    · have hkept := h.kept i c hc
      cases hadvance with
      | callBack hqueued =>
        rw [Call.Kept, hqueued] at hkept
        exact hkept
      | comes hnext => exact hkept.next hnext
      | swallow => exact hkept

theorem Steps.chained {allowed : Move H V E → Prop} {s s' : State H V E} (hstep : Steps allowed s s')
    (h : Chained s) : Chained s' := by
  obtain ⟨m, -, hm⟩ := hstep
  have hany : Steps (fun _ => True) s s' := ⟨m, trivial, hm⟩
  rcases step_cases hm with ⟨database, rfl⟩ | rfl | ⟨i, c, c', hc, hadvance, rfl⟩
  · exact h.withTransaction database
  · exact h
  · exact h.put hc hadvance hany

theorem Run.chained {allowed : Move H V E → Prop} {s s' : State H V E} (hrun : Run allowed s s')
    (h : Chained s) : Chained s' := by
  induction hrun with
  | refl => exact h
  | tail _ hstep ih => exact hstep.chained ih

end

/-! ## One after another -/

/-- Every call behind which a started one is queued is over. -/
theorem Chained.ordered {s : State H V E} (h : Chained s) {i : ℕ} {c : Call H V E}
    (hc : s.calls[i]? = some c) : ∀ {j : ℕ} {c' : Call H V E}, i < j → s.calls[j]? = some c' →
      c.database = c'.database → c'.Started → c.Over := by
  intro j
  induction j using Nat.strongRecOn with
  | ind j ih =>
    intro c' hij hc' hdatabase hstarted
    have hlast := h.previous j c' hc'
    have hprevious := h.started j c' hc' hstarted
    have hi : s.databases[i]? = some c'.database := by
      rw [State.databases, List.getElem?_map, hc, Option.map_some, hdatabase]
    generalize c'.previous = p at hlast hprevious
    cases hlast with
    | resolved hnone => exact absurd hi (hnone i hij)
    | @tail k hk hkdatabase hlast =>
      obtain ⟨d, hd, hswallowed⟩ := settled_tail.mp hprevious
      have hover := h.swallowed k d hd hswallowed
      rcases Nat.lt_trichotomy i k with hik | rfl | hki
      · refine ih k hk hik hd ?_ ?_
        · rw [State.databases, List.getElem?_map, hd, Option.map_some] at hkdatabase
          rw [hdatabase, Option.some.inj hkdatabase]
        · obtain ⟨r, hr⟩ := hover
          rw [Call.Started, hr]
          exact nofun
      · obtain rfl := Option.some.inj (hc.symm.trans hd)
        exact hover
      · exact absurd hi (hlast i hki hij)

/-- What the part that is awaited will come to. -/
def Fate.next (fate : Fate V E) : Stage V E → Outcome V E
  | .beginning => .begins fate.begins
  | .inBody => .body fate.body
  | .committing _ => .commits fate.commits
  | _ => .rollsBack fate.rollsBack

/-- How many parts a transaction has before it. -/
def Stage.remaining : Stage V E → ℕ
  | .beginning => 4
  | .inBody => 3
  | .committing _ => 2
  | .rollingBack _ => 1
  | _ => 0

theorem Fate.next_remaining (fate : Fate V E) {stage : Stage V E} (hqueued : stage ≠ .queued)
    (hover : ∀ r, stage ≠ .finished r) :
    ∃ stage', stage.next (fate.next stage) = some stage' ∧ stage'.remaining < stage.remaining := by
  obtain ⟨begins, body, commits, rollsBack⟩ := fate
  cases stage with
  | queued => exact absurd rfl hqueued
  | beginning =>
    rcases begins with e | ⟨⟩
    · exact ⟨_, rfl, by simp only [Stage.remaining]; decide⟩
    · exact ⟨_, rfl, by simp only [Stage.remaining]; decide⟩
  | inBody =>
    rcases body with e | v
    · exact ⟨_, rfl, by simp only [Stage.remaining]; decide⟩
    · exact ⟨_, rfl, by simp only [Stage.remaining]; decide⟩
  | committing v =>
    rcases commits with e | ⟨⟩
    · exact ⟨_, rfl, by simp only [Stage.remaining]; decide⟩
    · exact ⟨_, rfl, by simp only [Stage.remaining]; decide⟩
  | rollingBack e => exact ⟨_, rfl, by simp only [Stage.remaining]; decide⟩
  | finished r => exact absurd rfl (hover r)

theorem follows_next (fate : ℕ → Fate V E) (i : ℕ) (stage : Stage V E) :
    Follows fate (.comes i ((fate i).next stage) : Move H V E) := by
  cases stage <;> exact rfl

section

variable [DecidableEq H] {s : State H V E} {i : ℕ} {c : Call H V E}

/-- A started transaction comes to its end. -/
theorem Run.finish (fate : ℕ → Fate V E) (hc : s.calls[i]? = some c) (hstarted : c.Started) :
    ∃ s' c', Run (Follows fate) s s' ∧ s'.calls[i]? = some c' ∧ c'.Over := by
  induction hn : c.stage.remaining using Nat.strongRecOn generalizing s c with
  | ind n ih =>
    by_cases hover : c.Over
    · exact ⟨s, c, .refl, hc, hover⟩
    · obtain ⟨stage, hnext, hless⟩ := (fate i).next_remaining hstarted
        fun r hr => hover ⟨r, hr⟩
      have hstep : Steps (Follows fate) s (s.put i (c.come stage ((fate i).next c.stage))) := by
        refine ⟨.comes i ((fate i).next c.stage), follows_next fate i c.stage, ?_⟩
        simp only [State.step, hc, hnext, Option.bind_eq_bind, Option.bind_some]
      have hput : (s.put i (c.come stage ((fate i).next c.stage))).calls[i]? =
          some (c.come stage ((fate i).next c.stage)) := (getElem?_put hc).trans (if_pos rfl)
      obtain ⟨s', c', hrun, hc', hover'⟩ := ih _ (hn ▸ hless) hput (next_started hnext).2.2 rfl
      exact ⟨s', c', .head hstep hrun, hc', hover'⟩

/-- A call whose turn it is is started, whatever the calls before it came to. -/
theorem Run.start (fate : ℕ → Fate V E) (h : Chained s) (hc : s.calls[i]? = some c)
    (hturn : ∀ (j : ℕ) (d : Call H V E), j < i → s.calls[j]? = some d → d.database = c.database →
      d.Over) :
    ∃ s' c', Run (Follows fate) s s' ∧ s'.calls[i]? = some c' ∧ c'.Started := by
  by_cases hstarted : c.Started
  · exact ⟨s, c, .refl, hc, hstarted⟩
  · have hqueued : c.stage = .queued := not_not.mp hstarted
    -- Once `previous` is settled it calls back.
    have hback : ∀ (s' : State H V E) (c' : Call H V E), Run (Follows fate) s s' →
        s'.calls[i]? = some c' → c'.stage = .queued → s'.settled c'.previous = true →
        ∃ s'' c'', Run (Follows fate) s s'' ∧ s''.calls[i]? = some c'' ∧ c''.Started := by
      intro s' c' hrun hc' hqueued' hsettled
      refine ⟨s'.put i { c' with stage := .beginning }, { c' with stage := .beginning }, ?_,
        (getElem?_put hc').trans (if_pos rfl), nofun⟩
      refine hrun.tail ⟨.callBack i, trivial, ?_⟩
      simp only [State.step, hc', Option.bind_eq_bind, Option.bind_some, hqueued', hsettled, if_true]
    have hlast := h.previous i c hc
    cases hprevious : c.previous with
    | resolved => exact hback s c .refl hc hqueued (by rw [hprevious]; rfl)
    | result k =>
      rw [hprevious] at hlast
      cases hlast
    | tail k =>
      rw [hprevious] at hlast
      cases hlast with
      | tail hk hdatabase _ =>
        rw [State.databases, List.getElem?_map, Option.map_eq_some_iff] at hdatabase
        obtain ⟨d, hd, hdatabase⟩ := hdatabase
        have hover := hturn k d hk hd hdatabase
        by_cases hswallowed : d.swallowed = true
        · exact hback s c .refl hc hqueued (by rw [hprevious]; exact settled_tail.mpr ⟨d, hd, hswallowed⟩)
        · -- The call before it has only its outcome to swallow.
          have hresult : s.settled (.result k) = true := settled_result.mpr ⟨d, hd, hover⟩
          have hstep : Steps (Follows fate) s (s.put k { d with swallowed := true }) := by
            refine ⟨.swallow k, trivial, ?_⟩
            simp only [State.step, hd, Option.bind_eq_bind, Option.bind_some, hresult, hswallowed,
              Bool.not_false, Bool.and_self, if_true]
          refine hback _ c (.single hstep) ?_ hqueued ?_
          · rw [getElem?_put hd, if_neg (Nat.ne_of_lt hk), hc]
          · rw [hprevious]
            exact settled_tail.mpr ⟨_, (getElem?_put hd).trans (if_pos rfl), rfl⟩

/-- The calls on a handle come to their end one after another. -/
theorem Run.finishAll (fate : ℕ → Fate V E) (h : Chained s) (database : H) :
    ∀ n, n ≤ s.calls.length → ∃ s', Run (Follows fate) s s' ∧
      ∀ (j : ℕ) (d : Call H V E), j < n → s'.calls[j]? = some d → d.database = database → d.Over
  | 0, _ => ⟨s, .refl, nofun⟩
  | n + 1, hn => by
    obtain ⟨s₁, hrun₁, hover₁⟩ := Run.finishAll fate h database n (Nat.le_of_succ_le hn)
    obtain ⟨c₁, hc₁, -⟩ := hrun₁.onward (List.getElem?_eq_getElem hn)
    by_cases hdatabase : c₁.database = database
    · obtain ⟨s₂, c₂, hrun₂, hc₂, hstarted⟩ := Run.start fate (hrun₁.chained h) hc₁
        fun j d hj hd heq => hover₁ j d hj hd (heq.trans hdatabase)
      obtain ⟨s₃, c₃, hrun₃, hc₃, hover₃⟩ := Run.finish fate hc₂ hstarted
      refine ⟨s₃, (hrun₁.trans hrun₂).trans hrun₃, fun j d hj hd heq => ?_⟩
      rcases Nat.lt_succ_iff_lt_or_eq.mp hj with hj | rfl
      · -- What was over before is still over.
        have hlt : j < s₁.calls.length := hj.trans (List.getElem?_eq_some_iff.mp hc₁).1
        obtain ⟨d', hd', hon⟩ := Run.onward (hrun₂.trans hrun₃) (List.getElem?_eq_getElem hlt)
        obtain rfl := Option.some.inj (hd.symm.trans hd')
        exact hon.finished (hover₁ j _ hj (List.getElem?_eq_getElem hlt) (hon.database.symm.trans heq))
      · obtain rfl := Option.some.inj (hd.symm.trans hc₃)
        exact hover₃
    · refine ⟨s₁, hrun₁, fun j d hj hd heq => ?_⟩
      rcases Nat.lt_succ_iff_lt_or_eq.mp hj with hj | rfl
      · exact hover₁ j d hj hd heq
      · obtain rfl := Option.some.inj (hd.symm.trans hc₁)
        exact absurd heq hdatabase

end

/-- **Transactions are serialised**: on one handle they run one at a time and in call order, each caller
is told of its own, and no failure keeps a later one from being started. -/
theorem transactions_serialised [DecidableEq H] {s : State H V E} (h : Reachable s) :
    Serialised s := by
  have hchained : Chained s := Run.chained h chained_initial
  refine ⟨fun i j c c' hc hc' hdatabase hunder hunder' => ?_,
    fun i j c c' hij hc hc' hdatabase hstarted =>
      hchained.ordered hc hij hc' hdatabase hstarted,
    fun i c r hc hr => ?_, fun fate i c hc => ?_⟩
  · rcases Nat.lt_trichotomy i j with hij | rfl | hji
    · exact absurd (hchained.ordered hc hij hc' hdatabase hunder'.1) hunder.2
    · rfl
    · exact absurd (hchained.ordered hc' hji hc hdatabase.symm hunder.1) hunder'.2
  · have hkept := hchained.kept i c hc
    rw [Call.Kept, hr] at hkept
    exact hkept
  · have hlt : i < s.calls.length := (List.getElem?_eq_some_iff.mp hc).1
    obtain ⟨s₁, hrun₁, hover₁⟩ := Run.finishAll fate hchained c.database i hlt.le
    obtain ⟨c₁, hc₁, hon⟩ := hrun₁.onward hc
    obtain ⟨s₂, c₂, hrun₂, hc₂, hstarted⟩ := Run.start fate (hrun₁.chained hchained) hc₁
      fun j d hj hd heq => hover₁ j d hj hd (heq.trans hon.database)
    exact ⟨s₂, c₂, hrun₁.trans hrun₂, hc₂, hstarted⟩

/-! ### Three calls on one handle -/

/-- The moves, one after another. -/
def State.moves [DecidableEq H] (s : State H V E) : List (Move H V E) → Option (State H V E)
  | [] => some s
  | m :: ms => s.step m >>= fun s' => s'.moves ms

theorem run_of_moves [DecidableEq H] {s s' : State H V E} {ms : List (Move H V E)}
    (h : s.moves ms = some s') : Run (fun _ => True) s s' := by
  induction ms generalizing s with
  | nil =>
    obtain rfl := Option.some.inj h
    exact .refl
  | cons m ms ih =>
    obtain ⟨s₁, hstep, h⟩ := Option.bind_eq_some_iff.mp h
    exact .head ⟨m, trivial, hstep⟩ (ih h)

/-- The body of the first call throws and its `ROLLBACK` fails, the second is in its body, and the third
waits. -/
def threeCalls : State String ℕ String where
  calls := [
    ⟨"db", .resolved, .finished (.error "no seats"), true,
      [.begins (.ok ()), .body (.error "no seats"), .rollsBack (.error "stream not found")]⟩,
    ⟨"db", .tail 0, .inBody, false, [.begins (.ok ())]⟩,
    ⟨"db", .tail 1, .queued, false, []⟩]
  transactionQueue := Function.update (Function.update (Function.update (fun _ => none)
    "db" (some (.tail 0))) "db" (some (.tail 1))) "db" (some (.tail 2))

theorem transactions_serialised_specimen : Serialised threeCalls :=
  transactions_serialised <| run_of_moves <| show State.initial.moves [.call "db", .call "db",
    .callBack 0, .comes 0 (.begins (.ok ())), .comes 0 (.body (.error "no seats")),
    .comes 0 (.rollsBack (.error "stream not found")), .swallow 0, .callBack 1, .call "db",
    .comes 1 (.begins (.ok ())), .work 1] = some threeCalls from rfl

end TransitBpp.Queue
