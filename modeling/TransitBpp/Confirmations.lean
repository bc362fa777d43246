import Mathlib.Logic.Relation
import TransitBpp.TransitOrders

/-!
# Confirms, interleaved

The services of the operators on one store, with any number of confirms under way. Between two waits a
confirm runs alone, so a step is what one confirm does up to its next wait: it looks for the transaction,
for a confirm of it in flight, and drafts an order; the encoder answers and the order is stored; its
promise calls back. An order is stored by one step, and what a confirm that failed did is nothing.
-/

namespace TransitBpp.Trv11

/-! ## The services -/

/-- How far a confirm has come. -/
inductive Stage : Type where
  /-- `confirmNew` awaits the encoder -/
  | encoding : Draft → Stage
  /-- the promise of `confirmNew` is settled -/
  | settled : Except Failure ConfirmedOrder → Stage
  /-- it awaits the promise of another confirm of the transaction -/
  | joined : ℕ → Stage
  /-- it is answered -/
  | answered : Except Failure ConfirmedOrder → Stage

/-- One confirm. -/
structure Task : Type where
  /-- whose service was asked -/
  operator : PassOperatorKey
  /-- what was asked -/
  request : ConfirmRequest
  /-- what it draws from the clock and the generators -/
  draws : Draws
  /-- how far it has come -/
  stage : Stage

/-- The transaction of a confirm. -/
def Task.key (t : Task) : TransactionKey := ⟨t.operator, t.request.identity⟩

/-- A confirm that stored an order. -/
structure Confirmation : Type where
  /-- whose service was asked -/
  operator : PassOperatorKey
  /-- what was asked -/
  request : ConfirmRequest
  /-- what it drew -/
  draws : Draws
  /-- what it decided before it waited -/
  draft : Draft
  /-- what it stored -/
  issued : Issued

/-- The store, the confirms in flight, and all confirms so far. -/
structure State : Type where
  /-- the store that all services share -/
  store : Store
  /-- `confirmations` of every service: the confirm whose promise it is -/
  confirmations : List (TransactionKey × ℕ)
  /-- the confirms, in the order they were asked -/
  tasks : List Task
  /-- the confirms that stored an order, newest first -/
  history : List Confirmation

/-- Nothing was asked yet. -/
def State.initial : State := ⟨Store.empty, [], [], []⟩

/-- What can happen next. -/
inductive Move : Type where
  /-- a search of a transaction caches its offers -/
  | search : PassOperatorKey → TransactionIdentity → List TransitOffer → Move
  /-- `confirm(request)` -/
  | confirm : PassOperatorKey → ConfirmRequest → Draws → Move
  /-- the encoder has answered for every ticket, or failed for one -/
  | encoded : ℕ → Except Failure (String → String) → Move
  /-- the promise of `confirmNew` calls its own confirm back -/
  | conclude : ℕ → Move
  /-- and one that has joined it -/
  | resume : ℕ → Move

/-- One confirm, changed. -/
def State.put (s : State) (i : ℕ) (t : Task) : State := { s with tasks := s.tasks.set i t }

/-- One more confirm. -/
def State.push (s : State) (t : Task) : State := { s with tasks := s.tasks ++ [t] }

variable (hmac : Hmac) (services : PassOperatorKey → Service)

/-- `confirm`, up to its first wait. -/
def State.confirm (s : State) (operator : PassOperatorKey) (request : ConfirmRequest) (draws : Draws) :
    State :=
  let task (stage : Stage) : Task := ⟨operator, request, draws, stage⟩
  match checkConfirm (services operator) request with
  | .error failure => s.push (task (.answered (.error failure)))
  | .ok () =>
    match s.store.findByTransaction operator request.identity with
    | some confirmed => s.push (task (.answered (.ok confirmed)))
    | none =>
      match Js.mapGet s.confirmations ⟨operator, request.identity⟩ with
      | some pending => s.push (task (.joined pending))
      | none =>
        { s.push (task (match draft hmac (services operator) operator s.store request draws with
            | .ok issue => .encoding issue
            | .error failure => .settled (.error failure))) with
          confirmations := Js.mapSet s.confirmations ⟨operator, request.identity⟩ s.tasks.length }

/-- The rest of `confirmNew`, once the encoder has answered. -/
def State.finish (s : State) (i : ℕ) (t : Task) (issue : Draft) (encoder : String → String) : State :=
  match issued t.operator t.request t.draws issue encoder with
  | .error failure => s.put i { t with stage := .settled (.error failure) }
  | .ok done =>
    match s.store.issue t.operator t.request.identity done with
    | .error failure => s.put i { t with stage := .settled (.error failure) }
    | .ok store =>
      { s.put i { t with stage := .settled (.ok done.order) } with
        store := store
        history := ⟨t.operator, t.request, t.draws, issue, done⟩ :: s.history }

/-- The `finally` of `confirm`, and its answer. -/
def State.conclude (s : State) (i : ℕ) (t : Task) (outcome : Except Failure ConfirmedOrder) : State :=
  { s.put i { t with stage := .answered outcome } with
    confirmations := if Js.mapGet s.confirmations t.key = some i then
        Js.mapDelete s.confirmations t.key
      else s.confirmations }

/-- What a move does, where it can happen. -/
def State.step (s : State) : Move → Option State
  | .search operator identity offers =>
    some { s with store := s.store.cacheCatalogue operator identity offers }
  | .confirm operator request draws => some (s.confirm hmac services operator request draws)
  | .encoded i outcome => do
    let t ← s.tasks[i]?
    match t.stage, outcome with
    | .encoding _, .error failure => some (s.put i { t with stage := .settled (.error failure) })
    | .encoding issue, .ok encoder => some (s.finish i t issue encoder)
    | _, _ => none
  | .conclude i => do
    let t ← s.tasks[i]?
    match t.stage with
    | .settled outcome => some (s.conclude i t outcome)
    | _ => none
  | .resume i => do
    let t ← s.tasks[i]?
    match t.stage with
    | .joined pending => do
      let owner ← s.tasks[pending]?
      match owner.stage with
      -- A promise calls back in the order it was awaited, so its own confirm comes first.
      | .answered outcome => some (s.put i { t with stage := .answered outcome })
      | _ => none
    | _ => none

/-- A state that confirms and searches at arbitrary moments can lead to. -/
def Reachable : State → Prop :=
  Relation.ReflTransGen (fun s s' => ∃ m, s.step hmac services m = some s') State.initial

/-! ## What is promised of confirms -/

/-- What the promise of a confirm came to. -/
def Task.outcome (t : Task) : Option (Except Failure ConfirmedOrder) :=
  match t.stage with
  | .settled outcome => some outcome
  | .answered outcome => some outcome
  | _ => none

/-- `confirmNew` is under way for it. -/
def Task.InFlight (t : Task) : Prop :=
  (∃ issue, t.stage = .encoding issue) ∨ ∃ outcome, t.stage = .settled outcome

/-- The order of a transaction. -/
def Store.Holds (store : Store) (key : TransactionKey) (order : ConfirmedOrder) : Prop :=
  Js.mapGet store.ordersByTransaction key = some order.id ∧
    Js.mapGet store.orders order.id = some ⟨key.operator, key.identity, order⟩

/-- The orders and the credentials, apart from the catalogues. -/
def Store.SameOrders (store store' : Store) : Prop :=
  store'.orders = store.orders ∧ store'.ordersByTransaction = store.ordersByTransaction ∧
    store'.passCredentials = store.passCredentials

/-- Confirms are exactly-once. -/
structure ExactlyOnce (s : State) : Prop where
  /-- a transaction has one stored order at most -/
  once : ∀ (id id' : String) (stored stored' : StoredOrder), Js.mapGet s.store.orders id = some stored →
    Js.mapGet s.store.orders id' = some stored' → stored.operator = stored'.operator →
    stored.identity = stored'.identity → id = id'
  /-- and it is never changed or removed -/
  kept : ∀ m s', s.step hmac services m = some s' → ∀ key order, s.store.Holds key order →
    s'.store.Holds key order
  /-- a confirm that succeeded answered with the stored order -/
  answered : ∀ (i : ℕ) (t : Task) (order : ConfirmedOrder), s.tasks[i]? = some t →
    t.stage = .answered (.ok order) → s.store.Holds t.key order
  /-- the index names an order of its own transaction -/
  indexed : ∀ (key : TransactionKey) (id : String),
    Js.mapGet s.store.ordersByTransaction key = some id → ∃ order, s.store.Holds key order ∧ order.id = id
  /-- what a confirm came to is final -/
  final : ∀ m s', s.step hmac services m = some s' → ∀ (i : ℕ) (t : Task) outcome,
    s.tasks[i]? = some t → t.outcome = some outcome →
      ∃ t', s'.tasks[i]? = some t' ∧ t'.outcome = some outcome
  /-- orders and credentials change by the step of a confirm that succeeds with it, and by no other -/
  unchanged : ∀ m s', s.step hmac services m = some s' → s.store.SameOrders s'.store ∨
    ∃ (i : ℕ) (encoder : String → String) (t : Task) (order : ConfirmedOrder),
      m = .encoded i (.ok encoder) ∧ s'.tasks[i]? = some t ∧ t.outcome = some (.ok order)
  /-- where none is in flight and none has succeeded, a confirm whose own steps succeed succeeds -/
  retried : ∀ (operator : PassOperatorKey) (request : ConfirmRequest) (draws : Draws) (issue : Draft)
    (encoder : String → String) (done : Issued), (∀ t ∈ s.tasks, t.key = ⟨operator, request.identity⟩ →
      ¬ t.InFlight) → Js.mapGet s.store.ordersByTransaction ⟨operator, request.identity⟩ = none →
    checkConfirm (services operator) request = .ok () →
    draft hmac (services operator) operator s.store request draws = .ok issue →
    issued operator request draws issue encoder = .ok done →
    Js.mapGet s.store.orders done.order.id = none →
    ∃ s₁ s₂ s₃, s.step hmac services (.confirm operator request draws) = some s₁ ∧
      s₁.step hmac services (.encoded s.tasks.length (.ok encoder)) = some s₂ ∧
      s₂.step hmac services (.conclude s.tasks.length) = some s₃ ∧
      ∃ t, s₃.tasks[s.tasks.length]? = some t ∧ t.stage = .answered (.ok done.order)

/-! ## The store -/

namespace Store

variable {store store' : Store} {operator : PassOperatorKey} {identity : TransactionIdentity}
  {done : Issued}

/-- What it takes to store an order, and what that does. -/
structure Issues (store : Store) (key : TransactionKey) (done : Issued) (store' : Store) : Prop where
  fresh : Js.mapGet store.orders done.order.id = none
  first : Js.mapGet store.ordersByTransaction key = none
  orders : store'.orders = Js.mapSet store.orders done.order.id ⟨key.operator, key.identity, done.order⟩
  ordersByTransaction :
    store'.ordersByTransaction = Js.mapSet store.ordersByTransaction key done.order.id
  passCredentials : store'.passCredentials = if done.credentials.isEmpty then store.passCredentials
    else Js.mapSet store.passCredentials (passKey key.operator key.identity done.order.id)
      done.credentials

theorem issue_ok (h : store.issue operator identity done = .ok store') :
    store.Issues ⟨operator, identity⟩ done store' := by
  rw [Store.issue, save] at h
  split at h
  · cases h
  · split at h
    · cases h
    · rename_i hid hkey
      obtain rfl := Except.ok.inj h
      refine ⟨by simpa using hid, by simpa using hkey, ?_, ?_, ?_⟩
      · rw [savePassCredentials]
        split <;> rfl
      · rw [savePassCredentials]
        split <;> rfl
      · rw [savePassCredentials]
        split <;> rfl

theorem issue_isOk (hid : Js.mapGet store.orders done.order.id = none)
    (hkey : Js.mapGet store.ordersByTransaction ⟨operator, identity⟩ = none) :
    ∃ store', store.issue operator identity done = .ok store' := by
  simp only [Store.issue, save, hid, hkey, Option.isSome_none, Bool.false_eq_true, if_false]
  exact ⟨_, rfl⟩

theorem Issues.holds {key : TransactionKey} (h : store.Issues key done store') :
    store'.Holds key done.order := by
  refine ⟨?_, ?_⟩
  · rw [h.ordersByTransaction, Js.mapGet_mapSet_self]
  · rw [h.orders, Js.mapGet_mapSet_self]

/-- What was stored stays. -/
theorem Issues.kept {key key' : TransactionKey} {order : ConfirmedOrder}
    (h : store.Issues key done store') (hholds : store.Holds key' order) : store'.Holds key' order := by
  have hkey : key' ≠ key := by
    rintro rfl
    exact absurd (hholds.1.symm.trans h.first) nofun
  have hid : order.id ≠ done.order.id := by
    intro heq
    have hfresh := h.fresh
    rw [← heq] at hfresh
    exact absurd (hholds.2.symm.trans hfresh) nofun
  refine ⟨?_, ?_⟩
  · rw [h.ordersByTransaction, Js.mapGet_mapSet_ne _ _ hkey]
    exact hholds.1
  · rw [h.orders, Js.mapGet_mapSet_ne _ _ hid]
    exact hholds.2

theorem findByTransaction_some {order : ConfirmedOrder}
    (h : store.findByTransaction operator identity = some order) :
    ∃ id stored, Js.mapGet store.ordersByTransaction ⟨operator, identity⟩ = some id ∧
      Js.mapGet store.orders id = some stored ∧ stored.order = order := by
  obtain ⟨id, hid, h⟩ := Option.bind_eq_some_iff.mp h
  obtain ⟨stored, hstored, h⟩ := Option.bind_eq_some_iff.mp h
  exact ⟨id, stored, hid, hstored, Option.some.inj h⟩

theorem findByTransaction_none
    (h : Js.mapGet store.ordersByTransaction ⟨operator, identity⟩ = none) :
    store.findByTransaction operator identity = none := by
  rw [findByTransaction, h]
  rfl

end Store

/-! ## One step -/

/-- What a move does to the services. -/
inductive Does (s : State) : Move → State → Prop where
  /-- offers are cached -/
  | search {m : Move} (store : Store) : s.store.SameOrders store → Does s m { s with store := store }
  /-- a confirm is refused -/
  | refused {m : Move} {t : Task} (failure : Failure) : t.stage = .answered (.error failure) →
      Does s m (s.push t)
  /-- a confirm finds the order of its transaction -/
  | found {m : Move} {t : Task} (order : ConfirmedOrder) : t.stage = .answered (.ok order) →
      s.store.findByTransaction t.operator t.request.identity = some order → Does s m (s.push t)
  /-- a confirm joins the one in flight -/
  | join {m : Move} {t : Task} (pending : ℕ) : t.stage = .joined pending →
      Js.mapGet s.confirmations t.key = some pending → Does s m (s.push t)
  /-- a confirm drafts an order, or fails to -/
  | own {m : Move} {t : Task} : t.InFlight → (∀ order, t.outcome ≠ some (.ok order)) →
      (∀ issue, t.stage = .encoding issue →
        draft hmac (services t.operator) t.operator s.store t.request t.draws = .ok issue) →
      Does s m { s.push t with
        confirmations := Js.mapSet s.confirmations t.key s.tasks.length }
  /-- a draft comes to nothing -/
  | fail {m : Move} {i : ℕ} {t : Task} (issue : Draft) (failure : Failure) : s.tasks[i]? = some t →
      t.stage = .encoding issue → Does s m (s.put i { t with stage := .settled (.error failure) })
  /-- an order is stored -/
  | store {i : ℕ} {t : Task} {issue : Draft} {encoder : String → String} {done : Issued}
      {store : Store} : s.tasks[i]? = some t → t.stage = .encoding issue →
      issued t.operator t.request t.draws issue encoder = .ok done →
      s.store.Issues t.key done store → Does s (.encoded i (.ok encoder))
        { s.put i { t with stage := .settled (.ok done.order) } with
          store := store
          history := ⟨t.operator, t.request, t.draws, issue, done⟩ :: s.history }
  /-- a confirm is answered with what its own promise came to -/
  | conclude {m : Move} {i : ℕ} {t : Task} (outcome : Except Failure ConfirmedOrder)
      (confirmations : List (TransactionKey × ℕ)) : s.tasks[i]? = some t → t.stage = .settled outcome →
      (∀ key j, Js.mapGet confirmations key = some j → Js.mapGet s.confirmations key = some j ∧
        ¬ (key = t.key ∧ j = i)) →
      Does s m { s.put i { t with stage := .answered outcome } with confirmations := confirmations }
  /-- a confirm is answered with what the promise it joined came to -/
  | resume {m : Move} {i j : ℕ} {t owner : Task} (outcome : Except Failure ConfirmedOrder) :
      s.tasks[i]? = some t → t.stage = .joined j → s.tasks[j]? = some owner →
      owner.stage = .answered outcome → Does s m (s.put i { t with stage := .answered outcome })

variable {hmac services}

theorem confirm_does (s : State) (operator : PassOperatorKey) (request : ConfirmRequest)
    (draws : Draws) (m : Move) : Does hmac services s m (s.confirm hmac services operator request draws) := by
  rw [State.confirm]
  split
  · exact .refused _ rfl
  · split
    · exact .found _ rfl ‹_›
    · split
      · exact .join _ rfl ‹_›
      · refine .own ?_ ?_ ?_
        · split
          · exact .inl ⟨_, rfl⟩
          · exact .inr ⟨_, rfl⟩
        · intro order
          split <;> nofun
        · intro issue hstage
          simp only at hstage
          split at hstage
          · rename_i hdraft
            exact Stage.encoding.inj hstage ▸ hdraft
          · cases hstage

theorem step_does {s s' : State} {m : Move} (h : s.step hmac services m = some s') : Does hmac services s m s' := by
  cases m with
  | search operator identity offers =>
    obtain rfl := Option.some.inj h
    exact .search _ ⟨rfl, rfl, rfl⟩
  | confirm operator request draws =>
    obtain rfl := Option.some.inj h
    exact confirm_does s operator request draws _
  | encoded i outcome =>
    obtain ⟨t, ht, h⟩ := Option.bind_eq_some_iff.mp h
    split at h
    · obtain rfl := Option.some.inj h
      exact .fail _ _ ht ‹_›
    · rename_i issue encoder hstage _
      obtain rfl := Option.some.inj h
      rw [State.finish]
      split
      · exact .fail _ _ ht hstage
      · rename_i done hissued
        split
        · exact .fail _ _ ht hstage
        · rename_i store hstore
          exact .store ht hstage hissued (Store.issue_ok hstore)
    · cases h
  | conclude i =>
    obtain ⟨t, ht, h⟩ := Option.bind_eq_some_iff.mp h
    split at h
    · rename_i outcome hstage
      obtain rfl := Option.some.inj h
      refine .conclude outcome _ ht hstage fun key j hget => ?_
      split at hget
      · by_cases hkey : key = t.key
        · rw [hkey, Js.mapGet_mapDelete_self] at hget
          cases hget
        · rw [Js.mapGet_mapDelete_ne _ hkey] at hget
          exact ⟨hget, fun hown => hkey hown.1⟩
      · rename_i hown
        refine ⟨hget, ?_⟩
        rintro ⟨rfl, rfl⟩
        exact hown hget
    · cases h
  | resume i =>
    obtain ⟨t, ht, h⟩ := Option.bind_eq_some_iff.mp h
    split at h
    · rename_i pending hstage
      obtain ⟨owner, howner, h⟩ := Option.bind_eq_some_iff.mp h
      split at h
      · obtain rfl := Option.some.inj h
        exact .resume _ ht hstage howner ‹_›
      · cases h
    · cases h

theorem getElem?_put {s : State} {i j : ℕ} {t t' : Task} (hi : s.tasks[i]? = some t) :
    (s.put i t').tasks[j]? = if i = j then some t' else s.tasks[j]? := by
  have hlt : i < s.tasks.length := (List.getElem?_eq_some_iff.mp hi).1
  simp only [State.put, List.getElem?_set, hlt, if_true]

theorem getElem?_push {s : State} {i : ℕ} {t t' : Task} (h : (s.push t).tasks[i]? = some t') :
    s.tasks[i]? = some t' ∨ i = s.tasks.length ∧ t = t' := by
  rw [State.push, List.getElem?_append, List.getElem?_singleton] at h
  split at h
  · exact .inl h
  · split at h
    · exact .inr ⟨by omega, Option.some.inj h⟩
    · cases h

/-! ## The invariant -/

/-- The invariant of the services. -/
structure Kept (s : State) : Prop where
  indexed : ∀ (key : TransactionKey) (id : String),
    Js.mapGet s.store.ordersByTransaction key = some id → ∃ order, s.store.Holds key order ∧ order.id = id
  filed : ∀ (id : String) (stored : StoredOrder), Js.mapGet s.store.orders id = some stored →
    s.store.Holds ⟨stored.operator, stored.identity⟩ stored.order ∧ stored.order.id = id
  outcomes : ∀ (i : ℕ) (t : Task) (order : ConfirmedOrder), s.tasks[i]? = some t →
    t.outcome = some (.ok order) → s.store.Holds t.key order
  owners : ∀ (key : TransactionKey) (i : ℕ), Js.mapGet s.confirmations key = some i →
    ∃ t, s.tasks[i]? = some t ∧ t.key = key ∧ t.InFlight
  joined : ∀ (i : ℕ) (t : Task) (j : ℕ), s.tasks[i]? = some t → t.stage = .joined j →
    ∃ t', s.tasks[j]? = some t' ∧ t'.key = t.key

theorem kept_initial : Kept State.initial :=
  ⟨fun _ id h => absurd (show none = some id from h) nofun,
    fun _ stored h => absurd (show none = some stored from h) nofun,
    fun _ t _ h => absurd (show none = some t from h) nofun,
    fun _ i h => absurd (show none = some i from h) nofun,
    fun _ t _ h => absurd (show none = some t from h) nofun⟩

theorem Store.SameOrders.holds {store store' : Store} (h : store.SameOrders store')
    {key : TransactionKey} {order : ConfirmedOrder} (hholds : store.Holds key order) :
    store'.Holds key order := by
  refine ⟨?_, ?_⟩
  · rw [h.2.1]
    exact hholds.1
  · rw [h.1]
    exact hholds.2

theorem Store.SameOrders.symm {store store' : Store} (h : store.SameOrders store') :
    store'.SameOrders store := ⟨h.1.symm, h.2.1.symm, h.2.2.symm⟩

/-- A confirm that is in flight comes to be answered, and every other one stays what it is. -/
structure Onward (t t' : Task) : Prop where
  key : t'.key = t.key
  outcome : ∀ outcome, t.outcome = some outcome → t'.outcome = some outcome

theorem Onward.refl (t : Task) : Onward t t := ⟨rfl, fun _ => id⟩

/-- One step of a confirm towards its answer. -/
inductive Stage.Next : Stage → Stage → Prop where
  | settle (issue : Draft) (outcome : Except Failure ConfirmedOrder) :
      Next (.encoding issue) (.settled outcome)
  | conclude (outcome : Except Failure ConfirmedOrder) : Next (.settled outcome) (.answered outcome)
  | resume (j : ℕ) (outcome : Except Failure ConfirmedOrder) : Next (.joined j) (.answered outcome)

theorem Stage.Next.onward {t : Task} {stage : Stage} (h : t.stage.Next stage) :
    Onward t { t with stage := stage } := by
  refine ⟨rfl, fun outcome hout => ?_⟩
  rw [Task.outcome] at hout
  generalize t.stage = before at h hout
  cases h with
  | settle issue settled => cases hout
  | conclude settled => exact hout
  | resume j answered => cases hout

/-- A confirm that was asked stays as it is, or goes on. -/
theorem Does.next {s s' : State} {m : Move} (h : Does hmac services s m s') {i : ℕ} {t : Task}
    (ht : s.tasks[i]? = some t) : s'.tasks[i]? = some t ∨
      ∃ stage, s'.tasks[i]? = some { t with stage := stage } ∧ t.stage.Next stage := by
  have hpush (t' : Task) : (s.push t').tasks[i]? = some t :=
    (List.getElem?_append_left (List.getElem?_eq_some_iff.mp ht).1).trans ht
  have hput (j : ℕ) (d : Task) (stage : Stage) (hd : s.tasks[j]? = some d) (hnext : d.stage.Next stage) :
      (s.put j { d with stage := stage }).tasks[i]? = some t ∨
        ∃ stage', (s.put j { d with stage := stage }).tasks[i]? = some { t with stage := stage' } ∧
          t.stage.Next stage' := by
    by_cases hji : j = i
    · subst hji
      obtain rfl := Option.some.inj (hd.symm.trans ht)
      exact .inr ⟨stage, (getElem?_put hd).trans (if_pos rfl), hnext⟩
    · exact .inl ((getElem?_put hd).trans ((if_neg hji).trans ht))
  cases h with
  | search => exact .inl ht
  | refused => exact .inl (hpush _)
  | found => exact .inl (hpush _)
  | join => exact .inl (hpush _)
  | own => exact .inl (hpush _)
  | fail issue failure hd hstage => exact hput _ _ _ hd (by rw [hstage]; exact .settle _ _)
  | store hd hstage => exact hput _ _ _ hd (by rw [hstage]; exact .settle _ _)
  | conclude outcome confirmations hd hstage => exact hput _ _ _ hd (by rw [hstage]; exact .conclude _)
  | resume outcome hd hstage => exact hput _ _ _ hd (by rw [hstage]; exact .resume _ _)

/-- The confirms so far stay. -/
theorem Does.onward {s s' : State} {m : Move} (h : Does hmac services s m s') {i : ℕ} {t : Task}
    (ht : s.tasks[i]? = some t) : ∃ t', s'.tasks[i]? = some t' ∧ Onward t t' := by
  rcases h.next ht with hsame | ⟨stage, ht', hnext⟩
  · exact ⟨t, hsame, Onward.refl t⟩
  · exact ⟨_, ht', hnext.onward⟩

/-- What is stored stays. -/
theorem Does.holds {s s' : State} {m : Move} (h : Does hmac services s m s') {key : TransactionKey}
    {order : ConfirmedOrder} (hholds : s.store.Holds key order) : s'.store.Holds key order := by
  cases h with
  | search store hsame => exact hsame.holds hholds
  | store _ _ _ hissues => exact hissues.kept hholds
  | refused => exact hholds
  | found => exact hholds
  | join => exact hholds
  | own => exact hholds
  | fail => exact hholds
  | conclude => exact hholds
  | resume => exact hholds

/-- Orders are filed under their transaction, and a transaction names its order. -/
theorem Does.filed {s s' : State} {m : Move} (hdoes : Does hmac services s m s') (h : Kept s) :
    (∀ (key : TransactionKey) (id : String), Js.mapGet s'.store.ordersByTransaction key = some id →
      ∃ order, s'.store.Holds key order ∧ order.id = id) ∧
    ∀ (id : String) (stored : StoredOrder), Js.mapGet s'.store.orders id = some stored →
      s'.store.Holds ⟨stored.operator, stored.identity⟩ stored.order ∧ stored.order.id = id := by
  cases hdoes with
  | refused => exact ⟨h.indexed, h.filed⟩
  | found => exact ⟨h.indexed, h.filed⟩
  | join => exact ⟨h.indexed, h.filed⟩
  | own => exact ⟨h.indexed, h.filed⟩
  | fail => exact ⟨h.indexed, h.filed⟩
  | conclude => exact ⟨h.indexed, h.filed⟩
  | resume => exact ⟨h.indexed, h.filed⟩
  | search store hsame =>
    refine ⟨fun key id hget => ?_, fun id stored hget => ?_⟩
    · obtain ⟨order, hholds, hid⟩ := h.indexed key id (hsame.2.1 ▸ hget)
      exact ⟨order, hsame.holds hholds, hid⟩
    · obtain ⟨hholds, hid⟩ := h.filed id stored (hsame.1 ▸ hget)
      exact ⟨hsame.holds hholds, hid⟩
  | @store i t issue encoder done store ht hstage hissued hissues =>
    refine ⟨fun key id hget => ?_, fun id stored hget => ?_⟩
    · by_cases hkey : key = t.key
      · subst hkey
        rw [hissues.ordersByTransaction, Js.mapGet_mapSet_self] at hget
        exact ⟨done.order, hissues.holds, Option.some.inj hget⟩
      · rw [hissues.ordersByTransaction, Js.mapGet_mapSet_ne _ _ hkey] at hget
        obtain ⟨order, hholds, hid⟩ := h.indexed key id hget
        exact ⟨order, hissues.kept hholds, hid⟩
    · by_cases hid : id = done.order.id
      · subst hid
        rw [hissues.orders, Js.mapGet_mapSet_self] at hget
        obtain rfl := Option.some.inj hget
        exact ⟨hissues.holds, rfl⟩
      · rw [hissues.orders, Js.mapGet_mapSet_ne _ _ hid] at hget
        obtain ⟨hholds, hid⟩ := h.filed id stored hget
        exact ⟨hissues.kept hholds, hid⟩

/-- A confirm after a step is one before it, a new one, or the one that went on. -/
theorem getElem?_put_cases {s : State} {i j : ℕ} {t t' d : Task} (ht : s.tasks[i]? = some t)
    (hd : (s.put i t').tasks[j]? = some d) : s.tasks[j]? = some d ∨ i = j ∧ t' = d := by
  rw [getElem?_put ht] at hd
  split at hd
  · exact .inr ⟨‹_›, Option.some.inj hd⟩
  · exact .inl hd

theorem holds_of_found {s : State} (h : Kept s) {operator : PassOperatorKey}
    {identity : TransactionIdentity} {order : ConfirmedOrder}
    (hfound : s.store.findByTransaction operator identity = some order) :
    s.store.Holds ⟨operator, identity⟩ order := by
  obtain ⟨id, stored, hid, hstored, rfl⟩ := Store.findByTransaction_some hfound
  obtain ⟨order, hholds, rfl⟩ := h.indexed _ _ hid
  obtain rfl := Option.some.inj (hholds.2.symm.trans hstored)
  exact hholds

theorem Does.outcomes {s s' : State} {m : Move} (hdoes : Does hmac services s m s') (h : Kept s) (i : ℕ) (t : Task)
    (order : ConfirmedOrder) (ht : s'.tasks[i]? = some t) (hout : t.outcome = some (.ok order)) :
    s'.store.Holds t.key order := by
  cases hdoes with
  | search store hsame => exact hsame.holds (h.outcomes i t order ht hout)
  | refused failure hstage =>
    rcases getElem?_push ht with ht | ⟨-, rfl⟩
    · exact h.outcomes i t order ht hout
    · rw [Task.outcome, hstage] at hout
      cases hout
  | found order' hstage hfound =>
    rcases getElem?_push ht with ht | ⟨-, rfl⟩
    · exact h.outcomes i t order ht hout
    · rw [Task.outcome, hstage] at hout
      cases hout
      exact holds_of_found h hfound
  | join pending hstage =>
    rcases getElem?_push ht with ht | ⟨-, rfl⟩
    · exact h.outcomes i t order ht hout
    · rw [Task.outcome, hstage] at hout
      cases hout
  | own _ hfailed =>
    rcases getElem?_push ht with ht | ⟨-, rfl⟩
    · exact h.outcomes i t order ht hout
    · exact absurd hout (hfailed order)
  | fail issue failure hd =>
    rcases getElem?_put_cases hd ht with ht | ⟨-, rfl⟩
    · exact h.outcomes i t order ht hout
    · cases hout
  | store hd _ _ hissues =>
    rcases getElem?_put_cases hd ht with ht | ⟨-, rfl⟩
    · exact hissues.kept (h.outcomes i t order ht hout)
    · cases hout
      exact hissues.holds
  | @conclude _ j d outcome confirmations hd hstage =>
    rcases getElem?_put_cases hd ht with ht | ⟨-, rfl⟩
    · exact h.outcomes i t order ht hout
    · have hsettled : d.outcome = some (.ok order) := by
        rw [Task.outcome, hstage]
        exact hout
      exact h.outcomes j d order hd hsettled
  | resume outcome hd hstage howner hanswered =>
    rcases getElem?_put_cases hd ht with ht | ⟨-, rfl⟩
    · exact h.outcomes i t order ht hout
    · obtain ⟨owner, howner', hkey⟩ := h.joined _ _ _ hd hstage
      obtain rfl := Option.some.inj (howner.symm.trans howner')
      refine hkey ▸ h.outcomes _ _ order howner ?_
      rw [Task.outcome, hanswered]
      exact hout

/-- A confirm in flight is still in flight, unless its promise has called it back. -/
theorem Does.owners {s s' : State} {m : Move} (hdoes : Does hmac services s m s') (h : Kept s)
    (key : TransactionKey) (i : ℕ) (hget : Js.mapGet s'.confirmations key = some i) :
    ∃ t, s'.tasks[i]? = some t ∧ t.key = key ∧ t.InFlight := by
  have hpush : ∀ {t' : Task}, Js.mapGet s.confirmations key = some i →
      ∃ t, (s.push t').tasks[i]? = some t ∧ t.key = key ∧ t.InFlight := by
    intro t' hget
    obtain ⟨t, ht, hkey, hflight⟩ := h.owners key i hget
    exact ⟨t, (List.getElem?_append_left (List.getElem?_eq_some_iff.mp ht).1).trans ht, hkey, hflight⟩
  have hput : ∀ (j : ℕ) (d d' : Task), s.tasks[j]? = some d → d'.key = d.key →
      (d.InFlight → j = i → d.key = key → d'.InFlight) → Js.mapGet s.confirmations key = some i →
      ∃ t, (s.put j d').tasks[i]? = some t ∧ t.key = key ∧ t.InFlight := by
    intro j d d' hd hsame hon hget
    obtain ⟨t, ht, hkey, hflight⟩ := h.owners key i hget
    by_cases hji : j = i
    · subst hji
      obtain rfl := Option.some.inj (hd.symm.trans ht)
      exact ⟨d', (getElem?_put hd).trans (if_pos rfl), hsame.trans hkey, hon hflight rfl hkey⟩
    · exact ⟨t, (getElem?_put hd).trans ((if_neg hji).trans ht), hkey, hflight⟩
  cases hdoes with
  | search => exact h.owners key i hget
  | refused => exact hpush hget
  | found => exact hpush hget
  | join => exact hpush hget
  | @own _ t hflight =>
    by_cases hkey : key = t.key
    · subst hkey
      rw [Js.mapGet_mapSet_self] at hget
      obtain rfl := Option.some.inj hget
      exact ⟨t, List.getElem?_concat_length, rfl, hflight⟩
    · rw [Js.mapGet_mapSet_ne _ _ hkey] at hget
      exact hpush hget
  | fail issue failure hd => exact hput _ _ _ hd rfl (fun _ _ _ => .inr ⟨_, rfl⟩) hget
  | store hd => exact hput _ _ _ hd rfl (fun _ _ _ => .inr ⟨_, rfl⟩) hget
  | conclude outcome confirmations hd hstage hleft =>
    obtain ⟨hget, hother⟩ := hleft key i hget
    exact hput _ _ _ hd rfl (fun _ hi hkey => absurd ⟨hkey.symm, hi.symm⟩ hother) hget
  | resume outcome hd hstage =>
    refine hput _ _ _ hd rfl (fun hflight _ _ => ?_) hget
    rcases hflight with ⟨issue, hflight⟩ | ⟨outcome, hflight⟩
    · cases hstage.symm.trans hflight
    · cases hstage.symm.trans hflight

/-- A confirm that has joined another has done so before, or has just found it in flight. -/
theorem Does.joins {s s' : State} {m : Move} (h : Does hmac services s m s') {i j : ℕ} {t : Task}
    (ht : s'.tasks[i]? = some t) (hjoined : t.stage = .joined j) :
    s.tasks[i]? = some t ∨ Js.mapGet s.confirmations t.key = some j := by
  cases h with
  | search => exact .inl ht
  | refused failure hstage =>
    rcases getElem?_push ht with ht | ⟨-, rfl⟩
    · exact .inl ht
    · cases hstage.symm.trans hjoined
  | found order hstage =>
    rcases getElem?_push ht with ht | ⟨-, rfl⟩
    · exact .inl ht
    · cases hstage.symm.trans hjoined
  | join pending hstage hget =>
    rcases getElem?_push ht with ht | ⟨-, rfl⟩
    · exact .inl ht
    · obtain rfl := Stage.joined.inj (hstage.symm.trans hjoined)
      exact .inr hget
  | own hflight =>
    rcases getElem?_push ht with ht | ⟨-, rfl⟩
    · exact .inl ht
    · rcases hflight with ⟨issue, hflight⟩ | ⟨outcome, hflight⟩
      · cases hflight.symm.trans hjoined
      · cases hflight.symm.trans hjoined
  | fail issue failure hd =>
    rcases getElem?_put_cases hd ht with ht | ⟨-, rfl⟩
    · exact .inl ht
    · cases hjoined
  | store hd =>
    rcases getElem?_put_cases hd ht with ht | ⟨-, rfl⟩
    · exact .inl ht
    · cases hjoined
  | conclude outcome confirmations hd =>
    rcases getElem?_put_cases hd ht with ht | ⟨-, rfl⟩
    · exact .inl ht
    · cases hjoined
  | resume outcome hd =>
    rcases getElem?_put_cases hd ht with ht | ⟨-, rfl⟩
    · exact .inl ht
    · cases hjoined

theorem Does.joined {s s' : State} {m : Move} (hdoes : Does hmac services s m s') (h : Kept s) (i : ℕ) (t : Task)
    (j : ℕ) (ht : s'.tasks[i]? = some t) (hjoined : t.stage = .joined j) :
    ∃ t', s'.tasks[j]? = some t' ∧ t'.key = t.key := by
  have howner : ∃ owner, s.tasks[j]? = some owner ∧ owner.key = t.key := by
    rcases hdoes.joins ht hjoined with hold | hget
    · exact h.joined i t j hold hjoined
    · obtain ⟨owner, howner, hkey, -⟩ := h.owners _ _ hget
      exact ⟨owner, howner, hkey⟩
  obtain ⟨owner, howner, hkey⟩ := howner
  obtain ⟨owner', howner', hon⟩ := hdoes.onward howner
  exact ⟨owner', howner', hon.key.trans hkey⟩

theorem Does.kept {s s' : State} {m : Move} (hdoes : Does hmac services s m s') (h : Kept s) : Kept s' :=
  ⟨(hdoes.filed h).1, (hdoes.filed h).2, hdoes.outcomes h, hdoes.owners h, hdoes.joined h⟩

theorem Reachable.kept {s : State} (h : Reachable hmac services s) : Kept s := by
  induction h with
  | refl => exact kept_initial
  | tail _ hstep ih =>
    obtain ⟨m, hstep⟩ := hstep
    exact (step_does hstep).kept ih

/-- A confirm that finds neither an order nor a confirm in flight issues its own. -/
theorem Kept.retried {s : State} (h : Kept s) {operator : PassOperatorKey} {request : ConfirmRequest}
    {draws : Draws} {issue : Draft} {encoder : String → String} {done : Issued}
    (hquiet : ∀ t ∈ s.tasks, t.key = ⟨operator, request.identity⟩ → ¬ t.InFlight)
    (hfirst : Js.mapGet s.store.ordersByTransaction ⟨operator, request.identity⟩ = none)
    (hcheck : checkConfirm (services operator) request = .ok ())
    (hdraft : draft hmac (services operator) operator s.store request draws = .ok issue)
    (hissued : issued operator request draws issue encoder = .ok done)
    (hfresh : Js.mapGet s.store.orders done.order.id = none) :
    ∃ s₁ s₂ s₃, s.step hmac services (.confirm operator request draws) = some s₁ ∧
      s₁.step hmac services (.encoded s.tasks.length (.ok encoder)) = some s₂ ∧
      s₂.step hmac services (.conclude s.tasks.length) = some s₃ ∧
      ∃ t, s₃.tasks[s.tasks.length]? = some t ∧ t.stage = .answered (.ok done.order) := by
  have hpending : Js.mapGet s.confirmations ⟨operator, request.identity⟩ = none := by
    rw [Option.eq_none_iff_forall_ne_some]
    intro i hget
    obtain ⟨t, ht, hkey, hflight⟩ := h.owners _ _ hget
    exact hquiet t (List.mem_of_getElem? ht) hkey hflight
  have hfind := Store.findByTransaction_none hfirst
  obtain ⟨store, hstore⟩ := Store.issue_isOk hfresh hfirst
  let drafted : Task := ⟨operator, request, draws, .encoding issue⟩
  have hconfirm : s.confirm hmac services operator request draws = { s.push drafted with
      confirmations := Js.mapSet s.confirmations ⟨operator, request.identity⟩ s.tasks.length } := by
    simp only [State.confirm, hcheck, hfind, hpending, hdraft]
    rfl
  have hpushed : ((s.confirm hmac services operator request draws).tasks)[s.tasks.length]? =
      some drafted := by
    rw [hconfirm]
    exact List.getElem?_concat_length
  let settled : Task := { drafted with stage := .settled (.ok done.order) }
  let s₂ := (s.confirm hmac services operator request draws).finish s.tasks.length drafted issue encoder
  have hsettled : s₂.tasks[s.tasks.length]? = some settled := by
    have hsame : (s.confirm hmac services operator request draws).store = s.store := by rw [hconfirm]; rfl
    simp only [s₂, State.finish, drafted, hissued, hsame, hstore]
    exact (getElem?_put hpushed).trans (if_pos rfl)
  refine ⟨s.confirm hmac services operator request draws, s₂,
    s₂.conclude s.tasks.length settled (.ok done.order), rfl, ?_, ?_,
    { settled with stage := .answered (.ok done.order) }, ?_, rfl⟩
  · simp only [State.step, hpushed, Option.bind_eq_bind, Option.bind_some]
    rfl
  · simp only [State.step, hsettled, Option.bind_eq_bind, Option.bind_some]
    rfl
  · exact (getElem?_put hsettled).trans (if_pos rfl)

/-- **Confirms are exactly-once**, in every state that confirms of any transactions lead to. -/
theorem confirms_exactly_once {s : State} (h : Reachable hmac services s) :
    ExactlyOnce hmac services s := by
  have hkept := h.kept
  refine ⟨fun id id' stored stored' hid hid' hoperator hidentity => ?_,
    fun m s' hstep key order hholds => (step_does hstep).holds hholds,
    fun i t order ht hstage => ?_, hkept.indexed, fun m s' hstep i t outcome ht hout => ?_,
    fun m s' hstep => ?_, fun operator request draws issue encoder done hquiet hfirst hcheck hdraft
      hissued hfresh => hkept.retried hquiet hfirst hcheck hdraft hissued hfresh⟩
  · obtain ⟨⟨hkey, -⟩, rfl⟩ := hkept.filed id stored hid
    obtain ⟨⟨hkey', -⟩, rfl⟩ := hkept.filed id' stored' hid'
    rw [hoperator, hidentity] at hkey
    exact Option.some.inj (hkey.symm.trans hkey')
  · refine hkept.outcomes i t order ht ?_
    rw [Task.outcome, hstage]
  · obtain ⟨t', ht', hon⟩ := (step_does hstep).onward ht
    exact ⟨t', ht', hon.outcome outcome hout⟩
  · cases step_does hstep with
    | search store hsame => exact .inl hsame
    | refused => exact .inl ⟨rfl, rfl, rfl⟩
    | found => exact .inl ⟨rfl, rfl, rfl⟩
    | join => exact .inl ⟨rfl, rfl, rfl⟩
    | own => exact .inl ⟨rfl, rfl, rfl⟩
    | fail => exact .inl ⟨rfl, rfl, rfl⟩
    | conclude => exact .inl ⟨rfl, rfl, rfl⟩
    | resume => exact .inl ⟨rfl, rfl, rfl⟩
    | @store i t issue encoder done store ht =>
      exact .inr ⟨i, encoder, _, done.order, rfl, (getElem?_put ht).trans (if_pos rfl), rfl⟩

/-! ## A run -/

variable (hmac services)

/-- The state that some moves lead to, of which those that cannot happen are left out. -/
def State.follow (s : State) (moves : List Move) : State :=
  moves.foldl (fun s m => (s.step hmac services m).getD s) s

variable {hmac services}

theorem Reachable.follow {s : State} (h : Reachable hmac services s) (moves : List Move) :
    Reachable hmac services (s.follow hmac services moves) := by
  induction moves generalizing s with
  | nil => exact h
  | cons m moves ih =>
    apply ih
    show Reachable hmac services ((s.step hmac services m).getD s)
    cases hstep : s.step hmac services m with
    | none => exact h
    | some s' => exact h.tail ⟨m, hstep⟩

namespace Specimen

/-- A byte of zeros. -/
def zero : Byte := ⟨0, by decide⟩

/-- A digest of zeros, whose code is `000000` at every step. -/
def zeros : Hmac := fun _ _ _ => zero

/-- A bus operator, under every key. -/
def service (_ : PassOperatorKey) : Service :=
  ⟨⟨"BMTC", "BMTC", false, "05:00", "23:00"⟩, "bpp", "https://bpp", "https://bpp"⟩

/-- A transaction of one buyer app. -/
def identity (transactionId : String) : TransactionIdentity := ⟨transactionId, "bap", "https://bap"⟩

/-- A paid confirm of one unit of one item. -/
def request (transactionId itemId : String) (tags : List Js.Json) : ConfirmRequest :=
  ⟨⟨transactionId, "bap", "https://bap", "bpp", "https://bpp", "2026-09-30T10:00:00Z", some 1790762400000⟩,
    [⟨itemId, .finite 1 "1"⟩], List.cons_ne_nil _ _, "BMTC", none, .null,
    [[("status", .str "PAID"), ("tags", .arr tags)]]⟩

/-- What a confirm draws when nothing fails. -/
def draws (id : String) : Draws :=
  ⟨fun _ => 1790762400000, 1790762400000, 1790762400000, .ok id, fun _ => .ok (List.replicate 20 zero)⟩

/-- A ride for five rupees. -/
def offer : TransitOffer := ⟨"O1", "Single", 500, none, "PT1H", [], "R", "R", none⟩

/-- An encoder that answers the same token for every ticket. -/
def encoder (_ : String) : String := "qr"

/-- Two confirms of one transaction under way, and a third once its order is stored. -/
def rides : List Move :=
  [.search .bmtc (identity "t1") [offer], .confirm .bmtc (request "t1" "O1" []) (draws "a1"),
    .confirm .bmtc (request "t1" "O1" []) (draws "a2"), .encoded 0 (.ok encoder), .conclude 0, .resume 1,
    .confirm .bmtc (request "t1" "O1" []) (draws "a3")]

end Specimen

theorem confirms_exactly_once_rides :
    (State.initial.follow Specimen.zeros Specimen.service Specimen.rides).history.length = 1 ∧
      ExactlyOnce Specimen.zeros Specimen.service
        (State.initial.follow Specimen.zeros Specimen.service Specimen.rides) :=
  ⟨by decide +kernel, confirms_exactly_once (Reachable.follow .refl Specimen.rides)⟩

end TransitBpp.Trv11
