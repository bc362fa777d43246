import TransitBpp.Interleave

/-!
# A desk in front of a pool

Requests reach a pool of tasks through a desk. The desk may refuse one on the spot, take it in and
let a task work on it, or break down over it; what it takes in it either acknowledges at once,
posting later what the work came to, or keeps waiting on the open connection until the work is
done or somebody gives up.

This is the general theory of such a desk, over any system. An `Exchange` is one request with all
it was answered; an `Office` is the pool with its exchanges, and `Office.Step` one move of it.
`Exchange.Fits` lists the states an exchange can be in, each with the evidence for what was sent,
and `OfficeReach.fits` says every exchange of every run is in one of them. `OfficeReach.pool` says
the desk adds nothing to what the pool can do, so what holds of every run of the pool holds behind
the desk.
-/

namespace Interleave

/-! ## Desks -/

/-- What becomes of a request at the door. -/
inductive Arrival (ρ ν : Type) : Type where
  /-- it brings down the process that serves it -/
  | breaks : Arrival ρ ν
  /-- it is answered and done with -/
  | refused : ν → Arrival ρ ν
  /-- a task is to work on it -/
  | taken : ρ → Arrival ρ ν

/-- How a request that was taken in is answered. What is sent may depend on what the desk saw of
the world as the request arrived, and on what it sees now. -/
inductive Manner (τ α ν κ : Type) : Type where
  /-- acknowledge it at once, and post what the work comes to, if it comes to anything -/
  | acknowledge : ν → (τ → τ → α → Option κ) → Manner τ α ν κ
  /-- answer it when the work is done, or when somebody gives up, if anybody may -/
  | wait : (τ → τ → α → ν) → Option (τ → ν) → Manner τ α ν κ

/-- A desk: `π` are the processes it runs on, `τ` is what it sees of the world, `β` are the
requests, `ρ` what tasks work on and `α` what they come to, `ν` what goes out on the connection
and `κ` what is posted. -/
structure Desk (π τ β ρ α ν κ : Type) : Type where
  /-- the process that serves a request -/
  site : β → π
  /-- what becomes of it -/
  arrive : τ → β → Arrival ρ ν
  /-- how it is answered, if it is taken in -/
  manner : β → Manner τ α ν κ

/-- How far an exchange is. -/
inductive Phase (κ : Type) : Type where
  /-- nothing came of the work yet -/
  | working : Phase κ
  /-- this is about to be posted -/
  | holding : κ → Phase κ
  /-- nothing more will be sent -/
  | closed : Phase κ

/-- Whether nothing more will be sent. -/
def Phase.isClosed {κ : Type} : Phase κ → Bool
  | closed => true
  | _ => false

theorem Phase.isClosed_iff {κ : Type} {phase : Phase κ} : phase.isClosed = true ↔ phase = .closed := by
  cases phase <;> simp [isClosed]

/-- One request, and what was sent for it. -/
structure Exchange (τ β ν κ : Type) : Type where
  /-- the request -/
  body : β
  /-- what the desk saw as it arrived -/
  since : τ
  /-- the task that works on it -/
  task : Option ℕ
  /-- how far it is -/
  phase : Phase κ
  /-- what went out on its connection, newest first -/
  replies : List ν
  /-- what was posted for it, newest first -/
  posts : List κ

/-- What can be done about an exchange. -/
inductive Deed : Type where
  /-- see what the work came to -/
  | resolve : Deed
  /-- post what is held -/
  | post : Deed
  /-- stop waiting -/
  | giveUp : Deed

/-- A pool, the exchanges it works for, and the processes that broke down. -/
structure Office (Op : Type) (Resp : Op → Type) (σ ρ α π τ β ν κ : Type) : Type where
  /-- the pool -/
  pool : Config Op Resp σ ρ α
  /-- every exchange so far, in order of arrival -/
  exchanges : List (Exchange τ β ν κ)
  /-- the processes that are down -/
  down : List π

variable {Op : Type} {Resp : Op → Type} {σ ρ α ω ε π τ β ν κ : Type}

/-! ## Moves -/

section Moves

variable (S : System Op Resp σ ρ α ω ε) (D : Desk π τ β ρ α ν κ) (view : σ → τ)

/-- What goes out on the connection as a request is taken in. -/
def Desk.greeting (body : β) : List ν :=
  match D.manner body with
  | .acknowledge ack _ => [ack]
  | .wait _ _ => []

/-- An exchange after something was done about it; `none` if that cannot be done now. -/
def Desk.turn (now : τ) (pool : Config Op Resp σ ρ α) (x : Exchange τ β ν κ) :
    Deed → Option (Exchange τ β ν κ)
  | .resolve =>
    match x.phase, x.task.bind pool.answer, D.manner x.body with
    | .working, some a, .acknowledge _ resolve =>
      some { x with phase := (resolve x.since now a).elim .closed .holding }
    | .working, some a, .wait answer _ =>
      some { x with phase := .closed, replies := answer x.since now a :: x.replies }
    | _, _, _ => none
  | .post =>
    match x.phase with
    | .holding k => some { x with phase := .closed, posts := k :: x.posts }
    | _ => none
  | .giveUp =>
    match x.phase, D.manner x.body with
    | .working, .wait _ (some giveUp) =>
      some { x with phase := .closed, replies := giveUp now :: x.replies }
    | _, _ => none

/-- A move of the pool by itself: requests come through the desk only, and no task of a process
that is down goes on. -/
def Office.Free (o : Office Op Resp σ ρ α π τ β ν κ) : Move Op ρ ε → Prop
  | .start _ => False
  | .perform i _ _ => ∀ x ∈ o.exchanges, x.task = some i → D.site x.body ∉ o.down
  | .env _ => True

/-- One move of an office, and the move of its pool it makes, if it makes one. -/
inductive OfficeStep : Office Op Resp σ ρ α π τ β ν κ → Option (Move Op ρ ε) →
    Office Op Resp σ ρ α π τ β ν κ → Prop where
  /-- a request brings its process down -/
  | breaks {o : Office Op Resp σ ρ α π τ β ν κ} {body : β} (hup : D.site body ∉ o.down)
      (harrive : D.arrive (view o.pool.hist.world) body = .breaks) :
      OfficeStep o none { o with down := D.site body :: o.down }
  /-- a request is refused -/
  | refuses {o : Office Op Resp σ ρ α π τ β ν κ} {body : β} {reply : ν}
      (hup : D.site body ∉ o.down)
      (harrive : D.arrive (view o.pool.hist.world) body = .refused reply) :
      OfficeStep o none { o with exchanges :=
        o.exchanges ++ [⟨body, view o.pool.hist.world, none, .closed, [reply], []⟩] }
  /-- a request is taken in -/
  | takes {o : Office Op Resp σ ρ α π τ β ν κ} {body : β} {req : ρ}
      (hup : D.site body ∉ o.down)
      (harrive : D.arrive (view o.pool.hist.world) body = .taken req) :
      OfficeStep o (some (.start req))
        ⟨⟨o.pool.hist, o.pool.tasks ++ [⟨req, S.handler req⟩]⟩,
          o.exchanges ++ [⟨body, view o.pool.hist.world, some o.pool.tasks.length, .working,
            D.greeting body, []⟩], o.down⟩
  /-- the pool moves -/
  | works {o : Office Op Resp σ ρ α π τ β ν κ} {m : Move Op ρ ε}
      {pool : Config Op Resp σ ρ α} (hfree : o.Free D m) (hstep : Step S o.pool m pool) :
      OfficeStep o (some m) { o with pool := pool }
  /-- something is done about an exchange -/
  | turns {o : Office Op Resp σ ρ α π τ β ν κ} {j : ℕ} {x x' : Exchange τ β ν κ} {deed : Deed}
      (hx : o.exchanges[j]? = some x) (hup : D.site x.body ∉ o.down)
      (hturn : D.turn (view o.pool.hist.world) o.pool x deed = some x') :
      OfficeStep o none { o with exchanges := o.exchanges.set j x' }

/-- The offices that are reached from a pool without tasks, with pool moves satisfying `allows`. -/
inductive OfficeReach (allows : Hist Op Resp σ → Move Op ρ ε → Prop) (w₀ : σ) :
    Office Op Resp σ ρ α π τ β ν κ → Prop where
  /-- nobody came yet -/
  | refl : OfficeReach allows w₀ ⟨⟨⟨w₀, []⟩, []⟩, [], []⟩
  /-- one more move -/
  | step {o o' : Office Op Resp σ ρ α π τ β ν κ} {m : Option (Move Op ρ ε)} :
      OfficeReach allows w₀ o → (∀ pm ∈ m, allows o.pool.hist pm) → OfficeStep S D view o m o' →
      OfficeReach allows w₀ o'

/-! ### Schedules that compute -/

/-- One entry of an office's schedule. -/
inductive Errand (β ω ε : Type) : Type where
  /-- let a request arrive -/
  | arrive : β → Errand β ω ε
  /-- let a task perform its next operation, with the outside choosing `o` -/
  | run : ℕ → ω → Errand β ω ε
  /-- let the environment act -/
  | env : ε → Errand β ω ε
  /-- see to an exchange -/
  | turn : ℕ → Deed → Errand β ω ε

/-- Follow one entry of a schedule; `none` if it asks for a move that is not enabled. -/
def Office.next [DecidableEq π] (o : Office Op Resp σ ρ α π τ β ν κ) :
    Errand β ω ε → Option (Option (Move Op ρ ε) × Office Op Resp σ ρ α π τ β ν κ)
  | .arrive body =>
    if D.site body ∈ o.down then none
    else match D.arrive (view o.pool.hist.world) body with
    | .breaks => some (none, { o with down := D.site body :: o.down })
    | .refused reply => some (none, { o with exchanges :=
        o.exchanges ++ [⟨body, view o.pool.hist.world, none, .closed, [reply], []⟩] })
    | .taken req => some (some (.start req),
        ⟨⟨o.pool.hist, o.pool.tasks ++ [⟨req, S.handler req⟩]⟩,
          o.exchanges ++ [⟨body, view o.pool.hist.world, some o.pool.tasks.length, .working,
            D.greeting body, []⟩], o.down⟩)
  | .run i choice =>
    if o.exchanges.any fun x => x.task = some i ∧ D.site x.body ∈ o.down then none
    else (o.pool.next S (.run i choice)).map fun p => (some p.1, { o with pool := p.2 })
  | .env e => (o.pool.next S (.env e)).map fun p => (some p.1, { o with pool := p.2 })
  | .turn j deed => (o.exchanges[j]?).bind fun x =>
    if D.site x.body ∈ o.down then none
    else (D.turn (view o.pool.hist.world) o.pool x deed).map fun x' =>
      (none, { o with exchanges := o.exchanges.set j x' })

end Moves

/-! ## The pool behind the desk -/

section Runs

variable {S : System Op Resp σ ρ α ω ε} {D : Desk π τ β ρ α ν κ} {view : σ → τ}
variable {allows : Hist Op Resp σ → Move Op ρ ε → Prop} {w₀ : σ}
variable {o o' : Office Op Resp σ ρ α π τ β ν κ} {m : Option (Move Op ρ ε)}
variable {c c' : Config Op Resp σ ρ α} {pm : Move Op ρ ε} {i : ℕ}

/-- A move of the office moves its pool, or leaves it alone. -/
theorem OfficeStep.pool (h : OfficeStep S D view o m o') :
    (∃ pm, m = some pm ∧ Step S o.pool pm o'.pool) ∨ m = none ∧ o'.pool = o.pool := by
  cases h with
  | breaks _ _ => exact .inr ⟨rfl, rfl⟩
  | refuses _ _ => exact .inr ⟨rfl, rfl⟩
  | takes _ _ => exact .inl ⟨_, rfl, Step.start _ _⟩
  | works _ hstep => exact .inl ⟨_, rfl, hstep⟩
  | turns _ _ _ => exact .inr ⟨rfl, rfl⟩

/-- A schedule entry is a move. -/
theorem Office.next_step [DecidableEq π] {errand : Errand β ω ε}
    (h : o.next S D view errand = some (m, o')) : OfficeStep S D view o m o' := by
  cases errand with
  | arrive body =>
    simp only [Office.next] at h
    split at h
    · cases h
    · rename_i hup
      rcases harrive : D.arrive (view o.pool.hist.world) body with _ | reply | req <;>
        simp only [harrive] at h <;> obtain ⟨rfl, rfl⟩ := Prod.mk.inj (Option.some.inj h)
      · exact .breaks hup harrive
      · exact .refuses hup harrive
      · exact .takes hup harrive
  | run i choice =>
    simp only [Office.next] at h
    split at h
    · cases h
    · rename_i hnone
      obtain ⟨⟨pm, pool⟩, hnext, heq⟩ := Option.map_eq_some_iff.mp h
      obtain ⟨rfl, rfl⟩ := Prod.mk.inj heq
      obtain ⟨req, op, k, -, hmove⟩ := Config.next_run hnext
      refine .works ?_ (Config.next_step hnext)
      rw [show pm = .perform i req op from hmove]
      intro x hx htask hdown
      exact hnone (List.any_eq_true.mpr ⟨x, hx, decide_eq_true ⟨htask, hdown⟩⟩)
  | env e =>
    obtain ⟨⟨pm, pool⟩, hnext, heq⟩ := Option.map_eq_some_iff.mp h
    obtain ⟨rfl, rfl⟩ := Prod.mk.inj heq
    obtain ⟨w, -, hmove⟩ := Option.map_eq_some_iff.mp hnext
    refine .works ?_ (Config.next_step hnext)
    rw [← (Prod.mk.inj hmove).1]
    trivial
  | turn j deed =>
    obtain ⟨x, hx, h⟩ := Option.bind_eq_some_iff.mp h
    split at h
    · cases h
    · rename_i hup
      obtain ⟨x', hturn, heq⟩ := Option.map_eq_some_iff.mp h
      obtain ⟨rfl, rfl⟩ := Prod.mk.inj heq
      exact .turns hx hup hturn

/-- **Refinement**: what happens behind the desk is a run of the pool. -/
theorem OfficeReach.pool (h : OfficeReach S D view allows w₀ o) :
    Reach S allows ⟨⟨w₀, []⟩, []⟩ o.pool := by
  induction h with
  | refl => exact .refl
  | step _ hallows hstep ih =>
    rcases hstep.pool with ⟨pm, rfl, hpool⟩ | ⟨rfl, hpool⟩
    · exact ih.step (hallows pm rfl) hpool
    · exact hpool ▸ ih

/-- A task works on one request for ever. -/
theorem Step.req_stays (h : Step S c pm c') {t : Task Op Resp ρ α} (ht : c.tasks[i]? = some t) :
    ∃ t', c'.tasks[i]? = some t' ∧ t'.req = t.req := by
  have hlt := (List.getElem?_eq_some_iff.mp ht).1
  cases h with
  | start req => exact ⟨t, by rw [List.getElem?_append_left hlt]; exact ht, rfl⟩
  | @perform j req op k r s' htask _ =>
    by_cases hij : i = j
    · subst hij
      obtain rfl := Option.some.inj (ht.symm.trans htask)
      exact ⟨_, List.getElem?_set_self hlt, rfl⟩
    · exact ⟨t, by rw [List.getElem?_set_ne (Ne.symm hij)]; exact ht, rfl⟩
  | env _ => exact ⟨t, ht, rfl⟩

/-- What a task came to it came to for ever. -/
theorem Step.answer_stays (h : Step S c pm c') {a : α} (ha : c.answer i = some a) :
    c'.answer i = some a := by
  have hfinished : ∃ req, c.tasks[i]? = some ⟨req, .ret a⟩ := by
    unfold Config.answer at ha
    split at ha
    · rename_i req b htask
      obtain rfl := Option.some.inj ha
      exact ⟨req, htask⟩
    · cases ha
  obtain ⟨req, ht⟩ := hfinished
  have hlt := (List.getElem?_eq_some_iff.mp ht).1
  have hkept : c'.tasks[i]? = some ⟨req, .ret a⟩ := by
    cases h with
    | start _ => rw [List.getElem?_append_left hlt]; exact ht
    | @perform j _ op k _ _ htask _ =>
      have hij : i ≠ j := by
        rintro rfl
        cases ht.symm.trans htask
      rw [List.getElem?_set_ne (Ne.symm hij)]
      exact ht
    | env _ => exact ht
  simp only [Config.answer, hkept]

/-! ## The life of an exchange -/

/-- Task `i` works on what was taken in. `V` is what is known of anything the desk sees. -/
structure InHand (D : Desk π τ β ρ α ν κ) (V : τ → Prop) (c : Config Op Resp σ ρ α) (body : β)
    (since : τ) (i : ℕ) : Prop where
  /-- what the desk saw as the request arrived -/
  seen : V since
  /-- the task, and its request -/
  task : ∃ t, c.tasks[i]? = some t ∧ D.arrive since body = .taken t.req

/-- The states an exchange can be in, each with the evidence for what was sent. -/
inductive Exchange.Fits (D : Desk π τ β ρ α ν κ) (V : τ → Prop) (c : Config Op Resp σ ρ α) :
    Exchange τ β ν κ → Prop where
  /-- it was refused, and no task knows of it -/
  | refused {body : β} {since : τ} {reply : ν} (hsince : V since)
      (harrive : D.arrive since body = .refused reply) :
      Fits D V c ⟨body, since, none, .closed, [reply], []⟩
  /-- it was acknowledged, and is worked on -/
  | acknowledged {body : β} {since : τ} {i : ℕ} {ack : ν} {resolve : τ → τ → α → Option κ}
      (hin : InHand D V c body since i) (hmanner : D.manner body = .acknowledge ack resolve) :
      Fits D V c ⟨body, since, some i, .working, [ack], []⟩
  /-- it was acknowledged, and what its task came to is about to be posted -/
  | held {body : β} {since now : τ} {i : ℕ} {ack : ν} {resolve : τ → τ → α → Option κ} {a : α}
      {k : κ} (hin : InHand D V c body since i)
      (hmanner : D.manner body = .acknowledge ack resolve) (hnow : V now)
      (hanswer : c.answer i = some a) (hresolve : resolve since now a = some k) :
      Fits D V c ⟨body, since, some i, .holding k, [ack], []⟩
  /-- it was acknowledged, and what its task came to was posted -/
  | posted {body : β} {since now : τ} {i : ℕ} {ack : ν} {resolve : τ → τ → α → Option κ} {a : α}
      {k : κ} (hin : InHand D V c body since i)
      (hmanner : D.manner body = .acknowledge ack resolve) (hnow : V now)
      (hanswer : c.answer i = some a) (hresolve : resolve since now a = some k) :
      Fits D V c ⟨body, since, some i, .closed, [ack], [k]⟩
  /-- it was acknowledged, and its task came to nothing that is posted -/
  | dropped {body : β} {since now : τ} {i : ℕ} {ack : ν} {resolve : τ → τ → α → Option κ} {a : α}
      (hin : InHand D V c body since i) (hmanner : D.manner body = .acknowledge ack resolve)
      (hnow : V now) (hanswer : c.answer i = some a) (hresolve : resolve since now a = none) :
      Fits D V c ⟨body, since, some i, .closed, [ack], []⟩
  /-- it waits for its task -/
  | waiting {body : β} {since : τ} {i : ℕ} {answer : τ → τ → α → ν} {giveUp : Option (τ → ν)}
      (hin : InHand D V c body since i) (hmanner : D.manner body = .wait answer giveUp) :
      Fits D V c ⟨body, since, some i, .working, [], []⟩
  /-- it was answered what its task came to -/
  | answered {body : β} {since now : τ} {i : ℕ} {answer : τ → τ → α → ν}
      {giveUp : Option (τ → ν)} {a : α} (hin : InHand D V c body since i)
      (hmanner : D.manner body = .wait answer giveUp) (hnow : V now)
      (hanswer : c.answer i = some a) :
      Fits D V c ⟨body, since, some i, .closed, [answer since now a], []⟩
  /-- somebody gave up waiting for its task -/
  | givenUp {body : β} {since now : τ} {i : ℕ} {answer : τ → τ → α → ν} {giveUp : τ → ν}
      (hin : InHand D V c body since i) (hmanner : D.manner body = .wait answer (some giveUp))
      (hnow : V now) : Fits D V c ⟨body, since, some i, .closed, [giveUp now], []⟩

variable {V : τ → Prop} {x x' : Exchange τ β ν κ} {now : τ} {deed : Deed}

theorem InHand.step {body : β} {since : τ} (h : InHand D V c body since i) (hstep : Step S c pm c') :
    InHand D V c' body since i := by
  obtain ⟨t, ht, harrive⟩ := h.task
  obtain ⟨t', ht', hreq⟩ := hstep.req_stays ht
  exact ⟨h.seen, t', ht', hreq ▸ harrive⟩

/-- Whatever was taken in is in somebody's hands. -/
theorem Exchange.Fits.inHand (h : x.Fits D V c) (htask : x.task = some i) :
    InHand D V c x.body x.since i := by
  cases h with
  | refused _ _ => cases htask
  | acknowledged hin _ => exact Option.some.inj htask ▸ hin
  | held hin _ _ _ _ => exact Option.some.inj htask ▸ hin
  | posted hin _ _ _ _ => exact Option.some.inj htask ▸ hin
  | dropped hin _ _ _ _ => exact Option.some.inj htask ▸ hin
  | waiting hin _ => exact Option.some.inj htask ▸ hin
  | answered hin _ _ _ => exact Option.some.inj htask ▸ hin
  | givenUp hin _ _ => exact Option.some.inj htask ▸ hin

/-- The pool goes on, and an exchange is where it was. -/
theorem Exchange.Fits.step (h : x.Fits D V c) (hstep : Step S c pm c') : x.Fits D V c' := by
  cases h with
  | refused hsince harrive => exact .refused hsince harrive
  | acknowledged hin hmanner => exact .acknowledged (hin.step hstep) hmanner
  | held hin hmanner hnow hanswer hresolve =>
    exact .held (hin.step hstep) hmanner hnow (hstep.answer_stays hanswer) hresolve
  | posted hin hmanner hnow hanswer hresolve =>
    exact .posted (hin.step hstep) hmanner hnow (hstep.answer_stays hanswer) hresolve
  | dropped hin hmanner hnow hanswer hresolve =>
    exact .dropped (hin.step hstep) hmanner hnow (hstep.answer_stays hanswer) hresolve
  | waiting hin hmanner => exact .waiting (hin.step hstep) hmanner
  | answered hin hmanner hnow hanswer =>
    exact .answered (hin.step hstep) hmanner hnow (hstep.answer_stays hanswer)
  | givenUp hin hmanner hnow => exact .givenUp (hin.step hstep) hmanner hnow

/-- What is done about an exchange takes it to another of its states. -/
theorem Exchange.Fits.turn (h : x.Fits D V c) (hnow : V now)
    (hturn : D.turn now c x deed = some x') : x'.Fits D V c := by
  cases h with
  | refused _ _ => cases deed <;> cases hturn
  | acknowledged hin hmanner =>
    rename_i body since i ack resolve
    cases deed with
    | resolve =>
      rcases hanswer : c.answer i with _ | a <;>
        simp only [Desk.turn, Option.bind_some, hanswer, hmanner] at hturn
      · cases hturn
      · obtain rfl := Option.some.inj hturn
        rcases hresolve : resolve since now a with _ | k
        · exact .dropped hin hmanner hnow hanswer hresolve
        · exact .held hin hmanner hnow hanswer hresolve
    | post => cases hturn
    | giveUp => simp only [Desk.turn, hmanner, reduceCtorEq] at hturn
  | held hin hmanner hthen hanswer hresolve =>
    cases deed with
    | resolve => cases hturn
    | post =>
      obtain rfl := Option.some.inj hturn
      exact .posted hin hmanner hthen hanswer hresolve
    | giveUp => cases hturn
  | posted _ _ _ _ _ => cases deed <;> cases hturn
  | dropped _ _ _ _ _ => cases deed <;> cases hturn
  | waiting hin hmanner =>
    rename_i body since i answer giveUp
    cases deed with
    | resolve =>
      rcases hanswer : c.answer i with _ | a <;>
        simp only [Desk.turn, Option.bind_some, hanswer, hmanner] at hturn
      · cases hturn
      · obtain rfl := Option.some.inj hturn
        exact .answered hin hmanner hnow hanswer
    | post => cases hturn
    | giveUp =>
      rcases giveUp with _ | giveUp <;> simp only [Desk.turn, hmanner] at hturn
      · cases hturn
      · obtain rfl := Option.some.inj hturn
        exact .givenUp hin hmanner hnow
  | answered _ _ _ _ => cases deed <;> cases hturn
  | givenUp _ _ _ => cases deed <;> cases hturn

/-- What was taken in is in the hands of the task that starts with it. -/
theorem Exchange.Fits.taken {body : β} {since : τ} {req : ρ} (hsince : V since)
    (harrive : D.arrive since body = .taken req) :
    Exchange.Fits D V ⟨c.hist, c.tasks ++ [⟨req, S.handler req⟩]⟩
      ⟨body, since, some c.tasks.length, .working, D.greeting body, []⟩ := by
  have hin : InHand D V ⟨c.hist, c.tasks ++ [⟨req, S.handler req⟩]⟩ body since c.tasks.length :=
    ⟨hsince, ⟨req, S.handler req⟩, by simp, harrive⟩
  unfold Desk.greeting
  rcases hmanner : D.manner body with ⟨ack, resolve⟩ | ⟨answer, giveUp⟩
  · exact .acknowledged hin hmanner
  · exact .waiting hin hmanner

theorem OfficeStep.fits (h : OfficeStep S D view o m o') (hview : V (view o.pool.hist.world))
    (hfits : ∀ x ∈ o.exchanges, x.Fits D V o.pool) : ∀ x ∈ o'.exchanges, x.Fits D V o'.pool := by
  cases h with
  | breaks _ _ => exact hfits
  | refuses _ harrive =>
    intro x hx
    rcases List.mem_append.mp hx with hx | hx
    · exact hfits x hx
    · obtain rfl := List.mem_singleton.mp hx
      exact .refused hview harrive
  | takes _ harrive =>
    intro x hx
    rcases List.mem_append.mp hx with hx | hx
    · exact (hfits x hx).step (Step.start (S := S) _ _)
    · obtain rfl := List.mem_singleton.mp hx
      exact .taken hview harrive
  | works _ hstep => exact fun x hx => (hfits x hx).step hstep
  | turns hx _ hturn =>
    intro y hy
    rcases List.mem_or_eq_of_mem_set hy with hy | rfl
    · exact hfits y hy
    · exact (hfits _ (List.mem_of_getElem? hx)).turn hview hturn

/-- **Every exchange of every run is in one of its states**, so long as what the desk sees is
as `V` says. -/
theorem OfficeReach.fits (h : OfficeReach S D view allows w₀ o)
    (hview : ∀ c, Reach S allows ⟨⟨w₀, []⟩, []⟩ c → V (view c.hist.world)) :
    ∀ x ∈ o.exchanges, x.Fits D V o.pool := by
  induction h with
  | refl => exact fun x hx => absurd hx List.not_mem_nil
  | step hreach _ hstep ih => exact hstep.fits (hview _ hreach.pool) ih

/-- Replacing an element by one that comes to the same. -/
theorem filterMap_set {δ δ' : Type} {f : δ → Option δ'} {a a' : δ} (hf : f a' = f a) :
    ∀ {xs : List δ} {j : ℕ}, xs[j]? = some a → (xs.set j a').filterMap f = xs.filterMap f
  | [], _, hx => by cases hx
  | b :: xs, 0, hx => by
    obtain rfl := Option.some.inj hx
    rw [List.set_cons_zero, List.filterMap_cons, hf, ← List.filterMap_cons]
  | b :: xs, j + 1, hx => by
    have hrest : (xs.set j a').filterMap f = xs.filterMap f := filterMap_set hf hx
    rw [List.set_cons_succ, List.filterMap_cons, List.filterMap_cons, hrest]

/-- Nothing that is done about an exchange gives it another task. -/
theorem Desk.task_turn (h : D.turn now c x deed = some x') : x'.task = x.task := by
  unfold Desk.turn at h
  split at h <;> split at h <;> first | (obtain rfl := Option.some.inj h; rfl) | cases h

/-- The exchanges that were taken in, in order of arrival, have the tasks of the pool, in order. -/
theorem OfficeReach.owned (h : OfficeReach S D view allows w₀ o) :
    o.exchanges.filterMap Exchange.task = List.range o.pool.tasks.length := by
  induction h with
  | refl => rfl
  | step _ _ hstep ih =>
    cases hstep with
    | breaks _ _ => exact ih
    | refuses _ _ => simpa using ih
    | takes _ _ => simp [ih, List.range_succ]
    | works hfree hstep =>
      rw [ih]
      cases hstep with
      | start _ => exact absurd hfree id
      | perform _ _ => simp
      | env _ => rfl
    | turns hx _ hturn =>
      rw [← ih]
      exact filterMap_set (Desk.task_turn hturn) hx

end Runs

end Interleave
