import Mathlib.Logic.Relation
import Mathlib.Data.List.Basic

/-!
# Interleaved programs: syntax, schedules, and a journal logic

A request handler is a program that touches shared state only through named operations and may
be suspended between any two of them. This module is the general theory of such programs, over
an arbitrary operation signature `Op`, an arbitrary world `σ` and arbitrary requests `ρ`:

* `Prog` is the syntax, a free monad over the operations. Nothing in it reads the world
  directly, so the suspension points of a program are exactly its `call` nodes.
* `System` gives operations their meaning, and `Config.Step` is one move of a pool of tasks: a
  request arrives, one task performs its next operation, or the environment acts.
* `Prog.Journal` is what a program knows: each operation is described against the task's own
  journal, the operations it performed before and what they answered. No interference can change
  a journal, so this half of a proof is about one program at a time.
* `Reach.journal` says every task of every reachable pool is where its journal says, and
  `Reach.invariant` is the induction over interleavings that uses it: an invariant of world and
  trace needs one step lemma for the operations and one for the environment.
* `Alone` is the run of one program with no other task, `wp` its weakest precondition and
  `Handler.wp` that of a program that may fail.
* `Amid` is the weakest precondition of a program among tasks it relies on, and `Reach.amid` the
  rule of rely and guarantee that takes it to every reachable pool.
-/

namespace Interleave

variable {Op : Type} {Resp : Op → Type} {α β γ : Type}

/-! ## Program syntax -/

/-- A program over the operations `Op`: return a value, or perform an operation and continue
with its response. -/
inductive Prog (Op : Type) (Resp : Op → Type) (α : Type) : Type where
  /-- return a value -/
  | ret : α → Prog Op Resp α
  /-- perform one operation, then continue with what it answered -/
  | call : (op : Op) → (Resp op → Prog Op Resp α) → Prog Op Resp α

namespace Prog

/-- Graft a continuation onto every `ret` leaf. -/
protected def bind : Prog Op Resp α → (α → Prog Op Resp β) → Prog Op Resp β
  | ret a, f => f a
  | call op k, f => call op fun r => (k r).bind f

instance : Monad (Prog Op Resp) where
  pure := ret
  bind := Prog.bind

@[simp] theorem pure_eq (a : α) : (pure a : Prog Op Resp α) = ret a := rfl

@[simp] theorem ret_bind (a : α) (f : α → Prog Op Resp β) : ret a >>= f = f a := rfl

@[simp] theorem call_bind (op : Op) (k : Resp op → Prog Op Resp α) (f : α → Prog Op Resp β) :
    call op k >>= f = call op fun r => k r >>= f := rfl

theorem bind_ret (p : Prog Op Resp α) : p >>= ret = p := by
  induction p with
  | ret a => rfl
  | call op k ih => exact congrArg (call op) (funext ih)

theorem bind_assoc (p : Prog Op Resp α) (f : α → Prog Op Resp β) (g : β → Prog Op Resp γ) :
    (p >>= f) >>= g = p >>= fun a => f a >>= g := by
  induction p with
  | ret a => rfl
  | call op k ih => exact congrArg (call op) (funext ih)

instance : LawfulMonad (Prog Op Resp) :=
  LawfulMonad.mk' (Prog Op Resp) (fun p => bind_ret p) (fun _ _ => rfl) bind_assoc

/-- Perform one operation and return its response. -/
def perform (op : Op) : Prog Op Resp (Resp op) := call op ret

@[simp] theorem perform_bind (op : Op) (f : Resp op → Prog Op Resp β) :
    (perform op : Prog Op Resp (Resp op)) >>= f = call op f := rfl

/-- Run a program whose operations mean `f`, one after another. -/
def evaluate {σ : Type} (f : (op : Op) → σ → Resp op × σ) : Prog Op Resp α → σ → α × σ
  | ret a, w => (a, w)
  | call op k, w => (k (f op w).1).evaluate f (f op w).2

theorem evaluate_bind {σ : Type} {f : (op : Op) → σ → Resp op × σ} {p : Prog Op Resp α}
    {g : α → Prog Op Resp β} : ∀ {w : σ}, (p >>= g).evaluate f w =
      (g (p.evaluate f w).1).evaluate f (p.evaluate f w).2 := by
  induction p with
  | ret a => exact rfl
  | call op k ih => exact ih _

/-- The program with each operation carried out by a program over other operations. -/
def through {Op' : Type} {Resp' : Op' → Type} (f : (op : Op) → Prog Op' Resp' (Resp op)) :
    Prog Op Resp α → Prog Op' Resp' α
  | ret a => ret a
  | call op k => f op >>= fun r => (k r).through f

/-- Every operation of the program satisfies `P`, on every branch, and every value it can return
satisfies `V`. -/
def All (P : Op → Prop) (V : α → Prop) : Prog Op Resp α → Prop
  | ret a => V a
  | call op k => P op ∧ ∀ r, (k r).All P V

@[simp] theorem all_ret {P : Op → Prop} {V : α → Prop} (a : α) :
    (ret a : Prog Op Resp α).All P V ↔ V a := Iff.rfl

@[simp] theorem all_call {P : Op → Prop} {V : α → Prop} {op : Op}
    {k : Resp op → Prog Op Resp α} :
    (call op k).All P V ↔ P op ∧ ∀ r, (k r).All P V := Iff.rfl

theorem All.mono {P P' : Op → Prop} {V V' : α → Prop} (hP : ∀ op, P op → P' op)
    (hV : ∀ a, V a → V' a) {p : Prog Op Resp α} (h : p.All P V) : p.All P' V' := by
  induction p with
  | ret a => exact hV a h
  | call op k ih => exact ⟨hP op h.1, fun r => ih r (h.2 r)⟩

theorem all_bind {P : Op → Prop} {W : β → Prop} {p : Prog Op Resp α} {f : α → Prog Op Resp β} :
    (p >>= f).All P W ↔ p.All P fun a => (f a).All P W := by
  induction p with
  | ret a => rfl
  | call op k ih => simp only [call_bind, all_call, ih]

end Prog

/-- A program that may fail with an error in place of its value. -/
abbrev Handler (Op : Type) (Resp : Op → Type) (ε α : Type) : Type :=
  ExceptT ε (Prog Op Resp) α

/-! ## Systems and their moves -/

/-- One operation somebody performed, and what it answered. -/
structure Entry (Op : Type) (Resp : Op → Type) : Type where
  /-- the index of the task in the pool -/
  task : ℕ
  /-- the operation -/
  op : Op
  /-- its response -/
  resp : Resp op

/-- The world together with everything that was done to reach it, newest first. -/
structure Hist (Op : Type) (Resp : Op → Type) (σ : Type) : Type where
  /-- the shared state -/
  world : σ
  /-- every operation performed so far, newest first -/
  trace : List (Entry Op Resp)

/-- The meaning of operations: which program answers a request, what an operation does to the
world (`none` while it is blocked; `ω` is the choice the outside makes, such as a generated id
or a failure), and what the environment may do on its own. -/
structure System (Op : Type) (Resp : Op → Type) (σ ρ α ω ε : Type) : Type where
  /-- the program that answers a request -/
  handler : ρ → Prog Op Resp α
  /-- one operation of task `i`, which is answering the given request -/
  exec : ℕ → ρ → ω → (op : Op) → σ → Option (σ × Resp op)
  /-- one action of the environment -/
  env : ε → σ → Option σ

/-- What a move is, without its outcome: the part a condition may speak about. -/
inductive Move (Op ρ ε : Type) : Type where
  /-- a request arrives -/
  | start : ρ → Move Op ρ ε
  /-- the task with this index and request performs an operation -/
  | perform : ℕ → ρ → Op → Move Op ρ ε
  /-- the environment acts -/
  | env : ε → Move Op ρ ε

/-- A request being answered: the request, and what is left of its program. -/
structure Task (Op : Type) (Resp : Op → Type) (ρ α : Type) : Type where
  /-- the request -/
  req : ρ
  /-- the rest of the program -/
  rest : Prog Op Resp α

/-- A pool of tasks over one world. Tasks are never removed, so an index names one task for ever. -/
structure Config (Op : Type) (Resp : Op → Type) (σ ρ α : Type) : Type where
  /-- the world and the trace -/
  hist : Hist Op Resp σ
  /-- the tasks, finished ones included -/
  tasks : List (Task Op Resp ρ α)

variable {σ ρ ω ε : Type}

namespace Config

/-- The answer of task `i`, once it has one. -/
def answer (c : Config Op Resp σ ρ α) (i : ℕ) : Option α :=
  match c.tasks[i]? with
  | some ⟨_, .ret a⟩ => some a
  | _ => none

/-- Whether every task has answered. -/
def Quiet (c : Config Op Resp σ ρ α) : Prop :=
  ∀ t ∈ c.tasks, ∃ a, t.rest = .ret a

end Config

section Systems

variable (S : System Op Resp σ ρ α ω ε)

/-- Operation `op` of task `i` takes `s` to `s'` and answers `r`. -/
def Does (i : ℕ) (req : ρ) (op : Op) (s : Hist Op Resp σ) (r : Resp op)
    (s' : Hist Op Resp σ) : Prop :=
  ∃ o w, S.exec i req o op s.world = some (w, r) ∧ s' = ⟨w, ⟨i, op, r⟩ :: s.trace⟩

/-- One move of a pool. -/
inductive Step : Config Op Resp σ ρ α → Move Op ρ ε → Config Op Resp σ ρ α → Prop where
  /-- a request joins the pool -/
  | start (c : Config Op Resp σ ρ α) (req : ρ) :
      Step c (.start req) ⟨c.hist, c.tasks ++ [⟨req, S.handler req⟩]⟩
  /-- a task performs its next operation -/
  | perform {c : Config Op Resp σ ρ α} {i : ℕ} {req : ρ} {op : Op}
      {k : Resp op → Prog Op Resp α} {r : Resp op} {s' : Hist Op Resp σ}
      (htask : c.tasks[i]? = some ⟨req, .call op k⟩) (hdoes : Does S i req op c.hist r s') :
      Step c (.perform i req op) ⟨s', c.tasks.set i ⟨req, k r⟩⟩
  /-- the environment acts -/
  | env {c : Config Op Resp σ ρ α} {e : ε} {w : σ} (henv : S.env e c.hist.world = some w) :
      Step c (.env e) ⟨⟨w, c.hist.trace⟩, c.tasks⟩

/-- The configurations that moves satisfying `allows` reach from `c₀`. -/
inductive Reach (allows : Hist Op Resp σ → Move Op ρ ε → Prop) (c₀ : Config Op Resp σ ρ α) :
    Config Op Resp σ ρ α → Prop where
  /-- no move yet -/
  | refl : Reach allows c₀ c₀
  /-- one more allowed move -/
  | step {c c' : Config Op Resp σ ρ α} {m : Move Op ρ ε} :
      Reach allows c₀ c → allows c.hist m → Step S c m c' → Reach allows c₀ c'

/-! ### Schedules that compute -/

/-- One entry of a schedule. -/
inductive Event (ρ ω ε : Type) : Type where
  /-- let a request arrive -/
  | start : ρ → Event ρ ω ε
  /-- let a task perform its next operation, with the outside choosing `o` -/
  | run : ℕ → ω → Event ρ ω ε
  /-- let the environment act -/
  | env : ε → Event ρ ω ε

/-- Follow one entry of a schedule; `none` if it asks for a move that is not enabled. -/
def Config.next (c : Config Op Resp σ ρ α) :
    Event ρ ω ε → Option (Move Op ρ ε × Config Op Resp σ ρ α)
  | .start req => some (.start req, ⟨c.hist, c.tasks ++ [⟨req, S.handler req⟩]⟩)
  | .run i o =>
    match c.tasks[i]? with
    | some ⟨req, .call op k⟩ =>
      (S.exec i req o op c.hist.world).map fun p =>
        (.perform i req op, ⟨⟨p.1, ⟨i, op, p.2⟩ :: c.hist.trace⟩, c.tasks.set i ⟨req, k p.2⟩⟩)
    | _ => none
  | .env e => (S.env e c.hist.world).map fun w => (.env e, ⟨⟨w, c.hist.trace⟩, c.tasks⟩)

/-- Follow a schedule from left to right, as long as its moves are allowed. -/
def Config.follow (allowed : Hist Op Resp σ → Move Op ρ ε → Bool) :
    Config Op Resp σ ρ α → List (Event ρ ω ε) → Option (Config Op Resp σ ρ α)
  | c, [] => some c
  | c, ev :: evs => (c.next S ev).bind fun p =>
    if allowed c.hist p.1 then p.2.follow allowed evs else none

variable {S}

/-- A schedule entry is a move. -/
theorem Config.next_step {c c' : Config Op Resp σ ρ α} {ev : Event ρ ω ε} {m : Move Op ρ ε}
    (h : c.next S ev = some (m, c')) : Step S c m c' := by
  cases ev with
  | start req =>
    obtain ⟨rfl, rfl⟩ := Prod.mk.inj (Option.some.inj h)
    exact Step.start c req
  | run i o =>
    rcases htask : c.tasks[i]? with _ | ⟨req, _ | ⟨op, k⟩⟩ <;>
      simp only [Config.next, htask] at h
    · cases h
    · cases h
    · obtain ⟨⟨w, r⟩, hexec, heq⟩ := Option.map_eq_some_iff.mp h
      obtain ⟨rfl, rfl⟩ := Prod.mk.inj heq
      exact Step.perform htask ⟨o, w, hexec, rfl⟩
  | env e =>
    obtain ⟨w, henv, heq⟩ := Option.map_eq_some_iff.mp h
    obtain ⟨rfl, rfl⟩ := Prod.mk.inj heq
    exact Step.env henv

/-- An entry that lets a task run is a move of that task. -/
theorem Config.next_run {c c' : Config Op Resp σ ρ α} {i : ℕ} {o : ω} {m : Move Op ρ ε}
    (h : c.next S (.run i o) = some (m, c')) :
    ∃ req op k, c.tasks[i]? = some ⟨req, .call op k⟩ ∧ m = .perform i req op := by
  rcases htask : c.tasks[i]? with _ | ⟨req, _ | ⟨op, k⟩⟩ <;> simp only [Config.next, htask] at h
  · cases h
  · cases h
  · obtain ⟨p, -, heq⟩ := Option.map_eq_some_iff.mp h
    exact ⟨req, op, k, rfl, (Prod.mk.inj heq).1.symm⟩

/-- What a schedule reaches is reachable. -/
theorem Config.follow_reach {allowed : Hist Op Resp σ → Move Op ρ ε → Bool}
    {c₀ : Config Op Resp σ ρ α} {evs : List (Event ρ ω ε)} :
    ∀ {c c' : Config Op Resp σ ρ α}, Reach S (fun s m => allowed s m = true) c₀ c →
      c.follow S allowed evs = some c' → Reach S (fun s m => allowed s m = true) c₀ c' := by
  induction evs with
  | nil =>
    intro c c' hc h
    obtain rfl := Option.some.inj h
    exact hc
  | cons ev evs ih =>
    intro c c' hc h
    obtain ⟨⟨m, c₁⟩, hnext, hrest⟩ := Option.bind_eq_some_iff.mp h
    dsimp only at hrest
    split at hrest
    · rename_i hallowed
      exact ih (hc.step hallowed (Config.next_step hnext)) hrest
    · cases hrest

/-- Allowing more moves reaches more. -/
theorem Reach.mono {allows allows' : Hist Op Resp σ → Move Op ρ ε → Prop}
    {c₀ c : Config Op Resp σ ρ α} (hle : ∀ s m, allows s m → allows' s m)
    (h : Reach S allows c₀ c) : Reach S allows' c₀ c := by
  induction h with
  | refl => exact Reach.refl
  | step _ hm hs ih => exact ih.step (hle _ _ hm) hs

/-- What is reached from what was reached is reached. -/
theorem Reach.trans {allows : Hist Op Resp σ → Move Op ρ ε → Prop}
    {c₀ c₁ c₂ : Config Op Resp σ ρ α} (h : Reach S allows c₀ c₁) (h' : Reach S allows c₁ c₂) :
    Reach S allows c₀ c₂ := by
  induction h' with
  | refl => exact h
  | step _ hm hs ih => exact ih.step hm hs

end Systems

/-! ## Journals -/

/-- One operation a task performed, and what it was answered. -/
structure Line (Op : Type) (Resp : Op → Type) : Type where
  /-- the operation -/
  op : Op
  /-- its response -/
  resp : Resp op

/-- A trace entry without the name of its task. -/
def Entry.line (e : Entry Op Resp) : Line Op Resp := ⟨e.op, e.resp⟩

/-- The journal of task `i`: its own lines of the trace, newest first. -/
def own (i : ℕ) (tr : List (Entry Op Resp)) : List (Line Op Resp) :=
  (tr.filter fun e => e.task = i).map Entry.line

@[simp] theorem own_nil (i : ℕ) : own i ([] : List (Entry Op Resp)) = [] := rfl

@[simp] theorem own_cons_self (e : Entry Op Resp) (tr : List (Entry Op Resp)) :
    own e.task (e :: tr) = e.line :: own e.task tr := by
  simp [own]

theorem own_cons_ne {i : ℕ} {e : Entry Op Resp} (h : e.task ≠ i) (tr : List (Entry Op Resp)) :
    own i (e :: tr) = own i tr := by
  simp [own, h]

theorem mem_own {i : ℕ} {tr : List (Entry Op Resp)} {l : Line Op Resp} :
    l ∈ own i tr ↔ (⟨i, l.op, l.resp⟩ : Entry Op Resp) ∈ tr := by
  simp only [own, List.mem_map, List.mem_filter, decide_eq_true_eq]
  constructor
  · rintro ⟨e, ⟨he, rfl⟩, rfl⟩
    exact he
  · exact fun h => ⟨_, ⟨h, rfl⟩, rfl⟩

/-- `P` holds of every operation the program performs, against the journal at that moment, and
`Q` of every value it returns, against the journal at the end. -/
def Prog.Journal (P : List (Line Op Resp) → Op → Prop) (Q : α → List (Line Op Resp) → Prop) :
    Prog Op Resp α → List (Line Op Resp) → Prop
  | .ret a, jr => Q a jr
  | .call op k, jr => P jr op ∧ ∀ r, (k r).Journal P Q (⟨op, r⟩ :: jr)

section Journals

variable {P : List (Line Op Resp) → Op → Prop} {τ : Type}

@[simp] theorem Prog.journal_ret {Q : α → List (Line Op Resp) → Prop} (a : α)
    (jr : List (Line Op Resp)) : (Prog.ret a : Prog Op Resp α).Journal P Q jr ↔ Q a jr := Iff.rfl

@[simp] theorem Prog.journal_call {Q : α → List (Line Op Resp) → Prop} {op : Op}
    {k : Resp op → Prog Op Resp α} {jr : List (Line Op Resp)} :
    (Prog.call op k).Journal P Q jr ↔ P jr op ∧ ∀ r, (k r).Journal P Q (⟨op, r⟩ :: jr) := Iff.rfl

theorem Prog.Journal.mono {P' : List (Line Op Resp) → Op → Prop}
    {Q Q' : α → List (Line Op Resp) → Prop} {p : Prog Op Resp α} :
    ∀ {jr : List (Line Op Resp)}, (∀ jr' op, jr <:+ jr' → P jr' op → P' jr' op) →
      (∀ a jr', jr <:+ jr' → Q a jr' → Q' a jr') → p.Journal P Q jr → p.Journal P' Q' jr := by
  induction p with
  | ret a => exact fun _ hQ h => hQ a _ (List.suffix_refl _) h
  | call op k ih =>
    intro jr hP hQ h
    refine ⟨hP _ _ (List.suffix_refl _) h.1, fun r => ih r ?_ ?_ (h.2 r)⟩
    · exact fun jr' op' hs => hP jr' op' ((List.suffix_cons _ _).trans hs)
    · exact fun a jr' hs => hQ a jr' ((List.suffix_cons _ _).trans hs)

theorem Prog.journal_bind {Q : β → List (Line Op Resp) → Prop} {p : Prog Op Resp α}
    {f : α → Prog Op Resp β} : ∀ {jr : List (Line Op Resp)},
      (p >>= f).Journal P Q jr ↔ p.Journal P (fun a jr' => (f a).Journal P Q jr') jr := by
  induction p with
  | ret a => exact Iff.rfl
  | call op k ih =>
    intro jr
    simp only [call_bind, journal_call, ih]

/-- What is known of a program in two ways is known of it together. -/
theorem Prog.Journal.and {P P' : List (Line Op Resp) → Op → Prop}
    {Q Q' : α → List (Line Op Resp) → Prop} {p : Prog Op Resp α} :
    ∀ {jr : List (Line Op Resp)}, p.Journal P Q jr → p.Journal P' Q' jr →
      p.Journal (fun jr op => P jr op ∧ P' jr op) (fun a jr => Q a jr ∧ Q' a jr) jr := by
  induction p with
  | ret a => exact fun h h' => ⟨h, h'⟩
  | call op k ih => exact fun h h' => ⟨⟨h.1, h'.1⟩, fun r => ih r (h.2 r) (h'.2 r)⟩

/-- A program whose operations are all right against any journal. -/
theorem Prog.All.journal {R : Op → Prop} {V : α → Prop} {Q : α → List (Line Op Resp) → Prop}
    {p : Prog Op Resp α} (h : p.All R V) : ∀ {jr : List (Line Op Resp)},
      (∀ jr' op, jr <:+ jr' → R op → P jr' op) → (∀ a jr', jr <:+ jr' → V a → Q a jr') →
        p.Journal P Q jr := by
  induction p with
  | ret a => exact fun _ hQ => hQ a _ (List.suffix_refl _) h
  | call op k ih =>
    intro jr hP hQ
    refine ⟨hP _ _ (List.suffix_refl _) h.1, fun r => ih r (h.2 r) ?_ ?_⟩
    · exact fun jr' op' hs => hP jr' op' ((List.suffix_cons _ _).trans hs)
    · exact fun a jr' hs => hQ a jr' ((List.suffix_cons _ _).trans hs)

/-- What a program adds to its journal are its operations. -/
theorem Prog.All.adds {O : Op → Prop} {V : α → Prop} {p : Prog Op Resp α} (h : p.All O V) :
    ∀ {jr : List (Line Op Resp)},
      p.Journal (fun _ => O) (fun _ jr' => ∀ l ∈ jr', l ∈ jr ∨ O l.op) jr := by
  induction p with
  | ret a => exact fun l hl => .inl hl
  | call op k ih =>
    intro jr
    refine ⟨h.1, fun r => Prog.Journal.mono (fun _ _ _ hop => hop) ?_ (ih r (h.2 r))⟩
    intro a jr' _ hadds l hl
    rcases hadds l hl with hl | hop
    · rcases List.mem_cons.mp hl with rfl | hl
      · exact .inr h.1
      · exact .inl hl
    · exact .inr hop

end Journals

/-! ### Programs that may fail -/

/-- A postcondition in two parts: `ok` of a value, `err` of an error. -/
def Ends {τ γ : Type} (ok : α → γ → Prop) (err : τ → γ → Prop) : Except τ α → γ → Prop
  | .ok a => ok a
  | .error e => err e

@[simp] theorem ends_ok {τ γ : Type} {ok : α → γ → Prop} {err : τ → γ → Prop} {a : α} {c : γ} :
    Ends ok err (.ok a) c ↔ ok a c := Iff.rfl

@[simp] theorem ends_error {τ γ : Type} {ok : α → γ → Prop} {err : τ → γ → Prop} {e : τ} {c : γ} :
    Ends ok err (.error e) c ↔ err e c := Iff.rfl

/-- The journal logic of a program that may fail: `P` of every operation, `ok` of every value it
returns and `err` of every error it ends in. -/
def Handler.Journal {τ : Type} (P : List (Line Op Resp) → Op → Prop)
    (ok : α → List (Line Op Resp) → Prop) (err : τ → List (Line Op Resp) → Prop)
    (x : Handler Op Resp τ α) (jr : List (Line Op Resp)) : Prop :=
  Prog.Journal P (Ends ok err) x.run jr

section Handlers

variable {P : List (Line Op Resp) → Op → Prop} {τ : Type} {ok : β → List (Line Op Resp) → Prop}
variable {err : τ → List (Line Op Resp) → Prop} {jr : List (Line Op Resp)}

theorem Handler.journal_pure (b : β) :
    Handler.Journal P ok err (pure b : Handler Op Resp τ β) jr ↔ ok b jr := Iff.rfl

theorem Handler.journal_throw (e : τ) :
    Handler.Journal P ok err (throw e : Handler Op Resp τ β) jr ↔ err e jr := Iff.rfl

theorem Handler.journal_bind {x : Handler Op Resp τ α} {f : α → Handler Op Resp τ β} :
    Handler.Journal P ok err (x >>= f) jr ↔
      Handler.Journal P (fun a jr' => Handler.Journal P ok err (f a) jr') err x jr := by
  rw [Handler.Journal, ExceptT.run_bind, Prog.journal_bind]
  constructor <;> refine Prog.Journal.mono (fun _ _ _ h => h) ?_ <;>
    rintro (e | a) jr' - h <;> exact h

/-- A computation that touches nothing. -/
theorem Handler.journal_lift {x : Except τ β} :
    Handler.Journal P ok err (liftM x : Handler Op Resp τ β) jr ↔
      (∀ b, x = .ok b → ok b jr) ∧ ∀ e, x = .error e → err e jr := by
  rcases x with e | b
  · refine ⟨fun h => ⟨?_, ?_⟩, fun h => h.2 e rfl⟩
    · intro b hb
      cases hb
    · intro e' he
      obtain rfl := Except.error.inj he
      exact h
  · refine ⟨fun h => ⟨?_, ?_⟩, fun h => h.1 b rfl⟩
    · intro b' hb
      obtain rfl := Except.ok.inj hb
      exact h
    · intro e he
      cases he

/-- An operation that cannot fail. -/
theorem Handler.journal_perform {op : Op} {ok : Resp op → List (Line Op Resp) → Prop} :
    Handler.Journal P ok err (ExceptT.lift (Prog.perform op)) jr ↔
      P jr op ∧ ∀ r, ok r (⟨op, r⟩ :: jr) := Iff.rfl

theorem Handler.journal_tryCatch {x : Handler Op Resp τ β} {h : τ → Handler Op Resp τ β} :
    Handler.Journal P ok err (tryCatch x h) jr ↔
      Handler.Journal P ok (fun e jr' => Handler.Journal P ok err (h e) jr') x jr := by
  rw [Handler.Journal]
  change Prog.Journal P _ (x.run >>= _) jr ↔ _
  rw [Prog.journal_bind]
  constructor <;> refine Prog.Journal.mono (fun _ _ _ h => h) ?_ <;>
    rintro (e | b) jr' - h <;> exact h

/-- A program whose outcome is a value, whichever way it ends. -/
theorem Handler.journal_run {x : Handler Op Resp τ α}
    {ok : Except τ α → List (Line Op Resp) → Prop} {err : τ → List (Line Op Resp) → Prop} :
    Handler.Journal P ok err (ExceptT.lift x.run) jr ↔
      Handler.Journal P (fun a jr' => ok (.ok a) jr') (fun e jr' => ok (.error e) jr') x jr := by
  rw [Handler.Journal]
  change Prog.Journal P _ (x.run >>= _) jr ↔ _
  rw [Prog.journal_bind]
  constructor <;> refine Prog.Journal.mono (fun _ _ _ h => h) ?_ <;>
    rintro (e | b) jr' - h <;> exact h

theorem Handler.Journal.mono {P' : List (Line Op Resp) → Op → Prop}
    {ok' : β → List (Line Op Resp) → Prop} {err' : τ → List (Line Op Resp) → Prop}
    {x : Handler Op Resp τ β} (h : Handler.Journal P ok err x jr)
    (hP : ∀ jr' op, jr <:+ jr' → P jr' op → P' jr' op)
    (hok : ∀ b jr', jr <:+ jr' → ok b jr' → ok' b jr')
    (herr : ∀ e jr', jr <:+ jr' → err e jr' → err' e jr') :
    Handler.Journal P' ok' err' x jr := by
  refine Prog.Journal.mono hP ?_ h
  rintro (e | b) jr' hs hq
  · exact herr e jr' hs hq
  · exact hok b jr' hs hq

/-- A rule for how the program goes on where it returns, and nothing known where it fails. -/
theorem Handler.Journal.weaken {ok' : β → List (Line Op Resp) → Prop}
    {err' : τ → List (Line Op Resp) → Prop} {x : Handler Op Resp τ β}
    (h : Handler.Journal P ok (fun _ _ => True) x jr)
    (hok : ∀ b jr', jr <:+ jr' → ok b jr' → ok' b jr')
    (herr : ∀ e jr', jr <:+ jr' → err' e jr') : Handler.Journal P ok' err' x jr :=
  h.mono (fun _ _ _ hP => hP) hok fun e jr' hs _ => herr e jr' hs

/-- Every operation of a handler is one of a kind, whatever it is answered. -/
structure Handler.Acts {τ : Type} (O : Op → Prop) (x : Handler Op Resp τ α) : Prop where
  /-- on every branch -/
  all : x.run.All O fun _ => True

variable {O : Op → Prop}

theorem Handler.acts_pure (b : β) : Handler.Acts O (pure b : Handler Op Resp τ β) := ⟨trivial⟩

theorem Handler.acts_throw (e : τ) : Handler.Acts O (throw e : Handler Op Resp τ β) := ⟨trivial⟩

theorem Handler.acts_lift {x : Except τ β} : Handler.Acts O (liftM x : Handler Op Resp τ β) := by
  cases x <;> exact ⟨trivial⟩

theorem Handler.acts_bind {x : Handler Op Resp τ α} {f : α → Handler Op Resp τ β}
    (hx : Handler.Acts O x) (hf : ∀ a, Handler.Acts O (f a)) : Handler.Acts O (x >>= f) := by
  constructor
  rw [ExceptT.run_bind, Prog.all_bind]
  refine hx.all.mono (fun _ h => h) ?_
  rintro (e | a) -
  · trivial
  · exact (hf a).all

theorem Handler.acts_tryCatch {x : Handler Op Resp τ β} {h : τ → Handler Op Resp τ β}
    (hx : Handler.Acts O x) (hh : ∀ e, Handler.Acts O (h e)) : Handler.Acts O (tryCatch x h) := by
  constructor
  change (x.run >>= _).All O _
  rw [Prog.all_bind]
  refine hx.all.mono (fun _ h => h) ?_
  rintro (e | b) -
  · exact (hh e).all
  · trivial

/-- Taking the outcome as a value adds no operation. -/
theorem Handler.acts_run {x : Handler Op Resp τ α} (hx : Handler.Acts O x) :
    Handler.Acts O (ExceptT.lift x.run : Handler Op Resp τ (Except τ α)) := by
  constructor
  change (x.run >>= _).All O _
  rw [Prog.all_bind]
  exact hx.all.mono (fun _ h => h) fun _ _ => trivial

/-- A handler whose operations are all right against any journal. -/
theorem Handler.Acts.journal {Q : Except τ β → List (Line Op Resp) → Prop} {x : Handler Op Resp τ β}
    (h : Handler.Acts O x) (hP : ∀ jr' op, O op → P jr' op) (hQ : ∀ a jr', Q a jr') :
    Prog.Journal P Q x.run jr :=
  h.all.journal (fun jr' op _ => hP jr' op) fun a jr' _ _ => hQ a jr'

/-- What a program ends in does not depend on what is asked of its operations, and its operations
are all that is new. -/
theorem Handler.Journal.acting {P P' : List (Line Op Resp) → Op → Prop} {O : Op → Prop}
    {ok : β → List (Line Op Resp) → Prop} {x : Handler Op Resp τ β} {jr : List (Line Op Resp)}
    (h : Handler.Journal P ok (fun _ _ => True) x jr) (hacts : Handler.Acts O x)
    (hP : ∀ jr' op, O op → P' jr' op) :
    Handler.Journal P' (fun b jr' => ok b jr' ∧ ∀ l ∈ jr', l ∈ jr ∨ O l.op) (fun _ _ => True) x
      jr := by
  refine Prog.Journal.mono (fun jr' _ _ hop => hP jr' _ hop.2) ?_ (Prog.Journal.and h hacts.all.adds)
  rintro (e | b) jr' - hend
  · trivial
  · exact hend

end Handlers

/-! ## Invariants of every interleaving -/

section Invariants

variable {S : System Op Resp σ ρ α ω ε} {allows : Hist Op Resp σ → Move Op ρ ε → Prop}
variable {P : ρ → List (Line Op Resp) → Op → Prop} {Q : ρ → α → List (Line Op Resp) → Prop}

/-- What a pool keeps about its tasks: the trace names only tasks of the pool, and the rest of
each program fits its journal. -/
structure Kept (P : ρ → List (Line Op Resp) → Op → Prop)
    (Q : ρ → α → List (Line Op Resp) → Prop) (c : Config Op Resp σ ρ α) : Prop where
  /-- every entry of the trace is by a task of the pool -/
  named : ∀ e ∈ c.hist.trace, e.task < c.tasks.length
  /-- the rest of each program fits the task's journal -/
  journal : ∀ (i : ℕ) (t : Task Op Resp ρ α), c.tasks[i]? = some t →
    t.rest.Journal (P t.req) (Q t.req) (own i c.hist.trace)
  /-- every operation performed was right against the journal of its moment -/
  past : ∀ (i : ℕ) (t : Task Op Resp ρ α), c.tasks[i]? = some t → ∀ l earlier,
    l :: earlier <:+ own i c.hist.trace → P t.req earlier l.op

/-- A task the trace does not name has an empty journal. -/
theorem own_eq_nil {i : ℕ} {tr : List (Entry Op Resp)} (h : ∀ e ∈ tr, e.task ≠ i) :
    own i tr = [] := by
  rw [own, List.filter_eq_nil_iff.mpr fun e he => by simpa using h e he, List.map_nil]

theorem Kept.step (hjournal : ∀ req, (S.handler req).Journal (P req) (Q req) [])
    {c c' : Config Op Resp σ ρ α} {m : Move Op ρ ε} (h : Kept P Q c) (hstep : Step S c m c') :
    Kept P Q c' := by
  obtain ⟨hnamed, hkept, hpast⟩ := h
  cases hstep with
  | start req =>
    have hnew : ∀ i t, (c.tasks ++ [⟨req, S.handler req⟩])[i]? = some t →
        c.tasks[i]? = some t ∨ t = ⟨req, S.handler req⟩ ∧ own i c.hist.trace = [] := by
      intro i t ht
      rcases Nat.lt_or_ge i c.tasks.length with hi | hi
      · rw [List.getElem?_append_left hi] at ht
        exact Or.inl ht
      · rw [List.getElem?_append_right hi] at ht
        obtain ⟨_, ht'⟩ := List.getElem?_eq_some_iff.mp ht
        rw [List.getElem_singleton] at ht'
        exact Or.inr ⟨ht'.symm,
          own_eq_nil fun e he => Nat.ne_of_lt (Nat.lt_of_lt_of_le (hnamed e he) hi)⟩
    refine ⟨fun e he => ?_, fun i t ht => ?_, fun i t ht l earlier hl => ?_⟩
    · rw [List.length_append]
      exact Nat.lt_add_right _ (hnamed e he)
    · rcases hnew i t ht with ht | ⟨rfl, hnil⟩
      · exact hkept i t ht
      · rw [hnil]
        exact hjournal req
    · rcases hnew i t ht with ht | ⟨-, hnil⟩
      · exact hpast i t ht l earlier hl
      · rw [hnil] at hl
        exact absurd (List.suffix_nil.mp hl) (List.cons_ne_nil _ _)
  | @perform i req op k r s' htask hdoes =>
    obtain ⟨o, w, -, rfl⟩ := hdoes
    have hlt : i < c.tasks.length := (List.getElem?_eq_some_iff.mp htask).1
    have hself := own_cons_self (⟨i, op, r⟩ : Entry Op Resp) c.hist.trace
    have hothers : ∀ j t, (c.tasks.set i ⟨req, k r⟩)[j]? = some t →
        j = i ∧ t = ⟨req, k r⟩ ∨ c.tasks[j]? = some t ∧
          own j (⟨i, op, r⟩ :: c.hist.trace) = own j c.hist.trace := by
      intro j t ht
      by_cases hji : j = i
      · subst hji
        rw [List.getElem?_set_self hlt] at ht
        exact Or.inl ⟨rfl, (Option.some.inj ht).symm⟩
      · rw [List.getElem?_set_ne (Ne.symm hji)] at ht
        exact Or.inr ⟨ht, own_cons_ne (Ne.symm hji) _⟩
    refine ⟨fun e he => ?_, fun j t ht => ?_, fun j t ht l earlier hl => ?_⟩
    · rw [List.length_set]
      rcases List.mem_cons.mp he with rfl | he
      · exact hlt
      · exact hnamed e he
    · rcases hothers j t ht with ⟨rfl, rfl⟩ | ⟨ht, hown⟩
      · exact hself ▸ (hkept j _ htask).2 r
      · rw [hown]
        exact hkept j t ht
    · rcases hothers j t ht with ⟨rfl, rfl⟩ | ⟨ht, hown⟩
      · -- the newest line is the operation just performed
        rw [hself, List.suffix_cons_iff] at hl
        rcases hl with hl | hl
        · obtain ⟨rfl, rfl⟩ := List.cons.inj hl
          exact (hkept j _ htask).1
        · exact hpast j _ htask l earlier hl
      · rw [hown] at hl
        exact hpast j t ht l earlier hl
  | env henv => exact ⟨hnamed, hkept, hpast⟩

/-- **Journals**: in every reachable pool, each task is where its own journal says. -/
theorem Reach.journal (hjournal : ∀ req, (S.handler req).Journal (P req) (Q req) []) {w₀ : σ}
    {c : Config Op Resp σ ρ α} (h : Reach S allows ⟨⟨w₀, []⟩, []⟩ c) : Kept P Q c := by
  induction h with
  | refl => exact ⟨fun e he => absurd he List.not_mem_nil, fun i t ht => by simp at ht,
      fun i t ht => by simp at ht⟩
  | step _ _ hstep ih => exact ih.step hjournal hstep

/-- What a task answered fits its journal. -/
theorem Kept.answer {c : Config Op Resp σ ρ α} (h : Kept P Q c) {i : ℕ} {req : ρ} {a : α}
    (ht : c.tasks[i]? = some ⟨req, .ret a⟩) : Q req a (own i c.hist.trace) :=
  h.journal i _ ht

/-- **Induction over interleavings**: an invariant of world and trace holds of every reachable
pool if each operation keeps it, knowing what the task's journal says of that operation, and the
environment keeps it. -/
theorem Reach.invariant (inv : Hist Op Resp σ → Prop)
    (hjournal : ∀ req, (S.handler req).Journal (P req) (Q req) []) {w₀ : σ} (h₀ : inv ⟨w₀, []⟩)
    (hperform : ∀ {s s' : Hist Op Resp σ} {i : ℕ} {req : ρ} {op : Op} {r : Resp op}, inv s →
      allows s (.perform i req op) → P req (own i s.trace) op → Does S i req op s r s' → inv s')
    (henv : ∀ {s : Hist Op Resp σ} {e : ε} {w : σ}, inv s → allows s (.env e) →
      S.env e s.world = some w → inv ⟨w, s.trace⟩)
    {c : Config Op Resp σ ρ α} (h : Reach S allows ⟨⟨w₀, []⟩, []⟩ c) : inv c.hist := by
  induction h with
  | refl => exact h₀
  | step hreach hallow hstep ih =>
    cases hstep with
    | start req => exact ih
    | perform htask hdoes =>
      exact hperform ih hallow ((hreach.journal hjournal).journal _ _ htask).1 hdoes
    | env he => exact henv ih hallow he

/-- **Once and for ever**: what holds at one moment of a run and is kept from there on holds at
every later moment. -/
theorem Reach.stable (K inv : Hist Op Resp σ → Prop)
    (hjournal : ∀ req, (S.handler req).Journal (P req) (Q req) []) {w₀ : σ}
    (hinv : ∀ {c : Config Op Resp σ ρ α}, Reach S allows ⟨⟨w₀, []⟩, []⟩ c → inv c.hist)
    (hperform : ∀ {s s' : Hist Op Resp σ} {i : ℕ} {req : ρ} {op : Op} {r : Resp op}, inv s → K s →
      allows s (.perform i req op) → P req (own i s.trace) op → Does S i req op s r s' → K s')
    (henv : ∀ {s : Hist Op Resp σ} {e : ε} {w : σ}, inv s → K s → allows s (.env e) →
      S.env e s.world = some w → K ⟨w, s.trace⟩)
    {c c' : Config Op Resp σ ρ α} (h : Reach S allows ⟨⟨w₀, []⟩, []⟩ c) (hK : K c.hist)
    (h' : Reach S allows c c') : K c'.hist := by
  induction h' with
  | refl => exact hK
  | step hreach hallow hstep ih =>
    have hall := h.trans hreach
    cases hstep with
    | start req => exact ih
    | perform htask hdoes =>
      exact hperform (hinv hall) ih hallow ((hall.journal hjournal).journal _ _ htask).1 hdoes
    | env he => exact henv (hinv hall) ih hallow he

end Invariants

/-! ## One program alone -/

section Alone

variable (S : System Op Resp σ ρ α ω ε)

/-- The run of one program by task `i` with nothing else in the pool: the environment may act
before each of its operations and after the last, and nobody else does. -/
inductive Alone (i : ℕ) (req : ρ) :
    Prog Op Resp β → Hist Op Resp σ → β → Hist Op Resp σ → Prop where
  /-- the program returns -/
  | ret (b : β) (s : Hist Op Resp σ) : Alone i req (.ret b) s b s
  /-- the environment acts first -/
  | env {p : Prog Op Resp β} {s s' : Hist Op Resp σ} {e : ε} {w : σ} {b : β}
      (henv : S.env e s.world = some w) (hrest : Alone i req p ⟨w, s.trace⟩ b s') :
      Alone i req p s b s'
  /-- the program performs its next operation -/
  | call {op : Op} {k : Resp op → Prog Op Resp β} {s s₁ s' : Hist Op Resp σ} {r : Resp op}
      {b : β} (hdoes : Does S i req op s r s₁) (hrest : Alone i req (k r) s₁ b s') :
      Alone i req (.call op k) s b s'

/-- Run a program alone with the given choices of the outside, one for each operation. -/
def runAlone (i : ℕ) (req : ρ) :
    Prog Op Resp β → List ω → Hist Op Resp σ → Option (β × Hist Op Resp σ)
  | .ret b, _, s => some (b, s)
  | .call _ _, [], _ => none
  | .call op k, o :: os, s =>
    (S.exec i req o op s.world).bind fun p =>
      runAlone i req (k p.2) os ⟨p.1, ⟨i, op, p.2⟩ :: s.trace⟩

/-- `Q` survives every action of the environment. -/
def EnvStable (Q : Hist Op Resp σ → Prop) : Prop :=
  ∀ s e w, S.env e s.world = some w → Q s → Q ⟨w, s.trace⟩

/-- The weakest precondition of a program that runs alone: `I` is kept by the environment
between its operations, and every value it returns satisfies `Q`. -/
def wp (i : ℕ) (req : ρ) : Prog Op Resp β → (β → Hist Op Resp σ → Prop) → Hist Op Resp σ → Prop
  | .ret b, Q, s => Q b s
  | .call op k, Q, s =>
    ∃ I : Hist Op Resp σ → Prop, EnvStable S I ∧ I s ∧
      ∀ s₁ r s₂, I s₁ → Does S i req op s₁ r s₂ → wp i req (k r) Q s₂

variable {S} {i : ℕ} {req : ρ}

theorem runAlone_alone {p : Prog Op Resp β} :
    ∀ {os : List ω} {s s' : Hist Op Resp σ} {b : β},
      runAlone S i req p os s = some (b, s') → Alone S i req p s b s' := by
  induction p with
  | ret b =>
    intro os s s' b' h
    simp only [runAlone, Option.some.injEq, Prod.mk.injEq] at h
    obtain ⟨rfl, rfl⟩ := h
    exact .ret _ _
  | call op k ih =>
    intro os s s' b' h
    cases os with
    | nil => cases h
    | cons o os =>
      obtain ⟨⟨w, r⟩, hexec, hrest⟩ := Option.bind_eq_some_iff.mp h
      exact .call ⟨o, w, hexec, rfl⟩ (ih r hrest)

theorem wp_mono {Q Q' : β → Hist Op Resp σ → Prop} (hQ : ∀ b s, Q b s → Q' b s)
    {p : Prog Op Resp β} : ∀ {s : Hist Op Resp σ}, wp S i req p Q s → wp S i req p Q' s := by
  induction p with
  | ret b => exact fun h => hQ b _ h
  | call op k ih =>
    rintro s ⟨I, hI, hs, hk⟩
    exact ⟨I, hI, hs, fun s₁ r s₂ h₁ hd => ih r (hk s₁ r s₂ h₁ hd)⟩

theorem wp_bind {p : Prog Op Resp β} {f : β → Prog Op Resp γ}
    {Q : γ → Hist Op Resp σ → Prop} : ∀ {s : Hist Op Resp σ},
      wp S i req (p >>= f) Q s ↔ wp S i req p (fun b s' => wp S i req (f b) Q s') s := by
  induction p with
  | ret b => exact Iff.rfl
  | call op k ih =>
    intro s
    simp only [Prog.call_bind, wp, ih]

/-- What `wp` proves holds of every run alone. -/
theorem Alone.sound {Q : β → Hist Op Resp σ → Prop} (hQ : ∀ b, EnvStable S (Q b))
    {p : Prog Op Resp β} {s s' : Hist Op Resp σ} {b : β} (h : Alone S i req p s b s')
    (hwp : wp S i req p Q s) : Q b s' := by
  induction h with
  | ret b s => exact hwp
  | @env p s s' e w b he _ ih =>
    refine ih ?_
    rcases p with b' | ⟨op, k⟩
    · exact hQ b' s e w he hwp
    · obtain ⟨I, hI, hs, hk⟩ := hwp
      exact ⟨I, hI, hI s e w he hs, hk⟩
  | call hdoes _ ih =>
    obtain ⟨I, -, hs, hk⟩ := hwp
    exact ih (hk _ _ _ hs hdoes)

/-- Two facts about one run. -/
theorem wp_and {Q Q' : β → Hist Op Resp σ → Prop} {p : Prog Op Resp β} :
    ∀ {s : Hist Op Resp σ}, wp S i req p Q s → wp S i req p Q' s →
      wp S i req p (fun b s' => Q b s' ∧ Q' b s') s := by
  induction p with
  | ret b => exact fun h h' => ⟨h, h'⟩
  | call op k ih =>
    rintro s ⟨I, hI, hs, hk⟩ ⟨I', hI', hs', hk'⟩
    refine ⟨fun s => I s ∧ I' s, ?_, ⟨hs, hs'⟩, fun s₁ r s₂ h₁ hdoes =>
      ih r (hk _ _ _ h₁.1 hdoes) (hk' _ _ _ h₁.2 hdoes)⟩
    intro s e w henv h
    exact ⟨hI s e w henv h.1, hI' s e w henv h.2⟩

/-- Of a run nothing need be known. -/
theorem wp_trivial {p : Prog Op Resp β} : ∀ {s : Hist Op Resp σ},
    wp S i req p (fun _ _ => True) s := by
  induction p with
  | ret b => exact trivial
  | call op k ih =>
    exact ⟨fun _ => True, fun _ _ _ _ _ => trivial, trivial, fun _ r _ _ _ => ih r⟩

/-- What every operation of a program keeps holds at its end. -/
theorem Prog.All.alone {O : Op → Prop} {V : β → Prop} {I : Hist Op Resp σ → Prop}
    (hI : EnvStable S I) (hstep : ∀ {op s r s'}, I s → O op → Does S i req op s r s' → I s')
    {p : Prog Op Resp β} : ∀ {s : Hist Op Resp σ}, p.All O V → I s →
      wp S i req p (fun b s' => V b ∧ I s') s := by
  induction p with
  | ret b => exact fun h hs => ⟨h, hs⟩
  | call op k ih =>
    intro s h hs
    exact ⟨I, hI, hs, fun s₁ r s₂ h₁ hdoes => ih r (h.2 r) (hstep h₁ h.1 hdoes)⟩

/-- What the environment may do between two operations. -/
inductive Passes (S : System Op Resp σ ρ α ω ε) (s : Hist Op Resp σ) : Hist Op Resp σ → Prop where
  /-- nothing -/
  | refl : Passes S s s
  /-- one more action -/
  | step {s₁ : Hist Op Resp σ} {e : ε} {w : σ} :
      Passes S s s₁ → S.env e s₁.world = some w → Passes S s ⟨w, s₁.trace⟩

/-- What the environment keeps, it keeps however often it acts. -/
theorem Passes.stable {I : Hist Op Resp σ → Prop} (hI : EnvStable S I) {s s₁ : Hist Op Resp σ}
    (h : Passes S s s₁) (hs : I s) : I s₁ := by
  induction h with
  | refl => exact hs
  | step _ henv ih => exact hI _ _ _ henv ih

/-- The rule of one operation: the environment passes, and the operation answers. -/
theorem wp_perform {op : Op} {Q : Resp op → Hist Op Resp σ → Prop} {s : Hist Op Resp σ}
    (h : ∀ s₁ r s₂, Passes S s s₁ → Does S i req op s₁ r s₂ → Q r s₂) :
    wp S i req (Prog.perform op) Q s := by
  refine ⟨Passes S s, ?_, .refl, h⟩
  intro s₁ e w henv hpasses
  exact hpasses.step henv

/-- A run alone is a run of the pool in which nobody else moves. -/
theorem Alone.reach {p : Prog Op Resp α} {s s' : Hist Op Resp σ} {a : α}
    (h : Alone S i req p s a s') : ∀ {tasks : List (Task Op Resp ρ α)},
      tasks[i]? = some ⟨req, p⟩ → Reach S (fun _ _ => True) ⟨s, tasks⟩
        ⟨s', tasks.set i ⟨req, .ret a⟩⟩ := by
  induction h with
  | ret a s =>
    intro tasks htask
    obtain ⟨hlt, hget⟩ := List.getElem?_eq_some_iff.mp htask
    rw [← hget, List.set_getElem_self]
    exact .refl
  | env henv _ ih =>
    intro tasks htask
    exact (Reach.step .refl trivial (Step.env henv)).trans (ih htask)
  | @call op k s s₁ s' r a hdoes _ ih =>
    intro tasks htask
    have hlt : i < tasks.length := (List.getElem?_eq_some_iff.mp htask).1
    have hrest := ih (List.getElem?_set_self (a := (⟨req, k r⟩ : Task Op Resp ρ α)) hlt)
    rw [List.set_set] at hrest
    exact (Reach.step .refl trivial (Step.perform (c := ⟨s, tasks⟩) htask hdoes)).trans hrest

end Alone

/-! ### Alone, for a program that may fail -/

section HandlersAlone

variable (S : System Op Resp σ ρ α ω ε) (i : ℕ) (req : ρ) {τ : Type}

/-- The weakest precondition of a program that may fail and runs alone: `ok` of every value it
returns and `err` of every error it ends in. -/
def Handler.wp (ok : β → Hist Op Resp σ → Prop) (err : τ → Hist Op Resp σ → Prop)
    (x : Handler Op Resp τ β) (s : Hist Op Resp σ) : Prop :=
  Interleave.wp S i req x.run (Ends ok err) s

variable {S i req} {ok : β → Hist Op Resp σ → Prop} {err : τ → Hist Op Resp σ → Prop}
variable {s : Hist Op Resp σ}

theorem Handler.wp_pure (b : β) :
    Handler.wp S i req ok err (pure b : Handler Op Resp τ β) s ↔ ok b s := Iff.rfl

theorem Handler.wp_throw (e : τ) :
    Handler.wp S i req ok err (throw e : Handler Op Resp τ β) s ↔ err e s := Iff.rfl

theorem Handler.wp_bind {x : Handler Op Resp τ γ} {f : γ → Handler Op Resp τ β} :
    Handler.wp S i req ok err (x >>= f) s ↔
      Handler.wp S i req (fun a s' => Handler.wp S i req ok err (f a) s') err x s := by
  rw [Handler.wp, ExceptT.run_bind, Interleave.wp_bind]
  constructor <;> refine wp_mono ?_ <;> rintro (e | a) s' h <;> exact h

/-- A computation that touches nothing. -/
theorem Handler.wp_lift {x : Except τ β} :
    Handler.wp S i req ok err (liftM x : Handler Op Resp τ β) s ↔ Ends ok err x s := by
  rcases x with e | b <;> exact Iff.rfl

theorem Handler.wp_tryCatch {x : Handler Op Resp τ β} {h : τ → Handler Op Resp τ β} :
    Handler.wp S i req ok err (tryCatch x h) s ↔
      Handler.wp S i req ok (fun e s' => Handler.wp S i req ok err (h e) s') x s := by
  rw [Handler.wp]
  change Interleave.wp S i req (x.run >>= _) _ s ↔ _
  rw [Interleave.wp_bind]
  constructor <;> refine wp_mono ?_ <;> rintro (e | b) s' h <;> exact h

theorem Handler.wp_mono {ok' : β → Hist Op Resp σ → Prop} {err' : τ → Hist Op Resp σ → Prop}
    {x : Handler Op Resp τ β} (hok : ∀ b s', ok b s' → ok' b s')
    (herr : ∀ e s', err e s' → err' e s') (h : Handler.wp S i req ok err x s) :
    Handler.wp S i req ok' err' x s := by
  refine Interleave.wp_mono ?_ h
  rintro (e | b) s' hq
  · exact herr e s' hq
  · exact hok b s' hq

/-- Two facts about one run. -/
theorem Handler.wp_and {ok' : β → Hist Op Resp σ → Prop} {err' : τ → Hist Op Resp σ → Prop}
    {x : Handler Op Resp τ β} (h : Handler.wp S i req ok err x s)
    (h' : Handler.wp S i req ok' err' x s) : Handler.wp S i req
      (fun b s' => ok b s' ∧ ok' b s') (fun e s' => err e s' ∧ err' e s') x s := by
  refine Interleave.wp_mono ?_ (Interleave.wp_and h h')
  rintro (e | b) s' hend <;> exact hend

/-- A program whose outcome is a value, whichever way it ends. -/
theorem Handler.wp_run {x : Handler Op Resp τ β} {ok : Except τ β → Hist Op Resp σ → Prop} :
    Handler.wp S i req ok err (ExceptT.lift x.run) s ↔
      Handler.wp S i req (fun b => ok (.ok b)) (fun e => ok (.error e)) x s := by
  rw [Handler.wp]
  change Interleave.wp S i req (x.run >>= _) _ s ↔ _
  rw [Interleave.wp_bind]
  constructor <;> refine Interleave.wp_mono ?_ <;> rintro (e | b) s' h <;> exact h

/-- Of a run nothing need be known. -/
theorem Handler.wp_trivial {x : Handler Op Resp τ β} :
    Handler.wp S i req (fun _ _ => True) (fun _ _ => True) x s := by
  refine Interleave.wp_mono ?_ Interleave.wp_trivial
  rintro (e | b) s' hend <;> exact hend

/-- What every operation of a handler keeps holds when it has ended. -/
theorem Handler.Acts.alone {O : Op → Prop} {I : Hist Op Resp σ → Prop} (hI : EnvStable S I)
    (hstep : ∀ {op s r s'}, I s → O op → Does S i req op s r s' → I s') {x : Handler Op Resp τ β}
    (h : Handler.Acts O x) (hs : I s) : Handler.wp S i req (fun _ => I) (fun _ => I) x s := by
  refine Interleave.wp_mono ?_ (h.all.alone hI hstep hs)
  rintro (e | b) s' hend <;> exact hend.2

end HandlersAlone

/-! ## One program amid others -/

section Amid

variable (S : System Op Resp σ ρ α ω ε) (rely : Hist Op Resp σ → Hist Op Resp σ → Prop) (i : ℕ)
  (req : ρ) (P : Hist Op Resp σ → (op : Op) → Prop)

/-- `Q` survives whatever the others may do. -/
def Stable (Q : Hist Op Resp σ → Prop) : Prop :=
  ∀ s s', rely s s' → Q s → Q s'

/-- The weakest precondition of a program that runs amid others, of which it relies on `rely`
only: `P` of every operation at the moment it is performed, and `Q` of every value returned. -/
def Amid : Prog Op Resp β → (β → Hist Op Resp σ → Prop) → Hist Op Resp σ → Prop
  | .ret b, Q, s => Q b s
  | .call op k, Q, s =>
    ∃ I : Hist Op Resp σ → Prop, Stable rely I ∧ I s ∧
      ∀ s₁ r s₂, I s₁ → Does S i req op s₁ r s₂ → P s₁ op ∧ Amid (k r) Q s₂

variable {S rely i req P}

theorem amid_mono {Q Q' : β → Hist Op Resp σ → Prop} (hQ : ∀ b s, Q b s → Q' b s)
    {p : Prog Op Resp β} :
    ∀ {s : Hist Op Resp σ}, Amid S rely i req P p Q s → Amid S rely i req P p Q' s := by
  induction p with
  | ret b => exact fun h => hQ b _ h
  | call op k ih =>
    rintro s ⟨I, hI, hs, hk⟩
    exact ⟨I, hI, hs, fun s₁ r s₂ h₁ hd => ⟨(hk s₁ r s₂ h₁ hd).1, ih r (hk s₁ r s₂ h₁ hd).2⟩⟩

theorem amid_bind {p : Prog Op Resp β} {f : β → Prog Op Resp γ}
    {Q : γ → Hist Op Resp σ → Prop} : ∀ {s : Hist Op Resp σ},
      Amid S rely i req P (p >>= f) Q s ↔
        Amid S rely i req P p (fun b s' => Amid S rely i req P (f b) Q s') s := by
  induction p with
  | ret b => exact Iff.rfl
  | call op k ih =>
    intro s
    simp only [Prog.call_bind, Amid, ih]

/-- What the others do before a program's next move does not harm it. -/
theorem Amid.stable {p : Prog Op Resp β} {Q : β → Hist Op Resp σ → Prop}
    (hQ : ∀ b, Stable rely (Q b)) : Stable rely (Amid S rely i req P p Q) := by
  intro s s' hrely h
  cases p with
  | ret b => exact hQ b s s' hrely h
  | call op k =>
    obtain ⟨I, hI, hs, hk⟩ := h
    exact ⟨I, hI, hI s s' hrely hs, hk⟩

/-- What every operation of a program keeps, whatever it is answered, holds at its end. -/
theorem Prog.All.amid {O : Op → Prop} {V : β → Prop} {I : Hist Op Resp σ → Prop}
    (hI : Stable rely I)
    (hstep : ∀ {op s r s'}, I s → O op → Does S i req op s r s' → P s op ∧ I s')
    {p : Prog Op Resp β} : ∀ {s : Hist Op Resp σ}, p.All O V → I s →
      Amid S rely i req P p (fun b s' => V b ∧ I s') s := by
  induction p with
  | ret b => exact fun h hs => ⟨h, hs⟩
  | call op k ih =>
    intro s h hs
    exact ⟨I, hI, hs, fun s₁ r s₂ h₁ hdoes => ⟨(hstep h₁ h.1 hdoes).1,
      ih r (h.2 r) (hstep h₁ h.1 hdoes).2⟩⟩

/-- A run alone is a run amid others that do what the environment does. -/
theorem Alone.amid (henv : ∀ {s : Hist Op Resp σ} {e : ε} {w : σ}, S.env e s.world = some w →
      rely s ⟨w, s.trace⟩) {Q : β → Hist Op Resp σ → Prop} (hQ : ∀ b, Stable rely (Q b))
    {p : Prog Op Resp β} {s s' : Hist Op Resp σ} {b : β} (h : Alone S i req p s b s')
    (hp : Amid S rely i req P p Q s) : Q b s' := by
  induction h with
  | ret b s => exact hp
  | env he _ ih => exact ih (Amid.stable hQ _ _ (henv he) hp)
  | call hdoes _ ih =>
    obtain ⟨I, -, hs, hk⟩ := hp
    exact ih (hk _ _ _ hs hdoes).2

/-- **Rely and guarantee.** `past` is what is assumed of the run, `O` what is known of the
operations of the other tasks. If under both the others do what the program relies on, then the
program is at every moment of the run where its `Amid` says. -/
theorem Reach.amid (past : List (Entry Op Resp) → Prop) (O : Op → Prop)
    {allows : Hist Op Resp σ → Move Op ρ ε → Prop}
    (hpast : ∀ e tr, past (e :: tr) → past tr)
    (hstart : ∀ s req', allows s (.start req') → (S.handler req').All O fun _ => True)
    (hothers : ∀ {s s' : Hist Op Resp σ} {j : ℕ} {req' : ρ} {op : Op} {r : Resp op}, j ≠ i → O op →
      past s'.trace → Does S j req' op s r s' → rely s s')
    (henv : ∀ {s : Hist Op Resp σ} {e : ε} {w : σ}, S.env e s.world = some w →
      rely s ⟨w, s.trace⟩)
    {p : Prog Op Resp α} {Q : α → Hist Op Resp σ → Prop} (hQ : ∀ b, Stable rely (Q b))
    {c c' : Config Op Resp σ ρ α} (h : Reach S allows c c') (hi : c.tasks[i]? = some ⟨req, p⟩)
    (hrest : ∀ j t, j ≠ i → c.tasks[j]? = some t → t.rest.All O fun _ => True)
    (hp : Amid S rely i req P p Q c.hist) (hc' : past c'.hist.trace) :
    (∃ p', c'.tasks[i]? = some ⟨req, p'⟩ ∧ Amid S rely i req P p' Q c'.hist) ∧
      ∀ j t, j ≠ i → c'.tasks[j]? = some t → t.rest.All O fun _ => True := by
  induction h with
  | refl => exact ⟨⟨p, hi, hp⟩, hrest⟩
  | @step c₁ c₂ m _ hallow hstep ih =>
    cases hstep with
    | start req' =>
      obtain ⟨⟨p', hi', hp'⟩, hrest'⟩ := ih hc'
      refine ⟨⟨p', ?_, hp'⟩, fun j t hj ht => ?_⟩
      · rwa [List.getElem?_append_left (List.getElem?_eq_some_iff.mp hi').1]
      · rw [List.getElem?_append] at ht
        split at ht
        · exact hrest' j t hj ht
        · obtain ⟨-, rfl⟩ : j - c₁.tasks.length = 0 ∧ _ = t := by
            simpa [List.getElem?_singleton] using ht
          exact hstart _ _ hallow
    | @perform j req' op k r s' htask hdoes =>
      have hc₁ : past c₁.hist.trace := by
        obtain ⟨o, w, -, rfl⟩ := hdoes
        exact hpast _ _ hc'
      obtain ⟨⟨p', hi', hp'⟩, hrest'⟩ := ih hc₁
      have hlt := (List.getElem?_eq_some_iff.mp htask).1
      by_cases hj : j = i
      · subst hj
        obtain ⟨rfl, rfl⟩ : req' = req ∧ Prog.call op k = p' := by
          rw [htask] at hi'
          simpa using hi'
        obtain ⟨I, -, hs, hk⟩ := hp'
        refine ⟨⟨k r, List.getElem?_set_self hlt, (hk _ _ _ hs hdoes).2⟩, fun j' t hj' ht => ?_⟩
        rw [List.getElem?_set_ne (Ne.symm hj')] at ht
        exact hrest' j' t hj' ht
      · have hall := hrest' j _ hj htask
        refine ⟨⟨p', ?_, Amid.stable hQ _ _ (hothers hj hall.1 hc' hdoes) hp'⟩,
          fun j' t hj' ht => ?_⟩
        · rwa [List.getElem?_set_ne hj]
        · by_cases hjj : j = j'
          · subst hjj
            rw [List.getElem?_set_self hlt] at ht
            obtain rfl := Option.some.inj ht
            exact hall.2 r
          · rw [List.getElem?_set_ne hjj] at ht
            exact hrest' j' t hj' ht
    | env he =>
      obtain ⟨⟨p', hi', hp'⟩, hrest'⟩ := ih hc'
      exact ⟨⟨p', hi', Amid.stable hQ _ _ (henv he) hp'⟩, hrest'⟩

variable (S rely i req P) {τ : Type}

/-- The same of a program that may fail: `ok` of every value it returns and `err` of every error
it ends in. -/
def Handler.Amid (ok : β → Hist Op Resp σ → Prop) (err : τ → Hist Op Resp σ → Prop)
    (x : Handler Op Resp τ β) (s : Hist Op Resp σ) : Prop :=
  Interleave.Amid S rely i req P x.run (Ends ok err) s

variable {S rely i req P} {ok : β → Hist Op Resp σ → Prop} {err : τ → Hist Op Resp σ → Prop}
variable {s : Hist Op Resp σ}

theorem Handler.amid_pure (b : β) :
    Handler.Amid S rely i req P ok err (pure b : Handler Op Resp τ β) s ↔ ok b s := Iff.rfl

theorem Handler.amid_throw (e : τ) :
    Handler.Amid S rely i req P ok err (throw e : Handler Op Resp τ β) s ↔ err e s := Iff.rfl

theorem Handler.amid_bind {x : Handler Op Resp τ γ} {f : γ → Handler Op Resp τ β} :
    Handler.Amid S rely i req P ok err (x >>= f) s ↔ Handler.Amid S rely i req P
      (fun a s' => Handler.Amid S rely i req P ok err (f a) s') err x s := by
  rw [Handler.Amid, ExceptT.run_bind, Interleave.amid_bind]
  constructor <;> refine amid_mono ?_ <;> rintro (e | a) s' h <;> exact h

theorem Handler.amid_tryCatch {x : Handler Op Resp τ β} {h : τ → Handler Op Resp τ β} :
    Handler.Amid S rely i req P ok err (tryCatch x h) s ↔ Handler.Amid S rely i req P ok
      (fun e s' => Handler.Amid S rely i req P ok err (h e) s') x s := by
  rw [Handler.Amid]
  change Interleave.Amid S rely i req P (x.run >>= _) _ s ↔ _
  rw [Interleave.amid_bind]
  constructor <;> refine amid_mono ?_ <;> rintro (e | b) s' h <;> exact h

theorem Handler.amid_mono {ok' : β → Hist Op Resp σ → Prop} {err' : τ → Hist Op Resp σ → Prop}
    {x : Handler Op Resp τ β} (hok : ∀ b s', ok b s' → ok' b s')
    (herr : ∀ e s', err e s' → err' e s') (h : Handler.Amid S rely i req P ok err x s) :
    Handler.Amid S rely i req P ok' err' x s := by
  refine Interleave.amid_mono ?_ h
  rintro (e | b) s' hq
  · exact herr e s' hq
  · exact hok b s' hq

end Amid

/-! ## Looking back along a trace -/

/-- The part of a newest-first trace after the last entry satisfying `mark`. -/
def since (mark : Entry Op Resp → Bool) (tr : List (Entry Op Resp)) : List (Entry Op Resp) :=
  tr.takeWhile fun e => !mark e

theorem since_cons_of_mark {mark : Entry Op Resp → Bool} {e : Entry Op Resp}
    (h : mark e = true) (tr : List (Entry Op Resp)) : since mark (e :: tr) = [] := by
  simp [since, h]

theorem since_cons_of_not_mark {mark : Entry Op Resp → Bool} {e : Entry Op Resp}
    (h : mark e = false) (tr : List (Entry Op Resp)) :
    since mark (e :: tr) = e :: since mark tr := by
  simp [since, h]

theorem since_append {mark : Entry Op Resp → Bool} {later : List (Entry Op Resp)}
    {e : Entry Op Resp} (hlater : ∀ e' ∈ later, mark e' = false) (he : mark e = true)
    (earlier : List (Entry Op Resp)) : since mark (later ++ e :: earlier) = later := by
  induction later with
  | nil => exact since_cons_of_mark he earlier
  | cons e' later ih =>
    rw [List.cons_append, since_cons_of_not_mark (hlater e' (List.mem_cons_self ..)),
      ih fun e hmem => hlater e (List.mem_cons_of_mem _ hmem)]

/-- The newest line of a task's journal splits the trace: nothing later is by that task. -/
theorem own_eq_cons {i : ℕ} {l : Line Op Resp} {rest : List (Line Op Resp)} :
    ∀ {tr : List (Entry Op Resp)}, own i tr = l :: rest →
      ∃ later earlier, tr = later ++ ⟨i, l.op, l.resp⟩ :: earlier ∧ own i earlier = rest ∧
        ∀ e ∈ later, e.task ≠ i
  | [], h => by cases h
  | e :: tr, h => by
    by_cases he : e.task = i
    · subst he
      rw [own_cons_self] at h
      obtain ⟨rfl, hrest⟩ := List.cons.inj h
      exact ⟨[], tr, rfl, hrest, fun _ h => absurd h List.not_mem_nil⟩
    · rw [own_cons_ne he] at h
      obtain ⟨later, earlier, rfl, hrest, hlater⟩ := own_eq_cons h
      refine ⟨e :: later, earlier, rfl, hrest, fun e' he' => ?_⟩
      rcases List.mem_cons.mp he' with rfl | he'
      · exact he
      · exact hlater e' he'

/-- So does any other line of it. -/
theorem own_eq_append_cons {i : ℕ} {l : Line Op Resp} {rest : List (Line Op Resp)} :
    ∀ (newer : List (Line Op Resp)) {tr : List (Entry Op Resp)}, own i tr = newer ++ l :: rest →
      ∃ later earlier, tr = later ++ ⟨i, l.op, l.resp⟩ :: earlier ∧ own i earlier = rest
  | [], _, h => by
    obtain ⟨later, earlier, htr, hrest, -⟩ := own_eq_cons h
    exact ⟨later, earlier, htr, hrest⟩
  | _ :: newer, _, h => by
    obtain ⟨later, tr', rfl, hrest, -⟩ := own_eq_cons h
    obtain ⟨later', earlier, rfl, hrest'⟩ := own_eq_append_cons newer hrest
    exact ⟨later ++ _ :: later', earlier, by rw [List.append_assoc]; rfl, hrest'⟩

/-! ### What was read, until it is disturbed -/

section Undisturbed

variable {τ : Type} {reads : Entry Op Resp → τ → Prop} {disturbs : τ → Entry Op Resp → Prop}
variable {fact : τ → Hist Op Resp σ → Prop}

/-- What was read holds for as long as nothing that disturbs it is done. -/
def Undisturbed (reads : Entry Op Resp → τ → Prop) (disturbs : τ → Entry Op Resp → Prop)
    (fact : τ → Hist Op Resp σ → Prop) (s : Hist Op Resp σ) : Prop :=
  ∀ later e earlier x, s.trace = later ++ e :: earlier → reads e x →
    (∀ e' ∈ later, ¬ disturbs x e') → fact x s

theorem Undisturbed.initial (w : σ) : Undisturbed reads disturbs fact ⟨w, []⟩ := by
  intro later e earlier x heq
  cases later <;> cases heq

/-- The step lemma: what is read now holds, and what does not disturb keeps what was read. -/
theorem Undisturbed.perform {s : Hist Op Resp σ} (h : Undisturbed reads disturbs fact s) {w : σ}
    {e : Entry Op Resp} (hread : ∀ x, reads e x → fact x ⟨w, e :: s.trace⟩)
    (hkeep : ∀ x, ¬ disturbs x e → fact x s → fact x ⟨w, e :: s.trace⟩) :
    Undisturbed reads disturbs fact ⟨w, e :: s.trace⟩ := by
  intro later e' earlier x heq hreads hlater
  rcases later with _ | ⟨e₁, later⟩
  · obtain ⟨rfl, rfl⟩ := List.cons.inj heq
    exact hread x hreads
  · obtain ⟨rfl, htail⟩ := List.cons.inj heq
    refine hkeep x (hlater e (List.mem_cons_self ..)) ?_
    exact h later e' earlier x htail hreads fun e₂ he₂ => hlater e₂ (List.mem_cons_of_mem _ he₂)

theorem Undisturbed.world {s : Hist Op Resp σ} (h : Undisturbed reads disturbs fact s) {w : σ}
    (hkeep : ∀ x, fact x s → fact x ⟨w, s.trace⟩) :
    Undisturbed reads disturbs fact ⟨w, s.trace⟩ :=
  fun later e earlier x heq hreads hlater => hkeep x (h later e earlier x heq hreads hlater)

end Undisturbed

/-! ## Runs with the outside fixed

With the outside fixed, an operation is a partial function of the state: it answers, or it has to
wait. A program `Carries` a postcondition where it ends in it. One that does the same from two
states is `Alike` there; the rules take the two runs step by step together.
-/

section Carry

variable (f : (op : Op) → σ → Option (σ × Resp op))

/-- Carry out a program whose operations mean `f`, unless one of them has to wait. -/
def Prog.carry : Prog Op Resp α → σ → Option (α × σ)
  | .ret a, s => some (a, s)
  | .call op k, s => (f op s).bind fun p => (k p.2).carry p.1

variable {f}

theorem Prog.carry_bind {p : Prog Op Resp α} {g : α → Prog Op Resp β} : ∀ {s : σ},
    (p >>= g).carry f s = (p.carry f s).bind fun r => (g r.1).carry f r.2 := by
  induction p with
  | ret a => exact rfl
  | call op k ih =>
    intro s
    simp only [Prog.call_bind, Prog.carry, ih, Option.bind_assoc]

theorem Handler.carry_bind_ok {τ : Type} {x : Handler Op Resp τ α} {g : α → Handler Op Resp τ β}
    {s t : σ} {a : α} (h : x.run.carry f s = some (.ok a, t)) :
    (x >>= g).run.carry f s = (g a).run.carry f t := by
  rw [ExceptT.run_bind, Prog.carry_bind, h]
  rfl

theorem Handler.carry_bind_error {τ : Type} {x : Handler Op Resp τ α} {g : α → Handler Op Resp τ β}
    {s t : σ} {e : τ} (h : x.run.carry f s = some (.error e, t)) :
    (x >>= g).run.carry f s = some (.error e, t) := by
  rw [ExceptT.run_bind, Prog.carry_bind, h]
  rfl

/-- What is carried out is a run alone, where the outside may choose what `f` does. -/
theorem Prog.carry_alone {S : System Op Resp σ ρ α ω ε} {i : ℕ} {req : ρ}
    (hf : ∀ op s r, f op s = some r → ∃ o, S.exec i req o op s = some r) {p : Prog Op Resp β} :
    ∀ {s s' : σ} {b : β} (tr : List (Entry Op Resp)), p.carry f s = some (b, s') →
      ∃ tr', Alone S i req p ⟨s, tr⟩ b ⟨s', tr'⟩ := by
  induction p with
  | ret b =>
    intro s s' b' tr h
    obtain ⟨rfl, rfl⟩ := Prod.mk.inj (Option.some.inj h)
    exact ⟨tr, .ret _ _⟩
  | call op k ih =>
    intro s s' b tr h
    obtain ⟨⟨t, r⟩, hdoes, hrest⟩ := Option.bind_eq_some_iff.mp h
    obtain ⟨o, hexec⟩ := hf op s _ hdoes
    obtain ⟨tr', halone⟩ := ih r (⟨i, op, r⟩ :: tr) hrest
    exact ⟨tr', .call ⟨o, t, hexec, rfl⟩ halone⟩

/-- What every operation keeps, a program keeps. -/
theorem Prog.carry_keeps (inv : σ → Prop) (hf : ∀ op s p, f op s = some p → inv s → inv p.1)
    {p : Prog Op Resp β} : ∀ {s t : σ} {b : β}, p.carry f s = some (b, t) → inv s → inv t := by
  induction p with
  | ret b =>
    intro s t b' h hs
    obtain ⟨rfl, rfl⟩ := Prod.mk.inj (Option.some.inj h)
    exact hs
  | call op k ih =>
    intro s t b h hs
    obtain ⟨q, hdoes, hrest⟩ := Option.bind_eq_some_iff.mp h
    exact ih q.2 hrest (hf op s q hdoes hs)

/-! ### One run -/

variable (f) {τ : Type}

/-- The program ends, and `Q` holds of what it answers and of the state it leaves. -/
def Prog.Carries (Q : β → σ → Prop) (p : Prog Op Resp β) (s : σ) : Prop :=
  ∃ b t, p.carry f s = some (b, t) ∧ Q b t

/-- The same of a program that may fail: `ok` of a value, `err` of an error. -/
def Handler.Carries (ok : β → σ → Prop) (err : τ → σ → Prop) (x : Handler Op Resp τ β) (s : σ) :
    Prop :=
  Prog.Carries f (Ends ok err) x.run s

section One

variable {f} {ok : β → σ → Prop} {err : τ → σ → Prop} {s t : σ}

theorem Prog.carries_bind {Q : γ → σ → Prop} {p : Prog Op Resp β} {g : β → Prog Op Resp γ}
    (h : p.Carries f (fun b t => (g b).Carries f Q t) s) : (p >>= g).Carries f Q s := by
  obtain ⟨b, t, hb, c, u, hc, hQ⟩ := h
  refine ⟨c, u, ?_, hQ⟩
  rw [Prog.carry_bind, hb]
  exact hc

theorem Prog.Carries.mono {Q Q' : β → σ → Prop} {p : Prog Op Resp β} (h : p.Carries f Q s)
    (hQ : ∀ b t, Q b t → Q' b t) : p.Carries f Q' s := by
  obtain ⟨b, t, hb, hend⟩ := h
  exact ⟨b, t, hb, hQ b t hend⟩

theorem Handler.carries_pure {b : β} (h : ok b s) :
    Handler.Carries f ok err (pure b : Handler Op Resp τ β) s :=
  ⟨.ok b, s, rfl, h⟩

theorem Handler.carries_throw {e : τ} (h : err e s) :
    Handler.Carries f ok err (throw e : Handler Op Resp τ β) s :=
  ⟨.error e, s, rfl, h⟩

theorem Handler.carries_bind {x : Handler Op Resp τ γ} {g : γ → Handler Op Resp τ β}
    (h : Handler.Carries f (fun c t => Handler.Carries f ok err (g c) t) err x s) :
    Handler.Carries f ok err (x >>= g) s := by
  rw [Handler.Carries, ExceptT.run_bind]
  refine Prog.carries_bind (Prog.Carries.mono h ?_)
  rintro (e | c) t hend
  · exact ⟨.error e, t, rfl, hend⟩
  · exact hend

theorem Handler.Carries.mono {ok' : β → σ → Prop} {err' : τ → σ → Prop} {x : Handler Op Resp τ β}
    (h : Handler.Carries f ok err x s) (hok : ∀ b t, ok b t → ok' b t)
    (herr : ∀ e t, err e t → err' e t) : Handler.Carries f ok' err' x s := by
  refine Prog.Carries.mono h ?_
  rintro (e | b) t hend
  · exact herr e t hend
  · exact hok b t hend

theorem Handler.carries_lift {x : Except τ β} (hok : ∀ b, x = .ok b → ok b s)
    (herr : ∀ e, x = .error e → err e s) :
    Handler.Carries f ok err (liftM x : Handler Op Resp τ β) s := by
  cases x with
  | error e => exact Handler.carries_throw (herr e rfl)
  | ok b => exact Handler.carries_pure (hok b rfl)

/-- A computation that touches nothing comes first. -/
theorem Handler.carries_lift_bind {x : Except τ γ} {g : γ → Handler Op Resp τ β}
    (hok : ∀ c, x = .ok c → Handler.Carries f ok err (g c) s)
    (herr : ∀ e, x = .error e → err e s) :
    Handler.Carries f ok err ((liftM x : Handler Op Resp τ γ) >>= g) s :=
  Handler.carries_bind (Handler.carries_lift hok herr)

/-- What is caught goes on in the state the failure left. -/
theorem Handler.carries_tryCatch {x : Handler Op Resp τ β} {g : τ → Handler Op Resp τ β}
    (h : Handler.Carries f ok (fun e t => Handler.Carries f ok err (g e) t) x s) :
    Handler.Carries f ok err (tryCatch x g) s := by
  change Prog.Carries f _ (x.run >>= _) s
  refine Prog.carries_bind (Prog.Carries.mono h ?_)
  rintro (e | b) t hend
  · exact hend
  · exact ⟨.ok b, t, rfl, hend⟩

end One

/-! ### Two runs -/

/-- From both states of a pair the program ends with one answer, and `Q` holds of that answer and
the states the two runs end in. -/
def Prog.Alike (Q : β → σ × σ → Prop) (p : Prog Op Resp β) (s : σ × σ) : Prop :=
  ∃ b t, p.carry f s.1 = some (b, t.1) ∧ p.carry f s.2 = some (b, t.2) ∧ Q b t

/-- The same of a program that may fail: `ok` of a value, `err` of an error. -/
def Handler.Alike (ok : β → σ × σ → Prop) (err : τ → σ × σ → Prop) (x : Handler Op Resp τ β)
    (s : σ × σ) : Prop :=
  Prog.Alike f (Ends ok err) x.run s

variable {f} {ok : β → σ × σ → Prop} {err : τ → σ × σ → Prop} {s t : σ × σ}

theorem Prog.alike_bind {Q : γ → σ × σ → Prop} {p : Prog Op Resp β} {g : β → Prog Op Resp γ}
    (h : p.Alike f (fun b t => (g b).Alike f Q t) s) : (p >>= g).Alike f Q s := by
  obtain ⟨b, t, h₁, h₂, c, u, hc₁, hc₂, hQ⟩ := h
  refine ⟨c, u, ?_, ?_, hQ⟩
  · rw [Prog.carry_bind, h₁]
    exact hc₁
  · rw [Prog.carry_bind, h₂]
    exact hc₂

theorem Prog.Alike.mono {Q Q' : β → σ × σ → Prop} {p : Prog Op Resp β} (h : p.Alike f Q s)
    (hQ : ∀ b t, Q b t → Q' b t) : p.Alike f Q' s := by
  obtain ⟨b, t, h₁, h₂, hend⟩ := h
  exact ⟨b, t, h₁, h₂, hQ b t hend⟩

theorem Handler.alike_pure {b : β} (h : ok b s) :
    Handler.Alike f ok err (pure b : Handler Op Resp τ β) s :=
  ⟨.ok b, s, rfl, rfl, h⟩

theorem Handler.alike_throw {e : τ} (h : err e s) :
    Handler.Alike f ok err (throw e : Handler Op Resp τ β) s :=
  ⟨.error e, s, rfl, rfl, h⟩

theorem Handler.alike_bind {x : Handler Op Resp τ γ} {g : γ → Handler Op Resp τ β}
    (h : Handler.Alike f (fun c t => Handler.Alike f ok err (g c) t) err x s) :
    Handler.Alike f ok err (x >>= g) s := by
  rw [Handler.Alike, ExceptT.run_bind]
  refine Prog.alike_bind (Prog.Alike.mono h ?_)
  rintro (e | c) t hend
  · exact ⟨.error e, t, rfl, rfl, hend⟩
  · exact hend

/-- A computation that touches nothing comes first. -/
theorem Handler.alike_lift_bind {x : Except τ γ} {g : γ → Handler Op Resp τ β}
    (hok : ∀ c, x = .ok c → Handler.Alike f ok err (g c) s) (herr : ∀ e, x = .error e → err e s) :
    Handler.Alike f ok err ((liftM x : Handler Op Resp τ γ) >>= g) s := by
  apply Handler.alike_bind
  cases x with
  | error e => exact Handler.alike_throw (herr e rfl)
  | ok c => exact Handler.alike_pure (hok c rfl)

/-- A handler that changes nothing and ends the same in both runs. -/
theorem Handler.alike_read {x : Handler Op Resp τ β} {r : Except τ β}
    (h₁ : x.run.carry f s.1 = some (r, s.1)) (h₂ : x.run.carry f s.2 = some (r, s.2))
    (h : Ends ok err r s) : Handler.Alike f ok err x s :=
  ⟨r, s, h₁, h₂, h⟩

/-- Values that differ do not matter where the rest is the same for both. -/
theorem Handler.alike_apart {x : Handler Op Resp τ γ} {g : γ → Handler Op Resp τ β} {c₁ c₂ : γ}
    (h₁ : x.run.carry f s.1 = some (.ok c₁, t.1)) (h₂ : x.run.carry f s.2 = some (.ok c₂, t.2))
    (hrest : g c₁ = g c₂) (h : Handler.Alike f ok err (g c₁) t) :
    Handler.Alike f ok err (x >>= g) s := by
  obtain ⟨b, u, hu₁, hu₂, hend⟩ := h
  refine ⟨b, u, ?_, ?_, hend⟩
  · rw [Handler.carry_bind_ok h₁]
    exact hu₁
  · rw [Handler.carry_bind_ok h₂, ← hrest]
    exact hu₂

end Carry

end Interleave
