import Mathlib.Data.Nat.Init
import TransitBpp.Desk

/-!
# What comes about in the end

Runs that never end, of a pool and of an office, and what comes about in every fair one of them.
Fairness is weak: nobody stays where it is for ever while it could go on at every moment.
`Endless.answers` is the rule for pools: a task returns if no operation it waits at stays blocked
for ever, by induction on what is left of its program. `EndlessOffice.closes` carries that to the
exchanges of a desk: one whose task returns is closed.
-/

namespace Interleave

variable {Op : Type} {Resp : Op → Type} {σ ρ α ω ε π τ β ν κ : Type}

/-! ## Pools -/

section Pools

variable (S : System Op Resp σ ρ α ω ε) (allows : Hist Op Resp σ → Move Op ρ ε → Prop)

/-- Pools, one after another for ever: between two of them there is one allowed move, or none. -/
def Endless (pools : ℕ → Config Op Resp σ ρ α) : Prop :=
  ∀ n, pools (n + 1) = pools n ∨
    ∃ m, allows (pools n).hist m ∧ Step S (pools n) m (pools (n + 1))

/-- Task `i` can perform its next operation. -/
def Config.CanGo (c : Config Op Resp σ ρ α) (i : ℕ) : Prop :=
  ∃ req op k o p, c.tasks[i]? = some ⟨req, .call op k⟩ ∧ S.exec i req o op c.hist.world = some p

/-- Task `i` does not stay where it is for ever while it can go on. -/
def FairTo (pools : ℕ → Config Op Resp σ ρ α) (i : ℕ) : Prop :=
  ∀ n t, (∀ m, n ≤ m → (pools m).tasks[i]? = some t) → ¬ ∀ m, n ≤ m → (pools m).CanGo S i

variable {S} {allows} {pools : ℕ → Config Op Resp σ ρ α} {c c' c₀ : Config Op Resp σ ρ α}
variable {i n : ℕ} {req : ρ} {rest : Prog Op Resp α} {pm : Move Op ρ ε}

/-- A move leaves a task where it is, or takes it one operation further. -/
theorem Step.moves (h : Step S c pm c') (ht : c.tasks[i]? = some ⟨req, rest⟩) :
    c'.tasks[i]? = some ⟨req, rest⟩ ∨
      ∃ op k r, rest = .call op k ∧ c'.tasks[i]? = some ⟨req, k r⟩ := by
  have hlt := (List.getElem?_eq_some_iff.mp ht).1
  cases h with
  | start _ => exact .inl (by rw [List.getElem?_append_left hlt]; exact ht)
  | @perform j _ op k r _ htask _ =>
    by_cases hij : i = j
    · subst hij
      obtain ⟨rfl, rfl⟩ := Task.mk.inj (Option.some.inj (ht.symm.trans htask))
      exact .inr ⟨op, k, r, rfl, List.getElem?_set_self hlt⟩
    · exact .inl (by rw [List.getElem?_set_ne (Ne.symm hij)]; exact ht)
  | env _ => exact .inl ht

/-- All of a run is reachable from where it starts. -/
theorem Endless.reach (h : Endless S allows pools) (h₀ : Reach S allows c₀ (pools 0)) :
    Reach S allows c₀ (pools n) := by
  induction n with
  | zero => exact h₀
  | succ n ih =>
    rcases h n with heq | ⟨m, hallows, hstep⟩
    · exact heq ▸ ih
    · exact ih.step hallows hstep

/-- What every move keeps is kept for ever. -/
theorem Endless.keeps (h : Endless S allows pools) {K : Config Op Resp σ ρ α → Prop}
    (hK : ∀ {c c' pm}, Step S c pm c' → K c → K c') (hn : K (pools n)) {m : ℕ} (hm : n ≤ m) :
    K (pools m) := by
  induction m, hm using Nat.le_induction with
  | base => exact hn
  | succ m _ ih =>
    rcases h m with heq | ⟨_, -, hstep⟩
    · exact heq ▸ ih
    · exact hK hstep ih

/-- A task that does not go on is where it was. -/
theorem Endless.stays (h : Endless S allows pools) (ht : (pools n).tasks[i]? = some ⟨req, rest⟩)
    (hnever : ∀ m op k r, n ≤ m → rest = .call op k → (pools m).tasks[i]? ≠ some ⟨req, k r⟩) {m : ℕ}
    (hm : n ≤ m) : (pools m).tasks[i]? = some ⟨req, rest⟩ := by
  induction m, hm using Nat.le_induction with
  | base => exact ht
  | succ m hm ih =>
    rcases h m with heq | ⟨_, -, hstep⟩
    · exact heq ▸ ih
    · rcases hstep.moves ih with hsame | ⟨op, k, r, hrest, hnext⟩
      · exact hsame
      · exact absurd hnext (hnever _ op k r (by omega) hrest)

/-- A task goes on from an operation that is not blocked for ever. -/
theorem Endless.goes_on (h : Endless S allows pools) (hfair : FairTo S pools i) {op : Op}
    {k : Resp op → Prog Op Resp α} (ht : (pools n).tasks[i]? = some ⟨req, .call op k⟩)
    (hgoes : (∀ m, n ≤ m → (pools m).tasks[i]? = some ⟨req, .call op k⟩) →
      ∃ m, n ≤ m ∧ ∀ m', m ≤ m' → (pools m').CanGo S i) :
    ∃ m, n ≤ m ∧ ∃ r, (pools m).tasks[i]? = some ⟨req, k r⟩ := by
  by_contra hnot
  have hstays : ∀ m, n ≤ m → (pools m).tasks[i]? = some ⟨req, .call op k⟩ := by
    intro m hm
    refine h.stays ht (fun m' op' k' r hm' hrest hnext => hnot ⟨m', hm', ?_⟩) hm
    obtain ⟨rfl, hk⟩ := Prog.call.inj hrest
    obtain rfl := eq_of_heq hk
    exact ⟨r, hnext⟩
  obtain ⟨m, hm, hcan⟩ := hgoes hstays
  exact hfair m _ (fun m' hm' => hstays m' (Nat.le_trans hm hm')) hcan

/-- **A task returns**, if no operation it waits at stays blocked for ever. -/
theorem Endless.answers (h : Endless S allows pools) (hfair : FairTo S pools i) {n₀ : ℕ}
    (hgoes : ∀ n op k, n₀ ≤ n → (∀ m, n ≤ m → (pools m).tasks[i]? = some ⟨req, .call op k⟩) →
      ∃ m, n ≤ m ∧ ∀ m', m ≤ m' → (pools m').CanGo S i) :
    ∀ {rest : Prog Op Resp α} {n : ℕ}, n₀ ≤ n → (pools n).tasks[i]? = some ⟨req, rest⟩ →
      ∃ m, n ≤ m ∧ ∃ a, (pools m).tasks[i]? = some ⟨req, .ret a⟩ := by
  intro rest
  induction rest with
  | ret a => exact fun {n} _ ht => ⟨n, Nat.le_refl n, a, ht⟩
  | call op k ih =>
    intro n hn ht
    obtain ⟨m, hm, r, hnext⟩ := h.goes_on hfair ht (hgoes n op k hn)
    obtain ⟨m', hm', hanswer⟩ := ih r (Nat.le_trans hn hm) hnext
    exact ⟨m', Nat.le_trans hm hm', hanswer⟩

/-- A task's journal only grows. -/
theorem Step.own_suffix (h : Step S c pm c') : own i c.hist.trace <:+ own i c'.hist.trace := by
  cases h with
  | start _ => exact List.suffix_refl _
  | @perform j _ op _ r _ _ hdoes =>
    obtain ⟨o, w, -, rfl⟩ := hdoes
    by_cases hij : j = i
    · subst hij
      exact (own_cons_self (⟨j, op, r⟩ : Entry Op Resp) c.hist.trace) ▸ List.suffix_cons _ _
    · have hsame : own i (⟨j, op, r⟩ :: c.hist.trace) = own i c.hist.trace := own_cons_ne hij _
      exact hsame ▸ List.suffix_refl _
  | env _ => exact List.suffix_refl _

end Pools

/-! ## Offices -/

section Offices

variable (S : System Op Resp σ ρ α ω ε) (D : Desk π τ β ρ α ν κ) (view : σ → τ)
variable (allows : Hist Op Resp σ → Move Op ρ ε → Prop)

/-- Offices, one after another for ever: between two of them there is one allowed move, or none. -/
def EndlessOffice (offices : ℕ → Office Op Resp σ ρ α π τ β ν κ) : Prop :=
  ∀ n, offices (n + 1) = offices n ∨
    ∃ m, (∀ pm ∈ m, allows (offices n).pool.hist pm) ∧
      OfficeStep S D view (offices n) m (offices (n + 1))

/-- Exchange `j` does not stay as it is for ever while it could be seen to. Nobody has to give up. -/
def FairTurns (offices : ℕ → Office Op Resp σ ρ α π τ β ν κ) (j : ℕ) : Prop :=
  ∀ n x deed, deed ≠ .giveUp → (∀ m, n ≤ m → (offices m).exchanges[j]? = some x) →
    ¬ ∀ m, n ≤ m → ∃ x', D.turn (view (offices m).pool.hist.world) (offices m).pool x deed = some x'

variable {S} {D} {view} {allows} {offices : ℕ → Office Op Resp σ ρ α π τ β ν κ} {w₀ : σ}
variable {o o' : Office Op Resp σ ρ α π τ β ν κ} {m : Option (Move Op ρ ε)}
variable {x : Exchange τ β ν κ} {n j : ℕ}

/-- A move of the office leaves an exchange as it is, or something is done about it. -/
theorem OfficeStep.exchange_at (h : OfficeStep S D view o m o') (hx : o.exchanges[j]? = some x) :
    o'.exchanges[j]? = some x ∨ ∃ deed x',
      D.turn (view o.pool.hist.world) o.pool x deed = some x' ∧ o'.exchanges[j]? = some x' := by
  have hlt := (List.getElem?_eq_some_iff.mp hx).1
  cases h with
  | breaks _ _ => exact .inl hx
  | refuses _ _ => exact .inl (by rw [List.getElem?_append_left hlt]; exact hx)
  | takes _ _ => exact .inl (by rw [List.getElem?_append_left hlt]; exact hx)
  | works _ _ => exact .inl hx
  | @turns j' y y' deed hy _ hturn =>
    by_cases hjj : j = j'
    · subst hjj
      obtain rfl := Option.some.inj (hx.symm.trans hy)
      exact .inr ⟨deed, y', hturn, List.getElem?_set_self hlt⟩
    · exact .inl (by rw [List.getElem?_set_ne (Ne.symm hjj)]; exact hx)

/-- The pools of such a run. -/
theorem EndlessOffice.pools (h : EndlessOffice S D view allows offices) :
    Endless S allows fun n => (offices n).pool := by
  intro n
  rcases h n with heq | ⟨m, hallows, hstep⟩
  · exact .inl (congrArg Office.pool heq)
  · rcases hstep.pool with ⟨pm, rfl, hpool⟩ | ⟨-, hpool⟩
    · exact .inr ⟨pm, hallows pm rfl, hpool⟩
    · exact .inl hpool

/-- All of a run is reachable from where it starts. -/
theorem EndlessOffice.reach (h : EndlessOffice S D view allows offices)
    (h₀ : OfficeReach S D view allows w₀ (offices 0)) :
    OfficeReach S D view allows w₀ (offices n) := by
  induction n with
  | zero => exact h₀
  | succ n ih =>
    rcases h n with heq | ⟨m, hallows, hstep⟩
    · exact heq ▸ ih
    · exact ih.step hallows hstep

/-- Allowing more moves allows more runs. -/
theorem EndlessOffice.mono {allows' : Hist Op Resp σ → Move Op ρ ε → Prop}
    (hle : ∀ s m, allows s m → allows' s m) (h : EndlessOffice S D view allows offices) :
    EndlessOffice S D view allows' offices := by
  intro n
  rcases h n with heq | ⟨m, hallows, hstep⟩
  · exact .inl heq
  · exact .inr ⟨m, fun pm hpm => hle _ _ (hallows pm hpm), hstep⟩

/-- Something is done about an exchange that could be seen to from some moment on. -/
theorem EndlessOffice.turns (h : EndlessOffice S D view allows offices)
    (hfair : FairTurns D view offices j) {deed : Deed} (hdeed : deed ≠ .giveUp)
    (hx : (offices n).exchanges[j]? = some x)
    (hcan : ∃ m, n ≤ m ∧ ∀ m', m ≤ m' → ∃ x',
      D.turn (view (offices m').pool.hist.world) (offices m').pool x deed = some x') :
    ∃ m, n ≤ m ∧ ∃ deed x',
      D.turn (view (offices m).pool.hist.world) (offices m).pool x deed = some x' ∧
        (offices (m + 1)).exchanges[j]? = some x' := by
  by_contra hnot
  have hstays : ∀ m, n ≤ m → (offices m).exchanges[j]? = some x := by
    intro m hm
    induction m, hm using Nat.le_induction with
    | base => exact hx
    | succ m hm ih =>
      rcases h m with heq | ⟨_, -, hstep⟩
      · exact heq ▸ ih
      · rcases hstep.exchange_at ih with hsame | hturned
        · exact hsame
        · exact absurd ⟨m, hm, hturned⟩ hnot
  obtain ⟨m, hm, hturn⟩ := hcan
  exact hfair m x deed hdeed (fun m' hm' => hstays m' (Nat.le_trans hm hm')) hturn

/-- What is held is posted in the end. -/
theorem EndlessOffice.posts (h : EndlessOffice S D view allows offices)
    (hfair : FairTurns D view offices j) (hx : (offices n).exchanges[j]? = some x) {k : κ}
    (hphase : x.phase = .holding k) :
    ∃ m, n ≤ m ∧ ∃ x', (offices m).exchanges[j]? = some x' ∧ x'.body = x.body ∧
      x'.phase = .closed := by
  have hpost : Deed.post ≠ .giveUp := Deed.noConfusion
  obtain ⟨m, hm, deed, x', hturn, hx'⟩ := h.turns hfair hpost hx
    ⟨n, Nat.le_refl n, fun m _ => by simp [Desk.turn, hphase]⟩
  refine ⟨m + 1, by omega, x', hx', ?_⟩
  cases deed with
  | post =>
    simp only [Desk.turn, hphase, Option.some.injEq] at hturn
    subst hturn
    exact ⟨rfl, rfl⟩
  | resolve => simp [Desk.turn, hphase] at hturn
  | giveUp => simp [Desk.turn, hphase] at hturn

/-- What is done about an exchange that is worked on closes it, or leaves something to post. -/
theorem Desk.turn_working {now : τ} {c : Config Op Resp σ ρ α} {x' : Exchange τ β ν κ} {deed : Deed}
    (hphase : x.phase = .working) (h : D.turn now c x deed = some x') :
    x'.body = x.body ∧ (x'.phase = .closed ∨ ∃ k, x'.phase = .holding k) := by
  cases deed with
  | resolve =>
    simp only [Desk.turn, hphase] at h
    split at h
    · rename_i a ack resolve _ _ _
      obtain rfl := Option.some.inj h
      rcases resolve x.since now a with _ | k
      · exact ⟨rfl, .inl rfl⟩
      · exact ⟨rfl, .inr ⟨k, rfl⟩⟩
    · obtain rfl := Option.some.inj h
      exact ⟨rfl, .inl rfl⟩
    · cases h
  | post => simp [Desk.turn, hphase] at h
  | giveUp =>
    simp only [Desk.turn, hphase] at h
    split at h
    · obtain rfl := Option.some.inj h
      exact ⟨rfl, .inl rfl⟩
    · cases h

/-- What a task came to can be seen to. -/
theorem Exchange.Fits.resolves {V : τ → Prop} {c : Config Op Resp σ ρ α} (h : x.Fits D V c)
    (hphase : x.phase = .working) : ∃ i, x.task = some i ∧
      ∀ now (c' : Config Op Resp σ ρ α) a, c'.answer i = some a →
        ∃ x', D.turn now c' x .resolve = some x' := by
  cases h with
  | @acknowledged body since i ack resolve _ hmanner =>
    exact ⟨i, rfl, fun now c' a ha => by simp [Desk.turn, ha, hmanner]⟩
  | @waiting body since i answer giveUp _ hmanner =>
    exact ⟨i, rfl, fun now c' a ha => by simp [Desk.turn, ha, hmanner]⟩
  | _ => cases hphase

/-- **An exchange is closed in the end**, if its task returns. -/
theorem EndlessOffice.closes (h : EndlessOffice S D view allows offices)
    (hfair : FairTurns D view offices j) (hx : (offices n).exchanges[j]? = some x) {V : τ → Prop}
    (hfits : x.Fits D V (offices n).pool)
    (hanswers : ∀ i, x.task = some i → ∃ m, n ≤ m ∧ ∃ a, (offices m).pool.answer i = some a) :
    ∃ m, n ≤ m ∧ ∃ x', (offices m).exchanges[j]? = some x' ∧ x'.body = x.body ∧
      x'.phase = .closed := by
  rcases hphase : x.phase with _ | k | _
  · obtain ⟨i, htask, hresolves⟩ := hfits.resolves hphase
    obtain ⟨m, hm, a, ha⟩ := hanswers i htask
    have hstays : ∀ m', m ≤ m' → (offices m').pool.answer i = some a := fun m' hm' =>
      h.pools.keeps (fun hstep ha => hstep.answer_stays ha) ha hm'
    have hresolve : Deed.resolve ≠ .giveUp := Deed.noConfusion
    obtain ⟨m', hm', deed, x', hturn, hx'⟩ := h.turns hfair hresolve hx
      ⟨m, hm, fun m' hm' => hresolves _ _ a (hstays m' hm')⟩
    obtain ⟨hbody, hclosed | ⟨k, hholding⟩⟩ := Desk.turn_working hphase hturn
    · exact ⟨m' + 1, by omega, x', hx', hbody, hclosed⟩
    · obtain ⟨m'', hm'', x'', hx'', hbody', hclosed⟩ := h.posts hfair hx' hholding
      exact ⟨m'', by omega, x'', hx'', hbody'.trans hbody, hclosed⟩
  · exact h.posts hfair hx hphase
  · exact ⟨n, Nat.le_refl n, x, hx, rfl, hphase⟩

/-! ### Schedules that compute -/

/-- Follow a schedule as far as it goes, one entry a moment, and do nothing from there on. -/
def Office.course [DecidableEq π] (S : System Op Resp σ ρ α ω ε) (D : Desk π τ β ρ α ν κ)
    (view : σ → τ) (allowed : Hist Op Resp σ → Move Op ρ ε → Bool) :
    Office Op Resp σ ρ α π τ β ν κ → List (Errand β ω ε) → ℕ → Office Op Resp σ ρ α π τ β ν κ
  | o, _, 0 => o
  | o, [], _ + 1 => o
  | o, errand :: errands, n + 1 =>
    match o.next S D view errand with
    | some (m, o') => if m.all (allowed o.pool.hist) then o'.course S D view allowed errands n else o
    | none => o

section Courses

variable [DecidableEq π] {allowed : Hist Op Resp σ → Move Op ρ ε → Bool}
variable {errands : List (Errand β ω ε)}

/-- A schedule that is over stays where it is. -/
theorem Office.course_nil {n : ℕ} : o.course S D view allowed [] n = o := by
  cases n <;> rfl

/-- Following a schedule is a run that never ends. -/
theorem Office.course_endless :
    EndlessOffice S D view (fun s m => allowed s m = true) (o.course S D view allowed errands) := by
  intro n
  induction errands generalizing o n with
  | nil => exact .inl (by rw [Office.course_nil, Office.course_nil])
  | cons errand errands ih =>
    rcases hnext : o.next S D view errand with _ | ⟨m, o'⟩
    · exact .inl (by cases n <;> simp [Office.course, hnext])
    by_cases hallowed : m.all (allowed o.pool.hist) = true
    · cases n with
      | zero =>
        refine .inr ⟨m, fun pm hpm => ?_, ?_⟩
        · obtain rfl : m = some pm := hpm
          exact hallowed
        · simp only [Office.course, hnext, hallowed, if_true]
          exact Office.next_step hnext
      | succ n => simpa [Office.course, hnext, hallowed] using ih (o := o') n
    · exact .inl (by cases n <;> simp [Office.course, hnext, hallowed])

/-- Once a schedule is over, nothing changes. -/
theorem Office.course_over {n : ℕ} (hn : errands.length ≤ n) :
    o.course S D view allowed errands n = o.course S D view allowed errands errands.length := by
  induction errands generalizing o n with
  | nil => rw [Office.course_nil, Office.course_nil]
  | cons errand errands ih =>
    obtain ⟨n, rfl⟩ := Nat.exists_eq_add_of_le hn
    rw [List.length_cons, Nat.add_right_comm]
    rcases hnext : o.next S D view errand with _ | ⟨m, o'⟩
    · simp [Office.course, hnext]
    by_cases hallowed : m.all (allowed o.pool.hist) = true
    · simpa [Office.course, hnext, hallowed] using ih (o := o') (Nat.le_add_right _ n)
    · simp [Office.course, hnext, hallowed]

/-- A schedule at whose end every task has returned is fair. -/
theorem Office.course_fair
    (h : ∀ i ∈ List.range (o.course S D view allowed errands errands.length).pool.tasks.length,
      ((o.course S D view allowed errands errands.length).pool.answer i).isSome = true) (i : ℕ) :
    FairTo S (fun n => (o.course S D view allowed errands n).pool) i := by
  intro n t _ hcan
  obtain ⟨req, op, k, _, _, htask, -⟩ := hcan (n + errands.length) (Nat.le_add_right ..)
  dsimp only at htask
  rw [Office.course_over (Nat.le_add_left ..)] at htask
  have hanswer := h i (List.mem_range.mpr (List.getElem?_eq_some_iff.mp htask).1)
  simp only [Config.answer, htask, Option.isSome_none, Bool.false_eq_true] at hanswer

/-- A schedule at whose end every exchange is closed is fair. -/
theorem Office.course_fairTurns
    (h : ∀ x ∈ (o.course S D view allowed errands errands.length).exchanges,
      x.phase.isClosed = true)
    (j : ℕ) : FairTurns D view (o.course S D view allowed errands) j := by
  intro n x deed _ hstays hcan
  have hx := hstays (n + errands.length) (Nat.le_add_right ..)
  rw [Office.course_over (Nat.le_add_left ..)] at hx
  have hclosed := Phase.isClosed_iff.mp (h x (List.mem_of_getElem? hx))
  obtain ⟨x', hturn⟩ := hcan n (Nat.le_refl n)
  cases deed <;> simp [Desk.turn, hclosed] at hturn

end Courses

end Offices

end Interleave
