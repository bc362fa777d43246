import TransitBpp.Reads

/-!
# One request at a time

A sequential run answers its requests one after the other, and neither the database nor the source
fails. `calm` is the provider under those conditions, and a request is `Served` when it runs there
from its first operation to its answer with no other request in between; time may pass and the
catalogue may change all the while. What is served is also a run of the provider, so everything
that holds of every run holds before and after.

Each rule below says what one step of a handler sees, for the weakest preconditions of the modules
that serve whole requests.
-/

namespace TransitBpp

open Interleave Js

/-! ## The provider while nothing fails -/

/-- The provider while nothing fails: the outside only chooses the ids. -/
def calm (d : Deployment) :
    System Op Resp World Request (Except Failure Answer) String Happening where
  handler := (provider d).handler
  exec _ request id op w := w.exec d request.process ⟨id, none⟩ op
  env := World.happen

/-- A request served alone, from its first operation to its answer. -/
def Served (d : Deployment) (i : ℕ) (req : Request) (s : History)
    (result : Except Failure Answer) (s' : History) : Prop :=
  Alone (calm d) i req ((provider d).handler req) s result s'

variable {d : Deployment} {i : ℕ} {req : Request} {s s' s₁ s₂ : History} {α : Type}

theorem Alone.of_calm {p : Prog Op Resp α} {a : α} (h : Alone (calm d) i req p s a s') :
    Alone (provider d) i req p s a s' := by
  induction h with
  | ret a s => exact .ret a s
  | env henv _ ih => exact .env henv ih
  | call hdoes _ ih =>
    obtain ⟨id, w, hexec, rfl⟩ := hdoes
    exact .call ⟨⟨id, none⟩, w, hexec, rfl⟩ ih

/-- What is served is a run of the provider: the request arrives as the next task. -/
theorem Served.reach {c : Pool} {result : Except Failure Answer}
    (h : Served d c.tasks.length req c.hist result s') : Reach (provider d) (fun _ _ => True) c
      ⟨s', c.tasks ++ [⟨req, .ret result⟩]⟩ := by
  have htask : (c.tasks ++ [⟨req, (provider d).handler req⟩])[c.tasks.length]? =
      some ⟨req, (provider d).handler req⟩ := by
    simp
  have hrun := (Alone.of_calm h).reach htask
  rw [List.set_append_right _ _ le_rfl, Nat.sub_self, List.set_cons_zero] at hrun
  exact (Reach.step .refl trivial (Step.start c req)).trans hrun

/-! ## Waiting -/

/-- The database has not changed, and no time was lost. -/
structure Idle (s s' : History) : Prop where
  /-- the database is as it was -/
  db : s'.world.db = s.world.db
  /-- the clock has not gone back -/
  clock : s.world.clock ≤ s'.world.clock
  /-- nothing was forgotten -/
  trace : s.trace <:+ s'.trace

theorem Idle.refl (s : History) : Idle s s := ⟨rfl, le_rfl, List.suffix_refl _⟩

theorem Idle.trans (h : Idle s s₁) (h' : Idle s₁ s₂) : Idle s s₂ :=
  ⟨h'.db.trans h.db, h.clock.trans h'.clock, h.trace.trans h'.trace⟩

theorem Idle.happen {e : Happening} {w : World} (h : Idle s s₁)
    (henv : World.happen e s₁.world = some w) : Idle s ⟨w, s₁.trace⟩ := by
  cases e with
  | tick ms =>
    obtain rfl := Option.some.inj henv
    refine ⟨h.db, ?_, h.trace⟩
    have hclock := h.clock
    dsimp only
    omega
  | publish source =>
    obtain rfl := Option.some.inj henv
    exact ⟨h.db, h.clock, h.trace⟩

theorem Idle.of_passes (h : Passes (calm d) s s₁) : Idle s s₁ := by
  induction h with
  | refl => exact .refl s
  | step _ henv ih => exact ih.happen henv

/-- An operation that changes nothing. -/
theorem Idle.answered (h : Idle s s₁) {op : Op} {r : Resp op} :
    Idle s ⟨s₁.world, ⟨i, op, r⟩ :: s₁.trace⟩ :=
  ⟨h.db, h.clock, h.trace.trans (List.suffix_cons _ _)⟩

/-! ## Rules for one operation -/

/-- A read answers what there is. -/
theorem wp_read {op : Op} {Q : Resp op → History → Prop} (r : World → Resp op)
    (hexec : ∀ id w, World.exec d req.process ⟨id, none⟩ w op = some (w, r w))
    (h : ∀ s₁, Idle s s₁ → Q (r s₁.world) ⟨s₁.world, ⟨i, op, r s₁.world⟩ :: s₁.trace⟩) :
    wp (calm d) i req (Prog.perform op) Q s := by
  refine wp_perform ?_
  rintro s₁ answer s₂ hpasses ⟨id, w, hdoes, rfl⟩
  obtain ⟨rfl, rfl⟩ := Prod.mk.inj (Option.some.inj ((hexec id s₁.world).symm.trans hdoes))
  exact h s₁ (.of_passes hpasses)

variable {ok : α → History → Prop} {err : Failure → History → Prop}

/-- The clock answers what it shows. -/
theorem wp_now {ok : ℤ → History → Prop} (h : ∀ s₁, Idle s s₁ →
      ok s₁.world.clock ⟨s₁.world, ⟨i, .now, s₁.world.clock⟩ :: s₁.trace⟩) :
    Handler.wp (calm d) i req ok err (perform .now) s :=
  @wp_read _ _ _ _ .now _ (fun w => w.clock) (fun _ _ => rfl) h

/-- A manifest push goes its own way. -/
theorem wp_push {serviceId travelDate : String} {ok : Unit → History → Prop}
    (h : ∀ s₁, Idle s s₁ → ok () s₁) :
    Handler.wp (calm d) i req ok err (perform (.startManifestPush serviceId travelDate)) s := by
  refine wp_perform ?_
  rintro s₁ r s₂ hpasses ⟨id, w, hexec, rfl⟩
  obtain ⟨rfl, rfl⟩ := Prod.mk.inj (Option.some.inj hexec)
  have hidle := Idle.of_passes hpasses
  exact h _ ⟨hidle.db, hidle.clock, hidle.trace.trans (List.suffix_cons _ _)⟩

/-- A transaction runs whole or leaves nothing behind. -/
theorem wp_transact {t : Transaction} {ok : t.Answer → History → Prop}
    (hok : ∀ s₁ raw a db, Idle s s₁ → t.run raw s.world.db = .ok (a, db) →
      ok a ⟨{ s₁.world with db := db }, ⟨i, .transaction t, .ok a⟩ :: s₁.trace⟩)
    (herr : ∀ s₁ raw e, Idle s s₁ → t.run raw s.world.db = .error e →
      err e ⟨s₁.world, ⟨i, .transaction t, .error e⟩ :: s₁.trace⟩) :
    Handler.wp (calm d) i req ok err (transact t) s := by
  refine wp_perform ?_
  rintro s₁ r s₂ hpasses ⟨raw, w, hexec, rfl⟩
  have hidle := Idle.of_passes hpasses
  change World.exec d req.process ⟨raw, none⟩ s₁.world (.transaction t) = some (w, r) at hexec
  simp only [World.exec, hidle.db] at hexec
  cases hrun : t.run raw s.world.db with
  | error e =>
    rw [hrun] at hexec
    obtain ⟨rfl, rfl⟩ := Prod.mk.inj (Option.some.inj hexec)
    exact herr s₁ raw e hidle hrun
  | ok p =>
    rw [hrun] at hexec
    obtain ⟨rfl, rfl⟩ := Prod.mk.inj (Option.some.inj hexec)
    exact hok s₁ raw p.1 p.2 hidle hrun

/-! ## Reads of several operations -/

/-- A booking and its seats. -/
def ReservedDb.bookingFound (db : ReservedDb) (operator bapId bapUri reference : String) :
    Option BookingRecord :=
  (db.bookingByReference operator bapId bapUri reference).map fun row =>
    { row with seats := db.seatsOf row.id }

theorem bookingFromRow_wp {row : BookingRow} {ok : BookingRecord → History → Prop}
    (h : ∀ s₁, Idle s s₁ → ok { row with seats := s.world.db.seatsOf row.id } s₁) :
    Handler.wp (calm d) i req ok err (bookingFromRow row) s := by
  rw [bookingFromRow, Handler.wp_bind]
  refine wp_read (fun w => .ok (w.db.seatsOf row.id)) (fun _ _ => rfl) fun s₁ hidle => ?_
  rw [ends_ok, Handler.wp_pure, hidle.db]
  exact h _ hidle.answered

theorem findBooking_wp {operator bapId bapUri reference : String}
    {ok : Option BookingRecord → History → Prop}
    (h : ∀ s₁, Idle s s₁ → ok (s.world.db.bookingFound operator bapId bapUri reference) s₁) :
    Handler.wp (calm d) i req ok err (findBooking operator bapId bapUri reference) s := by
  rw [findBooking, bookingFrom, Handler.wp_bind]
  refine wp_read (fun w => .ok (w.db.bookingByReference operator bapId bapUri reference))
    (fun _ _ => rfl) fun s₁ hidle => ?_
  rw [ends_ok, hidle.db]
  have hfound := h
  rw [ReservedDb.bookingFound] at hfound
  cases hrow : s.world.db.bookingByReference operator bapId bapUri reference with
  | none =>
    rw [hrow] at hfound
    exact hfound _ hidle.answered
  | some row =>
    rw [hrow] at hfound
    dsimp only
    rw [Handler.wp_bind]
    refine bookingFromRow_wp fun s₂ hidle₂ => ?_
    dsimp only
    rw [Handler.wp_pure, hidle.db]
    exact hfound _ (hidle.answered.trans hidle₂)

theorem findBookingOrRefuse_wp {context : ReservedContext} {reference : String}
    {ok : BookingRecord → History → Prop} {err : Failure → History → Prop}
    (hok : ∀ booking s₁, Idle s s₁ → s.world.db.bookingFound d.operatorKey context.bapId
      context.bapUri reference = some booking → ok booking s₁) (herr : ∀ e s₁, err e s₁) :
    Handler.wp (calm d) i req ok err (findBookingOrRefuse d context reference) s := by
  rw [findBookingOrRefuse, Handler.wp_bind]
  refine findBooking_wp fun s₁ hidle => ?_
  cases hfound : s.world.db.bookingFound d.operatorKey context.bapId context.bapUri reference with
  | none => exact herr _ _
  | some booking => exact hok booking s₁ hidle hfound

/-! ## One instant

Served at one instant, with nothing else going on, a request has one outcome.
-/

section Instant

variable {process : ℕ} {raw : String} {w w' : World} {db' : ReservedDb} {β : Type}
  {ok : β → World → Prop} {err : Failure → World → Prop}

/-- What the operations of a process do at one instant, while nothing fails: `raw` is what the id
generator answers. -/
def World.still (d : Deployment) (process : ℕ) (raw : String) (op : Op) (w : World) :
    Option (World × Resp op) :=
  w.exec d process ⟨raw, none⟩ op

/-- The answer of a request that is served at one instant with nothing else going on, and the world
it leaves. -/
def World.serve (d : Deployment) (req : Request) (raw : String) (w : World) :
    Option (Except Failure Answer × World) :=
  ((provider d).handler req).carry (World.still d req.process raw) w

/-- Such a request is served alone. -/
theorem World.serve_served {i : ℕ} {req : Request} {result : Except Failure Answer}
    {trace : List (Entry Op Resp)} (h : w.serve d req raw = some (result, w')) :
    ∃ trace', Served d i req ⟨w, trace⟩ result ⟨w', trace'⟩ := by
  refine Prog.carry_alone (S := calm d) (fun op w r hexec => ?_) trace h
  exact ⟨raw, hexec⟩

/-- A transaction that goes through. -/
theorem transact_carry {a : Transaction} {r : a.Answer} (h : a.run raw w.db = .ok (r, db')) :
    (transact a).run.carry (World.still d process raw) w = some (.ok r, { w with db := db' }) := by
  change ((World.exec d process ⟨raw, none⟩ w (.transaction a)).bind _) = _
  simp only [World.exec, h]
  rfl

/-- A transaction that fails leaves nothing behind. -/
theorem transact_carry_error {a : Transaction} {e : Failure} (h : a.run raw w.db = .error e) :
    (transact a).run.carry (World.still d process raw) w = some (.error e, w) := by
  change ((World.exec d process ⟨raw, none⟩ w (.transaction a)).bind _) = _
  simp only [World.exec, h]
  rfl

/-- A read answers what there is. -/
theorem carries_read (op : Op) {Q : Resp op → World → Prop} (r : World → Resp op)
    (hexec : ∀ w, World.still d process raw op w = some (w, r w)) (h : Q (r w) w) :
    (Prog.perform op).Carries (World.still d process raw) Q w := by
  refine ⟨r w, w, ?_, h⟩
  change (World.still d process raw op w).bind _ = _
  rw [hexec]
  rfl

theorem carries_now {ok : ℤ → World → Prop} (h : ok w.clock w) :
    Handler.Carries (World.still d process raw) ok err (perform .now) w :=
  ⟨.ok w.clock, w, rfl, h⟩

theorem carries_transact {a : Transaction} {ok : a.Answer → World → Prop}
    (hok : ∀ r db', a.run raw w.db = .ok (r, db') → ok r { w with db := db' })
    (herr : ∀ e, a.run raw w.db = .error e → err e w) :
    Handler.Carries (World.still d process raw) ok err (transact a) w := by
  cases h : a.run raw w.db with
  | ok p => exact ⟨.ok p.1, _, transact_carry h, hok p.1 p.2 h⟩
  | error e => exact ⟨.error e, w, transact_carry_error h, herr e h⟩

end Instant

end TransitBpp
