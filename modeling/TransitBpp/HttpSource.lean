import TransitBpp.Catalogue
import TransitBpp.Runs

/-!
# A catalogue read over http

`http.ts`: a dataset is fetched, checked, and kept for a while; where a fetch fails the fixtures answer
instead. Each of the four look-ups decides on its own whether to use what is kept, to fetch, or to fall
back, so the handlers run here with every look-up replaced by what `HttpReservedSource` does for it. A
look at the cache and the end of a fetch are two operations, since other requests run between them.
-/

namespace TransitBpp.Http

open Interleave

/-! ## The dataset -/

/-- A service with the towns it boards and drops in. -/
structure PlacedService extends ReservedService where
  /-- the towns of its boarding points -/
  boardingTowns : List String
  /-- the towns of its dropping points -/
  droppingTowns : List String

/-- A catalogue, as requests read it. -/
structure Dataset : Type where
  /-- every service -/
  services : List PlacedService
  /-- every seat map -/
  seatMaps : List SeatMap
  /-- every fare table -/
  fareTables : List FareTable

namespace Dataset

variable (dataset : Dataset)

/-- The filter of `services`. -/
def offers (query : ReservedSearchQuery) (service : PlacedService) : Except Failure Bool :=
  if service.boardingTowns.contains query.fromTownCode &&
      service.droppingTowns.contains query.toTownCode &&
      query.serviceClass.all (fun serviceClass => service.serviceClass.wire = serviceClass) then
    runsOn service.operatingPattern query.travelDate
  else return false

/-- The services a search asks for. -/
def servicesFor (query : ReservedSearchQuery) : Except Failure (List ReservedService) := do
  let found ← dataset.services.filterM (offers query)
  return found.map PlacedService.toReservedService

/-- One service by its id. -/
def service (serviceId : String) : Option ReservedService :=
  (dataset.services.find? fun service => service.serviceId = serviceId).map
    PlacedService.toReservedService

/-- A seat map by its id. -/
def seatMap (seatMapId : String) : Option SeatMap :=
  dataset.seatMaps.find? fun map => map.seatMapId = seatMapId

/-- A fare table by its id. -/
def fareTable (fareTableId : String) : Option FareTable :=
  dataset.fareTables.find? fun table => table.fareTableId = fareTableId

end Dataset

/-! ## Fetching it -/

/-- A JSON body, as its checks read it and as requests read it once it has passed them. -/
structure Body : Type where
  /-- the errors of the response schema, where it fails it -/
  schemaErrors : Option String
  /-- what the integrity check reads -/
  authored : ReservedCatalogue
  /-- what requests read -/
  dataset : Dataset

/-- What a fetch comes to. -/
inductive Fetched : Type where
  /-- there was no answer in time, or none that is JSON -/
  | failed : String → Fetched
  /-- there was one -/
  | answered (status : ℕ) (statusText : String) (body : Body) : Fetched

/-- The dataset of a fetch, or why it is not used. -/
def Fetched.accepted : Fetched → Except String Dataset
  | failed reason => throw reason
  | answered status statusText body =>
    if status < 200 ∨ 299 < status then
      throw (String.ofList (Js.trim s!"HTTP reserved source returned {status} {statusText}".toList))
    else
      match body.schemaErrors with
      | some errors => throw s!"HTTP reserved source response failed schema validation: {errors}"
      | none => do
        validateReservedCatalogue body.authored "HTTP reserved source response"
        return body.dataset

/-- What a process keeps of a fetch. -/
structure Cached : Type where
  /-- the dataset -/
  catalogue : Dataset
  /-- when the fetch was begun -/
  fetchedAt : ℤ

/-- What is kept, while it is fresh. -/
def freshAt (cached : Option Cached) (now cacheTtlMs : ℤ) : Option Dataset :=
  cached.bind fun kept => if now - kept.fetchedAt < cacheTtlMs then some kept.catalogue else none

/-! ## Operations -/

/-- What looking at the cache finds. -/
inductive Looked : Type where
  /-- a fresh catalogue -/
  | fresh : Dataset → Looked
  /-- none, at this instant -/
  | stale : ℤ → Looked

/-- What a request handler can do. -/
inductive HttpOp : Type where
  /-- read the clock and look at the cache -/
  | look : HttpOp
  /-- await the fetch that was begun at an instant -/
  | fetch : ℤ → HttpOp
  /-- anything else; a look-up asks the fixtures -/
  | other : Op → HttpOp

/-- What an operation answers. -/
@[reducible] def HttpResp : HttpOp → Type
  | .look => Looked
  | .fetch _ => Option Dataset
  | .other op => Resp op

/-- A program over them. -/
abbrev HttpProg (α : Type) : Type := Prog HttpOp HttpResp α

/-- `catalogue`: none where the fixtures are to answer. -/
def catalogue : HttpProg (Option Dataset) := do
  match ← (Prog.perform HttpOp.look : HttpProg Looked) with
  | .fresh dataset => return some dataset
  | .stale now => Prog.perform (HttpOp.fetch now)

/-- A look-up in the catalogue, which the fixtures answer where there is none. -/
def lookUp (op : Op) (answer : Dataset → Resp op) : HttpProg (Resp op) := do
  match ← catalogue with
  | none => Prog.perform (HttpOp.other op)
  | some dataset => return answer dataset

/-- What the process does for an operation of a handler. -/
def answerOf : (op : Op) → HttpProg (Resp op)
  | .services query => lookUp (.services query) fun dataset => dataset.servicesFor query
  | .service id => lookUp (.service id) fun dataset => .ok (dataset.service id)
  | .seatMap id => lookUp (.seatMap id) fun dataset => .ok (dataset.seatMap id)
  | .fareTable id => lookUp (.fareTable id) fun dataset => .ok (dataset.fareTable id)
  | op => Prog.perform (HttpOp.other op)

/-! ## The system -/

/-- The provider, the dataset service and the caches. -/
structure HttpWorld : Type where
  /-- the provider; its source is the fixtures -/
  world : World
  /-- what a fetch that ends now comes to -/
  upstream : Fetched
  /-- the clock of the sources -/
  now : ℤ
  /-- what each process keeps -/
  cached : ℕ → Option Cached
  /-- why the fixtures were fallen back on, newest first -/
  log : List String

/-- What happens on its own. -/
inductive Event : Type where
  /-- this many milliseconds pass for the handlers -/
  | tick : ℕ → Event
  /-- the clock of the sources reads this from now on -/
  | clock : ℤ → Event
  /-- fetches come to this from now on -/
  | upstream : Fetched → Event

namespace HttpWorld

variable (d : Deployment) (cacheTtlMs : ℤ)

/-- One operation of a request served by `process`. -/
def exec (process : ℕ) (o : Choice) (w : HttpWorld) : (op : HttpOp) → Option (HttpWorld × HttpResp op)
  | .look =>
    some (w, match freshAt (w.cached process) w.now cacheTtlMs with
      | some dataset => .fresh dataset
      | none => .stale w.now)
  | .fetch begun =>
    match w.upstream.accepted with
    | .ok dataset =>
      -- Kept from the instant it was begun, whatever was kept meanwhile.
      some ({ w with cached := Function.update w.cached process (some ⟨dataset, begun⟩) }, some dataset)
    | .error reason => some ({ w with log := reason :: w.log }, none)
  | .other op => (w.world.exec d process o op).map fun p => ({ w with world := p.1 }, p.2)

/-- The world after something happened on its own. -/
def happen : Event → HttpWorld → Option HttpWorld
  | .tick ms, w => some { w with world := { w.world with clock := w.world.clock + ms } }
  | .clock now, w => some { w with now := now }
  | .upstream fetched, w => some { w with upstream := fetched }

end HttpWorld

/-- The provider with an `HttpReservedSource` in each process. -/
def httpProvider (d : Deployment) (cacheTtlMs : ℤ) :
    System HttpOp HttpResp HttpWorld Request (Except Failure Answer) Choice Event where
  handler request := ((handle d request).run).through answerOf
  exec _ request o op w := w.exec d cacheTtlMs request.process o op
  env := HttpWorld.happen

/-- The world and the trace of a run. -/
abbrev HttpHistory : Type := Hist HttpOp HttpResp HttpWorld

/-- A configuration of it. -/
abbrev HttpPool : Type := Config HttpOp HttpResp HttpWorld Request (Except Failure Answer)

/-! ## One catalogue for a request -/

/-- Where a look-up was answered from, once it is decided: a dataset, or else the fixtures. -/
def origin : Line HttpOp HttpResp → Option (Option Dataset)
  | ⟨.look, .fresh dataset⟩ => some (some dataset)
  | ⟨.fetch _, found⟩ => some found
  | _ => none

/-- Where the look-ups of a request were answered from. -/
def origins (i : ℕ) (trace : List (Entry HttpOp HttpResp)) : List (Option Dataset) :=
  (own i trace).filterMap origin

/-- Every request was answered from one catalogue. -/
def OneCatalogue (s : HttpHistory) : Prop :=
  ∀ i, ∀ a ∈ origins i s.trace, ∀ b ∈ origins i s.trace, a = b

/-- A request that has read a catalogue finds that one fresh, or fetches it once more; and one that has
fallen back finds none fresh, and no fetch of its own succeeds. -/
def Steady (cacheTtlMs : ℤ) (s : HttpHistory) : Move HttpOp Request Event → Prop
  | .perform i request .look => ∀ a ∈ origins i s.trace, ∀ dataset,
      freshAt (s.world.cached request.process) s.world.now cacheTtlMs = some dataset → a = some dataset
  | .perform i _ (.fetch _) => ∀ a ∈ origins i s.trace, a = s.world.upstream.accepted.toOption
  | _ => True

section

variable {d : Deployment} {cacheTtlMs : ℤ} {s s' : HttpHistory}

theorem mem_origins_cons {i j : ℕ} {op : HttpOp} {r : HttpResp op} {trace : List (Entry HttpOp HttpResp)}
    {a : Option Dataset} : a ∈ origins j (⟨i, op, r⟩ :: trace) ↔
      i = j ∧ origin ⟨op, r⟩ = some a ∨ a ∈ origins j trace := by
  by_cases hij : i = j
  · subst hij
    have hown : own i ((⟨i, op, r⟩ : Entry HttpOp HttpResp) :: trace) = ⟨op, r⟩ :: own i trace :=
      own_cons_self (⟨i, op, r⟩ : Entry HttpOp HttpResp) trace
    rw [origins, hown, List.filterMap_cons]
    cases horigin : origin ⟨op, r⟩ with
    | none => simp [origins]
    | some b => simp [origins, eq_comm]
  · rw [origins, own_cons_ne (e := ⟨i, op, r⟩) hij, ← origins]
    simp [hij]

/-- A step keeps a request to one catalogue exactly where it is steady. -/
theorem steady_iff {i : ℕ} {request : Request} {op : HttpOp} {r : HttpResp op}
    (h : Does (httpProvider d cacheTtlMs) i request op s r s') :
    Steady cacheTtlMs s (.perform i request op) ↔
      ∀ b, origin ⟨op, r⟩ = some b → ∀ a ∈ origins i s.trace, a = b := by
  obtain ⟨o, w, hexec, -⟩ := h
  cases op with
  | look =>
    obtain ⟨-, rfl⟩ := Prod.mk.inj (Option.some.inj hexec)
    simp only [Steady]
    cases hfresh : freshAt (s.world.cached request.process) s.world.now cacheTtlMs with
    | none => simp [origin]
    | some dataset => simp [origin]
  | fetch begun =>
    simp only [Steady]
    cases haccepted : s.world.upstream.accepted with
    | ok dataset =>
      simp only [httpProvider, HttpWorld.exec, haccepted] at hexec
      obtain ⟨-, rfl⟩ := Prod.mk.inj (Option.some.inj hexec)
      simp [origin, Except.toOption]
    | error reason =>
      simp only [httpProvider, HttpWorld.exec, haccepted] at hexec
      obtain ⟨-, rfl⟩ := Prod.mk.inj (Option.some.inj hexec)
      simp [origin, Except.toOption]
  | other op => simp [Steady, origin]

theorem oneCatalogue_cons {i : ℕ} {op : HttpOp} {r : HttpResp op} {w : HttpWorld} :
    OneCatalogue ⟨w, ⟨i, op, r⟩ :: s.trace⟩ ↔ OneCatalogue s ∧
      ∀ b, origin ⟨op, r⟩ = some b → ∀ a ∈ origins i s.trace, a = b := by
  constructor
  · intro h
    refine ⟨fun j a ha b hb => ?_, fun b hb a ha => ?_⟩
    · exact h j a (mem_origins_cons.mpr (.inr ha)) b (mem_origins_cons.mpr (.inr hb))
    · exact h i a (mem_origins_cons.mpr (.inr ha)) b (mem_origins_cons.mpr (.inl ⟨rfl, hb⟩))
  · rintro ⟨hone, hnew⟩ j a ha b hb
    rcases mem_origins_cons.mp ha with ⟨hij, hnewA⟩ | holdA
    · rcases mem_origins_cons.mp hb with ⟨-, hnewB⟩ | holdB
      · exact Option.some.inj (hnewA.symm.trans hnewB)
      · exact (hnew a hnewA b (hij ▸ holdB)).symm
    · rcases mem_origins_cons.mp hb with ⟨hij, hnewB⟩ | holdB
      · exact hnew b hnewB a (hij ▸ holdA)
      · exact hone j a holdA b holdB

end

/-- The one service of `oneService`, as requests read it. -/
def kalasipalya : PlacedService where
  serviceId := "KSRTC-1"
  serviceNumber := "1"
  brand := .ksrtc
  operatingCorporation := none
  operatingCorporationBasis := .none
  provenance := .inferred
  provenanceSourceCount := 1
  serviceClass := .pallakki
  boardingPoints := [⟨"MAJESTIC", "MAJESTIC", none, 0⟩]
  droppingPoints := [⟨"KALASIPALYA", "KALASIPALYA", none, 0⟩]
  operatingPattern := .daily
  departureMinute := 600
  runningMinutes := 30
  seatMapId := "SLEEPER-1"
  fareTableId := "FARES-1"
  popularity := 0
  reservationFeePaise := 0
  tollPaise := 0
  boards := by decide
  drops := by decide
  boardingTowns := ["BLR"]
  droppingTowns := ["BLR"]

/-- A dataset service that answers `oneService`. -/
def serving : Fetched :=
  .answered 200 "OK" ⟨none, oneService [oneBerth none], [kalasipalya], [oneBerth none],
    [⟨"FARES-1", [⟨"MAJESTIC", "KALASIPALYA", .pallakki, 50000, .i⟩]⟩]⟩

/-- Nothing is kept yet, and the dataset service answers. -/
def servingStart : HttpPool :=
  ⟨⟨⟨World.initial specimenClock specimenSource, serving, specimenClock, fun _ => none, []⟩, []⟩, []⟩

/-- Some operations of the only request. -/
def reads (count : ℕ) : List (Interleave.Event Request Choice Event) :=
  List.replicate count (.run 0 ⟨"", none⟩)

/-- A select finds its service in the dataset; the dataset grows stale and its service goes down, so the
seat map and the fares are those of the fixtures. -/
def mixedSelect : List (Interleave.Event Request Choice Event) :=
  [.start ⟨0, .select (specimenContext "T1") { specimenInput 1 [] with
      items := some [⟨"RSV-KSRTC-1-2026-09-10-PALLAKKI", some 1⟩] }⟩] ++ reads 3 ++
    [.env (.clock (specimenClock + 60000)), .env (.upstream (.failed "fetch failed"))] ++ reads 6

end TransitBpp.Http
