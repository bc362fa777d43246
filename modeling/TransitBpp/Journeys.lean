import TransitBpp.TransitOrders

/-!
# Searching for a journey

`fixture.ts` and `validate.ts`: the offers between two stops, each cut down to the part of its route
that is asked for. Both stops are looked up by their first occurrence. `search_right_iff` says on
which routes that is enough: not where the route comes back to the stop it is asked to go to.
-/

namespace TransitBpp.Trv11

variable {upperCase : String → String} {route : List RouteStop} {offer : TransitOffer}
  {offers : List TransitOffer}

/-! ## The offers of a source -/

/-- `validateOfferSet`, past the offers with these ids. -/
def validateOffersFrom (sourceDescription : String) :
    List String → List TransitOffer → Except Failure Unit
  | _, [] => return ()
  | offerIds, offer :: offers => do
    if offer.offerId = "" ∨ offer.route.length < 2 then
      throw (.error s!"{sourceDescription} contains an offer without an id or two route stops")
    else if offer.offerId ∈ offerIds then
      throw (.error s!"{sourceDescription} contains duplicate offerId {offer.offerId}")
    else if !Js.isSafe offer.farePaise || offer.farePaise < 0 then
      throw (.error s!"{sourceDescription} farePaise must be a non-negative safe integer")
    else
      let _ ← durationMilliseconds offer.validity
      validateOffersFrom sourceDescription (offer.offerId :: offerIds) offers

def validateOfferSet (offers : List TransitOffer) (sourceDescription : String) :
    Except Failure Unit :=
  validateOffersFrom sourceDescription [] offers

/-! ## A search -/

/-- A point, its coordinates as they print. -/
structure Gps : Type where
  /-- the latitude -/
  lat : String
  /-- the longitude -/
  lon : String

/-- `SearchQuery`, as a fixture reads it. -/
structure SearchQuery : Type where
  /-- the code of the stop to start at -/
  fromCode : Option String
  /-- the code of the stop to end at -/
  toCode : Option String
  /-- or where to start -/
  fromGps : Option Gps
  /-- or where to end -/
  toGps : Option Gps

/-- `value?.trim().toUpperCase()`. -/
def normalized (upperCase : String → String) (value : Option String) : Option String :=
  value.map fun s => upperCase (trim s)

/-- The first stop of a code, or -1. -/
def codeIndex (upperCase : String → String) (route : List RouteStop) (code : String) : ℤ :=
  ((route.findIdx? fun stop => normalized upperCase stop.code = normalized upperCase (some code)).map
    Int.ofNat).getD (-1)

/-- The part of an offer between two stops. -/
def sliceOffer (offer : TransitOffer) (fromIndex toIndex : ℤ) : Option TransitOffer :=
  if fromIndex < 0 ∨ toIndex ≤ fromIndex then none
  else some { offer with route := (offer.route.take (toIndex + 1).toNat).drop fromIndex.toNat }

/-- The stop an end of a query is at. -/
def endIndex (upperCase : String → String) (nearestStopIndex : List RouteStop → Gps → ℤ)
    (route : List RouteStop) (code : Option String) (gps : Option Gps) : ℤ :=
  match given code, gps with
  | some code, _ => codeIndex upperCase route code
  | none, some gps => nearestStopIndex route gps
  | none, none => -1

/-- `FixtureJourneySource.search`. How letters are put in upper case and what stop is near a point
are parameters. -/
def search (upperCase : String → String) (nearestStopIndex : List RouteStop → Gps → ℤ)
    (offers : List TransitOffer) (query : SearchQuery) : List TransitOffer :=
  if ((given query.fromCode).isSome || query.fromGps.isSome) &&
      ((given query.toCode).isSome || query.toGps.isSome) then
    offers.filterMap fun offer =>
      sliceOffer offer
        (endIndex upperCase nearestStopIndex offer.route query.fromCode query.fromGps)
        (endIndex upperCase nearestStopIndex offer.route query.toCode query.toGps)
  else offers

/-! ## What it should answer -/

/-- A stop of a code, up to surrounding spaces and letter case. -/
def StopAt (upperCase : String → String) (route : List RouteStop) (code : String) (index : ℕ) : Prop :=
  ∃ stop, route[index]? = some stop ∧
    normalized upperCase stop.code = normalized upperCase (some code)

/-- A way along a route from a stop of one code to a later one of the other. -/
def Rides (upperCase : String → String) (route : List RouteStop) (fromCode toCode : String)
    (i j : ℕ) : Prop :=
  i < j ∧ StopAt upperCase route fromCode i ∧ StopAt upperCase route toCode j

/-- A search that finds every offer there is a ride on, and such a ride on it. -/
structure SearchRight (upperCase : String → String) (offers found : List TransitOffer)
    (fromCode toCode : String) : Prop where
  /-- an offer is found exactly if there is a ride on it -/
  found_iff : ∀ offer ∈ offers, (∃ part ∈ found, part.offerId = offer.offerId) ↔
    ∃ i j, Rides upperCase offer.route fromCode toCode i j
  /-- what is found is an offer with the part of its route that is the ride -/
  part_of : ∀ part ∈ found, ∃ offer ∈ offers, ∃ i j,
    Rides upperCase offer.route fromCode toCode i j ∧
      part = { offer with route := (offer.route.take (j + 1)).drop i }
  /-- in the order of the offers, and each once -/
  ordered : (found.map TransitOffer.offerId).Sublist (offers.map TransitOffer.offerId) ∧
    (found.map TransitOffer.offerId).Nodup

/-- A route that is at the stop to go to before it first leaves, and comes back to it. -/
def ComesBack (upperCase : String → String) (route : List RouteStop) (fromCode toCode : String) :
    Prop :=
  ∃ k i j, k ≤ i ∧ i < j ∧ StopAt upperCase route toCode k ∧
    (StopAt upperCase route fromCode i ∧ ∀ i' < i, ¬ StopAt upperCase route fromCode i') ∧
      StopAt upperCase route toCode j

/-! ## What it does answer -/

/-- Offers that passed their checks have an id each. -/
theorem validateOffersFrom_ok {sourceDescription : String} {offerIds : List String}
    (h : validateOffersFrom sourceDescription offerIds offers = .ok ()) :
    (offers.map TransitOffer.offerId).Nodup ∧
      ∀ offer ∈ offers, offer.offerId ∉ offerIds ∧ 2 ≤ offer.route.length := by
  induction offers generalizing offerIds with
  | nil => exact ⟨List.nodup_nil, fun _ h => absurd h List.not_mem_nil⟩
  | cons offer offers ih =>
    rw [validateOffersFrom] at h
    split at h
    · cases h
    · rename_i hshape
      split at h
      · cases h
      · rename_i hfresh
        split at h
        · cases h
        · obtain ⟨_, -, h⟩ := Except.bind_ok.mp h
          obtain ⟨hnodup, hrest⟩ := ih h
          refine ⟨?_, ?_⟩
          · rw [List.map_cons, List.nodup_cons]
            refine ⟨fun hmem => ?_, hnodup⟩
            obtain ⟨other, hother, hid⟩ := List.mem_map.mp hmem
            exact (hrest other hother).1 (hid ▸ List.mem_cons_self)
          · intro other hmem
            rcases List.mem_cons.mp hmem with rfl | hmem
            · exact ⟨hfresh, by omega⟩
            · exact ⟨fun hin => (hrest other hmem).1 (List.mem_cons_of_mem _ hin),
                (hrest other hmem).2⟩

/-- The first stop of a code. -/
theorem codeIndex_eq (upperCase : String → String) (route : List RouteStop) (code : String) :
    (codeIndex upperCase route code = -1 ∧ ∀ i, ¬ StopAt upperCase route code i) ∨
      ∃ i : ℕ, codeIndex upperCase route code = i ∧ StopAt upperCase route code i ∧
        ∀ i' < i, ¬ StopAt upperCase route code i' := by
  cases hfind : route.findIdx? fun stop =>
      normalized upperCase stop.code = normalized upperCase (some code) with
  | none =>
    refine Or.inl ⟨by rw [codeIndex, hfind]; rfl, ?_⟩
    rintro i ⟨stop, hstop, hcode⟩
    have hnone := List.findIdx?_eq_none_iff.mp hfind stop (List.mem_of_getElem? hstop)
    exact absurd hcode (by simpa using hnone)
  | some i =>
    obtain ⟨hlt, hat, hbefore⟩ := List.findIdx?_eq_some_iff_getElem.mp hfind
    refine Or.inr ⟨i, by rw [codeIndex, hfind]; rfl,
      ⟨route[i], List.getElem?_eq_getElem hlt, of_decide_eq_true hat⟩, ?_⟩
    rintro i' hi' ⟨stop, hstop, hcode⟩
    have hnot := hbefore i' hi'
    have hstop' := List.getElem?_eq_getElem (hi'.trans hlt)
    rw [hstop'] at hstop
    obtain rfl := Option.some.inj hstop
    exact hnot (by simpa using hcode)

/-- The part of one offer between two codes. -/
def partOf (upperCase : String → String) (fromCode toCode : String) (offer : TransitOffer) :
    Option TransitOffer :=
  sliceOffer offer (codeIndex upperCase offer.route fromCode)
    (codeIndex upperCase offer.route toCode)

/-- A search by two codes looks at one offer after the other. -/
theorem search_eq {nearestStopIndex : List RouteStop → Gps → ℤ} {query : SearchQuery}
    {fromCode toCode : String} (hfrom : query.fromCode = some fromCode) (hfrom' : fromCode ≠ "")
    (hto : query.toCode = some toCode) (hto' : toCode ≠ "") :
    search upperCase nearestStopIndex offers query =
      offers.filterMap (partOf upperCase fromCode toCode) := by
  have hgiven : given query.fromCode = some fromCode := by simp [given, hfrom, hfrom']
  have hgiven' : given query.toCode = some toCode := by simp [given, hto, hto']
  simp only [search, endIndex, hgiven, hgiven', Option.isSome_some, Bool.true_or, Bool.and_true,
    if_true]
  rfl

/-- What part of an offer is found is a ride on it, from its first stop of the one code. -/
theorem partOf_eq_some {fromCode toCode : String} {part : TransitOffer}
    (h : partOf upperCase fromCode toCode offer = some part) :
    ∃ i j, Rides upperCase offer.route fromCode toCode i j ∧
      (∀ i' < i, ¬ StopAt upperCase offer.route fromCode i') ∧
      (∀ j' < j, ¬ StopAt upperCase offer.route toCode j') ∧
        part = { offer with route := (offer.route.take (j + 1)).drop i } := by
  rw [partOf, sliceOffer] at h
  split at h
  · cases h
  · rename_i hbounds
    obtain rfl := Option.some.inj h
    rcases codeIndex_eq upperCase offer.route fromCode with ⟨hnone, -⟩ | ⟨i, hi, hat, hfirst⟩
    · rw [hnone] at hbounds
      omega
    · rcases codeIndex_eq upperCase offer.route toCode with ⟨hnone, -⟩ | ⟨j, hj, hat', hfirst'⟩
      · rw [hi, hnone] at hbounds
        omega
      · rw [hi, hj] at hbounds ⊢
        refine ⟨i, j, ⟨by omega, hat, hat'⟩, hfirst, hfirst', ?_⟩
        rw [Int.toNat_natCast, show ((j : ℤ) + 1).toNat = j + 1 by omega]

/-- It is found if the first stop of the one code comes before that of the other. -/
theorem partOf_isSome {fromCode toCode : String} {i j : ℕ}
    (h : Rides upperCase offer.route fromCode toCode i j)
    (hback : ¬ ComesBack upperCase offer.route fromCode toCode) :
    (partOf upperCase fromCode toCode offer).isSome := by
  obtain ⟨hlt, hat, hat'⟩ := h
  rcases codeIndex_eq upperCase offer.route fromCode with ⟨-, hnone⟩ | ⟨first, hi, hfrom, hfirst⟩
  · exact absurd hat (hnone i)
  · rcases codeIndex_eq upperCase offer.route toCode with ⟨-, hnone⟩ | ⟨first', hj, hto, -⟩
    · exact absurd hat' (hnone j)
    · have hle : first ≤ i := not_lt.mp fun hlt => hfirst i hlt hat
      have hbefore : first < first' := by
        by_contra hge
        exact hback ⟨first', first, j, not_lt.mp hge, by omega, hto, ⟨hfrom, hfirst⟩, hat'⟩
      rw [partOf, sliceOffer, hi, hj, if_neg (by omega), Option.isSome_some]

theorem offerId_of_partOf {fromCode toCode : String} {part : TransitOffer}
    (h : partOf upperCase fromCode toCode offer = some part) : part.offerId = offer.offerId := by
  obtain ⟨i, j, -, -, -, rfl⟩ := partOf_eq_some h
  rfl

/-- What is found keeps its order. -/
theorem sublist_filterMap {fromCode toCode : String} :
    ((offers.filterMap (partOf upperCase fromCode toCode)).map TransitOffer.offerId).Sublist
      (offers.map TransitOffer.offerId) := by
  induction offers with
  | nil => exact List.Sublist.refl _
  | cons offer offers ih =>
    rw [List.filterMap_cons]
    cases hpart : partOf upperCase fromCode toCode offer with
    | none => exact ih.cons _
    | some part =>
      rw [List.map_cons, List.map_cons, offerId_of_partOf hpart]
      exact ih.cons_cons _

/-- **A search by two codes is right exactly if no offer's route comes back to its end.** -/
theorem search_right_iff {sourceDescription : String}
    (hoffers : validateOfferSet offers sourceDescription = .ok ()) (upperCase : String → String)
    (nearestStopIndex : List RouteStop → Gps → ℤ) {query : SearchQuery} {fromCode toCode : String}
    (hfrom : query.fromCode = some fromCode) (hfrom' : fromCode ≠ "")
    (hto : query.toCode = some toCode) (hto' : toCode ≠ "") :
    SearchRight upperCase offers (search upperCase nearestStopIndex offers query) fromCode toCode ↔
      ∀ offer ∈ offers, ¬ ComesBack upperCase offer.route fromCode toCode := by
  obtain ⟨hnodup, -⟩ := validateOffersFrom_ok hoffers
  rw [search_eq hfrom hfrom' hto hto']
  -- an id is that of one offer
  have hfound : ∀ offer ∈ offers, (∃ part ∈ offers.filterMap (partOf upperCase fromCode toCode),
      part.offerId = offer.offerId) ↔ (partOf upperCase fromCode toCode offer).isSome := by
    intro offer hoffer
    constructor
    · rintro ⟨part, hpart, hid⟩
      obtain ⟨other, hother, hpart⟩ := List.mem_filterMap.mp hpart
      have hsame := (offerId_of_partOf hpart).symm.trans hid
      obtain rfl := List.inj_on_of_nodup_map hnodup hother hoffer hsame
      rw [hpart, Option.isSome_some]
    · intro hsome
      obtain ⟨part, hpart⟩ := Option.isSome_iff_exists.mp hsome
      exact ⟨part, List.mem_filterMap.mpr ⟨offer, hoffer, hpart⟩, offerId_of_partOf hpart⟩
  constructor
  · rintro hright offer hoffer ⟨k, i, j, hk, hj, hatK, ⟨hatI, hfirst⟩, hatJ⟩
    have hsome := (hfound offer hoffer).mp
      ((hright.found_iff offer hoffer).mpr ⟨i, j, hj, hatI, hatJ⟩)
    obtain ⟨part, hpart⟩ := Option.isSome_iff_exists.mp hsome
    -- the code's ride starts at the first stop of the one code, and ends before it
    obtain ⟨i', j', ⟨hlt, hatI', hatJ'⟩, hfirstI, hfirstJ, -⟩ := partOf_eq_some hpart
    have hsame : i' = i := by
      rcases Nat.lt_trichotomy i' i with hlt | heq | hgt
      · exact absurd hatI' (hfirst i' hlt)
      · exact heq
      · exact absurd hatI (hfirstI i hgt)
    exact hfirstJ k (by omega) hatK
  · intro hback
    refine ⟨fun offer hoffer => ?_, fun part hpart => ?_, sublist_filterMap,
      hnodup.sublist sublist_filterMap⟩
    · rw [hfound offer hoffer]
      constructor
      · intro hsome
        obtain ⟨part, hpart⟩ := Option.isSome_iff_exists.mp hsome
        obtain ⟨i, j, hrides, -⟩ := partOf_eq_some hpart
        exact ⟨i, j, hrides⟩
      · rintro ⟨i, j, hrides⟩
        exact partOf_isSome hrides (hback offer hoffer)
    · obtain ⟨offer, hoffer, hpart⟩ := List.mem_filterMap.mp hpart
      obtain ⟨i, j, hrides, -, -, heq⟩ := partOf_eq_some hpart
      exact ⟨offer, hoffer, i, j, hrides, heq⟩

/-! ### A circular route -/

/-- A stop with this code. -/
def specimenStop (code : String) : RouteStop := ⟨some code, code, none, "12.9", "77.6", false, none⟩

/-- An offer along stops of these codes. -/
def specimenOffer (codes : List String) : TransitOffer where
  offerId := "O1"
  productName := "Single"
  farePaise := 500
  serviceTier := none
  validity := "PT1H"
  route := codes.map specimenStop
  routeId := "R1"
  routeName := "Ring road"
  routeColor := none

/-- A query from one code to another. -/
def specimenQuery (fromCode toCode : String) : SearchQuery := ⟨some fromCode, some toCode, none, none⟩

theorem stopAt_specimen {codes : List String} {code : String} {i : ℕ} (h : codes[i]? = some code) :
    StopAt toUpperCase (codes.map specimenStop) code i :=
  ⟨specimenStop code, by rw [List.getElem?_map, h, Option.map_some], rfl⟩

/-- From the second stop of a ring there is a ride to its end, which the search does not find. -/
theorem ring_not_found : validateOfferSet [specimenOffer ["A", "B", "C", "A"]] "Fixture" = .ok () ∧
    ¬ SearchRight toUpperCase [specimenOffer ["A", "B", "C", "A"]]
      (search toUpperCase (fun _ _ => -1) [specimenOffer ["A", "B", "C", "A"]]
        (specimenQuery "B" "A")) "B" "A" := by
  refine ⟨by decide +kernel, fun hright => ?_⟩
  have hnone : search toUpperCase (fun _ _ => -1) [specimenOffer ["A", "B", "C", "A"]]
      (specimenQuery "B" "A") = [] := by
    have hlength : (search toUpperCase (fun _ _ => -1) [specimenOffer ["A", "B", "C", "A"]]
      (specimenQuery "B" "A")).length = 0 := by decide +kernel
    exact List.eq_nil_of_length_eq_zero hlength
  rw [hnone] at hright
  obtain ⟨part, hpart, -⟩ := (hright.found_iff _ (List.mem_singleton_self _)).mpr
    ⟨1, 3, by decide, stopAt_specimen rfl, stopAt_specimen rfl⟩
  cases hpart

/-- From its first stop to its third the search is right. -/
theorem search_right_iff_specimen :
    SearchRight toUpperCase [specimenOffer ["A", "B", "C", "D"]]
      (search toUpperCase (fun _ _ => -1) [specimenOffer ["A", "B", "C", "D"]]
        (specimenQuery "A" "C")) "A" "C" := by
  refine (@search_right_iff [specimenOffer ["A", "B", "C", "D"]] "Fixture" (by decide +kernel)
    toUpperCase _ (specimenQuery "A" "C") "A" "C" rfl (by decide) rfl (by decide)).mpr ?_
  rintro offer hoffer ⟨k, i, j, hk, -, ⟨stop, hstop, hcode⟩, ⟨⟨stop', hstop', hcode'⟩, -⟩, -⟩
  obtain rfl := List.mem_singleton.mp hoffer
  -- the first stop is the only one to start at, and not one to go to
  have hi : i = 0 := by
    match i, hstop' with
    | 0, _ => rfl
    | 1, hstop' | 2, hstop' | 3, hstop' =>
      obtain rfl := Option.some.inj hstop'
      exact absurd hcode' (by decide)
  obtain rfl : k = 0 := by omega
  obtain rfl := Option.some.inj hstop
  exact absurd hcode (by decide)

end TransitBpp.Trv11
