import TransitBpp.Handlers

/-!
# Orders as they are rendered, cancelled and redacted

What `renderOrder`, `cancelledOrder` and `withoutManifestNames` make of an order. `Rendered` is
the inversion of the first. A `SeatView` is the part of an order that says which seats it holds:
its status, its `SEATS` and `CANCELLED_SEATS` groups and the seats its manifests name. A redaction
leaves the view alone, and a cancellation replaces it by what its seats say.
-/

namespace TransitBpp

open Js

/-! ## Rendering -/

/-- What a rendered order is. -/
structure Rendered (input : BuildOrder) (order : Order) : Prop where
  /-- its quote is that of the input -/
  quote : input.quote = .ok order.quote
  /-- its status is the one asked for -/
  status : order.status = input.status
  /-- it names its seats in one group, and has no manifest beside it -/
  tags : ∃ before after, order.tags =
    before ++ (if input.seatIds.length > 0 then [seatsTag input.seatIds] else []) ++ after ∧
      ∀ t ∈ before ++ after, t.code ≠ "SEATS" ∧ t.code ≠ "CANCELLED_SEATS" ∧ t.code ≠ "MANIFEST"
  /-- its items carry no manifest -/
  items : ∀ item ∈ order.items, ∀ t ∈ item.tags, t.code ≠ "MANIFEST"
  /-- its one fulfillment has the tags asked for, and its stops carry no manifest -/
  fulfillments : ∃ f, order.fulfillments = [f] ∧ f.tags = input.fulfillmentTags ∧
    ∀ stop ∈ f.stops, ∀ t ∈ stop.tags, t.code ≠ "MANIFEST"
  /-- its contact is the one asked for -/
  billing : order.billing = input.billing
  /-- and so are its payments, which are numbered -/
  payments : ∃ number : JsonObject → ℕ → JsonObject,
    order.payments = input.payments.map fun ps => ps.zipIdx.map fun p => number p.1 p.2

theorem reservedItem_tags {service : ReservedService} {travelDate : String} {pricePaise : ℤ}
    {pair : BoardingPair} {sourcing : SourcingLabel} {available : Option ℕ} {selected : Option ℤ}
    {item : Item} (h : reservedItem service travelDate pricePaise pair sourcing available selected =
      .ok item) : ∀ t ∈ item.tags, t.code ≠ "MANIFEST" := by
  obtain ⟨itemId, -, h⟩ := Except.bind_ok.mp h
  obtain ⟨shown, -, h⟩ := Except.bind_ok.mp h
  obtain ⟨departure, -, h⟩ := Except.bind_ok.mp h
  obtain rfl := Except.ok.inj h
  intro t ht
  simp only [List.mem_cons, List.not_mem_nil, or_false] at ht
  rcases ht with rfl | rfl | rfl | rfl | rfl | rfl <;> simp [serviceInfoTag, pricedForTag,
    operatorDisclosureTag, serviceProvenanceTag, simulatedInventoryTag, specimenTag]

theorem stopAt_tags {service : ReservedService} {travelDate id : String} {parent : Option String}
    {type : StopType} {point : BoardingPoint} {roles : List String} {stop : Stop}
    (h : stopAt service travelDate id parent type point roles = .ok stop) :
    stop.tags = [stopRoleTag roles] := by
  obtain ⟨timestamp, -, h⟩ := Except.bind_ok.mp h
  obtain rfl := Except.ok.inj h
  rfl

theorem orderFulfillment_ok {service : ReservedService} {travelDate : String} {pair : BoardingPair}
    {tags : List Tag} {f : Fulfillment} (h : orderFulfillment service travelDate pair tags = .ok f) :
    f.tags = tags ∧ ∀ stop ∈ f.stops, ∀ t ∈ stop.tags, t.code ≠ "MANIFEST" := by
  obtain ⟨itemId, -, h⟩ := Except.bind_ok.mp h
  obtain ⟨boarding, -, h⟩ := Except.bind_ok.mp h
  obtain ⟨dropping, -, h⟩ := Except.bind_ok.mp h
  obtain ⟨start, hstart, h⟩ := Except.bind_ok.mp h
  obtain ⟨stop, hstop, h⟩ := Except.bind_ok.mp h
  obtain rfl := Except.ok.inj h
  refine ⟨rfl, fun s hs t ht => ?_⟩
  simp only [List.mem_cons, List.not_mem_nil, or_false] at hs
  rcases hs with rfl | rfl
  · rw [stopAt_tags hstart, List.mem_singleton] at ht
    rw [ht]
    simp [stopRoleTag]
  · rw [stopAt_tags hstop, List.mem_singleton] at ht
    rw [ht]
    simp [stopRoleTag]

/-- Inversion for `renderOrder`. -/
theorem renderOrder_ok {d : Deployment} {input : BuildOrder} {snapshot : Snapshot} {order : Order}
    (h : renderOrder d input snapshot = .ok order) : Rendered input order := by
  obtain ⟨quote, hquote, h⟩ := Except.bind_ok.mp h
  obtain ⟨item, hitem, h⟩ := Except.bind_ok.mp h
  obtain ⟨f, hf, h⟩ := Except.bind_ok.mp h
  obtain ⟨createdAt, -, h⟩ := Except.bind_ok.mp h
  obtain ⟨htags, hstops⟩ := orderFulfillment_ok hf
  have hitems : ∀ i ∈ [item], ∀ t ∈ i.tags, t.code ≠ "MANIFEST" := by
    intro i hi
    rw [List.mem_singleton.mp hi]
    exact reservedItem_tags hitem
  have hbefore : ∀ t ∈ [specimenTag specimenNotice,
      seatMapTag input.resolved.seatMap.seatMapId snapshot.states,
      seatMapLayoutTag input.resolved.seatMap],
      t.code ≠ "SEATS" ∧ t.code ≠ "CANCELLED_SEATS" ∧ t.code ≠ "MANIFEST" := by
    intro t ht
    simp only [List.mem_cons, List.not_mem_nil, or_false] at ht
    rcases ht with rfl | rfl | rfl <;> simp [specimenTag, seatMapTag, seatMapLayoutTag]
  dsimp only at h
  split at h
  · obtain ⟨holdTags, hhold, h⟩ := Except.bind_ok.mp h
    obtain rfl := Except.ok.inj hhold
    obtain rfl := Except.ok.inj h
    refine ⟨hquote, rfl, ⟨_, [], rfl, fun t ht => ?_⟩, hitems, ⟨f, rfl, htags, hstops⟩, rfl,
      ⟨numberPayment d, rfl⟩⟩
    rw [List.append_nil] at ht
    exact hbefore t ht
  · obtain ⟨tag, htag, h⟩ := Except.bind_ok.mp h
    obtain ⟨holdTags, hhold, h⟩ := Except.bind_ok.mp h
    obtain ⟨expires, -, htag⟩ := Except.bind_ok.mp htag
    obtain rfl := Except.ok.inj htag
    obtain rfl := Except.ok.inj hhold
    obtain rfl := Except.ok.inj h
    refine ⟨hquote, rfl, ⟨_, _, rfl, fun t ht => ?_⟩, hitems, ⟨f, rfl, htags, hstops⟩, rfl,
      ⟨numberPayment d, rfl⟩⟩
    rcases List.mem_append.mp ht with ht | ht
    · exact hbefore t ht
    · rw [List.mem_singleton.mp ht]
      simp

/-! ## The seats an order names -/

/-- The seats a tag names. -/
def Tag.seatIds (tag : Tag) : List String :=
  (tag.list.filter fun e => e.code = "SEAT_ID").map TagEntry.value

/-- The seats the groups of one code name. -/
def namedIn (code : String) (tags : List Tag) : List String :=
  (tags.filter fun t => t.code = code).flatMap Tag.seatIds

/-- The part of an order that says which seats it holds. -/
structure SeatView : Type where
  /-- the status -/
  status : Option OrderStatus
  /-- the seats of its `SEATS` group -/
  seats : List String
  /-- the seats of its `CANCELLED_SEATS` group -/
  cancelled : List String
  /-- the seats its `MANIFEST` groups name -/
  manifest : List String
  deriving DecidableEq, Repr

/-- Which seats an order says it holds. -/
def Order.seatView (order : Order) : SeatView where
  status := order.status
  seats := namedIn "SEATS" order.tags
  cancelled := namedIn "CANCELLED_SEATS" order.tags
  manifest := namedIn "MANIFEST" order.allTags

@[simp] theorem namedIn_append (code : String) (tags tags' : List Tag) :
    namedIn code (tags ++ tags') = namedIn code tags ++ namedIn code tags' := by
  simp [namedIn]

theorem namedIn_cons (code : String) (tag : Tag) (tags : List Tag) :
    namedIn code (tag :: tags) =
      (if tag.code = code then tag.seatIds else []) ++ namedIn code tags := by
  by_cases h : tag.code = code <;> simp [namedIn, h]

theorem namedIn_eq_nil {code : String} {tags : List Tag} (h : ∀ t ∈ tags, t.code ≠ code) :
    namedIn code tags = [] := by
  rw [namedIn, List.filter_eq_nil_iff.mpr fun t ht => by simpa using h t ht, List.flatMap_nil]

theorem mem_namedIn {code seatId : String} {tags : List Tag} :
    seatId ∈ namedIn code tags ↔ ∃ t ∈ tags, t.code = code ∧ seatId ∈ t.seatIds := by
  simp [namedIn, and_assoc]

@[simp] theorem seatIds_seatEntries (code : String) (display : Bool) (seatIds : List String) :
    (⟨code, display, seatEntries seatIds⟩ : Tag).seatIds = seatIds := by
  simp only [Tag.seatIds, seatEntries, List.filter_map, List.map_map]
  rw [List.filter_eq_self.mpr (by simp)]
  exact List.map_id _

/-- A manifest names the seats of its records. -/
@[simp] theorem seatIds_manifestTagFrom (records : List ManifestRecord) :
    (manifestTagFrom records).seatIds = records.map ManifestRecord.seatId := by
  rw [Tag.seatIds, manifestTagFrom]
  induction records with
  | nil => rfl
  | cons record records ih =>
    have hone : (record.entries.filter fun e => e.code = "SEAT_ID") =
        [⟨"SEAT_ID", record.seatId⟩] := by
      rw [ManifestRecord.entries]
      rcases record.age with _ | age <;> rcases record.gender with _ | gender <;> rfl
    rw [List.flatMap_cons, List.filter_append, List.map_append, ih, hone]
    rfl

/-! ### Redaction -/

theorem Tag.code_withoutManifestNames (tag : Tag) : tag.withoutManifestNames.code = tag.code := by
  unfold Tag.withoutManifestNames
  split <;> rfl

theorem Tag.seatIds_withoutManifestNames (tag : Tag) :
    tag.withoutManifestNames.seatIds = tag.seatIds := by
  unfold Tag.withoutManifestNames
  split
  · simp [Tag.seatIds, List.filter_filter]
  · rfl

theorem namedIn_withoutManifestNames (code : String) (tags : List Tag) :
    namedIn code (tags.map Tag.withoutManifestNames) = namedIn code tags := by
  induction tags with
  | nil => rfl
  | cons tag tags ih =>
    rw [List.map_cons, namedIn_cons, namedIn_cons, ih, tag.code_withoutManifestNames,
      tag.seatIds_withoutManifestNames]

/-- What a redaction does to an order, the buyer's own objects apart. -/
theorem Order.withoutManifestNames_ok {order order' : Order}
    (h : order.withoutManifestNames = .ok order') : order' = { order with
      items := order.items.map Item.withoutManifestNames
      fulfillments := order.fulfillments.map Fulfillment.withoutManifestNames
      billing := order'.billing
      payments := order'.payments
      tags := order.tags.map Tag.withoutManifestNames } := by
  obtain ⟨billing, -, h⟩ := Except.bind_ok.mp h
  obtain ⟨payments, -, h⟩ := Except.bind_ok.mp h
  obtain rfl := Except.ok.inj h
  rfl

theorem Order.allTags_withoutManifestNames {order order' : Order}
    (h : order.withoutManifestNames = .ok order') :
    order'.allTags = order.allTags.map Tag.withoutManifestNames := by
  have hitems : ∀ items : List Item, (items.map Item.withoutManifestNames).flatMap Item.tags =
      (items.flatMap Item.tags).map Tag.withoutManifestNames := by
    intro items
    rw [List.map_flatMap, List.flatMap_map]
    rfl
  have hstops : ∀ stops : List Stop, (stops.map Stop.withoutManifestNames).flatMap Stop.tags =
      (stops.flatMap Stop.tags).map Tag.withoutManifestNames := by
    intro stops
    rw [List.map_flatMap, List.flatMap_map]
    rfl
  have hfulfillments : ∀ fs : List Fulfillment, (fs.map Fulfillment.withoutManifestNames).flatMap
      (fun f => f.stops.flatMap Stop.tags ++ f.tags) =
        (fs.flatMap fun f => f.stops.flatMap Stop.tags ++ f.tags).map
          Tag.withoutManifestNames := by
    intro fs
    rw [List.map_flatMap, List.flatMap_map]
    refine List.flatMap_congr fun f _ => ?_
    rw [List.map_append, ← hstops]
    rfl
  rw [Order.withoutManifestNames_ok h]
  simp only [Order.allTags, hitems, hfulfillments, List.map_append]

/-- A redaction leaves the seat view alone. -/
theorem Order.seatView_withoutManifestNames {order order' : Order}
    (h : order.withoutManifestNames = .ok order') : order'.seatView = order.seatView := by
  have htags : order'.tags = order.tags.map Tag.withoutManifestNames := by
    rw [Order.withoutManifestNames_ok h]
  have hstatus : order'.status = order.status := by
    rw [Order.withoutManifestNames_ok h]
  rw [Order.seatView, htags, hstatus, Order.allTags_withoutManifestNames h,
    namedIn_withoutManifestNames, namedIn_withoutManifestNames, namedIn_withoutManifestNames]
  rfl

/-! ### Where seats are named -/

/-- An order names seats in its own tags, and passengers only in its fulfillments'. -/
structure Order.Shaped (order : Order) : Prop where
  /-- it has a group of seats, which a cancellation replaces in place -/
  placed : ∃ t ∈ order.tags, t.code = "SEATS" ∨ t.code = "CANCELLED_SEATS"
  /-- no manifest is anywhere but among the tags of a fulfillment -/
  plain : ∀ t ∈ order.items.flatMap Item.tags ++
    order.fulfillments.flatMap (fun f => f.stops.flatMap Stop.tags) ++ order.tags,
      t.code ≠ "MANIFEST"

/-- So its manifests are those of its fulfillments. -/
theorem Order.Shaped.mem_manifest {order : Order} (h : order.Shaped) {seatId : String} :
    seatId ∈ order.seatView.manifest ↔
      ∃ f ∈ order.fulfillments, seatId ∈ namedIn "MANIFEST" f.tags := by
  change seatId ∈ namedIn "MANIFEST" order.allTags ↔ _
  rw [mem_namedIn]
  constructor
  · rintro ⟨t, ht, hcode, hseat⟩
    simp only [allTags, List.mem_append, List.mem_flatMap] at ht
    rcases ht with (ht | ⟨f, hf, ht | ht⟩) | ht
    · refine absurd hcode (h.plain t ?_)
      simp only [List.mem_append, List.mem_flatMap]
      exact Or.inl (Or.inl ht)
    · refine absurd hcode (h.plain t ?_)
      simp only [List.mem_append, List.mem_flatMap]
      exact Or.inl (Or.inr ⟨f, hf, ht⟩)
    · exact ⟨f, hf, mem_namedIn.mpr ⟨t, ht, hcode, hseat⟩⟩
    · exact absurd hcode (h.plain t (List.mem_append_right _ ht))
  · rintro ⟨f, hf, hseat⟩
    obtain ⟨t, ht, hcode, hseat⟩ := mem_namedIn.mp hseat
    refine ⟨t, ?_, hcode, hseat⟩
    simp only [allTags, List.mem_append, List.mem_flatMap]
    exact Or.inl (Or.inr ⟨f, hf, Or.inr ht⟩)

theorem Rendered.shaped {input : BuildOrder} {order : Order} (h : Rendered input order)
    (hseats : input.seatIds ≠ []) : order.Shaped := by
  obtain ⟨before, after, htags, hplain⟩ := h.tags
  obtain ⟨f, hfs, -, hstops⟩ := h.fulfillments
  rw [if_pos (List.length_pos_of_ne_nil hseats)] at htags
  refine ⟨⟨seatsTag input.seatIds, by rw [htags]; simp, Or.inl rfl⟩, fun t ht => ?_⟩
  simp only [List.mem_append, List.mem_flatMap, hfs, List.mem_singleton] at ht
  rcases ht with (⟨item, hitem, ht⟩ | ⟨f', rfl, stop, hstop, ht⟩) | ht
  · exact h.items item hitem t ht
  · exact hstops stop hstop t ht
  · rw [htags] at ht
    simp only [List.mem_append, List.mem_singleton] at ht
    rcases ht with (ht | rfl) | ht
    · exact (hplain t (List.mem_append_left _ ht)).2.2
    · simp [seatsTag]
    · exact (hplain t (List.mem_append_right _ ht)).2.2

/-- What a rendered order says of its seats. -/
theorem Rendered.seatView {input : BuildOrder} {order : Order} (h : Rendered input order)
    (hseats : input.seatIds ≠ []) : order.seatView =
      ⟨input.status, input.seatIds, [], namedIn "MANIFEST" input.fulfillmentTags⟩ := by
  obtain ⟨before, after, htags, hplain⟩ := h.tags
  obtain ⟨f, hfs, hf, hstops⟩ := h.fulfillments
  rw [if_pos (List.length_pos_of_ne_nil hseats)] at htags
  have hbefore : ∀ t ∈ before, t.code ≠ "SEATS" ∧ t.code ≠ "CANCELLED_SEATS" ∧
      t.code ≠ "MANIFEST" := fun t ht => hplain t (List.mem_append_left _ ht)
  have hafter : ∀ t ∈ after, t.code ≠ "SEATS" ∧ t.code ≠ "CANCELLED_SEATS" ∧
      t.code ≠ "MANIFEST" := fun t ht => hplain t (List.mem_append_right _ ht)
  have hitems : ∀ t ∈ order.items.flatMap Item.tags, t.code ≠ "MANIFEST" := by
    intro t ht
    obtain ⟨item, hitem, ht⟩ := List.mem_flatMap.mp ht
    exact h.items item hitem t ht
  have hstopTags : ∀ t ∈ f.stops.flatMap Stop.tags, t.code ≠ "MANIFEST" := by
    intro t ht
    obtain ⟨stop, hstop, ht⟩ := List.mem_flatMap.mp ht
    exact hstops stop hstop t ht
  rw [Order.seatView, Order.allTags, htags, hfs, h.status]
  simp only [namedIn_append, namedIn_cons, List.flatMap_singleton, hf,
    namedIn_eq_nil fun t ht => (hbefore t ht).1, namedIn_eq_nil fun t ht => (hbefore t ht).2.1,
    namedIn_eq_nil fun t ht => (hbefore t ht).2.2, namedIn_eq_nil fun t ht => (hafter t ht).1,
    namedIn_eq_nil fun t ht => (hafter t ht).2.1, namedIn_eq_nil fun t ht => (hafter t ht).2.2,
    namedIn_eq_nil hitems, namedIn_eq_nil hstopTags, List.append_nil, List.nil_append]
  simp [seatsTag, namedIn]

theorem Order.Shaped.withoutManifestNames {order order' : Order} (h : order.Shaped)
    (hredact : order.withoutManifestNames = .ok order') : order'.Shaped := by
  rw [Order.withoutManifestNames_ok hredact]
  refine ⟨?_, fun t ht => ?_⟩
  · obtain ⟨t, ht, hcode⟩ := h.placed
    exact ⟨t.withoutManifestNames, List.mem_map_of_mem ht, by rwa [t.code_withoutManifestNames]⟩
  · have hfrom : ∃ t' ∈ order.items.flatMap Item.tags ++
        order.fulfillments.flatMap (fun f => f.stops.flatMap Stop.tags) ++ order.tags,
          t = t'.withoutManifestNames := by
      simp only [List.mem_append, List.mem_flatMap, List.mem_map] at ht
      rcases ht with (⟨_, ⟨item, hitem, rfl⟩, ht⟩ | ⟨_, ⟨f, hf, rfl⟩, _, hstop, ht⟩) | ⟨t', ht', rfl⟩
      · obtain ⟨t', ht', rfl⟩ := List.mem_map.mp ht
        refine ⟨t', ?_, rfl⟩
        simp only [List.mem_append, List.mem_flatMap]
        exact Or.inl (Or.inl ⟨item, hitem, ht'⟩)
      · obtain ⟨stop, hmem, rfl⟩ := List.mem_map.mp hstop
        obtain ⟨t', ht', rfl⟩ := List.mem_map.mp ht
        refine ⟨t', ?_, rfl⟩
        simp only [List.mem_append, List.mem_flatMap]
        exact Or.inl (Or.inr ⟨f, hf, stop, hmem, ht'⟩)
      · exact ⟨t', List.mem_append_right _ ht', rfl⟩
    obtain ⟨t', ht', rfl⟩ := hfrom
    rw [t'.code_withoutManifestNames]
    exact h.plain t' ht'

/-! ### Cancellation -/

theorem mem_placeSeatTags {seatTags : List Tag} {t : Tag} :
    ∀ {tags : List Tag}, t ∈ placeSeatTags seatTags tags → t ∈ seatTags ∨ t ∈ tags
  | [], h => absurd h List.not_mem_nil
  | tag :: tags, h => by
    rw [placeSeatTags] at h
    split at h
    · rcases List.mem_append.mp h with h | h
      · exact Or.inl h
      · exact Or.inr (List.mem_cons_of_mem _ (List.mem_of_mem_filter h))
    · rcases List.mem_cons.mp h with rfl | h
      · exact Or.inr (List.mem_cons_self ..)
      · exact (mem_placeSeatTags h).imp_right (List.mem_cons_of_mem _)

theorem subset_placeSeatTags {seatTags : List Tag} : ∀ {tags : List Tag},
    (∃ t ∈ tags, t.code = "SEATS" ∨ t.code = "CANCELLED_SEATS") →
      seatTags ⊆ placeSeatTags seatTags tags
  | [], h => by simp at h
  | tag :: tags, h => by
    rw [placeSeatTags]
    split
    · exact List.subset_append_left _ _
    · rename_i hne
      refine List.Subset.trans (subset_placeSeatTags ?_) (List.subset_cons_self _ _)
      obtain ⟨t, ht, hcode⟩ := h
      rcases List.mem_cons.mp ht with rfl | ht
      · exact absurd hcode hne
      · exact ⟨t, ht, hcode⟩

/-- Where an order has a group of seats, the groups after a cancellation are the new ones. -/
theorem namedIn_placeSeatTags {code : String} (hcode : code = "SEATS" ∨ code = "CANCELLED_SEATS")
    {seatTags : List Tag} : ∀ {tags : List Tag},
      (∃ t ∈ tags, t.code = "SEATS" ∨ t.code = "CANCELLED_SEATS") →
        namedIn code (placeSeatTags seatTags tags) = namedIn code seatTags
  | [], h => by simp at h
  | tag :: tags, h => by
    rw [placeSeatTags]
    split
    · have hothers : namedIn code (tags.filter fun t =>
          t.code ≠ "SEATS" ∧ t.code ≠ "CANCELLED_SEATS") = [] := by
        refine namedIn_eq_nil fun t ht => ?_
        have hne := (List.mem_filter.mp ht).2
        rw [decide_eq_true_eq] at hne
        rcases hcode with rfl | rfl
        · exact hne.1
        · exact hne.2
      rw [namedIn_append, hothers, List.append_nil]
    · rename_i hne
      have hrest : ∃ t ∈ tags, t.code = "SEATS" ∨ t.code = "CANCELLED_SEATS" := by
        obtain ⟨t, ht, hcode⟩ := h
        rcases List.mem_cons.mp ht with rfl | ht
        · exact absurd hcode hne
        · exact ⟨t, ht, hcode⟩
      rw [namedIn_cons, if_neg, List.nil_append, namedIn_placeSeatTags hcode hrest]
      rintro rfl
      exact hne hcode

/-- The seats of a list that are cancelled. -/
def cancelledOf (seats : List BookingSeatRow) : List BookingSeatRow :=
  seats.filter fun seat => seat.status = .cancelled

/-- The groups of seats of a cancelled order. -/
def seatGroups (booking : BookingRecord) : List Tag :=
  (if (confirmedOf booking.seats).length > 0 then
      [seatsTag ((confirmedOf booking.seats).map BookingSeatRow.seatId)] else []) ++
    if (cancelledOf booking.seats).length > 0 then
      [cancelledSeatsTag ((cancelledOf booking.seats).map BookingSeatRow.seatId)] else []

theorem tags_cancelledOrder (booking : BookingRecord) : (cancelledOrder booking).tags =
    placeSeatTags (seatGroups booking) booking.order.tags := rfl

/-- The groups name the confirmed and the cancelled seats. -/
theorem namedIn_seatGroups (booking : BookingRecord) :
    namedIn "SEATS" (seatGroups booking) =
        (confirmedOf booking.seats).map BookingSeatRow.seatId ∧
      namedIn "CANCELLED_SEATS" (seatGroups booking) =
        (cancelledOf booking.seats).map BookingSeatRow.seatId := by
  have hnil : ∀ code, namedIn code [] = [] := fun _ => rfl
  unfold seatGroups
  constructor
  · split <;> split <;>
      simp_all [namedIn_cons, seatsTag, cancelledSeatsTag, List.length_pos_iff]
  · split <;> split <;>
      simp_all [namedIn_cons, seatsTag, cancelledSeatsTag, List.length_pos_iff]

theorem code_seatGroups {booking : BookingRecord} {t : Tag} (h : t ∈ seatGroups booking) :
    t.code = "SEATS" ∨ t.code = "CANCELLED_SEATS" := by
  unfold seatGroups at h
  rcases List.mem_append.mp h with h | h <;> split at h
  · rw [List.mem_singleton.mp h]
    exact Or.inl rfl
  · cases h
  · rw [List.mem_singleton.mp h]
    exact Or.inr rfl
  · cases h

/-- A manifest of a cancelled order names confirmed seats. -/
theorem namedIn_manifest_cancelledOrder {booking : BookingRecord} {f : Fulfillment}
    (hf : f ∈ (cancelledOrder booking).fulfillments) {seatId : String}
    (h : seatId ∈ namedIn "MANIFEST" f.tags) :
    seatId ∈ (confirmedOf booking.seats).map BookingSeatRow.seatId := by
  obtain ⟨f', -, rfl⟩ := List.mem_map.mp hf
  obtain ⟨t, ht, hcode, hseat⟩ := mem_namedIn.mp h
  obtain ⟨tag, -, ht⟩ := List.mem_flatMap.mp ht
  split at ht
  · rename_i hne
    rw [List.mem_singleton.mp ht] at hcode
    exact absurd hcode hne
  · split at ht
    · cases ht
    · rw [List.mem_singleton.mp ht, seatIds_manifestTagFrom, List.map_map] at hseat
      exact hseat

/-- What a cancelled order says of its seats. -/
structure CancelledView (booking : BookingRecord) (view : SeatView) : Prop where
  /-- the status is the booking's -/
  status : view.status = some (if booking.status = .cancelled then .cancelled else .active)
  /-- the seats are the confirmed ones -/
  seats : view.seats = (confirmedOf booking.seats).map BookingSeatRow.seatId
  /-- the cancelled seats are the cancelled ones -/
  cancelled : view.cancelled = (cancelledOf booking.seats).map BookingSeatRow.seatId
  /-- the manifests name confirmed seats -/
  manifest : ∀ seatId ∈ view.manifest,
    seatId ∈ (confirmedOf booking.seats).map BookingSeatRow.seatId

theorem Order.Shaped.cancelledOrder {booking : BookingRecord} (h : booking.order.Shaped)
    (hseats : booking.seats ≠ []) : (cancelledOrder booking).Shaped := by
  refine ⟨?_, fun t ht => ?_⟩
  · -- some seat is confirmed or cancelled, so there is a group
    obtain ⟨seat, rest, hcons⟩ := List.exists_cons_of_ne_nil hseats
    have hgroup : ∃ t, t ∈ seatGroups booking := by
      unfold seatGroups
      rcases hstatus : seat.status with _ | _
      · rw [if_pos (List.length_pos_of_mem (a := seat) (by simp [confirmedOf, hcons, hstatus]))]
        exact ⟨_, List.mem_append_left _ (List.mem_singleton_self _)⟩
      · rw [if_pos (c := (cancelledOf booking.seats).length > 0)
          (List.length_pos_of_mem (a := seat) (by simp [cancelledOf, hcons, hstatus]))]
        exact ⟨_, List.mem_append_right _ (List.mem_singleton_self _)⟩
    obtain ⟨t, ht⟩ := hgroup
    exact ⟨t, subset_placeSeatTags h.placed ht, code_seatGroups ht⟩
  · simp only [List.mem_append, List.mem_flatMap] at ht
    rcases ht with (ht | ⟨f, hf, ht⟩) | ht
    · refine h.plain t ?_
      simp only [List.mem_append, List.mem_flatMap]
      exact Or.inl (Or.inl ht)
    · obtain ⟨f', hf', rfl⟩ := List.mem_map.mp hf
      refine h.plain t ?_
      simp only [List.mem_append, List.mem_flatMap]
      exact Or.inl (Or.inr ⟨f', hf', ht⟩)
    · rcases mem_placeSeatTags ht with ht | ht
      · rcases code_seatGroups ht with hcode | hcode <;> rw [hcode] <;> simp
      · exact h.plain t (List.mem_append_right _ ht)

/-- **The order after a cancellation** says what the seats it was built from say. -/
theorem cancelledOrder_seatView {booking : BookingRecord} (h : booking.order.Shaped)
    (hseats : booking.seats ≠ []) : CancelledView booking (cancelledOrder booking).seatView := by
  obtain ⟨hconfirmed, hcancelled⟩ := namedIn_seatGroups booking
  refine ⟨rfl, ?_, ?_, fun seatId hseat => ?_⟩
  · exact (namedIn_placeSeatTags (Or.inl rfl) h.placed).trans hconfirmed
  · exact (namedIn_placeSeatTags (Or.inr rfl) h.placed).trans hcancelled
  · obtain ⟨f, hf, hnamed⟩ := (h.cancelledOrder hseats).mem_manifest.mp hseat
    exact namedIn_manifest_cancelledOrder hf hnamed

end TransitBpp
