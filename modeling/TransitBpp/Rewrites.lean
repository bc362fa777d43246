import TransitBpp.Orders

/-!
# A cancelled order, written again

`cancelledOrder` is applied to what it made before. `Order.without` is what it comes to: the order
that was sold, without some of its seats. Taking more seats away from what was taken before is
taking them all from the order that was sold, so a stored order depends on which seats are
cancelled and not on how they came to be.
-/

namespace TransitBpp

open Js

/-! ## An order without some of its seats -/

/-- The passengers that remain. -/
def remainingOf (passengers : List ManifestRecord) (cancelled : List String) :
    List ManifestRecord :=
  passengers.filter fun record => record.seatId ∉ cancelled

/-- The passengers whose seats were released. -/
def releasedOf (passengers : List ManifestRecord) (cancelled : List String) :
    List ManifestRecord :=
  passengers.filter fun record => record.seatId ∈ cancelled

/-- The groups of seats: those that remain and those that were released, without empty ones. -/
def groupsOf (passengers : List ManifestRecord) (cancelled : List String) : List Tag :=
  (if remainingOf passengers cancelled = [] then []
    else [seatsTag ((remainingOf passengers cancelled).map ManifestRecord.seatId)]) ++
  if releasedOf passengers cancelled = [] then []
    else [cancelledSeatsTag ((releasedOf passengers cancelled).map ManifestRecord.seatId)]

/-- The manifest of who remains, where anybody does. -/
def manifestsOf (passengers : List ManifestRecord) (cancelled : List String) : List Tag :=
  if remainingOf passengers cancelled = [] then []
  else [manifestTagFrom (remainingOf passengers cancelled)]

/-- Every manifest replaced by others. -/
def replaceManifests (manifests tags : List Tag) : List Tag :=
  tags.flatMap fun tag => if tag.code ≠ "MANIFEST" then [tag] else manifests

/-- An order with the seats of some of its passengers cancelled. -/
def Order.without (order : Order) (passengers : List ManifestRecord) (cancelled : List String) :
    Order :=
  { order with
    status := some (if remainingOf passengers cancelled = [] then .cancelled else .active)
    tags := placeSeatTags (groupsOf passengers cancelled) order.tags
    fulfillments := order.fulfillments.map fun f =>
      { f with tags := replaceManifests (manifestsOf passengers cancelled) f.tags } }

variable {passengers : List ManifestRecord} {cancelled cancelled' : List String}

/-- Only which seats are cancelled matters. -/
theorem Order.without_congr (order : Order)
    (h : ∀ record ∈ passengers, record.seatId ∈ cancelled ↔ record.seatId ∈ cancelled') :
    order.without passengers cancelled = order.without passengers cancelled' := by
  have hremaining : remainingOf passengers cancelled = remainingOf passengers cancelled' :=
    List.filter_congr fun record hrecord => by rw [decide_eq_decide, h record hrecord]
  have hreleased : releasedOf passengers cancelled = releasedOf passengers cancelled' :=
    List.filter_congr fun record hrecord => by rw [decide_eq_decide, h record hrecord]
  simp only [without, groupsOf, manifestsOf, hremaining, hreleased]

/-! ### Taking more away -/

/-- Groups placed where others were placed replace them. -/
theorem placeSeatTags_placeSeatTags {first second : List Tag} (hfirst : first ≠ [])
    (hseats : ∀ t ∈ first, t.code = "SEATS" ∨ t.code = "CANCELLED_SEATS") : ∀ tags : List Tag,
      placeSeatTags second (placeSeatTags first tags) = placeSeatTags second tags
  | [] => rfl
  | tag :: tags => by
    rw [placeSeatTags]
    split
    · rename_i htag
      obtain ⟨group, groups, rfl⟩ := List.exists_cons_of_ne_nil hfirst
      have hnone : groups.filter (fun t => t.code ≠ "SEATS" ∧ t.code ≠ "CANCELLED_SEATS") = [] := by
        refine List.filter_eq_nil_iff.mpr fun t ht => ?_
        rcases hseats t (.tail _ ht) with hcode | hcode <;> rw [hcode] <;> decide
      rw [List.cons_append, placeSeatTags, if_pos (hseats group (.head _)), List.filter_append,
        hnone, List.nil_append, List.filter_filter, placeSeatTags, if_pos htag]
      simp only [Bool.and_self]
    · rename_i htag
      rw [placeSeatTags, if_neg htag, placeSeatTags, if_neg htag,
        placeSeatTags_placeSeatTags hfirst hseats tags]

/-- So do manifests, unless there is none left to replace. -/
theorem replaceManifests_replaceManifests {first second : List Tag}
    (hfirst : (∃ tag, first = [tag] ∧ tag.code = "MANIFEST") ∨ first = [] ∧ second = [])
    (tags : List Tag) :
    replaceManifests second (replaceManifests first tags) = replaceManifests second tags := by
  rw [replaceManifests, replaceManifests, List.flatMap_assoc, replaceManifests]
  refine List.flatMap_congr fun tag _ => ?_
  by_cases hcode : tag.code = "MANIFEST"
  · rcases hfirst with ⟨manifest, rfl, hmanifest⟩ | ⟨rfl, rfl⟩
    · simp [hcode, hmanifest]
    · simp [hcode]
  · simp [hcode]

theorem code_groupsOf {t : Tag} (h : t ∈ groupsOf passengers cancelled) :
    t.code = "SEATS" ∨ t.code = "CANCELLED_SEATS" := by
  unfold groupsOf at h
  rcases List.mem_append.mp h with h | h <;> split at h
  · cases h
  · exact .inl (by rw [List.mem_singleton.mp h]; rfl)
  · cases h
  · exact .inr (by rw [List.mem_singleton.mp h]; rfl)

/-- Every passenger remains or was released. -/
theorem groupsOf_ne_nil (h : passengers ≠ []) : groupsOf passengers cancelled ≠ [] := by
  intro hnil
  obtain ⟨hremaining, hreleased⟩ := List.append_eq_nil_iff.mp hnil
  obtain ⟨record, records, rfl⟩ := List.exists_cons_of_ne_nil h
  split at hremaining
  · rename_i hnone
    split at hreleased
    · rename_i hnone'
      have hin := List.filter_eq_nil_iff.mp hnone record (.head _)
      have hout := List.filter_eq_nil_iff.mp hnone' record (.head _)
      simp only [decide_not, Bool.not_eq_true', decide_eq_false_iff_not, not_not] at hin
      exact hout (decide_eq_true hin)
    · cases hreleased
  · cases hremaining

/-- **Taking more away.** What was taken before does not matter. -/
theorem Order.without_without (order : Order) (hpassengers : passengers ≠ [])
    (hmore : ∀ seatId ∈ cancelled, seatId ∈ cancelled') :
    (order.without passengers cancelled).without passengers cancelled' =
      order.without passengers cancelled' := by
  have hmanifests : (∃ tag, manifestsOf passengers cancelled = [tag] ∧ tag.code = "MANIFEST") ∨
      manifestsOf passengers cancelled = [] ∧ manifestsOf passengers cancelled' = [] := by
    by_cases hnone : remainingOf passengers cancelled = []
    · refine .inr ⟨if_pos hnone, if_pos (List.filter_eq_nil_iff.mpr fun record hrecord => ?_)⟩
      have hgone := List.filter_eq_nil_iff.mp hnone record hrecord
      simp only [decide_not, Bool.not_eq_true', decide_eq_false_iff_not, not_not] at hgone ⊢
      exact hmore _ hgone
    · exact .inl ⟨_, if_neg hnone, rfl⟩
  simp only [without, List.map_map]
  rw [placeSeatTags_placeSeatTags (groupsOf_ne_nil hpassengers) fun t ht => code_groupsOf ht]
  congr 1
  refine List.map_congr_left fun f _ => ?_
  simp only [Function.comp_apply, replaceManifests_replaceManifests hmanifests]

/-! ## What a cancellation makes of it -/

/-- A seat of a booking is cancelled exactly if its id is among those of the cancelled seats. -/
theorem mem_cancelledIds {seats : List BookingSeatRow}
    (hnodup : (seats.map BookingSeatRow.seatId).Nodup) {seat : BookingSeatRow} (hseat : seat ∈ seats) :
    seat.seatId ∈ (cancelledOf seats).map BookingSeatRow.seatId ↔ seat.status = .cancelled := by
  constructor
  · intro h
    obtain ⟨other, hother, hid⟩ := List.mem_map.mp h
    obtain ⟨hmem, hstatus⟩ := List.mem_filter.mp hother
    obtain rfl := List.inj_on_of_nodup_map hnodup hmem hseat hid
    exact of_decide_eq_true hstatus
  · exact fun h => List.mem_map_of_mem (List.mem_filter.mpr ⟨hseat, decide_eq_true h⟩)

/-- Who remains are the passengers of the confirmed seats. -/
theorem remainingOf_record {seats : List BookingSeatRow}
    (hnodup : (seats.map BookingSeatRow.seatId).Nodup) :
    remainingOf (seats.map BookingSeatRow.record)
      ((cancelledOf seats).map BookingSeatRow.seatId) =
        (confirmedOf seats).map BookingSeatRow.record := by
  rw [remainingOf, List.filter_map, confirmedOf]
  refine congrArg _ (List.filter_congr fun seat hseat => ?_)
  rw [Function.comp_apply, decide_eq_decide]
  show seat.seatId ∉ _ ↔ _
  rw [mem_cancelledIds hnodup hseat]
  cases seat.status <;> simp

theorem releasedOf_record {seats : List BookingSeatRow}
    (hnodup : (seats.map BookingSeatRow.seatId).Nodup) :
    releasedOf (seats.map BookingSeatRow.record)
      ((cancelledOf seats).map BookingSeatRow.seatId) =
        (cancelledOf seats).map BookingSeatRow.record := by
  rw [releasedOf, List.filter_map]
  refine congrArg _ (List.filter_congr fun seat hseat => ?_)
  rw [Function.comp_apply, decide_eq_decide]
  exact mem_cancelledIds hnodup hseat

theorem seatId_record (seats : List BookingSeatRow) :
    (seats.map BookingSeatRow.record).map ManifestRecord.seatId =
      seats.map BookingSeatRow.seatId := by
  rw [List.map_map]
  rfl

/-- `cancelledOrder` takes the cancelled seats away. -/
theorem cancelledOrder_eq_without {booking : BookingRecord}
    (hnodup : (booking.seats.map BookingSeatRow.seatId).Nodup)
    (hstatus : booking.status = .cancelled ↔ confirmedOf booking.seats = []) :
    cancelledOrder booking = booking.order.without (booking.seats.map BookingSeatRow.record)
      ((cancelledOf booking.seats).map BookingSeatRow.seatId) := by
  have hremaining := remainingOf_record hnodup
  have hreleased := releasedOf_record hnodup
  have hgroups : groupsOf (booking.seats.map BookingSeatRow.record)
      ((cancelledOf booking.seats).map BookingSeatRow.seatId) = seatGroups booking := by
    rw [groupsOf, seatGroups, hremaining, hreleased, seatId_record, seatId_record]
    simp only [List.map_eq_nil_iff, gt_iff_lt, List.length_pos_iff, ite_not]
  have hmanifests : manifestsOf (booking.seats.map BookingSeatRow.record)
      ((cancelledOf booking.seats).map BookingSeatRow.seatId) =
        if (confirmedOf booking.seats).length = 0 then []
        else [manifestTagFrom ((confirmedOf booking.seats).map BookingSeatRow.record)] := by
    rw [manifestsOf, hremaining]
    simp only [List.map_eq_nil_iff, List.length_eq_zero_iff]
  have hsettled : (if booking.status = .cancelled then OrderStatus.cancelled else .active) =
      if (confirmedOf booking.seats).map BookingSeatRow.record = [] then .cancelled else .active := by
    simp only [hstatus, List.map_eq_nil_iff]
  rw [Order.without, hgroups, hmanifests, hremaining, ← hsettled]
  rfl

/-! ## The order that was sold -/

/-- No group of an order is empty. -/
def Order.Full (order : Order) : Prop := ∀ t ∈ order.allTags, t.list ≠ []

/-- An order as it was confirmed: among its tags one group names its seats, and its one fulfillment
carries one manifest. -/
structure Order.Sold (order : Order) (records : List ManifestRecord) : Prop where
  /-- the group of seats -/
  tags : ∃ before after, order.tags =
    before ++ seatsTag (records.map ManifestRecord.seatId) :: after ∧
      ∀ t ∈ before ++ after, t.code ≠ "SEATS" ∧ t.code ≠ "CANCELLED_SEATS"
  /-- the manifest -/
  fulfillments : ∃ f before after, order.fulfillments = [f] ∧
    f.tags = before ++ manifestTagFrom records :: after ∧
      ∀ t ∈ before ++ after, t.code ≠ "MANIFEST"
  /-- no group is empty -/
  full : order.Full

/-- What a cancellation leaves of the order that was sold. -/
structure Rewritten (sold : Order) (passengers : List ManifestRecord) (cancelled : List String)
    (order : Order) : Prop where
  /-- everything but its status, its groups of seats and its manifest is as it was sold -/
  frame : order = { sold with
    status := order.status, tags := order.tags, fulfillments := order.fulfillments }
  /-- it is cancelled exactly if no seat remains -/
  status : order.status = some (if remainingOf passengers cancelled = [] then .cancelled else .active)
  /-- the groups of seats stand where the one stood that was sold -/
  tags : ∃ before seats after, sold.tags = before ++ seats :: after ∧ seats.code = "SEATS" ∧
    order.tags = before ++ groupsOf passengers cancelled ++ after ∧
      ∀ t ∈ before ++ after, t.code ≠ "SEATS" ∧ t.code ≠ "CANCELLED_SEATS"
  /-- the manifest of who remains stands where the one stood that was sold -/
  fulfillments : ∃ f before manifest after, sold.fulfillments = [f] ∧
    f.tags = before ++ manifest :: after ∧ manifest.code = "MANIFEST" ∧
      order.fulfillments = [{ f with tags := before ++ manifestsOf passengers cancelled ++ after }] ∧
        ∀ t ∈ before ++ after, t.code ≠ "MANIFEST"
  /-- no group is empty -/
  full : order.Full

/-- Groups are placed where the first one stands. -/
theorem placeSeatTags_append {groups before after : List Tag} {seats : Tag}
    (hseats : seats.code = "SEATS")
    (hothers : ∀ t ∈ before ++ after, t.code ≠ "SEATS" ∧ t.code ≠ "CANCELLED_SEATS") :
    placeSeatTags groups (before ++ seats :: after) = before ++ groups ++ after := by
  induction before with
  | nil =>
    rw [List.nil_append, placeSeatTags, if_pos (.inl hseats), List.nil_append]
    exact congrArg _ (List.filter_eq_self.mpr fun t ht => decide_eq_true (hothers t ht))
  | cons tag before ih =>
    have htag := hothers tag (.head _)
    rw [List.cons_append, placeSeatTags, if_neg (not_or.mpr htag),
      ih fun t ht => hothers t (.tail _ ht)]
    rfl

/-- And manifests too. -/
theorem replaceManifests_append {manifests before after : List Tag} {manifest : Tag}
    (hmanifest : manifest.code = "MANIFEST") (hothers : ∀ t ∈ before ++ after, t.code ≠ "MANIFEST") :
    replaceManifests manifests (before ++ manifest :: after) = before ++ manifests ++ after := by
  have hplain : ∀ tags : List Tag, (∀ t ∈ tags, t.code ≠ "MANIFEST") →
      replaceManifests manifests tags = tags := by
    intro tags htags
    rw [replaceManifests, List.flatMap_congr fun t ht => if_pos (htags t ht), List.flatMap_singleton']
  have hbefore := hplain before fun t ht => hothers t (List.mem_append_left _ ht)
  have hafter := hplain after fun t ht => hothers t (List.mem_append_right _ ht)
  rw [replaceManifests] at hbefore hafter ⊢
  rw [List.flatMap_append, List.flatMap_cons, hbefore, hafter, if_neg (not_not.mpr hmanifest),
    List.append_assoc]

theorem list_groupsOf {t : Tag} (h : t ∈ groupsOf passengers cancelled) : t.list ≠ [] := by
  unfold groupsOf at h
  rcases List.mem_append.mp h with h | h <;> split at h
  · cases h
  · rename_i hsome
    rw [List.mem_singleton.mp h]
    simpa [seatsTag, seatEntries] using hsome
  · cases h
  · rename_i hsome
    rw [List.mem_singleton.mp h]
    simpa [cancelledSeatsTag, seatEntries] using hsome

theorem list_manifestsOf {t : Tag} (h : t ∈ manifestsOf passengers cancelled) : t.list ≠ [] := by
  unfold manifestsOf at h
  split at h
  · cases h
  · rename_i hsome
    obtain ⟨record, records, hcons⟩ := List.exists_cons_of_ne_nil hsome
    rw [List.mem_singleton.mp h, hcons]
    simp [manifestTagFrom, ManifestRecord.entries]

/-- **What is left of the order that was sold.** -/
theorem Order.Sold.rewritten {order : Order} {records : List ManifestRecord} (h : order.Sold records)
    (passengers : List ManifestRecord) (cancelled : List String) :
    Rewritten order passengers cancelled (order.without passengers cancelled) := by
  obtain ⟨before, after, htags, hothers⟩ := h.tags
  obtain ⟨f, before', after', hfulfillments, hf, hplain⟩ := h.fulfillments
  have hplaced : (order.without passengers cancelled).tags =
      before ++ groupsOf passengers cancelled ++ after := by
    rw [without, htags]
    exact placeSeatTags_append rfl hothers
  have hreplaced : (order.without passengers cancelled).fulfillments =
      [{ f with tags := before' ++ manifestsOf passengers cancelled ++ after' }] := by
    rw [without, hfulfillments, List.map_singleton, hf, replaceManifests_append rfl hplain]
  refine ⟨rfl, rfl, ⟨before, _, after, htags, rfl, hplaced, hothers⟩,
    ⟨f, before', _, after', hfulfillments, hf, rfl, hreplaced, hplain⟩, fun t ht => ?_⟩
  have hfull : ∀ t, t ∈ order.items.flatMap Item.tags ∨ t ∈ f.stops.flatMap Stop.tags ∨
      t ∈ before' ++ after' ∨ t ∈ before ++ after → t.list ≠ [] := by
    intro t ht
    refine h.full t ?_
    rw [allTags, hfulfillments, htags, List.flatMap_singleton, hf]
    simp only [List.mem_append, List.mem_cons] at ht ⊢
    tauto
  rw [allTags, hplaced, hreplaced, List.flatMap_singleton] at ht
  simp only [List.mem_append] at ht
  rcases ht with (ht | ht | (ht | ht) | ht) | (ht | ht) | ht
  · exact hfull t (.inl ht)
  · exact hfull t (.inr (.inl ht))
  · exact hfull t (.inr (.inr (.inl (List.mem_append_left _ ht))))
  · exact list_manifestsOf ht
  · exact hfull t (.inr (.inr (.inl (List.mem_append_right _ ht))))
  · exact hfull t (.inr (.inr (.inr (List.mem_append_left _ ht))))
  · exact list_groupsOf ht
  · exact hfull t (.inr (.inr (.inr (List.mem_append_right _ ht))))

/-! ### What is rendered is full -/

/-- No group of a rendered order is empty, if none of those asked for is. -/
theorem renderOrder_full {d : Deployment} {input : BuildOrder} {snapshot : Snapshot} {order : Order}
    (h : renderOrder d input snapshot = .ok order)
    (htags : ∀ t ∈ input.fulfillmentTags, t.list ≠ []) : order.Full := by
  obtain ⟨quote, -, h⟩ := Except.bind_ok.mp h
  obtain ⟨item, hitem, h⟩ := Except.bind_ok.mp h
  obtain ⟨f, hf, h⟩ := Except.bind_ok.mp h
  obtain ⟨createdAt, -, h⟩ := Except.bind_ok.mp h
  have hitems : ∀ t ∈ item.tags, t.list ≠ [] := by
    obtain ⟨itemId, -, hitem⟩ := Except.bind_ok.mp hitem
    obtain ⟨shown, -, hitem⟩ := Except.bind_ok.mp hitem
    obtain ⟨departure, -, hitem⟩ := Except.bind_ok.mp hitem
    obtain rfl := Except.ok.inj hitem
    intro t ht
    simp only [List.mem_cons, List.not_mem_nil, or_false] at ht
    rcases ht with rfl | rfl | rfl | rfl | rfl | rfl <;> exact List.cons_ne_nil _ _
  have hstops : ∀ t ∈ f.stops.flatMap Stop.tags ++ f.tags, t.list ≠ [] := by
    obtain ⟨itemId, -, hf⟩ := Except.bind_ok.mp hf
    obtain ⟨boarding, -, hf⟩ := Except.bind_ok.mp hf
    obtain ⟨dropping, -, hf⟩ := Except.bind_ok.mp hf
    obtain ⟨start, hstart, hf⟩ := Except.bind_ok.mp hf
    obtain ⟨stop, hstop, hf⟩ := Except.bind_ok.mp hf
    obtain rfl := Except.ok.inj hf
    intro t ht
    simp only [List.flatMap_cons, List.flatMap_nil, stopAt_tags hstart, stopAt_tags hstop,
      List.mem_append, List.mem_cons, List.not_mem_nil, or_false] at ht
    rcases ht with (rfl | rfl) | ht
    · exact List.cons_ne_nil _ _
    · exact List.cons_ne_nil _ _
    · exact htags t ht
  have hown : ∀ t ∈ [specimenTag specimenNotice,
      seatMapTag input.resolved.seatMap.seatMapId snapshot.states,
      seatMapLayoutTag input.resolved.seatMap] ++
        (if input.seatIds.length > 0 then [seatsTag input.seatIds] else []), t.list ≠ [] := by
    intro t ht
    simp only [List.mem_append, List.mem_cons, List.not_mem_nil, or_false] at ht
    rcases ht with (rfl | rfl | rfl) | ht
    · exact List.cons_ne_nil _ _
    · exact List.cons_ne_nil _ _
    · exact List.cons_ne_nil _ _
    · split at ht
      · rename_i hlength
        rw [List.mem_singleton.mp ht]
        simpa [seatsTag, seatEntries] using List.ne_nil_of_length_pos hlength
      · cases ht
  have hall : ∀ order : Order, order.items = [item] → order.fulfillments = [f] →
      (∀ t ∈ order.tags, t.list ≠ []) → order.Full := by
    intro order hi hfs ht t hmem
    simp only [Order.allTags, hi, hfs, List.flatMap_singleton, List.mem_append] at hmem
    rcases hmem with (hmem | hmem) | hmem
    · exact hitems t hmem
    · exact hstops t (List.mem_append.mpr hmem)
    · exact ht t hmem
  dsimp only at h
  split at h
  · obtain ⟨holdTags, hhold, h⟩ := Except.bind_ok.mp h
    obtain rfl := Except.ok.inj hhold
    obtain rfl := Except.ok.inj h
    refine hall _ rfl rfl fun t ht => ?_
    rw [List.append_nil] at ht
    exact hown t ht
  · obtain ⟨tag, htag, h⟩ := Except.bind_ok.mp h
    obtain ⟨holdTags, hhold, h⟩ := Except.bind_ok.mp h
    obtain ⟨expires, -, htag⟩ := Except.bind_ok.mp htag
    obtain rfl := Except.ok.inj htag
    obtain rfl := Except.ok.inj hhold
    obtain rfl := Except.ok.inj h
    refine hall _ rfl rfl fun t ht => ?_
    rcases List.mem_append.mp ht with ht | ht
    · exact hown t ht
    · rw [List.mem_singleton.mp ht]
      exact List.cons_ne_nil _ _

/-- **The order of a booking** is one that cancellations can rewrite. -/
theorem sold_of_bookedOrder {d : Deployment} {resolved : Resolved} {pair : BoardingPair}
    {cell : FareCell} {identity : ReservedIdentity} {records : List ManifestRecord}
    {input : OrderInput} {nowMs : ℤ} {orderId reference : String} {snapshot : Snapshot}
    {order : Order} (hrecords : records ≠ [])
    (h : renderOrder d (bookedOrder resolved pair cell identity records input nowMs orderId
      reference) snapshot = .ok order) : order.Sold records := by
  obtain ⟨before, after, htags, hothers⟩ := (renderOrder_ok h).tags
  obtain ⟨f, hfulfillments, hf, -⟩ := (renderOrder_ok h).fulfillments
  rw [if_pos (by simpa [bookedOrder, List.length_pos_iff] using hrecords)] at htags
  refine ⟨⟨before, after, ?_, fun t ht => ⟨(hothers t ht).1, (hothers t ht).2.1⟩⟩,
    ⟨f, [seatMapRefTag resolved.seatMap.seatMapId, bookingRefTag reference],
      [vehicleLookupTag resolved.service resolved.travelDate, specimenTag confirmedSpecimenNotice],
      hfulfillments, hf, fun t ht => ?_⟩, renderOrder_full h fun t ht => ?_⟩
  · rw [htags, List.append_assoc]
    rfl
  · simp only [List.cons_append, List.nil_append, List.mem_cons, List.not_mem_nil, or_false] at ht
    rcases ht with rfl | rfl | rfl | rfl <;>
      simp [seatMapRefTag, bookingRefTag, vehicleLookupTag, specimenTag]
  · simp only [bookedOrder, List.mem_cons, List.not_mem_nil, or_false] at ht
    obtain ⟨record, records, rfl⟩ := List.exists_cons_of_ne_nil hrecords
    rcases ht with rfl | rfl | rfl | rfl | rfl <;> exact List.cons_ne_nil _ _

end TransitBpp
