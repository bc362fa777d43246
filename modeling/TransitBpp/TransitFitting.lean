import TransitBpp.Fulfillments
import TransitBpp.TransitFailures

/-!
# What is answered fits its schema

The orders that are selected and initialised, part by part: `ProtocolOrder.Fits` says what an order is
made of, and its document is accepted by the schemas of `on_select` and `on_init`. What is asked for is
that offers are `Presentable` and that the operators are `Named`.
-/

namespace TransitBpp.Trv11

open Js JsonSchema

/-! ## Texts -/

theorem isAsciiDigit_of_mem_toDigits {n : ℕ} {c : Char} (h : c ∈ Nat.toDigits 10 n) :
    isAsciiDigit c = true := by
  have hdigit := Nat.isDigit_of_mem_toDigits (by decide) (by decide) h
  simpa [isAsciiDigit, Char.isDigit, Char.le_def] using hdigit

theorem isPriceText_of_paiseToRupees {paise : ℤ} {value : String}
    (h : TransitBpp.paiseToRupees paise = .ok value) : isPriceText value.toList = true := by
  obtain ⟨hpos, hlist⟩ := toList_of_paiseToRupees h
  have hwhole : ∀ c ∈ Nat.toDigits 10 (paise / 100).toNat, isAsciiDigit c = true := fun _ hc =>
    isAsciiDigit_of_mem_toDigits hc
  have hnonempty : Nat.toDigits 10 (paise / 100).toNat ≠ [] := by
    apply List.ne_nil_of_length_pos
    exact Nat.length_toDigits_pos
  have hdot : isAsciiDigit '.' = false := by decide
  rw [isPriceText, hlist, List.takeWhile_append_of_pos hwhole, List.dropWhile_append_of_pos hwhole]
  split
  · simp [isPriceTail, hnonempty]
  · -- two digits follow the point
    obtain ⟨n, hn⟩ := Int.eq_ofNat_of_zero_le (show 0 ≤ paise % 100 by omega)
    have hlength := (@padded_digits 2 n (by decide) (by omega)).1
    obtain ⟨a, b, hab⟩ := List.length_eq_two.mp hlength
    have hdigits : ∀ c ∈ (padded 2 (n : ℤ)).toList, isAsciiDigit c = true := by
      intro c hc
      rw [toList_padded] at hc
      rcases List.mem_append.mp hc with hc | hc
      · obtain ⟨-, rfl⟩ := List.mem_replicate.mp hc
        decide
      · exact isAsciiDigit_of_mem_toDigits hc
    rw [hab] at hdigits
    rw [hn, hab]
    simp [isPriceTail, hdot, hdigits, hnonempty]

theorem given_ne {text : Option String} {s : String} (h : given text = some s) : s ≠ "" := by
  simpa using (Option.filter_eq_some_iff.mp h).2

/-! ## Parts -/

theorem isPriceText_of_ok {paise : ℤ} {value : String} (h : paiseToRupees paise = .ok value) :
    isPriceText value.toList = true := by
  obtain ⟨hpos, hsigned⟩ := signed_of_paiseToRupees h
  exact isPriceText_of_paiseToRupees ((signedPaiseToRupees_of_nonneg hpos).symm.trans hsigned)

theorem inr_fits {paise : ℤ} {value : String} (h : paiseToRupees paise = .ok value) :
    Schemas.price (inr value) = true := by
  have htext : isPrice value = true := isPriceText_of_ok h
  simp [Schemas.price, inr, property, Json.get?, htext]

theorem discount_fits {paise : ℤ} {value : String} (h : paiseToRupees paise = .ok value) :
    Schemas.signedPrice (inr ("-" ++ value)) = true := by
  have htext : isSignedPrice ("-" ++ value) = true := by
    have hlist : ("-" ++ value).toList = '-' :: value.toList := by
      rw [String.toList_append]
      rfl
    rw [isSignedPrice, hlist]
    exact isPriceText_of_ok h
  simp [Schemas.signedPrice, inr, property, Json.get?, htext]

theorem count_fits {count : ℕ} (h : 1 ≤ count ∧ count ≤ 6) :
    Schemas.count [minimum 1, maximum 6] (.obj [("count", .num count)]) = true := by
  have hinteger : type .integer (.num (count : ℚ)) = true := type_integer
  have hlow : (1 : ℚ) ≤ count := by exact_mod_cast h.1
  have hhigh : (count : ℚ) ≤ 6 := by exact_mod_cast h.2
  simp [Schemas.count, property, Json.get?, hinteger, hlow, hhigh]

/-- The tags of an order, a ticket, a pass and a trip. -/
theorem tag_fits {code : String} {more : JsonObject} {list : List Json} (hcode : code ≠ "")
    (hmore : more = [] ∨ ∃ shown, more = [("display", .bool shown)]) (hlist : list ≠ []) :
    Documents.tag (.obj ([("descriptor", .obj [("code", .str code)])] ++ more ++
      [("list", .arr list)])) = true := by
  have hlength : 1 ≤ list.length := List.length_pos_of_ne_nil hlist
  rcases hmore with rfl | ⟨shown, rfl⟩ <;>
    simp [Documents.tag, Schemas.coded, property, Json.get?, hcode, minItems, hlength]

theorem specimenInfo_fits {notice : String} : Documents.tag (specimenInfo notice) = true :=
  tag_fits (by decide) (.inr ⟨true, rfl⟩) (by simp)

theorem ticketTags_fit {parentId : String} : ∀ tag ∈ ticketTags parentId, Documents.tag tag = true := by
  have hinfo : Documents.tag (.obj [("descriptor", .obj [("code", .str "INFO")]),
      ("list", .arr [entry "PARENT_ID" parentId])]) = true :=
    tag_fits (by decide) (.inl rfl) (by simp)
  simpa [ticketTags] using ⟨hinfo, specimenInfo_fits⟩

theorem ticketInfo_fits {number : String} : Documents.tag (ticketInfo number) = true :=
  tag_fits (by decide) (.inl rfl) (by simp)

theorem totpInfoTag_fits {parameters : TotpParameters} :
    Documents.tag (totpInfoTag parameters) = true :=
  tag_fits (by decide) (.inr ⟨false, rfl⟩) (by simp)

theorem passInfoTag_fits {item : PassCatalogueItem} : Documents.tag (passInfoTag item) = true :=
  tag_fits (by decide) (.inl rfl) (by simp)

theorem syntheticPassTag_fits : Documents.tag syntheticPassTag = true :=
  tag_fits (by decide) (.inr ⟨true, rfl⟩) (by simp)

theorem concessionTag_fits {concession : ConcessionClass} :
    Documents.tag (concessionTag concession) = true :=
  tag_fits (by decide) (.inr ⟨false, rfl⟩) (by simp)

/-! ## Stops and trips -/

/-- An offer that can be published: what a journey server answers is checked for this, and the
fixtures are to have it. -/
structure TransitOffer.Presentable (offer : TransitOffer) : Prop where
  /-- it is named -/
  offerId : offer.offerId ≠ ""
  /-- and so is what is sold -/
  productName : offer.productName ≠ ""
  /-- there is a way to go -/
  stops : 2 ≤ offer.route.length
  /-- past stops with names and coordinates -/
  named : ∀ stop ∈ offer.route, stop.name ≠ "" ∧ stop.lat ≠ ""
  /-- for a price -/
  priced : Js.isSafe offer.farePaise = true ∧ 0 ≤ offer.farePaise

theorem stopType_mem (stop : RouteStop) (index count : ℕ) :
    stopType stop index count ∈ ["START", "INTERMEDIATE_STOP", "TRANSIT_STOP", "END"] := by
  rw [stopType]
  split
  · simp
  · split
    · simp
    · split <;> simp

theorem stop_fits {stop : RouteStop} {index count : ℕ} (h : stop.name ≠ "" ∧ stop.lat ≠ "") :
    Documents.stop (mapStop count stop index) = true := by
  have hgps : 3 ≤ (s!"{stop.lat}, {stop.lon}").toList.length := by
    have hpos : 0 < stop.lat.toList.length :=
      List.length_pos_of_ne_nil (String.toList_eq_nil_iff.not.mpr h.2)
    have hcomma : ", ".toList.length = 2 := by decide
    simp only [toString, String.toList_append, List.length_append, hcomma]
    omega
  have hkind := stopType_mem stop index count
  have hdescriptor : Schemas.descriptor (.obj ([("name", .str stop.name)] ++
      ((given stop.code).map fun code => ("code", Json.str code)).toList)) = true := by
    rcases hcode : given stop.code with _ | code
    · simp [Schemas.descriptor, property, Json.get?, h.1]
    · simp [Schemas.descriptor, property, Json.get?, h.1, given_ne hcode]
  rw [mapStop]
  -- what is optional is there or not
  generalize s!"{stop.lat}, {stop.lon}" = gps at hgps ⊢
  generalize stopType stop index count = kind at hkind ⊢
  generalize Json.obj ([("name", .str stop.name)] ++
    ((given stop.code).map fun code => ("code", Json.str code)).toList) = named at hdescriptor ⊢
  rcases given stop.changeHint with _ | hint <;> rcases given stop.nameLocal with _ | name <;>
    by_cases hindex : index = 0 <;>
    simp [Documents.stop, property, Json.get?, minLength, hgps, hkind, hindex, hdescriptor]

theorem trip_fits {offer : TransitOffer} {isMetro : Bool} {id : String} (h : offer.Presentable)
    (hid : id ≠ "") :
    Documents.tripFulfillment (.obj (tripFulfillmentForOffer offer isMetro id)) = true := by
  have hstops : ∀ stop ∈ offer.route.mapIdx fun index stop => mapStop offer.route.length stop index,
      Documents.stop stop = true := by
    intro stop hstop
    obtain ⟨index, hindex, rfl⟩ := List.mem_mapIdx.mp hstop
    exact stop_fits (h.named _ (List.getElem_mem hindex))
  have htag : Documents.tag (.obj [("descriptor", .obj [("code", .str "ROUTE_INFO")]),
      ("list", .arr ([entry "ROUTE_ID" offer.routeId, entry "ROUTE_NAME" offer.routeName] ++
        ((given offer.routeColor).map (entry "ROUTE_COLOR")).toList))]) = true :=
    tag_fits (by decide) (.inl rfl) (by simp)
  have hvehicle : Documents.vehicle
      (.obj [("category", .str (if isMetro then "METRO" else "BUS"))]) = true := by
    cases isMetro <;> simp [Documents.vehicle, property, Json.get?]
  have hlength : 2 ≤ (offer.route.mapIdx fun index stop =>
      mapStop offer.route.length stop index).length := by
    simpa using h.stops
  rw [tripFulfillmentForOffer]
  generalize (offer.route.mapIdx fun index stop => mapStop offer.route.length stop index) = stops
    at hstops hlength ⊢
  generalize Json.obj [("descriptor", .obj [("code", .str "ROUTE_INFO")]), _] = tag at htag ⊢
  simpa [Documents.tripFulfillment, Documents.tagsOf, property, Json.get?, hid, hvehicle, htag,
    items, minItems, hlength] using hstops

/-! ## Fulfillments -/

/-- A fulfillment of an order that is not confirmed yet. -/
inductive Opened (fulfillment : JsonObject) : Prop where
  /-- a trip -/
  | trip : Documents.tripFulfillment (.obj fulfillment) = true → Opened fulfillment
  /-- a pass -/
  | pass : Documents.passFulfillment (.obj fulfillment) = true → Opened fulfillment
  /-- a ticket to be issued -/
  | ticket : Documents.ticketFulfillment (.obj fulfillment) = true → Opened fulfillment

theorem type_of_tagged {expected : String} {fulfillment : JsonObject}
    (h : Documents.taggedFulfillment expected (.obj fulfillment) = true) :
    (Json.obj fulfillment).get? "type" = some (.str expected) := by
  obtain ⟨type, hget⟩ := get_of_required h (show "type" ∈ ["id", "type", "tags"] by simp)
  have hconst : const expected type = true := accepts_of_get h (by simp) hget
  rw [hget, const_iff.mp hconst]

theorem type_of_trip {fulfillment : JsonObject}
    (h : Documents.tripFulfillment (.obj fulfillment) = true) :
    (Json.obj fulfillment).get? "type" = some (.str "TRIP") := by
  obtain ⟨type, hget⟩ :=
    get_of_required h (show "type" ∈ ["id", "type", "stops", "vehicle", "tags"] by simp)
  have hconst : const "TRIP" type = true := accepts_of_get h (by simp) hget
  rw [hget, const_iff.mp hconst]

theorem const_ne {kind expected : String} (h : kind ≠ expected) : const expected (.str kind) = false := by
  simp [const, Json.str?, h]

theorem tagged_refuses {kind expected : String} {fulfillment : JsonObject}
    (hget : (Json.obj fulfillment).get? "type" = some (.str kind)) (hne : kind ≠ expected) :
    Documents.taggedFulfillment expected (.obj fulfillment) = false :=
  object_refuses (by simp) hget (const_ne hne)

theorem trip_refuses {kind : String} {fulfillment : JsonObject}
    (hget : (Json.obj fulfillment).get? "type" = some (.str kind)) (hne : kind ≠ "TRIP") :
    Documents.tripFulfillment (.obj fulfillment) = false :=
  object_refuses (by simp) hget (const_ne hne)

theorem issued_refuses {kind code : String} {authorization : Schema} {fulfillment : JsonObject}
    (hget : (Json.obj fulfillment).get? "type" = some (.str kind)) (hne : kind ≠ "TICKET") :
    Documents.issuedFulfillment authorization code (.obj fulfillment) = false :=
  object_refuses (by simp) hget (const_ne hne)

/-- It is of one kind and of no other. -/
theorem Opened.oneOf {fulfillment : JsonObject} (h : Opened fulfillment) :
    JsonSchema.oneOf [Documents.tripFulfillment, Documents.passFulfillment,
      Documents.ticketFulfillment] (.obj fulfillment) = true := by
  cases h with
  | trip h =>
    have htype := type_of_trip h
    refine @oneOf_append _ _ [] _ h ?_
    simp [Documents.passFulfillment, Documents.ticketFulfillment, tagged_refuses htype]
  | pass h =>
    have htype := type_of_tagged h
    refine @oneOf_append _ _ [_] _ h ?_
    simp [Documents.ticketFulfillment, tagged_refuses htype, trip_refuses htype]
  | ticket h =>
    have htype := type_of_tagged h
    refine @oneOf_append _ _ [_, _] [] h ?_
    simp [Documents.passFulfillment, tagged_refuses htype, trip_refuses htype]

theorem Opened.isTicket_iff {fulfillment : JsonObject} (h : Opened fulfillment) :
    isTicket fulfillment = true ↔ Documents.ticketFulfillment (.obj fulfillment) = true := by
  cases h with
  | trip h =>
    have htype := type_of_trip h
    simp [isTicket, htype, Json.str?, Documents.ticketFulfillment, tagged_refuses htype]
  | pass h =>
    have htype := type_of_tagged h
    simp [isTicket, htype, Json.str?, Documents.ticketFulfillment, tagged_refuses htype]
  | ticket h => simp [isTicket, type_of_tagged h, Json.str?, h]

/-! ## Selections -/

section Lines

variable {Spec : Type} {n : ℕ} {lines : Lines Spec}

/-- What the lines of `n` items are made of. -/
structure Lines.Fit (n : ℕ) (lines : Lines Spec) : Prop where
  items : lines.items.length = n ∧ ∀ item ∈ lines.items, Documents.orderItem item = true
  fulfillments : 2 * n ≤ lines.fulfillments.length ∧
    ∀ fulfillment ∈ lines.fulfillments, Opened fulfillment
  tickets : 1 ≤ n → ∃ fulfillment ∈ lines.fulfillments, isTicket fulfillment = true
  breakup : n ≤ lines.breakup.length ∧
    ∀ line ∈ lines.breakup, Documents.baseFareBreakup line = true

theorem Lines.fit_none : (Lines.none : Lines Spec).Fit 0 := by
  constructor <;> simp [Lines.none]

theorem ticketFulfillment_fits {parentId id : String} (hid : id ≠ "") :
    Documents.ticketFulfillment (.obj (ticketFulfillment parentId id)) = true := by
  have htags := @ticketTags_fit parentId
  have hlength : 1 ≤ (ticketTags parentId).length := by simp [ticketTags]
  simpa [Documents.ticketFulfillment, Documents.taggedFulfillment, Documents.tagsOf, ticketFulfillment,
    property, Json.get?, hid, items, minItems, hlength] using htags

/-- One more item, with its lead and its tickets. -/
theorem Lines.Fit.line (h : lines.Fit n) {item fare : Json} {lead : JsonObject} {ids : List String}
    {parentId : String} {specs : List Spec} {totalPaise : ℤ}
    (hitem : Documents.orderItem item = true) (hlead : Opened lead)
    (hids : 1 ≤ ids.length ∧ ∀ id ∈ ids, id ≠ "") (hfare : Documents.baseFareBreakup fare = true) :
    Lines.Fit (n + 1) {
      items := lines.items ++ [item]
      fulfillments := lines.fulfillments ++ lead :: ids.map (ticketFulfillment parentId)
      breakup := lines.breakup ++ [fare]
      specs := specs
      totalPaise := totalPaise } := by
  refine ⟨⟨?_, ?_⟩, ⟨?_, ?_⟩, fun _ => ?_, ?_, ?_⟩
  · simp [h.items.1]
  · simpa [or_imp, forall_and, hitem] using h.items.2
  · have hlength := h.fulfillments.1
    simp only [List.length_append, List.length_cons, List.length_map]
    omega
  · intro fulfillment hmem
    rcases List.mem_append.mp hmem with hmem | hmem
    · exact h.fulfillments.2 fulfillment hmem
    · rcases List.mem_cons.mp hmem with rfl | hmem
      · exact hlead
      · obtain ⟨id, hid, rfl⟩ := List.mem_map.mp hmem
        exact .ticket (ticketFulfillment_fits (hids.2 id hid))
  · obtain ⟨id, hid⟩ := List.exists_mem_of_length_pos hids.1
    refine ⟨ticketFulfillment parentId id, ?_, isTicket_ticketFulfillment parentId id⟩
    exact List.mem_append_right _ (List.mem_cons_of_mem _ (List.mem_map_of_mem hid))
  · simpa using h.breakup.1
  · simpa [or_imp, forall_and, hfare] using h.breakup.2

/-- An item of an order, whatever it says beside. -/
theorem orderItem_fits {id category name code value label duration timestamp : String} {count : ℕ}
    {ids : List String} {more : JsonObject} (hid : id ≠ "" ∧ category ≠ "" ∧ name ≠ "" ∧ code ≠ "")
    (hprice : Schemas.price (inr value) = true) (hcount : 1 ≤ count ∧ count ≤ 6)
    (hids : 2 ≤ ids.length ∧ ∀ id ∈ ids, id ≠ "") :
    Documents.orderItem (.obj (("id", .str id) :: ("category_ids", .arr [.str category]) ::
      ("descriptor", .obj [("name", .str name), ("code", .str code)]) :: ("price", inr value) ::
      ("quantity", .obj [("selected", .obj [("count", .num count)])]) ::
      ("fulfillment_ids", .arr (ids.map Json.str)) ::
      ("time", .obj [("label", .str label), ("duration", .str duration),
        ("timestamp", .str timestamp)]) :: more)) = true := by
  have hbounds := count_fits hcount
  simpa [Documents.orderItem, property, Json.get?, hid, hprice, Schemas.descriptor, hbounds,
    Documents.itemTime, minItems, items, hids.1] using hids.2

theorem baseFare_fits {id unit line : String} {count : ℕ} (hid : id ≠ "")
    (hunit : Schemas.price (inr unit) = true) (hline : Schemas.price (inr line) = true) :
    Documents.baseFareBreakup (baseFare id (inr unit) count (inr line)) = true := by
  simp [Documents.baseFareBreakup, baseFare, property, Json.get?, hid, hunit, hline]

/-- The ids of an item's lead and of its tickets. -/
theorem blockIds_fit {id : String} {count : ℕ} (hcount : 1 ≤ count) :
    (1 ≤ (unitIds (id, count)).length ∧ ∀ unit ∈ unitIds (id, count), unit ≠ "") ∧
      2 ≤ (blockIds (id, count)).length ∧ ∀ unit ∈ blockIds (id, count), unit ≠ "" := by
  have hunits : ∀ unit ∈ unitIds (id, count), unit ≠ "" := by
    intro unit hunit
    obtain ⟨n, -, rfl⟩ := mem_unitIds.mp hunit
    simp [toString]
  have hlength : (unitIds (id, count)).length = count := by simp [unitIds]
  have hlead : fulfillmentIdForOffer id ≠ "" := by simp [fulfillmentIdForOffer, toString]
  refine ⟨⟨by omega, hunits⟩, ?_, ?_⟩
  · rw [blockIds, List.length_cons, hlength]
    omega
  · simpa [blockIds, hlead] using hunits

end Lines

theorem units_of_checkQuantity {item : SelectedItem} (h : checkQuantity item = .ok ()) :
    1 ≤ item.units ∧ item.units ≤ 6 := by
  rw [checkQuantity] at h
  split at h
  · cases h
  · rename_i hcount
    rcases hq : item.count with ⟨q, text⟩ | _ | _ | _ <;> rw [hq] at hcount
    · simp only [JsNumber.isSafeInteger, JsNumber.below, JsNumber.above, Bool.or_eq_true,
        Bool.not_eq_true', Bool.and_eq_false_iff, decide_eq_true_eq, not_or, not_lt] at hcount
      obtain ⟨⟨hsafe, hlow⟩, hhigh⟩ := hcount
      have hint : q = q.num := Rat.eq_num_of_isInt (by simpa using hsafe.1)
      rw [hint] at hlow hhigh
      have hlow : 1 ≤ q.num := by exact_mod_cast hlow
      have hhigh : q.num ≤ 6 := by exact_mod_cast hhigh
      have hunits : item.units = q.num.toNat := by rw [SelectedItem.units, hq]
      omega
    · simp [JsNumber.isSafeInteger] at hcount
    · simp [JsNumber.isSafeInteger] at hcount
    · simp [JsNumber.isSafeInteger] at hcount

theorem checks_of_forM {α : Type} {f : α → Except Failure PUnit} {as : List α}
    (h : as.forM f = .ok ()) : ∀ a ∈ as, f a = .ok () := by
  induction as with
  | nil => simp
  | cons a as ih =>
    obtain ⟨⟨⟩, hhead, hrest⟩ := Except.bind_ok.mp h
    exact List.forall_mem_cons.mpr ⟨hhead, ih hrest⟩

theorem ticketLine_fits {profile : OperatorProfile} {itemTime : ℤ} {offer : TransitOffer}
    {count n : ℕ} {lines done : Lines TicketSpec}
    (h : ticketLine profile itemTime offer count lines = .ok done) (hlines : lines.Fit n)
    (hoffer : offer.Presentable) (hcount : 1 ≤ count ∧ count ≤ 6) : done.Fit (n + 1) := by
  rw [ticketLine] at h
  simp only at h
  split at h
  · cases h
  · obtain ⟨unitValue, hunit, h⟩ := Except.bind_ok.mp h
    obtain ⟨timestamp, -, h⟩ := Except.bind_ok.mp h
    obtain ⟨lineValue, hline, h⟩ := Except.bind_ok.mp h
    obtain rfl := Except.ok.inj h
    obtain ⟨hunits, hblock⟩ := @blockIds_fit offer.offerId count hcount.1
    have hids : ((List.range count).map fun ticketIndex => (⟨s!"T-{offer.offerId}-{ticketIndex + 1}",
        fulfillmentIdForOffer offer.offerId, offer.validity, lines.specs.length + ticketIndex + 1⟩ :
          TicketSpec)).map TicketSpec.id = unitIds (offer.offerId, count) := by
      simp [unitIds]
    rw [hids]
    have hlead : fulfillmentIdForOffer offer.offerId ≠ "" := by simp [fulfillmentIdForOffer, toString]
    refine hlines.line ?_ (.trip (trip_fits hoffer hlead)) hunits
      (baseFare_fits hoffer.offerId (inr_fits hunit) (inr_fits hline))
    exact orderItem_fits ⟨hoffer.offerId, by decide, hoffer.productName, by decide⟩ (inr_fits hunit)
      hcount hblock

theorem ticketLines_fits {profile : OperatorProfile} {itemTime : ℕ → ℤ}
    {selection : List (TransitOffer × SelectedItem)} {done : Lines TicketSpec} :
    ∀ {index n : ℕ} {lines : Lines TicketSpec},
      ticketLines profile itemTime index selection lines = .ok done → lines.Fit n →
      (∀ pair ∈ selection, pair.1.Presentable ∧ 1 ≤ pair.2.units ∧ pair.2.units ≤ 6) →
        done.Fit (n + selection.length) := by
  induction selection with
  | nil =>
    intro index n lines h hlines _
    obtain rfl := Except.ok.inj h
    exact hlines
  | cons pair selection ih =>
    intro index n lines h hlines hpairs
    obtain ⟨next, hline, h⟩ := Except.bind_ok.mp h
    obtain ⟨hpair, hrest⟩ := List.forall_mem_cons.mp hpairs
    have hdone := ih h (ticketLine_fits hline hlines hpair.1 hpair.2) hrest
    rwa [List.length_cons, Nat.add_comm selection.length, ← Nat.add_assoc]

/-- A published pass is named, and has a price. -/
theorem passItem_named {item : PassCatalogueItem} (h : item ∈ passCatalogue) :
    item.id ≠ "" ∧ item.name ≠ "" ∧ Js.isSafe item.pricePaise = true ∧ 0 ≤ item.pricePaise := by
  have hall : ∀ item ∈ passCatalogue,
      item.id ≠ "" ∧ item.name ≠ "" ∧ Js.isSafe item.pricePaise = true ∧ 0 ≤ item.pricePaise := by
    decide
  exact hall item h

theorem passFulfillment_fits (item : PassCatalogueItem) :
    Documents.passFulfillment (.obj (passFulfillment item)) = true := by
  have htag := @passInfoTag_fits item
  simp [Documents.passFulfillment, Documents.taggedFulfillment, Documents.tagsOf, passFulfillment,
    fulfillmentIdForOffer, toString, property, Json.get?, items, minItems, htag]

theorem passLine_fits {item : PassCatalogueItem} {count n : ℕ} {timestamp : String}
    {lines done : Lines PassCredentialSpec} (h : passLine item count timestamp lines = .ok done)
    (hlines : lines.Fit n) (hitem : item ∈ passCatalogue) (hcount : 1 ≤ count ∧ count ≤ 6) :
    done.Fit (n + 1) := by
  obtain ⟨hid, hname, -, -⟩ := passItem_named hitem
  rw [passLine] at h
  simp only at h
  split at h
  · cases h
  · obtain ⟨unitValue, hunit, h⟩ := Except.bind_ok.mp h
    obtain ⟨lineValue, hline, h⟩ := Except.bind_ok.mp h
    obtain rfl := Except.ok.inj h
    obtain ⟨hunits, hblock⟩ := @blockIds_fit item.id count hcount.1
    have hids : ((List.range count).map fun index => (⟨s!"T-{item.id}-{index + 1}",
        fulfillmentIdForOffer item.id, lines.specs.length + index + 1, item⟩ :
          PassCredentialSpec)).map PassCredentialSpec.id = unitIds (item.id, count) := by
      simp [unitIds]
    rw [hids]
    refine hlines.line ?_ (.pass (passFulfillment_fits item)) hunits
      (baseFare_fits hid (inr_fits hunit) (inr_fits hline))
    exact orderItem_fits ⟨hid, by decide, hname, by decide⟩ (inr_fits hunit) hcount hblock

theorem passLines_fits {service : Service} {operator : PassOperatorKey}
    {concession : Option ConcessionClass} {timestamp : String} {selected : List SelectedItem}
    {done : Lines PassCredentialSpec} {discount : ℤ} :
    ∀ {n : ℕ} {lines : Lines PassCredentialSpec} {discountPaise : ℤ},
      passLines service operator concession timestamp selected lines discountPaise =
        .ok (done, discount) → lines.Fit n →
      (∀ item ∈ selected, 1 ≤ item.units ∧ item.units ≤ 6) → done.Fit (n + selected.length) := by
  induction selected with
  | nil =>
    intro n lines discountPaise h hlines _
    obtain ⟨rfl, -⟩ := Prod.mk.inj (Except.ok.inj h)
    exact hlines
  | cons item selected ih =>
    intro n lines discountPaise h hlines hitems
    rw [passLines] at h
    split at h
    · cases h
    · rename_i found hfound
      obtain ⟨next, hline, h⟩ := Except.bind_ok.mp h
      obtain ⟨hitem, hrest⟩ := List.forall_mem_cons.mp hitems
      have hnext := passLine_fits hline hlines (passItemById_some hfound).2 hitem
      have hdone := ih h hnext hrest
      rwa [List.length_cons, Nat.add_comm selected.length, ← Nat.add_assoc]

/-! ## Orders -/

/-- What a deployment is to say of an operator. -/
structure Service.Named (service : Service) : Prop where
  id : service.profile.id ≠ ""
  name : service.profile.name ≠ ""
  subscriberId : service.subscriberId ≠ ""
  subscriberUri : service.subscriberUri ≠ ""
  /-- its service begins and ends at times of the day -/
  hours : isHHMM service.profile.startHHMM = true ∧ isHHMM service.profile.endHHMM = true

/-- What an order is made of; `kind` says it of a fulfillment. -/
structure ProtocolOrder.Fits (kind : JsonObject → Prop) (order : ProtocolOrder) : Prop where
  items : order.items ≠ [] ∧ ∀ item ∈ order.items, Documents.orderItem item = true
  provider : Documents.provider order.provider = true
  fulfillments : 2 ≤ order.fulfillments.length ∧ ∀ fulfillment ∈ order.fulfillments, kind fulfillment
  tickets : ∃ fulfillment ∈ order.fulfillments, isTicket fulfillment = true
  quote : Documents.quote order.quote = true
  terms : order.cancellationTerms ≠ []
  tags : order.tags ≠ [] ∧ ∀ tag ∈ order.tags, Documents.tag tag = true

variable {hmac : Hmac} {service : Service} {operator : PassOperatorKey} {store : Store}
  {request : ConfirmRequest} {draws : Draws} {base : BaseOrder} {context : Trv11Context}

theorem serviceInstant_ne {hhmm text : String} (h : serviceInstant context hhmm = .ok text) :
    text ≠ "" := by
  rw [serviceInstant] at h
  split at h
  · cases h
  · split at h
    · cases h
    · obtain ⟨written, -, h⟩ := Except.bind_ok.mp h
      obtain rfl := Except.ok.inj h
      simp [toString]

theorem orderProvider_fits (hnamed : service.Named) {provider : Json}
    (h : orderProvider service context = .ok provider) : Documents.provider provider = true := by
  obtain ⟨start, hstart, h⟩ := Except.bind_ok.mp h
  obtain ⟨finish, hfinish, h⟩ := Except.bind_ok.mp h
  obtain rfl := Except.ok.inj h
  simp [Documents.provider, property, Json.get?, Schemas.descriptor, Documents.serviceTime, hnamed.id,
    hnamed.name, serviceInstant_ne hstart, serviceInstant_ne hfinish]

/-- A line of a quote is a fare or a concession. -/
theorem oneOf_baseFare {line : Json} (h : Documents.baseFareBreakup line = true) :
    oneOf [Documents.baseFareBreakup, Documents.concessionBreakup] line = true := by
  obtain ⟨title, hget⟩ := get_of_required h (show "title" ∈ ["title", "item", "price"] by simp)
  have hconst : const "BASE_FARE" title = true := accepts_of_get h (by simp) hget
  have hother : Documents.concessionBreakup line = false := by
    rw [const_iff.mp hconst] at hget
    exact object_refuses (List.mem_cons_self ..) hget (by decide)
  refine @oneOf_append _ _ [] [_] h ?_
  simpa using hother

theorem quote_fits {totalPaise : ℤ} {breakup : List Json} {total : Json}
    (h : quote totalPaise breakup = .ok total) (hbreakup : breakup ≠ [] ∧ ∀ line ∈ breakup,
      oneOf [Documents.baseFareBreakup, Documents.concessionBreakup] line = true) :
    Documents.quote total = true := by
  obtain ⟨value, hvalue, h⟩ := Except.bind_ok.mp h
  obtain rfl := Except.ok.inj h
  have hlength : 1 ≤ breakup.length := List.length_pos_of_ne_nil hbreakup.1
  simpa [Documents.quote, property, Json.get?, inr_fits hvalue, minItems, items, hlength]
    using hbreakup.2

theorem concessionLine_fits {concession : Option ConcessionClass} {discountPaise : ℤ}
    {lines : List Json} (h : concessionLine concession discountPaise = .ok lines) :
    ∀ line ∈ lines, oneOf [Documents.baseFareBreakup, Documents.concessionBreakup] line = true := by
  cases concession with
  | none =>
    obtain rfl := Except.ok.inj h
    simp
  | some concession =>
    rw [concessionLine] at h
    split at h
    · obtain rfl := Except.ok.inj h
      simp
    · obtain ⟨value, hvalue, h⟩ := Except.bind_ok.mp h
      obtain rfl := Except.ok.inj h
      have hprice := discount_fits hvalue
      rw [List.forall_mem_singleton]
      refine @oneOf_append _ _ [_] [] ?_ ?_
      · cases concession <;>
          simp [Documents.concessionBreakup, property, Json.get?, ConcessionClass.wire, toString, hprice]
      · rw [List.append_nil, List.forall_mem_singleton]
        refine object_refuses (List.mem_cons_self ..) rfl ?_
        cases concession <;> decide

theorem specimenOrderTags_fit : ∀ tag ∈ specimenOrderTags, Documents.tag tag = true := by
  simp [specimenOrderTags, specimenInfo_fits]

/-- Every offer that is selected is one that was cached. -/
theorem selectedOffers_mem {identity : TransactionIdentity} {itemIds : List String}
    {offers : List TransitOffer} (h : store.selectedOffers operator identity itemIds = .ok offers) :
    ∃ catalogue, Js.mapGet store.catalogues ⟨operator, identity⟩ = some catalogue ∧
      List.Forall₂ (fun itemId offer => Js.mapGet catalogue itemId = some offer) itemIds offers := by
  unfold Store.selectedOffers at h
  split at h
  · cases h
  · rename_i catalogue hcatalogue
    refine ⟨catalogue, hcatalogue, (Except.mapM_ok.mp h).imp ?_⟩
    intro itemId offer hoffer
    split at hoffer
    · cases hoffer
    · rename_i found hfound
      rw [hfound, Except.ok.inj hoffer]

/-- Whatever was cached can be published. -/
def Store.Presentable (store : Store) : Prop :=
  ∀ (key : TransactionKey) (catalogue : List (String × TransitOffer)),
    Js.mapGet store.catalogues key = some catalogue →
      ∀ (itemId : String) (offer : TransitOffer), Js.mapGet catalogue itemId = some offer →
        offer.Presentable

theorem ticketBaseOrder_fits (hnamed : service.Named) (hstore : store.Presentable)
    (hitems : ∀ item ∈ request.items, 1 ≤ item.units ∧ item.units ≤ 6)
    (h : ticketBaseOrder service operator store request draws = .ok base) :
    base.order.Fits Opened := by
  obtain ⟨-, -, h⟩ := Except.bind_ok.mp h
  obtain ⟨offers, hoffers, h⟩ := Except.bind_ok.mp h
  obtain ⟨lines, hlines, h⟩ := Except.bind_ok.mp h
  obtain ⟨provider, hprovider, h⟩ := Except.bind_ok.mp h
  obtain ⟨total, htotal, h⟩ := Except.bind_ok.mp h
  obtain rfl := Except.ok.inj h
  obtain ⟨catalogue, hcatalogue, hfound⟩ := selectedOffers_mem hoffers
  have hlength : offers.length = request.items.length := by
    simpa using hfound.length_eq.symm
  have hpairs : ∀ pair ∈ offers.zip request.items,
      pair.1.Presentable ∧ 1 ≤ pair.2.units ∧ pair.2.units ≤ 6 := by
    intro pair hpair
    obtain ⟨hoffer, hitem⟩ := List.of_mem_zip hpair
    obtain ⟨itemId, -, hget⟩ := exists_of_mem_forall₂ hfound hoffer
    exact ⟨hstore _ _ hcatalogue _ _ hget, hitems _ hitem⟩
  have hfit := ticketLines_fits hlines Lines.fit_none hpairs
  have hpos : 1 ≤ (offers.zip request.items).length := by
    rw [List.length_zip, hlength, min_self]
    exact List.length_pos_of_ne_nil request.selected
  rw [Nat.zero_add] at hfit
  exact {
    items := ⟨List.ne_nil_of_length_pos (by rw [hfit.items.1]; exact hpos), hfit.items.2⟩
    provider := orderProvider_fits hnamed hprovider
    fulfillments := ⟨le_trans (Nat.mul_le_mul_left 2 hpos) hfit.fulfillments.1, hfit.fulfillments.2⟩
    tickets := hfit.tickets hpos
    quote := quote_fits htotal ⟨List.ne_nil_of_length_pos (lt_of_lt_of_le hpos hfit.breakup.1),
      fun line hline => oneOf_baseFare (hfit.breakup.2 line hline)⟩
    terms := by simp [cancellationTerms]
    tags := ⟨by simp [specimenOrderTags], specimenOrderTags_fit⟩ }

theorem passBaseOrder_fits (hnamed : service.Named)
    (hitems : ∀ item ∈ request.items, 1 ≤ item.units ∧ item.units ≤ 6)
    (h : passBaseOrder service operator request draws = .ok base) : base.order.Fits Opened := by
  obtain ⟨concession, -, h⟩ := Except.bind_ok.mp h
  obtain ⟨timestamp, -, h⟩ := Except.bind_ok.mp h
  obtain ⟨⟨lines, discountPaise⟩, hlines, h⟩ := Except.bind_ok.mp h
  obtain ⟨discount, hdiscount, h⟩ := Except.bind_ok.mp h
  split at h
  · cases h
  · obtain ⟨provider, hprovider, h⟩ := Except.bind_ok.mp h
    obtain ⟨total, htotal, h⟩ := Except.bind_ok.mp h
    obtain rfl := Except.ok.inj h
    have hfit := passLines_fits hlines Lines.fit_none hitems
    have hpos : 1 ≤ request.items.length := List.length_pos_of_ne_nil request.selected
    rw [Nat.zero_add] at hfit
    have hbreakup : lines.breakup ≠ [] :=
      List.ne_nil_of_length_pos (lt_of_lt_of_le hpos hfit.breakup.1)
    exact {
      items := ⟨List.ne_nil_of_length_pos (by rw [hfit.items.1]; exact hpos), hfit.items.2⟩
      provider := orderProvider_fits hnamed hprovider
      fulfillments := ⟨le_trans (Nat.mul_le_mul_left 2 hpos) hfit.fulfillments.1, hfit.fulfillments.2⟩
      tickets := hfit.tickets hpos
      quote := by
        refine quote_fits htotal ⟨by simp [hbreakup], fun line hline => ?_⟩
        rcases List.mem_append.mp hline with hline | hline
        · exact oneOf_baseFare (hfit.breakup.2 line hline)
        · exact concessionLine_fits hdiscount line hline
      terms := by simp [cancellationTerms]
      tags := by
        refine ⟨by simp [specimenOrderTags], fun tag htag => ?_⟩
        rcases List.mem_append.mp htag with htag | htag
        · rcases List.mem_append.mp htag with htag | htag
          · exact specimenOrderTags_fit tag htag
          · obtain ⟨named, -, rfl⟩ := by simpa using htag
            exact concessionTag_fits
        · obtain rfl := List.mem_singleton.mp htag
          exact syntheticPassTag_fits }

/-- **A base order is made of what its schema asks for.** -/
theorem baseOrder_fits (hnamed : service.Named) (hstore : store.Presentable)
    (h : baseOrder service operator store request draws = .ok base) : base.order.Fits Opened := by
  obtain ⟨-, -, h⟩ := Except.bind_ok.mp h
  split at h
  · cases h
  · simp only at h
    split at h
    · cases h
    · obtain ⟨⟨⟩, hquantities, h⟩ := Except.bind_ok.mp h
      have hitems : ∀ item ∈ request.items, 1 ≤ item.units ∧ item.units ≤ 6 := by
        intro item hitem
        exact units_of_checkQuantity (checks_of_forM hquantities item hitem)
      split at h
      · exact ticketBaseOrder_fits hnamed hstore hitems h
      · split at h
        · cases h
        · exact passBaseOrder_fits hnamed hitems h

/-! ### Their documents -/

/-- What an order says of who pays, where it says it. -/
theorem fields_of_order {kind : JsonObject → Prop} {order : ProtocolOrder} (h : order.Fits kind)
    (hkind : ∀ fulfillment, kind fulfillment → Opened fulfillment) {more : JsonObject}
    (hbilling : property "billing" Schemas.billing (.obj more) = true)
    (hpayments : property "payments" Schemas.payments (.obj more) = true) :
    Documents.baseOrder (.obj (order.fields ++ more)) = true := by
  have hfulfillments : ∀ fulfillment ∈ order.fulfillments,
      oneOf [Documents.tripFulfillment, Documents.passFulfillment, Documents.ticketFulfillment]
        (.obj fulfillment) = true := fun fulfillment hmem =>
    (hkind fulfillment (h.fulfillments.2 fulfillment hmem)).oneOf
  have hitems : 1 ≤ order.items.length := List.length_pos_of_ne_nil h.items.1
  have hterms : 1 ≤ order.cancellationTerms.length := List.length_pos_of_ne_nil h.terms
  have htags : 1 ≤ order.tags.length := List.length_pos_of_ne_nil h.tags.1
  have hbilling' : property "billing" Schemas.billing (.obj (order.fields ++ more)) = true := by
    rwa [property_congr (show (Json.obj (order.fields ++ more)).get? "billing" =
      (Json.obj more).get? "billing" by simp [ProtocolOrder.fields, Json.get?])]
  have hpayments' : property "payments" Schemas.payments (.obj (order.fields ++ more)) = true := by
    rwa [property_congr (show (Json.obj (order.fields ++ more)).get? "payments" =
      (Json.obj more).get? "payments" by simp [ProtocolOrder.fields, Json.get?])]
  simp only [Documents.baseOrder, object_obj, properties_cons, hbilling', hpayments', true_and]
  simpa [ProtocolOrder.fields, property, Json.get?, items, minItems, hitems, hterms, htags, h.provider,
    h.quote, Documents.fulfillments, Documents.tagsOf, h.fulfillments.1]
    using ⟨h.items.2, hfulfillments, h.tags.2⟩

theorem ProtocolOrder.Fits.document {order : ProtocolOrder} (h : order.Fits Opened) :
    Documents.baseOrder (.obj order.fields) = true := by
  have hdocument := @fields_of_order _ _ h (fun _ => id) [] (property_of_none rfl) (property_of_none rfl)
  rwa [List.append_nil] at hdocument

/-- A payment with an id is still a payment. -/
theorem paymentWithId_fits {transactionId : String} {payment : JsonObject} {index : ℕ}
    (h : Schemas.payment (.obj payment) = true) :
    Schemas.payment (.obj (paymentWithId operator transactionId payment index)) = true := by
  have hid : ∃ id, paymentWithId operator transactionId payment index = Json.set payment "id" id ∧
      nonEmpty id = true := by
    refine ⟨_, rfl, ?_⟩
    split
    · simp [toString]
    · simp [toString]
    · rename_i id _ hget
      exact accepts_of_get h (by simp) hget
  obtain ⟨id, hset, hid⟩ := hid
  rw [hset]
  obtain ⟨hkeys, hproperties⟩ := object_obj.mp h
  have hsame {key : String} (hkey : key ≠ "id") :
      (Json.obj (Json.set payment "id" id)).get? key = (Json.obj payment).get? key :=
    Json.get?_set_ne hkey
  refine object_obj.mpr ⟨fun key hkey => ?_, ?_⟩
  · rw [hsame (by rintro rfl; simp at hkey)]
    exact hkeys key hkey
  · simp only [properties_cons, properties_nil, and_true] at hproperties ⊢
    obtain ⟨-, hothers⟩ := hproperties
    refine ⟨(property_of_get Json.get?_set_self).mpr hid, ?_⟩
    simpa only [property_congr (hsame (show "collected_by" ≠ "id" by decide)),
      property_congr (hsame (show "status" ≠ "id" by decide)),
      property_congr (hsame (show "type" ≠ "id" by decide)),
      property_congr (hsame (show "params" ≠ "id" by decide)),
      property_congr (hsame (show "tags" ≠ "id" by decide))] using hothers

theorem payments_of_assertPaymentStatus {payments : List JsonObject} {expected : String}
    (h : assertPaymentStatus payments expected = .ok ()) : payments ≠ [] := by
  rintro rfl
  cases h

/-- The payments of an order, as it sends them back. -/
theorem payments_fit {request : PaidRequest} (h : request.payments ≠ []) :
    Schemas.payments (.arr ((request.payments.mapIdx fun index payment =>
      paymentWithId operator request.context.transactionId payment index).map .obj)) = true := by
  have hlength : 1 ≤ request.payments.length := List.length_pos_of_ne_nil h
  have hpayments : ∀ payment ∈ request.payments.mapIdx fun index payment =>
      paymentWithId operator request.context.transactionId payment index,
        Schemas.payment (.obj payment) = true := by
    intro payment hmem
    obtain ⟨index, hindex, rfl⟩ := List.mem_mapIdx.mp hmem
    exact paymentWithId_fits (request.paid _ (List.getElem_mem hindex))
  simpa [Schemas.payments, items, minItems, hlength] using hpayments

/-- **What `init` answers is accepted.** -/
theorem init_document {request : PaidRequest} {order : InitOrder} (hnamed : service.Named)
    (hstore : store.Presentable)
    (h : service.init operator store request.toConfirmRequest draws = .ok order) :
    allOf [Documents.baseOrder, object ["billing", "payments"] []] (.obj order.fields) = true := by
  obtain ⟨⟨⟩, hpaid, h⟩ := Except.bind_ok.mp h
  obtain ⟨base, hbase, h⟩ := Except.bind_ok.mp h
  obtain rfl := Except.ok.inj h
  have hfits := baseOrder_fits hnamed hstore hbase
  have hpayments := @payments_fit operator request (payments_of_assertPaymentStatus hpaid)
  refine allOf_cons.mpr ⟨?_, ?_⟩
  · exact fields_of_order hfits (fun _ => id) ((property_of_get rfl).mpr request.billed)
      ((property_of_get rfl).mpr hpayments)
  · simp [InitOrder.fields, ProtocolOrder.fields, Json.get?]

end TransitBpp.Trv11
