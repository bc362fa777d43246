import TransitBpp.TransitFitting

/-!
# What is published fits its schema

The catalogues of `catalog.ts` and `pass.ts`. A catalogue asks less of a trip and of a pass than an order
does, so `trip_fits` and `passFulfillment_fits` carry over.
-/

namespace JsonSchema

open Js

/-- What an object schema accepts, one that asks less of each property accepts. -/
theorem object_mono {keys : List String} {entries entries' : List (String × Schema)} {value : Json}
    (h : object keys entries value = true)
    (hless : ∀ entry' ∈ entries', ∃ entry ∈ entries, entry.1 = entry'.1 ∧
      ∀ v, entry.2 v = true → entry'.2 v = true) : object keys entries' value = true := by
  obtain ⟨htype, -⟩ := allOf_cons.mp h
  obtain ⟨fields, rfl⟩ := type_object_iff.mp htype
  obtain ⟨hkeys, hproperties⟩ := object_obj.mp h
  refine object_obj.mpr ⟨hkeys, properties_iff.mpr fun entry' hentry' => ?_⟩
  obtain ⟨⟨key, schema⟩, hentry, hkey, himp⟩ := hless entry' hentry'
  refine property_obj.mpr fun v hv => himp v ?_
  exact property_obj.mp (properties_iff.mp hproperties _ hentry) v (hkey ▸ hv)

/-- An array whose elements are accepted is accepted where less is asked of them. -/
theorem items_mono {schema schema' : Schema} {value : Json} (h : items schema value = true)
    (himp : ∀ v, schema v = true → schema' v = true) : items schema' value = true := by
  cases value with
  | arr values => exact items_arr.mpr fun v hv => himp v (items_arr.mp h v hv)
  | _ => rfl

end JsonSchema

namespace TransitBpp.Trv11

open Js JsonSchema

variable {service : Service} {operator : PassOperatorKey} {context : Trv11Context}
  {draws : SearchDraws} {catalogue : Json}

/-! ## Fulfillments -/

theorem publishedStop_of_stop {value : Json} (h : Documents.stop value = true) :
    Documents.publishedStop value = true := by
  refine object_mono h ?_
  simp

theorem someTags_of_tagsOf {value : Json} (h : Documents.tagsOf 1 value = true) :
    Documents.someTags value = true := by
  obtain ⟨hlist, hmin, -⟩ : _ ∧ _ ∧ _ := by simpa [Documents.tagsOf] using h
  simp [Documents.someTags, hlist, hmin]

/-- A trip of an order is one of a catalogue. -/
theorem publishedTrip_of_trip {value : Json} (h : Documents.tripFulfillment value = true) :
    Documents.publishedTrip value = true := by
  have hstops : ∀ v, allOf [type .array, minItems 2, items Documents.stop] v = true →
      allOf [type .array, minItems 2, items Documents.publishedStop] v = true := by
    intro v hv
    obtain ⟨hlist, hmin, hitems⟩ : _ ∧ _ ∧ _ := by simpa using hv
    simp [hlist, hmin, items_mono hitems fun _ => publishedStop_of_stop]
  refine object_mono h fun entry hentry => ?_
  simp only [List.mem_cons, List.not_mem_nil, or_false] at hentry
  rcases hentry with rfl | rfl | rfl | rfl | rfl
  · exact ⟨("id", nonEmpty), by simp, rfl, fun _ => id⟩
  · exact ⟨("type", const "TRIP"), by simp, rfl, fun _ => id⟩
  · exact ⟨("stops", allOf [type .array, minItems 2, items Documents.stop]), by simp, rfl, hstops⟩
  · exact ⟨("vehicle", Documents.vehicle), by simp, rfl, fun _ => id⟩
  · exact ⟨("tags", Documents.tagsOf 1), by simp, rfl, fun _ => someTags_of_tagsOf⟩

/-- A pass of an order is one of a catalogue. -/
theorem publishedPass_of_pass {value : Json} (h : Documents.passFulfillment value = true) :
    Documents.publishedPass value = true := by
  refine object_mono h fun entry hentry => ?_
  simp only [List.mem_cons, List.not_mem_nil, or_false] at hentry
  rcases hentry with rfl | rfl | rfl
  · exact ⟨("id", nonEmpty), by simp, rfl, fun _ => id⟩
  · exact ⟨("type", const "PASS"), by simp, rfl, fun _ => id⟩
  · exact ⟨("tags", Documents.tagsOf 1), by simp, rfl, fun _ => someTags_of_tagsOf⟩

theorem published_trip {fulfillment : JsonObject}
    (h : Documents.tripFulfillment (.obj fulfillment) = true) :
    oneOf [Documents.publishedTrip, Documents.publishedPass] (.obj fulfillment) = true := by
  have hother : Documents.publishedPass (.obj fulfillment) = false :=
    object_refuses (List.mem_cons_of_mem _ (List.mem_cons_self ..)) (type_of_trip h)
      (const_ne (by decide))
  refine @oneOf_append _ _ [] [_] (publishedTrip_of_trip h) ?_
  simpa using hother

theorem published_pass {fulfillment : JsonObject}
    (h : Documents.passFulfillment (.obj fulfillment) = true) :
    oneOf [Documents.publishedTrip, Documents.publishedPass] (.obj fulfillment) = true := by
  have hother : Documents.publishedTrip (.obj fulfillment) = false :=
    object_refuses (List.mem_cons_of_mem _ (List.mem_cons_self ..)) (type_of_tagged h)
      (const_ne (by decide))
  refine @oneOf_append _ _ [_] [] (publishedPass_of_pass h) ?_
  simpa using hother

/-! ## Providers -/

theorem publishedItem_fits {id categoryId name code price duration timestamp : String}
    {more : JsonObject} (hnamed : id ≠ "" ∧ name ≠ "" ∧ code ≠ "")
    (hprice : Schemas.price (inr price) = true) :
    Documents.publishedItem
      (publishedItem id (itemTerms categoryId name code price) duration timestamp more) = true := by
  simp [Documents.publishedItem, publishedItem, itemTerms, publishedQuantity, validityTime, property,
    Json.get?, hnamed, hprice, Schemas.descriptor, Documents.itemTime, minItems, items]

theorem providerTime_fits {time : Json} (h : providerTime service context = .ok time) :
    Documents.serviceTime time = true := by
  obtain ⟨start, hstart, h⟩ := Except.bind_ok.mp h
  obtain ⟨finish, hfinish, h⟩ := Except.bind_ok.mp h
  obtain rfl := Except.ok.inj h
  simp [Documents.serviceTime, property, Json.get?, serviceInstant_ne hstart, serviceInstant_ne hfinish]

/-- A provider that has something to sell. -/
theorem publishedProvider_fits (hnamed : service.Named) {categories published fulfillments : List Json}
    {time : Json} (htime : Documents.serviceTime time = true)
    (hcategories : allOf [type .array, minItems 1, items (object ["id", "descriptor"]
      [("id", nonEmpty), ("descriptor", Schemas.descriptor)])] (.arr categories) = true)
    (hitems : published ≠ [] ∧ ∀ item ∈ published, Documents.publishedItem item = true)
    (hfulfillments : fulfillments ≠ [] ∧ ∀ fulfillment ∈ fulfillments,
      oneOf [Documents.publishedTrip, Documents.publishedPass] fulfillment = true) :
    Documents.publishedProvider
      (publishedProvider service categories time published fulfillments) = true := by
  have hone : 1 ≤ published.length := List.length_pos_of_ne_nil hitems.1
  have hone' : 1 ≤ fulfillments.length := List.length_pos_of_ne_nil hfulfillments.1
  have hpayments : allOf [type .array, minItems 1, items (object ["collected_by", "tags"]
      [("collected_by", enum ["BAP", "BPP"]), ("tags", Documents.someTags)])]
      (.arr (providerPayments service.publicBaseUrl)) = true := by
    simp [providerPayments, Documents.someTags, property, Json.get?, items, minItems]
  have hsold : allOf [type .array, minItems 1, items Documents.publishedItem] (.arr published) =
      true := by simpa [minItems, items, hone] using hitems.2
  have hways : allOf [type .array, minItems 1,
      items (oneOf [Documents.publishedTrip, Documents.publishedPass])] (.arr fulfillments) = true := by
    simpa [minItems, items, hone'] using hfulfillments.2
  have hdescriptor : Schemas.descriptor (.obj [("name", .str service.profile.name)]) = true := by
    simp [Schemas.descriptor, property, Json.get?, hnamed.name]
  refine object_obj.mpr ⟨by simp [Json.get?], ?_⟩
  simp only [properties_cons]
  exact ⟨(property_of_get rfl).mpr (nonEmpty_str.mpr hnamed.id), (property_of_get rfl).mpr hdescriptor,
    (property_of_get rfl).mpr hcategories, (property_of_get rfl).mpr htime,
    (property_of_get rfl).mpr hsold, (property_of_get rfl).mpr hways,
    (property_of_get rfl).mpr hpayments, properties_nil⟩

/-- A catalogue of a provider, or of none. -/
theorem catalog_fits {name : String} {provider : Json} {empty : Bool} (hname : name ≠ "")
    (hprovider : empty = false → Documents.publishedProvider provider = true) :
    Documents.catalog (catalog name provider empty) = true := by
  cases empty with
  | true => simp [Documents.catalog, catalog, property, Json.get?, Schemas.descriptor, hname]
  | false =>
    have hfits := hprovider rfl
    simp [Documents.catalog, catalog, property, Json.get?, Schemas.descriptor, hname, hfits]

/-! ## Catalogues -/

/-- **A catalogue of journeys fits its schema.** -/
theorem buildOnSearch_fits (hnamed : service.Named) {offers : List TransitOffer}
    (hoffers : ∀ offer ∈ offers, offer.Presentable)
    (h : buildOnSearch service context offers draws = .ok catalogue) :
    Documents.catalog catalogue = true := by
  obtain ⟨time, htime, h⟩ := Except.bind_ok.mp h
  obtain ⟨published, hpublished, h⟩ := Except.bind_ok.mp h
  obtain rfl := Except.ok.inj h
  refine catalog_fits (by simp [toString]) fun hempty => ?_
  have hsome : offers ≠ [] := by simpa using hempty
  refine publishedProvider_fits hnamed (providerTime_fits htime) ?_ ⟨?_, ?_⟩ ⟨by simpa using hsome, ?_⟩
  · simp [category, property, Json.get?, Schemas.descriptor, minItems, items]
  · have hlength := (Except.mapM_ok.mp hpublished).length_eq
    rintro rfl
    simp [hsome] at hlength
  · intro item hitem
    obtain ⟨⟨offer, index⟩, hmem, hmade⟩ := exists_of_mem_mapM hpublished hitem
    have hoffer := hoffers offer (List.fst_mem_of_mem_zipIdx hmem)
    obtain ⟨price, hprice, hmade⟩ := Except.bind_ok.mp hmade
    obtain ⟨timestamp, -, hmade⟩ := Except.bind_ok.mp hmade
    obtain rfl := Except.ok.inj hmade
    exact publishedItem_fits ⟨hoffer.offerId, hoffer.productName, by decide⟩ (inr_fits hprice)
  · intro fulfillment hmem
    obtain ⟨offer, hoffer, rfl⟩ := List.mem_map.mp hmem
    have hid : fulfillmentIdForOffer offer.offerId ≠ "" := by simp [fulfillmentIdForOffer, toString]
    exact published_trip (trip_fits (hoffers offer hoffer) hid)

/-- **A catalogue of passes fits its schema.** -/
theorem buildPassOnSearch_fits (hnamed : service.Named)
    (h : buildPassOnSearch service operator context draws = .ok catalogue) :
    Documents.catalog catalogue = true := by
  obtain ⟨timestamp, -, h⟩ := Except.bind_ok.mp h
  obtain ⟨time, htime, h⟩ := Except.bind_ok.mp h
  obtain ⟨published, hpublished, h⟩ := Except.bind_ok.mp h
  obtain rfl := Except.ok.inj h
  refine catalog_fits (by simp [toString]) fun hempty => ?_
  have hsome : passCatalogueFor operator ≠ [] := by simpa using hempty
  refine publishedProvider_fits hnamed (providerTime_fits htime) ?_ ⟨?_, ?_⟩ ⟨by simpa using hsome, ?_⟩
  · simp [category, property, Json.get?, Schemas.descriptor, minItems, items]
  · have hlength := (Except.mapM_ok.mp hpublished).length_eq
    rintro rfl
    simp [hsome] at hlength
  · intro item hitem
    obtain ⟨pass, hmem, hmade⟩ := exists_of_mem_mapM hpublished hitem
    obtain ⟨hid, hname, -⟩ := passItem_named (List.mem_filter.mp hmem).1
    obtain ⟨price, hprice, hmade⟩ := Except.bind_ok.mp hmade
    obtain rfl := Except.ok.inj hmade
    exact publishedItem_fits ⟨hid, hname, by decide⟩ (inr_fits hprice)
  · intro fulfillment hmem
    obtain ⟨pass, -, rfl⟩ := List.mem_map.mp hmem
    exact published_pass (passFulfillment_fits pass)

/-! ## When there is none -/

/-- A context whose timestamp is an instant, and whose date in India can be written. -/
def Trv11Context.Instant (context : Trv11Context) : Prop :=
  ∃ ms text, context.timestampMs = some ms ∧ isoString (ms + indiaOffsetMilliseconds) = .ok text

/-- A price that is a price can be written. -/
theorem paiseToRupees_never_fails {P : Failure → Prop} {paise : ℤ}
    (h : Js.isSafe paise = true ∧ 0 ≤ paise) : FailsAs P (paiseToRupees paise) := by
  have hpaise : ¬ ((!Js.isSafe paise || decide (paise < 0)) = true) := by simp [h]
  rw [paiseToRupees, if_neg hpaise]
  exact failsAs_pure _

/-- The clock can be written. -/
theorem clock_never_fails {P : Failure → Prop} {ms : ℤ} (h : UtcYear ms) : FailsAs P (isoString ms) := by
  obtain ⟨text, htext⟩ := h.writes
  rw [isoString, htext]
  exact failsAs_pure _

theorem serviceInstant_fails {hhmm : String} (h : isHHMM hhmm = true) :
    FailsAs (fun _ => ¬ context.Instant) (serviceInstant context hhmm) := by
  rintro failure hfailure ⟨ms, text, hms, htext⟩
  rw [serviceInstant, hms] at hfailure
  simp only [h, not_true_eq_false, if_false, htext] at hfailure
  cases hfailure

theorem providerTime_fails (hnamed : service.Named) :
    FailsAs (fun _ => ¬ context.Instant) (providerTime service context) :=
  failsAs_bind (serviceInstant_fails hnamed.hours.1) fun _ =>
    failsAs_bind (serviceInstant_fails hnamed.hours.2) fun _ => failsAs_pure _

/-- **A catalogue of journeys is there**, where the timestamp of the request is an instant. -/
theorem buildOnSearch_fails (hnamed : service.Named) {offers : List TransitOffer}
    (hoffers : ∀ offer ∈ offers, offer.Presentable) (hclock : ∀ index, UtcYear (draws.itemTime index)) :
    FailsAs (fun _ => ¬ context.Instant) (buildOnSearch service context offers draws) := by
  refine failsAs_bind (providerTime_fails hnamed) fun _ =>
    failsAs_bind (failsAs_mapM ?_) fun _ => failsAs_pure _
  rintro ⟨offer, index⟩ hmem
  have hpriced := (hoffers offer (List.fst_mem_of_mem_zipIdx hmem)).priced
  exact failsAs_bind (paiseToRupees_never_fails hpriced) fun _ =>
    failsAs_bind (clock_never_fails (hclock index)) fun _ => failsAs_pure _

/-- **And so is one of passes.** -/
theorem buildPassOnSearch_fails (hnamed : service.Named) (hclock : UtcYear draws.publishedAt) :
    FailsAs (fun _ => ¬ context.Instant)
      (buildPassOnSearch service operator context draws) := by
  refine failsAs_bind (clock_never_fails hclock) fun _ =>
    failsAs_bind (providerTime_fails hnamed) fun _ =>
      failsAs_bind (failsAs_mapM fun pass hmem => ?_) fun _ => failsAs_pure _
  obtain ⟨-, -, hpriced⟩ := passItem_named (List.mem_filter.mp hmem).1
  exact failsAs_bind (paiseToRupees_never_fails hpriced) fun _ => failsAs_pure _

end TransitBpp.Trv11
