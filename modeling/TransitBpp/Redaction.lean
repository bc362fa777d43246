import TransitBpp.Manifest

/-!
# Orders without passengers

`withoutManifestNames` of `store.ts`, which the retention sweep applies to a stored order. It
walks any JSON value; `Order.withoutManifestNames` is the same walk over an order, and
`Order.toJson_withoutManifestNames` says the two agree. What the walk leaves behind names nobody
(`withoutManifestNames_anonymous`), as long as no manifest is nested inside another: a buyer's
own billing and payments travel through an order unread, so they may hold anything.
-/

namespace TransitBpp

open Js

/-! ## The walk over JSON -/

/-- `value.descriptor?.code`, where that is a string. -/
def descriptorCode (value : Json) : Option String :=
  (value.get? "descriptor").bind fun d => (d.get? "code").bind Json.str?

/-- The list of a `MANIFEST` object, where the object is one and its list is an array. -/
def manifestList? (fields : JsonObject) : Option (List Json) :=
  if descriptorCode (.obj fields) = some "MANIFEST" then
    match Json.get? "list" (.obj fields) with
    | some (.arr list) => some list
    | _ => none
  else none

/-- Keep the `SEAT_ID` entries of a manifest's list. Reading a field of `null` throws. -/
def keepSeatEntries (list : List Json) : Except Failure (List Json) :=
  if list.any Json.isNull then
    throw (.error "Cannot read properties of null (reading 'descriptor')")
  else return list.filter fun entry => descriptorCode entry = some "SEAT_ID"

mutual

/-- The stored order with every passenger name, age and gender removed from its manifests. -/
def withoutManifestNames : Json → Except Failure Json
  | .arr values => do return .arr (← withoutManifestNamesAll values)
  | .obj fields =>
    match manifestList? fields with
    | some list => do return .obj (Json.set fields "list" (.arr (← keepSeatEntries list)))
    | none => do return .obj (← withoutManifestNamesFields fields)
  | value => return value

/-- The walk over the values of an array. -/
def withoutManifestNamesAll : List Json → Except Failure (List Json)
  | [] => return []
  | value :: values => do
    return (← withoutManifestNames value) :: (← withoutManifestNamesAll values)

/-- The walk over the fields of an object. -/
def withoutManifestNamesFields : JsonObject → Except Failure JsonObject
  | [] => return []
  | (key, value) :: fields => do
    return (key, ← withoutManifestNames value) :: (← withoutManifestNamesFields fields)

end

/-! ### One step of the walk -/

/-- The entries of a manifest's list that say which seat. -/
def seatIdEntries (list : List Json) : List Json :=
  list.filter fun entry => descriptorCode entry = some "SEAT_ID"

/-- A manifest without its passengers. -/
def withSeatsOnly (fields : JsonObject) (list : List Json) : JsonObject :=
  Json.set fields "list" (.arr (seatIdEntries list))

/-- The list of a manifest is kept exactly where it has no `null`. -/
theorem keepSeatEntries_ok {list kept : List Json} :
    keepSeatEntries list = .ok kept ↔ Json.null ∉ list ∧ kept = seatIdEntries list := by
  have hnull : list.any Json.isNull = true ↔ Json.null ∈ list := by
    rw [List.any_eq_true]
    constructor
    · rintro ⟨entry, hentry, hisNull⟩
      cases entry with
      | null => exact hentry
      | _ => cases hisNull
    · exact fun h => ⟨_, h, rfl⟩
  rw [keepSeatEntries, ← hnull]
  split
  · rename_i hany
    exact ⟨fun h => (by cases h), fun h => absurd hany h.1⟩
  · rename_i hany
    exact ⟨fun h => ⟨hany, (Except.ok.inj h).symm⟩, fun h => congrArg _ h.2.symm⟩

/-- What the walk does to a manifest. -/
theorem walk_manifest {fields : JsonObject} {list : List Json} {value' : Json}
    (hm : manifestList? fields = some list) : withoutManifestNames (.obj fields) = .ok value' ↔
      Json.null ∉ list ∧ value' = .obj (withSeatsOnly fields list) := by
  rw [withoutManifestNames, hm]
  dsimp only
  constructor
  · intro h
    obtain ⟨kept, hkept, h⟩ := Except.bind_ok.mp h
    obtain ⟨hnull, rfl⟩ := keepSeatEntries_ok.mp hkept
    exact ⟨hnull, (Except.ok.inj h).symm⟩
  · rintro ⟨hnull, rfl⟩
    rw [keepSeatEntries_ok.mpr ⟨hnull, rfl⟩]
    rfl

/-- What it does to any other object. -/
theorem walk_object {fields : JsonObject} {value' : Json} (hm : manifestList? fields = none) :
    withoutManifestNames (.obj fields) = .ok value' ↔
      ∃ fields', withoutManifestNamesFields fields = .ok fields' ∧ value' = .obj fields' := by
  rw [withoutManifestNames, hm]
  dsimp only
  constructor
  · intro h
    obtain ⟨fields', hfields, h⟩ := Except.bind_ok.mp h
    exact ⟨fields', hfields, (Except.ok.inj h).symm⟩
  · rintro ⟨fields', hfields, rfl⟩
    rw [hfields]
    rfl

/-- What it does to an array. -/
theorem walk_array {values : List Json} {value' : Json} :
    withoutManifestNames (.arr values) = .ok value' ↔
      ∃ values', withoutManifestNamesAll values = .ok values' ∧ value' = .arr values' := by
  rw [withoutManifestNames]
  constructor
  · intro h
    obtain ⟨values', hvalues, h⟩ := Except.bind_ok.mp h
    exact ⟨values', hvalues, (Except.ok.inj h).symm⟩
  · rintro ⟨values', hvalues, rfl⟩
    rw [hvalues]
    rfl

/-- An object stays one. -/
theorem walk_obj {fields : JsonObject} {value' : Json}
    (h : withoutManifestNames (.obj fields) = .ok value') : ∃ fields', value' = .obj fields' := by
  cases hm : manifestList? fields with
  | some list => exact ⟨_, ((walk_manifest hm).mp h).2⟩
  | none =>
    obtain ⟨fields', -, rfl⟩ := (walk_object hm).mp h
    exact ⟨fields', rfl⟩

/-! ## The walk over an order -/

/-- A tag without its passengers. -/
def Tag.withoutManifestNames (tag : Tag) : Tag :=
  if tag.code = "MANIFEST" then { tag with list := tag.list.filter fun e => e.code = "SEAT_ID" }
  else tag

/-- A stop without its passengers. -/
def Stop.withoutManifestNames (stop : Stop) : Stop :=
  { stop with tags := stop.tags.map Tag.withoutManifestNames }

/-- A fulfillment without its passengers. -/
def Fulfillment.withoutManifestNames (f : Fulfillment) : Fulfillment :=
  { f with
    stops := f.stops.map Stop.withoutManifestNames
    tags := f.tags.map Tag.withoutManifestNames }

/-- An item without its passengers. -/
def Item.withoutManifestNames (item : Item) : Item :=
  { item with tags := item.tags.map Tag.withoutManifestNames }

/-- The fields of a buyer's own object without the passengers of any manifest in it. -/
def objectWithoutManifestNames (fields : JsonObject) : Except Failure JsonObject :=
  match manifestList? fields with
  | some list => do return Json.set fields "list" (.arr (← keepSeatEntries list))
  | none => withoutManifestNamesFields fields

/-- An order without its passengers. Only the buyer's own billing and payments can make it throw. -/
def Order.withoutManifestNames (order : Order) : Except Failure Order := do
  let billing ← order.billing.mapM objectWithoutManifestNames
  let payments ← order.payments.mapM fun ps => ps.mapM objectWithoutManifestNames
  return { order with
    items := order.items.map Item.withoutManifestNames
    fulfillments := order.fulfillments.map Fulfillment.withoutManifestNames
    billing, payments
    tags := order.tags.map Tag.withoutManifestNames }

/-! ### The two walks agree -/

@[simp] theorem withoutManifestNames_str (s : String) :
    withoutManifestNames (.str s) = .ok (.str s) := rfl

@[simp] theorem withoutManifestNames_bool (b : Bool) :
    withoutManifestNames (.bool b) = .ok (.bool b) := rfl

@[simp] theorem withoutManifestNames_num (q : ℚ) :
    withoutManifestNames (.num q) = .ok (.num q) := rfl

@[simp] theorem withoutManifestNamesFields_nil : withoutManifestNamesFields [] = .ok [] := rfl

theorem withoutManifestNames_obj (fields : JsonObject) :
    withoutManifestNames (.obj fields) = (objectWithoutManifestNames fields).map .obj := by
  rw [withoutManifestNames, objectWithoutManifestNames]
  cases manifestList? fields with
  | some list =>
    dsimp only
    cases keepSeatEntries list <;> rfl
  | none =>
    dsimp only
    cases withoutManifestNamesFields fields <;> rfl

theorem withoutManifestNamesFields_append (xs ys : JsonObject) :
    withoutManifestNamesFields (xs ++ ys) =
      (do return (← withoutManifestNamesFields xs) ++ (← withoutManifestNamesFields ys)) := by
  induction xs with
  | nil => cases h : withoutManifestNamesFields ys <;> simp [h, bind, Except.bind, pure, Except.pure]
  | cons f xs ih =>
    obtain ⟨key, value⟩ := f
    simp only [List.cons_append, withoutManifestNamesFields, ih]
    cases withoutManifestNames value <;> cases withoutManifestNamesFields xs <;>
      cases withoutManifestNamesFields ys <;> rfl

/-- Values that each come through as `f` says. -/
theorem withoutManifestNamesAll_map {α : Type} {toJson : α → Json} (f : α → α)
    (h : ∀ a, withoutManifestNames (toJson a) = .ok (toJson (f a))) (xs : List α) :
    withoutManifestNamesAll (xs.map toJson) = .ok ((xs.map f).map toJson) := by
  induction xs with
  | nil => rfl
  | cons x xs ih => simp only [List.map_cons, withoutManifestNamesAll, h, ih]; rfl

/-- The same, where coming through may throw. -/
theorem withoutManifestNamesAll_mapM {α : Type} {toJson : α → Json} {f : α → Except Failure α}
    (h : ∀ a, withoutManifestNames (toJson a) = (f a).map toJson) (xs : List α) :
    withoutManifestNamesAll (xs.map toJson) = (xs.mapM f).map (·.map toJson) := by
  induction xs with
  | nil => rfl
  | cons x xs ih =>
    simp only [List.map_cons, withoutManifestNamesAll, h, ih, List.mapM_cons]
    cases f x <;> cases xs.mapM f <;> rfl

/-- An object that is no manifest comes through field by field. -/
theorem withoutManifestNames_of_not_manifest {fields : JsonObject}
    (h : manifestList? fields = none) :
    withoutManifestNames (.obj fields) = (withoutManifestNamesFields fields).map .obj := by
  rw [withoutManifestNames_obj, objectWithoutManifestNames, h]

/-- An optional field whose value comes through unchanged. -/
theorem withoutManifestNamesFields_optional {α : Type} (key : String) {toJson : α → Json}
    (h : ∀ a, withoutManifestNames (toJson a) = .ok (toJson a)) (value : Option α) :
    withoutManifestNamesFields (optionalField key toJson value) =
      .ok (optionalField key toJson value) := by
  cases value with
  | none => rfl
  | some v =>
    simp only [optionalField, Option.elim_some, withoutManifestNamesFields, h]
    rfl

theorem withoutManifestNames_jsonStrings (xs : List String) :
    withoutManifestNames (jsonStrings xs) = .ok (jsonStrings xs) := by
  have h := withoutManifestNamesAll_map id withoutManifestNames_str xs
  rw [List.map_id] at h
  simp only [jsonStrings, withoutManifestNames, h]
  rfl

/-- Without a `list` field an object is no manifest. -/
theorem manifestList?_of_no_list {fields : JsonObject}
    (h : Json.get? "list" (.obj fields) = none) : manifestList? fields = none := by
  rw [manifestList?, h, ite_self]

/-- Without a `descriptor` field an object is no manifest. -/
theorem manifestList?_of_no_descriptor {fields : JsonObject}
    (h : ∀ f ∈ fields, f.1 ≠ "descriptor") : manifestList? fields = none := by
  have hf : fields.find? (fun f => f.1 = "descriptor") = none :=
    List.find?_eq_none.mpr fun f hf => by simpa using h f hf
  simp [manifestList?, descriptorCode, Json.get?, hf]

theorem fst_of_mem_optionalField {α : Type} {key : String} {toJson : α → Json} {value : Option α}
    {f : String × Json} (h : f ∈ optionalField key toJson value) : f.1 = key := by
  cases value with
  | none => cases h
  | some v =>
    simp only [optionalField, Option.elim_some, List.mem_singleton] at h
    rw [h]

theorem TagEntry.toJson_fixed (e : TagEntry) :
    withoutManifestNames e.toJson = .ok e.toJson := by
  rw [TagEntry.toJson, withoutManifestNames_of_not_manifest (manifestList?_of_no_list rfl)]
  rfl

theorem keepSeatEntries_toJson (entries : List TagEntry) :
    keepSeatEntries (entries.map TagEntry.toJson) =
      .ok ((entries.filter fun e => e.code = "SEAT_ID").map TagEntry.toJson) := by
  have hnull : (entries.map TagEntry.toJson).any Json.isNull = false := by
    simp [TagEntry.toJson, Json.isNull]
  have hcode : ∀ e : TagEntry, descriptorCode e.toJson = some e.code := fun e => rfl
  rw [keepSeatEntries, hnull, List.filter_map]
  simp only [Function.comp_def, hcode, Option.some.injEq]
  rfl

theorem Tag.toJson_withoutManifestNames (tag : Tag) :
    TransitBpp.withoutManifestNames tag.toJson = .ok tag.withoutManifestNames.toJson := by
  obtain ⟨code, display, list⟩ := tag
  rw [Tag.toJson, withoutManifestNames_obj, objectWithoutManifestNames]
  by_cases hc : code = "MANIFEST"
  · subst hc
    have hm : manifestList? [("descriptor", .obj [("code", .str "MANIFEST")]),
        ("display", .bool display), ("list", .arr (list.map TagEntry.toJson))] =
          some (list.map TagEntry.toJson) := rfl
    rw [hm]
    dsimp only
    rw [keepSeatEntries_toJson]
    rfl
  · have hm : manifestList? [("descriptor", .obj [("code", .str code)]),
        ("display", .bool display), ("list", .arr (list.map TagEntry.toJson))] = none := by
      simp [manifestList?, descriptorCode, Json.get?, Json.str?, hc]
    have hl := withoutManifestNamesAll_map id TagEntry.toJson_fixed list
    have hd : TransitBpp.withoutManifestNames (.obj [("code", .str code)]) = .ok (.obj [("code", .str code)]) :=
      rfl
    rw [hm]
    simp only [Tag.withoutManifestNames, hc, if_false, withoutManifestNamesFields,
      TransitBpp.withoutManifestNames.eq_1, hl, hd, List.map_id]
    rfl

theorem tagsJson_withoutManifestNames (tags : List Tag) :
    withoutManifestNames (tagsJson tags) = .ok (tagsJson (tags.map Tag.withoutManifestNames)) := by
  rw [tagsJson, withoutManifestNames, withoutManifestNamesAll_map _ Tag.toJson_withoutManifestNames]
  rfl

theorem Item.toJson_withoutManifestNames (item : Item) :
    TransitBpp.withoutManifestNames item.toJson = .ok item.withoutManifestNames.toJson := by
  have hquantity : ∀ (a : Option ℕ) (s : Option ℤ),
      let q := Json.obj (optionalField "available" (fun n : ℕ => countJson n) a ++
        optionalField "selected" countJson s ++ [("maximum", countJson 6), ("minimum", countJson 1)])
      TransitBpp.withoutManifestNames q = .ok q := by
    rintro (_ | a) (_ | s) <;> rfl
  have hdescriptor : TransitBpp.withoutManifestNames
      (.obj [("name", .str item.name), ("code", .str "RESERVED")]) = .ok _ := rfl
  have htime : TransitBpp.withoutManifestNames
      (.obj [("label", .str "Departure"), ("timestamp", .str item.departure)]) = .ok _ := rfl
  have hprice : TransitBpp.withoutManifestNames item.price.toJson = .ok item.price.toJson := rfl
  have hcategory : TransitBpp.withoutManifestNames (.arr [.str "C3"]) = .ok _ := rfl
  rw [Item.toJson, withoutManifestNames_of_not_manifest rfl]
  simp only [withoutManifestNamesFields, withoutManifestNames_str, hcategory, hdescriptor, hprice,
    hquantity, withoutManifestNames_jsonStrings, htime, tagsJson_withoutManifestNames]
  rfl

theorem Stop.toJson_withoutManifestNames (stop : Stop) :
    TransitBpp.withoutManifestNames stop.toJson = .ok stop.withoutManifestNames.toJson := by
  obtain ⟨id, parent, type, name, code, gps, timestamp, tags⟩ := stop
  have hlocation : ∀ gps : Option String,
      let l := Json.obj (("descriptor", .obj [("name", .str name), ("code", .str code)]) ::
        optionalField "gps" .str gps)
      TransitBpp.withoutManifestNames l = .ok l := by
    rintro (_ | gps) <;>
      exact (withoutManifestNames_of_not_manifest (manifestList?_of_no_list rfl)).trans rfl
  have htime : TransitBpp.withoutManifestNames (.obj [("timestamp", .str timestamp)]) = .ok _ := rfl
  have hparent := withoutManifestNamesFields_optional "parent_stop_id"
    withoutManifestNames_str parent
  rw [Stop.toJson, withoutManifestNames_of_not_manifest (by cases parent <;> rfl)]
  simp only [List.cons_append, withoutManifestNamesFields, withoutManifestNamesFields_append,
    withoutManifestNames_str, hparent, hlocation, htime, tagsJson_withoutManifestNames]
  rfl

theorem Fulfillment.toJson_withoutManifestNames (f : Fulfillment) :
    TransitBpp.withoutManifestNames f.toJson = .ok f.withoutManifestNames.toJson := by
  have hvehicle : TransitBpp.withoutManifestNames (.obj [("category", .str "COACH")]) = .ok _ := rfl
  have hstops : TransitBpp.withoutManifestNames (.arr (f.stops.map Stop.toJson)) =
      .ok (.arr ((f.stops.map Stop.withoutManifestNames).map Stop.toJson)) := by
    rw [TransitBpp.withoutManifestNames,
      withoutManifestNamesAll_map _ Stop.toJson_withoutManifestNames]
    rfl
  rw [Fulfillment.toJson, withoutManifestNames_of_not_manifest rfl]
  simp only [withoutManifestNamesFields, withoutManifestNames_str, hvehicle, hstops,
    tagsJson_withoutManifestNames]
  rfl

theorem Quote.toJson_fixed (quote : Quote) :
    withoutManifestNames quote.toJson = .ok quote.toJson := by
  have hline : ∀ line : PriceLine, withoutManifestNames line.toJson = .ok line.toJson :=
    fun line => rfl
  have hbreakup : withoutManifestNames (.arr (quote.breakup.map PriceLine.toJson)) =
      .ok (.arr (quote.breakup.map PriceLine.toJson)) := by
    rw [withoutManifestNames, withoutManifestNamesAll_map id hline, List.map_id]
    rfl
  have hprice : withoutManifestNames quote.price.toJson = .ok quote.price.toJson := rfl
  rw [Quote.toJson, withoutManifestNames_of_not_manifest rfl]
  simp only [withoutManifestNamesFields, hprice, hbreakup]
  rfl

/-- No field of an order's own makes it a manifest. -/
theorem Order.manifestList?_fields (order : Order) : manifestList? order.fields = none := by
  refine manifestList?_of_no_descriptor fun f hf => ?_
  simp only [Order.fields, List.mem_append, List.mem_cons, List.not_mem_nil, or_false] at hf
  rcases hf with (((((((h | h) | h) | h) | h) | h) | h) | h) | h
  · simp [fst_of_mem_optionalField h]
  · simp [fst_of_mem_optionalField h]
  · rcases h with rfl | rfl | rfl | rfl <;> simp
  · simp [fst_of_mem_optionalField h]
  · simp [fst_of_mem_optionalField h]
  · simp [h]
  · simp [fst_of_mem_optionalField h]
  · simp [fst_of_mem_optionalField h]
  · simp [h]

/-- The walk over an order is the walk over its JSON. -/
theorem Order.toJson_withoutManifestNames (order : Order) :
    TransitBpp.withoutManifestNames order.toJson =
      order.withoutManifestNames.map Order.toJson := by
  obtain ⟨id, status, providerId, providerName, items, fulfillments, quote, billing, payments,
    termsUrl, createdAt, tags⟩ := order
  have hid := withoutManifestNamesFields_optional "id" withoutManifestNames_str id
  have hstatus := withoutManifestNamesFields_optional "status"
    (fun s => withoutManifestNames_str (OrderStatus.wire s)) status
  have hcreated := withoutManifestNamesFields_optional "created_at"
    withoutManifestNames_str createdAt
  have hupdated := withoutManifestNamesFields_optional "updated_at"
    withoutManifestNames_str createdAt
  have hprovider : TransitBpp.withoutManifestNames (.obj [("id", .str providerId),
      ("descriptor", .obj [("name", .str providerName)])]) = .ok _ := rfl
  have hterms : TransitBpp.withoutManifestNames (.arr [.obj [("external_ref",
      .obj [("mimetype", .str "text/html"), ("url", .str termsUrl)])]]) = .ok _ := rfl
  have hitems : TransitBpp.withoutManifestNames (.arr (items.map Item.toJson)) =
      .ok (.arr ((items.map Item.withoutManifestNames).map Item.toJson)) := by
    rw [TransitBpp.withoutManifestNames,
      withoutManifestNamesAll_map _ Item.toJson_withoutManifestNames]
    rfl
  have hfulfillments : TransitBpp.withoutManifestNames
      (.arr (fulfillments.map Fulfillment.toJson)) =
      .ok (.arr ((fulfillments.map Fulfillment.withoutManifestNames).map Fulfillment.toJson)) := by
    rw [TransitBpp.withoutManifestNames,
      withoutManifestNamesAll_map _ Fulfillment.toJson_withoutManifestNames]
    rfl
  have hbilling : withoutManifestNamesFields (optionalField "billing" .obj billing) =
      (billing.mapM objectWithoutManifestNames).map (optionalField "billing" .obj) := by
    cases billing with
    | none => rfl
    | some b =>
      simp only [optionalField, Option.elim_some, withoutManifestNamesFields,
        withoutManifestNames_obj, Option.mapM_some]
      cases objectWithoutManifestNames b <;> rfl
  have hpayments : withoutManifestNamesFields
      (optionalField "payments" (fun ps => .arr (ps.map .obj)) payments) =
      (payments.mapM fun ps : List JsonObject => ps.mapM objectWithoutManifestNames).map
        (optionalField "payments" fun ps => .arr (ps.map .obj)) := by
    cases payments with
    | none => rfl
    | some ps =>
      simp only [optionalField, Option.elim_some, withoutManifestNamesFields,
        TransitBpp.withoutManifestNames.eq_1, withoutManifestNamesAll_mapM withoutManifestNames_obj,
        Option.mapM_some]
      cases ps.mapM objectWithoutManifestNames <;> rfl
  rw [Order.toJson, withoutManifestNames_of_not_manifest (Order.manifestList?_fields _)]
  simp only [Order.fields, withoutManifestNamesFields_append, withoutManifestNamesFields, hid,
    hstatus, hcreated, hupdated, hprovider, hterms, hitems, hfulfillments, hbilling, hpayments,
    Quote.toJson_fixed, tagsJson_withoutManifestNames, Order.withoutManifestNames]
  cases billing.mapM objectWithoutManifestNames <;>
    cases payments.mapM fun ps : List JsonObject => ps.mapM objectWithoutManifestNames <;> rfl

/-! ## What is left names nobody -/

/-- A manifest entry that says nothing about a passenger: no age, no gender, and no name but an
empty one. -/
def anonymousEntry (entry : Json) : Bool :=
  let code := descriptorCode entry
  if code = some "NAME" then (entry.get? "value").all fun value => value.str? = some ""
  else code ≠ some "AGE" && code ≠ some "GENDER"

mutual

/-- No manifest anywhere in the value names a passenger. -/
def anonymous : Json → Bool
  | .arr values => anonymousAll values
  | .obj fields =>
    ((manifestList? fields).elim true fun list => list.all anonymousEntry) && anonymousFields fields
  | _ => true

/-- No manifest in any of the values names a passenger. -/
def anonymousAll : List Json → Bool
  | [] => true
  | value :: values => anonymous value && anonymousAll values

/-- No manifest in any of the fields names a passenger. -/
def anonymousFields : JsonObject → Bool
  | [] => true
  | (_, value) :: fields => anonymous value && anonymousFields fields

end

mutual

/-- The value holds at most `depth` manifests one inside another. -/
def manifestDepth : ℕ → Json → Bool
  | depth, .arr values => manifestDepthAll depth values
  | depth, .obj fields =>
    if (manifestList? fields).isSome then
      match depth with
      | 0 => false
      | depth + 1 => manifestDepthFields depth fields
    else manifestDepthFields depth fields
  | _, _ => true

/-- The same of every value. -/
def manifestDepthAll : ℕ → List Json → Bool
  | _, [] => true
  | depth, value :: values => manifestDepth depth value && manifestDepthAll depth values

/-- The same of every field. -/
def manifestDepthFields : ℕ → JsonObject → Bool
  | _, [] => true
  | depth, (_, value) :: fields => manifestDepth depth value && manifestDepthFields depth fields

end

/-! ### A value without manifests is anonymous -/

mutual

theorem anonymous_of_depth_zero : ∀ value : Json, manifestDepth 0 value = true →
    anonymous value = true
  | .null, _ => rfl
  | .bool _, _ => rfl
  | .num _, _ => rfl
  | .str _, _ => rfl
  | .arr values, h => anonymousAll_of_depth_zero values h
  | .obj fields, h => by
    rw [manifestDepth] at h
    split at h
    · cases h
    · rename_i hm
      rw [anonymous, Option.not_isSome_iff_eq_none.mp hm, Option.elim_none, Bool.true_and]
      exact anonymousFields_of_depth_zero fields h

theorem anonymousAll_of_depth_zero : ∀ values : List Json, manifestDepthAll 0 values = true →
    anonymousAll values = true
  | [], _ => rfl
  | value :: values, h => by
    rw [manifestDepthAll, Bool.and_eq_true] at h
    rw [anonymousAll, anonymous_of_depth_zero value h.1, anonymousAll_of_depth_zero values h.2]
    rfl

theorem anonymousFields_of_depth_zero : ∀ fields : JsonObject,
    manifestDepthFields 0 fields = true → anonymousFields fields = true
  | [], _ => rfl
  | (_, value) :: fields, h => by
    rw [manifestDepthFields, Bool.and_eq_true] at h
    rw [anonymousFields, anonymous_of_depth_zero value h.1, anonymousFields_of_depth_zero fields h.2]
    rfl

end

theorem manifestDepthAll_iff {depth : ℕ} {values : List Json} :
    manifestDepthAll depth values = true ↔ ∀ v ∈ values, manifestDepth depth v = true := by
  induction values with
  | nil => simp [manifestDepthAll]
  | cons v vs ih => simp [manifestDepthAll, ih]

theorem manifestDepthFields_iff {depth : ℕ} {fields : JsonObject} :
    manifestDepthFields depth fields = true ↔ ∀ f ∈ fields, manifestDepth depth f.2 = true := by
  induction fields with
  | nil => simp [manifestDepthFields]
  | cons f fs ih => simp [manifestDepthFields, ih]

/-! ### The walk keeps the shape of a value -/

/-- A field of an object after the walk over its fields. -/
theorem get?_withoutManifestNamesFields {fields fields' : JsonObject}
    (h : withoutManifestNamesFields fields = .ok fields') (key : String) :
    (Json.get? key (.obj fields) = none ∧ Json.get? key (.obj fields') = none) ∨
      ∃ v v', Json.get? key (.obj fields) = some v ∧ Json.get? key (.obj fields') = some v' ∧
        withoutManifestNames v = .ok v' := by
  induction fields generalizing fields' with
  | nil =>
    obtain rfl := Except.ok.inj h
    exact Or.inl ⟨rfl, rfl⟩
  | cons f fields ih =>
    obtain ⟨k, v⟩ := f
    rw [withoutManifestNamesFields] at h
    obtain ⟨v', hv, h⟩ := Except.bind_ok.mp h
    obtain ⟨rest, hrest, h⟩ := Except.bind_ok.mp h
    obtain rfl := Except.ok.inj h
    by_cases hk : k = key
    · exact Or.inr ⟨v, v', by simp [Json.get?, hk], by simp [Json.get?, hk], hv⟩
    · have hget : ∀ (w : Json) (fs : JsonObject),
          Json.get? key (.obj ((k, w) :: fs)) = Json.get? key (.obj fs) := by
        intro w fs
        simp [Json.get?, hk]
      rw [hget, hget]
      exact ih hrest

/-- The walk turns a string into itself and nothing else into a string. -/
theorem str?_withoutManifestNames {value value' : Json}
    (h : withoutManifestNames value = .ok value') : value'.str? = value.str? := by
  cases value with
  | arr values =>
    obtain ⟨values', -, rfl⟩ := walk_array.mp h
    rfl
  | obj fields =>
    obtain ⟨fields', rfl⟩ := walk_obj h
    rfl
  | _ =>
    obtain rfl := Except.ok.inj h
    rfl

/-- The walk keeps the code of a descriptor. -/
theorem code_withoutManifestNames {value value' : Json}
    (h : withoutManifestNames value = .ok value') :
    (value'.get? "code").bind Json.str? = (value.get? "code").bind Json.str? := by
  cases value with
  | arr values =>
    obtain ⟨values', -, rfl⟩ := walk_array.mp h
    rfl
  | obj fields =>
    cases hm : manifestList? fields with
    | none =>
      obtain ⟨fields', hfields, rfl⟩ := (walk_object hm).mp h
      rcases get?_withoutManifestNamesFields hfields "code" with ⟨h₁, h₂⟩ | ⟨v, v', h₁, h₂, h₃⟩
      · rw [h₁, h₂]
      · rw [h₁, h₂, Option.bind_some, Option.bind_some, str?_withoutManifestNames h₃]
    | some list =>
      obtain ⟨-, rfl⟩ := (walk_manifest hm).mp h
      rw [withSeatsOnly, Json.get?_set_ne (by decide)]
  | _ =>
    obtain rfl := Except.ok.inj h
    rfl

/-- The walk over the fields of an object that is no manifest does not make it one. -/
theorem manifestList?_withoutManifestNamesFields {fields fields' : JsonObject}
    (h : withoutManifestNamesFields fields = .ok fields') (hm : manifestList? fields = none) :
    manifestList? fields' = none := by
  have hcode : descriptorCode (.obj fields') = descriptorCode (.obj fields) := by
    rcases get?_withoutManifestNamesFields h "descriptor" with ⟨h₁, h₂⟩ | ⟨v, v', h₁, h₂, h₃⟩
    · rw [descriptorCode, descriptorCode, h₁, h₂]
    · rw [descriptorCode, descriptorCode, h₁, h₂, Option.bind_some, Option.bind_some,
        code_withoutManifestNames h₃]
  unfold manifestList? at hm ⊢
  rw [hcode]
  split
  · rename_i hd
    rw [if_pos hd] at hm
    rcases get?_withoutManifestNamesFields h "list" with ⟨h₁, h₂⟩ | ⟨v, v', h₁, h₂, h₃⟩
    · rw [h₂]
    · rw [h₁] at hm
      rw [h₂]
      cases v with
      | arr list => cases hm
      | obj fs =>
        obtain ⟨fs', rfl⟩ := walk_obj h₃
        rfl
      | _ =>
        obtain rfl := Except.ok.inj h₃
        rfl
  · rfl

/-! ### The walk leaves nobody named -/

/-- A manifest with another list is a manifest. -/
theorem manifestList?_set {fields : JsonObject} {list kept : List Json}
    (hm : manifestList? fields = some list) :
    manifestList? (Json.set fields "list" (.arr kept)) = some kept := by
  unfold manifestList? descriptorCode at hm ⊢
  rw [Json.get?_set_ne (by decide), Json.get?_set_self]
  split at hm
  · rename_i hd
    rw [if_pos hd]
  · cases hm

theorem manifestList?_withSeatsOnly {fields : JsonObject} {list : List Json}
    (hm : manifestList? fields = some list) :
    manifestList? (withSeatsOnly fields list) = some (seatIdEntries list) :=
  manifestList?_set hm

/-- The list of a manifest is its `list` field. -/
theorem get?_list {fields : JsonObject} {list : List Json} (hm : manifestList? fields = some list) :
    Json.get? "list" (.obj fields) = some (.arr list) := by
  rw [manifestList?] at hm
  split at hm
  · split at hm
    · rename_i l hl
      rw [hl, Option.some.inj hm]
    · cases hm
  · cases hm

/-- A manifest with fewer entries holds no more manifests. -/
theorem manifestDepthFields_set {depth : ℕ} {fields : JsonObject} {list kept : List Json}
    (hm : manifestList? fields = some list) (hdepth : manifestDepthFields depth fields = true)
    (hkept : ∀ entry ∈ kept, entry ∈ list) :
    manifestDepthFields depth (Json.set fields "list" (.arr kept)) = true := by
  have hlist : manifestDepthAll depth list = true := by
    obtain ⟨f, hf, hv⟩ := Option.map_eq_some_iff.mp (get?_list hm)
    have := manifestDepthFields_iff.mp hdepth f (List.mem_of_find?_eq_some hf)
    rwa [hv] at this
  refine manifestDepthFields_iff.mpr fun f hf => ?_
  rcases mem_mapSet hf with hf | rfl
  · exact manifestDepthFields_iff.mp hdepth f hf
  · exact manifestDepthAll_iff.mpr fun v hv => manifestDepthAll_iff.mp hlist v (hkept v hv)

/-- A manifest without its passengers names nobody, where nothing in it is a manifest. -/
theorem anonymous_manifest {fields : JsonObject} {list : List Json}
    (hm : manifestList? fields = some list) (hdepth : manifestDepthFields 0 fields = true) :
    anonymous (.obj (withSeatsOnly fields list)) = true := by
  have hfields : anonymousFields (withSeatsOnly fields list) = true :=
    anonymousFields_of_depth_zero _
      (manifestDepthFields_set hm hdepth fun entry he => (List.mem_filter.mp he).1)
  rw [anonymous, manifestList?_withSeatsOnly hm, hfields, Option.elim_some, Bool.and_true,
    List.all_eq_true]
  intro entry he
  have hd : descriptorCode entry = some "SEAT_ID" := by simpa using (List.mem_filter.mp he).2
  simp [anonymousEntry, hd]

mutual

/-- **What the walk leaves behind names nobody**, where no manifest is nested inside another. -/
theorem withoutManifestNames_anonymous : ∀ value value' : Json, manifestDepth 1 value = true →
    withoutManifestNames value = .ok value' → anonymous value' = true
  | .null, _, _, h => by obtain rfl := Except.ok.inj h; rfl
  | .bool _, _, _, h => by obtain rfl := Except.ok.inj h; rfl
  | .num _, _, _, h => by obtain rfl := Except.ok.inj h; rfl
  | .str _, _, _, h => by obtain rfl := Except.ok.inj h; rfl
  | .arr values, _, hd, h => by
    obtain ⟨values', hvalues, rfl⟩ := walk_array.mp h
    exact withoutManifestNamesAll_anonymous values values' hd hvalues
  | .obj fields, _, hd, h => by
    rw [manifestDepth] at hd
    cases hm : manifestList? fields with
    | none =>
      rw [hm] at hd
      obtain ⟨fields', hfields, rfl⟩ := (walk_object hm).mp h
      rw [anonymous, manifestList?_withoutManifestNamesFields hfields hm, Option.elim_none,
        Bool.true_and]
      exact withoutManifestNamesFields_anonymous fields fields' hd hfields
    | some list =>
      rw [hm] at hd
      obtain ⟨-, rfl⟩ := (walk_manifest hm).mp h
      exact anonymous_manifest hm hd

theorem withoutManifestNamesAll_anonymous : ∀ values values' : List Json,
    manifestDepthAll 1 values = true → withoutManifestNamesAll values = .ok values' →
      anonymousAll values' = true
  | [], _, _, h => by obtain rfl := Except.ok.inj h; rfl
  | value :: values, _, hd, h => by
    rw [manifestDepthAll, Bool.and_eq_true] at hd
    rw [withoutManifestNamesAll] at h
    obtain ⟨value', hvalue, h⟩ := Except.bind_ok.mp h
    obtain ⟨values', hvalues, h⟩ := Except.bind_ok.mp h
    obtain rfl := Except.ok.inj h
    rw [anonymousAll, withoutManifestNames_anonymous value value' hd.1 hvalue,
      withoutManifestNamesAll_anonymous values values' hd.2 hvalues]
    rfl

theorem withoutManifestNamesFields_anonymous : ∀ fields fields' : JsonObject,
    manifestDepthFields 1 fields = true → withoutManifestNamesFields fields = .ok fields' →
      anonymousFields fields' = true
  | [], _, _, h => by obtain rfl := Except.ok.inj h; rfl
  | (_, value) :: fields, _, hd, h => by
    rw [manifestDepthFields, Bool.and_eq_true] at hd
    rw [withoutManifestNamesFields] at h
    obtain ⟨value', hvalue, h⟩ := Except.bind_ok.mp h
    obtain ⟨fields', hfields, h⟩ := Except.bind_ok.mp h
    obtain rfl := Except.ok.inj h
    rw [anonymousFields, withoutManifestNames_anonymous value value' hd.1 hvalue,
      withoutManifestNamesFields_anonymous fields fields' hd.2 hfields]
    rfl

end

/-! ### Anonymous orders -/

/-- The tag names no passenger. -/
def Tag.Anonymous (tag : Tag) : Prop :=
  tag.code = "MANIFEST" → ∀ e ∈ tag.list,
    (e.code = "NAME" → e.value = "") ∧ e.code ≠ "AGE" ∧ e.code ≠ "GENDER"

/-- Every tag of an order, wherever it sits. -/
def Order.allTags (order : Order) : List Tag :=
  order.items.flatMap Item.tags ++
    order.fulfillments.flatMap (fun f => f.stops.flatMap Stop.tags ++ f.tags) ++ order.tags

/-- The buyer's own objects in an order. -/
def Order.buyerObjects (order : Order) : List JsonObject :=
  order.billing.toList ++ order.payments.getD []

/-- No manifest anywhere in the order names a passenger. -/
def Order.Anonymous (order : Order) : Prop := anonymous order.toJson = true

theorem anonymousAll_iff {values : List Json} :
    anonymousAll values = true ↔ ∀ v ∈ values, anonymous v = true := by
  induction values with
  | nil => simp [anonymousAll]
  | cons v vs ih => simp [anonymousAll, ih]

theorem anonymousFields_iff {fields : JsonObject} :
    anonymousFields fields = true ↔ ∀ f ∈ fields, anonymous f.2 = true := by
  induction fields with
  | nil => simp [anonymousFields]
  | cons f fs ih => simp [anonymousFields, ih]

theorem anonymousFields_append (xs ys : JsonObject) :
    anonymousFields (xs ++ ys) = (anonymousFields xs && anonymousFields ys) := by
  induction xs with
  | nil => simp [anonymousFields]
  | cons f fs ih => simp [anonymousFields, ih, Bool.and_assoc]

theorem anonymous_of_not_manifest {fields : JsonObject} (h : manifestList? fields = none) :
    anonymous (.obj fields) = anonymousFields fields := by
  rw [anonymous, h, Option.elim_none, Bool.true_and]

theorem anonymousFields_optional {α : Type} {key : String} {toJson : α → Json} {value : Option α} :
    anonymousFields (optionalField key toJson value) = true ↔
      ∀ v ∈ value, anonymous (toJson v) = true := by
  cases value <;> simp [optionalField, anonymousFields]

theorem TagEntry.anonymous_toJson (e : TagEntry) : TransitBpp.anonymous e.toJson = true := by
  rw [TagEntry.toJson, anonymous_of_not_manifest (manifestList?_of_no_list rfl)]
  rfl

theorem Tag.anonymous_toJson_iff (tag : Tag) :
    TransitBpp.anonymous tag.toJson = true ↔ tag.Anonymous := by
  obtain ⟨code, display, list⟩ := tag
  have hentries : anonymousAll (list.map TagEntry.toJson) = true :=
    anonymousAll_iff.mpr fun v hv => by
      obtain ⟨e, -, rfl⟩ := List.mem_map.mp hv
      exact e.anonymous_toJson
  have hfields : anonymousFields [("descriptor", .obj [("code", .str code)]),
      ("display", .bool display), ("list", .arr (list.map TagEntry.toJson))] = true := by
    have hd : TransitBpp.anonymous (.obj [("code", .str code)]) = true := rfl
    simp only [anonymousFields, hd, TransitBpp.anonymous.eq_1, hentries]
    rfl
  have hentry : ∀ e : TagEntry, anonymousEntry e.toJson = true ↔
      (e.code = "NAME" → e.value = "") ∧ e.code ≠ "AGE" ∧ e.code ≠ "GENDER" := by
    intro e
    have hc : descriptorCode e.toJson = some e.code := rfl
    have hv : e.toJson.get? "value" = some (.str e.value) := rfl
    rw [anonymousEntry, hc, hv]
    by_cases hn : e.code = "NAME" <;> simp [hn, Json.str?]
  rw [Tag.toJson, TransitBpp.anonymous, hfields, Bool.and_true]
  by_cases hc : code = "MANIFEST"
  · subst hc
    have hm : manifestList? [("descriptor", .obj [("code", .str "MANIFEST")]),
        ("display", .bool display), ("list", .arr (list.map TagEntry.toJson))] =
          some (list.map TagEntry.toJson) := rfl
    rw [hm, Option.elim_some, List.all_map, List.all_eq_true]
    simp only [Function.comp_apply, hentry, Tag.Anonymous, true_implies]
  · have hm : manifestList? [("descriptor", .obj [("code", .str code)]),
        ("display", .bool display), ("list", .arr (list.map TagEntry.toJson))] = none := by
      simp [manifestList?, descriptorCode, Json.get?, Json.str?, hc]
    rw [hm, Option.elim_none]
    exact iff_of_true rfl fun h => absurd h hc

theorem anonymous_tagsJson_iff (tags : List Tag) :
    anonymous (tagsJson tags) = true ↔ ∀ t ∈ tags, t.Anonymous := by
  rw [tagsJson, anonymous, anonymousAll_iff]
  simp [Tag.anonymous_toJson_iff]

theorem Item.anonymous_toJson_iff (item : Item) :
    TransitBpp.anonymous item.toJson = true ↔ ∀ t ∈ item.tags, t.Anonymous := by
  have hquantity : ∀ (a : Option ℕ) (s : Option ℤ), TransitBpp.anonymous
      (.obj (optionalField "available" (fun n : ℕ => countJson n) a ++
        optionalField "selected" countJson s ++
          [("maximum", countJson 6), ("minimum", countJson 1)])) = true := by
    rintro (_ | a) (_ | s) <;> rfl
  have hids : TransitBpp.anonymous (jsonStrings item.fulfillmentIds) = true := by
    rw [jsonStrings, TransitBpp.anonymous, anonymousAll_iff]
    simp [TransitBpp.anonymous]
  rw [Item.toJson, anonymous_of_not_manifest rfl, ← anonymous_tagsJson_iff]
  simp only [anonymousFields, hquantity, hids, Bool.true_and, Bool.and_true]
  exact Iff.rfl

theorem Stop.anonymous_toJson_iff (stop : Stop) :
    TransitBpp.anonymous stop.toJson = true ↔ ∀ t ∈ stop.tags, t.Anonymous := by
  obtain ⟨id, parent, type, name, code, gps, timestamp, tags⟩ := stop
  have hlocation : ∀ gps : Option String, TransitBpp.anonymous
      (.obj (("descriptor", .obj [("name", .str name), ("code", .str code)]) ::
        optionalField "gps" .str gps)) = true := by
    rintro (_ | gps) <;>
      exact (anonymous_of_not_manifest (manifestList?_of_no_list rfl)).trans rfl
  have hparent : anonymousFields (optionalField "parent_stop_id" .str parent) = true :=
    anonymousFields_optional.mpr fun _ _ => rfl
  rw [Stop.toJson, anonymous_of_not_manifest (by cases parent <;> rfl), ← anonymous_tagsJson_iff]
  simp only [List.cons_append, anonymousFields, anonymousFields_append, hparent, hlocation,
    Bool.true_and, Bool.and_true]
  exact Iff.rfl

theorem Fulfillment.anonymous_toJson_iff (f : Fulfillment) :
    TransitBpp.anonymous f.toJson = true ↔
      ∀ t ∈ f.stops.flatMap Stop.tags ++ f.tags, t.Anonymous := by
  have hstops : TransitBpp.anonymous (.arr (f.stops.map Stop.toJson)) = true ↔
      ∀ t ∈ f.stops.flatMap Stop.tags, t.Anonymous := by
    rw [TransitBpp.anonymous, anonymousAll_iff]
    simp only [List.forall_mem_map, Stop.anonymous_toJson_iff, List.forall_mem_flatMap]
  rw [Fulfillment.toJson, anonymous_of_not_manifest rfl, List.forall_mem_append, ← hstops,
    ← anonymous_tagsJson_iff, ← Bool.and_eq_true]
  simp only [anonymousFields, Bool.and_true]
  exact Iff.rfl

theorem Quote.anonymous_toJson (quote : Quote) : TransitBpp.anonymous quote.toJson = true := by
  have hbreakup : TransitBpp.anonymous (.arr (quote.breakup.map PriceLine.toJson)) = true := by
    rw [TransitBpp.anonymous, anonymousAll_iff]
    intro v hv
    obtain ⟨line, -, rfl⟩ := List.mem_map.mp hv
    rfl
  rw [Quote.toJson, anonymous_of_not_manifest rfl]
  simp only [anonymousFields, hbreakup]
  rfl

/-- An order is anonymous when its tags and the buyer's own objects are. -/
theorem Order.anonymous_iff (order : Order) :
    order.Anonymous ↔ (∀ t ∈ order.allTags, t.Anonymous) ∧
      ∀ o ∈ order.buyerObjects, TransitBpp.anonymous (.obj o) = true := by
  obtain ⟨id, status, providerId, providerName, items, fulfillments, quote, billing, payments,
    termsUrl, createdAt, tags⟩ := order
  have hid : anonymousFields (optionalField "id" .str id) = true :=
    anonymousFields_optional.mpr fun _ _ => rfl
  have hstatus : anonymousFields (optionalField "status"
      (fun s => .str (OrderStatus.wire s)) status) = true :=
    anonymousFields_optional.mpr fun _ _ => rfl
  have hcreated : ∀ key, anonymousFields (optionalField key .str createdAt) = true :=
    fun key => anonymousFields_optional.mpr fun _ _ => rfl
  have hprovider : TransitBpp.anonymous (.obj [("id", .str providerId),
      ("descriptor", .obj [("name", .str providerName)])]) = true := rfl
  have hterms : TransitBpp.anonymous (.arr [.obj [("external_ref",
      .obj [("mimetype", .str "text/html"), ("url", .str termsUrl)])]]) = true := rfl
  have hitems : TransitBpp.anonymous (.arr (items.map Item.toJson)) = true ↔
      ∀ t ∈ items.flatMap Item.tags, t.Anonymous := by
    rw [TransitBpp.anonymous, anonymousAll_iff]
    simp only [List.forall_mem_map, Item.anonymous_toJson_iff, List.forall_mem_flatMap]
  have hfulfillments : TransitBpp.anonymous (.arr (fulfillments.map Fulfillment.toJson)) = true ↔
      ∀ t ∈ fulfillments.flatMap fun f => f.stops.flatMap Stop.tags ++ f.tags, t.Anonymous := by
    rw [TransitBpp.anonymous, anonymousAll_iff]
    simp only [List.forall_mem_map, Fulfillment.anonymous_toJson_iff, List.forall_mem_flatMap]
  have hbilling : anonymousFields (optionalField "billing" .obj billing) = true ↔
      ∀ o ∈ billing.toList, TransitBpp.anonymous (.obj o) = true := by
    rw [anonymousFields_optional]
    simp
  have hpayments : anonymousFields
      (optionalField "payments" (fun ps => .arr (ps.map .obj)) payments) = true ↔
      ∀ o ∈ payments.getD [], TransitBpp.anonymous (.obj o) = true := by
    rw [anonymousFields_optional]
    cases payments <;> simp [TransitBpp.anonymous.eq_1, anonymousAll_iff]
  rw [Order.Anonymous, Order.toJson, anonymous_of_not_manifest (Order.manifestList?_fields _)]
  simp only [Order.fields, anonymousFields_append, anonymousFields, hid, hstatus, hcreated,
    hprovider, hterms, Quote.anonymous_toJson, Bool.true_and, Bool.and_true, Bool.and_eq_true,
    hitems, hfulfillments, hbilling, hpayments, anonymous_tagsJson_iff, Order.allTags,
    Order.buyerObjects, List.forall_mem_append]
  tauto

end TransitBpp
