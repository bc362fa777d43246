import TransitBpp.Orders

/-!
# Orders that can be cleared

`withoutManifestNames` stops at a `null` entry of a manifest, and of a manifest it rewrites the list
alone: it looks neither inside the entries it keeps nor at the other fields. A value is `clearable`
where neither matters, and that is exactly where the walk ends and leaves nobody named
(`clearable_iff`). The tags of an order are the provider's own and always clearable; the buyer's
billing and payments may not be.
-/

namespace TransitBpp

open Js

/-! ## Values -/

/-- An entry of a manifest that does not stop the walk, and names nobody where it is kept. -/
def clearableEntry (entry : Json) : Bool :=
  !entry.isNull && (descriptorCode entry ≠ some "SEAT_ID" || anonymous entry)

mutual

/-- The walk ends, and what it leaves of the value names nobody. -/
def clearable : Json → Bool
  | .arr values => clearableAll values
  | .obj fields =>
    match manifestList? fields with
    | some list => list.all clearableEntry && anonymousFields (fields.filter fun f => f.1 ≠ "list")
    | none => clearableFields fields
  | _ => true

/-- The same of every value. -/
def clearableAll : List Json → Bool
  | [] => true
  | value :: values => clearable value && clearableAll values

/-- The same of every field. -/
def clearableFields : JsonObject → Bool
  | [] => true
  | (_, value) :: fields => clearable value && clearableFields fields

end

/-- A manifest is left without its passengers where its entries are clearable and nothing beside
its list names anyone. -/
theorem clearable_manifest {fields : JsonObject} {list : List Json}
    (hm : manifestList? fields = some list) :
    (list.all clearableEntry && anonymousFields (fields.filter fun f => f.1 ≠ "list")) = true ↔
      Json.null ∉ list ∧ anonymous (.obj (withSeatsOnly fields list)) = true := by
  have hanonymous : anonymous (.obj (withSeatsOnly fields list)) = true ↔
      (∀ entry ∈ list, descriptorCode entry = some "SEAT_ID" → anonymous entry = true) ∧
        ∀ f ∈ fields, f.1 ≠ "list" → anonymous f.2 = true := by
    have hentries : (seatIdEntries list).all anonymousEntry = true := by
      rw [List.all_eq_true]
      intro entry hentry
      have hcode : descriptorCode entry = some "SEAT_ID" := by
        simpa using (List.mem_filter.mp hentry).2
      simp [anonymousEntry, hcode]
    rw [anonymous, manifestList?_withSeatsOnly hm, Option.elim_some, hentries, Bool.true_and,
      anonymousFields_iff]
    simp only [withSeatsOnly, Json.set, mem_mapSet_iff]
    constructor
    · intro h
      refine ⟨fun entry hentry hcode => ?_, fun f hf hne => h f (Or.inl ⟨hf, hne⟩)⟩
      have hlist := h _ (Or.inr rfl)
      rw [anonymous, anonymousAll_iff] at hlist
      exact hlist entry (List.mem_filter.mpr ⟨hentry, decide_eq_true hcode⟩)
    · rintro ⟨hseats, hothers⟩ f (⟨hf, hne⟩ | rfl)
      · exact hothers f hf hne
      · rw [anonymous, anonymousAll_iff]
        intro entry hentry
        obtain ⟨hmem, hcode⟩ := List.mem_filter.mp hentry
        exact hseats entry hmem (of_decide_eq_true hcode)
  have hnull : Json.null ∉ list ↔ ∀ entry ∈ list, entry.isNull = false := by
    constructor
    · intro h entry hentry
      cases entry with
      | null => exact absurd hentry h
      | _ => rfl
    · intro h hentry
      cases h _ hentry
  rw [hnull, hanonymous]
  simp only [Bool.and_eq_true, List.all_eq_true, clearableEntry, anonymousFields_iff,
    List.mem_filter, decide_eq_true_eq, Bool.or_eq_true, Bool.not_eq_true', ne_eq]
  constructor
  · rintro ⟨hentries, hothers⟩
    refine ⟨fun entry hentry => (hentries entry hentry).1, fun entry hentry hcode => ?_,
      fun f hf hne => hothers f ⟨hf, hne⟩⟩
    exact (hentries entry hentry).2.resolve_left fun hne => hne hcode
  · rintro ⟨hnull, hseats, hothers⟩
    refine ⟨fun entry hentry => ⟨hnull entry hentry, ?_⟩, fun f hf => hothers f hf.1 hf.2⟩
    by_cases hcode : descriptorCode entry = some "SEAT_ID"
    · exact Or.inr (hseats entry hentry hcode)
    · exact Or.inl hcode

mutual

/-- **Clearable values** are those the walk leaves with nobody named. -/
theorem clearable_iff : ∀ value : Json, clearable value = true ↔
    ∃ value', withoutManifestNames value = .ok value' ∧ anonymous value' = true
  | .null => ⟨fun _ => ⟨_, rfl, rfl⟩, fun _ => rfl⟩
  | .bool _ => ⟨fun _ => ⟨_, rfl, rfl⟩, fun _ => rfl⟩
  | .num _ => ⟨fun _ => ⟨_, rfl, rfl⟩, fun _ => rfl⟩
  | .str _ => ⟨fun _ => ⟨_, rfl, rfl⟩, fun _ => rfl⟩
  | .arr values => by
    rw [clearable, clearableAll_iff values]
    constructor
    · rintro ⟨values', hok, hnobody⟩
      exact ⟨.arr values', walk_array.mpr ⟨values', hok, rfl⟩, hnobody⟩
    · rintro ⟨value', hok, hnobody⟩
      obtain ⟨values', hvalues, rfl⟩ := walk_array.mp hok
      exact ⟨values', hvalues, hnobody⟩
  | .obj fields => by
    rw [clearable]
    cases hm : manifestList? fields with
    | some list =>
      dsimp only
      rw [clearable_manifest hm]
      constructor
      · rintro ⟨hnull, hnobody⟩
        exact ⟨_, (walk_manifest hm).mpr ⟨hnull, rfl⟩, hnobody⟩
      · rintro ⟨value', hok, hnobody⟩
        obtain ⟨hnull, rfl⟩ := (walk_manifest hm).mp hok
        exact ⟨hnull, hnobody⟩
    | none =>
      dsimp only
      rw [clearableFields_iff fields]
      have hsame : ∀ fields', withoutManifestNamesFields fields = .ok fields' →
          anonymous (.obj fields') = anonymousFields fields' := fun fields' hok =>
        anonymous_of_not_manifest (manifestList?_withoutManifestNamesFields hok hm)
      constructor
      · rintro ⟨fields', hok, hnobody⟩
        exact ⟨.obj fields', (walk_object hm).mpr ⟨fields', hok, rfl⟩,
          (hsame fields' hok).trans hnobody⟩
      · rintro ⟨value', hok, hnobody⟩
        obtain ⟨fields', hfields, rfl⟩ := (walk_object hm).mp hok
        exact ⟨fields', hfields, (hsame fields' hfields).symm.trans hnobody⟩

theorem clearableAll_iff : ∀ values : List Json, clearableAll values = true ↔
    ∃ values', withoutManifestNamesAll values = .ok values' ∧ anonymousAll values' = true
  | [] => ⟨fun _ => ⟨_, rfl, rfl⟩, fun _ => rfl⟩
  | value :: values => by
    rw [clearableAll, Bool.and_eq_true, clearable_iff value, clearableAll_iff values,
      withoutManifestNamesAll]
    constructor
    · rintro ⟨⟨value', hok, hnobody⟩, values', hoks, hnobodys⟩
      refine ⟨value' :: values', by rw [hok, hoks]; rfl, ?_⟩
      rw [anonymousAll, hnobody, hnobodys]
      rfl
    · rintro ⟨all, hok, hnobody⟩
      obtain ⟨value', hvalue, hok⟩ := Except.bind_ok.mp hok
      obtain ⟨values', hvalues, hok⟩ := Except.bind_ok.mp hok
      obtain rfl := Except.ok.inj hok
      rw [anonymousAll, Bool.and_eq_true] at hnobody
      exact ⟨⟨value', hvalue, hnobody.1⟩, values', hvalues, hnobody.2⟩

theorem clearableFields_iff : ∀ fields : JsonObject, clearableFields fields = true ↔
    ∃ fields', withoutManifestNamesFields fields = .ok fields' ∧ anonymousFields fields' = true
  | [] => ⟨fun _ => ⟨_, rfl, rfl⟩, fun _ => rfl⟩
  | (key, value) :: fields => by
    rw [clearableFields, Bool.and_eq_true, clearable_iff value, clearableFields_iff fields,
      withoutManifestNamesFields]
    constructor
    · rintro ⟨⟨value', hok, hnobody⟩, fields', hoks, hnobodys⟩
      refine ⟨(key, value') :: fields', by rw [hok, hoks]; rfl, ?_⟩
      rw [anonymousFields, hnobody, hnobodys]
      rfl
    · rintro ⟨all, hok, hnobody⟩
      obtain ⟨value', hvalue, hok⟩ := Except.bind_ok.mp hok
      obtain ⟨fields', hfields, hok⟩ := Except.bind_ok.mp hok
      obtain rfl := Except.ok.inj hok
      rw [anonymousFields, Bool.and_eq_true] at hnobody
      exact ⟨⟨value', hvalue, hnobody.1⟩, fields', hfields, hnobody.2⟩

end

/-! ## Orders -/

/-- The buyer's own objects in an order are clearable. -/
def Order.Clearable (order : Order) : Prop :=
  ∀ object ∈ order.buyerObjects, clearable (.obj object) = true

theorem objectWithoutManifestNames_ok {object : JsonObject} (h : clearable (.obj object) = true) :
    ∃ object', objectWithoutManifestNames object = .ok object' ∧
      anonymous (.obj object') = true := by
  obtain ⟨value', hok, hnobody⟩ := (clearable_iff _).mp h
  rw [withoutManifestNames_obj] at hok
  cases hobject : objectWithoutManifestNames object with
  | error e =>
    rw [hobject] at hok
    cases hok
  | ok object' =>
    rw [hobject] at hok
    obtain rfl := Except.ok.inj hok
    exact ⟨object', rfl, hnobody⟩

theorem Tag.anonymous_withoutManifestNames (tag : Tag) : tag.withoutManifestNames.Anonymous := by
  rw [Tag.withoutManifestNames]
  split
  · intro _ e he
    have hcode : e.code = "SEAT_ID" := of_decide_eq_true (List.mem_filter.mp he).2
    simp [hcode]
  · rename_i hother
    exact fun hcode => absurd hcode hother

/-- A clearable order is cleared. -/
theorem Order.Clearable.clears {order : Order} (h : order.Clearable) :
    ∃ order', order.withoutManifestNames = .ok order' ∧ order'.Anonymous := by
  have hbilling : ∃ billing', order.billing.mapM objectWithoutManifestNames = .ok billing' ∧
      ∀ object ∈ billing'.toList, anonymous (.obj object) = true := by
    cases hb : order.billing with
    | none => exact ⟨none, rfl, by simp⟩
    | some billing =>
      obtain ⟨billing', hok, hnobody⟩ := objectWithoutManifestNames_ok
        (h billing (List.mem_append_left _ (by rw [hb]; exact List.mem_singleton_self billing)))
      exact ⟨some billing', by rw [Option.mapM_some, hok]; rfl, by simpa using hnobody⟩
  have hpayments : ∃ payments', (order.payments.mapM fun ps : List JsonObject =>
      ps.mapM objectWithoutManifestNames) = .ok payments' ∧
        ∀ object ∈ payments'.getD [], anonymous (.obj object) = true := by
    cases hp : order.payments with
    | none => exact ⟨none, rfl, by simp⟩
    | some payments =>
      have hall : ∀ payment ∈ payments, ∃ payment', objectWithoutManifestNames payment =
          .ok payment' ∧ anonymous (.obj payment') = true := fun payment hpayment =>
        objectWithoutManifestNames_ok
          (h payment (List.mem_append_right _ (by rw [hp]; exact hpayment)))
      obtain ⟨payments', hok, hnobody⟩ := Except.mapM_right_iff.mpr hall
      refine ⟨some payments', by rw [Option.mapM_some, hok]; rfl, fun object hobject => ?_⟩
      obtain ⟨_, -, hthis⟩ := exists_of_mem_forall₂ hnobody hobject
      exact hthis
  obtain ⟨billing', hbilling, hnobody⟩ := hbilling
  obtain ⟨payments', hpayments, hnobodys⟩ := hpayments
  have hok : order.withoutManifestNames = .ok { order with
      items := order.items.map Item.withoutManifestNames
      fulfillments := order.fulfillments.map Fulfillment.withoutManifestNames
      billing := billing', payments := payments'
      tags := order.tags.map Tag.withoutManifestNames } := by
    rw [Order.withoutManifestNames, hbilling, hpayments]
    rfl
  refine ⟨_, hok, (Order.anonymous_iff _).mpr ⟨fun t ht => ?_, fun object hobject => ?_⟩⟩
  · rw [Order.allTags_withoutManifestNames hok] at ht
    obtain ⟨tag, -, rfl⟩ := List.mem_map.mp ht
    exact tag.anonymous_withoutManifestNames
  · rcases List.mem_append.mp hobject with hobject | hobject
    · exact hnobody object hobject
    · exact hnobodys object hobject

/-! ## Orders that are stored -/

variable {d : Deployment}

theorem clearableFields_iff_forall {fields : JsonObject} :
    clearableFields fields = true ↔ ∀ f ∈ fields, clearable f.2 = true := by
  induction fields with
  | nil => simp [clearableFields]
  | cons f fs ih => simp [clearableFields, ih]

/-- The id of a payment is a string, or the one it came with. -/
theorem numberPayment_eq (payment : JsonObject) (index : ℕ) : ∃ id : Json,
    numberPayment d payment index = Json.set payment "id" id ∧
      ((∃ text, id = .str text) ∨ ("id", id) ∈ payment) := by
  rw [numberPayment]
  cases hgiven : Json.get? "id" (.obj payment) with
  | none => exact ⟨_, rfl, Or.inl ⟨_, rfl⟩⟩
  | some id =>
    have hmem : ("id", id) ∈ payment := mem_of_mapGet hgiven
    cases id with
    | null => exact ⟨_, rfl, Or.inl ⟨_, rfl⟩⟩
    | _ => exact ⟨_, rfl, Or.inr hmem⟩

/-- Numbering a payment leaves it clearable. -/
theorem clearable_numberPayment {payment : JsonObject} (h : clearable (.obj payment) = true)
    (index : ℕ) : clearable (.obj (numberPayment d payment index)) = true := by
  obtain ⟨id, hid, hfrom⟩ := @numberPayment_eq d payment index
  have hmanifest : manifestList? (Json.set payment "id" id) = manifestList? payment := by
    unfold manifestList? descriptorCode
    rw [Json.get?_set_ne (by decide), Json.get?_set_ne (by decide)]
  rw [hid, clearable, hmanifest]
  rw [clearable] at h
  cases hm : manifestList? payment with
  | some list =>
    rw [hm] at h
    dsimp only at h ⊢
    rw [Bool.and_eq_true, anonymousFields_iff] at h ⊢
    refine ⟨h.1, fun f hf => ?_⟩
    obtain ⟨hf, hne⟩ := List.mem_filter.mp hf
    rcases mem_mapSet_iff.mp hf with ⟨hf, -⟩ | rfl
    · exact h.2 f (List.mem_filter.mpr ⟨hf, hne⟩)
    · rcases hfrom with ⟨text, rfl⟩ | hmem
      · rfl
      · exact h.2 _ (List.mem_filter.mpr ⟨hmem, hne⟩)
  | none =>
    rw [hm] at h
    dsimp only at h ⊢
    rw [clearableFields_iff_forall] at h ⊢
    intro f hf
    rcases mem_mapSet_iff.mp hf with ⟨hf, -⟩ | rfl
    · exact h f hf
    · rcases hfrom with ⟨text, rfl⟩ | hmem
      · rfl
      · exact h _ hmem

/-- The buyer's objects of a rendered order are those it was built with, the payments numbered. -/
theorem renderOrder_buyerObjects {input : BuildOrder} {snapshot : Snapshot} {order : Order}
    (h : renderOrder d input snapshot = .ok order) : order.buyerObjects =
      input.billing.toList ++ (input.payments.getD []).zipIdx.map fun p => numberPayment d p.1 p.2 := by
  obtain ⟨quote, -, h⟩ := Except.bind_ok.mp h
  obtain ⟨item, -, h⟩ := Except.bind_ok.mp h
  obtain ⟨fulfillment, -, h⟩ := Except.bind_ok.mp h
  obtain ⟨createdAt, -, h⟩ := Except.bind_ok.mp h
  dsimp only at h
  split at h
  · obtain ⟨holdTags, -, h⟩ := Except.bind_ok.mp h
    obtain rfl := Except.ok.inj h
    cases input.payments <;> simp [Order.buyerObjects]
  · obtain ⟨tag, -, h⟩ := Except.bind_ok.mp h
    obtain ⟨holdTags, -, h⟩ := Except.bind_ok.mp h
    obtain rfl := Except.ok.inj h
    cases input.payments <;> simp [Order.buyerObjects]

/-- The buyer's objects of a request are clearable. -/
def OrderInput.Clearable (input : OrderInput) : Prop :=
  ∀ object ∈ input.billing.toList ++ input.payments.getD [], clearable (.obj object) = true

/-- So is the order that is rendered from it. -/
theorem clearable_of_render {input : BuildOrder} {snapshot : Snapshot} {order : Order}
    (h : renderOrder d input snapshot = .ok order)
    (hobjects : ∀ object ∈ input.billing.toList ++ input.payments.getD [],
      clearable (.obj object) = true) : order.Clearable := by
  intro object hobject
  rw [renderOrder_buyerObjects h] at hobject
  rcases List.mem_append.mp hobject with hobject | hobject
  · exact hobjects object (List.mem_append_left _ hobject)
  · obtain ⟨⟨payment, index⟩, hmem, rfl⟩ := List.mem_map.mp hobject
    exact clearable_numberPayment
      (hobjects payment (List.mem_append_right _ (List.fst_mem_of_mem_zipIdx hmem))) index

/-- A cancellation leaves the buyer's objects alone. -/
theorem clearable_cancelledOrder {booking : BookingRecord} :
    (cancelledOrder booking).Clearable ↔ booking.order.Clearable := Iff.rfl

/-- The manifest of seats nobody is named on names nobody. -/
theorem anonymous_manifestTagFrom {seats : List BookingSeatRow}
    (h : ∀ seat ∈ seats, seat.name = none ∧ seat.age = none ∧ seat.gender = none) :
    (manifestTagFrom (seats.map BookingSeatRow.record)).Anonymous := by
  intro _ e he
  rw [manifestTagFrom] at he
  obtain ⟨record, hrecord, he⟩ := List.mem_flatMap.mp he
  obtain ⟨seat, hseat, rfl⟩ := List.mem_map.mp hrecord
  obtain ⟨hname, hage, hgender⟩ := h seat hseat
  simp only [ManifestRecord.entries, BookingSeatRow.record, hname, hage, hgender, Option.getD_none,
    Option.elim_none, List.append_nil, List.mem_cons, List.not_mem_nil, or_false] at he
  rcases he with rfl | rfl <;> simp

/-- Cancelling seats of a booking nobody is named on names nobody. -/
theorem anonymous_cancelledOrder {booking : BookingRecord} (h : booking.order.Anonymous)
    (hseats : ∀ seat ∈ booking.seats, seat.name = none ∧ seat.age = none ∧ seat.gender = none) :
    (cancelledOrder booking).Anonymous := by
  obtain ⟨htags, hobjects⟩ := (Order.anonymous_iff _).mp h
  refine (Order.anonymous_iff _).mpr ⟨fun t ht => ?_, hobjects⟩
  simp only [Order.allTags, List.mem_append, List.mem_flatMap] at htags
  rcases List.mem_append.mp ht with ht | ht
  · rcases List.mem_append.mp ht with ht | ht
    · exact htags t (Or.inl (Or.inl (List.mem_flatMap.mp ht)))
    · obtain ⟨f, hf, ht⟩ := List.mem_flatMap.mp ht
      obtain ⟨f, hmem, rfl⟩ := List.mem_map.mp hf
      rcases List.mem_append.mp ht with ht | ht
      · exact htags t (Or.inl (Or.inr ⟨f, hmem, Or.inl (List.mem_flatMap.mp ht)⟩))
      · obtain ⟨tag, htag, ht⟩ := List.mem_flatMap.mp ht
        split at ht
        · obtain rfl := List.mem_singleton.mp ht
          exact htags t (Or.inl (Or.inr ⟨f, hmem, Or.inr htag⟩))
        · split at ht
          · cases ht
          · obtain rfl := List.mem_singleton.mp ht
            exact anonymous_manifestTagFrom fun seat hseat => hseats seat (List.mem_filter.mp hseat).1
  · rw [tags_cancelledOrder] at ht
    rcases mem_placeSeatTags ht with ht | ht
    · intro hcode
      rcases code_seatGroups ht with hgroup | hgroup <;> simp [hgroup] at hcode
    · exact htags t (Or.inr ht)

end TransitBpp
