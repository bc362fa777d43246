import TransitBpp.PassRides
import TransitBpp.Publication

/-!
# The fulfillments of a transit order

The ids of an order are built around the ids of what was selected, and a confirm finds its tickets and
credentials again by them. The loops over a selection lay out one block of fulfillments for each item; an id
tells its block, whatever separators it holds, so what a confirm looks up is what was laid out.
-/

namespace TransitBpp.Trv11

open Js (Json)

/-! ## What an order says -/

/-- `fulfillment.id`. -/
def fulfillmentId (fulfillment : JsonObject) : Option Json := (Json.obj fulfillment).get? "id"

/-- `fulfillment.type` is `TICKET`. -/
def isTicket (fulfillment : JsonObject) : Bool :=
  ((Json.obj fulfillment).get? "type").bind Json.str? = some "TICKET"

/-- `item.fulfillment_ids`. -/
def fulfillmentIds (item : Json) : List Json := ((item.get? "fulfillment_ids").bind array?).getD []

/-- `price.value` of a line or of a quote, in paise. -/
def amountOf (line : Json) : Option ℤ :=
  (((line.get? "price").bind fun price => price.get? "value").bind Json.str?).bind rupeesToPaise

/-- `quote.breakup`. -/
def breakupOf (quote : Json) : List Json := ((quote.get? "breakup").bind array?).getD []

/-- The authorizations at a fulfillment's stops. -/
def authorizations (fulfillment : JsonObject) : List Json :=
  ((((Json.obj fulfillment).get? "stops").bind array?).getD []).filterMap fun stop =>
    stop.get? "authorization"

/-- The ticket numbers in tag groups. -/
def numbersIn (tags : List Json) : List Json :=
  (tags.filter fun group => descriptorCode group = some "TICKET_INFO").flatMap fun group =>
    (((group.get? "list").bind array?).getD []).filterMap fun value =>
      if descriptorCode value = some "NUMBER" then value.get? "value" else none

/-- The ticket numbers in a fulfillment's tags. -/
def ticketNumbers (fulfillment : JsonObject) : List Json :=
  numbersIn ((((Json.obj fulfillment).get? "tags").bind array?).getD [])

/-- An order is consistent in itself. -/
structure ProtocolOrder.Consistent (order : ProtocolOrder) : Prop where
  /-- no fulfillment id is repeated -/
  distinct : (order.fulfillments.map fulfillmentId).Nodup
  /-- what an item names is there -/
  named : ∀ item ∈ order.items, ∀ id ∈ fulfillmentIds item, ∃ fulfillment ∈ order.fulfillments,
    fulfillmentId fulfillment = some id
  /-- and what is there is named by one item -/
  once : ∀ fulfillment ∈ order.fulfillments, ∃ id, fulfillmentId fulfillment = some id ∧
    ∃! i : ℕ, ∃ item, order.items[i]? = some item ∧ id ∈ fulfillmentIds item
  /-- the lines add up to the total -/
  adds : ∃ amounts : List ℤ, (breakupOf order.quote).map amountOf = amounts.map some ∧
    amountOf order.quote = some amounts.sum

/-- What a confirm makes of one fulfillment. -/
structure Authorizes (fulfillment confirmed : JsonObject) : Prop where
  id : fulfillmentId confirmed = fulfillmentId fulfillment
  type : isTicket confirmed = isTicket fulfillment
  /-- a ticket gets one authorization and one number -/
  ticket : isTicket fulfillment = true → ∃ authorization number,
    authorizations confirmed = [authorization] ∧ ticketNumbers confirmed = [number]
  /-- and everything else stays as it was -/
  other : isTicket fulfillment = false → confirmed = fulfillment

/-- What a confirm makes of an order. -/
structure Confirms (request : ConfirmRequest) (base : BaseOrder) (done : Issued) : Prop where
  fulfillments : List.Forall₂ Authorizes base.order.fulfillments done.order.fulfillments
  /-- no ticket number is repeated -/
  numbers : ((done.order.fulfillments.filter isTicket).flatMap ticketNumbers).Nodup
  /-- each credential of a pass names its own fulfillment, and each of its tickets has one -/
  credentials : request.IsPass → (done.order.fulfillments.filter isTicket).map fulfillmentId =
    done.credentials.map fun credential => some (.str credential.fulfillmentId)
  /-- there are as many as units were bought -/
  units : request.IsPass → ∀ item ∈ request.items,
    (done.credentials.map PassCredentialRecord.itemId).count item.id = item.units

/-- What a confirm stored. -/
structure Confirmation.Consistent (store : Store) (c : Confirmation) : Prop where
  /-- the order it drafted, and the one it issued -/
  drafted : c.draft.base.order.Consistent
  issued : c.issued.order.toProtocolOrder.Consistent
  confirms : Confirms c.request c.draft.base c.issued
  /-- the store has both the order and its credentials -/
  order : Js.mapGet store.orders c.issued.order.id =
    some ⟨c.operator, c.request.identity, c.issued.order⟩
  credentials : store.findPassCredentials c.operator c.request.identity c.issued.order.id =
    c.issued.credentials

/-! ## Ids -/

/-- What is selected, and how often. -/
abbrev Pick : Type := String × ℕ

/-- The ids of its tickets. -/
def unitIds (pick : Pick) : List String :=
  (List.range pick.2).map fun index => s!"T-{pick.1}-{index + 1}"

/-- The ids of its fulfillments. -/
def blockIds (pick : Pick) : List String := fulfillmentIdForOffer pick.1 :: unitIds pick

theorem toList_fulfillmentIdForOffer (offerId : String) :
    (fulfillmentIdForOffer offerId).toList = 'F' :: '-' :: offerId.toList := by
  simp [fulfillmentIdForOffer, toString]

theorem toList_unitId (offerId : String) (n : ℕ) :
    (s!"T-{offerId}-{n}").toList = 'T' :: '-' :: (offerId.toList ++ '-' :: Nat.toDigits 10 n) := by
  simp [toString]

theorem toDigits_injective {m n : ℕ} (h : Nat.toDigits 10 m = Nat.toDigits 10 n) : m = n := by
  obtain ⟨⟨j, hj⟩, -⟩ := toDigits_numeral m
  obtain ⟨⟨k, hk⟩, -⟩ := toDigits_numeral n
  rw [h, hk] at hj
  exact (Prod.mk.inj (Option.some.inj hj)).1.symm

/-- A numeral holds no separator, so the last one stands before it. -/
theorem unitId_injective {a b : String} {m n : ℕ} (h : s!"T-{a}-{m}" = s!"T-{b}-{n}") : a = b ∧ m = n := by
  have hlist := congrArg String.toList h
  rw [toList_unitId, toList_unitId] at hlist
  have hreverse := congrArg List.reverse (List.cons.inj (List.cons.inj hlist).2).2
  simp only [List.reverse_append, List.reverse_cons, List.append_assoc, List.singleton_append] at hreverse
  have hnumeral : ∀ (k : ℕ) (rest : List Char), ((Nat.toDigits 10 k).reverse ++ '-' :: rest).takeWhile
      (fun c => c ≠ '-') = (Nat.toDigits 10 k).reverse := by
    intro k rest
    rw [List.takeWhile_append_of_pos fun c hc =>
      decide_eq_true ((toDigits_numeral k).2 c (List.mem_reverse.mp hc)).2]
    simp
  have hdigits := congrArg (List.takeWhile fun c => c ≠ '-') hreverse
  rw [hnumeral, hnumeral] at hdigits
  rw [hdigits] at hreverse
  have hid := (List.cons.inj (List.append_cancel_left hreverse)).2
  exact ⟨String.toList_inj.mp (List.reverse_inj.mp hid), toDigits_injective (List.reverse_inj.mp hdigits)⟩

theorem fulfillmentIdForOffer_injective {a b : String}
    (h : fulfillmentIdForOffer a = fulfillmentIdForOffer b) : a = b := by
  have hlist := congrArg String.toList h
  rw [toList_fulfillmentIdForOffer, toList_fulfillmentIdForOffer] at hlist
  exact String.toList_inj.mp (List.cons.inj (List.cons.inj hlist).2).2

theorem fulfillmentIdForOffer_ne_unitId (a b : String) (n : ℕ) :
    fulfillmentIdForOffer a ≠ s!"T-{b}-{n}" := by
  intro h
  have hlist := congrArg String.toList h
  rw [toList_fulfillmentIdForOffer, toList_unitId] at hlist
  exact absurd (List.cons.inj hlist).1 (by decide)

theorem mem_unitIds {pick : Pick} {id : String} :
    id ∈ unitIds pick ↔ ∃ index < pick.2, id = s!"T-{pick.1}-{index + 1}" := by
  simp [unitIds, eq_comm]

/-- An id tells what it was built around. -/
theorem block_of_id {pick pick' : Pick} {id : String} (h : id ∈ blockIds pick) (h' : id ∈ blockIds pick') :
    pick.1 = pick'.1 := by
  rcases List.mem_cons.mp h with rfl | h
  · rcases List.mem_cons.mp h' with h' | h'
    · exact fulfillmentIdForOffer_injective h'
    · obtain ⟨index, -, h'⟩ := mem_unitIds.mp h'
      exact absurd h' (fulfillmentIdForOffer_ne_unitId _ _ _)
  · obtain ⟨index, -, rfl⟩ := mem_unitIds.mp h
    rcases List.mem_cons.mp h' with h' | h'
    · exact absurd h'.symm (fulfillmentIdForOffer_ne_unitId _ _ _)
    · obtain ⟨index', -, h'⟩ := mem_unitIds.mp h'
      exact (unitId_injective h').1

theorem nodup_unitIds (pick : Pick) : (unitIds pick).Nodup := by
  refine List.Nodup.map_on ?_ List.nodup_range
  intro i _ j _ h
  exact Nat.succ_injective (unitId_injective h).2

theorem nodup_blockIds (pick : Pick) : (blockIds pick).Nodup := by
  refine List.nodup_cons.mpr ⟨fun hmem => ?_, nodup_unitIds pick⟩
  obtain ⟨index, -, h⟩ := mem_unitIds.mp hmem
  exact fulfillmentIdForOffer_ne_unitId _ _ _ h

/-- **No two fulfillments of a selection share an id**, whatever the ids selected are. -/
theorem nodup_ids {picks : List Pick} (h : (picks.map Prod.fst).Nodup) : (picks.flatMap blockIds).Nodup := by
  refine List.nodup_flatMap.mpr ⟨fun pick _ => nodup_blockIds pick, ?_⟩
  refine (List.pairwise_map.mp h).imp ?_
  intro pick pick' hne id hid hid'
  exact hne (block_of_id hid hid')

/-! ## The loops over a selection -/

/-- What the lines say of the picks they were made for; `key` is the id and the sequence of a spec. -/
structure Laid {Spec : Type} (key : Spec → String × ℕ) (picks : List Pick) (lines : Lines Spec) : Prop where
  items : lines.items.map fulfillmentIds = picks.map fun pick => (blockIds pick).map Json.str
  fulfillments :
    lines.fulfillments.map fulfillmentId = (picks.flatMap blockIds).map fun id => some (.str id)
  tickets : (lines.fulfillments.filter isTicket).map fulfillmentId =
    lines.specs.map fun spec => some (.str (key spec).1)
  ids : lines.specs.map (fun spec => (key spec).1) = picks.flatMap unitIds
  sequences : lines.specs.map (fun spec => (key spec).2) = (List.range lines.specs.length).map Nat.succ
  amounts : ∃ amounts : List ℤ, lines.breakup.map amountOf = amounts.map some ∧
    amounts.sum = lines.totalPaise

theorem signed_of_paiseToRupees {paise : ℤ} {value : String} (h : paiseToRupees paise = .ok value) :
    0 ≤ paise ∧ signedPaiseToRupees paise = .ok value := by
  have hsame : TransitBpp.paiseToRupees paise = .ok value := by
    rw [paiseToRupees] at h
    rw [TransitBpp.paiseToRupees]
    split at h
    · cases h
    · rename_i hpaise
      rw [if_neg hpaise]
      obtain rfl := Except.ok.inj h
      rfl
  have hpos := (toList_of_paiseToRupees hsame).1
  exact ⟨hpos, (signedPaiseToRupees_of_nonneg hpos).trans hsame⟩

theorem amountOf_inr {fields : JsonObject} {value : String} {paise : ℤ}
    (hfields : (Json.obj fields).get? "price" = some (inr value))
    (h : signedPaiseToRupees paise = .ok value) : amountOf (.obj fields) = some paise := by
  rw [amountOf]
  rw [hfields]
  exact rupeesToPaise_of_signed h

section

variable {Spec : Type} {key : Spec → String × ℕ} {picks : List Pick} {lines : Lines Spec}

theorem laid_none : Laid key [] Lines.none := ⟨rfl, rfl, rfl, rfl, rfl, [], rfl, rfl⟩

theorem isTicket_ticketFulfillment (parentId id : String) :
    isTicket (ticketFulfillment parentId id) = true := rfl

theorem filter_isTicket_block {lead : JsonObject} (hlead : isTicket lead = false) (parentId : String)
    (ids : List String) : (lead :: ids.map (ticketFulfillment parentId)).filter isTicket =
      ids.map (ticketFulfillment parentId) := by
  rw [List.filter_cons_of_neg (by simp [hlead]), List.filter_eq_self]
  intro fulfillment hmem
  obtain ⟨id, -, rfl⟩ := List.mem_map.mp hmem
  exact isTicket_ticketFulfillment parentId id

/-- One more item lays out its block behind the others. -/
theorem Laid.line (h : Laid key picks lines) {pick : Pick} {item fare : Json} {lead : JsonObject}
    {specs : List Spec} {parentId : String} {linePaise : ℤ}
    (hitem : fulfillmentIds item = (blockIds pick).map Json.str)
    (hlead : fulfillmentId lead = some (.str (fulfillmentIdForOffer pick.1))) (htype : isTicket lead = false)
    (hids : specs.map (fun spec => (key spec).1) = unitIds pick)
    (hsequences : specs.map (fun spec => (key spec).2) =
      (List.range specs.length).map fun index => lines.specs.length + index + 1)
    (hfare : amountOf fare = some linePaise) :
    Laid key (picks ++ [pick]) {
      items := lines.items ++ [item]
      fulfillments := lines.fulfillments ++ lead :: (unitIds pick).map (ticketFulfillment parentId)
      breakup := lines.breakup ++ [fare]
      specs := lines.specs ++ specs
      totalPaise := lines.totalPaise + linePaise } := by
  obtain ⟨amounts, hamounts, hsum⟩ := h.amounts
  refine ⟨?_, ?_, ?_, ?_, ?_, amounts ++ [linePaise], ?_, ?_⟩
  · simp [h.items, hitem]
  · have hblock : (lead :: (unitIds pick).map (ticketFulfillment parentId)).map fulfillmentId =
        (blockIds pick).map fun id => some (.str id) := by
      rw [List.map_cons, hlead, List.map_map, blockIds, List.map_cons]
      rfl
    rw [List.map_append, h.fulfillments, hblock, List.flatMap_append, List.map_append]
    simp
  · have hblock : ((unitIds pick).map (ticketFulfillment parentId)).map fulfillmentId =
        specs.map fun spec => some (.str (key spec).1) := by
      rw [← hids, List.map_map, List.map_map]
      rfl
    rw [List.filter_append, filter_isTicket_block htype, List.map_append, h.tickets, hblock,
      List.map_append]
  · simp [h.ids, hids]
  · rw [List.map_append, h.sequences, hsequences, List.length_append, List.range_add, List.map_append,
      List.map_map]
    rfl
  · simp [hamounts, hfare]
  · simp [hsum]

end

/-! ### Rides -/

/-- The id and the sequence of a ticket. -/
def TicketSpec.key (ticket : TicketSpec) : String × ℕ := (ticket.id, ticket.sequence)

theorem ticketLine_laid {profile : OperatorProfile} {itemTime : ℤ} {offer : TransitOffer} {count : ℕ}
    {picks : List Pick} {lines done : Lines TicketSpec}
    (hline : ticketLine profile itemTime offer count lines = .ok done)
    (h : Laid TicketSpec.key picks lines) :
    Laid TicketSpec.key (picks ++ [(offer.offerId, count)]) done := by
  rw [ticketLine] at hline
  simp only at hline
  split at hline
  · cases hline
  · obtain ⟨unitValue, -, hline⟩ := Except.bind_ok.mp hline
    obtain ⟨timestamp, -, hline⟩ := Except.bind_ok.mp hline
    obtain ⟨lineValue, hvalue, hline⟩ := Except.bind_ok.mp hline
    obtain rfl := Except.ok.inj hline
    rw [List.map_map]
    refine h.line ?_ rfl rfl ?_ ?_ (amountOf_inr rfl (signed_of_paiseToRupees hvalue).2)
    · rfl
    · simp [TicketSpec.key, unitIds]
    · simp [TicketSpec.key]

theorem ticketLines_laid {profile : OperatorProfile} {itemTime : ℕ → ℤ}
    {selection : List (TransitOffer × SelectedItem)} {done : Lines TicketSpec} :
    ∀ {index : ℕ} {picks : List Pick} {lines : Lines TicketSpec},
      ticketLines profile itemTime index selection lines = .ok done → Laid TicketSpec.key picks lines →
        Laid TicketSpec.key (picks ++ selection.map fun pair => (pair.1.offerId, pair.2.units)) done := by
  induction selection with
  | nil =>
    intro index picks lines hlines h
    obtain rfl := Except.ok.inj hlines
    simpa using h
  | cons pair rest ih =>
    intro index picks lines hlines h
    obtain ⟨next, hline, hrest⟩ := Except.bind_ok.mp hlines
    have hdone := ih hrest (ticketLine_laid hline h)
    rwa [List.append_assoc] at hdone

/-! ### Passes -/

/-- The id and the sequence of a unit. -/
def PassCredentialSpec.key (credential : PassCredentialSpec) : String × ℕ :=
  (credential.id, credential.sequence)

theorem passLine_laid {item : PassCatalogueItem} {count : ℕ} {timestamp : String} {picks : List Pick}
    {lines done : Lines PassCredentialSpec} (hline : passLine item count timestamp lines = .ok done)
    (h : Laid PassCredentialSpec.key picks lines) :
    Laid PassCredentialSpec.key (picks ++ [(item.id, count)]) done ∧
      done.specs.map (fun credential => credential.item.id) =
        lines.specs.map (fun credential => credential.item.id) ++ List.replicate count item.id := by
  rw [passLine] at hline
  simp only at hline
  split at hline
  · cases hline
  · obtain ⟨unitValue, -, hline⟩ := Except.bind_ok.mp hline
    obtain ⟨lineValue, hvalue, hline⟩ := Except.bind_ok.mp hline
    obtain rfl := Except.ok.inj hline
    rw [List.map_map]
    refine ⟨h.line ?_ rfl rfl ?_ ?_ (amountOf_inr rfl (signed_of_paiseToRupees hvalue).2), ?_⟩
    · rfl
    · simp [PassCredentialSpec.key, unitIds]
    · simp [PassCredentialSpec.key]
    · have hunits : (List.range count).map (fun _ => item.id) = List.replicate count item.id := by
        simp
      rw [List.map_append, List.map_map, ← hunits]
      rfl

theorem passItemById_some {operator : PassOperatorKey} {itemId : String} {item : PassCatalogueItem}
    (h : passItemById operator itemId = some item) : item.id = itemId ∧ item ∈ passCatalogue := by
  obtain ⟨hfind, -⟩ := Option.filter_eq_some_iff.mp h
  exact ⟨by simpa using List.find?_some hfind, List.mem_of_find?_eq_some hfind⟩

/-- A published concession takes off a part of a price. -/
theorem lineDiscountPaise_nonneg (concession : Option ConcessionClass) {item : PassCatalogueItem}
    (hitem : item ∈ passCatalogue) (count : ℕ) : 0 ≤ lineDiscountPaise concession item count := by
  have hrates : ∀ item ∈ passCatalogue, 0 ≤ concessionDiscountPaise item.pricePaise
      (concessionRatePercent item .senior) ∧ 0 ≤ concessionDiscountPaise item.pricePaise
      (concessionRatePercent item .student) := by decide
  cases concession with
  | none => exact le_refl 0
  | some concession =>
    apply Int.mul_nonneg
    · cases concession with
      | senior => exact (hrates item hitem).1
      | student => exact (hrates item hitem).2
    · exact Int.natCast_nonneg count

theorem passLines_laid {service : Service} {operator : PassOperatorKey}
    {concession : Option ConcessionClass} {timestamp : String} {selected : List SelectedItem}
    {done : Lines PassCredentialSpec} {discount : ℤ} :
    ∀ {picks : List Pick} {lines : Lines PassCredentialSpec} {discountPaise : ℤ},
      passLines service operator concession timestamp selected lines discountPaise = .ok (done, discount) →
      Laid PassCredentialSpec.key picks lines →
        Laid PassCredentialSpec.key (picks ++ selected.map fun item => (item.id, item.units)) done ∧
        (done.specs.map fun credential => credential.item.id) =
          (lines.specs.map fun credential => credential.item.id) ++
            selected.flatMap (fun item => List.replicate item.units item.id) ∧
        discountPaise ≤ discount ∧ (concession = none → discount = discountPaise) := by
  induction selected with
  | nil =>
    intro picks lines discountPaise hlines h
    obtain ⟨rfl, rfl⟩ := Prod.mk.inj (Except.ok.inj hlines)
    simpa using h
  | cons selected rest ih =>
    intro picks lines discountPaise hlines h
    rw [passLines] at hlines
    split at hlines
    · cases hlines
    · rename_i item hitem
      obtain ⟨next, hline, hrest⟩ := Except.bind_ok.mp hlines
      obtain ⟨hid, hmem⟩ := passItemById_some hitem
      obtain ⟨hnext, hunits⟩ := passLine_laid hline h
      obtain ⟨hdone, hitems, hle, hnone⟩ := ih hrest hnext
      rw [hid, List.append_assoc] at hdone
      rw [hunits, hid, List.append_assoc] at hitems
      refine ⟨hdone, hitems, ?_, fun hconcession => ?_⟩
      · have hpos := lineDiscountPaise_nonneg concession hmem selected.units
        omega
      · rw [hnone hconcession, hconcession]
        exact Int.add_zero _

/-- The aggregated line takes off what was added up, and is left out where that is nothing. -/
theorem concessionLine_amounts {concession : Option ConcessionClass} {discountPaise : ℤ}
    {discount : List Json} (h : concessionLine concession discountPaise = .ok discount)
    (hpos : 0 ≤ discountPaise) (hnone : concession = none → discountPaise = 0) :
    ∃ amounts : List ℤ, discount.map amountOf = amounts.map some ∧ amounts.sum = -discountPaise := by
  simp only [concessionLine] at h
  split at h
  · obtain rfl := Except.ok.inj h
    rw [hnone rfl]
    exact ⟨[], rfl, rfl⟩
  · split at h
    · obtain rfl := Except.ok.inj h
      obtain rfl : discountPaise = 0 := by omega
      exact ⟨[], rfl, rfl⟩
    · rename_i hdiscount
      obtain ⟨value, hvalue, h⟩ := Except.bind_ok.mp h
      obtain rfl := Except.ok.inj h
      have hsigned : signedPaiseToRupees (-discountPaise) = .ok ("-" ++ value) := by
        obtain ⟨-, hvalue⟩ := signed_of_paiseToRupees hvalue
        rw [signedPaiseToRupees_of_nonneg hpos] at hvalue
        rw [signedPaiseToRupees, if_pos (by omega), neg_neg, hvalue]
        rfl
      refine ⟨[-discountPaise], ?_, by simp⟩
      rw [List.map_singleton, List.map_singleton]
      exact congrArg (fun amount => [amount]) (amountOf_inr rfl hsigned)

/-! ## Orders -/

/-- What a request selects. -/
def ConfirmRequest.picks (request : ConfirmRequest) : List Pick :=
  request.items.map fun item => (item.id, item.units)

/-- The tickets and the credentials of a base order. -/
def BaseOrder.specs (base : BaseOrder) : List (String × ℕ) :=
  base.passCredentials.map PassCredentialSpec.key ++ base.tickets.map TicketSpec.key

/-- A base order is what was laid out for a selection. -/
structure LaidOut (request : ConfirmRequest) (base : BaseOrder) : Prop where
  distinct : (request.picks.map Prod.fst).Nodup
  laid : ∃ totalPaise, amountOf base.order.quote = some totalPaise ∧
    Laid id request.picks ⟨base.order.items, base.order.fulfillments, breakupOf base.order.quote, base.specs,
      totalPaise⟩
  pass : request.IsPass → base.tickets = [] ∧
    (base.passCredentials.map fun credential => credential.item.id) =
      request.items.flatMap fun item => List.replicate item.units item.id

theorem quote_ok {totalPaise : ℤ} {breakup : List Json} {total : Json}
    (h : quote totalPaise breakup = .ok total) :
    amountOf total = some totalPaise ∧ breakupOf total = breakup := by
  obtain ⟨value, hvalue, h⟩ := Except.bind_ok.mp h
  obtain rfl := Except.ok.inj h
  exact ⟨amountOf_inr rfl (signed_of_paiseToRupees hvalue).2, rfl⟩

/-- Only the ids and the sequences of the specs matter. -/
theorem Laid.keys {Spec : Type} {key : Spec → String × ℕ} {picks : List Pick} {lines : Lines Spec}
    (h : Laid key picks lines) {breakup : List Json} {totalPaise : ℤ}
    (hamounts : ∃ amounts : List ℤ, breakup.map amountOf = amounts.map some ∧ amounts.sum = totalPaise) :
    Laid id picks ⟨lines.items, lines.fulfillments, breakup, lines.specs.map key, totalPaise⟩ := by
  refine ⟨h.items, h.fulfillments, ?_, ?_, ?_, hamounts⟩
  · rw [h.tickets, List.map_map]
    rfl
  · rw [← h.ids, List.map_map]
    rfl
  · rw [List.map_map, List.length_map]
    exact h.sequences

/-- Offers are cached under their own ids. -/
def Store.Keyed (store : Store) : Prop :=
  ∀ (key : TransactionKey) (catalogue : List (String × TransitOffer)),
    Js.mapGet store.catalogues key = some catalogue →
      ∀ (id : String) (offer : TransitOffer), Js.mapGet catalogue id = some offer → offer.offerId = id

theorem Store.Keyed.selectedOffers {store : Store} (h : store.Keyed) {operator : PassOperatorKey}
    {identity : TransactionIdentity} {itemIds : List String} {offers : List TransitOffer}
    (hoffers : store.selectedOffers operator identity itemIds = .ok offers) :
    offers.map TransitOffer.offerId = itemIds := by
  rw [Store.selectedOffers] at hoffers
  split at hoffers
  · cases hoffers
  · rename_i catalogue hcatalogue
    have hall := Except.mapM_ok.mp hoffers
    clear hoffers
    induction hall with
    | nil => rfl
    | cons hoffer _ ih =>
      split at hoffer
      · cases hoffer
      · obtain rfl := Except.ok.inj hoffer
        rw [List.map_cons, ih, h _ _ hcatalogue _ _ ‹_›]

theorem zip_picks {offers : List TransitOffer} : ∀ {items : List SelectedItem},
    offers.map TransitOffer.offerId = items.map SelectedItem.id →
      ((offers.zip items).map fun pair => (pair.1.offerId, pair.2.units)) =
        items.map fun item => (item.id, item.units) := by
  induction offers with
  | nil =>
    intro items h
    obtain rfl := List.map_eq_nil_iff.mp h.symm
    rfl
  | cons offer offers ih =>
    intro items h
    cases items with
    | nil => cases h
    | cons item items =>
      obtain ⟨hid, hrest⟩ := List.cons.inj h
      rw [List.zip_cons_cons, List.map_cons, List.map_cons, ih hrest]
      exact congrArg (fun id => (id, item.units) :: _) hid

section

variable {service : Service} {operator : PassOperatorKey} {store : Store} {request : ConfirmRequest}
  {draws : Draws} {base : BaseOrder}

theorem ticketBaseOrder_laid (h : ticketBaseOrder service operator store request draws = .ok base)
    (hkeyed : store.Keyed) : ∃ totalPaise, amountOf base.order.quote = some totalPaise ∧
      Laid id request.picks ⟨base.order.items, base.order.fulfillments, breakupOf base.order.quote,
        base.specs, totalPaise⟩ := by
  obtain ⟨-, -, h⟩ := Except.bind_ok.mp h
  obtain ⟨offers, hoffers, h⟩ := Except.bind_ok.mp h
  obtain ⟨lines, hlines, h⟩ := Except.bind_ok.mp h
  obtain ⟨provider, -, h⟩ := Except.bind_ok.mp h
  obtain ⟨total, hquote, h⟩ := Except.bind_ok.mp h
  obtain rfl := Except.ok.inj h
  obtain ⟨htotal, hbreakup⟩ := quote_ok hquote
  have hlaid := ticketLines_laid hlines laid_none
  rw [zip_picks (hkeyed.selectedOffers hoffers), List.nil_append] at hlaid
  refine ⟨lines.totalPaise, htotal, hlaid.keys ?_⟩
  rw [hbreakup]
  exact hlaid.amounts

theorem passBaseOrder_laid (h : passBaseOrder service operator request draws = .ok base) :
    (∃ totalPaise, amountOf base.order.quote = some totalPaise ∧
      Laid id request.picks ⟨base.order.items, base.order.fulfillments, breakupOf base.order.quote,
        base.specs, totalPaise⟩) ∧ base.tickets = [] ∧
    (base.passCredentials.map fun credential => credential.item.id) =
      request.items.flatMap fun item => List.replicate item.units item.id := by
  obtain ⟨concession, -, h⟩ := Except.bind_ok.mp h
  obtain ⟨timestamp, -, h⟩ := Except.bind_ok.mp h
  obtain ⟨⟨lines, discountPaise⟩, hlines, h⟩ := Except.bind_ok.mp h
  obtain ⟨discount, hdiscount, h⟩ := Except.bind_ok.mp h
  split at h
  · cases h
  · obtain ⟨provider, -, h⟩ := Except.bind_ok.mp h
    obtain ⟨total, hquote, h⟩ := Except.bind_ok.mp h
    obtain rfl := Except.ok.inj h
    obtain ⟨htotal, hbreakup⟩ := quote_ok hquote
    obtain ⟨hlaid, hitems, hpos, hnone⟩ := passLines_laid hlines laid_none
    obtain ⟨amounts, hamounts, hsum⟩ := hlaid.amounts
    obtain ⟨amounts', hamounts', hsum'⟩ := concessionLine_amounts hdiscount hpos hnone
    refine ⟨⟨lines.totalPaise - discountPaise, htotal, ?_⟩, rfl, hitems⟩
    rw [BaseOrder.specs, List.map_nil, List.append_nil]
    refine hlaid.keys ⟨amounts ++ amounts', ?_, ?_⟩
    · rw [hbreakup, List.map_append, hamounts, hamounts', List.map_append]
    · rw [List.sum_append, hsum, hsum', Int.sub_eq_add_neg]

theorem baseOrder_distinct (h : baseOrder service operator store request draws = .ok base) :
    (request.items.map SelectedItem.id).Nodup := by
  obtain ⟨-, -, h⟩ := Except.bind_ok.mp h
  split at h
  · cases h
  · simp only at h
    split at h
    · cases h
    · rename_i hdistinct
      exact not_not.mp hdistinct

/-- **A base order is laid out for its selection**, as ride or as passes. -/
theorem baseOrder_laid (h : baseOrder service operator store request draws = .ok base)
    (hkeyed : store.Keyed) : LaidOut request base := by
  have hdistinct : (request.picks.map Prod.fst).Nodup := by
    rw [ConfirmRequest.picks, List.map_map]
    exact baseOrder_distinct h
  rcases baseOrder_ok h with ⟨hany, h⟩ | ⟨-, h⟩
  · refine ⟨hdistinct, ticketBaseOrder_laid h hkeyed, fun hpass => ?_⟩
    obtain ⟨item, hmem⟩ := List.exists_mem_of_ne_nil _ request.selected
    have hride := List.any_eq_false.mp hany item.id (List.mem_map_of_mem hmem)
    exact absurd (hpass item hmem) hride
  · obtain ⟨hlaid, hpass⟩ := passBaseOrder_laid h
    exact ⟨hdistinct, hlaid, fun _ => hpass⟩

end

/-! ### What a base order says -/

section

variable {request : ConfirmRequest} {base : BaseOrder}

theorem LaidOut.fulfillments (h : LaidOut request base) : base.order.fulfillments.map fulfillmentId =
    (request.picks.flatMap blockIds).map fun id => some (.str id) := by
  obtain ⟨totalPaise, -, hlaid⟩ := h.laid
  exact hlaid.fulfillments

theorem LaidOut.tickets (h : LaidOut request base) :
    (base.order.fulfillments.filter isTicket).map fulfillmentId =
      base.specs.map fun spec => some (.str spec.1) := by
  obtain ⟨totalPaise, -, hlaid⟩ := h.laid
  exact hlaid.tickets

theorem LaidOut.nodup (h : LaidOut request base) :
    (base.order.fulfillments.map fulfillmentId).Nodup := by
  rw [h.fulfillments]
  refine (nodup_ids h.distinct).map fun a b hab => ?_
  exact Json.str.inj (Option.some.inj hab)

theorem LaidOut.nodup_specs (h : LaidOut request base) :
    (base.specs.map fun spec => some (Json.str spec.1)).Nodup := by
  rw [← h.tickets]
  exact h.nodup.sublist (List.filter_sublist.map _)

/-- The tickets are the fulfillments that a confirm looks up. -/
theorem LaidOut.isTicket_iff (h : LaidOut request base) {fulfillment : JsonObject}
    (hmem : fulfillment ∈ base.order.fulfillments) :
    isTicket fulfillment = true ↔ ∃ spec ∈ base.specs, fulfillmentId fulfillment = some (.str spec.1) := by
  constructor
  · intro hticket
    have hid : fulfillmentId fulfillment ∈ base.specs.map fun spec => some (Json.str spec.1) := by
      rw [← h.tickets]
      exact List.mem_map_of_mem (List.mem_filter.mpr ⟨hmem, hticket⟩)
    obtain ⟨spec, hspec, hid⟩ := List.mem_map.mp hid
    exact ⟨spec, hspec, hid.symm⟩
  · rintro ⟨spec, hspec, hid⟩
    have hticket : fulfillmentId fulfillment ∈
        (base.order.fulfillments.filter isTicket).map fulfillmentId := by
      rw [h.tickets, hid]
      exact List.mem_map_of_mem hspec
    obtain ⟨ticket, hticket, hsame⟩ := List.mem_map.mp hticket
    obtain ⟨hmem', hticket⟩ := List.mem_filter.mp hticket
    rwa [← List.inj_on_of_nodup_map h.nodup hmem' hmem hsame]

theorem LaidOut.getElem?_items (h : LaidOut request base) (i : ℕ) :
    base.order.items[i]?.map fulfillmentIds =
      request.picks[i]?.map fun pick => (blockIds pick).map Json.str := by
  obtain ⟨totalPaise, -, hlaid⟩ := h.laid
  rw [← List.getElem?_map, ← List.getElem?_map]
  exact congrArg (fun ids => ids[i]?) hlaid.items

/-- What an item names is in the block of its pick. -/
theorem LaidOut.pick_of_item (h : LaidOut request base) {i : ℕ} {item id : Json}
    (hitem : base.order.items[i]? = some item) (hid : id ∈ fulfillmentIds item) :
    ∃ pick, request.picks[i]? = some pick ∧ ∃ text ∈ blockIds pick, id = .str text := by
  have hpick := h.getElem?_items i
  rw [hitem, Option.map_some] at hpick
  obtain ⟨pick, hpick, hids⟩ := Option.map_eq_some_iff.mp hpick.symm
  rw [← hids] at hid
  obtain ⟨text, htext, rfl⟩ := List.mem_map.mp hid
  exact ⟨pick, hpick, text, htext, rfl⟩

/-- And the item of a pick names all of its block. -/
theorem LaidOut.item_of_pick (h : LaidOut request base) {i : ℕ} {pick : Pick}
    (hpick : request.picks[i]? = some pick) {id : String} (hid : id ∈ blockIds pick) :
    ∃ item, base.order.items[i]? = some item ∧ Json.str id ∈ fulfillmentIds item := by
  have hitem := h.getElem?_items i
  rw [hpick, Option.map_some] at hitem
  obtain ⟨item, hitem, hids⟩ := Option.map_eq_some_iff.mp hitem
  exact ⟨item, hitem, hids ▸ List.mem_map_of_mem hid⟩

theorem LaidOut.named (h : LaidOut request base) {item id : Json} (hitem : item ∈ base.order.items)
    (hid : id ∈ fulfillmentIds item) :
    ∃ fulfillment ∈ base.order.fulfillments, fulfillmentId fulfillment = some id := by
  obtain ⟨i, hi⟩ := List.mem_iff_getElem?.mp hitem
  obtain ⟨pick, hpick, text, htext, rfl⟩ := h.pick_of_item hi hid
  have hmem : some (Json.str text) ∈ base.order.fulfillments.map fulfillmentId := by
    rw [h.fulfillments]
    exact List.mem_map_of_mem (List.mem_flatMap.mpr ⟨pick, List.mem_of_getElem? hpick, htext⟩)
  exact List.mem_map.mp hmem

theorem LaidOut.once (h : LaidOut request base) {fulfillment : JsonObject}
    (hmem : fulfillment ∈ base.order.fulfillments) : ∃ id, fulfillmentId fulfillment = some id ∧
      ∃! i : ℕ, ∃ item, base.order.items[i]? = some item ∧ id ∈ fulfillmentIds item := by
  have hid : fulfillmentId fulfillment ∈ base.order.fulfillments.map fulfillmentId :=
    List.mem_map_of_mem hmem
  rw [h.fulfillments] at hid
  obtain ⟨text, htext, hid⟩ := List.mem_map.mp hid
  obtain ⟨pick, hpick, htext⟩ := List.mem_flatMap.mp htext
  obtain ⟨i, hi⟩ := List.mem_iff_getElem?.mp hpick
  refine ⟨_, hid.symm, i, h.item_of_pick hi htext, ?_⟩
  -- another item that names it was picked with the same id
  rintro j ⟨item', hitem', hmem'⟩
  obtain ⟨pick', hj, text', htext', hsame⟩ := h.pick_of_item hitem' hmem'
  obtain rfl := Json.str.inj hsame
  have hlt : j < (request.picks.map Prod.fst).length := by
    rw [List.length_map]
    exact (List.getElem?_eq_some_iff.mp hj).1
  apply (List.getElem?_inj hlt h.distinct).mp
  rw [List.getElem?_map, List.getElem?_map, hj, hi]
  exact congrArg some (block_of_id htext' htext)

theorem LaidOut.consistent (h : LaidOut request base) : base.order.Consistent := by
  obtain ⟨totalPaise, htotal, hlaid⟩ := h.laid
  obtain ⟨amounts, hamounts, hsum⟩ := hlaid.amounts
  exact ⟨h.nodup, fun item hitem id => h.named hitem, fun fulfillment => h.once, amounts, hamounts,
    htotal.trans (congrArg some hsum.symm)⟩

end

/-! ## Confirms -/

/-- A fulfillment with the authorization and the number of its ticket. -/
structure Numbered (fulfillment confirmed : JsonObject) (number : String) : Prop where
  id : fulfillmentId confirmed = fulfillmentId fulfillment
  type : isTicket confirmed = isTicket fulfillment
  authorization : ∃ authorization, authorizations confirmed = [authorization]
  number : ticketNumbers confirmed = [.str number]

theorem numbered (fulfillment : JsonObject) (authorization : Json) {tags : List Json} {number : String}
    (htags : numbersIn tags = [.str number]) :
    Numbered fulfillment (Json.set (Json.set fulfillment "stops" (.arr [.obj [("type", .str "START"),
      ("authorization", authorization)]])) "tags" (.arr tags)) number := by
  refine ⟨?_, ?_, ⟨authorization, ?_⟩, ?_⟩
  · simp only [fulfillmentId]
    rw [Json.get?_set_ne (by decide), Json.get?_set_ne (by decide)]
  · simp only [isTicket]
    rw [Json.get?_set_ne (by decide), Json.get?_set_ne (by decide)]
  · simp only [authorizations]
    rw [Json.get?_set_ne (by decide), Json.get?_set_self]
    rfl
  · simp only [ticketNumbers]
    rw [Json.get?_set_self]
    exact htags

/-- How one fulfillment is confirmed. -/
inductive Confirming (operator : PassOperatorKey) (issue : Draft) (fulfillment : JsonObject) :
    JsonObject × List PassCredentialRecord → Prop where
  /-- a credential is minted for it -/
  | credential {confirmed : JsonObject} {record : PassCredentialRecord} (spec : PassCredentialSpec) :
      spec ∈ issue.base.passCredentials → fulfillmentId fulfillment = some (.str spec.id) →
      Numbered fulfillment confirmed (ticketNumberFor operator issue.orderId spec.sequence) →
      record.fulfillmentId = spec.id → record.itemId = spec.item.id →
      Confirming operator issue fulfillment (confirmed, [record])
  /-- a ticket is issued for it -/
  | ticket {confirmed : JsonObject} (spec : TicketSpec) : spec ∈ issue.base.tickets →
      fulfillmentId fulfillment = some (.str spec.id) →
      Numbered fulfillment confirmed (ticketNumberFor operator issue.orderId spec.sequence) →
      Confirming operator issue fulfillment (confirmed, [])
  /-- it stays as it was -/
  | other : (∀ spec ∈ issue.base.specs, fulfillmentId fulfillment ≠ some (.str spec.1)) →
      Confirming operator issue fulfillment (fulfillment, [])

theorem confirmFulfillment_ok {operator : PassOperatorKey} {issue : Draft} {draws : Draws}
    {encoder : String → String} {fulfillment : JsonObject} {out : JsonObject × List PassCredentialRecord}
    {id : String} (h : confirmFulfillment operator issue draws encoder fulfillment = .ok out)
    (hid : fulfillmentId fulfillment = some (.str id)) : Confirming operator issue fulfillment out := by
  rw [confirmFulfillment] at h
  have hget : (Json.obj fulfillment).get? "id" = some (.str id) := hid
  simp only [hget, Option.bind_some, Json.str?, Option.getD_some] at h
  split at h
  · rename_i spec hspec
    have hmem : spec ∈ issue.base.passCredentials :=
      List.mem_reverse.mp (List.mem_of_find?_eq_some hspec)
    have hsame : spec.id = id := by simpa using List.find?_some hspec
    obtain ⟨⟨minted, record⟩, hminted, h⟩ := Except.bind_ok.mp h
    obtain rfl := Except.ok.inj h
    obtain ⟨secret, -, hminted⟩ := Except.bind_ok.mp hminted
    obtain ⟨rfl, rfl⟩ := Prod.mk.inj (Except.ok.inj hminted)
    exact .credential spec hmem (hsame ▸ hid) (numbered _ _ rfl) rfl rfl
  · rename_i hspec
    split at h
    · rename_i hticket
      obtain rfl := Except.ok.inj h
      refine .other fun spec hspec' hid' => ?_
      rw [hid] at hid'
      obtain rfl := Json.str.inj (Option.some.inj hid')
      rcases List.mem_append.mp hspec' with hmem | hmem
      · obtain ⟨credential, hcredential, rfl⟩ := List.mem_map.mp hmem
        exact List.find?_eq_none.mp hspec credential (List.mem_reverse.mpr hcredential)
          (by simp [PassCredentialSpec.key])
      · obtain ⟨ticket, hmem', rfl⟩ := List.mem_map.mp hmem
        exact List.find?_eq_none.mp hticket ticket (List.mem_reverse.mpr hmem') (by simp [TicketSpec.key])
    · rename_i spec hticket
      have hmem : spec ∈ issue.base.tickets := List.mem_reverse.mp (List.mem_of_find?_eq_some hticket)
      have hsame : spec.id = id := by simpa using List.find?_some hticket
      obtain ⟨authorization, -, h⟩ := Except.bind_ok.mp h
      obtain rfl := Except.ok.inj h
      exact .ticket spec hmem (hsame ▸ hid) (numbered _ _ rfl)

/-- Where the keys of two lists agree and are distinct, so does what the keys decide. -/
theorem map_eq_of_keys {α β κ γ : Type} {key : α → κ} {key' : β → κ} {f : α → γ} {g : β → γ} {xs : List α} :
    ∀ {ys : List β}, xs.map key = ys.map key' → (ys.map key').Nodup →
      (∀ x ∈ xs, ∃ y ∈ ys, key x = key' y ∧ f x = g y) → xs.map f = ys.map g := by
  induction xs with
  | nil =>
    intro ys hkeys _ _
    obtain rfl := List.map_eq_nil_iff.mp hkeys.symm
    rfl
  | cons x xs ih =>
    intro ys hkeys hnodup hfound
    cases ys with
    | nil => cases hkeys
    | cons y ys =>
      obtain ⟨hhead, htail⟩ := List.cons.inj hkeys
      obtain ⟨hfresh, hnodup'⟩ := List.nodup_cons.mp hnodup
      have hx : f x = g y := by
        obtain ⟨y', hy', hkey, hf⟩ := hfound x List.mem_cons_self
        rwa [← List.inj_on_of_nodup_map hnodup hy' List.mem_cons_self (hkey.symm.trans hhead)]
      refine congrArg₂ List.cons hx (ih htail hnodup' fun x' hx' => ?_)
      obtain ⟨y', hy', hkey, hf⟩ := hfound x' (List.mem_cons_of_mem _ hx')
      rcases List.mem_cons.mp hy' with rfl | hy'
      · refine absurd ?_ hfresh
        rw [← htail, ← hkey]
        exact List.mem_map_of_mem hx'
      · exact ⟨y', hy', hkey, hf⟩

section

variable {operator : PassOperatorKey} {request : ConfirmRequest} {draws : Draws} {issue : Draft}
  {encoder : String → String} {done : Issued} {fulfillment : JsonObject}
  {out : JsonObject × List PassCredentialRecord}

theorem Confirming.authorizes (h : Confirming operator issue fulfillment out)
    (hlaid : LaidOut request issue.base) (hmem : fulfillment ∈ issue.base.order.fulfillments) :
    Authorizes fulfillment out.1 := by
  have hnumbered : ∀ {confirmed : JsonObject} {spec : String × ℕ} {number : String},
      spec ∈ issue.base.specs → fulfillmentId fulfillment = some (.str spec.1) →
      Numbered fulfillment confirmed number → Authorizes fulfillment confirmed := by
    intro confirmed spec number hspec hid h
    have hticket : isTicket fulfillment = true := (hlaid.isTicket_iff hmem).mpr ⟨spec, hspec, hid⟩
    obtain ⟨authorization, hauthorization⟩ := h.authorization
    refine ⟨h.id, h.type, fun _ => ⟨authorization, _, hauthorization, h.number⟩, fun hother => ?_⟩
    rw [hticket] at hother
    cases hother
  cases h with
  | credential spec hspec hid h =>
    exact hnumbered (List.mem_append_left _ (List.mem_map_of_mem hspec)) hid h
  | ticket spec hspec hid h =>
    exact hnumbered (List.mem_append_right _ (List.mem_map_of_mem hspec)) hid h
  | other hnone =>
    refine ⟨rfl, rfl, fun hticket => ?_, fun _ => rfl⟩
    obtain ⟨spec, hspec, hid⟩ := (hlaid.isTicket_iff hmem).mp hticket
    exact absurd hid (hnone spec hspec)

/-- A ticket bears the number of its spec. -/
theorem Confirming.number (h : Confirming operator issue fulfillment out)
    (hlaid : LaidOut request issue.base) (hmem : fulfillment ∈ issue.base.order.fulfillments)
    (hticket : isTicket out.1 = true) : ∃ spec ∈ issue.base.specs,
      fulfillmentId out.1 = some (.str spec.1) ∧
        ticketNumbers out.1 = [.str (ticketNumberFor operator issue.orderId spec.2)] := by
  cases h with
  | credential spec hspec hid h =>
    exact ⟨spec.key, List.mem_append_left _ (List.mem_map_of_mem hspec), h.id.trans hid, h.number⟩
  | ticket spec hspec hid h =>
    exact ⟨spec.key, List.mem_append_right _ (List.mem_map_of_mem hspec), h.id.trans hid, h.number⟩
  | other hnone =>
    obtain ⟨spec, hspec, hid⟩ := (hlaid.isTicket_iff hmem).mp hticket
    exact absurd hid (hnone spec hspec)

/-- What `confirmNew` made of each fulfillment, in their order. -/
theorem issued_ok (h : issued operator request draws issue encoder = .ok done)
    (hlaid : LaidOut request issue.base) : ∃ outs : List (JsonObject × List PassCredentialRecord),
      List.Forall₂ (fun fulfillment out => fulfillment ∈ issue.base.order.fulfillments ∧
        Confirming operator issue fulfillment out) issue.base.order.fulfillments outs ∧
      done.order.fulfillments = outs.map Prod.fst ∧ done.credentials = (outs.map Prod.snd).flatten := by
  obtain ⟨outs, houts, h⟩ := Except.bind_ok.mp h
  obtain ⟨createdAt, -, h⟩ := Except.bind_ok.mp h
  obtain rfl := Except.ok.inj h
  refine ⟨outs, ?_, rfl, rfl⟩
  have hids : ∀ fulfillment ∈ issue.base.order.fulfillments, fulfillment ∈ issue.base.order.fulfillments ∧
      ∃ id, fulfillmentId fulfillment = some (.str id) := by
    intro fulfillment hmem
    have hid := List.mem_map_of_mem (f := fulfillmentId) hmem
    rw [hlaid.fulfillments] at hid
    obtain ⟨id, -, hid⟩ := List.mem_map.mp hid
    exact ⟨hmem, id, hid.symm⟩
  refine ((List.forall₂_and_left _ _).mpr ⟨hids, Except.mapM_ok.mp houts⟩).imp ?_
  rintro fulfillment out ⟨⟨hmem, id, hid⟩, hout⟩
  exact ⟨hmem, confirmFulfillment_ok hout hid⟩

/-- The tickets of a confirmed order are those of its base order. -/
theorem authorizes_tickets {fulfillments confirmed : List JsonObject}
    (h : List.Forall₂ Authorizes fulfillments confirmed) :
    (confirmed.filter isTicket).map fulfillmentId = (fulfillments.filter isTicket).map fulfillmentId := by
  induction h with
  | nil => rfl
  | @cons fulfillment f' _ _ hhead _ ih =>
    rw [List.filter_cons, List.filter_cons, hhead.type]
    split
    · rw [List.map_cons, List.map_cons, ih, hhead.id]
    · exact ih

theorem ticketNumberFor_injective {orderId : String} {m n : ℕ}
    (h : ticketNumberFor operator orderId m = ticketNumberFor operator orderId n) : m = n :=
  Js.padded_injective (String.append_right_inj _ |>.mp h)

/-- Each ticket bears the number of its own sequence. -/
theorem LaidOut.numbers (hlaid : LaidOut request issue.base)
    {outs : List (JsonObject × List PassCredentialRecord)}
    (houts : List.Forall₂ (fun fulfillment out => fulfillment ∈ issue.base.order.fulfillments ∧
      Confirming operator issue fulfillment out) issue.base.order.fulfillments outs)
    (htickets : ((outs.map Prod.fst).filter isTicket).map fulfillmentId =
      issue.base.specs.map fun spec => some (.str spec.1)) :
    (((outs.map Prod.fst).filter isTicket).flatMap ticketNumbers).Nodup := by
  obtain ⟨totalPaise, -, laid⟩ := hlaid.laid
  have hnumbers : ((outs.map Prod.fst).filter isTicket).map ticketNumbers =
      issue.base.specs.map fun spec => [.str (ticketNumberFor operator issue.orderId spec.2)] := by
    refine map_eq_of_keys htickets hlaid.nodup_specs fun confirmed hmem => ?_
    obtain ⟨hmem, hticket⟩ := List.mem_filter.mp hmem
    obtain ⟨out, hout, rfl⟩ := List.mem_map.mp hmem
    obtain ⟨fulfillment, -, hmem', hconfirming⟩ := exists_of_mem_forall₂ houts hout
    exact hconfirming.number hlaid hmem' hticket
  have hsequences : (issue.base.specs.map Prod.snd).Nodup := by
    rw [show issue.base.specs.map Prod.snd = _ from laid.sequences]
    exact List.nodup_range.map Nat.succ_injective
  have hinjective : Function.Injective fun n => Json.str (ticketNumberFor operator issue.orderId n) :=
    fun m n h => ticketNumberFor_injective (Json.str.inj h)
  rw [List.flatMap_def, hnumbers, ← List.flatMap_def, ← List.map_eq_flatMap]
  have hnodup := hsequences.map hinjective
  rwa [List.map_map] at hnodup

/-- Where no ride is sold, each ticket is a credential. -/
theorem confirming_credentials (hlaid : LaidOut request issue.base) (hpass : issue.base.tickets = [])
    {fulfillments : List JsonObject} {outs : List (JsonObject × List PassCredentialRecord)}
    (houts : List.Forall₂ (fun fulfillment out => fulfillment ∈ issue.base.order.fulfillments ∧
      Confirming operator issue fulfillment out) fulfillments outs) :
    ((outs.map Prod.fst).filter isTicket).map fulfillmentId =
      (outs.map Prod.snd).flatten.map fun credential => some (.str credential.fulfillmentId) := by
  induction houts with
  | nil => rfl
  | @cons fulfillment out _ _ hhead _ ih =>
    obtain ⟨hmem, hconfirming⟩ := hhead
    have htype : isTicket out.1 = isTicket fulfillment := (hconfirming.authorizes hlaid hmem).type
    rw [List.map_cons, List.map_cons, List.flatten_cons, List.map_append, List.filter_cons, htype, ← ih]
    cases hconfirming with
    | credential spec hspec hid h hrecord =>
      have hticket : isTicket fulfillment = true := (hlaid.isTicket_iff hmem).mpr
        ⟨spec.key, List.mem_append_left _ (List.mem_map_of_mem hspec), hid⟩
      rw [if_pos hticket, List.map_cons, h.id, hid, List.map_singleton, hrecord]
      rfl
    | ticket spec hspec =>
      rw [hpass] at hspec
      cases hspec
    | other hnone =>
      have hother : ¬ isTicket fulfillment = true := fun hticket => by
        obtain ⟨spec, hspec, hid⟩ := (hlaid.isTicket_iff hmem).mp hticket
        exact hnone spec hspec hid
      rw [if_neg hother]
      rfl

/-- A list that repeats each id as often as it says has each id that often. -/
theorem count_replicates {items : List SelectedItem} (h : (items.map SelectedItem.id).Nodup)
    {item : SelectedItem} (hmem : item ∈ items) :
    (items.flatMap fun item => List.replicate item.units item.id).count item.id = item.units := by
  have hnone : ∀ items : List SelectedItem, item.id ∉ items.map SelectedItem.id →
      (items.flatMap fun item => List.replicate item.units item.id).count item.id = 0 := by
    intro items hfresh
    refine List.count_eq_zero.mpr fun hmem => ?_
    obtain ⟨item', hmem', hid⟩ := List.mem_flatMap.mp hmem
    rw [List.eq_of_mem_replicate hid] at hfresh
    exact hfresh (List.mem_map_of_mem hmem')
  induction items with
  | nil => cases hmem
  | cons head items ih =>
    obtain ⟨hfresh, hnodup⟩ := List.nodup_cons.mp h
    rw [List.flatMap_cons, List.count_append]
    rcases List.mem_cons.mp hmem with rfl | hmem
    · rw [List.count_replicate_self, hnone _ hfresh, Nat.add_zero]
    · have hne : head.id ≠ item.id := fun hid => hfresh (hid ▸ List.mem_map_of_mem hmem)
      rw [ih hnodup hmem, List.count_replicate, if_neg (by simpa using hne), Nat.zero_add]

/-- Each credential is for the item of its spec. -/
theorem confirming_items (hnodup : (issue.base.passCredentials.map PassCredentialSpec.id).Nodup)
    {outs : List (JsonObject × List PassCredentialRecord)}
    (houts : List.Forall₂ (fun fulfillment out => fulfillment ∈ issue.base.order.fulfillments ∧
      Confirming operator issue fulfillment out) issue.base.order.fulfillments outs)
    (hids : (outs.map Prod.snd).flatten.map PassCredentialRecord.fulfillmentId =
      issue.base.passCredentials.map PassCredentialSpec.id) :
    (outs.map Prod.snd).flatten.map PassCredentialRecord.itemId =
      issue.base.passCredentials.map fun credential => credential.item.id := by
  refine map_eq_of_keys hids hnodup fun record hmem => ?_
  obtain ⟨records, hrecords, hmem⟩ := List.mem_flatten.mp hmem
  obtain ⟨out, hout, rfl⟩ := List.mem_map.mp hrecords
  obtain ⟨fulfillment, -, -, hconfirming⟩ := exists_of_mem_forall₂ houts hout
  cases hconfirming with
  | credential spec hspec hid h hrecord hitem =>
    obtain rfl := List.mem_singleton.mp hmem
    exact ⟨spec, hspec, hrecord, hitem⟩
  | ticket => cases hmem
  | other => cases hmem

/-- **A confirm of what was laid out** gives each ticket its authorization and its number. -/
theorem LaidOut.confirms (hlaid : LaidOut request issue.base)
    (h : issued operator request draws issue encoder = .ok done) : Confirms request issue.base done := by
  obtain ⟨outs, houts, hfulfillments, hcredentials⟩ := issued_ok h hlaid
  have hauthorizes : List.Forall₂ Authorizes issue.base.order.fulfillments (outs.map Prod.fst) := by
    rw [List.forall₂_map_right_iff]
    exact houts.imp fun fulfillment out hout => hout.2.authorizes hlaid hout.1
  have htickets : ((outs.map Prod.fst).filter isTicket).map fulfillmentId =
      issue.base.specs.map fun spec => some (.str spec.1) :=
    (authorizes_tickets hauthorizes).trans hlaid.tickets
  rw [← hfulfillments] at hauthorizes
  refine ⟨hauthorizes, ?_, fun hpass => ?_, fun hpass item hmem => ?_⟩
  · rw [hfulfillments]
    exact hlaid.numbers houts htickets
  · rw [hfulfillments, hcredentials]
    exact confirming_credentials hlaid (hlaid.pass hpass).1 houts
  · obtain ⟨hnone, hitems⟩ := hlaid.pass hpass
    have hspecs : (issue.base.specs.map fun spec => some (Json.str spec.1)) =
        (issue.base.passCredentials.map PassCredentialSpec.id).map fun id => some (Json.str id) := by
      rw [BaseOrder.specs, hnone, List.map_nil, List.append_nil, List.map_map, List.map_map]
      rfl
    have hinjective : Function.Injective fun id : String => some (Json.str id) :=
      fun a b h => Json.str.inj (Option.some.inj h)
    have hnodup := hlaid.nodup_specs
    rw [hspecs] at hnodup htickets
    have hids : (outs.map Prod.snd).flatten.map PassCredentialRecord.fulfillmentId =
        issue.base.passCredentials.map PassCredentialSpec.id := by
      apply List.map_injective_iff.mpr hinjective
      rw [← htickets, confirming_credentials hlaid hnone houts, List.map_map]
      rfl
    have hdistinct := hlaid.distinct
    rw [ConfirmRequest.picks, List.map_map] at hdistinct
    rw [hcredentials, confirming_items (hnodup.of_map _) houts hids, hitems]
    exact count_replicates hdistinct hmem

end

/-! ## Any number of confirms -/

/-- Orders were laid out for what was selected, and are stored with their credentials. -/
structure Issuing (s : State) : Prop where
  keyed : s.store.Keyed
  drafts : ∀ (i : ℕ) (t : Task) (issue : Draft), s.tasks[i]? = some t → t.stage = .encoding issue →
    LaidOut t.request issue.base
  history : ∀ c ∈ s.history, LaidOut c.request c.draft.base
  orders : ∀ c ∈ s.history, Js.mapGet s.store.orders c.issued.order.id =
    some ⟨c.operator, c.request.identity, c.issued.order⟩
  credentials : ∀ c ∈ s.history, s.store.findPassCredentials c.operator c.request.identity
    c.issued.order.id = c.issued.credentials

theorem Store.Keyed.cacheCatalogue {store : Store} (h : store.Keyed) (operator : PassOperatorKey)
    (identity : TransactionIdentity) (offers : List TransitOffer) :
    (store.cacheCatalogue operator identity offers).Keyed := by
  intro key catalogue hcatalogue id offer hoffer
  by_cases hkey : key = ⟨operator, identity⟩
  · rw [hkey, Store.cacheCatalogue, Js.mapGet_mapSet_self] at hcatalogue
    obtain rfl := Option.some.inj hcatalogue
    obtain ⟨offer', -, hsame⟩ := List.mem_map.mp (Js.mem_of_mapGet_mapOf hoffer)
    obtain ⟨rfl, rfl⟩ := Prod.mk.inj hsame
    rfl
  · rw [Store.cacheCatalogue, Js.mapGet_mapSet_ne _ _ hkey] at hcatalogue
    exact h key catalogue hcatalogue id offer hoffer

theorem issue_catalogues {store store' : Store} {operator : PassOperatorKey}
    {identity : TransactionIdentity} {done : Issued} (h : store.issue operator identity done = .ok store') :
    store'.catalogues = store.catalogues := by
  rw [Store.issue, Store.save] at h
  split at h
  · cases h
  · split at h
    · cases h
    · obtain rfl := Except.ok.inj h
      rw [Store.savePassCredentials]
      split <;> rfl

section

variable {hmac : Hmac} {services : PassOperatorKey → Service} {s s' : State} {m : Move}

/-- Catalogues change by a search alone. -/
theorem step_catalogues (h : s.step hmac services m = some s') :
    s'.store.catalogues = s.store.catalogues ∨ ∃ operator identity offers,
      s'.store = s.store.cacheCatalogue operator identity offers := by
  cases m with
  | search operator identity offers =>
    obtain rfl := Option.some.inj h
    exact .inr ⟨operator, identity, offers, rfl⟩
  | confirm operator request draws =>
    obtain rfl := Option.some.inj h
    left
    rw [State.confirm]
    repeat' split
    all_goals rfl
  | encoded i outcome =>
    obtain ⟨t, -, h⟩ := Option.bind_eq_some_iff.mp h
    split at h
    · obtain rfl := Option.some.inj h
      exact .inl rfl
    · obtain rfl := Option.some.inj h
      rw [State.finish]
      left
      split
      · rfl
      · split
        · rfl
        · exact issue_catalogues ‹_›
    · cases h
  | conclude i =>
    obtain ⟨t, -, h⟩ := Option.bind_eq_some_iff.mp h
    split at h
    · obtain rfl := Option.some.inj h
      exact .inl rfl
    · cases h
  | resume i =>
    obtain ⟨t, -, h⟩ := Option.bind_eq_some_iff.mp h
    split at h
    · obtain ⟨owner, -, h⟩ := Option.bind_eq_some_iff.mp h
      split at h
      · obtain rfl := Option.some.inj h
        exact .inl rfl
      · cases h
    · cases h

theorem issuing_initial : Issuing State.initial :=
  ⟨fun _ _ h => absurd h nofun, fun _ t _ h => absurd (show none = some t from h) nofun,
    fun _ h => absurd h List.not_mem_nil, fun _ h => absurd h List.not_mem_nil,
    fun _ h => absurd h List.not_mem_nil⟩

/-- An order that is stored leaves the others in place, and its credentials are found under its id. -/
theorem Issuing.stored (h : Issuing s) (htraced : Traced hmac services s) {key : TransactionKey}
    {done : Issued} {store : Store} (hissues : s.store.Issues key done store) :
    (∀ c ∈ s.history, Js.mapGet store.orders c.issued.order.id =
      some ⟨c.operator, c.request.identity, c.issued.order⟩ ∧
      store.findPassCredentials c.operator c.request.identity c.issued.order.id = c.issued.credentials) ∧
    store.findPassCredentials key.operator key.identity done.order.id = done.credentials := by
  have hfresh : ∀ c ∈ s.history, c.issued.order.id ≠ done.order.id := by
    intro c hc hid
    have horder := h.orders c hc
    rw [hid, hissues.fresh] at horder
    cases horder
  refine ⟨fun c hc => ⟨?_, ?_⟩, ?_⟩
  · rw [hissues.orders, Js.mapGet_mapSet_ne _ _ (hfresh c hc)]
    exact h.orders c hc
  · rw [← h.credentials c hc]
    simp only [Store.findPassCredentials]
    rw [hissues.passCredentials]
    split
    · rfl
    · rw [Js.mapGet_mapSet_ne]
      exact fun hkey => hfresh c hc (PassKey.mk.inj hkey).2.2.2
  · simp only [Store.findPassCredentials]
    rw [hissues.passCredentials]
    split
    · rename_i hnone
      rw [List.isEmpty_iff.mp hnone]
      cases hget : Js.mapGet s.store.passCredentials (passKey key.operator key.identity done.order.id) with
      | none => rfl
      | some credentials =>
        -- credentials are only kept for an order that was stored
        obtain ⟨p, hp, hkey, -⟩ := htraced.credentials _ _ hget
        exact absurd (PassKey.mk.inj hkey).2.2.2 (hfresh p hp)
    · rw [Js.mapGet_mapSet_self, Option.getD_some]

theorem Issuing.step (h : Issuing s) (htraced : Traced hmac services s)
    (hstep : s.step hmac services m = some s') : Issuing s' := by
  have hdoes := step_does hstep
  refine ⟨?_, ?_, ?_, ?_, ?_⟩
  · rcases step_catalogues hstep with hsame | ⟨operator, identity, offers, hstore⟩
    · intro key catalogue hcatalogue
      exact h.keyed key catalogue (hsame ▸ hcatalogue)
    · rw [hstore]
      exact h.keyed.cacheCatalogue operator identity offers
  · intro i t issue ht hstage
    rcases hdoes.encoding ht hstage with ht | hdraft
    · exact h.drafts i t issue ht hstage
    · exact baseOrder_laid (draft_ok hdraft).1 h.keyed
  · intro c hc
    rcases hdoes.history with ⟨hsame, -⟩ | ⟨i, t, issue, encoder, done, ht, hstage, -, -, hmore⟩
    · exact h.history c (hsame ▸ hc)
    · rw [hmore] at hc
      rcases List.mem_cons.mp hc with rfl | hc
      · exact h.drafts i t issue ht hstage
      · exact h.history c hc
  · intro c hc
    rcases hdoes.history with ⟨hsame, horders, -⟩ | ⟨i, t, issue, encoder, done, -, -, -, hissues, hmore⟩
    · rw [horders]
      exact h.orders c (hsame ▸ hc)
    · rw [hmore] at hc
      rcases List.mem_cons.mp hc with rfl | hc
      · rw [hissues.orders]
        exact Js.mapGet_mapSet_self _ _ _
      · exact ((h.stored htraced hissues).1 c hc).1
  · intro c hc
    rcases hdoes.history with ⟨hsame, -, -, hcredentials⟩ |
      ⟨i, t, issue, encoder, done, -, -, -, hissues, hmore⟩
    · rw [Store.findPassCredentials]
      rw [hcredentials]
      exact h.credentials c (hsame ▸ hc)
    · rw [hmore] at hc
      rcases List.mem_cons.mp hc with rfl | hc
      · exact (h.stored htraced hissues).2
      · exact ((h.stored htraced hissues).1 c hc).2

theorem Reachable.issuing (h : Reachable hmac services s) : Issuing s := by
  induction h with
  | refl => exact issuing_initial
  | tail hreach hstep ih =>
    obtain ⟨m, hstep⟩ := hstep
    exact ih.step (Reachable.traced hreach) hstep

/-- An order with the items, the ids and the quote of a consistent one is consistent. -/
theorem ProtocolOrder.Consistent.same {order order' : ProtocolOrder} (h : order.Consistent)
    (hitems : order'.items = order.items) (hquote : order'.quote = order.quote)
    (hids : order'.fulfillments.map fulfillmentId = order.fulfillments.map fulfillmentId) :
    order'.Consistent := by
  refine ⟨hids ▸ h.distinct, ?_, ?_, hquote ▸ h.adds⟩
  · intro item hitem id hid
    have hmem := List.mem_map.mpr (h.named item (hitems ▸ hitem) id hid)
    rw [← hids] at hmem
    exact List.mem_map.mp hmem
  · intro fulfillment hmem
    have hid := List.mem_map_of_mem (f := fulfillmentId) hmem
    rw [hids] at hid
    obtain ⟨fulfillment', hmem', hid⟩ := List.mem_map.mp hid
    rw [hitems, ← hid]
    exact h.once fulfillment' hmem'

/-- **A transit order is internally consistent**, as it is selected and as it is confirmed, in every state
that searches and confirms lead to. -/
theorem transit_orders_consistent (h : Reachable hmac services s) :
    (∀ (operator : PassOperatorKey) (request : ConfirmRequest) (draws : Draws) (base : BaseOrder),
      baseOrder (services operator) operator s.store request draws = .ok base → base.order.Consistent) ∧
    ∀ c ∈ s.history, c.Consistent s.store := by
  have hissuing := Reachable.issuing h
  refine ⟨fun operator request draws base hbase => (baseOrder_laid hbase hissuing.keyed).consistent, ?_⟩
  intro c hc
  have hlaid := hissuing.history c hc
  obtain ⟨-, encoder, hissued⟩ := h.traced.computed c hc
  have hconfirms := hlaid.confirms hissued
  refine ⟨hlaid.consistent, ?_, hconfirms, hissuing.orders c hc, hissuing.credentials c hc⟩
  obtain ⟨fulfillments, -, hissued⟩ := Except.bind_ok.mp hissued
  obtain ⟨createdAt, -, hissued⟩ := Except.bind_ok.mp hissued
  obtain hdone := Except.ok.inj hissued
  refine hlaid.consistent.same (by rw [← hdone]) (by rw [← hdone]) ?_
  have hids : ∀ fulfillments confirmed : List JsonObject, List.Forall₂ Authorizes fulfillments confirmed →
      confirmed.map fulfillmentId = fulfillments.map fulfillmentId := by
    intro fulfillments confirmed hall
    induction hall with
    | nil => rfl
    | cons hhead _ ih => rw [List.map_cons, List.map_cons, hhead.id, ih]
  exact hids _ _ hconfirms.fulfillments

theorem transit_orders_consistent_specimen :
    ((State.initial.follow Specimen.zeros Specimen.service Specimen.passRide).history.map fun c =>
      (c.issued.order.fulfillments.filter isTicket).length) = [1, 1] ∧
    ∀ c ∈ (State.initial.follow Specimen.zeros Specimen.service Specimen.passRide).history,
      c.Consistent (State.initial.follow Specimen.zeros Specimen.service Specimen.passRide).store :=
  ⟨by decide +kernel, (transit_orders_consistent (Reachable.follow .refl Specimen.passRide)).2⟩

end

end TransitBpp.Trv11
