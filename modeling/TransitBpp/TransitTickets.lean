import TransitBpp.Base32
import TransitBpp.PassWindows
import TransitBpp.TransitFitting

/-!
# What is issued fits its schema

A confirm gives each ticket of an order its authorization: a QR code that says until when it is good, or
the secret of a pass with its window. `Granted` is what a fulfillment of a confirmed order can be, and
`issued_document` says the order is accepted. A ride that is good beyond the year 9999 is not `Granted`:
it `Outlives` the four digits an instant has.
-/

namespace TransitBpp.Trv11

open Js JsonSchema

/-! ## Tickets -/

/-- A reading of the clock is an instant a pass can be issued at, in a year of four digits. -/
theorem ClockTime.issuable (now : ClockTime) : Issuable now.val := by
  refine ⟨le_trans ?_ now.property.1, now.property.2⟩
  decide

theorem ClockTime.utcYear (now : ClockTime) : UtcYear now.val := by
  have hlast : dateUTC 9999 0 1 = 2932532 * dayMilliseconds := by decide
  have hstart : monthStart 119988 = 2932532 := by decide
  have hmonths : monthStart 119988 < monthStart 120000 := by decide
  have hlow := now.property.1
  have hhigh : now.val < 2932532 * dayMilliseconds := by
    rw [← hlast]
    exact now.property.2
  have hdays : 0 ≤ now.val / dayMilliseconds ∧ now.val / dayMilliseconds < monthStart 120000 := by
    rw [dayMilliseconds] at *
    omega
  have hyear := fourDigits_of_bounds hdays.1 hdays.2
  exact ⟨by omega, hyear.2⟩

/-- An instant that is written is written as the host does. -/
theorem toISOString_of_isoString {ms : ℤ} {text : String} (h : isoString ms = .ok text) :
    toISOString ms = some text := by
  rw [isoString] at h
  split at h
  · cases h
  · rename_i written hwritten
    rw [hwritten, Except.ok.inj h]

/-- The characters of a midnight in India. -/
theorem toList_istMidnightIso {days : ℤ} :
    (istMidnightIso (midnight days)).toList = dateText (civilFromDays days).1 (civilFromDays days).2.1
      (civilFromDays days).2.2 ++ ['T', '0', '0', ':', '0', '0', ':', '0', '0', '.', '0', '0', '0', '+',
        '0', '5', ':', '3', '0'] := by
  have hshift : midnight days + indiaOffsetMilliseconds = days * dayMilliseconds := by
    rw [midnight]
    omega
  have hdays : days * dayMilliseconds / dayMilliseconds = days := by
    rw [dayMilliseconds]
    omega
  have htail : (toString "T00:00:00.000+05:30").toList =
      ['T', '0', '0', ':', '0', '0', ':', '0', '0', '.', '0', '0', '0', '+', '0', '5', ':', '3',
        '0'] := by decide
  have hdash : (toString "-").toList = ['-'] := by decide
  simp only [istMidnightIso, istCalendarDay, hshift, hdays, String.toList_append, htail, hdash,
    sub_add_cancel, dateText]
  simp [toString]

/-- A midnight is written as any instant is. -/
theorem istIsoInstant_midnight {days : ℤ}
    (hyear : 0 ≤ (civilFromDays days).1 ∧ (civilFromDays days).1 ≤ 9999) :
    istIsoInstant (midnight days) = .ok (istMidnightIso (midnight days)) := by
  have hshift : midnight days + indiaOffsetMilliseconds = days * dayMilliseconds := by
    rw [midnight]
    omega
  have hdays : days * dayMilliseconds / dayMilliseconds = days := by
    rw [dayMilliseconds]
    omega
  have hutc : UtcYear (days * dayMilliseconds) := by
    rw [UtcYear, hdays]
    exact hyear
  obtain ⟨text, htext⟩ := hutc.writes
  have hzero : days * dayMilliseconds % dayMilliseconds = 0 := by
    rw [dayMilliseconds]
    omega
  have hlist := toList_of_toISOString htext hutc
  obtain ⟨hmonth, hday⟩ := civilDay_digits (civilDay_civilFromDays days)
  have hdate := length_dateText hyear hmonth hday
  have htime : timeText 0 =
      ['T', '0', '0', ':', '0', '0', ':', '0', '0', '.', '0', '0', '0'] := by decide
  rw [hdays, hzero, htime] at hlist
  have hsame : slice text 23 ++ "+05:30" = istMidnightIso (midnight days) := by
    apply String.toList_injective
    have hoffset : "+05:30".toList = ['+', '0', '5', ':', '3', '0'] := rfl
    have hstamp : (dateText (civilFromDays days).1 (civilFromDays days).2.1
        (civilFromDays days).2.2 ++ ['T', '0', '0', ':', '0', '0', ':', '0', '0', '.', '0', '0',
          '0']).length = 23 := by simp [hdate]
    rw [toList_istMidnightIso, String.toList_append, slice, String.toList_ofList, hlist, ← List.append_assoc,
      List.take_left' hstamp, hoffset, List.append_assoc]
    rfl
  rw [istIsoInstant, TransitBpp.isoString, hshift, htext, ← hsame]
  rfl

variable {v : Validator}

/-- Midnights from 1970 to 9999 are read as instants. -/
theorem midnight_read (hreads : v.ReadsInstants) {days : ℤ} (hlow : 0 ≤ days)
    (hhigh : days < monthStart 120000) : v.dateTime (istMidnightIso (midnight days)) = true := by
  obtain ⟨hfrom, hto⟩ := fourDigits_of_bounds hlow hhigh
  have hyear : 0 ≤ (civilFromDays days).1 ∧ (civilFromDays days).1 ≤ 9999 := ⟨by omega, hto⟩
  have hdays : (midnight days + indiaOffsetMilliseconds) / dayMilliseconds = days := by
    rw [midnight, dayMilliseconds]
    omega
  refine hreads.ist ?_ (istIsoInstant_midnight hyear)
  rwa [FourDigitYear, istYear, hdays]

/-- **The window of a pass is written as instants.** -/
theorem window_fits (hreads : v.ReadsInstants) {issuedAt : ℤ} (h : Issuable issuedAt)
    (window : PassWindow) :
    v.dateTime (passValidityWindow issuedAt window).validFrom = true ∧
      v.dateTime (passValidityWindow issuedAt window).validTo = true := by
  obtain ⟨-, -, hfrom, hto⟩ := passValidityWindow_eq h window
  have hlow := h.days.1
  have hlt := lt_windowEnd (istDay issuedAt) window
  have hend := h.windowEnd_lt window
  rw [hfrom, hto]
  exact ⟨midnight_read hreads hlow (lt_trans hlt hend),
    midnight_read hreads (le_trans hlow hlt.le) hend⟩

/-- Twenty bytes are thirty-two characters of the alphabet. -/
theorem isSharedSecret_of_mint {secret : Except Failure (List Byte)} {text : String}
    (h : mintPassSecret secret = .ok text) : Documents.isSharedSecret text = true := by
  obtain ⟨bytes, -, h⟩ := Except.bind_ok.mp h
  split at h
  · cases h
  · rename_i hlength
    obtain rfl := Except.ok.inj h
    have hbytes : bytes.length = 20 := not_not.mp hlength
    obtain ⟨words, pad, hpad, hchars, hbits⟩ := @encodeBase32From_spec 0 0 (by decide) bytes
    -- eight bits a byte, five a character: a hundred and sixty of them, so nothing is padded
    have hcount := congrArg List.length hbits
    have hfive (words : List (BitVec 32)) :
        (words.flatMap fun word => Bits.low word 5).length = words.length * 5 := by
      simp [List.length_flatMap, Bits.length_low]
    have height (bytes : List Byte) : (bytes.flatMap byteBits).length = bytes.length * 8 := by
      simp [List.length_flatMap, length_byteBits]
    rw [List.length_append, List.length_append, hfive, height, Bits.length_low,
      List.length_replicate, hbytes] at hcount
    have halphabet : (base32Alphabet.all fun c => c.isUpper || '2' ≤ c && c ≤ '7') = true := by
      decide
    rw [Documents.isSharedSecret, encodeBase32, String.toList_ofList, hchars, Bool.and_eq_true,
      List.length_map, decide_eq_true_eq, List.all_eq_true]
    refine ⟨by omega, fun c hc => ?_⟩
    obtain ⟨word, -, rfl⟩ := List.mem_map.mp hc
    exact List.all_eq_true.mp halphabet _ (base32Char_mem word)

/-- A fulfillment of a confirmed order. -/
inductive Granted (v : Validator) (fulfillment : JsonObject) : Prop where
  /-- a trip -/
  | trip : Documents.tripFulfillment (.obj fulfillment) = true → Granted v fulfillment
  /-- a pass -/
  | pass : Documents.passFulfillment (.obj fulfillment) = true → Granted v fulfillment
  /-- a ticket of a ride -/
  | ride : Documents.ticketFulfillment (.obj fulfillment) = true →
      Documents.confirmedTicketFulfillment v.dateTime (.obj fulfillment) = true →
      Documents.passCredentialFulfillment v.dateTime (.obj fulfillment) = false →
      Granted v fulfillment
  /-- a ticket of a pass -/
  | credential : Documents.ticketFulfillment (.obj fulfillment) = true →
      Documents.confirmedTicketFulfillment v.dateTime (.obj fulfillment) = false →
      Documents.passCredentialFulfillment v.dateTime (.obj fulfillment) = true →
      Granted v fulfillment

variable {fulfillment : JsonObject}

theorem Granted.opened (h : Granted v fulfillment) : Opened fulfillment := by
  cases h with
  | trip h => exact .trip h
  | pass h => exact .pass h
  | ride h _ _ => exact .ticket h
  | credential h _ _ => exact .ticket h

/-- It is of one kind of the confirmed ones and of no other. -/
theorem Granted.oneOf (h : Granted v fulfillment) :
    JsonSchema.oneOf ([Documents.tripFulfillment, Documents.passFulfillment] ++
      Documents.issuedFulfillments v.dateTime) (.obj fulfillment) = true := by
  change JsonSchema.oneOf [Documents.tripFulfillment, Documents.passFulfillment,
    Documents.confirmedTicketFulfillment v.dateTime,
    Documents.passCredentialFulfillment v.dateTime] (.obj fulfillment) = true
  cases h with
  | trip h =>
    have htype := type_of_trip h
    refine @oneOf_append _ _ [] _ h ?_
    simp [Documents.passFulfillment, tagged_refuses htype,
      Documents.confirmedTicketFulfillment, Documents.passCredentialFulfillment, issued_refuses htype]
  | pass h =>
    have htype := type_of_tagged h
    refine @oneOf_append _ _ [_] _ h ?_
    simp [trip_refuses htype, Documents.confirmedTicketFulfillment,
      Documents.passCredentialFulfillment, issued_refuses htype]
  | ride h hride hother =>
    have htype := type_of_tagged h
    refine @oneOf_append _ _ [_, _] [_] hride ?_
    simp [Documents.passFulfillment, tagged_refuses htype, trip_refuses htype, hother]
  | credential h hother hcredential =>
    have htype := type_of_tagged h
    refine @oneOf_append _ _ [_, _, _] [] hcredential ?_
    simp [Documents.passFulfillment, tagged_refuses htype, trip_refuses htype, hother]

/-- A ticket of it is issued. -/
theorem Granted.issued (h : Granted v fulfillment) (hticket : isTicket fulfillment = true) :
    anyOf (Documents.issuedFulfillments v.dateTime) (.obj fulfillment) = true := by
  have hkind := h.opened.isTicket_iff.mp hticket
  have htype := type_of_tagged hkind
  cases h with
  | trip h =>
    rw [trip_refuses htype (by decide)] at h
    cases h
  | pass h =>
    rw [Documents.passFulfillment, tagged_refuses htype (by decide)] at h
    cases h
  | ride _ hride _ => exact anyOf_iff.mpr ⟨_, List.mem_cons_self .., hride⟩
  | credential _ _ hcredential =>
    exact anyOf_iff.mpr ⟨_, List.mem_cons_of_mem _ (List.mem_cons_self ..), hcredential⟩

/-! ### What a confirm issues -/

/-- A ticket with its authorization and its tags. -/
def authorized (fulfillment : JsonObject) (authorization : Json) (tags : List Json) : JsonObject :=
  Json.set (Json.set fulfillment "stops" (.arr [.obj [("type", .str "START"),
    ("authorization", authorization)]])) "tags" (.arr tags)

section Authorized

variable {authorization : Json} {tags : List Json}

theorem get?_authorized {key : String} (hstops : key ≠ "stops") (htags : key ≠ "tags") :
    (Json.obj (authorized fulfillment authorization tags)).get? key =
      (Json.obj fulfillment).get? key := by
  rw [authorized, Json.get?_set_ne htags, Json.get?_set_ne hstops]

theorem get?_authorized_stops :
    (Json.obj (authorized fulfillment authorization tags)).get? "stops" =
      some (.arr [.obj [("type", .str "START"), ("authorization", authorization)]]) := by
  rw [authorized, Json.get?_set_ne (by decide), Json.get?_set_self]

theorem get?_authorized_tags :
    (Json.obj (authorized fulfillment authorization tags)).get? "tags" = some (.arr tags) :=
  Json.get?_set_self

/-- What a ticket's schema asks of its id and its type stays so. -/
theorem authorized_head (h : Documents.ticketFulfillment (.obj fulfillment) = true) :
    ∃ id, id ≠ "" ∧
      (Json.obj (authorized fulfillment authorization tags)).get? "id" = some (.str id) ∧
      (Json.obj (authorized fulfillment authorization tags)).get? "type" = some (.str "TICKET") := by
  rw [Documents.ticketFulfillment, Documents.taggedFulfillment] at h
  obtain ⟨id, hid⟩ := get_of_required h (show "id" ∈ ["id", "type", "tags"] by simp)
  have hnonEmpty : nonEmpty id = true := accepts_of_get h (by simp) hid
  obtain ⟨text, rfl, hne⟩ := nonEmpty_iff.mp hnonEmpty
  rw [get?_authorized (by decide) (by decide), get?_authorized (by decide) (by decide)]
  exact ⟨text, hne, hid, type_of_tagged h⟩

theorem authorized_ticket (h : Documents.ticketFulfillment (.obj fulfillment) = true)
    (htags : 2 ≤ tags.length ∧ ∀ tag ∈ tags, Documents.tag tag = true) :
    Documents.ticketFulfillment (.obj (authorized fulfillment authorization tags)) = true := by
  obtain ⟨id, hne, hid, htype⟩ := @authorized_head fulfillment authorization tags h
  have hlength : 1 ≤ tags.length := le_trans (by decide) htags.1
  simpa [Documents.ticketFulfillment, Documents.taggedFulfillment, Documents.tagsOf, property, hid,
    htype, hne, get?_authorized_tags, items, minItems, hlength] using htags.2

/-- What is issued to a ticket fits, where the authorization does. -/
theorem issued_fits {schema : Schema} {code : String}
    (h : Documents.ticketFulfillment (.obj fulfillment) = true)
    (hauthorization : schema authorization = true)
    (htags : 2 ≤ tags.length ∧ ∀ tag ∈ tags, Documents.tag tag = true)
    (hcode : Schemas.hasTag code (.arr tags) = true) :
    Documents.issuedFulfillment schema code
      (.obj (authorized fulfillment authorization tags)) = true := by
  obtain ⟨id, hne, hid, htype⟩ := @authorized_head fulfillment authorization tags h
  have hall : Documents.tagsOf 2 (.arr tags) = true := by
    simpa [Documents.tagsOf, items, minItems, htags.1] using htags.2
  refine object_obj.mpr ⟨by simp [hid, htype, get?_authorized_stops, get?_authorized_tags], ?_⟩
  simp only [properties_cons, property, hid, htype, get?_authorized_stops, get?_authorized_tags]
  simp [property, Json.get?, hne, hauthorization, hall, hcode, items, minItems]

/-- And where it does not, it does not either. -/
theorem issued_refuses_authorization {schema : Schema} {code : String}
    (hauthorization : schema authorization = false) :
    Documents.issuedFulfillment schema code
      (.obj (authorized fulfillment authorization tags)) = false := by
  have hstops : allOf [type .array, minItems 1,
      items (object ["type", "authorization"] [("type", const "START"), ("authorization", schema)])]
      (.arr [.obj [("type", .str "START"), ("authorization", authorization)]]) = false := by
    simp [allOf, items, object, properties, property, Json.get?, hauthorization]
  exact object_refuses (List.mem_cons_of_mem _ (List.mem_cons_of_mem _ (List.mem_cons_self ..)))
    get?_authorized_stops hstops

end Authorized

theorem authorizations_authorized {authorization : Json} {tags : List Json} :
    authorizations (authorized fulfillment authorization tags) = [authorization] := by
  rw [authorizations, get?_authorized_stops]
  rfl

/-- A ticket that says it is good to a year of more than four digits. -/
def Outlives (fulfillment : JsonObject) : Prop :=
  ∃ ms text, ¬ UtcYear ms ∧ toISOString ms = some text ∧
    ∃ authorization ∈ authorizations fulfillment,
      authorization.get? "valid_to" = some (.str text)

section Tickets

variable {hmac : Hmac} {operator : PassOperatorKey} {request : ConfirmRequest} {draws : Draws}
  {issue : Draft} {encoder : String → String}

theorem ticketTags_issued {parentId number : String} {more : List Json}
    (hmore : ∀ tag ∈ more, Documents.tag tag = true) :
    2 ≤ (ticketTags parentId ++ (more ++ [ticketInfo number])).length ∧
      ∀ tag ∈ ticketTags parentId ++ (more ++ [ticketInfo number]), Documents.tag tag = true := by
  refine ⟨by simp [ticketTags], fun tag htag => ?_⟩
  rcases List.mem_append.mp htag with htag | htag
  · exact ticketTags_fit tag htag
  · rcases List.mem_append.mp htag with htag | htag
    · exact hmore tag htag
    · obtain rfl := List.mem_singleton.mp htag
      exact ticketInfo_fits

/-- A ticket of a pass is issued as its schema asks, and is no ticket of a ride. -/
theorem mintPassCredential_granted (hreads : v.ReadsInstants) {issuedAt : ℤ}
    (hissued : Issuable issuedAt) {credential : PassCredentialSpec} {number : String}
    {secret : Except Failure (List Byte)} {out : JsonObject × PassCredentialRecord}
    (h : mintPassCredential fulfillment credential number issuedAt secret = .ok out)
    (hkind : Documents.ticketFulfillment (.obj fulfillment) = true) : Granted v out.1 := by
  obtain ⟨text, hsecret, h⟩ := Except.bind_ok.mp h
  obtain rfl := Except.ok.inj h
  obtain ⟨hfrom, hto⟩ := window_fits hreads hissued credential.item.window
  have hshared := isSharedSecret_of_mint hsecret
  have htags := @ticketTags_issued credential.parentId number [totpInfoTag totpParameters]
    (by simpa using totpInfoTag_fits)
  refine .credential (authorized_ticket hkind htags) (issued_refuses_authorization ?_)
    (issued_fits hkind ?_ htags ?_)
  · exact object_refuses (List.mem_cons_self ..) rfl (by decide)
  · simp [property, Json.get?, hshared, Schemas.instant, hfrom, hto]
  · exact contains_arr.mpr ⟨totpInfoTag totpParameters, by simp,
      by simp [Schemas.coded, property, Json.get?, totpInfoTag]⟩

/-- A ticket of a ride is issued as its schema asks, unless it is good for too long. -/
theorem ticketAuthorization_granted (hreads : v.ReadsInstants)
    (htoken : ∀ payload, encoder payload ≠ "") {orderId number validity parentId : String}
    {issuedAt : ℤ} {authorization : Json}
    (h : ticketAuthorization orderId number validity issuedAt encoder = .ok authorization)
    (hkind : Documents.ticketFulfillment (.obj fulfillment) = true) :
    Granted v (authorized fulfillment authorization (ticketTags parentId ++ [ticketInfo number])) ∨
      Outlives (authorized fulfillment authorization (ticketTags parentId ++ [ticketInfo number])) := by
  obtain ⟨duration, -, h⟩ := Except.bind_ok.mp h
  obtain ⟨validTo, hvalid, h⟩ := Except.bind_ok.mp h
  obtain rfl := Except.ok.inj h
  have htext : toISOString (issuedAt + duration) = some validTo := toISOString_of_isoString hvalid
  by_cases hyear : UtcYear (issuedAt + duration)
  · have hread := hreads.utc hyear htext
    have htags := @ticketTags_issued parentId number [] (by simp)
    refine .inl (.ride (authorized_ticket hkind htags) (issued_fits hkind ?_ htags ?_)
      (issued_refuses_authorization ?_))
    · simp [property, Json.get?, Schemas.instant, hread, htoken]
    · exact contains_arr.mpr ⟨ticketInfo number, by simp,
        by simp [Schemas.coded, property, Json.get?, ticketInfo]⟩
    · exact object_refuses (List.mem_cons_self ..) rfl (by decide)
  · refine .inr ⟨_, _, hyear, htext, ?_⟩
    rw [authorizations_authorized]
    exact ⟨_, List.mem_singleton_self _, rfl⟩

/-- **What a confirm makes of a fulfillment.** -/
theorem confirmFulfillment_granted (hreads : v.ReadsInstants)
    (htoken : ∀ payload, encoder payload ≠ "") (hissued : Issuable draws.issuedAt)
    (hlaid : LaidOut request issue.base) (hmem : fulfillment ∈ issue.base.order.fulfillments)
    (hopened : Opened fulfillment) {out : JsonObject × List PassCredentialRecord}
    (h : confirmFulfillment operator issue draws encoder fulfillment = .ok out) :
    Granted v out.1 ∨ Outlives out.1 := by
  obtain ⟨id, hid⟩ : ∃ id, fulfillmentId fulfillment = some (.str id) := by
    have hid := List.mem_map_of_mem (f := fulfillmentId) hmem
    rw [hlaid.fulfillments] at hid
    obtain ⟨id, -, hid⟩ := List.mem_map.mp hid
    exact ⟨id, hid.symm⟩
  by_cases hticket : isTicket fulfillment = true
  · have hkind := hopened.isTicket_iff.mp hticket
    obtain ⟨spec, hspec, hsame⟩ := (hlaid.isTicket_iff hmem).mp hticket
    have hget : (Json.obj fulfillment).get? "id" = some (.str id) := hid
    rw [hid] at hsame
    rw [confirmFulfillment] at h
    simp only [hget, Option.bind_some, Json.str?, Option.getD_some] at h
    split at h
    · -- a ticket of a pass
      obtain ⟨minted, hminted, h⟩ := Except.bind_ok.mp h
      obtain rfl := Except.ok.inj h
      exact .inl (mintPassCredential_granted hreads hissued hminted hkind)
    · rename_i hcredential
      split at h
      · -- a ticket that is neither: its id is the id of one of the specifications
        rename_i hnone
        rcases List.mem_append.mp hspec with hspec | hspec
        · obtain ⟨credential, hmem, rfl⟩ := List.mem_map.mp hspec
          refine absurd ?_ (List.find?_eq_none.mp hcredential credential (List.mem_reverse.mpr hmem))
          simpa [PassCredentialSpec.key] using hsame.symm
        · obtain ⟨ticket, hmem, rfl⟩ := List.mem_map.mp hspec
          refine absurd ?_ (List.find?_eq_none.mp hnone ticket (List.mem_reverse.mpr hmem))
          simpa [TicketSpec.key] using hsame.symm
      · obtain ⟨authorization, hauthorization, h⟩ := Except.bind_ok.mp h
        obtain rfl := Except.ok.inj h
        exact ticketAuthorization_granted hreads htoken hauthorization hkind
  · -- no ticket at all, so nothing is added to it
    have hnone : ∀ spec ∈ issue.base.specs, fulfillmentId fulfillment ≠ some (.str spec.1) :=
      fun spec hspec hid => hticket ((hlaid.isTicket_iff hmem).mpr ⟨spec, hspec, hid⟩)
    cases confirmFulfillment_ok h hid with
    | credential spec hspec hid =>
      exact absurd hid (hnone _ (List.mem_append_left _ (List.mem_map_of_mem hspec)))
    | ticket spec hspec hid =>
      exact absurd hid (hnone _ (List.mem_append_right _ (List.mem_map_of_mem hspec)))
    | other =>
      cases hopened with
      | trip h => exact .inl (.trip h)
      | pass h => exact .inl (.pass h)
      | ticket h => exact absurd (by simp [isTicket, type_of_tagged h, Json.str?]) hticket

end Tickets

/-! ## Confirmed orders -/

section Confirmed

variable {hmac : Hmac} {service : Service} {operator : PassOperatorKey} {store : Store}
  {draws : Draws} {issue : Draft} {encoder : String → String}

/-- An order one ticket of which does. -/
def ProtocolOrder.Outlives (order : ProtocolOrder) : Prop :=
  ∃ fulfillment ∈ order.fulfillments, Trv11.Outlives fulfillment

/-- The id of an order is not empty, whatever was drawn. -/
theorem draft_orderId {request : ConfirmRequest}
    (h : draft hmac service operator store request draws = .ok issue) : issue.orderId ≠ "" := by
  obtain ⟨base, -, h⟩ := Except.bind_ok.mp h
  obtain ⟨-, -, h⟩ := Except.bind_ok.mp h
  obtain ⟨drawn, -, h⟩ := Except.bind_ok.mp h
  obtain ⟨orderId, hid, h⟩ := Except.bind_ok.mp h
  obtain rfl := Except.ok.inj h
  rw [orderIdOf] at hid
  split at hid
  · cases hid
  · obtain rfl := Except.ok.inj hid
    simp [toString]

/-- What is confirmed of an order keeps what it is made of. -/
theorem issued_fits_parts {request : ConfirmRequest} {done : Issued} (hreads : v.ReadsInstants)
    (htoken : ∀ payload, encoder payload ≠ "") (hissuable : Issuable draws.issuedAt)
    (hlaid : LaidOut request issue.base) (hfits : issue.base.order.Fits Opened)
    (h : issued operator request draws issue encoder = .ok done)
    (hlasts : ¬ done.order.Outlives) : done.order.toProtocolOrder.Fits (Granted v) := by
  have hauthorizes := (hlaid.confirms h).fulfillments
  obtain ⟨outs, houts, h⟩ := Except.bind_ok.mp h
  obtain ⟨createdAt, -, h⟩ := Except.bind_ok.mp h
  obtain rfl := Except.ok.inj h
  have hlength : (outs.map Prod.fst).length = issue.base.order.fulfillments.length :=
    hauthorizes.length_eq.symm
  -- a confirm changes the fulfillments and leaves the rest of the order as it is
  refine ⟨hfits.items, hfits.provider, ⟨?_, fun fulfillment hmem => ?_⟩, ?_, hfits.quote,
    hfits.terms, hfits.tags⟩
  · exact hlength ▸ hfits.fulfillments.1
  · obtain ⟨out, hout, rfl⟩ := List.mem_map.mp hmem
    obtain ⟨opened, hopened, hmade⟩ := exists_of_mem_mapM houts hout
    have hgranted := confirmFulfillment_granted hreads htoken hissuable hlaid hopened
      (hfits.fulfillments.2 opened hopened) hmade
    exact hgranted.resolve_right fun houtlives => hlasts ⟨_, hmem, houtlives⟩
  · obtain ⟨opened, hopened, hticket⟩ := hfits.tickets
    obtain ⟨confirmed, hmem, hsame⟩ :=
      exists_of_mem_forall₂ (List.Forall₂.flip hauthorizes) hopened
    exact ⟨confirmed, hmem, hsame.type.trans hticket⟩

/-- A confirmed order with these parts. -/
theorem ProtocolOrder.Fits.confirmed {order : ConfirmedOrder}
    (h : order.toProtocolOrder.Fits (Granted v)) (hid : order.id ≠ "") (hstatus : order.status = "ACTIVE")
    (hwritten : v.dateTime order.createdAt = true ∧ v.dateTime order.updatedAt = true)
    (hbilling : Schemas.billing order.billing = true)
    (hpayments : Schemas.payments (.arr (order.payments.map .obj)) = true) :
    Documents.confirmedOrder v.dateTime (.obj order.fields) = true := by
  obtain ⟨hlength, hgranted⟩ := h.fulfillments
  obtain ⟨ticket, hticket, hissued⟩ := h.tickets
  have hone : ∀ fulfillment ∈ order.fulfillments,
      oneOf ([Documents.tripFulfillment, Documents.passFulfillment] ++
        Documents.issuedFulfillments v.dateTime) (.obj fulfillment) = true :=
    fun fulfillment hmem => (hgranted fulfillment hmem).oneOf
  have hany := (hgranted ticket hticket).issued hissued
  have hkinds : allOf [Documents.fulfillments ([Documents.tripFulfillment,
        Documents.passFulfillment] ++ Documents.issuedFulfillments v.dateTime),
      contains (anyOf (Documents.issuedFulfillments v.dateTime))]
      (.arr (order.fulfillments.map Json.obj)) = true := by
    refine allOf_cons.mpr ⟨?_, allOf_cons.mpr ⟨?_, rfl⟩⟩
    · simpa [Documents.fulfillments, items, minItems, hlength] using hone
    · exact contains_arr.mpr ⟨_, List.mem_map_of_mem hticket, hany⟩
  refine allOf_cons.mpr ⟨?_, allOf_cons.mpr ⟨object_obj.mpr ⟨?_, ?_⟩, rfl⟩⟩
  · exact fields_of_order h (fun _ => Granted.opened) ((property_of_get rfl).mpr hbilling)
      ((property_of_get rfl).mpr hpayments)
  · simp [ConfirmedOrder.fields, ProtocolOrder.fields, Json.get?]
  · rw [properties_cons, properties_cons, properties_cons, properties_cons, properties_cons]
    refine ⟨?_, ?_, (property_of_get rfl).mpr hkinds, ?_, ?_, properties_nil⟩ <;>
      simp [property, ConfirmedOrder.fields, ProtocolOrder.fields, Json.get?, hid, hstatus,
        Schemas.instant, hwritten]

/-- **An order that is confirmed is accepted**, unless a ticket of it is good beyond the year 9999. -/
theorem issued_document {request : PaidRequest} {done : Issued} (hreads : v.ReadsInstants)
    (htoken : ∀ payload, encoder payload ≠ "") (hissuable : Issuable draws.issuedAt)
    (hyear : UtcYear draws.issuedAt) (hlaid : LaidOut request.toConfirmRequest issue.base)
    (hfits : issue.base.order.Fits Opened) (hpaid : request.payments ≠ [])
    (hid : issue.orderId ≠ "")
    (h : issued operator request.toConfirmRequest draws issue encoder = .ok done) :
    Documents.confirmedOrder v.dateTime (.obj done.order.fields) = true ∨ done.order.Outlives := by
  by_cases hlasts : done.order.Outlives
  · exact .inr hlasts
  · left
    have hparts := issued_fits_parts hreads htoken hissuable hlaid hfits h hlasts
    obtain ⟨outs, -, h⟩ := Except.bind_ok.mp h
    obtain ⟨createdAt, hcreated, h⟩ := Except.bind_ok.mp h
    obtain rfl := Except.ok.inj h
    have hwritten : v.dateTime createdAt = true := hreads.utc hyear (toISOString_of_isoString hcreated)
    exact hparts.confirmed hid rfl ⟨hwritten, hwritten⟩ request.billed (payments_fit hpaid)

end Confirmed

end TransitBpp.Trv11
