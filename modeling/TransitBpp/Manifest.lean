import TransitBpp.Wire

/-!
# The passenger manifest and its retention

`manifest.ts` and `withoutManifestNames` of `store.ts`: how a manifest is read and written, and
how a stored order loses its names. `withoutManifestNames` walks any JSON value;
`Order.withoutManifestNames` is the same walk over an order.
-/

namespace TransitBpp

open Js

/-! ## Reading a manifest -/

/-- One passenger of a manifest. -/
structure ManifestRecord : Type where
  /-- the seat -/
  seatId : String
  /-- the name -/
  name : String
  /-- absent when not supplied, never inferred -/
  age : Option ℕ
  /-- absent when not supplied -/
  gender : Option ManifestGender
  deriving DecidableEq, Repr

/-- `ACCEPTED_CODES`. -/
def acceptedCodes : List String := ["SEAT_ID", "NAME", "AGE", "GENDER"]

/-- The entries of the `MANIFEST` group of an order, where there is one. -/
def manifestTag (tags : Option (List BuyerTag)) : Option (List BuyerEntry) :=
  (findTag tags "MANIFEST").map fun group => group.list.getD []

/-- A record that has begun. -/
structure PartialRecord : Type where
  /-- the seat it began with -/
  seatId : String
  /-- its name, once read -/
  name : Option String
  /-- its age, once read -/
  age : Option ℕ
  /-- its gender, once read -/
  gender : Option ManifestGender
  deriving DecidableEq, Repr

/-- What reading a manifest keeps: the records finished and the one begun. -/
abbrev ManifestState : Type := List ManifestRecord × Option PartialRecord

/-- Finish the record begun, which must carry a name by now. -/
def flush (state : ManifestState) : Except Failure ManifestState :=
  match state.2 with
  | none => return state
  | some current =>
    match current.name with
    | none => refuse .manifestIncomplete
        s!"The manifest record for seat {current.seatId} carries no NAME" []
    | some name => return (state.1 ++ [⟨current.seatId, name, current.age, current.gender⟩], none)

/-- Read one entry. -/
def readEntry (state : ManifestState) (entry : BuyerEntry) : Except Failure ManifestState :=
  let code := entry.code.getD "undefined"
  let value := entry.value.getD ""
  if code = "SEAT_ID" then do
    let (records, _) ← flush state
    if value = "" then
      refuse .manifestIncomplete
        "A manifest record begins with a SEAT_ID and this one carries none" []
    else return (records, some ⟨value, none, none, none⟩)
  else
    match state.2 with
    | none => refuse .manifestIncomplete
        s!"A manifest record begins with a SEAT_ID, and a {code} entry arrived before any" []
    | some current =>
      if code = "NAME" then
        if value = "" then
          refuse .manifestIncomplete
            s!"The manifest record for seat {current.seatId} carries an empty NAME" []
        else return (state.1, some { current with name := some value })
      else if code = "AGE" then
        match wholeUpTo 130 entry.value with
        | none => refuse .manifestIncomplete
            s!"The AGE entry for seat {current.seatId} is not a whole number of years; omit it rather than sending a placeholder when it is not known"
            []
        | some age => return (state.1, some { current with age := some age })
      else if code = "GENDER" then
        match ManifestGender.ofWire value with
        | none => refuse .manifestIncomplete
            s!"The GENDER entry for seat {current.seatId} is not one of male, female or other" []
        | some gender => return (state.1, some { current with gender := some gender })
      else return state

/-- Read the manifest as records delimited by each `SEAT_ID`, in order. -/
def parseManifest (entries : List BuyerEntry) : Except Failure (List ManifestRecord) :=
  let codes := entries.map fun entry => entry.code.getD ""
  let unexpected := sort (unique (codes.filter fun code => code ∉ acceptedCodes))
  if unexpected ≠ [] then
    refuse .manifestFieldNotAccepted
      s!"A manifest carries a seat, a name, an age and a gender and nothing else; these codes are not accepted and their values were not read: {commaList unexpected}"
      [("unexpectedCodes", jsonStrings unexpected)]
  else do
    let (records, _) ← flush (← entries.foldlM readEntry ([], none))
    let seatIds := records.map ManifestRecord.seatId
    if (unique seatIds).length ≠ seatIds.length then
      refuse .manifestIncomplete
        "The manifest names one seat twice, and a seat carries one passenger" []
    else return records

/-- The manifest's seat set must be exactly the hold's. -/
def assertManifestMatchesHold (records : List ManifestRecord) (heldSeatIds : List String) :
    Except Failure Unit :=
  let named := unique (records.map ManifestRecord.seatId)
  let extra := sort (named.filter fun seatId => seatId ∉ heldSeatIds)
  let missing := heldSeatIds.filter fun seatId => seatId ∉ named
  if extra ≠ [] then
    refuse .holdSeatMismatch
      s!"The manifest names seats {commaList extra}, which this transaction does not hold" []
  else if missing ≠ [] then
    refuse .manifestIncomplete s!"Held seats {commaList missing} have no manifest record" []
  else return ()

/-- The entries of one record as they go back out. -/
def ManifestRecord.entries (record : ManifestRecord) : List TagEntry :=
  [⟨"SEAT_ID", record.seatId⟩, ⟨"NAME", record.name⟩] ++
    (record.age.elim [] fun age => [⟨"AGE", toString age⟩]) ++
    record.gender.elim [] fun gender => [⟨"GENDER", gender.wire⟩]

/-- The manifest as it goes back out on the wire. -/
def manifestTagFrom (records : List ManifestRecord) : Tag :=
  ⟨"MANIFEST", false, records.flatMap ManifestRecord.entries⟩

/-! ### What a manifest that was read says -/

/-- What passing the seat check says: the manifest's seats are the hold's. -/
theorem mem_iff_of_matchesHold {records : List ManifestRecord} {heldSeatIds : List String}
    (h : assertManifestMatchesHold records heldSeatIds = .ok ()) (seatId : String) :
    seatId ∈ records.map ManifestRecord.seatId ↔ seatId ∈ heldSeatIds := by
  unfold assertManifestMatchesHold at h
  dsimp only at h
  split at h
  · cases h
  · rename_i hextra
    split at h
    · cases h
    · rename_i hmissing
      rw [not_not] at hextra hmissing
      constructor
      · intro hs
        by_contra hn
        have : seatId ∈ sort ((unique (records.map ManifestRecord.seatId)).filter
            fun seatId => seatId ∉ heldSeatIds) := by
          rw [mem_sort, List.mem_filter, mem_unique]
          exact ⟨hs, by simpa using hn⟩
        rw [hextra] at this
        cases this
      · intro hs
        by_contra hn
        have : seatId ∈ heldSeatIds.filter
            fun seatId => seatId ∉ unique (records.map ManifestRecord.seatId) := by
          rw [List.mem_filter]
          exact ⟨hs, by simpa using hn⟩
        rw [hmissing] at this
        cases this

/-- A manifest that was read names each seat once. -/
theorem nodup_of_parseManifest {entries : List BuyerEntry} {records : List ManifestRecord}
    (h : parseManifest entries = .ok records) : (records.map ManifestRecord.seatId).Nodup := by
  rw [parseManifest] at h
  dsimp only at h
  split at h
  · cases h
  · rcases hf : entries.foldlM readEntry ([], none) with e | state <;> rw [hf] at h
    · cases h
    · rcases hg : flush state with e | ⟨done, last⟩
      · simp only [bind, Except.bind, hg] at h
        cases h
      · simp only [bind, Except.bind, hg] at h
        split at h
        · cases h
        · rename_i hlen
          obtain rfl := Except.ok.inj h
          rw [not_not] at hlen
          exact nodup_of_length_unique hlen

end TransitBpp
