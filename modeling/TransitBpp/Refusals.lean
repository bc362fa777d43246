import TransitBpp.Manifests

/-!
# What a refused manifest tells

A manifest carries names, ages and genders, and the text of a refusal reaches the event log.
`BuyerEntry.masked` leaves those values out. Two manifests masked alike show the same all along:
`shown` is the seats of the records so far and whether the one begun is named, and no refusal reads
more. `refusals` lists what a mask can be refused with, by reading manifests made up from it.
-/

namespace TransitBpp

open Js

variable {entries entries' : List BuyerEntry} {state state' next next' : ManifestState}
  {heldSeatIds : List String} {f f' : Failure}

/-! ## The reading, and where it stops -/

/-- A manifest as a booking reads it: parsed, then checked against the hold. -/
def readManifest (entries : List BuyerEntry) (heldSeatIds : List String) :
    Except Failure (List ManifestRecord) := do
  let records ← parseManifest entries
  assertManifestMatchesHold records heldSeatIds
  return records

/-- The codes that are not accepted. -/
def unexpectedCodes (entries : List BuyerEntry) : List String :=
  (entries.map fun entry => entry.code.getD "").filter fun code => code ∉ acceptedCodes

/-- Where a manifest is refused. -/
inductive RefusedAt : Type where
  /-- at its codes -/
  | codes
  /-- at an entry -/
  | entry (index : ℕ)
  /-- at its end, where the last record is finished -/
  | last
  /-- as two records are of one seat -/
  | twice
  /-- as its seats are not those of the hold -/
  | held
  deriving DecidableEq, Repr

/-- The first entry that is refused. -/
def refusedEntry (state : ManifestState) : List BuyerEntry → Option ℕ
  | [] => none
  | entry :: rest =>
    match readEntry state entry with
    | .error _ => some 0
    | .ok next => (refusedEntry next rest).map (· + 1)

/-- What is left to do once the entries are read. -/
def finish (state : ManifestState) (heldSeatIds : List String) :
    Except Failure (List ManifestRecord) := do
  let (records, _) ← flush state
  let seatIds := records.map ManifestRecord.seatId
  if (unique seatIds).length ≠ seatIds.length then
    refuse .manifestIncomplete
      "The manifest names one seat twice, and a seat carries one passenger" []
  else
    assertManifestMatchesHold records heldSeatIds
    return records

/-- Where a manifest is refused, if its entries are read. -/
def finishRefusedAt (state : ManifestState) (heldSeatIds : List String) : Option RefusedAt :=
  match flush state with
  | .error _ => some .last
  | .ok (records, _) =>
    let seatIds := records.map ManifestRecord.seatId
    if (unique seatIds).length ≠ seatIds.length then some .twice
    else match assertManifestMatchesHold records heldSeatIds with
      | .error _ => some .held
      | .ok _ => none

/-- Where a manifest is refused, if it is. -/
def refusedAt (entries : List BuyerEntry) (heldSeatIds : List String) : Option RefusedAt :=
  if unexpectedCodes entries ≠ [] then some .codes
  else match entries.foldlM readEntry ([], none) with
    | .error _ => (refusedEntry ([], none) entries).map .entry
    | .ok state => finishRefusedAt state heldSeatIds

/-- A refusal is at some place, and only a refusal is. -/
theorem refusedEntry_isSome : ∀ {entries : List BuyerEntry} {state : ManifestState},
    (refusedEntry state entries).isSome ↔ ∃ f, entries.foldlM readEntry state = .error f := by
  intro entries
  induction entries with
  | nil => intro state; simp [refusedEntry, pure, Except.pure]
  | cons entry rest ih =>
    intro state
    cases hread : readEntry state entry with
    | error f => simp [refusedEntry, List.foldlM_cons, hread, bind, Except.bind]
    | ok next =>
      have hrest : (entry :: rest).foldlM readEntry state = rest.foldlM readEntry next := by
        simp [List.foldlM_cons, hread, bind, Except.bind]
      rw [hrest, ← ih]
      simp [refusedEntry, hread]

theorem sort_unique_eq_nil {xs : List String} : sort (unique xs) = [] ↔ xs = [] := by
  rw [List.eq_nil_iff_forall_not_mem, List.eq_nil_iff_forall_not_mem]
  simp only [mem_sort, mem_unique]

/-- A manifest with codes that are not accepted is refused for its codes alone. -/
theorem readManifest_of_unexpected
    (hcodes : entries.map BuyerEntry.code = entries'.map BuyerEntry.code)
    (h : unexpectedCodes entries ≠ []) :
    readManifest entries heldSeatIds = readManifest entries' heldSeatIds := by
  have hsame : entries.map (fun entry => entry.code.getD "") =
      entries'.map fun entry => entry.code.getD "" := by
    have hmap := congrArg (List.map fun code : Option String => code.getD "") hcodes
    simpa only [List.map_map, Function.comp_def] using hmap
  have hsort : sort (unique (unexpectedCodes entries)) ≠ [] := mt sort_unique_eq_nil.mp h
  unfold unexpectedCodes at hsort
  rw [hsame] at hsort
  simp only [readManifest, parseManifest, hsame, hsort, ne_eq, not_false_eq_true, if_true]

/-- A manifest with the accepted codes is read entry by entry. -/
theorem readManifest_of_expected (h : unexpectedCodes entries = []) :
    readManifest entries heldSeatIds =
      (entries.foldlM readEntry ([], none)).bind fun state => finish state heldSeatIds := by
  have hsort : sort (unique (unexpectedCodes entries)) = [] := sort_unique_eq_nil.mpr h
  unfold unexpectedCodes at hsort
  simp only [readManifest, parseManifest, hsort, ne_eq, not_true_eq_false, if_false]
  cases entries.foldlM readEntry ([], none) with
  | error f => rfl
  | ok state =>
    simp only [finish, bind, Except.bind]
    cases flush state with
    | error f => rfl
    | ok next =>
      by_cases hlen : (unique (next.1.map ManifestRecord.seatId)).length =
          (next.1.map ManifestRecord.seatId).length
      · simp only [hlen, not_true_eq_false, if_false, ne_eq]
        rfl
      · simp only [hlen, not_false_eq_true, if_true, ne_eq]
        rfl

/-- A manifest that is not accepted for its codes is refused. -/
theorem readManifest_error_of_unexpected (h : unexpectedCodes entries ≠ []) :
    ∃ f, readManifest entries heldSeatIds = .error f := by
  have hsort : sort (unique (unexpectedCodes entries)) ≠ [] := mt sort_unique_eq_nil.mp h
  unfold unexpectedCodes at hsort
  simp only [readManifest, parseManifest, hsort, ne_eq, not_false_eq_true, if_true]
  exact ⟨_, rfl⟩

theorem finishRefusedAt_isSome : (finishRefusedAt state heldSeatIds).isSome ↔
    ∃ f, finish state heldSeatIds = .error f := by
  unfold finishRefusedAt finish
  cases flush state with
  | error f => exact ⟨fun _ => ⟨f, rfl⟩, fun _ => rfl⟩
  | ok next =>
    simp only [bind, Except.bind]
    split
    · exact ⟨fun _ => ⟨_, rfl⟩, fun _ => rfl⟩
    · cases assertManifestMatchesHold next.1 heldSeatIds with
      | error f => exact ⟨fun _ => ⟨f, rfl⟩, fun _ => rfl⟩
      | ok u => simp [pure, Except.pure]

/-- A manifest is refused exactly if it is refused somewhere. -/
theorem refusedAt_isSome : (refusedAt entries heldSeatIds).isSome ↔
    ∃ f, readManifest entries heldSeatIds = .error f := by
  by_cases hexpected : unexpectedCodes entries = []
  · rw [readManifest_of_expected hexpected]
    simp only [refusedAt, hexpected, ne_eq, not_true_eq_false, if_false]
    cases hfold : entries.foldlM readEntry ([], none) with
    | error f =>
      have hsome := refusedEntry_isSome.mpr ⟨f, hfold⟩
      simp [hsome, Except.bind]
    | ok state => exact finishRefusedAt_isSome
  · simp only [refusedAt, hexpected, ne_eq, not_false_eq_true, if_true, Option.isSome_some, true_iff]
    exact readManifest_error_of_unexpected hexpected

/-! ## What the refusals read -/

/-- An entry without its value, unless that names a seat. -/
def BuyerEntry.masked (entry : BuyerEntry) : BuyerEntry :=
  if entry.code = some "SEAT_ID" then entry else { entry with value := none }

/-- The same entry with a value that is read, unless it names a seat. -/
def BuyerEntry.filled (entry : BuyerEntry) : BuyerEntry :=
  if entry.code = some "SEAT_ID" then entry
  else { entry with value := some (if entry.code = some "GENDER" then "male" else "0") }

/-- The seats of the records so far, and whether the one begun is named. -/
def shown (state : ManifestState) : List String × Option (String × Bool) :=
  (state.1.map ManifestRecord.seatId,
    state.2.map fun current => (current.seatId, current.name.isSome))

/-- What an entry that is read makes of what is shown. -/
def showEntry (seats : List String × Option (String × Bool)) (entry : BuyerEntry) :
    List String × Option (String × Bool) :=
  if entry.code = some "SEAT_ID" then
    (seats.1 ++ (seats.2.map Prod.fst).toList, some (entry.value.getD "", false))
  else if entry.code = some "NAME" then (seats.1, seats.2.map fun begun => (begun.1, true))
  else seats

theorem showEntry_masked (seats : List String × Option (String × Bool)) (entry : BuyerEntry) :
    showEntry seats entry.masked = showEntry seats entry := by
  rw [BuyerEntry.masked]
  split
  · rfl
  · rename_i hseat
    simp only [showEntry, if_neg hseat]

theorem BuyerEntry.code_masked (entry : BuyerEntry) : entry.masked.code = entry.code := by
  rw [BuyerEntry.masked]
  split <;> rfl

theorem BuyerEntry.masked_masked (entry : BuyerEntry) : entry.masked.masked = entry.masked := by
  by_cases hseat : entry.code = some "SEAT_ID" <;> simp [BuyerEntry.masked, hseat]

theorem BuyerEntry.masked_filled (entry : BuyerEntry) : entry.filled.masked = entry.masked := by
  by_cases hseat : entry.code = some "SEAT_ID" <;> simp [BuyerEntry.masked, BuyerEntry.filled, hseat]

theorem BuyerEntry.filled_masked (entry : BuyerEntry) : entry.masked.filled = entry.filled := by
  by_cases hseat : entry.code = some "SEAT_ID" <;> simp [BuyerEntry.masked, BuyerEntry.filled, hseat]

/-- To finish a record reads no more than is shown. -/
theorem flush_shown (h : shown state = shown state') :
    (∃ f, flush state = .error f ∧ flush state' = .error f) ∨
      ∃ next next', flush state = .ok next ∧ flush state' = .ok next' ∧ shown next = shown next' ∧
        next.2 = none ∧
        next.1.map ManifestRecord.seatId = (shown state).1 ++ ((shown state).2.map Prod.fst).toList := by
  obtain ⟨done, current⟩ := state
  obtain ⟨done', current'⟩ := state'
  simp only [shown, Prod.mk.injEq] at h
  obtain ⟨hdone, hcurrent⟩ := h
  cases current with
  | none =>
    cases current' with
    | none => exact Or.inr ⟨_, _, rfl, rfl, by simp [shown, hdone], rfl, by simp [shown]⟩
    | some begun' => cases hcurrent
  | some begun =>
    cases current' with
    | none => cases hcurrent
    | some begun' =>
      obtain ⟨seatId, name, age, gender⟩ := begun
      obtain ⟨seatId', name', age', gender'⟩ := begun'
      simp only [Option.map_some, Option.some.injEq, Prod.mk.injEq] at hcurrent
      obtain ⟨rfl, hname⟩ := hcurrent
      cases name with
      | none =>
        cases name' with
        | none => exact Or.inl ⟨_, rfl, rfl⟩
        | some name' => cases hname
      | some name =>
        cases name' with
        | none => cases hname
        | some name' => exact Or.inr ⟨_, _, rfl, rfl, by simp [shown, hdone], rfl, by simp [shown]⟩

/-- A `SEAT_ID` entry finishes the record before it and begins one. -/
theorem readEntry_seat (state : ManifestState) (value : Option String) :
    readEntry state ⟨some "SEAT_ID", value⟩ = (flush state).bind fun next =>
      if value.getD "" = "" then refuse .manifestIncomplete
        "A manifest record begins with a SEAT_ID and this one carries none" []
      else .ok (next.1, some ⟨value.getD "", none, none, none⟩) := by
  simp only [readEntry, Option.getD_some, if_true]
  rfl

theorem getD_ne_seat {code : Option String} (h : code ≠ some "SEAT_ID") :
    code.getD "undefined" ≠ "SEAT_ID" := by
  cases code with
  | none => decide
  | some code => exact fun hcode => h (congrArg some hcode)

/-- Any other entry before the first is refused for its code. -/
theorem readEntry_before {code : Option String} (h : code ≠ some "SEAT_ID")
    (done : List ManifestRecord) (value : Option String) :
    let name := code.getD "undefined"
    readEntry (done, none) ⟨code, value⟩ = refuse .manifestIncomplete
      s!"A manifest record begins with a SEAT_ID, and a {name} entry arrived before any" [] := by
  simp only [readEntry, if_neg (getD_ne_seat h)]

/-- Any other entry of a record is read into it. -/
theorem readEntry_within {code : Option String} (h : code ≠ some "SEAT_ID")
    (done : List ManifestRecord) (begun : PartialRecord) (value : Option String) :
    readEntry (done, some begun) ⟨code, value⟩ =
      if code = some "NAME" then
        if value.getD "" = "" then refuse .manifestIncomplete
          s!"The manifest record for seat {begun.seatId} carries an empty NAME" []
        else .ok (done, some { begun with name := some (value.getD "") })
      else if code = some "AGE" then
        (wholeUpTo 130 value).elim (refuse .manifestIncomplete
          s!"The AGE entry for seat {begun.seatId} is not a whole number of years; omit it rather than sending a placeholder when it is not known"
          []) fun age => .ok (done, some { begun with age := some age })
      else if code = some "GENDER" then
        (ManifestGender.ofWire (value.getD "")).elim (refuse .manifestIncomplete
          s!"The GENDER entry for seat {begun.seatId} is not one of male, female or other" [])
          fun gender => .ok (done, some { begun with gender := some gender })
      else .ok (done, some begun) := by
  have hcode : ∀ name, name ≠ "undefined" → (code.getD "undefined" = name ↔ code = some name) := by
    intro name hname
    cases code with
    | none => simp [hname.symm]
    | some code => simp
  simp only [readEntry, if_neg (getD_ne_seat h), hcode "NAME" (by decide), hcode "AGE" (by decide),
    hcode "GENDER" (by decide)]
  split
  · rfl
  · split
    · cases wholeUpTo 130 value <;> rfl
    · split
      · cases ManifestGender.ofWire (value.getD "") <;> rfl
      · rfl

/-- It is read, and all that shows is a name, or it is refused for its code and the seat. -/
theorem readEntry_within_cases {code : Option String} (h : code ≠ some "SEAT_ID")
    (done : List ManifestRecord) (begun : PartialRecord) (value : Option String) :
    (∃ begun', readEntry (done, some begun) ⟨code, value⟩ = .ok (done, some begun') ∧
      begun'.seatId = begun.seatId ∧
        begun'.name.isSome = (begun.name.isSome || decide (code = some "NAME"))) ∨
    ∃ f, readEntry (done, some begun) ⟨code, value⟩ = .error f ∧
      ∀ (done' : List ManifestRecord) (begun' : PartialRecord), begun'.seatId = begun.seatId →
        readEntry (done', some begun') ⟨code, none⟩ = .error f := by
  simp only [readEntry_within h]
  by_cases hname : code = some "NAME"
  · subst hname
    by_cases hempty : value.getD "" = ""
    · refine Or.inr ⟨_, by simp only [if_true, hempty]; rfl, ?_⟩
      intro done' begun' hid
      simp only [if_true, Option.getD_none, hid]
      rfl
    · exact Or.inl ⟨{ begun with name := some (value.getD "") }, by simp [hempty], rfl, by simp⟩
  · by_cases hage : code = some "AGE"
    · subst hage
      cases hread : wholeUpTo 130 value with
      | none =>
        refine Or.inr ⟨_, by simp; rfl, ?_⟩
        intro done' begun' hid
        simp [wholeUpTo, hid]
        rfl
      | some age => exact Or.inl ⟨{ begun with age := some age }, by simp, rfl, by simp⟩
    · by_cases hgender : code = some "GENDER"
      · subst hgender
        cases hread : ManifestGender.ofWire (value.getD "") with
        | none =>
          refine Or.inr ⟨_, by simp; rfl, ?_⟩
          intro done' begun' hid
          simp [hid, ManifestGender.ofWire]
          rfl
        | some gender => exact Or.inl ⟨{ begun with gender := some gender }, by simp, rfl, by simp⟩
      · exact Or.inl ⟨begun, by simp [hname, hage, hgender], rfl, by simp [hname]⟩

/-- Filled, it is read. -/
theorem readEntry_within_filled {code : Option String} (h : code ≠ some "SEAT_ID")
    (done : List ManifestRecord) (begun : PartialRecord) :
    ∃ next, readEntry (done, some begun)
      ⟨code, some (if code = some "GENDER" then "male" else "0")⟩ = .ok next := by
  have hage : wholeUpTo 130 (some "0") = some 0 := by decide +kernel
  rw [readEntry_within h]
  by_cases hcode : code = some "GENDER"
  · subst hcode
    exact ⟨_, rfl⟩
  · simp only [if_neg hcode, hage, Option.elim_some]
    split
    · exact ⟨_, by simp; rfl⟩
    · split <;> exact ⟨_, rfl⟩

/-- An entry that is read shows its code, and the seat it names. -/
theorem readEntry_shown {entry : BuyerEntry} (hread : readEntry state entry = .ok next) :
    shown next = showEntry (shown state) entry := by
  obtain ⟨code, value⟩ := entry
  obtain ⟨done, current⟩ := state
  by_cases hseat : code = some "SEAT_ID"
  · subst hseat
    rw [readEntry_seat] at hread
    rcases flush_shown (rfl : shown (done, current) = shown (done, current)) with
      ⟨f, hf, -⟩ | ⟨next', -, hf, -, -, -, hseats⟩
    · rw [hf] at hread
      cases hread
    · rw [hf, Except.bind] at hread
      split at hread
      · cases hread
      · obtain rfl := Except.ok.inj hread
        simp only [shown, showEntry, if_true, hseats, Option.map_some]
        rfl
  · cases current with
    | none =>
      rw [readEntry_before hseat] at hread
      cases hread
    | some begun =>
      rcases readEntry_within_cases hseat done begun value with ⟨begun', hok, hid, hname⟩ | ⟨f, hf, -⟩
      · rw [hok] at hread
        obtain rfl := Except.ok.inj hread
        simp only [shown, showEntry, if_neg hseat, Option.map_some, hid, hname]
        split
        · rename_i hcode
          simp [hcode]
        · rename_i hcode
          simp [hcode]
      · rw [hf] at hread
        cases hread

/-- An entry that is refused is refused as its mask is, from any state that shows the same. -/
theorem readEntry_masked {entry : BuyerEntry} (h : shown state = shown state')
    (hread : readEntry state entry = .error f) : readEntry state' entry.masked = .error f := by
  obtain ⟨code, value⟩ := entry
  by_cases hseat : code = some "SEAT_ID"
  · subst hseat
    rw [BuyerEntry.masked, if_pos rfl, readEntry_seat]
    rw [readEntry_seat] at hread
    rcases flush_shown h with ⟨f', hf, hf'⟩ | ⟨next, next', hf, hf', -⟩
    · rw [hf] at hread
      rw [hf']
      exact hread
    · rw [hf, Except.bind] at hread
      rw [hf', Except.bind]
      split at hread
      · rename_i hempty
        rw [if_pos hempty]
        exact hread
      · cases hread
  · rw [BuyerEntry.masked, if_neg hseat]
    obtain ⟨done, current⟩ := state
    obtain ⟨done', current'⟩ := state'
    simp only [shown, Prod.mk.injEq] at h
    cases current with
    | none =>
      cases current' with
      | none =>
        rw [readEntry_before hseat] at hread ⊢
        exact hread
      | some begun' => cases h.2
    | some begun =>
      cases current' with
      | none => cases h.2
      | some begun' =>
        simp only [Option.map_some, Option.some.injEq, Prod.mk.injEq] at h
        rcases readEntry_within_cases hseat done begun value with ⟨begun', hok, -⟩ | ⟨f', hf, hmask⟩
        · rw [hok] at hread
          cases hread
        · rw [hf] at hread
          obtain rfl := Except.error.inj hread
          exact hmask done' begun' h.2.1.symm

/-- An entry that is read is read filled, from any state that shows the same. -/
theorem readEntry_filled {entry : BuyerEntry} (h : shown state = shown state')
    (hread : readEntry state entry = .ok next) :
    ∃ next', readEntry state' entry.filled = .ok next' ∧ shown next = shown next' := by
  have hsame : showEntry (shown state) entry = showEntry (shown state') entry.filled := by
    rw [h, BuyerEntry.filled]
    split
    · rfl
    · rename_i hseat
      simp only [showEntry, if_neg hseat]
  suffices hok : ∃ next', readEntry state' entry.filled = .ok next' by
    obtain ⟨next', hread'⟩ := hok
    exact ⟨next', hread', by rw [readEntry_shown hread, readEntry_shown hread', hsame]⟩
  obtain ⟨code, value⟩ := entry
  by_cases hseat : code = some "SEAT_ID"
  · subst hseat
    rw [BuyerEntry.filled, if_pos rfl, readEntry_seat]
    rw [readEntry_seat] at hread
    rcases flush_shown h with ⟨f', hf, hf'⟩ | ⟨_, next', hf, hf', -⟩
    · rw [hf] at hread
      cases hread
    · rw [hf, Except.bind] at hread
      rw [hf', Except.bind]
      split at hread
      · cases hread
      · rename_i hvalue
        exact ⟨_, if_neg hvalue⟩
  · rw [BuyerEntry.filled, if_neg hseat]
    obtain ⟨done, current⟩ := state
    obtain ⟨done', current'⟩ := state'
    simp only [shown, Prod.mk.injEq] at h
    cases current with
    | none =>
      rw [readEntry_before hseat] at hread
      cases hread
    | some begun =>
      cases current' with
      | none => cases h.2
      | some begun' => exact readEntry_within_filled hseat done' begun'

/-! ## Two manifests with one mask -/

/-- What is shown after every entry that is read. -/
theorem fold_shown (hmask : entries.map BuyerEntry.masked = entries'.map BuyerEntry.masked)
    (h : shown state = shown state') (hread : entries.foldlM readEntry state = .ok next)
    (hread' : entries'.foldlM readEntry state' = .ok next') : shown next = shown next' := by
  induction entries generalizing entries' state state' with
  | nil =>
    obtain rfl := List.map_eq_nil_iff.mp hmask.symm
    cases hread
    cases hread'
    exact h
  | cons entry rest ih =>
    obtain ⟨entry', rest', rfl, hentry, hrest⟩ := List.map_eq_cons_iff.mp hmask.symm
    rw [List.foldlM_cons] at hread hread'
    obtain ⟨mid, hmid, hread⟩ := Except.bind_ok.mp hread
    obtain ⟨mid', hmid', hread'⟩ := Except.bind_ok.mp hread'
    refine ih hrest.symm ?_ hread hread'
    rw [readEntry_shown hmid, readEntry_shown hmid', h, ← showEntry_masked, ← hentry,
      showEntry_masked]

/-- What the end of a manifest finds wrong reads no more than is shown. -/
theorem finish_shown (h : shown state = shown state') (hend : finish state heldSeatIds = .error f) :
    finish state' heldSeatIds = .error f := by
  rcases flush_shown h with ⟨f', hf, hf'⟩ | ⟨next, next', hf, hf', hnext, -⟩
  · simp only [finish, hf, bind, Except.bind] at hend
    simp only [finish, hf', bind, Except.bind]
    exact hend
  · have hseats : next.1.map ManifestRecord.seatId = next'.1.map ManifestRecord.seatId :=
      congrArg Prod.fst hnext
    have hheld : assertManifestMatchesHold next.1 heldSeatIds =
        assertManifestMatchesHold next'.1 heldSeatIds := by
      simp only [assertManifestMatchesHold, hseats]
    simp only [finish, hf, bind, Except.bind, hseats, hheld] at hend
    simp only [finish, hf', bind, Except.bind]
    split at hend
    · rename_i htwice
      rw [if_pos htwice]
      exact hend
    · rename_i honce
      rw [if_neg honce]
      cases hassert : assertManifestMatchesHold next'.1 heldSeatIds with
      | error f' =>
        rw [hassert] at hend
        exact hend
      | ok u =>
        rw [hassert] at hend
        cases hend

/-- A manifest made up from its mask: its first entries are read, and the others have no value. -/
def madeUp (entries : List BuyerEntry) (index : ℕ) : List BuyerEntry :=
  (entries.take index).map BuyerEntry.filled ++ (entries.drop index).map BuyerEntry.masked

theorem masked_madeUp (entries : List BuyerEntry) (index : ℕ) :
    (madeUp entries index).map BuyerEntry.masked = entries.map BuyerEntry.masked := by
  have hfilled : BuyerEntry.masked ∘ BuyerEntry.filled = BuyerEntry.masked :=
    funext BuyerEntry.masked_filled
  have hmasked : BuyerEntry.masked ∘ BuyerEntry.masked = BuyerEntry.masked :=
    funext BuyerEntry.masked_masked
  rw [madeUp, List.map_append, List.map_map, List.map_map, hfilled, hmasked, ← List.map_append,
    List.take_append_drop]

theorem madeUp_congr (hmask : entries.map BuyerEntry.masked = entries'.map BuyerEntry.masked)
    (index : ℕ) : madeUp entries index = madeUp entries' index := by
  have hfilled : ∀ entries : List BuyerEntry, entries.map BuyerEntry.filled =
      (entries.map BuyerEntry.masked).map BuyerEntry.filled := by
    intro entries
    rw [List.map_map]
    exact List.map_congr_left fun entry _ => entry.filled_masked.symm
  rw [madeUp, madeUp, List.map_take, List.map_take, List.map_drop, List.map_drop, hfilled, hmask,
    ← hfilled]

/-- The made-up manifest that is refused as a given one, at the same entry. -/
theorem fold_refused {index : ℕ} (h : shown state = shown state')
    (hread : entries.foldlM readEntry state = .error f)
    (hat : refusedEntry state entries = some index) :
    index < entries.length ∧ (madeUp entries index).foldlM readEntry state' = .error f := by
  induction entries generalizing state state' index with
  | nil => cases hat
  | cons entry rest ih =>
    rw [List.foldlM_cons] at hread
    cases hentry : readEntry state entry with
    | error f' =>
      simp only [refusedEntry, hentry, Option.some.injEq] at hat
      obtain rfl := hat
      rw [hentry] at hread
      obtain rfl := Except.error.inj hread
      refine ⟨Nat.succ_pos _, ?_⟩
      simp only [madeUp, List.take_zero, List.drop_zero, List.map_nil, List.nil_append, List.map_cons,
        List.foldlM_cons, readEntry_masked h hentry]
      rfl
    | ok next =>
      simp only [refusedEntry, hentry, Option.map_eq_some_iff] at hat
      obtain ⟨index, hat, rfl⟩ := hat
      rw [hentry] at hread
      obtain ⟨next', hnext', hshown⟩ := readEntry_filled h hentry
      obtain ⟨hlt, hrest⟩ := ih hshown hread hat
      refine ⟨Nat.succ_lt_succ hlt, ?_⟩
      simp only [madeUp, List.take_succ_cons, List.drop_succ_cons, List.map_cons, List.cons_append,
        List.foldlM_cons, hnext']
      exact hrest

/-- The made-up manifest that is read as far as a given one. -/
theorem fold_filled (h : shown state = shown state') (hread : entries.foldlM readEntry state = .ok next) :
    ∃ next', (madeUp entries entries.length).foldlM readEntry state' = .ok next' ∧
      shown next = shown next' := by
  induction entries generalizing state state' with
  | nil =>
    cases hread
    exact ⟨state', rfl, h⟩
  | cons entry rest ih =>
    rw [List.foldlM_cons] at hread
    obtain ⟨mid, hmid, hread⟩ := Except.bind_ok.mp hread
    obtain ⟨mid', hmid', hshown⟩ := readEntry_filled h hmid
    obtain ⟨next', hrest, hnext⟩ := ih hshown hread
    refine ⟨next', ?_, hnext⟩
    simp only [madeUp, List.length_cons, List.take_succ_cons, List.drop_succ_cons, List.map_cons,
      List.cons_append, List.foldlM_cons, hmid']
    exact hrest

/-! ## The result -/

/-- What a computation fails with. -/
def failureOf {α : Type} : Except Failure α → Option Failure
  | .error f => some f
  | .ok _ => none

theorem failureOf_eq_some {α : Type} {x : Except Failure α} : failureOf x = some f ↔ x = .error f := by
  cases x <;> simp [failureOf]

/-- What the manifests made up from a mask are refused with. -/
def refusals (entries : List BuyerEntry) (heldSeatIds : List String) : List Failure :=
  (List.range (entries.length + 1)).filterMap fun index =>
    failureOf (readManifest (madeUp entries index) heldSeatIds)

theorem codes_of_masked (hmask : entries.map BuyerEntry.masked = entries'.map BuyerEntry.masked) :
    entries.map BuyerEntry.code = entries'.map BuyerEntry.code := by
  have hcodes : ∀ entries : List BuyerEntry,
      entries.map BuyerEntry.code = (entries.map BuyerEntry.masked).map BuyerEntry.code := by
    intro entries
    rw [List.map_map]
    exact List.map_congr_left fun entry _ => entry.code_masked.symm
  rw [hcodes, hmask, ← hcodes]

theorem unexpectedCodes_congr (hcodes : entries.map BuyerEntry.code = entries'.map BuyerEntry.code) :
    unexpectedCodes entries = unexpectedCodes entries' := by
  have hmap := congrArg (List.map fun code : Option String => code.getD "") hcodes
  simp only [List.map_map, Function.comp_def] at hmap
  rw [unexpectedCodes, hmap, unexpectedCodes]

/-- Every refusal is that of a made-up manifest. -/
theorem mem_refusals_of_error (h : readManifest entries heldSeatIds = .error f) :
    f ∈ refusals entries heldSeatIds := by
  suffices hmade : ∃ index ≤ entries.length,
      readManifest (madeUp entries index) heldSeatIds = .error f by
    obtain ⟨index, hle, hread⟩ := hmade
    exact List.mem_filterMap.mpr
      ⟨index, List.mem_range.mpr (Nat.lt_succ_of_le hle), failureOf_eq_some.mpr hread⟩
  have hcodes : ∀ index, entries.map BuyerEntry.code = (madeUp entries index).map BuyerEntry.code :=
    fun index => codes_of_masked (masked_madeUp entries index).symm
  by_cases hexpected : unexpectedCodes entries = []
  · have hmade : ∀ index, unexpectedCodes (madeUp entries index) = [] := fun index =>
      (unexpectedCodes_congr (hcodes index)).symm.trans hexpected
    rw [readManifest_of_expected hexpected] at h
    cases hfold : entries.foldlM readEntry ([], none) with
    | error f' =>
      -- an entry is refused: the made-up manifest has no value from there on
      rw [hfold] at h
      obtain rfl := Except.error.inj h
      obtain ⟨index, hat⟩ := Option.isSome_iff_exists.mp (refusedEntry_isSome.mpr ⟨_, hfold⟩)
      obtain ⟨hlt, hread⟩ := fold_refused rfl hfold hat
      exact ⟨index, hlt.le, by rw [readManifest_of_expected (hmade index), hread]; rfl⟩
    | ok state =>
      -- all are read: so are those of the manifest filled to its end
      rw [hfold] at h
      obtain ⟨state', hread, hshown⟩ := fold_filled rfl hfold
      exact ⟨entries.length, le_rfl, by
        rw [readManifest_of_expected (hmade _), hread]; exact finish_shown hshown h⟩
  · exact ⟨0, Nat.zero_le _, by rw [← readManifest_of_unexpected (hcodes 0) hexpected]; exact h⟩

theorem finishRefusedAt_ne_entry (state : ManifestState) (index : ℕ) :
    finishRefusedAt state heldSeatIds ≠ some (.entry index) := by
  intro h
  unfold finishRefusedAt at h
  split at h
  · cases h
  · dsimp only at h
    split at h
    · cases h
    · split at h <;> cases h

/-- Refused at one place, two manifests of one mask are refused with one failure. -/
theorem failure_eq_of_refusedAt
    (hmask : entries.map BuyerEntry.masked = entries'.map BuyerEntry.masked)
    (h : readManifest entries heldSeatIds = .error f)
    (h' : readManifest entries' heldSeatIds = .error f')
    (hat : refusedAt entries heldSeatIds = refusedAt entries' heldSeatIds) : f = f' := by
  have hcodes := codes_of_masked hmask
  by_cases hexpected : unexpectedCodes entries = []
  · have hexpected' := (unexpectedCodes_congr hcodes).symm.trans hexpected
    rw [readManifest_of_expected hexpected] at h
    rw [readManifest_of_expected hexpected'] at h'
    simp only [refusedAt, hexpected, hexpected', ne_eq, not_true_eq_false, if_false] at hat
    cases hfold : entries.foldlM readEntry ([], none) with
    | error g =>
      obtain ⟨index, hindex⟩ := Option.isSome_iff_exists.mp (refusedEntry_isSome.mpr ⟨_, hfold⟩)
      cases hfold' : entries'.foldlM readEntry ([], none) with
      | error g' =>
        obtain ⟨index', hindex'⟩ :=
          Option.isSome_iff_exists.mp (refusedEntry_isSome.mpr ⟨_, hfold'⟩)
        rw [hfold, hfold', hindex, hindex'] at hat
        obtain rfl := RefusedAt.entry.inj (Option.some.inj hat)
        -- both are refused as the one manifest made up from their mask
        have hmade := (fold_refused (rfl : shown ([], none) = shown ([], none)) hfold hindex).2
        have hmade' := (fold_refused (rfl : shown ([], none) = shown ([], none)) hfold' hindex').2
        rw [madeUp_congr hmask, hmade'] at hmade
        rw [hfold] at h
        rw [hfold'] at h'
        exact (Except.error.inj h).symm.trans ((Except.error.inj hmade).symm.trans (Except.error.inj h'))
      | ok state' =>
        rw [hfold, hfold', hindex] at hat
        exact absurd hat.symm (finishRefusedAt_ne_entry state' index)
    | ok state =>
      cases hfold' : entries'.foldlM readEntry ([], none) with
      | error g' =>
        obtain ⟨index', hindex'⟩ :=
          Option.isSome_iff_exists.mp (refusedEntry_isSome.mpr ⟨_, hfold'⟩)
        rw [hfold, hfold', hindex'] at hat
        exact absurd hat (finishRefusedAt_ne_entry state index')
      | ok state' =>
        have hshown := fold_shown hmask rfl hfold hfold'
        rw [hfold] at h
        rw [hfold'] at h'
        exact Except.error.inj ((finish_shown hshown h).symm.trans h')
  · rw [readManifest_of_unexpected hcodes hexpected, h'] at h
    exact (Except.error.inj h).symm

/-- **A refused manifest tells no more than its codes and its seats.** -/
theorem manifest_refusal_reveals_nothing
    (hmask : entries.map BuyerEntry.masked = entries'.map BuyerEntry.masked)
    (heldSeatIds : List String) :
    (∀ f f', readManifest entries heldSeatIds = .error f →
      readManifest entries' heldSeatIds = .error f' →
        refusedAt entries heldSeatIds = refusedAt entries' heldSeatIds → f = f') ∧
    refusals entries heldSeatIds = refusals entries' heldSeatIds ∧
    ∀ f, f ∈ refusals entries heldSeatIds ↔
      ∃ other, other.map BuyerEntry.masked = entries.map BuyerEntry.masked ∧
        readManifest other heldSeatIds = .error f := by
  have hcongr : ∀ {entries entries' : List BuyerEntry},
      entries.map BuyerEntry.masked = entries'.map BuyerEntry.masked →
        refusals entries heldSeatIds = refusals entries' heldSeatIds := by
    intro entries entries' hmask
    have hlength : entries.length = entries'.length := by
      simpa only [List.length_map] using congrArg List.length hmask
    simp only [refusals, hlength, madeUp_congr hmask]
  refine ⟨fun f f' h h' hat => failure_eq_of_refusedAt hmask h h' hat, hcongr hmask, fun f => ?_⟩
  constructor
  · intro hmem
    obtain ⟨index, -, hread⟩ := List.mem_filterMap.mp hmem
    exact ⟨madeUp entries index, masked_madeUp entries index, failureOf_eq_some.mp hread⟩
  · rintro ⟨other, hother, hread⟩
    rw [← hcongr hother]
    exact mem_refusals_of_error hread

/-- Two passengers of one seat, neither of whose ages is a number. -/
theorem manifest_refusal_reveals_nothing_pair :
    refusals [⟨some "SEAT_ID", some "U3A"⟩, ⟨some "NAME", some "Asha"⟩, ⟨some "AGE", some "old"⟩]
        ["U3A"] =
      refusals [⟨some "SEAT_ID", some "U3A"⟩, ⟨some "NAME", some "Ravi"⟩, ⟨some "AGE", some "-"⟩]
        ["U3A"] :=
  (manifest_refusal_reveals_nothing (by decide) ["U3A"]).2.1

end TransitBpp
