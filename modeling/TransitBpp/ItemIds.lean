import TransitBpp.Dates

/-!
# Item ids

A service id may hold hyphens and dates, and may itself look like the tail of an item id. `Splits`
is what a match of `/^RSV-(.+)-(\d{4}-\d{2}-\d{2})-([A-Z0-9_]+)$/` is, whatever an engine tries
first; `parseReservedItemId_iff` says that an id has one match at most and that this is the one
the parser answers.
-/

namespace TransitBpp

open Js

variable {itemId : String} {item : ReservedItem}

/-- The text of an id's three parts. -/
def ReservedItem.text (item : ReservedItem) : List Char :=
  "RSV-".toList ++ (item.serviceId.toList ++
    '-' :: (item.travelDate.toList ++ '-' :: item.serviceClass.toList))

/-- Three parts an item id can have. -/
structure ReservedItem.WellFormed (item : ReservedItem) : Prop where
  /-- the service is something -/
  service : item.serviceId ≠ ""
  /-- that `.` matches -/
  line : ∀ c ∈ item.serviceId.toList, isLineTerminator c = false
  /-- the date has its form -/
  date : (calendarDate item.travelDate).isSome
  /-- the class is something -/
  serviceClass : item.serviceClass ≠ ""
  /-- over the letters of a class -/
  chars : ∀ c ∈ item.serviceClass.toList, isClassChar c = true

/-- A match of the pattern, by what its three groups hold. -/
structure Splits (itemId : String) (item : ReservedItem) : Prop where
  /-- the groups make up the whole id -/
  text : itemId.toList = item.text
  /-- each group matches -/
  parts : item.WellFormed

/-- A travel date is ten characters long. -/
theorem length_of_calendarDate {travelDate : String} (h : (calendarDate travelDate).isSome) :
    travelDate.toList.length = 10 := by
  obtain ⟨⟨year, month, day⟩, hdate⟩ := Option.isSome_iff_exists.mp h
  obtain ⟨hyear, hmonth, hday, htext⟩ := calendarDate_iff.mp hdate
  rw [htext, length_dateText hyear hmonth hday]

/-- What follows the longest run is what its length leaves. -/
theorem drop_length_takeWhile {α : Type} {p : α → Bool} (xs : List α) :
    xs.drop (xs.takeWhile p).length = xs.dropWhile p := by
  conv_lhs => rw [← @List.takeWhile_append_dropWhile _ p xs]
  exact List.drop_left' (by rw [List.takeWhile_append_dropWhile])

/-- Read backwards, an id is its class up to the last hyphen, then ten characters of date. -/
theorem Splits.reverse (h : Splits itemId item) : itemId.toList.reverse =
    item.serviceClass.toList.reverse ++ '-' :: (item.travelDate.toList.reverse ++
      '-' :: (item.serviceId.toList.reverse ++ "RSV-".toList.reverse)) := by
  rw [h.text, ReservedItem.text]
  simp only [List.reverse_append, List.reverse_cons, List.append_assoc, List.cons_append,
    List.nil_append]

/-- The parser finds a match. -/
theorem Splits.parse (h : Splits itemId item) : parseReservedItemId itemId = some item := by
  have hclass : (itemId.toList.reverse.takeWhile isClassChar).reverse = item.serviceClass.toList := by
    rw [h.reverse, List.takeWhile_append_of_pos, List.takeWhile_cons_of_neg (by decide),
      List.append_nil, List.reverse_reverse]
    intro c hc
    exact h.parts.chars c (List.mem_reverse.mp hc)
  have hlength := length_of_calendarDate h.parts.date
  have hdate : (item.travelDate.toList.reverse).length = 10 := by
    rw [List.length_reverse, hlength]
  have hrest : itemId.toList.reverse.drop item.serviceClass.toList.length =
      '-' :: (item.travelDate.toList.reverse ++
        '-' :: (item.serviceId.toList.reverse ++ "RSV-".toList.reverse)) := by
    rw [h.reverse, List.drop_left' (List.length_reverse)]
  have hservice : (item.serviceId.toList.reverse ++ "RSV-".toList.reverse).reverse =
      'R' :: 'S' :: 'V' :: '-' :: item.serviceId.toList := by
    rw [List.reverse_append, List.reverse_reverse, List.reverse_reverse]
    rfl
  have hclass' : item.serviceClass.toList.isEmpty = false := by
    rw [List.isEmpty_eq_false_iff]
    exact fun hnil => h.parts.serviceClass (String.toList_eq_nil_iff.mp hnil)
  have hservice' : item.serviceId.toList.isEmpty = false := by
    rw [List.isEmpty_eq_false_iff]
    exact fun hnil => h.parts.service (String.toList_eq_nil_iff.mp hnil)
  have hline : item.serviceId.toList.any isLineTerminator = false := by
    rw [List.any_eq_false]
    intro c hc
    rw [h.parts.line c hc]
    exact Bool.false_ne_true
  simp only [parseReservedItemId, hclass, hrest, List.take_left' hdate, List.drop_left' hdate,
    hservice, List.reverse_reverse, String.ofList_toList, h.parts.date, hclass', hservice', hline]
  rfl

/-- What the parser answers is a match. -/
theorem splits_of_parse (h : parseReservedItemId itemId = some item) : Splits itemId item := by
  simp only [parseReservedItemId] at h
  split at h
  · rename_i rest hclass
    split at h
    · rename_i more hdate
      split at h
      · rename_i serviceId hservice
        split at h
        · rename_i hchecks
          obtain rfl := Option.some.inj h
          simp only [Bool.and_eq_true, Bool.not_eq_true'] at hchecks
          obtain ⟨⟨⟨hempty, hdateOk⟩, hserviceEmpty⟩, hlines⟩ := hchecks
          rw [List.length_reverse, drop_length_takeWhile] at hclass
          refine ⟨?_, ?_, ?_, hdateOk, ?_, ?_⟩
          · -- the three pieces put together again, backwards
            have hback : itemId.toList.reverse = itemId.toList.reverse.takeWhile isClassChar ++
                '-' :: (rest.take 10 ++ '-' :: more) := by
              rw [← hdate, List.take_append_drop, ← hclass, List.takeWhile_append_dropWhile]
            have hmore : more = serviceId.reverse ++ "RSV-".toList.reverse := by
              rw [← List.reverse_inj, hservice, List.reverse_append, List.reverse_reverse,
                List.reverse_reverse]
              rfl
            generalize itemId.toList.reverse.takeWhile isClassChar = serviceClass at hback ⊢
            rw [← @List.reverse_reverse _ itemId.toList, congrArg List.reverse hback, hmore]
            simp only [ReservedItem.text, String.toList_ofList, List.reverse_append,
              List.reverse_cons, List.reverse_reverse, List.append_assoc, List.cons_append,
              List.nil_append]
          · intro hnil
            rw [← String.toList_eq_nil_iff, String.toList_ofList] at hnil
            rw [hnil] at hserviceEmpty
            cases hserviceEmpty
          · intro c hc
            rw [String.toList_ofList] at hc
            exact Bool.eq_false_iff.mpr (List.any_eq_false.mp hlines c hc)
          · intro hnil
            rw [← String.toList_eq_nil_iff, String.toList_ofList] at hnil
            rw [hnil] at hempty
            cases hempty
          · intro c hc
            rw [String.toList_ofList] at hc
            exact List.all_eq_true.mp List.all_takeWhile c (List.mem_reverse.mp hc)
        · cases h
      · cases h
    · cases h
  · cases h

/-- An id has at most one match, which the parser finds. -/
theorem parseReservedItemId_iff : parseReservedItemId itemId = some item ↔ Splits itemId item :=
  ⟨splits_of_parse, Splits.parse⟩

/-- An id is made of its three parts. -/
theorem reservedItemId_iff : reservedItemId item.serviceId item.travelDate item.serviceClass =
    .ok itemId ↔ (calendarDate item.travelDate).isSome ∧ itemId.toList = item.text := by
  have htext : (s!"RSV-{item.serviceId}-{item.travelDate}-{item.serviceClass}").toList =
      item.text := by
    simp only [String.toList_append, toString, List.append_assoc, ReservedItem.text]
    rfl
  rw [reservedItemId, ← htext]
  split
  · rename_i hdate
    constructor
    · intro h
      exact ⟨hdate, congrArg String.toList (Except.ok.inj h).symm⟩
    · rintro ⟨-, h⟩
      exact congrArg Except.ok (String.toList_inj.mp h).symm
  · rename_i hdate
    exact iff_of_false (fun h => by cases h) fun h => hdate h.1

/-- Parts make an id, and the id is read back as those parts. -/
theorem ReservedItem.WellFormed.roundTrip (h : item.WellFormed) : ∃ itemId,
    reservedItemId item.serviceId item.travelDate item.serviceClass = .ok itemId ∧
      parseReservedItemId itemId = some item := by
  obtain ⟨itemId, hid⟩ : ∃ itemId,
      reservedItemId item.serviceId item.travelDate item.serviceClass = .ok itemId := by
    rw [reservedItemId, if_pos h.date]
    exact ⟨_, rfl⟩
  exact ⟨itemId, hid, Splits.parse ⟨(reservedItemId_iff.mp hid).2, h⟩⟩

/-- **Item ids are unambiguous.** The parts of an id are read back as they were put in, an id that
is read is made of what was read, and ids of different parts differ. -/
theorem item_ids_unambiguous :
    (∀ item : ReservedItem, item.WellFormed →
      (reservedItemId item.serviceId item.travelDate item.serviceClass).toOption.bind
        parseReservedItemId = some item) ∧
    (∀ itemId item, parseReservedItemId itemId = some item → item.WellFormed ∧
      reservedItemId item.serviceId item.travelDate item.serviceClass = .ok itemId) ∧
    ∀ item item' : ReservedItem, item.WellFormed → item'.WellFormed →
      reservedItemId item.serviceId item.travelDate item.serviceClass =
        reservedItemId item'.serviceId item'.travelDate item'.serviceClass → item = item' := by
  refine ⟨fun item h => ?_, fun itemId item h => ?_, fun item item' h h' heq => ?_⟩
  · obtain ⟨itemId, hid, hparse⟩ := h.roundTrip
    rw [hid]
    exact hparse
  · have hsplits := splits_of_parse h
    exact ⟨hsplits.parts, reservedItemId_iff.mpr ⟨hsplits.parts.date, hsplits.text⟩⟩
  · obtain ⟨itemId, hid, hparse⟩ := h.roundTrip
    obtain ⟨itemId', hid', hparse'⟩ := h'.roundTrip
    obtain rfl := Except.ok.inj (hid.symm.trans (heq.trans hid'))
    exact Option.some.inj (hparse.symm.trans hparse')

/-- A service id that itself ends like an item id. -/
theorem item_ids_unambiguous_nested : (reservedItemId "S-2026-09-10-AIRAVAT" "2026-09-11"
    "AIRAVAT_CLUB_CLASS_2").toOption.bind parseReservedItemId =
      some ⟨"S-2026-09-10-AIRAVAT", "2026-09-11", "AIRAVAT_CLUB_CLASS_2"⟩ := by
  refine item_ids_unambiguous.1 ⟨"S-2026-09-10-AIRAVAT", "2026-09-11", "AIRAVAT_CLUB_CLASS_2"⟩
    ⟨by decide, ?_, rfl, by decide, ?_⟩
  · simp [isLineTerminator]
  · simp [isClassChar]

end TransitBpp
