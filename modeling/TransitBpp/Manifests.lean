import TransitBpp.Gregorian
import TransitBpp.Manifest

/-!
# The manifest as a language

What `parseManifest` accepts, as a grammar: records that each begin with a `SEAT_ID`, each with a
name, over four codes. The ages are a parameter of the grammar, because the parser reads them with
`Number`, which takes more than a numeral: `parseManifest_ok_iff` is about the ages it does take,
and `manifest_grammar_iff` says when they are the ages the grammar should have.
-/

namespace TransitBpp

open Js

/-! ## Numerals -/

/-- A decimal numeral of a whole number from 0 to 130. -/
def IsAge (value : Option String) : Prop :=
  ∃ s n k, value = some s ∧ digits 10 s.toList = some (n, k + 1) ∧ n ≤ 130

/-- What `Number` takes for a whole number from 0 to 130. -/
def ReadsAge (value : Option String) : Prop := (wholeUpTo 130 value).isSome

/-- A numeral has no space to trim. -/
theorem trim_digits {cs : List Char} {n k : ℕ} (h : digits 10 cs = some (n, k)) : trim cs = cs := by
  have hspace : ∀ c ∈ cs, isSpace c = false := by
    intro c hc
    have hrange := toNat_of_digits h hc
    simp only [isSpace, Bool.or_eq_false_iff, Bool.and_eq_false_iff, beq_eq_false_iff_ne,
      decide_eq_false_iff_not]
    omega
  have hdrop : ∀ xs : List Char, (∀ c ∈ xs, isSpace c = false) → xs.dropWhile isSpace = xs := by
    intro xs hxs
    cases xs with
    | nil => rfl
    | cons c xs => rw [List.dropWhile_cons_of_neg]; simp [hxs c (List.mem_cons_self ..)]
  rw [trim, hdrop cs hspace, hdrop _ fun c hc => hspace c (List.mem_reverse.mp hc),
    List.reverse_reverse]

theorem takeWhile_of_forall {α : Type} {p : α → Bool} {xs : List α} (h : ∀ x ∈ xs, p x = true) :
    xs.takeWhile p = xs := by
  simpa using @List.takeWhile_append_of_pos _ p xs [] h

/-- A numeral is its own mantissa. -/
theorem decimal_digits {cs : List Char} {n k : ℕ} (h : digits 10 cs = some (n, k + 1)) :
    decimal cs = some (n : ℚ) := by
  have hne : ∀ c ∈ cs, c ≠ '+' ∧ c ≠ '-' ∧ c ≠ 'e' ∧ c ≠ 'E' ∧ c ≠ '.' := by
    intro c hc
    have hrange := toNat_of_digits h hc
    refine ⟨?_, ?_, ?_, ?_, ?_⟩ <;> rintro rfl <;> revert hrange <;> decide
  have hmantissa : mantissa cs = some (n : ℚ) := by
    have hwhole : cs.takeWhile (fun c => c ≠ '.') = cs := by
      refine takeWhile_of_forall fun c hc => ?_
      simpa using (hne c hc).2.2.2.2
    rw [mantissa]
    simp only [hwhole, h, List.drop_eq_nil_of_le (Nat.le_succ _), digits_nil]
    rw [if_neg (by omega)]
    simp
  obtain ⟨c, rest, rfl⟩ : ∃ c rest, cs = c :: rest := by
    cases cs with
    | nil => cases h
    | cons c rest => exact ⟨c, rest, rfl⟩
  have hhead := hne c (List.mem_cons_self ..)
  have hbase : (c :: rest).takeWhile (fun c => c ≠ 'e' ∧ c ≠ 'E') = c :: rest := by
    refine takeWhile_of_forall fun c hc => ?_
    simpa using ⟨(hne c hc).2.2.1, (hne c hc).2.2.2.1⟩
  have hsign : (c :: rest).head? ≠ some '-' := by
    rw [List.head?_cons]
    exact fun heq => hhead.2.1 (Option.some.inj heq)
  rw [decimal, if_neg hsign]
  · rw [hbase, List.drop_length]
    exact hmantissa
  · intro r heq
    exact hhead.1 (List.cons.inj heq).1
  · intro r heq
    exact hhead.2.1 (List.cons.inj heq).1

/-- A double is nearest to itself. -/
theorem roundsTo_self (n : ℕ) : roundsTo n n = true := by
  rw [roundsTo]
  split
  · rename_i h
    subst h
    norm_num
  · dsimp only
    have hup : (0 : ℚ) ≤ 2 ^ n.log2 / 2 ^ 53 := by positivity
    simp only [Bool.and_eq_true, decide_eq_true_eq]
    refine ⟨?_, by linarith⟩
    split <;> linarith

/-- A numeral is read as what it says. -/
theorem wholeUpTo_of_digits {s : String} {n k : ℕ} (h : digits 10 s.toList = some (n, k + 1))
    (hn : n ≤ 130) : wholeUpTo 130 (some s) = some n := by
  have hcheck : (⌊(n : ℚ) + 1 / 2⌋.toNat ≤ 130 ∧ roundsTo n ⌊(n : ℚ) + 1 / 2⌋.toNat = true) ∧
      ⌊(n : ℚ) + 1 / 2⌋.toNat = n := by
    have hfloor : ⌊(n : ℚ) + 1 / 2⌋.toNat = n := by
      have : ⌊(n : ℚ) + 1 / 2⌋ = n := by
        rw [Int.floor_eq_iff]
        constructor <;> push_cast <;> linarith
      rw [this, Int.toNat_natCast]
    rw [hfloor]
    exact ⟨⟨hn, roundsTo_self n⟩, rfl⟩
  rw [wholeUpTo, Option.map_some, trim_digits h]
  have hdecimal := decimal_digits h
  split
  · rename_i heq
    cases heq
  · rename_i heq
    rw [Option.some.inj heq] at h
    cases h
  · rename_i x cs heq
    rw [Option.some.inj heq] at h hdecimal
    -- a digit after the first zero, so no radix
    have hrange := toNat_of_digits h (List.mem_cons_of_mem _ (List.mem_cons_self ..))
    have hx : ∀ y : Char, y.toNat < 48 ∨ 57 < y.toNat → x ≠ y := by
      rintro y hy rfl
      omega
    rw [if_neg (by simp [hx 'x' (by decide), hx 'X' (by decide)]),
      if_neg (by simp [hx 'o' (by decide), hx 'O' (by decide)]),
      if_neg (by simp [hx 'b' (by decide), hx 'B' (by decide)]), hdecimal]
    simp only [Option.bind_some]
    rw [if_pos hcheck.1, hcheck.2]
  · rename_i cs _ _ heq
    rw [← Option.some.inj heq, hdecimal]
    simp only [Option.bind_some]
    rw [if_pos hcheck.1, hcheck.2]

theorem IsAge.reads {value : Option String} (h : IsAge value) : ReadsAge value := by
  obtain ⟨s, n, k, rfl, hdigits, hn⟩ := h
  rw [ReadsAge, wholeUpTo_of_digits hdigits hn]
  rfl

/-! ## The grammar -/

/-- A record as it is sent: the seat it begins with, and the entries up to the next. -/
structure Segment : Type where
  /-- the value of its `SEAT_ID` -/
  seatId : String
  /-- the entries that follow -/
  rest : List BuyerEntry

namespace Segment

/-- All its entries. -/
def entries (segment : Segment) : List BuyerEntry := ⟨some "SEAT_ID", some segment.seatId⟩ :: segment.rest

/-- What every entry of a record is held to, and the seat it begins with. -/
structure Open (ages : Option String → Prop) (segment : Segment) : Prop where
  /-- it begins with a seat -/
  seat : segment.seatId ≠ ""
  /-- what follows is of one of three codes -/
  codes : ∀ e ∈ segment.rest, e.code = some "NAME" ∨ e.code = some "AGE" ∨ e.code = some "GENDER"
  /-- no name is empty -/
  names : ∀ e ∈ segment.rest, e.code = some "NAME" → ∃ name, e.value = some name ∧ name ≠ ""
  /-- the ages are ages -/
  ages : ∀ e ∈ segment.rest, e.code = some "AGE" → ages e.value
  /-- the genders are genders -/
  genders : ∀ e ∈ segment.rest, e.code = some "GENDER" →
    ∃ gender : ManifestGender, e.value = some gender.wire

/-- A record of the grammar: one that has a name as well. -/
structure Valid (ages : Option String → Prop) (segment : Segment) : Prop extends Open ages segment where
  /-- somebody is in the seat -/
  named : ∃ e ∈ segment.rest, e.code = some "NAME"

end Segment

/-- What an entry adds to the record begun; a later one replaces an earlier. -/
def PartialRecord.after (current : PartialRecord) (entry : BuyerEntry) : PartialRecord :=
  if entry.code = some "NAME" then { current with name := entry.value }
  else if entry.code = some "AGE" then { current with age := wholeUpTo 130 entry.value }
  else if entry.code = some "GENDER" then
    { current with gender := entry.value.bind ManifestGender.ofWire }
  else current

/-- What has been read once the entries of a record have. -/
def Segment.read (segment : Segment) : PartialRecord :=
  segment.rest.foldl PartialRecord.after ⟨segment.seatId, none, none, none⟩

/-- The record it makes. -/
def Segment.record (segment : Segment) : ManifestRecord :=
  ⟨segment.seatId, segment.read.name.getD "", segment.read.age, segment.read.gender⟩

/-- The manifests of the grammar: records one after another, of different seats. -/
def Follows (ages : Option String → Prop) (segments : List Segment) (entries : List BuyerEntry) :
    Prop :=
  entries = segments.flatMap Segment.entries ∧ (∀ segment ∈ segments, segment.Valid ages) ∧
    (segments.map Segment.seatId).Nodup

variable {ages : Option String → Prop} {segment : Segment} {entry : BuyerEntry}

theorem PartialRecord.seatId_after (current : PartialRecord) (entry : BuyerEntry) :
    (current.after entry).seatId = current.seatId := by
  rw [PartialRecord.after]
  split_ifs <;> rfl

/-- A record that goes on by one entry. -/
theorem Segment.read_snoc (seatId : String) (rest : List BuyerEntry) (entry : BuyerEntry) :
    (Segment.mk seatId (rest ++ [entry])).read = (Segment.mk seatId rest).read.after entry := by
  rw [Segment.read, Segment.read, List.foldl_append, List.foldl_cons, List.foldl_nil]

theorem Segment.seatId_read (segment : Segment) : segment.read.seatId = segment.seatId := by
  obtain ⟨seatId, rest⟩ := segment
  induction rest using List.reverseRecOn with
  | nil => rfl
  | append_singleton rest entry ih =>
    rw [Segment.read_snoc, PartialRecord.seatId_after]
    exact ih

/-- A record has a name exactly if one of its entries gives it one. -/
theorem Segment.Open.name_isSome (h : segment.Open ages) :
    segment.read.name.isSome ↔ ∃ e ∈ segment.rest, e.code = some "NAME" := by
  obtain ⟨seatId, rest⟩ := segment
  replace h := h.names
  induction rest using List.reverseRecOn with
  | nil => simp [Segment.read]
  | append_singleton rest entry ih =>
    have hrest := ih fun e he => h e (List.mem_append_left _ he)
    rw [Segment.read_snoc, PartialRecord.after]
    by_cases hname : entry.code = some "NAME"
    · obtain ⟨name, hvalue, -⟩ := h entry (by simp) hname
      rw [if_pos hname]
      refine iff_of_true ?_ ⟨entry, by simp, hname⟩
      dsimp only
      rw [hvalue]
      rfl
    · rw [if_neg hname]
      split_ifs <;> simpa [hname] using hrest

/-- And an age exactly if one of its entries gives it one. -/
theorem Segment.Open.age_isSome (h : segment.Open ReadsAge) :
    segment.read.age.isSome ↔ ∃ e ∈ segment.rest, e.code = some "AGE" := by
  obtain ⟨seatId, rest⟩ := segment
  replace h := h.ages
  induction rest using List.reverseRecOn with
  | nil => simp [Segment.read]
  | append_singleton rest entry ih =>
    have hrest := ih fun e he => h e (List.mem_append_left _ he)
    rw [Segment.read_snoc, PartialRecord.after]
    by_cases hage : entry.code = some "AGE"
    · have hreads := h entry (by simp) hage
      rw [if_neg (by rw [hage]; decide), if_pos hage]
      exact iff_of_true hreads ⟨entry, by simp, hage⟩
    · rw [if_neg hage]
      split_ifs <;> simpa [hage] using hrest

/-! ## Reading one record -/

/-- The record read so far is finished as soon as it is named. -/
theorem Segment.Valid.flush (h : segment.Valid ages) (done : List ManifestRecord) :
    TransitBpp.flush (done, some segment.read) = .ok (done ++ [segment.record], none) := by
  obtain ⟨name, hname⟩ := Option.isSome_iff_exists.mp (h.toOpen.name_isSome.mpr h.named)
  rw [TransitBpp.flush, Segment.record, ← segment.seatId_read]
  dsimp only
  rw [hname]
  rfl

/-- A record that could be finished has a name. -/
theorem Segment.Open.valid_of_flush (h : segment.Open ages) {done : List ManifestRecord}
    {state : ManifestState} (hflush : TransitBpp.flush (done, some segment.read) = .ok state) :
    segment.Valid ages := by
  refine ⟨h, h.name_isSome.mp ?_⟩
  cases hname : segment.read.name with
  | none =>
    simp only [TransitBpp.flush, hname] at hflush
    cases hflush
  | some name => rfl

/-- An entry of a record. -/
theorem readEntry_after (current : PartialRecord) (done : List ManifestRecord)
    (hcode : entry.code = some "NAME" ∨ entry.code = some "AGE" ∨ entry.code = some "GENDER")
    (hname : entry.code = some "NAME" → ∃ name, entry.value = some name ∧ name ≠ "")
    (hage : entry.code = some "AGE" → ReadsAge entry.value)
    (hgender : entry.code = some "GENDER" →
      ∃ gender : ManifestGender, entry.value = some gender.wire) :
    readEntry (done, some current) entry = .ok (done, some (current.after entry)) := by
  rw [readEntry, PartialRecord.after]
  rcases hcode with h | h | h
  · obtain ⟨name, hvalue, hne⟩ := hname h
    simp [h, hvalue, hne, pure, Except.pure]
  · obtain ⟨age, hread⟩ := Option.isSome_iff_exists.mp (hage h)
    simp [h, hread, pure, Except.pure]
  · obtain ⟨gender, hvalue⟩ := hgender h
    simp [h, hvalue, pure, Except.pure]

/-- The entries of a record, once what was begun before it is finished. -/
theorem Segment.Open.fold (h : segment.Open ReadsAge) {state : ManifestState}
    {done : List ManifestRecord} (hflush : flush state = .ok (done, none)) :
    segment.entries.foldlM readEntry state = .ok (done, some segment.read) := by
  have hfirst : readEntry state ⟨some "SEAT_ID", some segment.seatId⟩ =
      .ok (done, some ⟨segment.seatId, none, none, none⟩) := by
    simp [readEntry, hflush, h.seat, bind, Except.bind, pure, Except.pure]
  have hrest : ∀ (rest : List BuyerEntry) (current : PartialRecord), (∀ e ∈ rest, e ∈ segment.rest) →
      rest.foldlM readEntry (done, some current) =
        (.ok (done, some (rest.foldl PartialRecord.after current)) : Except Failure _) := by
    intro rest
    induction rest with
    | nil => exact fun _ _ => rfl
    | cons e rest ih =>
      intro current hsub
      have he := hsub e (List.mem_cons_self ..)
      rw [List.foldlM_cons, readEntry_after current done (h.codes e he) (h.names e he)
        (h.ages e he) (h.genders e he)]
      exact ih _ fun e he => hsub e (List.mem_cons_of_mem _ he)
  rw [Segment.entries, List.foldlM_cons, hfirst]
  exact hrest segment.rest _ fun _ he => he

/-- The entries of any number of records. -/
theorem fold_segments {segments : List Segment} (h : ∀ segment ∈ segments, segment.Valid ReadsAge) :
    ∀ {state : ManifestState} {done : List ManifestRecord}, flush state = .ok (done, none) →
      ∃ state', (segments.flatMap Segment.entries).foldlM readEntry state = .ok state' ∧
        flush state' = .ok (done ++ segments.map Segment.record, none) := by
  induction segments with
  | nil =>
    intro state done hflush
    exact ⟨state, rfl, by rw [hflush, List.map_nil, List.append_nil]⟩
  | cons segment segments ih =>
    intro state done hflush
    have hfirst := h segment (List.mem_cons_self ..)
    obtain ⟨state', hfold, hdone⟩ := ih (fun s hs => h s (List.mem_cons_of_mem _ hs))
      (hfirst.flush done)
    refine ⟨state', ?_, ?_⟩
    · rw [List.flatMap_cons, List.foldlM_append, hfirst.toOpen.fold hflush]
      exact hfold
    · rw [hdone, List.append_assoc]
      rfl

/-! ## What has been read -/

/-- What reading some entries without an error leaves: whole records, and one that is open. -/
inductive Scanned : List BuyerEntry → ManifestState → Prop where
  /-- nothing has been read -/
  | start : Scanned [] ([], none)
  /-- the last record may still go on -/
  | within {segments : List Segment} {last : Segment} :
      (∀ segment ∈ segments, segment.Valid ReadsAge) → last.Open ReadsAge →
      Scanned (segments.flatMap Segment.entries ++ last.entries)
        (segments.map Segment.record, some last.read)

/-- A `SEAT_ID` begins a record where the one before it can be finished. -/
theorem Scanned.begin {entries : List BuyerEntry} {state : ManifestState}
    (h : Scanned entries state) {done : List ManifestRecord} {current : Option PartialRecord}
    (hflush : flush state = .ok (done, current)) {seatId : String} (hseat : seatId ≠ "") :
    Scanned (entries ++ [⟨some "SEAT_ID", some seatId⟩])
      (done, some ⟨seatId, none, none, none⟩) := by
  have hopen : (Segment.mk seatId []).Open ReadsAge := ⟨hseat, by simp, by simp, by simp, by simp⟩
  cases h with
  | start =>
    obtain ⟨rfl, -⟩ := Prod.mk.inj (Except.ok.inj hflush)
    exact @Scanned.within [] ⟨seatId, []⟩ (by simp) hopen
  | @within segments last hsegments hlast =>
    have hvalid := hlast.valid_of_flush hflush
    rw [hvalid.flush] at hflush
    obtain ⟨rfl, -⟩ := Prod.mk.inj (Except.ok.inj hflush)
    have hscanned := @Scanned.within (segments ++ [last]) ⟨seatId, []⟩ (by
      intro segment hsegment
      rcases List.mem_append.mp hsegment with hsegment | hsegment
      · exact hsegments segment hsegment
      · rw [List.mem_singleton.mp hsegment]
        exact hvalid) hopen
    rw [List.map_append, List.flatMap_append, List.map_singleton, List.flatMap_singleton] at hscanned
    exact hscanned

/-- Any other entry goes on with the open record. -/
theorem Scanned.continue {segments : List Segment} {last : Segment}
    (hsegments : ∀ segment ∈ segments, segment.Valid ReadsAge)
    (hnext : (Segment.mk last.seatId (last.rest ++ [entry])).Open ReadsAge) :
    Scanned (segments.flatMap Segment.entries ++ last.entries ++ [entry])
      (segments.map Segment.record, some (last.read.after entry)) := by
  have hscanned := Scanned.within hsegments hnext
  rw [Segment.read_snoc, Segment.entries, ← List.cons_append, ← List.append_assoc] at hscanned
  exact hscanned

/-- Reading one more entry. -/
theorem Scanned.step {entries : List BuyerEntry} {state state' : ManifestState}
    (h : Scanned entries state) (hcode : entry.code.getD "" ∈ acceptedCodes)
    (hread : readEntry state entry = .ok state') : Scanned (entries ++ [entry]) state' := by
  obtain ⟨code, value⟩ := entry
  obtain ⟨code, rfl⟩ : ∃ text, code = some text := by
    cases code with
    | none => simp [acceptedCodes] at hcode
    | some text => exact ⟨text, rfl⟩
  rw [readEntry] at hread
  simp only [Option.getD_some] at hread hcode
  by_cases hseat : code = "SEAT_ID"
  · subst hseat
    rw [if_pos rfl] at hread
    obtain ⟨⟨done, current⟩, hflush, hrest⟩ := Except.bind_ok.mp hread
    dsimp only at hrest
    split at hrest
    · cases hrest
    · rename_i hvalue
      obtain rfl := Except.ok.inj hrest
      cases value with
      | none => exact absurd rfl hvalue
      | some seatId => exact h.begin hflush hvalue
  · rw [if_neg hseat] at hread
    cases h with
    | start => cases hread
    | @within segments last hsegments hlast =>
      -- what the entry must be for the record to stay one of the grammar
      have hnext : ∀ (hcodes : code = "NAME" ∨ code = "AGE" ∨ code = "GENDER")
          (hname : code = "NAME" → ∃ name, value = some name ∧ name ≠ "")
          (hage : code = "AGE" → ReadsAge value)
          (hgender : code = "GENDER" → ∃ gender : ManifestGender, value = some gender.wire),
          (Segment.mk last.seatId (last.rest ++ [⟨some code, value⟩])).Open ReadsAge := by
        intro hcodes hname hage hgender
        refine ⟨hlast.seat, ?_, ?_, ?_, ?_⟩ <;> intro e he <;>
          rcases List.mem_append.mp he with he | he
        · exact hlast.codes e he
        · simpa [List.mem_singleton.mp he] using hcodes
        · exact hlast.names e he
        · simpa [List.mem_singleton.mp he] using hname
        · exact hlast.ages e he
        · simpa [List.mem_singleton.mp he] using hage
        · exact hlast.genders e he
        · simpa [List.mem_singleton.mp he] using hgender
      have hstep : ∀ current, current = last.read.after ⟨some code, value⟩ →
          (Segment.mk last.seatId (last.rest ++ [⟨some code, value⟩])).Open ReadsAge →
            Scanned (segments.flatMap Segment.entries ++ last.entries ++ [⟨some code, value⟩])
              (segments.map Segment.record, some current) := by
        rintro _ rfl hopen
        exact Scanned.continue hsegments hopen
      dsimp only at hread
      split at hread
      · rename_i hname
        subst hname
        split at hread
        · cases hread
        · rename_i hvalue
          obtain rfl := Except.ok.inj hread
          cases value with
          | none => exact absurd rfl hvalue
          | some name => exact hstep _ rfl (hnext (by simp) (by simpa using hvalue) (by simp) (by simp))
      · split at hread
        · rename_i hage
          subst hage
          split at hread
          · cases hread
          · rename_i age hvalue
            obtain rfl := Except.ok.inj hread
            have hreads : ReadsAge value := by
              rw [ReadsAge, hvalue]
              rfl
            refine hstep _ ?_ (hnext (by simp) (by simp) (fun _ => hreads) (by simp))
            simp [PartialRecord.after, hvalue]
        · rename_i hname hage
          split at hread
          · rename_i hgender
            subst hgender
            split at hread
            · cases hread
            · rename_i gender hvalue
              obtain rfl := Except.ok.inj hread
              have hwire : value = some gender.wire := by
                cases value with
                | none => cases hvalue
                | some text => exact congrArg some (ManifestGender.wire_of_ofWire hvalue).symm
              refine hstep _ ?_ (hnext (by simp) (by simp) (by simp) fun _ => ⟨gender, hwire⟩)
              simp [PartialRecord.after, hwire]
          · rename_i hgender
            simp only [acceptedCodes, List.mem_cons, List.not_mem_nil, or_false] at hcode
            tauto

/-- Reading any number of entries. -/
theorem scanned_of_fold {entries : List BuyerEntry} : ∀ {state : ManifestState},
    (∀ e ∈ entries, e.code.getD "" ∈ acceptedCodes) →
      entries.foldlM readEntry ([], none) = .ok state → Scanned entries state := by
  induction entries using List.reverseRecOn with
  | nil =>
    intro state _ h
    obtain rfl := Except.ok.inj h
    exact .start
  | append_singleton entries entry ih =>
    intro state hcodes h
    rw [List.foldlM_append] at h
    obtain ⟨before, hbefore, hlast⟩ := Except.bind_ok.mp h
    rw [List.foldlM_cons] at hlast
    obtain ⟨after, hread, hafter⟩ := Except.bind_ok.mp hlast
    obtain rfl := Except.ok.inj hafter
    exact (ih (fun e he => hcodes e (List.mem_append_left _ he)) hbefore).step
      (hcodes entry (List.mem_append_right _ (List.mem_singleton_self _))) hread

/-! ## What is accepted -/

/-- No code is unexpected. -/
theorem unexpected_eq_nil {entries : List BuyerEntry} :
    sort (unique ((entries.map fun entry => entry.code.getD "").filter
      fun code => code ∉ acceptedCodes)) = [] ↔ ∀ e ∈ entries, e.code.getD "" ∈ acceptedCodes := by
  rw [List.eq_nil_iff_forall_not_mem]
  constructor
  · intro h e he
    by_contra hcode
    refine h (e.code.getD "") ?_
    rw [mem_sort, mem_unique, List.mem_filter]
    exact ⟨List.mem_map_of_mem he, by simpa using hcode⟩
  · intro h code hcode
    rw [mem_sort, mem_unique, List.mem_filter] at hcode
    obtain ⟨e, he, rfl⟩ := List.mem_map.mp hcode.1
    have hnot := hcode.2
    rw [decide_eq_true_eq] at hnot
    exact hnot (h e he)

/-- The codes of the grammar are the accepted ones. -/
theorem Follows.codes {segments : List Segment} {entries : List BuyerEntry}
    (h : Follows ages segments entries) : ∀ e ∈ entries, e.code.getD "" ∈ acceptedCodes := by
  obtain ⟨rfl, hvalid, -⟩ := h
  intro e he
  obtain ⟨segment, hsegment, hmem⟩ := List.mem_flatMap.mp he
  rcases List.mem_cons.mp hmem with rfl | hrest
  · simp [acceptedCodes]
  · rcases (hvalid segment hsegment).codes e hrest with hcode | hcode | hcode <;>
      rw [hcode] <;> decide

/-- **What the parser accepts.** Exactly the manifests of the grammar whose ages `Number` takes,
and it answers a record for each of theirs. -/
theorem parseManifest_ok_iff {entries : List BuyerEntry} {records : List ManifestRecord} :
    parseManifest entries = .ok records ↔
      ∃ segments, Follows ReadsAge segments entries ∧ records = segments.map Segment.record := by
  constructor
  · intro h
    simp only [parseManifest] at h
    split at h
    · cases h
    · rename_i hcodes
      rw [not_not, unexpected_eq_nil] at hcodes
      obtain ⟨state, hfold, h⟩ := Except.bind_ok.mp h
      obtain ⟨⟨done, current⟩, hflush, h⟩ := Except.bind_ok.mp h
      dsimp only at h
      split at h
      · cases h
      · rename_i hlength
        obtain rfl := Except.ok.inj h
        have hnodup := nodup_of_length_unique (not_not.mp hlength)
        have hids : ∀ segments : List Segment,
            (segments.map Segment.record).map ManifestRecord.seatId = segments.map Segment.seatId := by
          intro segments
          rw [List.map_map]
          rfl
        cases scanned_of_fold hcodes hfold with
        | start =>
          obtain ⟨rfl, -⟩ := Prod.mk.inj (Except.ok.inj hflush)
          exact ⟨[], ⟨rfl, by simp, List.nodup_nil⟩, rfl⟩
        | @within segments last hsegments hlast =>
          have hvalid := hlast.valid_of_flush hflush
          rw [hvalid.flush] at hflush
          obtain ⟨rfl, -⟩ := Prod.mk.inj (Except.ok.inj hflush)
          refine ⟨segments ++ [last], ⟨?_, ?_, ?_⟩, ?_⟩
          · rw [List.flatMap_append, List.flatMap_singleton]
          · intro segment hsegment
            rcases List.mem_append.mp hsegment with hsegment | hsegment
            · exact hsegments segment hsegment
            · rw [List.mem_singleton.mp hsegment]
              exact hvalid
          · rw [← hids, List.map_append, List.map_singleton]
            exact hnodup
          · rw [List.map_append, List.map_singleton]
  · rintro ⟨segments, hfollows, rfl⟩
    obtain ⟨state, hfold, hflush⟩ := @fold_segments segments hfollows.2.1 ([], none) [] rfl
    rw [← hfollows.1, List.nil_append] at *
    have hids : (segments.map Segment.record).map ManifestRecord.seatId =
        segments.map Segment.seatId := by
      rw [List.map_map]
      rfl
    simp only [parseManifest]
    rw [if_neg (not_not.mpr (unexpected_eq_nil.mpr hfollows.codes)), hfold]
    change (flush state >>= _) = _
    rw [hflush]
    refine (if_neg (not_not.mpr ?_)).trans rfl
    rw [hids, length_unique hfollows.2.2]

/-! ## The ages -/

theorem Segment.Valid.mono {ages' : Option String → Prop} (h : segment.Valid ages)
    (hages : ∀ e ∈ segment.rest, e.code = some "AGE" → ages e.value → ages' e.value) :
    segment.Valid ages' :=
  ⟨⟨h.seat, h.codes, h.names, fun e he hcode => hages e he hcode (h.ages e he hcode), h.genders⟩,
    h.named⟩

theorem Follows.mono {ages' : Option String → Prop} {segments : List Segment}
    {entries : List BuyerEntry} (h : Follows ages segments entries)
    (hages : ∀ e ∈ entries, e.code = some "AGE" → ages e.value → ages' e.value) :
    Follows ages' segments entries := by
  refine ⟨h.1, fun segment hsegment => (h.2.1 segment hsegment).mono fun e he => ?_, h.2.2⟩
  refine hages e ?_
  rw [h.1]
  exact List.mem_flatMap.mpr ⟨segment, hsegment, List.mem_cons_of_mem _ he⟩

/-- Every age of a manifest is of one of its records. -/
theorem Follows.forall_age {segments : List Segment} {entries : List BuyerEntry}
    (h : Follows ages segments entries) : ∀ e ∈ entries, e.code = some "AGE" → ages e.value := by
  intro e he hcode
  rw [h.1] at he
  obtain ⟨segment, hsegment, hmem⟩ := List.mem_flatMap.mp he
  rcases List.mem_cons.mp hmem with rfl | hrest
  · simp at hcode
  · exact (h.2.1 segment hsegment).ages e hrest hcode

/-- One record for each `SEAT_ID`, in order, without an age exactly where none was sent. -/
def OneEach (segments : List Segment) (records : List ManifestRecord) : Prop :=
  List.Forall₂ (fun segment record => record.seatId = segment.seatId ∧
    (record.age = none ↔ ∀ e ∈ segment.rest, e.code ≠ some "AGE")) segments records

theorem Follows.oneEach {segments : List Segment} {entries : List BuyerEntry}
    (h : Follows ReadsAge segments entries) : OneEach segments (segments.map Segment.record) := by
  rw [OneEach, List.forall₂_map_right_iff, List.forall₂_same]
  intro segment hsegment
  refine ⟨rfl, ?_⟩
  have hage := (h.2.1 segment hsegment).toOpen.age_isSome
  rw [← not_iff_not, ← ne_eq, ← Option.isSome_iff_ne_none]
  push Not
  exact hage

/-- What reading a list of entries should come to. -/
structure ReadRight (entries : List BuyerEntry) : Prop where
  /-- it is accepted exactly if it is a manifest -/
  accepts : (∃ records, parseManifest entries = .ok records) ↔
    ∃ segments, Follows IsAge segments entries
  /-- and the records are the manifest's -/
  answers : ∀ records, parseManifest entries = .ok records →
    ∃ segments, Follows IsAge segments entries ∧ OneEach segments records

/-- **The grammar of a manifest.** A list of entries is read as it should be if and only if it is
no manifest at all, or what `Number` takes for its ages are numerals. -/
theorem manifest_grammar_iff (entries : List BuyerEntry) : ReadRight entries ↔
    ∀ segments, Follows ReadsAge segments entries →
      ∀ e ∈ entries, e.code = some "AGE" → IsAge e.value := by
  constructor
  · intro h segments hfollows
    obtain ⟨segments', hfollows', -⟩ :=
      h.answers _ (parseManifest_ok_iff.mpr ⟨segments, hfollows, rfl⟩)
    exact hfollows'.forall_age
  · intro h
    have hnumerals : ∀ segments, Follows ReadsAge segments entries →
        Follows IsAge segments entries :=
      fun segments hfollows => hfollows.mono fun e he hcode _ => h segments hfollows e he hcode
    refine ⟨⟨?_, ?_⟩, ?_⟩
    · rintro ⟨records, hparse⟩
      obtain ⟨segments, hfollows, -⟩ := parseManifest_ok_iff.mp hparse
      exact ⟨segments, hnumerals segments hfollows⟩
    · rintro ⟨segments, hfollows⟩
      refine ⟨_, parseManifest_ok_iff.mpr ⟨segments, hfollows.mono fun e _ _ hage => hage.reads, rfl⟩⟩
    · intro records hparse
      obtain ⟨segments, hfollows, rfl⟩ := parseManifest_ok_iff.mp hparse
      exact ⟨segments, hnumerals segments hfollows, hfollows.oneEach⟩

/-- An empty age is taken for no years at all. -/
theorem empty_age_is_zero : parseManifest [⟨some "SEAT_ID", some "U3A"⟩, ⟨some "NAME", some "A"⟩,
    ⟨some "AGE", some ""⟩] = .ok [⟨"U3A", "A", some 0, none⟩] ∧
    ¬ ReadRight [⟨some "SEAT_ID", some "U3A"⟩, ⟨some "NAME", some "A"⟩, ⟨some "AGE", some ""⟩] := by
  have hparse : parseManifest [⟨some "SEAT_ID", some "U3A"⟩, ⟨some "NAME", some "A"⟩,
      ⟨some "AGE", some ""⟩] = .ok [⟨"U3A", "A", some 0, none⟩] := by
    rfl
  refine ⟨hparse, fun h => ?_⟩
  obtain ⟨segments, hfollows, -⟩ := h.answers _ hparse
  obtain ⟨s, n, k, hs, hdigits, -⟩ := hfollows.forall_age ⟨some "AGE", some ""⟩ (by simp) rfl
  rw [← Option.some.inj hs] at hdigits
  cases hdigits

/-! ## Writing a manifest -/

/-- A tag as a buyer would send it back. -/
def Tag.sent (tag : Tag) : List BuyerEntry :=
  tag.list.map fun e => ⟨some e.code, some e.value⟩

/-- A record that can be written: somebody of no more than 130 years in a seat. -/
structure ManifestRecord.Complete (record : ManifestRecord) : Prop where
  /-- there is a seat -/
  seat : record.seatId ≠ ""
  /-- there is a name -/
  name : record.name ≠ ""
  /-- an age is one -/
  age : ∀ age ∈ record.age, age ≤ 130

/-- The record as it is written. -/
def ManifestRecord.written (record : ManifestRecord) : Segment where
  seatId := record.seatId
  rest := ⟨some "NAME", some record.name⟩ ::
    ((record.age.elim [] fun age => [⟨some "AGE", some (toString age)⟩]) ++
      record.gender.elim [] fun gender => [⟨some "GENDER", some gender.wire⟩])

theorem sent_manifestTagFrom (records : List ManifestRecord) :
    (manifestTagFrom records).sent =
      (records.map ManifestRecord.written).flatMap Segment.entries := by
  rw [manifestTagFrom, Tag.sent]
  simp only [List.map_flatMap, List.flatMap_map]
  refine List.flatMap_congr fun record _ => ?_
  obtain ⟨seatId, name, age, gender⟩ := record
  rcases age with _ | age <;> rcases gender with _ | gender <;> rfl

/-- An age is written as its numeral. -/
theorem isAge_toString {age : ℕ} (h : age ≤ 130) : IsAge (some (toString age)) ∧
    wholeUpTo 130 (some (toString age)) = some age := by
  have hlist : (toString age).toList = Nat.toDigits 10 age := by
    simp [toString, Nat.repr]
  obtain ⟨k, hdigits⟩ := digits_toDigits age
  obtain ⟨j, rfl⟩ : ∃ j, k = j + 1 := by
    refine Nat.exists_eq_succ_of_ne_zero fun hk => ?_
    have hlength := (digits_bound hdigits).1
    rw [hk] at hlength
    exact Nat.toDigits_ne_nil (List.eq_nil_of_length_eq_zero hlength.symm)
  rw [← hlist] at hdigits
  exact ⟨⟨_, age, j, rfl, hdigits, h⟩, wholeUpTo_of_digits hdigits h⟩

/-- What is written of a record is a record of the grammar, and is read as it was. -/
theorem ManifestRecord.Complete.written {record : ManifestRecord} (h : record.Complete) :
    record.written.Valid IsAge ∧ record.written.record = record := by
  obtain ⟨seatId, name, age, gender⟩ := record
  have hage : ∀ years, age = some years → IsAge (some (toString years)) ∧
      wholeUpTo 130 (some (toString years)) = some years :=
    fun years hyears => isAge_toString (h.age years hyears)
  have hmem : ∀ e ∈ (ManifestRecord.written ⟨seatId, name, age, gender⟩).rest,
      e = ⟨some "NAME", some name⟩ ∨ (∃ years, age = some years ∧
        e = ⟨some "AGE", some (toString years)⟩) ∨
          ∃ g : ManifestGender, e = ⟨some "GENDER", some g.wire⟩ := by
    intro e he
    simp only [ManifestRecord.written, List.mem_cons, List.mem_append] at he
    rcases he with rfl | he | he
    · exact Or.inl rfl
    · cases age with
      | none => cases he
      | some years => exact Or.inr (Or.inl ⟨years, rfl, List.mem_singleton.mp he⟩)
    · cases gender with
      | none => cases he
      | some g => exact Or.inr (Or.inr ⟨g, List.mem_singleton.mp he⟩)
  constructor
  · refine ⟨⟨h.seat, ?_, ?_, ?_, ?_⟩, ⟨_, List.mem_cons_self .., rfl⟩⟩ <;> intro e he <;>
      rcases hmem e he with rfl | ⟨years, hyears, rfl⟩ | ⟨g, rfl⟩
    · exact Or.inl rfl
    · exact Or.inr (Or.inl rfl)
    · exact Or.inr (Or.inr rfl)
    · exact fun _ => ⟨name, rfl, h.name⟩
    · simp
    · simp
    · simp
    · exact fun _ => (hage years hyears).1
    · simp
    · simp
    · simp
    · exact fun _ => ⟨g, rfl⟩
  · cases age with
    | none =>
      rcases gender with _ | gender <;>
        simp [ManifestRecord.written, Segment.record, Segment.read, PartialRecord.after]
    | some years =>
      rcases gender with _ | gender <;>
        simp [ManifestRecord.written, Segment.record, Segment.read, PartialRecord.after] <;>
          exact (hage years rfl).2

/-- What is read of a record: its last name and its last age, if any. -/
theorem Segment.mem_read {seatId : String} {rest : List BuyerEntry} :
    (∀ name, (Segment.mk seatId rest).read.name = some name →
      ∃ e ∈ rest, e.code = some "NAME" ∧ e.value = some name) ∧
    ∀ age, (Segment.mk seatId rest).read.age = some age →
      ∃ e ∈ rest, e.code = some "AGE" ∧ wholeUpTo 130 e.value = some age := by
  induction rest using List.reverseRecOn with
  | nil =>
    constructor
    · intro name h
      cases h
    · intro age h
      cases h
  | append_singleton rest entry ih =>
    have hname : ∀ name, (Segment.mk seatId rest).read.name = some name →
        ∃ e ∈ rest ++ [entry], e.code = some "NAME" ∧ e.value = some name := by
      intro name h
      obtain ⟨e, he, hcode⟩ := ih.1 name h
      exact ⟨e, List.mem_append_left _ he, hcode⟩
    have hage : ∀ age, (Segment.mk seatId rest).read.age = some age →
        ∃ e ∈ rest ++ [entry], e.code = some "AGE" ∧ wholeUpTo 130 e.value = some age := by
      intro age h
      obtain ⟨e, he, hcode⟩ := ih.2 age h
      exact ⟨e, List.mem_append_left _ he, hcode⟩
    rw [Segment.read_snoc, PartialRecord.after]
    split_ifs with h₁ h₂ h₃
    · exact ⟨fun name h => ⟨entry, by simp, h₁, h⟩, hage⟩
    · exact ⟨hname, fun age h => ⟨entry, by simp, h₂, h⟩⟩
    · exact ⟨hname, hage⟩
    · exact ⟨hname, hage⟩

theorem wholeUpTo_le {bound n : ℕ} {value : Option String} (h : wholeUpTo bound value = some n) :
    n ≤ bound := by
  have hcheck : ∀ q : ℚ, (if ⌊q + 1 / 2⌋.toNat ≤ bound ∧ roundsTo q ⌊q + 1 / 2⌋.toNat = true then
      some ⌊q + 1 / 2⌋.toNat else none) = some n → n ≤ bound := by
    intro q hq
    split at hq
    · rename_i hle
      obtain rfl := Option.some.inj hq
      exact hle.1
    · cases hq
  have hdecimal : ∀ q : Option ℚ, (q.bind fun q => if ⌊q + 1 / 2⌋.toNat ≤ bound ∧
      roundsTo q ⌊q + 1 / 2⌋.toNat = true then some ⌊q + 1 / 2⌋.toNat else none) = some n →
        n ≤ bound := by
    intro q hq
    obtain ⟨q, -, hq⟩ := Option.bind_eq_some_iff.mp hq
    exact hcheck q hq
  rw [wholeUpTo] at h
  split at h
  · cases h
  · obtain rfl := Option.some.inj h
    exact Nat.zero_le bound
  · -- in each of the three radixes, and in decimal
    dsimp only at h
    repeat' split at h
    all_goals first
      | exact hdecimal _ h
      | exact absurd h (Option.some_ne_none n).symm
      | (rename_i hle
         exact Option.some.inj h ▸ hle.1)
  · exact hdecimal _ h

/-- What was read can be written. -/
theorem Segment.Valid.complete (h : segment.Valid ReadsAge) : segment.record.Complete := by
  obtain ⟨name, hname⟩ := Option.isSome_iff_exists.mp (h.toOpen.name_isSome.mpr h.named)
  obtain ⟨e, he, hcode, hvalue⟩ := Segment.mem_read.1 name hname
  obtain ⟨name', hname', hne⟩ := h.names e he hcode
  obtain rfl := Option.some.inj (hvalue.symm.trans hname')
  refine ⟨h.seat, ?_, fun age hage => ?_⟩
  · rw [Segment.record, hname]
    exact hne
  · obtain ⟨e, -, -, hread⟩ := Segment.mem_read.2 age hage
    exact wholeUpTo_le hread

/-- Records that are written are read back as they were. -/
theorem parseManifest_sent {records : List ManifestRecord}
    (hcomplete : ∀ record ∈ records, record.Complete)
    (hnodup : (records.map ManifestRecord.seatId).Nodup) :
    parseManifest (manifestTagFrom records).sent = .ok records := by
  refine parseManifest_ok_iff.mpr ⟨records.map ManifestRecord.written,
    ⟨sent_manifestTagFrom records, ?_, ?_⟩, ?_⟩
  · intro segment hsegment
    obtain ⟨record, hrecord, rfl⟩ := List.mem_map.mp hsegment
    exact (hcomplete record hrecord).written.1.mono fun _ _ _ hage => hage.reads
  · rw [List.map_map]
    exact hnodup
  · rw [List.map_map]
    refine (List.map_id' _).symm.trans (List.map_congr_left fun record hrecord => ?_)
    exact (hcomplete record hrecord).written.2.symm

/-- A manifest passes the check against a hold exactly if its seats are the hold's. -/
theorem assertManifestMatchesHold_ok {records : List ManifestRecord} {heldSeatIds : List String} :
    assertManifestMatchesHold records heldSeatIds = .ok () ↔
      ∀ seatId, seatId ∈ records.map ManifestRecord.seatId ↔ seatId ∈ heldSeatIds := by
  refine ⟨mem_iff_of_matchesHold, fun h => ?_⟩
  have hextra : sort ((unique (records.map ManifestRecord.seatId)).filter
      fun seatId => seatId ∉ heldSeatIds) = [] := by
    rw [List.eq_nil_iff_forall_not_mem]
    intro seatId hseat
    rw [mem_sort, List.mem_filter, mem_unique, decide_eq_true_eq] at hseat
    exact hseat.2 ((h seatId).mp hseat.1)
  have hmissing : heldSeatIds.filter
      (fun seatId => seatId ∉ unique (records.map ManifestRecord.seatId)) = [] := by
    rw [List.filter_eq_nil_iff]
    intro seatId hseat
    rw [decide_eq_true_eq, not_not, mem_unique]
    exact (h seatId).mpr hseat
  simp only [assertManifestMatchesHold]
  rw [if_neg (not_not.mpr hextra), if_neg (not_not.mpr hmissing)]
  rfl

/-- **The manifest round trip.** Records that are written are read back as they were, so what was
read is read again the same; and a manifest passes the check against a hold exactly if its seats
are the hold's. -/
theorem manifest_round_trip :
    (∀ records : List ManifestRecord, (∀ record ∈ records, record.Complete) →
      (records.map ManifestRecord.seatId).Nodup →
        parseManifest (manifestTagFrom records).sent = .ok records) ∧
    (∀ entries records, parseManifest entries = .ok records →
      parseManifest (manifestTagFrom records).sent = .ok records) ∧
    ∀ records heldSeatIds, assertManifestMatchesHold records heldSeatIds = .ok () ↔
      ∀ seatId, seatId ∈ records.map ManifestRecord.seatId ↔ seatId ∈ heldSeatIds := by
  refine ⟨fun records => parseManifest_sent, fun entries records h => ?_,
    fun records heldSeatIds => assertManifestMatchesHold_ok⟩
  refine parseManifest_sent (fun record hrecord => ?_) (nodup_of_parseManifest h)
  obtain ⟨segments, hfollows, rfl⟩ := parseManifest_ok_iff.mp h
  obtain ⟨segment, hsegment, rfl⟩ := List.mem_map.mp hrecord
  exact (hfollows.2.1 segment hsegment).complete

/-- Two passengers, of whom the second gave neither age nor gender. -/
theorem manifest_round_trip_pair : parseManifest (manifestTagFrom
    [⟨"U3A", "A Passenger", some 34, some .female⟩, ⟨"U3B", "B Passenger", none, none⟩]).sent =
      .ok [⟨"U3A", "A Passenger", some 34, some .female⟩, ⟨"U3B", "B Passenger", none, none⟩] := by
  refine manifest_round_trip.1 _ (fun record hrecord => ?_) (by decide)
  rcases List.mem_cons.mp hrecord with rfl | hrecord
  · exact ⟨by decide, by decide, by simp⟩
  · rw [List.mem_singleton.mp hrecord]
    exact ⟨by decide, by decide, by simp⟩

end TransitBpp
