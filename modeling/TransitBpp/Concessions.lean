import TransitBpp.Passes

/-!
# What a refused concession tells

A class value that is not yet a code is to be withheld from the message that refuses it. The pattern
that decides so is matched against the value in upper case, so what is withheld is a value that is
not a code even then.
-/

namespace TransitBpp.Trv11

open Js (Json)

/-- Tags whose one `CONCESSION` group carries one `CLASS` entry, with this value. -/
def NamesClass (tags : List Json) (value : String) : Prop :=
  ∃ group entry, (tags.filter fun group => readCode group = some "CONCESSION") = [group] ∧
    (group.get? "list").bind array? = some [entry] ∧ readCode entry = some "CLASS" ∧
      entry.get? "value" = some (.str value)

/-- A class value that names nothing of the catalogue's and was not sent as a code. -/
structure Private (value : String) : Prop where
  /-- it is not blank -/
  nonblank : trim value ≠ ""
  /-- it is no code as it was sent -/
  notCode : safeToEcho (trim value) = false
  /-- nor a published class, in any letter case -/
  unpublished : toUpperCase (trim value) ∉ ["SENIOR", "STUDENT"]

/-- The message that names the rate of a class. -/
def echoed (candidate : String) : String :=
  s!"No {candidate}_DISCOUNT_PERCENT rate is published on this catalogue; " ++
    s!"this provider publishes {publishedRates} only"

/-- The message that does not. -/
def withheld : String :=
  "The order names a concession class this provider publishes no rate for; " ++
    s!"this provider publishes {publishedRates} only. " ++
    "The class value is withheld from this message because a class value is never stored or logged"

theorem assertPublishedClass_unpublished {value : String}
    (h : toUpperCase value ∉ ["SENIOR", "STUDENT"]) :
    assertPublishedClass value = .error (.lifecycle "CONCESSION-RATE-NOT-PUBLISHED"
      (if safeToEcho (toUpperCase value) then echoed (toUpperCase value) else withheld)) := by
  rw [List.mem_cons, List.mem_singleton, not_or] at h
  unfold assertPublishedClass echoed withheld
  dsimp only
  rw [if_neg h.1, if_neg h.2]
  rfl

/-- A group of one entry is read as its value. -/
theorem concessionFromOrderTags_of_class {tags : List Json} {value : String}
    (h : NamesClass tags value) (hvalue : trim value ≠ "") :
    concessionFromOrderTags (some tags) = (assertPublishedClass (trim value)).map some := by
  obtain ⟨group, entry, hgroup, hlist, hcode, hentry⟩ := h
  have hread : concessionFromList [entry] = assertPublishedClass (trim value) := by
    simp [concessionFromList, hcode, hentry, Json.str?, hvalue]
  simp only [concessionFromOrderTags, Option.getD_some, hgroup, hlist, hread]
  cases assertPublishedClass (trim value) <;> rfl

/-- The message names the class it was asked for. -/
theorem echoed_injective : Function.Injective echoed := by
  intro candidate candidate' h
  simp only [echoed] at h
  simp only [String.append_left_inj, String.append_right_inj] at h
  exact h

theorem echoed_ne_withheld (candidate : String) : echoed candidate ≠ withheld := by
  intro h
  have hhead := congrArg (fun message => message.toList.head?) h
  unfold echoed withheld at hhead
  have hechoed : (toString "No ").toList = ['N', 'o', ' '] := by decide
  have hwithheld : ("The order names a concession class this provider publishes no rate for; " :
      String).toList.head? = some 'T' := by decide
  simp only [String.toList_append, hechoed, List.cons_append, List.head?_cons, List.head?_append,
    hwithheld] at hhead
  cases hhead

/-- What a private value is refused with. -/
theorem concessionFromOrderTags_private {tags : List Json} {value : String}
    (h : NamesClass tags value) (hvalue : Private value) :
    concessionFromOrderTags (some tags) = .error (.lifecycle "CONCESSION-RATE-NOT-PUBLISHED"
      (if safeToEcho (toUpperCase (trim value)) then echoed (toUpperCase (trim value))
        else withheld)) := by
  rw [concessionFromOrderTags_of_class h hvalue.nonblank,
    assertPublishedClass_unpublished hvalue.unpublished]
  rfl

/-- Two private values are refused alike exactly if neither is a code in upper case, or both are one
and the same. -/
theorem concession_value_withheld_iff {tags tags' : List Json} {value value' : String}
    (htags : NamesClass tags value) (htags' : NamesClass tags' value') (hvalue : Private value)
    (hvalue' : Private value') :
    (∃ f, concessionFromOrderTags (some tags) = .error f ∧
      concessionFromOrderTags (some tags') = .error f) ↔
    safeToEcho (toUpperCase (trim value)) = false ∧ safeToEcho (toUpperCase (trim value')) = false ∨
      toUpperCase (trim value) = toUpperCase (trim value') := by
  rw [concessionFromOrderTags_private htags hvalue, concessionFromOrderTags_private htags' hvalue']
  have hsame : ∀ message message' : String,
      (∃ f, (.error (.lifecycle "CONCESSION-RATE-NOT-PUBLISHED" message) :
          Except Failure (Option ConcessionClass)) = .error f ∧
        (.error (.lifecycle "CONCESSION-RATE-NOT-PUBLISHED" message') :
          Except Failure (Option ConcessionClass)) = .error f) ↔ message = message' := by
    intro message message'
    constructor
    · rintro ⟨f, h, h'⟩
      have hf := (Except.error.inj h).trans (Except.error.inj h').symm
      exact (Failure.lifecycle.inj hf).2
    · rintro rfl
      exact ⟨_, rfl, rfl⟩
  rw [hsame]
  cases hsafe : safeToEcho (toUpperCase (trim value)) with
  | true =>
    cases hsafe' : safeToEcho (toUpperCase (trim value')) with
    | true => simp [echoed_injective.eq_iff]
    | false =>
      have hne : toUpperCase (trim value) ≠ toUpperCase (trim value') := by
        intro h
        rw [h, hsafe'] at hsafe
        cases hsafe
      simp [echoed_ne_withheld, hne]
  | false =>
    cases hsafe' : safeToEcho (toUpperCase (trim value')) with
    | true =>
      have hne : toUpperCase (trim value) ≠ toUpperCase (trim value') := by
        intro h
        rw [h, hsafe'] at hsafe
        cases hsafe
      simp [(echoed_ne_withheld _).symm, hne]
    | false => simp

/-! ### A name that is a code in upper case -/

/-- Tags that name a class. -/
def classTags (value : String) : List Json :=
  [.obj [("descriptor", .obj [("code", .str "CONCESSION")]), ("display", .bool false),
    ("list", .arr [entry "CLASS" value])]]

theorem classTags_names (value : String) : NamesClass (classTags value) value :=
  ⟨_, entry "CLASS" value, by rfl, by rfl,
    congrArg some (by decide : toUpperCase (trim "CLASS") = "CLASS"), by rfl⟩

/-- The name of a rider is echoed. -/
theorem name_echoed : Private "asha" ∧ Private "ravi" ∧
    NamesClass (classTags "asha") "asha" ∧ NamesClass (classTags "ravi") "ravi" ∧
      ¬ ∃ f, concessionFromOrderTags (some (classTags "asha")) = .error f ∧
        concessionFromOrderTags (some (classTags "ravi")) = .error f := by
  have hasha : Private "asha" := ⟨by decide, by decide, by decide⟩
  have hravi : Private "ravi" := ⟨by decide, by decide, by decide⟩
  refine ⟨hasha, hravi, classTags_names _, classTags_names _, ?_⟩
  rintro ⟨f, h, h'⟩
  rw [concessionFromOrderTags_private (classTags_names _) hasha] at h
  rw [concessionFromOrderTags_private (classTags_names _) hravi] at h'
  have hmessage := (Failure.lifecycle.inj ((Except.error.inj h).trans (Except.error.inj h').symm)).2
  have hsafe : safeToEcho (toUpperCase (trim "asha")) = true := by decide
  have hsafe' : safeToEcho (toUpperCase (trim "ravi")) = true := by decide
  rw [hsafe, hsafe'] at hmessage
  exact absurd (echoed_injective hmessage) (by decide)

/-- Two names with a blank in them are refused alike. -/
theorem concession_value_withheld_iff_names :
    ∃ f, concessionFromOrderTags (some (classTags "Asha Rao")) = .error f ∧
      concessionFromOrderTags (some (classTags "Ravi K")) = .error f :=
  (concession_value_withheld_iff (classTags_names _) (classTags_names _)
    ⟨by decide, by decide, by decide⟩ ⟨by decide, by decide, by decide⟩).mpr
      (Or.inl ⟨by decide, by decide⟩)

end TransitBpp.Trv11
