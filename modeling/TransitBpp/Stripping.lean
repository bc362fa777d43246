import TransitBpp.Redaction

/-!
# Names are stripped, and nothing else

What the walk of `withoutManifestNames` does to any JSON value, a part at a time. It goes into every
part outside a manifest and keeps its shape, and of each manifest it comes to it rewrites the list
alone: walking a value and then following a path is following the path and then walking the part
(`Part.walked` and `Part.walked_from`). Where no manifest is inside another, the manifests it comes
to are all there are.
-/

namespace TransitBpp

open Js Js.Json

variable {value value' sub sub' : Json} {fields fields' : JsonObject} {list : List Json}
variable {path : List Step}

/-- The value is a manifest. -/
def IsManifest : Json → Prop
  | .obj fields => (manifestList? fields).isSome
  | _ => False

/-- A part of a value, wherever it is. -/
def Anywhere (value : Json) (path : List Step) (sub : Json) : Prop :=
  Part (fun _ => True) value path sub

/-- A part of a value that is not inside a manifest, but may be one. -/
def Outside (value : Json) (path : List Step) (sub : Json) : Prop :=
  Part (fun fields => manifestList? fields = none) value path sub

theorem Outside.anywhere (h : Outside value path sub) : Anywhere value path sub :=
  h.mono fun _ _ => trivial

/-! ## One value -/

theorem withoutManifestNamesAll_ok {values values' : List Json} :
    withoutManifestNamesAll values = .ok values' ↔
      List.Forall₂ (fun v v' => withoutManifestNames v = .ok v') values values' := by
  induction values generalizing values' with
  | nil =>
    rw [withoutManifestNamesAll, List.forall₂_nil_left_iff]
    exact ⟨fun h => (Except.ok.inj h).symm, fun h => congrArg _ h.symm⟩
  | cons v vs ih =>
    rw [withoutManifestNamesAll, List.forall₂_cons_left_iff]
    constructor
    · intro h
      obtain ⟨v', hv, h⟩ := Except.bind_ok.mp h
      obtain ⟨vs', hvs, h⟩ := Except.bind_ok.mp h
      exact ⟨v', vs', hv, ih.mp hvs, (Except.ok.inj h).symm⟩
    · rintro ⟨v', vs', hv, hvs, rfl⟩
      rw [hv, ih.mpr hvs]
      rfl

theorem withoutManifestNamesFields_ok : withoutManifestNamesFields fields = .ok fields' ↔
    List.Forall₂ (fun f f' => f'.1 = f.1 ∧ withoutManifestNames f.2 = .ok f'.2) fields fields' := by
  induction fields generalizing fields' with
  | nil =>
    rw [withoutManifestNamesFields, List.forall₂_nil_left_iff]
    exact ⟨fun h => (Except.ok.inj h).symm, fun h => congrArg _ h.symm⟩
  | cons f fs ih =>
    rw [withoutManifestNamesFields, List.forall₂_cons_left_iff]
    constructor
    · intro h
      obtain ⟨v', hv, h⟩ := Except.bind_ok.mp h
      obtain ⟨fs', hfs, h⟩ := Except.bind_ok.mp h
      exact ⟨(f.1, v'), fs', ⟨rfl, hv⟩, ih.mp hfs, (Except.ok.inj h).symm⟩
    · rintro ⟨⟨key, v'⟩, fs', ⟨rfl, hv⟩, hfs, rfl⟩
      rw [hv, ih.mpr hfs]
      rfl

/-- Only an array is walked to an array. -/
theorem walk_eq_array {values' : List Json} (h : withoutManifestNames value = .ok (.arr values')) :
    ∃ values, value = .arr values ∧ withoutManifestNamesAll values = .ok values' := by
  cases value with
  | arr values =>
    obtain ⟨values'', hvalues, hsame⟩ := walk_array.mp h
    obtain rfl := Json.arr.inj hsame
    exact ⟨values, rfl, hvalues⟩
  | obj fields =>
    cases hm : manifestList? fields with
    | none =>
      obtain ⟨fields', -, hsame⟩ := (walk_object hm).mp h
      cases hsame
    | some list => cases ((walk_manifest hm).mp h).2
  | _ => cases Except.ok.inj h

/-- Only an object is walked to an object: a manifest to one with another list, and any other to
one that is no manifest either. -/
theorem walk_eq_object (h : withoutManifestNames value = .ok (.obj fields')) :
    ∃ fields, value = .obj fields ∧
      ((∃ list, manifestList? fields = some list ∧ fields' = withSeatsOnly fields list) ∨
        manifestList? fields = none ∧ manifestList? fields' = none ∧
          withoutManifestNamesFields fields = .ok fields') := by
  cases value with
  | arr values =>
    obtain ⟨values', -, hsame⟩ := walk_array.mp h
    cases hsame
  | obj fields =>
    refine ⟨fields, rfl, ?_⟩
    cases hm : manifestList? fields with
    | none =>
      obtain ⟨fields'', hfields, hsame⟩ := (walk_object hm).mp h
      obtain rfl := Json.obj.inj hsame
      exact Or.inr ⟨rfl, manifestList?_withoutManifestNamesFields hfields hm, hfields⟩
    | some list => exact Or.inl ⟨list, rfl, Json.obj.inj ((walk_manifest hm).mp h).2⟩
  | _ => cases Except.ok.inj h

/-- The walk neither makes a manifest nor unmakes one. -/
theorem isManifest_walked (h : withoutManifestNames value = .ok value') :
    IsManifest value' ↔ IsManifest value := by
  cases value with
  | arr values =>
    obtain ⟨values', -, rfl⟩ := walk_array.mp h
    exact Iff.rfl
  | obj fields =>
    cases hm : manifestList? fields with
    | none =>
      obtain ⟨fields', hfields, rfl⟩ := (walk_object hm).mp h
      rw [IsManifest, IsManifest, hm, manifestList?_withoutManifestNamesFields hfields hm]
    | some list =>
      obtain ⟨-, rfl⟩ := (walk_manifest hm).mp h
      rw [IsManifest, IsManifest, hm, manifestList?_withSeatsOnly hm]
      exact Iff.rfl
  | _ =>
    obtain rfl := Except.ok.inj h
    exact Iff.rfl

/-- What is no manifest keeps its shape. -/
theorem shape_walked (h : withoutManifestNames value = .ok value') (hnot : ¬ IsManifest value) :
    value'.shape = value.shape := by
  cases value with
  | arr values =>
    obtain ⟨values', hvalues, rfl⟩ := walk_array.mp h
    have hlength := (withoutManifestNamesAll_ok.mp hvalues).length_eq
    rw [shape, shape, List.map_const', List.map_const', hlength]
  | obj fields =>
    obtain ⟨fields', hfields, rfl⟩ := (walk_object (Option.not_isSome_iff_eq_none.mp hnot)).mp h
    rw [shape, shape]
    refine congrArg _ ?_
    have hall := withoutManifestNamesFields_ok.mp hfields
    clear hfields h hnot
    induction hall with
    | nil => rfl
    | cons hf _ ih => rw [List.map_cons, List.map_cons, ih, hf.1]
  | _ =>
    obtain rfl := Except.ok.inj h
    rfl

/-! ## The parts of a value -/

theorem exists_getElem?_of_forall₂ {α β : Type} {R : α → β → Prop} {xs : List α} {ys : List β}
    (h : List.Forall₂ R xs ys) {n : ℕ} {y : β} (hy : ys[n]? = some y) :
    ∃ x, xs[n]? = some x ∧ R x y := by
  induction h generalizing n with
  | nil => cases hy
  | cons hxy _ ih =>
    cases n with
    | zero =>
      obtain rfl := Option.some.inj hy
      exact ⟨_, rfl, hxy⟩
    | succ n => exact ih hy

/-- **Walking a value walks its parts**: a path leads to the part, walked. -/
theorem Outside.walked (h : Outside value path sub) :
    ∀ {value'}, withoutManifestNames value = .ok value' →
      ∃ sub', withoutManifestNames sub = .ok sub' ∧ Outside value' path sub' := by
  induction h with
  | here value => exact fun hok => ⟨_, hok, .here _⟩
  | item hitem _ ih =>
    intro value' hok
    obtain ⟨values', hvalues, rfl⟩ := walk_array.mp hok
    obtain ⟨v', hitem', hv⟩ :=
      exists_getElem?_of_forall₂ (withoutManifestNamesAll_ok.mp hvalues).flip hitem
    obtain ⟨sub', hsub, hpart⟩ := ih hv
    exact ⟨sub', hsub, .item hitem' hpart⟩
  | field hnone hfield _ ih =>
    intro value' hok
    obtain ⟨fields', hfields, rfl⟩ := (walk_object hnone).mp hok
    obtain ⟨⟨key', v'⟩, hfield', rfl, hv⟩ :=
      exists_of_mem_forall₂ (withoutManifestNamesFields_ok.mp hfields).flip hfield
    obtain ⟨sub', hsub, hpart⟩ := ih hv
    exact ⟨sub', hsub,
      .field (manifestList?_withoutManifestNamesFields hfields hnone) hfield' hpart⟩

/-- And it leads to no others. -/
theorem Outside.walked_from (h : Outside value' path sub') :
    ∀ {value}, withoutManifestNames value = .ok value' →
      ∃ sub, withoutManifestNames sub = .ok sub' ∧ Outside value path sub := by
  induction h with
  | here value' => exact fun hok => ⟨_, hok, .here _⟩
  | item hitem' _ ih =>
    intro value hok
    obtain ⟨values, rfl, hvalues⟩ := walk_eq_array hok
    obtain ⟨v, hitem, hv⟩ :=
      exists_getElem?_of_forall₂ (withoutManifestNamesAll_ok.mp hvalues) hitem'
    obtain ⟨sub, hsub, hpart⟩ := ih hv
    exact ⟨sub, hsub, .item hitem hpart⟩
  | field hnone' hfield' _ ih =>
    intro value hok
    obtain ⟨fields, rfl, ⟨list, hm, rfl⟩ | ⟨hnone, -, hfields⟩⟩ := walk_eq_object hok
    · rw [manifestList?_withSeatsOnly hm] at hnone'
      cases hnone'
    · obtain ⟨⟨key, v⟩, hfield, hkey, hv⟩ :=
        exists_of_mem_forall₂ (withoutManifestNamesFields_ok.mp hfields) hfield'
      obtain rfl := hkey
      obtain ⟨sub, hsub, hpart⟩ := ih hv
      exact ⟨sub, hsub, .field hnone hfield hpart⟩

/-! ## The walk ends -/

/-- No manifest the walk comes to has a `null` in its list. -/
def NullFree (value : Json) : Prop :=
  ∀ path fields list, Outside value path (.obj fields) → manifestList? fields = some list →
    Json.null ∉ list

mutual

/-- Only a `null` in a manifest's list stops the walk. -/
theorem walk_goes : ∀ value : Json, NullFree value → ∃ value', withoutManifestNames value = .ok value'
  | .null, _ => ⟨_, rfl⟩
  | .bool _, _ => ⟨_, rfl⟩
  | .num _, _ => ⟨_, rfl⟩
  | .str _, _ => ⟨_, rfl⟩
  | .arr values, h => by
    have hvalues : ∀ v ∈ values, NullFree v := by
      intro v hv path fields list hpart
      obtain ⟨n, hitem⟩ := List.getElem?_of_mem hv
      exact h _ fields list (.item hitem hpart)
    obtain ⟨values', hok⟩ := walkAll_goes values hvalues
    exact ⟨_, walk_array.mpr ⟨values', hok, rfl⟩⟩
  | .obj fields, h => by
    cases hm : manifestList? fields with
    | some list => exact ⟨_, (walk_manifest hm).mpr ⟨h [] fields list (.here _) hm, rfl⟩⟩
    | none =>
      have hvalues : ∀ f ∈ fields, NullFree f.2 := by
        intro f hf path inner list hpart
        exact h _ inner list (.field hm hf hpart)
      obtain ⟨fields', hok⟩ := walkFields_goes fields hvalues
      exact ⟨_, (walk_object hm).mpr ⟨fields', hok, rfl⟩⟩

theorem walkAll_goes : ∀ values : List Json, (∀ v ∈ values, NullFree v) →
    ∃ values', withoutManifestNamesAll values = .ok values'
  | [], _ => ⟨_, rfl⟩
  | value :: values, h => by
    obtain ⟨value', hvalue⟩ := walk_goes value (h value List.mem_cons_self)
    obtain ⟨values', hvalues⟩ := walkAll_goes values fun v hv => h v (List.mem_cons_of_mem _ hv)
    exact ⟨value' :: values', by rw [withoutManifestNamesAll, hvalue, hvalues]; rfl⟩

theorem walkFields_goes : ∀ fields : JsonObject, (∀ f ∈ fields, NullFree f.2) →
    ∃ fields', withoutManifestNamesFields fields = .ok fields'
  | [], _ => ⟨_, rfl⟩
  | (key, value) :: fields, h => by
    obtain ⟨value', hvalue⟩ := walk_goes value (h (key, value) List.mem_cons_self)
    obtain ⟨fields', hfields⟩ := walkFields_goes fields fun f hf => h f (List.mem_cons_of_mem _ hf)
    exact ⟨(key, value') :: fields', by rw [withoutManifestNamesFields, hvalue, hfields]; rfl⟩

end

/-- The walk ends exactly where no manifest it comes to has a `null` in its list. -/
theorem walk_goes_iff : (∃ value', withoutManifestNames value = .ok value') ↔ NullFree value := by
  constructor
  · rintro ⟨value', hok⟩ path fields list hpart hm
    obtain ⟨sub', hsub, -⟩ := hpart.walked hok
    exact ((walk_manifest hm).mp hsub).1
  · exact walk_goes value

/-! ## The walk twice -/

/-- The seats of the seats of a manifest are its seats. -/
theorem withSeatsOnly_again (fields : JsonObject) (list : List Json) :
    withSeatsOnly (withSeatsOnly fields list) (seatIdEntries list) = withSeatsOnly fields list := by
  have hkept : seatIdEntries (seatIdEntries list) = seatIdEntries list := by
    rw [seatIdEntries, seatIdEntries, List.filter_filter]
    simp only [Bool.and_self]
  rw [withSeatsOnly, hkept, withSeatsOnly, Json.set, Json.set, mapSet_mapSet]

theorem null_not_mem_seatIdEntries (list : List Json) : Json.null ∉ seatIdEntries list := by
  intro h
  have hcode := (List.mem_filter.mp h).2
  cases of_decide_eq_true hcode

mutual

/-- **The walk again** changes nothing. -/
theorem walk_again : ∀ value value' : Json, withoutManifestNames value = .ok value' →
    withoutManifestNames value' = .ok value'
  | .null, _, h => by obtain rfl := Except.ok.inj h; rfl
  | .bool _, _, h => by obtain rfl := Except.ok.inj h; rfl
  | .num _, _, h => by obtain rfl := Except.ok.inj h; rfl
  | .str _, _, h => by obtain rfl := Except.ok.inj h; rfl
  | .arr values, _, h => by
    obtain ⟨values', hvalues, rfl⟩ := walk_array.mp h
    exact walk_array.mpr ⟨values', walkAll_again values values' hvalues, rfl⟩
  | .obj fields, _, h => by
    cases hm : manifestList? fields with
    | some list =>
      obtain ⟨-, rfl⟩ := (walk_manifest hm).mp h
      rw [walk_manifest (manifestList?_withSeatsOnly hm), withSeatsOnly_again]
      exact ⟨null_not_mem_seatIdEntries list, rfl⟩
    | none =>
      obtain ⟨fields', hfields, rfl⟩ := (walk_object hm).mp h
      rw [walk_object (manifestList?_withoutManifestNamesFields hfields hm)]
      exact ⟨fields', walkFields_again fields fields' hfields, rfl⟩

theorem walkAll_again : ∀ values values' : List Json, withoutManifestNamesAll values = .ok values' →
    withoutManifestNamesAll values' = .ok values'
  | [], _, h => by obtain rfl := Except.ok.inj h; rfl
  | value :: values, _, h => by
    rw [withoutManifestNamesAll] at h
    obtain ⟨value', hvalue, h⟩ := Except.bind_ok.mp h
    obtain ⟨values', hvalues, h⟩ := Except.bind_ok.mp h
    obtain rfl := Except.ok.inj h
    rw [withoutManifestNamesAll, walk_again value value' hvalue,
      walkAll_again values values' hvalues]
    rfl

theorem walkFields_again : ∀ fields fields' : JsonObject,
    withoutManifestNamesFields fields = .ok fields' →
      withoutManifestNamesFields fields' = .ok fields'
  | [], _, h => by obtain rfl := Except.ok.inj h; rfl
  | (key, value) :: fields, _, h => by
    rw [withoutManifestNamesFields] at h
    obtain ⟨value', hvalue, h⟩ := Except.bind_ok.mp h
    obtain ⟨fields', hfields, h⟩ := Except.bind_ok.mp h
    obtain rfl := Except.ok.inj h
    rw [withoutManifestNamesFields, walk_again value value' hvalue,
      walkFields_again fields fields' hfields]
    rfl

end

/-! ## Where no manifest is inside another -/

theorem manifestDepth_of_not_manifest {depth : ℕ} (hm : manifestList? fields = none) :
    manifestDepth depth (.obj fields) = manifestDepthFields depth fields := by
  cases depth <;> simp [manifestDepth, hm]

theorem manifestDepth_manifest {depth : ℕ} (hm : manifestList? fields = some list) :
    manifestDepth (depth + 1) (.obj fields) = manifestDepthFields depth fields := by
  simp [manifestDepth, hm]

theorem not_isManifest_of_depth_zero (h : manifestDepth 0 value = true) : ¬ IsManifest value := by
  cases value with
  | obj fields =>
    intro hm
    rw [IsManifest] at hm
    rw [manifestDepth, if_pos hm] at h
    cases h
  | _ => exact id

mutual

/-- The walk puts no manifest inside another. -/
theorem manifestDepth_walked (depth : ℕ) : ∀ value value' : Json,
    withoutManifestNames value = .ok value' → manifestDepth depth value = true →
      manifestDepth depth value' = true
  | .null, _, h, _ => by obtain rfl := Except.ok.inj h; rfl
  | .bool _, _, h, _ => by obtain rfl := Except.ok.inj h; rfl
  | .num _, _, h, _ => by obtain rfl := Except.ok.inj h; rfl
  | .str _, _, h, _ => by obtain rfl := Except.ok.inj h; rfl
  | .arr values, _, h, hd => by
    obtain ⟨values', hvalues, rfl⟩ := walk_array.mp h
    rw [manifestDepth] at hd ⊢
    exact manifestDepthAll_walked depth values values' hvalues hd
  | .obj fields, _, h, hd => by
    cases hm : manifestList? fields with
    | some list =>
      obtain ⟨-, rfl⟩ := (walk_manifest hm).mp h
      have hm' := manifestList?_withSeatsOnly hm
      cases depth with
      | zero => exact absurd (Option.isSome_of_eq_some hm) (not_isManifest_of_depth_zero hd)
      | succ depth =>
        rw [manifestDepth_manifest hm] at hd
        rw [manifestDepth_manifest hm']
        exact manifestDepthFields_set hm hd fun entry he => (List.mem_filter.mp he).1
    | none =>
      obtain ⟨fields', hfields, rfl⟩ := (walk_object hm).mp h
      have hm' := manifestList?_withoutManifestNamesFields hfields hm
      rw [manifestDepth_of_not_manifest hm] at hd
      rw [manifestDepth_of_not_manifest hm']
      exact manifestDepthFields_walked depth fields fields' hfields hd

theorem manifestDepthAll_walked (depth : ℕ) : ∀ values values' : List Json,
    withoutManifestNamesAll values = .ok values' → manifestDepthAll depth values = true →
      manifestDepthAll depth values' = true
  | [], _, h, _ => by obtain rfl := Except.ok.inj h; rfl
  | value :: values, _, h, hd => by
    rw [withoutManifestNamesAll] at h
    obtain ⟨value', hvalue, h⟩ := Except.bind_ok.mp h
    obtain ⟨values', hvalues, h⟩ := Except.bind_ok.mp h
    obtain rfl := Except.ok.inj h
    rw [manifestDepthAll, Bool.and_eq_true] at hd ⊢
    exact ⟨manifestDepth_walked depth value value' hvalue hd.1,
      manifestDepthAll_walked depth values values' hvalues hd.2⟩

theorem manifestDepthFields_walked (depth : ℕ) : ∀ fields fields' : JsonObject,
    withoutManifestNamesFields fields = .ok fields' → manifestDepthFields depth fields = true →
      manifestDepthFields depth fields' = true
  | [], _, h, _ => by obtain rfl := Except.ok.inj h; rfl
  | (key, value) :: fields, _, h, hd => by
    rw [withoutManifestNamesFields] at h
    obtain ⟨value', hvalue, h⟩ := Except.bind_ok.mp h
    obtain ⟨fields', hfields, h⟩ := Except.bind_ok.mp h
    obtain rfl := Except.ok.inj h
    rw [manifestDepthFields, Bool.and_eq_true] at hd ⊢
    exact ⟨manifestDepth_walked depth value value' hvalue hd.1,
      manifestDepthFields_walked depth fields fields' hfields hd.2⟩

end

/-- No part of a value without manifests has one. -/
theorem Anywhere.depth_zero (h : Anywhere value path sub) :
    manifestDepth 0 value = true → manifestDepth 0 sub = true := by
  induction h with
  | here value => exact id
  | item hitem _ ih =>
    intro hdepth
    rw [manifestDepth] at hdepth
    exact ih (manifestDepthAll_iff.mp hdepth _ (List.mem_of_getElem? hitem))
  | field _ hfield _ ih =>
    intro hdepth
    rw [manifestDepth] at hdepth
    split at hdepth
    · cases hdepth
    · exact ih (manifestDepthFields_iff.mp hdepth _ hfield)

/-- Each manifest is outside the others. -/
theorem Anywhere.outside (h : Anywhere value path sub) :
    manifestDepth 1 value = true → IsManifest sub → Outside value path sub := by
  induction h with
  | here value => exact fun _ _ => .here value
  | item hitem _ ih =>
    intro hdepth hm
    rw [manifestDepth] at hdepth
    exact .item hitem (ih (manifestDepthAll_iff.mp hdepth _ (List.mem_of_getElem? hitem)) hm)
  | field _ hfield hsub ih =>
    intro hdepth hm
    rw [manifestDepth] at hdepth
    split at hdepth
    · -- inside a manifest there is none
      have hzero := Anywhere.depth_zero hsub (manifestDepthFields_iff.mp hdepth _ hfield)
      exact absurd hm (not_isManifest_of_depth_zero hzero)
    · rename_i hnone
      exact .field (Option.not_isSome_iff_eq_none.mp hnone) hfield
        (ih (manifestDepthFields_iff.mp hdepth _ hfield) hm)

mutual

/-- The walk leaves a value without manifests as it is. -/
theorem walk_of_depth_zero : ∀ value : Json, manifestDepth 0 value = true →
    withoutManifestNames value = .ok value
  | .null, _ => rfl
  | .bool _, _ => rfl
  | .num _, _ => rfl
  | .str _, _ => rfl
  | .arr values, h => by
    rw [manifestDepth] at h
    exact walk_array.mpr ⟨values, walkAll_of_depth_zero values h, rfl⟩
  | .obj fields, h => by
    rw [manifestDepth] at h
    split at h
    · cases h
    · rename_i hm
      rw [walk_object (Option.not_isSome_iff_eq_none.mp hm)]
      exact ⟨fields, walkFields_of_depth_zero fields h, rfl⟩

theorem walkAll_of_depth_zero : ∀ values : List Json, manifestDepthAll 0 values = true →
    withoutManifestNamesAll values = .ok values
  | [], _ => rfl
  | value :: values, h => by
    rw [manifestDepthAll, Bool.and_eq_true] at h
    rw [withoutManifestNamesAll, walk_of_depth_zero value h.1, walkAll_of_depth_zero values h.2]
    rfl

theorem walkFields_of_depth_zero : ∀ fields : JsonObject, manifestDepthFields 0 fields = true →
    withoutManifestNamesFields fields = .ok fields
  | [], _ => rfl
  | (key, value) :: fields, h => by
    rw [manifestDepthFields, Bool.and_eq_true] at h
    rw [withoutManifestNamesFields, walk_of_depth_zero value h.1,
      walkFields_of_depth_zero fields h.2]
    rfl

end

/-! ## What is stripped -/

/-- Names are stripped from a value, and nothing else is. -/
structure StripsNames (value value' : Json) : Prop where
  /-- every manifest stays where it is, with the entries of its list that say which seat, in order,
  and all its other fields -/
  manifests : ∀ path fields list, Anywhere value path (.obj fields) →
    manifestList? fields = some list → Anywhere value' path (.obj (withSeatsOnly fields list))
  /-- every manifest that is left was one -/
  seats : ∀ path fields' list', Anywhere value' path (.obj fields') →
    manifestList? fields' = some list' →
      ∃ fields list, Anywhere value path (.obj fields) ∧ manifestList? fields = some list ∧
        fields' = withSeatsOnly fields list ∧ list' = seatIdEntries list
  /-- outside the manifests the same paths lead to the same scalars, and to arrays and objects with
  the same items and keys -/
  outside : ∀ path shape,
    (∃ sub, Outside value path sub ∧ ¬ IsManifest sub ∧ sub.shape = shape) ↔
      ∃ sub', Outside value' path sub' ∧ ¬ IsManifest sub' ∧ sub'.shape = shape
  /-- and what has no manifest inside is the same altogether -/
  untouched : ∀ path sub, Outside value path sub → manifestDepth 0 sub = true →
    Outside value' path sub

/-- The walk strips the names of a value whose manifests are apart. -/
theorem stripsNames_of_walked (hnested : manifestDepth 1 value = true)
    (hok : withoutManifestNames value = .ok value') : StripsNames value value' where
  manifests := by
    intro path fields list hpart hm
    obtain ⟨sub', hsub, hpart'⟩ :=
      (hpart.outside hnested (Option.isSome_of_eq_some hm)).walked hok
    obtain ⟨-, rfl⟩ := (walk_manifest hm).mp hsub
    exact hpart'.anywhere
  seats := by
    intro path fields' list' hpart' hm'
    have hnested' := manifestDepth_walked 1 value value' hok hnested
    obtain ⟨sub, hsub, hpart⟩ :=
      (hpart'.outside hnested' (Option.isSome_of_eq_some hm')).walked_from hok
    obtain ⟨fields, rfl, ⟨list, hm, rfl⟩ | ⟨-, hnone, -⟩⟩ := walk_eq_object hsub
    · rw [manifestList?_withSeatsOnly hm] at hm'
      exact ⟨fields, list, hpart.anywhere, hm, rfl, (Option.some.inj hm').symm⟩
    · rw [hnone] at hm'
      cases hm'
  outside := by
    intro path shape
    constructor
    · rintro ⟨sub, hpart, hnot, rfl⟩
      obtain ⟨sub', hsub, hpart'⟩ := hpart.walked hok
      exact ⟨sub', hpart', mt (isManifest_walked hsub).mp hnot, shape_walked hsub hnot⟩
    · rintro ⟨sub', hpart', hnot', rfl⟩
      obtain ⟨sub, hsub, hpart⟩ := hpart'.walked_from hok
      have hnot : ¬ IsManifest sub := mt (isManifest_walked hsub).mpr hnot'
      exact ⟨sub, hpart, hnot, (shape_walked hsub hnot).symm⟩
  untouched := by
    intro path sub hpart hzero
    obtain ⟨sub', hsub, hpart'⟩ := hpart.walked hok
    rw [walk_of_depth_zero sub hzero] at hsub
    exact Except.ok.inj hsub ▸ hpart'

/-- **Names are stripped, and nothing else**: from any value in which no manifest is inside another
and no manifest's list has a `null` (one of objects only has none), the walk strips the names, and
walking what it leaves again changes nothing. -/
theorem names_stripped_only (hnested : manifestDepth 1 value = true)
    (hobjects : ∀ path fields list, Anywhere value path (.obj fields) →
      manifestList? fields = some list → Json.null ∉ list) :
    ∃ value', withoutManifestNames value = .ok value' ∧ StripsNames value value' ∧
      withoutManifestNames value' = .ok value' := by
  have hfree : NullFree value := fun path fields list hpart hm =>
    hobjects path fields list hpart.anywhere hm
  obtain ⟨value', hok⟩ := walk_goes_iff.mpr hfree
  exact ⟨value', hok, stripsNames_of_walked hnested hok, walk_again value value' hok⟩

/-- A manifest of a passenger: a seat, a name and an age. -/
def passengerManifest (seat name age : String) : Tag where
  code := "MANIFEST"
  display := true
  list := [⟨"SEAT_ID", seat⟩, ⟨"NAME", name⟩, ⟨"AGE", age⟩]

/-- Two fulfillments, one with a manifest among its tags and one with a manifest in a group under
another. -/
def twoManifests : Json :=
  .obj [("fulfillments", .arr [
    .obj [("id", .str "F1"), ("tags", tagsJson [passengerManifest "S1" "Asha" "31"])],
    .obj [("id", .str "F2"), ("tags", .arr [.obj [
      ("descriptor", .obj [("code", .str "GROUP")]),
      ("list", tagsJson [passengerManifest "S2" "Ravi" "44"])]])]])]

/-- It can be applied. -/
theorem names_stripped_only_specimen : ∃ value', withoutManifestNames twoManifests = .ok value' ∧
    StripsNames twoManifests value' ∧ withoutManifestNames value' = .ok value' := by
  have hnested : manifestDepth 1 twoManifests = true := rfl
  have hfree : NullFree twoManifests := walk_goes_iff.mp ⟨_, rfl⟩
  refine names_stripped_only hnested fun path fields list hpart hm => ?_
  exact hfree path fields list (hpart.outside hnested (Option.isSome_of_eq_some hm)) hm

end TransitBpp
