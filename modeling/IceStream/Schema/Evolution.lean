import IceStream.Schema.Compatibility

/-!
# Renames and chains of schemas

What a rename map leaves unchecked, and what a chain of two compatible steps says
about its ends.
-/

namespace IceStream.Schema
open Python

/-! ## Renames -/

section

variable {a b : Text}

theorem nodup_renamed {names : List Text} (hnodup : names.Nodup) (hb : b ∉ names) :
    (names.map fun name => if name = a then b else name).Nodup := by
  apply hnodup.map_on
  intro x hx y hy h
  split_ifs at h with hxa hya hya
  · exact hxa.trans hya.symm
  · exact absurd (h ▸ hy) hb
  · exact absurd (h ▸ hx) hb
  · exact h

/-- The schema with its field `a` under the name `b`. -/
def EventSchema.rename (s : EventSchema) (a b : Text) (hb : s.field? b = none) : EventSchema where
  schemaVersion := s.schemaVersion
  fields := s.fields.map fun p => (if p.1 = a then b else p.1, p.2)
  nodup := by
    have hfresh : b ∉ s.fields.map Prod.fst := by
      intro hmem
      obtain ⟨p, hp, rfl⟩ := List.mem_map.mp hmem
      exact field?_eq_none_iff.mp hb p.2 hp
    have hnodup := nodup_renamed (a := a) s.nodup hfresh
    rw [List.map_map] at hnodup ⊢
    exact hnodup

variable {expected actual : EventSchema} {f : FieldSchema} (hb : expected.field? b = none)

theorem rename_field?_iff {name : Text} {f : FieldSchema} :
    (expected.rename a b hb).field? name = some f ↔
      (name = b ∧ expected.field? a = some f) ∨ (name ≠ a ∧ expected.field? name = some f) := by
  have hmem : (name, f) ∈ (expected.rename a b hb).fields ↔
      ∃ p ∈ expected.fields, (if p.1 = a then b else p.1) = name ∧ p.2 = f := by
    change (name, f) ∈ expected.fields.map _ ↔ _
    simp only [List.mem_map, Prod.mk.injEq]
  rw [field?_eq_some_iff, hmem, field?_eq_some_iff, field?_eq_some_iff]
  constructor
  · rintro ⟨⟨name', f'⟩, hp, hname, rfl⟩
    split_ifs at hname with ha
    · obtain rfl : name' = a := ha
      exact .inl ⟨hname.symm, hp⟩
    · obtain rfl : name' = name := hname
      exact .inr ⟨ha, hp⟩
  · rintro (⟨rfl, hp⟩ | ⟨ha, hp⟩)
    · exact ⟨(a, f), hp, if_pos rfl, rfl⟩
    · exact ⟨(name, f), hp, if_neg ha, rfl⟩

variable {hb}

theorem renamedTo_of_ne {name : Text} (h : name ≠ a) : renamedTo [(a, b)] actual name = none := by
  have hne : (name == a) = false := by simpa using h
  rw [renamedTo, List.lookup_cons, hne]
  rfl

/-- With the rename, the other fields are compared as ever. -/
theorem others_harmless (hcompatible : (checkCompatibility expected actual
      (some [(a, b)])).compatible = true) :
    (∀ name f g, name ≠ a → expected.field? name = some f → actual.field? name = some g →
      FieldOk f g) ∧
    (∀ name f, name ≠ a → expected.field? name = some f → actual.field? name = none →
      f.required = false) ∧
    ∀ name g, name ≠ b → expected.field? name = none → actual.field? name = some g →
      g.required = false := by
  have hactive : (none : Option (List (Text × Text))).getD [(a, b)] = [(a, b)] := rfl
  obtain ⟨hfields, hadded⟩ := (compatible_iff hactive).mp hcompatible
  refine ⟨fun name f g hname hf hg => ?_, fun name f hname hf hg => ?_,
    fun name g hname hf hg => ?_⟩
  · exact (harmless_inspectField_matched (renamedTo_of_ne hname) hg).mp
      (hfields _ (field?_eq_some_iff.mp hf))
  · exact (harmless_inspectField_missing (renamedTo_of_ne hname) hg).mp
      (hfields _ (field?_eq_some_iff.mp hf))
  · refine hadded _ (field?_eq_some_iff.mp hg) (isNew_iff.mpr ⟨?_, hf⟩)
    -- a column is matched under a name of the expected schema or as the renamed one
    intro hmatched
    simp only [matchedColumns, List.mem_filterMap, List.mem_map] at hmatched
    obtain ⟨-, ⟨p, hp, rfl⟩, hcolumn⟩ := hmatched
    unfold inspectField at hcolumn
    cases hrenamed : renamedTo [(a, b)] actual p.1 with
    | some target =>
      rw [hrenamed] at hcolumn
      have hcolumn : target.1 = name := Option.some.inj hcolumn
      have htarget : target.1 = b := by
        unfold renamedTo at hrenamed
        by_cases hpa : p.1 = a
        · rw [hpa, List.lookup_cons_self] at hrenamed
          simp only at hrenamed
          split_ifs at hrenamed
          obtain ⟨g', -, rfl⟩ := Option.map_eq_some_iff.mp hrenamed
          rfl
        · have hnone : renamedTo [(a, b)] actual p.1 = none := renamedTo_of_ne hpa
          unfold renamedTo at hnone
          rw [hnone] at hrenamed
          cases hrenamed
      exact hname (hcolumn.symm.trans htarget)
    | none =>
      rw [hrenamed] at hcolumn
      cases hg' : actual.field? p.1 with
      | none =>
        rw [hg'] at hcolumn
        cases hcolumn
      | some g' =>
        rw [hg'] at hcolumn
        obtain rfl : p.1 = name := Option.some.inj hcolumn
        exact field?_eq_none_iff.mp hf p.2 hp

/-- A rename that is compatible is so without the map just in case the renamed field
passes the checks of a field in both schemas, and no required column keeps its old name. -/
theorem rename_iff {g : FieldSchema} (ha : expected.field? a = some f)
    (hg : actual.field? b = some g)
    (hcompatible : (checkCompatibility expected actual (some [(a, b)])).compatible = true) :
    (checkCompatibility (expected.rename a b hb) actual).compatible = true ↔
      FieldOk f g ∧ ∀ h, actual.field? a = some h → h.required = false := by
  obtain ⟨hkept, hdropped, hadded⟩ := others_harmless hcompatible
  have hne : b ≠ a := by
    rintro rfl
    rw [hb] at ha
    cases ha
  rw [check_iff]
  constructor
  · intro hrenamed
    refine ⟨hrenamed.kept b f g ((rename_field?_iff hb).mpr (.inl ⟨rfl, ha⟩)) hg, ?_⟩
    intro h hh
    refine hrenamed.added a h ?_ hh
    cases hfield : (expected.rename a b hb).field? a with
    | none => rfl
    | some f' =>
      obtain ⟨hab, -⟩ | ⟨haa, -⟩ := (rename_field?_iff hb).mp hfield
      · exact absurd hab.symm hne
      · exact absurd rfl haa
  · rintro ⟨hok, hleft⟩
    refine ⟨fun name f' g' hf' hg' => ?_, fun name f' hf' hnone => ?_, fun name g' hnone hg' => ?_⟩
    · obtain ⟨rfl, hfa⟩ | ⟨hname, hfname⟩ := (rename_field?_iff hb).mp hf'
      · obtain rfl : f = f' := Option.some.inj (ha.symm.trans hfa)
        obtain rfl : g = g' := Option.some.inj (hg.symm.trans hg')
        exact hok
      · exact hkept name f' g' hname hfname hg'
    · obtain ⟨rfl, -⟩ | ⟨hname, hfname⟩ := (rename_field?_iff hb).mp hf'
      · rw [hg] at hnone
        cases hnone
      · exact hdropped name f' hname hfname hnone
    · have habsent (f' : FieldSchema) (h : (expected.rename a b hb).field? name = some f') : False := by
        rw [hnone] at h
        cases h
      have hnameb : name ≠ b := by
        rintro rfl
        exact habsent f ((rename_field?_iff hb).mpr (.inl ⟨rfl, ha⟩))
      by_cases hnamea : name = a
      · exact hleft g' (hnamea ▸ hg')
      · refine hadded name g' hnameb ?_ hg'
        cases hf' : expected.field? name with
        | none => rfl
        | some f' => exact (habsent f' ((rename_field?_iff hb).mpr (.inr ⟨hnamea, hf'⟩))).elim

end

/-- A schema with one field. -/
def columnSchema (name : String) (required : Bool) (enum : Option (List Text)) : EventSchema where
  schemaVersion := "s"
  fields := [(text name, ⟨text "string", required, enum⟩)]
  nodup := List.nodup_singleton _

/-- An optional column renamed to an optional one. -/
theorem optional_rename_compatible :
    (checkCompatibility ((columnSchema "customer_id" false none).rename (text "customer_id")
      (text "customer") rfl) (columnSchema "customer" false none)).compatible = true := by
  have hcompatible : (checkCompatibility (columnSchema "customer_id" false none)
      (columnSchema "customer" false none)
      (some [(text "customer_id", text "customer")])).compatible = true := by decide +kernel
  have hok : FieldOk ⟨text "string", false, none⟩ ⟨text "string", false, none⟩ :=
    ⟨.inl rfl, fun h => h, fun _ hx => hx⟩
  apply (rename_iff rfl rfl hcompatible).mpr
  exact ⟨hok, fun h hh => by cases hh⟩

/-- The renamed column becomes required, and only the comparison without the map says so. -/
theorem required_rename_hidden :
    (checkCompatibility (columnSchema "customer_id" false none) (columnSchema "customer" true none)
      (some [(text "customer_id", text "customer")])).compatible = true ∧
    (checkCompatibility ((columnSchema "customer_id" false none).rename (text "customer_id")
      (text "customer") rfl) (columnSchema "customer" true none)).compatible = false := by
  constructor <;> decide +kernel

/-! ## Chains -/

/-- Only types that the loader takes are declared. -/
def Supported (s : EventSchema) : Prop := ∀ p ∈ s.fields, p.2.type ∈ supportedTypes

theorem supported_trans : ∀ t₁ ∈ supportedTypes, ∀ t₂ ∈ supportedTypes, ∀ t₃ ∈ supportedTypes,
    (t₁ = t₂ ∨ isTypeCompatible t₁ t₂ = true) → (t₂ = t₃ ∨ isTypeCompatible t₂ t₃ = true) →
      (t₁ = t₃ ∨ isTypeCompatible t₁ t₃ = true) := by
  decide +kernel

theorem FieldOk.trans {f g h : FieldSchema} (hf : f.type ∈ supportedTypes)
    (hg : g.type ∈ supportedTypes) (hh : h.type ∈ supportedTypes) (hfg : FieldOk f g)
    (hgh : FieldOk g h) : FieldOk f h where
  type := supported_trans _ hf _ hg _ hh hfg.type hgh.type
  required := fun hrequired => hfg.required (hgh.required hrequired)
  enum := fun x hx => hgh.enum x (hfg.enum x hx)

/-- A field that is dropped and added again has a type and an enum that it could have had
at once, and a required field is not dropped in the end. -/
structure Returns (s₁ s₂ s₃ : EventSchema) : Prop where
  readded : ∀ name f h, s₁.field? name = some f → s₂.field? name = none →
    s₃.field? name = some h → TypeOk f h ∧ EnumOk f h
  required : ∀ name f, s₁.field? name = some f → f.required = true → s₃.field? name ≠ none

/-- Two compatible steps are a compatible one just in case what is dropped on the way
returns as it should. -/
theorem compose_iff {s₁ s₂ s₃ : EventSchema} (h₁ : Supported s₁) (h₂ : Supported s₂)
    (h₃ : Supported s₃) (h₁₂ : (checkCompatibility s₁ s₂).compatible = true)
    (h₂₃ : (checkCompatibility s₂ s₃).compatible = true) :
    (checkCompatibility s₁ s₃).compatible = true ↔ Returns s₁ s₂ s₃ := by
  rw [check_iff] at h₁₂ h₂₃ ⊢
  constructor
  · intro h₁₃
    refine ⟨fun name f h hf _ hh => ?_, fun name f hf hrequired hnone => ?_⟩
    · have hok := h₁₃.kept name f h hf hh
      exact ⟨hok.type, hok.enum⟩
    · have hoptional := h₁₃.dropped name f hf hnone
      rw [hrequired] at hoptional
      cases hoptional
  · intro hreturns
    refine ⟨fun name f h hf hh => ?_, fun name f hf hnone => ?_, fun name h hnone hh => ?_⟩
    · cases hg : s₂.field? name with
      | none =>
        obtain ⟨htype, henum⟩ := hreturns.readded name f h hf hg hh
        have hoptional := h₂₃.added name h hg hh
        refine ⟨htype, fun hrequired => ?_, henum⟩
        rw [hoptional] at hrequired
        cases hrequired
      | some g =>
        have htype {s : EventSchema} {f : FieldSchema} (hs : Supported s)
            (hf : s.field? name = some f) : f.type ∈ supportedTypes :=
          hs _ (field?_eq_some_iff.mp hf)
        exact FieldOk.trans (htype h₁ hf) (htype h₂ hg) (htype h₃ hh) (h₁₂.kept name f g hf hg)
          (h₂₃.kept name g h hg hh)
    · cases hrequired : f.required with
      | false => rfl
      | true => exact absurd hnone (hreturns.required name f hf hrequired)
    · cases hg : s₂.field? name with
      | none => exact h₂₃.added name h hg hh
      | some g =>
        have hoptional := h₁₂.added name g hnone hg
        have hok := h₂₃.kept name g h hg hh
        cases hrequired : h.required with
        | false => rfl
        | true => exact (hok.required hrequired).symm.trans hoptional

def emptySchema : EventSchema := ⟨"s", [], List.nodup_nil⟩

theorem supported_column (name : String) (required : Bool) (enum : Option (List Text)) :
    Supported (columnSchema name required enum) := by
  intro p hp
  obtain rfl := List.mem_singleton.mp hp
  have hstring : text "string" ∈ supportedTypes := by decide
  exact hstring

/-- A column is made optional and then grows its enum. -/
theorem relaxed_then_widened :
    (checkCompatibility (columnSchema "status" true (some [text "A"]))
      (columnSchema "status" false (some [text "A", text "B"]))).compatible = true := by
  have h₁₂ : (checkCompatibility (columnSchema "status" true (some [text "A"]))
      (columnSchema "status" false (some [text "A"]))).compatible = true := by decide +kernel
  have h₂₃ : (checkCompatibility (columnSchema "status" false (some [text "A"]))
      (columnSchema "status" false (some [text "A", text "B"]))).compatible = true := by
    decide +kernel
  apply (compose_iff (supported_column _ _ _) (supported_column _ _ _) (supported_column _ _ _)
    h₁₂ h₂₃).mpr
  constructor
  · intro name f h hf hnone _
    obtain ⟨rfl, -⟩ := Prod.mk.inj (List.mem_singleton.mp (field?_eq_some_iff.mp hf))
    cases hnone
  · intro name f hf _ hnone
    obtain ⟨rfl, -⟩ := Prod.mk.inj (List.mem_singleton.mp (field?_eq_some_iff.mp hf))
    cases hnone

/-- An optional column is dropped and comes back with a smaller enum; a required one is
made optional and then dropped. -/
theorem dropped_on_the_way :
    ((checkCompatibility (columnSchema "status" false (some [text "A"])) emptySchema).compatible = true ∧
      (checkCompatibility emptySchema (columnSchema "status" false (some [text "B"]))).compatible = true ∧
      (checkCompatibility (columnSchema "status" false (some [text "A"]))
        (columnSchema "status" false (some [text "B"]))).compatible = false) ∧
    ((checkCompatibility (columnSchema "status" true none)
        (columnSchema "status" false none)).compatible = true ∧
      (checkCompatibility (columnSchema "status" false none) emptySchema).compatible = true ∧
      (checkCompatibility (columnSchema "status" true none) emptySchema).compatible = false) := by
  refine ⟨⟨?_, ?_, ?_⟩, ?_, ?_, ?_⟩ <;> decide +kernel

end IceStream.Schema
