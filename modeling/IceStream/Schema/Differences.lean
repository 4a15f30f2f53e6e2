import IceStream.Schema.Compatibility

/-!
# The changes of a comparison

Which pairs of schemas have no changes, and why the order of their fields does
not matter: a field is looked up by its name, and only the name decides what it is
matched with.
-/

namespace IceStream.Schema
open Python

/-! ## No change -/

/-- The same type, required flag and enum set; without an enum that set is empty. -/
structure SameField (f g : FieldSchema) : Prop where
  type : f.type = g.type
  required : f.required = g.required
  enum : ∀ x, x ∈ f.enumSet ↔ x ∈ g.enumSet

/-- The same field names, with the same declarations. -/
structure SameFields (s t : EventSchema) : Prop where
  names : ∀ name, (s.field? name).isSome = (t.field? name).isSome
  declared : ∀ name f g, s.field? name = some f → t.field? name = some g → SameField f g

theorem typeChange_eq_nil_iff {what field : Text} {f g : FieldSchema} :
    typeChange what field f g = [] ↔ f.type = g.type := by
  unfold typeChange
  split_ifs with hsame
  · exact iff_of_true rfl hsame
  · exact iff_of_false id hsame
  · exact iff_of_false id hsame

theorem requiredChange_eq_nil_iff {name : Text} {f g : FieldSchema} :
    requiredChange name f g = [] ↔ f.required = g.required := by
  unfold requiredChange
  split_ifs with hsame
  · exact iff_of_true rfl hsame
  · exact iff_of_false id hsame
  · exact iff_of_false id hsame

theorem filter_not_mem_eq_nil_iff {xs ys : List Text} :
    xs.filter (· ∉ ys) = [] ↔ ∀ x ∈ xs, x ∈ ys := by
  simp [List.filter_eq_nil_iff]

theorem enumChange_eq_nil_iff {name : Text} {f g : FieldSchema} :
    enumChange name f g = [] ↔ ∀ x, x ∈ f.enumSet ↔ x ∈ g.enumSet := by
  unfold enumChange
  split_ifs with hnone
  · rw [Bool.and_eq_true, Option.isNone_iff_eq_none, Option.isNone_iff_eq_none] at hnone
    refine iff_of_true rfl fun x => ?_
    rw [FieldSchema.enumSet, FieldSchema.enumSet, hnone.1, hnone.2]
  · have hpart (b : Bool) (c : SchemaChange) : (if b then [] else [c]) = [] ↔ b = true := by
      cases b <;> simp
    have hempty (xs ys : List Text) :
        (sortedSet (xs.filter (· ∉ ys))).isEmpty = true ↔ ∀ x ∈ xs, x ∈ ys := by
      rw [sortedSet_isEmpty, List.isEmpty_iff, filter_not_mem_eq_nil_iff]
    rw [List.append_eq_nil_iff, hpart, hpart, hempty, hempty]
    constructor
    · intro h x
      exact ⟨h.2 x, h.1 x⟩
    · intro h
      exact ⟨fun x => (h x).mpr, fun x => (h x).mp⟩

section

variable {renameMap : List (Text × Text)} {expected actual : EventSchema}

/-- A field adds nothing where it is not renamed and has its like in the actual schema. -/
theorem inspectField_eq_nil_iff {p : Text × FieldSchema} :
    (inspectField renameMap actual p).1 = [] ↔ renamedTo renameMap actual p.1 = none ∧
      ∃ g, actual.field? p.1 = some g ∧ SameField p.2 g := by
  rw [inspectField]
  cases hrenamed : renamedTo renameMap actual p.1 with
  | some renamed =>
    refine iff_of_false (by simp) ?_
    rintro ⟨hnone, -⟩
    cases hnone
  | none =>
    rw [and_iff_right rfl]
    cases hfield : actual.field? p.1 with
    | none =>
      refine iff_of_false (by simp) ?_
      rintro ⟨g, hg, -⟩
      cases hg
    | some g =>
      simp only [List.append_eq_nil_iff, typeChange_eq_nil_iff, requiredChange_eq_nil_iff,
        enumChange_eq_nil_iff, Option.some.injEq, exists_eq_left']
      exact ⟨fun h => ⟨h.1.1, h.1.2, h.2⟩, fun h => ⟨⟨h.type, h.required⟩, h.enum⟩⟩

/-- An entry of the map applies: it names a column that the actual schema has. -/
def RenameApplies (renameMap : List (Text × Text)) (expected actual : EventSchema) : Prop :=
  ∃ p ∈ expected.fields, (renamedTo renameMap actual p.1).isSome = true

theorem compare_changes {comparator : SchemaComparator} {override : Option (List (Text × Text))}
    (hactive : override.getD comparator.renameMap = renameMap) :
    (comparator.compare expected actual override).changes =
      (expected.fields.map (inspectField renameMap actual)).flatMap Prod.fst ++
        (actual.fields.filter fun p =>
          isNew expected (matchedColumns renameMap expected actual) p.1).map
            fun p => newChange p.1 p.2 := by
  subst hactive
  rfl

/-- There is no change exactly between schemas with the same fields none of which is renamed. -/
theorem changes_eq_nil_iff {comparator : SchemaComparator}
    {override : Option (List (Text × Text))}
    (hactive : override.getD comparator.renameMap = renameMap) :
    (comparator.compare expected actual override).changes = [] ↔
      SameFields expected actual ∧ ¬RenameApplies renameMap expected actual := by
  rw [compare_changes hactive, List.append_eq_nil_iff, List.map_eq_nil_iff,
    List.filter_eq_nil_iff, List.flatMap_eq_nil_iff, List.forall_mem_map]
  simp only [inspectField_eq_nil_iff, isNew_iff]
  constructor
  · rintro ⟨hfields, hnew⟩
    have hlike : ∀ name f, expected.field? name = some f →
        ∃ g, actual.field? name = some g ∧ SameField f g :=
      fun name f hf => (hfields _ (field?_eq_some_iff.mp hf)).2
    have hmatched : ∀ name ∈ matchedColumns renameMap expected actual,
        (expected.field? name).isSome = true := by
      intro name hname
      obtain ⟨inspected, hinspected, hcolumn⟩ := List.mem_filterMap.mp hname
      obtain ⟨p, hp, rfl⟩ := List.mem_map.mp hinspected
      obtain ⟨hrenamed, g, hg, -⟩ := hfields p hp
      rw [inspectField, hrenamed, hg] at hcolumn
      obtain rfl := Option.some.inj hcolumn
      rw [field?_eq_some_iff.mpr hp]
      rfl
    refine ⟨⟨fun name => ?_, fun name f g hf hg => ?_⟩, ?_⟩
    · cases hf : expected.field? name with
      | some f =>
        obtain ⟨g, hg, -⟩ := hlike name f hf
        rw [hg]
        rfl
      | none =>
        cases hg : actual.field? name with
        | none => rfl
        | some g =>
          refine absurd ⟨fun hname => ?_, hf⟩ (hnew _ (field?_eq_some_iff.mp hg))
          have hsome := hmatched name hname
          rw [hf] at hsome
          cases hsome
    · obtain ⟨g', hg', hsame⟩ := hlike name f hf
      rw [hg] at hg'
      exact Option.some.inj hg' ▸ hsame
    · rintro ⟨p, hp, hsome⟩
      rw [(hfields p hp).1] at hsome
      cases hsome
  · rintro ⟨hsame, hno⟩
    refine ⟨fun p hp => ⟨?_, ?_⟩, fun p hp hnew => ?_⟩
    · rw [← Option.not_isSome_iff_eq_none]
      exact fun hsome => hno ⟨p, hp, hsome⟩
    · have hf := field?_eq_some_iff.mpr hp
      have hg := hsame.names p.1
      rw [hf] at hg
      obtain ⟨g, hg⟩ := Option.isSome_iff_exists.mp hg.symm
      exact ⟨g, hg, hsame.declared p.1 p.2 g hf hg⟩
    · have hf := hsame.names p.1
      rw [hnew.2, field?_eq_some_iff.mpr hp] at hf
      cases hf

end

/-! ## Single changes -/

section

variable {renameMap : List (Text × Text)} {expected actual : EventSchema}
  {comparator : SchemaComparator} {override : Option (List (Text × Text))}

/-- Without renames, a change is one of a field in both schemas, of a missing or of a new one. -/
theorem mem_changes_iff (hactive : override.getD comparator.renameMap = renameMap)
    (hno : ¬RenameApplies renameMap expected actual) {c : SchemaChange} :
    c ∈ (comparator.compare expected actual override).changes ↔
      (∃ name f g, expected.field? name = some f ∧ actual.field? name = some g ∧
        c ∈ typeChange (text "field " ++ quoted name) name f g ++ requiredChange name f g ++
          enumChange name f g) ∨
      (∃ name f, expected.field? name = some f ∧ actual.field? name = none ∧
        c = missingChange name f) ∨
      ∃ p ∈ actual.fields.filter fun p =>
        isNew expected (matchedColumns renameMap expected actual) p.1, c = newChange p.1 p.2 := by
  have hrenamed : ∀ p ∈ expected.fields, renamedTo renameMap actual p.1 = none := by
    intro p hp
    rw [← Option.not_isSome_iff_eq_none]
    exact fun hsome => hno ⟨p, hp, hsome⟩
  rw [compare_changes hactive, List.mem_append, List.mem_map, List.mem_flatMap, ← or_assoc]
  refine or_congr ?_ (exists_congr fun p => and_congr_right fun _ => eq_comm)
  constructor
  · rintro ⟨inspected, hinspected, hc⟩
    obtain ⟨p, hp, rfl⟩ := List.mem_map.mp hinspected
    have hf := field?_eq_some_iff.mpr hp
    rw [inspectField, hrenamed p hp] at hc
    cases hg : actual.field? p.1 with
    | some g =>
      rw [hg] at hc
      exact Or.inl ⟨p.1, p.2, g, hf, hg, hc⟩
    | none =>
      rw [hg] at hc
      exact Or.inr ⟨p.1, p.2, hf, hg, List.mem_singleton.mp hc⟩
  · rintro (⟨name, f, g, hf, hg, hc⟩ | ⟨name, f, hf, hg, rfl⟩)
    · have hp := field?_eq_some_iff.mp hf
      refine ⟨_, List.mem_map_of_mem hp, ?_⟩
      rw [inspectField, hrenamed _ hp, hg]
      exact hc
    · have hp := field?_eq_some_iff.mp hf
      refine ⟨_, List.mem_map_of_mem hp, ?_⟩
      rw [inspectField, hrenamed _ hp, hg]
      exact List.mem_singleton_self _

theorem of_mem_typeChange {what field : Text} {f g : FieldSchema} {c : SchemaChange}
    (h : c ∈ typeChange what field f g) :
    c.changeType = .typeChange ∧ c.field = field ∧
      (c.classification = .breaking ↔ ¬TypeOk f g) := by
  unfold typeChange at h
  split_ifs at h with hsame hcompatible
  · cases h
  · obtain rfl := List.mem_singleton.mp h
    simp [TypeOk, hcompatible]
  · obtain rfl := List.mem_singleton.mp h
    simp [TypeOk, hsame, hcompatible]

theorem of_mem_requiredChange {name : Text} {f g : FieldSchema} {c : SchemaChange}
    (h : c ∈ requiredChange name f g) : c.changeType = .fieldRequiredChanged := by
  unfold requiredChange at h
  split_ifs at h
  · cases h
  · rw [List.mem_singleton.mp h]
  · rw [List.mem_singleton.mp h]

theorem of_mem_enumChange {name : Text} {f g : FieldSchema} {c : SchemaChange}
    (h : c ∈ enumChange name f g) :
    c.changeType = .enumValueAdded ∨ c.changeType = .enumValueRemoved := by
  unfold enumChange at h
  split_ifs at h
  · cases h
  · obtain h | h := List.mem_append.mp h
    · split_ifs at h
      · cases h
      · exact Or.inl (by rw [List.mem_singleton.mp h])
    · split_ifs at h
      · cases h
      · exact Or.inr (by rw [List.mem_singleton.mp h])

theorem changeType_missingChange (name : Text) (f : FieldSchema) :
    (missingChange name f).changeType = if f.required then .missingColumn else .removedColumn := by
  unfold missingChange
  split_ifs <;> rfl

theorem field_missingChange (name : Text) (f : FieldSchema) : (missingChange name f).field = name := by
  unfold missingChange
  split_ifs <;> rfl

theorem changeType_newChange (name : Text) (g : FieldSchema) :
    (newChange name g).changeType = .newColumn := by
  unfold newChange
  split_ifs <;> rfl

/-- The comparison reports a required column that is missing. -/
def ReportsMissing (changes : List SchemaChange) (name : Text) : Prop :=
  ∃ c ∈ changes, c.changeType = .missingColumn ∧ c.field = name

/-- The comparison reports a change of a field's type that breaks. -/
def ReportsBreakingType (changes : List SchemaChange) (name : Text) : Prop :=
  ∃ c ∈ changes, c.changeType = .typeChange ∧ c.classification = .breaking ∧ c.field = name

theorem reportsMissing_iff (hactive : override.getD comparator.renameMap = renameMap)
    (hno : ¬RenameApplies renameMap expected actual) (name : Text) :
    ReportsMissing (comparator.compare expected actual override).changes name ↔
      ∃ f, expected.field? name = some f ∧ f.required = true ∧ actual.field? name = none := by
  constructor
  · rintro ⟨c, hc, htype, rfl⟩
    obtain ⟨name, f, g, -, -, hc⟩ | ⟨name, f, hf, hg, rfl⟩ | ⟨p, -, rfl⟩ :=
      (mem_changes_iff hactive hno).mp hc
    · obtain hc | hc := List.mem_append.mp hc
      · obtain hc | hc := List.mem_append.mp hc
        · rw [(of_mem_typeChange hc).1] at htype
          cases htype
        · rw [of_mem_requiredChange hc] at htype
          cases htype
      · obtain h | h := of_mem_enumChange hc <;> rw [h] at htype <;> cases htype
    · rw [changeType_missingChange] at htype
      rw [field_missingChange]
      refine ⟨f, hf, ?_, hg⟩
      by_contra hrequired
      rw [if_neg hrequired] at htype
      cases htype
    · rw [changeType_newChange] at htype
      cases htype
  · rintro ⟨f, hf, hrequired, hg⟩
    refine ⟨missingChange name f, ?_, ?_, field_missingChange name f⟩
    · exact (mem_changes_iff hactive hno).mpr (Or.inr (Or.inl ⟨name, f, hf, hg, rfl⟩))
    · rw [changeType_missingChange, if_pos hrequired]

theorem reportsBreakingType_iff (hactive : override.getD comparator.renameMap = renameMap)
    (hno : ¬RenameApplies renameMap expected actual) (name : Text) :
    ReportsBreakingType (comparator.compare expected actual override).changes name ↔
      ∃ f g, expected.field? name = some f ∧ actual.field? name = some g ∧ ¬TypeOk f g := by
  constructor
  · rintro ⟨c, hc, htype, hbreaking, rfl⟩
    obtain ⟨name, f, g, hf, hg, hc⟩ | ⟨name, f, -, -, rfl⟩ | ⟨p, -, rfl⟩ :=
      (mem_changes_iff hactive hno).mp hc
    · obtain hc | hc := List.mem_append.mp hc
      · obtain hc | hc := List.mem_append.mp hc
        · obtain ⟨-, rfl, hiff⟩ := of_mem_typeChange hc
          exact ⟨f, g, hf, hg, hiff.mp hbreaking⟩
        · rw [of_mem_requiredChange hc] at htype
          cases htype
      · obtain h | h := of_mem_enumChange hc <;> rw [h] at htype <;> cases htype
    · rw [changeType_missingChange] at htype
      split_ifs at htype
    · rw [changeType_newChange] at htype
      cases htype
  · rintro ⟨f, g, hf, hg, hnot⟩
    have hne : typeChange (text "field " ++ quoted name) name f g ≠ [] :=
      fun h => hnot (Or.inl (typeChange_eq_nil_iff.mp h))
    obtain ⟨c, hc⟩ := List.exists_mem_of_ne_nil _ hne
    obtain ⟨htype, hfield, hiff⟩ := of_mem_typeChange hc
    refine ⟨c, ?_, htype, hiff.mpr hnot, hfield⟩
    refine (mem_changes_iff hactive hno).mpr (Or.inl ⟨name, f, g, hf, hg, ?_⟩)
    exact List.mem_append_left _ (List.mem_append_left _ hc)

end

/-- The changes are empty exactly between schemas with the same fields. -/
def Exact (comparator : SchemaComparator) (expected actual : EventSchema)
    (override : Option (List (Text × Text))) : Prop :=
  (comparator.compare expected actual override).changes = [] ↔ SameFields expected actual

/-- No difference is missed, and one is made up exactly where an entry of the map applies between
schemas with the same fields. -/
theorem exact_iff (comparator : SchemaComparator) (expected actual : EventSchema)
    (override : Option (List (Text × Text))) :
    Exact comparator expected actual override ↔
      ¬(SameFields expected actual ∧
        RenameApplies (override.getD comparator.renameMap) expected actual) := by
  rw [Exact, changes_eq_nil_iff rfl]
  tauto

/-- Two fields and a map from one to the other. -/
def customers : EventSchema where
  schemaVersion := "1.0"
  fields := [("customer_id", ⟨"string", true, none⟩), ("customer", ⟨"string", false, none⟩)]
  nodup := by decide

/-- Compared with itself, the schema has a column that is said to be renamed. -/
theorem not_exact_customers :
    ¬Exact ⟨[("customer_id", "customer")]⟩ customers customers none := by
  intro h
  have hsame : SameFields customers customers :=
    ⟨fun _ => rfl, fun name f g hf hg => by
      rw [hf] at hg
      obtain rfl := Option.some.inj hg
      exact ⟨rfl, rfl, fun _ => Iff.rfl⟩⟩
  have hlength : ((⟨[("customer_id", "customer")]⟩ : SchemaComparator).compare customers customers
      none).changes.length = 1 := by
    decide +kernel
  rw [h.mpr hsame] at hlength
  cases hlength

/-! ## The order of the fields -/

/-- The same version and the same fields in another order. -/
structure Reordered (s s' : EventSchema) : Prop where
  version : s.schemaVersion = s'.schemaVersion
  fields : s.fields.Perm s'.fields

theorem Reordered.field? {s s' : EventSchema} (h : Reordered s s') (name : Text) :
    s.field? name = s'.field? name := by
  apply Option.ext
  intro f
  rw [field?_eq_some_iff, field?_eq_some_iff, h.fields.mem_iff]

section

variable {renameMap : List (Text × Text)} {expected expected' actual actual' : EventSchema}

theorem Reordered.inspectField (h : Reordered actual actual') (p : Text × FieldSchema) :
    inspectField renameMap actual p = inspectField renameMap actual' p := by
  have hrenamed : renamedTo renameMap actual p.1 = renamedTo renameMap actual' p.1 := by
    simp only [renamedTo, h.field?]
  simp only [Schema.inspectField, hrenamed, h.field?]

theorem inspected_perm (h : Reordered expected expected') (h' : Reordered actual actual') :
    (expected.fields.map (inspectField renameMap actual)).Perm
      (expected'.fields.map (inspectField renameMap actual')) := by
  rw [funext (h'.inspectField)]
  exact h.fields.map _

theorem isNew_congr (h : Reordered expected expected') (h' : Reordered actual actual')
    (name : Text) :
    isNew expected (matchedColumns renameMap expected actual) name =
      isNew expected' (matchedColumns renameMap expected' actual') name := by
  have hmatched : (matchedColumns renameMap expected actual).Perm
      (matchedColumns renameMap expected' actual') := (inspected_perm h h').filterMap _
  apply Bool.eq_iff_iff.mpr
  rw [isNew_iff, isNew_iff, hmatched.mem_iff, h.field?]

/-- The changes are the same, in another order. -/
theorem changes_perm (comparator : SchemaComparator) (override : Option (List (Text × Text)))
    (h : Reordered expected expected') (h' : Reordered actual actual') :
    (comparator.compare expected actual override).changes.Perm
      (comparator.compare expected' actual' override).changes := by
  rw [compare_changes rfl, compare_changes rfl]
  apply List.Perm.append
  · exact (inspected_perm h h').flatMap_right _
  · simp only [isNew_congr h h']
    exact (h'.fields.filter _).map _

end

/-- What breaks is critical, and nothing else is. -/
def Consistent (c : SchemaChange) : Prop := c.classification = .breaking ↔ c.severity = .critical

theorem consistent_typeChange (what field : Text) (f g : FieldSchema) :
    ∀ c ∈ typeChange what field f g, Consistent c := by
  unfold typeChange Consistent
  split_ifs <;> simp

theorem consistent_requiredChange (name : Text) (f g : FieldSchema) :
    ∀ c ∈ requiredChange name f g, Consistent c := by
  unfold requiredChange Consistent
  split_ifs <;> simp

theorem consistent_enumChange (name : Text) (f g : FieldSchema) :
    ∀ c ∈ enumChange name f g, Consistent c := by
  unfold enumChange Consistent
  split_ifs
  · simp
  · intro c hc
    obtain hc | hc := List.mem_append.mp hc
    · split_ifs at hc
      · cases hc
      · obtain rfl := List.mem_singleton.mp hc
        simp
    · split_ifs at hc
      · cases hc
      · obtain rfl := List.mem_singleton.mp hc
        simp

theorem consistent_missingChange (name : Text) (f : FieldSchema) :
    Consistent (missingChange name f) := by
  unfold missingChange Consistent
  split_ifs <;> simp

theorem consistent_newChange (name : Text) (g : FieldSchema) : Consistent (newChange name g) := by
  unfold newChange Consistent
  split_ifs <;> simp

theorem consistent_inspectField (renameMap : List (Text × Text)) (actual : EventSchema)
    (p : Text × FieldSchema) : ∀ c ∈ (inspectField renameMap actual p).1, Consistent c := by
  rw [inspectField]
  cases renamedTo renameMap actual p.1 with
  | some renamed =>
    refine List.forall_mem_cons.mpr ⟨?_, consistent_typeChange _ _ _ _⟩
    simp [Consistent, renamedChange]
  | none =>
    cases actual.field? p.1 with
    | none => exact List.forall_mem_singleton.mpr (consistent_missingChange ..)
    | some g =>
      refine List.forall_mem_append.mpr ⟨?_, consistent_enumChange _ _ _⟩
      exact List.forall_mem_append.mpr ⟨consistent_typeChange _ _ _ _, consistent_requiredChange _ _ _⟩

theorem consistent_changes (comparator : SchemaComparator) (expected actual : EventSchema)
    (override : Option (List (Text × Text))) :
    ∀ c ∈ (comparator.compare expected actual override).changes, Consistent c := by
  rw [compare_changes rfl, List.forall_mem_append]
  constructor
  · rw [List.forall_mem_flatMap, List.forall_mem_map]
    exact fun p _ => consistent_inspectField _ _ _
  · rw [List.forall_mem_map]
    exact fun p _ => consistent_newChange ..

/-- The verdict is against a pair exactly when a change is critical. -/
theorem compatible_eq_false_iff (comparator : SchemaComparator) (expected actual : EventSchema)
    (override : Option (List (Text × Text))) :
    (comparator.compare expected actual override).compatible = false ↔
      ∃ c ∈ (comparator.compare expected actual override).changes, c.severity = .critical := by
  change (!List.any _ _) = false ↔ _
  rw [Bool.not_eq_false', List.any_eq_true]
  simp only [beq_iff_eq]
  rfl

/-- Some change has the severity. -/
def CompatibilityResult.has (r : CompatibilityResult) (severity : Severity) : Bool :=
  r.changes.any fun c => c.severity == severity

theorem compare_classification (comparator : SchemaComparator) (expected actual : EventSchema)
    (override : Option (List (Text × Text))) :
    (comparator.compare expected actual override).classification =
      if (comparator.compare expected actual override).has .critical then .breaking
      else if (comparator.compare expected actual override).has .warning then .warning
      else .compatible := rfl

theorem compare_overallSeverity (comparator : SchemaComparator) (expected actual : EventSchema)
    (override : Option (List (Text × Text))) :
    (comparator.compare expected actual override).overallSeverity =
      if (comparator.compare expected actual override).has .critical then .critical
      else if (comparator.compare expected actual override).has .warning then .warning
      else .info := rfl

/-- What a comparison says does not depend on the order of the fields, and its verdict is that
some change breaks, which is that some change is critical. -/
theorem compare_reordered (comparator : SchemaComparator) (override : Option (List (Text × Text)))
    (expected actual : EventSchema) :
    (∀ expected' actual', Reordered expected expected' → Reordered actual actual' →
      let r := comparator.compare expected actual override
      let r' := comparator.compare expected' actual' override
      r.changes.Perm r'.changes ∧ r.classification = r'.classification ∧
        r.overallSeverity = r'.overallSeverity ∧ r.compatible = r'.compatible) ∧
    let r := comparator.compare expected actual override
    (r.compatible = false ↔ ∃ c ∈ r.changes, c.classification = .breaking) ∧
      (r.compatible = false ↔ ∃ c ∈ r.changes, c.severity = .critical) := by
  constructor
  · intro expected' actual' h h'
    have hperm := changes_perm comparator override h h'
    have hhas (severity : Severity) :
        (comparator.compare expected actual override).has severity =
          (comparator.compare expected' actual' override).has severity := hperm.any_eq
    refine ⟨hperm, ?_, ?_, congrArg (! ·) (hhas .critical)⟩
    · rw [compare_classification, compare_classification, hhas, hhas]
    · rw [compare_overallSeverity, compare_overallSeverity, hhas, hhas]
  · have hcritical := compatible_eq_false_iff comparator expected actual override
    refine ⟨hcritical.trans ?_, hcritical⟩
    refine exists_congr fun c => and_congr_right fun hc => ?_
    exact (consistent_changes comparator expected actual override c hc).symm

def customersReversed : EventSchema where
  schemaVersion := "1.0"
  fields := [("customer", ⟨"string", false, none⟩), ("customer_id", ⟨"string", true, none⟩)]
  nodup := by decide

/-- Neither the optional nor the required column comes first for the comparison. -/
theorem compare_reordered_customers :
    ((SchemaComparator.mk []).compare customers ⟨"2.0", [], List.nodup_nil⟩).changes.Perm
        ((SchemaComparator.mk []).compare customersReversed ⟨"2.0", [], List.nodup_nil⟩).changes ∧
      ∃ c ∈ ((SchemaComparator.mk []).compare customers ⟨"2.0", [], List.nodup_nil⟩).changes,
        c.severity = .critical := by
  have h := compare_reordered ⟨[]⟩ none customers ⟨"2.0", [], List.nodup_nil⟩
  constructor
  · exact (h.1 customersReversed _ ⟨rfl, List.Perm.swap ..⟩ ⟨rfl, List.Perm.refl _⟩).1
  · exact h.2.2.mp (by decide +kernel)

end IceStream.Schema
