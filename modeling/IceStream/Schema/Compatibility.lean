import IceStream.Lib.Json
import Mathlib.Data.List.Dedup

/-!
# Schema compatibility

Two schemas are compared field by field. Every difference is a change with a
severity, and the pair is compatible unless one of them is critical.
-/

namespace IceStream.Schema
open Python

inductive Classification
  | compatible
  | warning
  | breaking
  deriving DecidableEq

def Classification.value : Classification → String
  | compatible => "COMPATIBLE"
  | warning => "WARNING"
  | breaking => "BREAKING"

/-- `BREAKING` is another name of `CRITICAL`. -/
inductive Severity
  | info
  | low
  | medium
  | high
  | warning
  | critical
  deriving DecidableEq

inductive ChangeType
  | missingColumn
  | newColumn
  | typeChange
  | renamedColumn
  | removedColumn
  | fieldRequiredChanged
  | enumValueAdded
  | enumValueRemoved
  deriving DecidableEq

structure FieldSchema where
  type : Text
  required : Bool := true
  enum : Option (List Text) := none

/-- The fields are a `dict`. -/
structure EventSchema where
  schemaVersion : Text
  fields : List (Text × FieldSchema)
  nodup : (fields.map Prod.fst).Nodup

def EventSchema.field? (s : EventSchema) (name : Text) : Option FieldSchema := s.fields.lookup name

structure SchemaChange where
  changeType : ChangeType
  field : Text
  oldValue : Json := .null
  newValue : Json := .null
  expectedType : Option Text := none
  actualType : Option Text := none
  classification : Classification := .compatible
  severity : Severity := .info
  description : Text
  message : Text

structure CompatibilityResult where
  compatible : Bool
  classification : Classification
  oldVersion : Text
  newVersion : Text
  changes : List SchemaChange
  summary : Text
  overallSeverity : Severity

/-! ## Types -/

def supportedTypes : List Text :=
  ["string", "integer", "float", "boolean", "timestamp", "object", "array"].map text

/-- The pairs of an old and a new type that are compatible. -/
def typeCompatibilityMatrix : List (Text × Text) :=
  [("string", "string"), ("integer", "integer"), ("float", "float"), ("boolean", "boolean"),
    ("timestamp", "timestamp"), ("object", "object"), ("array", "array"), ("integer", "long"),
    ("integer", "float"), ("float", "double")].map fun p => (text p.1, text p.2)

def isTypeCompatible (oldType newType : Text) : Bool :=
  typeCompatibilityMatrix.contains (oldType, newType)

/-! ## Changes -/

def comma (ts : List Text) : Text := (text ", ").intercalate ts

/-- The change of a type, named `what` in the texts. -/
def typeChange (what field : Text) (expected actual : FieldSchema) : List SchemaChange :=
  if expected.type = actual.type then []
  else if isTypeCompatible expected.type actual.type then
    let body := text " type promotion for " ++ what ++ text " (" ++ expected.type ++ text " -> " ++
      actual.type ++ text ")"
    [{
      changeType := .typeChange
      field := field
      oldValue := .str expected.type
      newValue := .str actual.type
      expectedType := some expected.type
      actualType := some actual.type
      classification := .compatible
      severity := .info
      description := text "Safe" ++ body
      message := text "INFO: safe" ++ body }]
  else
    let body := text "CRITICAL SCHEMA DRIFT: " ++ field ++ text " changed from " ++ expected.type ++
      text " to " ++ actual.type
    [{
      changeType := .typeChange
      field := field
      oldValue := .str expected.type
      newValue := .str actual.type
      expectedType := some expected.type
      actualType := some actual.type
      classification := .breaking
      severity := .critical
      description := body
      message := body }]

def quoted (name : Text) : Text := text "'" ++ name ++ text "'"

def requiredChange (name : Text) (expected actual : FieldSchema) : List SchemaChange :=
  if expected.required = actual.required then []
  else if !expected.required && actual.required then
    [{
      changeType := .fieldRequiredChanged
      field := name
      oldValue := .bool expected.required
      newValue := .bool actual.required
      expectedType := some expected.type
      actualType := some actual.type
      classification := .breaking
      severity := .critical
      description := text "Field " ++ quoted name ++ text " changed from optional to required"
      message := text "CRITICAL: field " ++ quoted name ++ text " changed from optional to required" }]
  else
    [{
      changeType := .fieldRequiredChanged
      field := name
      oldValue := .bool expected.required
      newValue := .bool actual.required
      expectedType := some expected.type
      actualType := some actual.type
      classification := .compatible
      severity := .info
      description := text "Field " ++ quoted name ++ text " relaxed from required to optional"
      message := text "INFO: field " ++ quoted name ++ text " relaxed from required to optional" }]

/-- `sorted(list(set(ts)))` -/
def sortedSet (ts : List Text) : List Text := ts.dedup.insertionSort (· ≤ ·)

/-- `set(field.enum) if field.enum else set()` -/
def FieldSchema.enumSet (f : FieldSchema) : List Text := f.enum.getD []

def enumChange (name : Text) (expected actual : FieldSchema) : List SchemaChange :=
  if expected.enum.isNone && actual.enum.isNone then []
  else
    let oldEnum := expected.enumSet
    let newEnum := actual.enumSet
    let added := sortedSet (newEnum.filter (· ∉ oldEnum))
    let removed := sortedSet (oldEnum.filter (· ∉ newEnum))
    let change (type : ChangeType) (classification : Classification) (severity : Severity)
        (label verb : String) (values : List Text) : SchemaChange := {
      changeType := type
      field := name
      oldValue := .arr ((sortedSet oldEnum).map Json.str)
      newValue := .arr ((sortedSet newEnum).map Json.str)
      classification := classification
      severity := severity
      description := text "Enum field " ++ quoted name ++ text verb ++ comma values
      message := text label ++ text ": enum field " ++ quoted name ++ text verb ++ comma values }
    (if added.isEmpty then [] else
      [change .enumValueAdded .compatible .info "INFO" " expanded with new value(s): " added]) ++
    (if removed.isEmpty then [] else
      [change .enumValueRemoved .breaking .critical "CRITICAL" " removed value(s): " removed])

/-- The entry of a column that one of the schemas lacks. -/
def columnEntry (f : FieldSchema) : Json :=
  .obj [(text "type", .str f.type), (text "required", .bool f.required)]

def missingChange (name : Text) (expected : FieldSchema) : SchemaChange :=
  if expected.required then {
    changeType := .missingColumn
    field := name
    oldValue := columnEntry expected
    expectedType := some expected.type
    classification := .breaking
    severity := .critical
    description := text "Required column " ++ quoted name ++ text " is missing"
    message := text "CRITICAL SCHEMA DRIFT: required column " ++ quoted name ++ text " is missing" }
  else {
    changeType := .removedColumn
    field := name
    oldValue := columnEntry expected
    expectedType := some expected.type
    classification := .warning
    severity := .warning
    description := text "Optional column " ++ quoted name ++ text " was removed"
    message := text "WARNING: optional column " ++ quoted name ++ text " was removed" }

def newChange (name : Text) (actual : FieldSchema) : SchemaChange :=
  if actual.required then {
    changeType := .newColumn
    field := name
    newValue := columnEntry actual
    actualType := some actual.type
    classification := .breaking
    severity := .critical
    description := text "New required column " ++ quoted name ++ text " added"
    message := text "CRITICAL: new required column " ++ quoted name ++ text " added without default" }
  else {
    changeType := .newColumn
    field := name
    newValue := columnEntry actual
    actualType := some actual.type
    classification := .compatible
    severity := .info
    description := text "New optional column " ++ quoted name ++ text " added"
    message := text "INFO: new optional column " ++ quoted name ++ text " added" }

def renamedChange (name mapped : Text) (expected actual : FieldSchema) : SchemaChange where
  changeType := .renamedColumn
  field := name
  oldValue := .str name
  newValue := .str mapped
  expectedType := some expected.type
  actualType := some actual.type
  classification := .warning
  severity := .warning
  description := text "Column " ++ quoted name ++ text " renamed to " ++ quoted mapped
  message := text "WARNING: column " ++ quoted name ++ text " renamed to " ++ quoted mapped

/-! ## The comparison -/

/-- The column a field was renamed to, when the map names one that is there. -/
def renamedTo (renameMap : List (Text × Text)) (actual : EventSchema) (name : Text) :
    Option (Text × FieldSchema) :=
  match renameMap.lookup name with
  | none => none
  | some mapped =>
    if mapped.isEmpty then none else (actual.field? mapped).map fun g => (mapped, g)

/-- What a field of the expected schema adds to the changes, and the column it is matched with. -/
def inspectField (renameMap : List (Text × Text)) (actual : EventSchema) (p : Text × FieldSchema) :
    List SchemaChange × Option Text :=
  match renamedTo renameMap actual p.1 with
  | some (mapped, g) =>
    (renamedChange p.1 mapped p.2 g :: typeChange (quoted mapped) mapped p.2 g, some mapped)
  | none =>
    match actual.field? p.1 with
    | some g =>
      (typeChange (text "field " ++ quoted p.1) p.1 p.2 g ++ requiredChange p.1 p.2 g ++
        enumChange p.1 p.2 g, some p.1)
    | none => ([missingChange p.1 p.2], none)

def isNew (expected : EventSchema) (matched : List Text) (name : Text) : Bool :=
  !matched.contains name && (expected.field? name).isNone

structure SchemaComparator where
  renameMap : List (Text × Text) := []

/-- `compare`; a rename map of the call stands in for the one of the comparator. -/
def SchemaComparator.compare (comparator : SchemaComparator) (expected actual : EventSchema)
    (renameMap : Option (List (Text × Text)) := none) : CompatibilityResult :=
  let active := renameMap.getD comparator.renameMap
  let inspected := expected.fields.map (inspectField active actual)
  let matched := inspected.filterMap Prod.snd
  let added := (actual.fields.filter fun p => isNew expected matched p.1).map fun p => newChange p.1 p.2
  let changes := inspected.flatMap Prod.fst ++ added
  let has (severity : Severity) : Bool := changes.any fun c => c.severity == severity
  let compatible := !has .critical
  let overallSeverity := if has .critical then .critical
    else if has .warning then .warning else .info
  let classification := if has .critical then .breaking
    else if has .warning then .warning else .compatible
  let versions := text " from " ++ expected.schemaVersion ++ text " to " ++ actual.schemaVersion
  let summary := if changes.isEmpty then
      text "Schema " ++ expected.schemaVersion ++ text " and " ++ actual.schemaVersion ++
        text " are identical."
    else if compatible then
      text "Schema evolution" ++ versions ++ text " is " ++ text classification.value ++
        text s!" ({changes.length} change(s) detected)."
    else
      text "Schema evolution" ++ versions ++ text " is BREAKING (" ++
        text (toString (changes.countP fun c => c.severity == .critical)) ++
        text s!" critical change(s) detected out of {changes.length} total)."
  { compatible := compatible
    classification := classification
    oldVersion := expected.schemaVersion
    newVersion := actual.schemaVersion
    changes := changes
    summary := summary
    overallSeverity := overallSeverity }

def checkCompatibility (oldSchema newSchema : EventSchema)
    (renameMap : Option (List (Text × Text)) := none) : CompatibilityResult :=
  (SchemaComparator.mk (renameMap.getD [])).compare oldSchema newSchema

/-! ## What makes a pair compatible -/

theorem field?_eq_some_iff {s : EventSchema} {name : Text} {f : FieldSchema} :
    s.field? name = some f ↔ (name, f) ∈ s.fields := by
  obtain ⟨version, fields, hnodup⟩ := s
  change fields.lookup name = some f ↔ (name, f) ∈ fields
  induction fields with
  | nil => simp
  | cons p fields ih =>
    obtain ⟨hfresh, hnodup⟩ := List.nodup_cons.mp hnodup
    by_cases hname : name = p.1
    · subst hname
      rw [List.lookup_cons_self, Option.some.injEq, List.mem_cons]
      constructor
      · intro h
        exact .inl (Prod.ext rfl h.symm)
      · rintro (h | h)
        · exact (congrArg Prod.snd h).symm
        · exact absurd (List.mem_map_of_mem h) hfresh
    · have hne : (name == p.1) = false := by simpa using hname
      rw [List.lookup_cons, hne, List.mem_cons]
      have hhead : (name, f) ≠ p := fun h => hname (congrArg Prod.fst h)
      simp only [hhead, false_or]
      exact ih hnodup

/-- None of the changes breaks. -/
def Harmless (changes : List SchemaChange) : Prop := ∀ c ∈ changes, c.severity ≠ .critical

/-- A value of the one type will do for the other. -/
def TypeOk (f g : FieldSchema) : Prop := f.type = g.type ∨ isTypeCompatible f.type g.type = true

def RequiredOk (f g : FieldSchema) : Prop := g.required = true → f.required = true

/-- No value is removed from the enum; one that is not declared is an empty one. -/
def EnumOk (f g : FieldSchema) : Prop := ∀ x ∈ f.enumSet, x ∈ g.enumSet

/-- The three checks that are made of a field in both schemas. -/
structure FieldOk (f g : FieldSchema) : Prop where
  type : TypeOk f g
  required : RequiredOk f g
  enum : EnumOk f g

theorem harmless_nil : Harmless [] := fun _ hc => absurd hc List.not_mem_nil

theorem harmless_singleton {c : SchemaChange} : Harmless [c] ↔ c.severity ≠ .critical :=
  List.forall_mem_singleton

theorem harmless_append {cs ds : List SchemaChange} :
    Harmless (cs ++ ds) ↔ Harmless cs ∧ Harmless ds := List.forall_mem_append

theorem harmless_typeChange {what field : Text} {f g : FieldSchema} :
    Harmless (typeChange what field f g) ↔ TypeOk f g := by
  unfold typeChange TypeOk
  split_ifs with hsame hcompatible
  · simp [hsame, harmless_nil]
  · simp [hcompatible, harmless_singleton]
  · simp [hsame, hcompatible, harmless_singleton]

theorem harmless_requiredChange {name : Text} {f g : FieldSchema} :
    Harmless (requiredChange name f g) ↔ RequiredOk f g := by
  unfold requiredChange RequiredOk
  cases f.required <;> cases g.required <;> simp [harmless_nil, harmless_singleton]

theorem sortedSet_isEmpty {ts : List Text} : (sortedSet ts).isEmpty = ts.isEmpty := by
  rw [Bool.eq_iff_iff, List.isEmpty_iff, List.isEmpty_iff, sortedSet]
  constructor
  · intro h
    have hperm := (List.perm_insertionSort (· ≤ ·) ts.dedup).symm
    rw [h] at hperm
    exact (List.dedup_eq_nil ts).mp hperm.eq_nil
  · rintro rfl
    rfl

theorem harmless_enumChange {name : Text} {f g : FieldSchema} :
    Harmless (enumChange name f g) ↔ EnumOk f g := by
  unfold enumChange EnumOk
  split_ifs with hnone
  · have hf : f.enumSet = [] := by
      simp only [Bool.and_eq_true, Option.isNone_iff_eq_none] at hnone
      rw [FieldSchema.enumSet, hnone.1]
      rfl
    simp [hf, harmless_nil]
  · simp only [sortedSet_isEmpty, harmless_append]
    have hadded (c : SchemaChange) (hc : c.severity ≠ .critical) (b : Bool) :
        Harmless (if b then [] else [c]) := by
      cases b with
      | true => exact harmless_nil
      | false => exact harmless_singleton.mpr hc
    rw [and_iff_right (hadded _ Severity.noConfusion _)]
    split_ifs with hremoved
    · rw [List.isEmpty_iff, List.filter_eq_nil_iff] at hremoved
      refine iff_of_true harmless_nil fun x hx => ?_
      simpa using hremoved x hx
    · rw [List.isEmpty_iff, List.filter_eq_nil_iff] at hremoved
      simp only [harmless_singleton, ne_eq, not_true_eq_false, false_iff]
      intro h
      exact hremoved fun x hx => by simpa using h x hx

theorem harmless_missingChange {name : Text} {f : FieldSchema} :
    Harmless [missingChange name f] ↔ f.required = false := by
  unfold missingChange
  cases f.required <;> simp [harmless_singleton]

theorem newChange_severity {name : Text} {g : FieldSchema} :
    (newChange name g).severity ≠ .critical ↔ g.required = false := by
  unfold newChange
  cases g.required <;> simp

section

variable {renameMap : List (Text × Text)} {expected actual : EventSchema}

theorem harmless_inspectField_renamed {p : Text × FieldSchema} {mapped : Text} {g : FieldSchema}
    (h : renamedTo renameMap actual p.1 = some (mapped, g)) :
    Harmless (inspectField renameMap actual p).1 ↔ TypeOk p.2 g := by
  have hrenamed : (renamedChange p.1 mapped p.2 g).severity ≠ .critical := by
    simp [renamedChange]
  have hinspect : (inspectField renameMap actual p).1 =
      [renamedChange p.1 mapped p.2 g] ++ typeChange (quoted mapped) mapped p.2 g := by
    rw [inspectField, h]
    rfl
  rw [hinspect, harmless_append, harmless_singleton, harmless_typeChange, and_iff_right hrenamed]

theorem harmless_inspectField_matched {p : Text × FieldSchema} {g : FieldSchema}
    (hrenamed : renamedTo renameMap actual p.1 = none) (h : actual.field? p.1 = some g) :
    Harmless (inspectField renameMap actual p).1 ↔ FieldOk p.2 g := by
  rw [inspectField, hrenamed, h]
  simp only [harmless_append, harmless_typeChange, harmless_requiredChange, harmless_enumChange]
  exact ⟨fun ⟨⟨htype, hrequired⟩, henum⟩ => ⟨htype, hrequired, henum⟩,
    fun h => ⟨⟨h.type, h.required⟩, h.enum⟩⟩

theorem harmless_inspectField_missing {p : Text × FieldSchema}
    (hrenamed : renamedTo renameMap actual p.1 = none) (h : actual.field? p.1 = none) :
    Harmless (inspectField renameMap actual p).1 ↔ p.2.required = false := by
  rw [inspectField, hrenamed, h]
  exact harmless_missingChange

/-- The columns that the fields of the expected schema are matched with. -/
def matchedColumns (renameMap : List (Text × Text)) (expected actual : EventSchema) : List Text :=
  (expected.fields.map (inspectField renameMap actual)).filterMap Prod.snd

theorem compatible_iff {comparator : SchemaComparator} {override : Option (List (Text × Text))}
    (hactive : override.getD comparator.renameMap = renameMap) :
    (comparator.compare expected actual override).compatible = true ↔
      (∀ p ∈ expected.fields, Harmless (inspectField renameMap actual p).1) ∧
        ∀ p ∈ actual.fields, isNew expected (matchedColumns renameMap expected actual) p.1 = true →
          p.2.required = false := by
  subst hactive
  have hany (changes : List SchemaChange) :
      (!changes.any fun c => c.severity == .critical) = true ↔ Harmless changes := by
    simp [Harmless]
  have hadded (names : Text → Bool) :
      Harmless ((actual.fields.filter fun p => names p.1).map fun p => newChange p.1 p.2) ↔
        ∀ p ∈ actual.fields, names p.1 = true → p.2.required = false := by
    rw [Harmless, List.forall_mem_map]
    simp only [newChange_severity, List.mem_filter, and_imp]
  refine (hany _).trans (harmless_append.trans (and_congr ?_ (hadded _)))
  rw [Harmless, List.forall_mem_flatMap, List.forall_mem_map]
  exact Iff.rfl

end

/-- What a compatible pair without renames has to meet. -/
structure Compatible (old new : EventSchema) : Prop where
  kept : ∀ name f g, old.field? name = some f → new.field? name = some g → FieldOk f g
  dropped : ∀ name f, old.field? name = some f → new.field? name = none → f.required = false
  added : ∀ name g, old.field? name = none → new.field? name = some g → g.required = false

section

variable {old new : EventSchema}

@[simp] theorem renamedTo_nil (name : Text) : renamedTo [] new name = none := rfl

theorem field?_eq_none_iff {s : EventSchema} {name : Text} :
    s.field? name = none ↔ ∀ f, (name, f) ∉ s.fields := by
  constructor
  · intro h f hmem
    rw [field?_eq_some_iff.mpr hmem] at h
    cases h
  · intro h
    cases hf : s.field? name with
    | none => rfl
    | some f => exact absurd (field?_eq_some_iff.mp hf) (h f)

/-- A field is matched with the column of its own name. -/
theorem mem_matchedColumns_nil {name : Text} :
    name ∈ matchedColumns [] old new ↔
      (∃ f, old.field? name = some f) ∧ ∃ g, new.field? name = some g := by
  have hmatch (p : Text × FieldSchema) :
      (inspectField [] new p).2 = some name ↔ p.1 = name ∧ ∃ g, new.field? p.1 = some g := by
    rw [inspectField, renamedTo_nil]
    cases new.field? p.1 <;> simp
  simp only [matchedColumns, List.mem_filterMap, List.mem_map, exists_exists_and_eq_and, hmatch]
  constructor
  · rintro ⟨⟨name', f⟩, hmem, rfl, hg⟩
    exact ⟨⟨f, field?_eq_some_iff.mpr hmem⟩, hg⟩
  · rintro ⟨⟨f, hf⟩, hg⟩
    exact ⟨(name, f), field?_eq_some_iff.mp hf, rfl, hg⟩

theorem isNew_iff {matched : List Text} {name : Text} :
    isNew old matched name = true ↔ name ∉ matched ∧ old.field? name = none := by
  simp [isNew]

/-- Without renames, the verdict is that of `Compatible`. -/
theorem check_iff : (checkCompatibility old new).compatible = true ↔ Compatible old new := by
  have hactive : (none : Option (List (Text × Text))).getD [] = [] := rfl
  refine (compatible_iff hactive).trans ?_
  have hnew (name : Text) :
      isNew old (matchedColumns [] old new) name = true ↔ old.field? name = none := by
    rw [isNew_iff, mem_matchedColumns_nil]
    refine and_iff_right_of_imp fun hnone => ?_
    rintro ⟨⟨f, hf⟩, -⟩
    rw [hnone] at hf
    cases hf
  constructor
  · rintro ⟨hfields, hadded⟩
    refine ⟨fun name f g hf hg => ?_, fun name f hf hnone => ?_, fun name g hnone hg => ?_⟩
    · exact (harmless_inspectField_matched (renamedTo_nil name) hg).mp
        (hfields _ (field?_eq_some_iff.mp hf))
    · exact (harmless_inspectField_missing (renamedTo_nil name) hnone).mp
        (hfields _ (field?_eq_some_iff.mp hf))
    · exact hadded _ (field?_eq_some_iff.mp hg) ((hnew name).mpr hnone)
  · intro h
    refine ⟨fun p hp => ?_, fun p hp hisNew => ?_⟩
    · have hf := field?_eq_some_iff.mpr hp
      cases hg : new.field? p.1 with
      | none =>
        exact (harmless_inspectField_missing (renamedTo_nil p.1) hg).mpr (h.dropped _ _ hf hg)
      | some g =>
        exact (harmless_inspectField_matched (renamedTo_nil p.1) hg).mpr (h.kept _ _ _ hf hg)
    · exact h.added _ _ ((hnew p.1).mp hisNew) (field?_eq_some_iff.mpr hp)

end

end IceStream.Schema
