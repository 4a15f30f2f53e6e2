import IceStream.Schema.Compatibility
import Mathlib.Topology.Basic

/-!
# Events of a compatible schema

A verdict of compatibility is to mean that every event of the old schema is one
of the new schema, up to promotion of its types. What a value's types are is left
open; an enum lists texts.
-/

namespace IceStream.Schema
open Python

/-- The type a value is inferred to have. -/
def inferTypeFromValue : Json → Text
  | .null => "string"
  | .bool _ => "boolean"
  | .int _ => "integer"
  | .float _ => "float"
  | .obj _ => "object"
  | .arr _ => "array"
  | .str _ => "string"

section

variable (typed : Json → Text → Prop)

def FieldSchema.Allows (f : FieldSchema) (v : Json) : Prop :=
  ∀ values, f.enum = some values → ∃ x ∈ values, v = .str x

/-- The value is one of the field as it is declared. -/
def FieldSchema.Holds (f : FieldSchema) (v : Json) : Prop := typed v f.type ∧ f.Allows v

/-- The value is one of the field, or of a type that is promoted to the one declared. -/
def FieldSchema.Accepts (g : FieldSchema) (v : Json) : Prop :=
  (∃ t, typed v t ∧ (t = g.type ∨ isTypeCompatible t g.type = true)) ∧ g.Allows v

/-- Required fields are present, and what is present of the declared fields is admitted. -/
structure Conforms (admits : FieldSchema → Json → Prop) (s : EventSchema) (e : Dict) : Prop where
  present : ∀ name f, s.field? name = some f → f.required = true → ∃ v, e.get? name = some v
  admitted : ∀ name f v, s.field? name = some f → e.get? name = some v → admits f v

/-- Nothing stands in the event under a name that only the new schema declares. -/
def WithoutAdded (old new : EventSchema) (e : Dict) : Prop :=
  ∀ name, old.field? name = none → new.field? name ≠ none → e.get? name = none

/-- Events of the old schema are events of the new one. -/
def Sound (old new : EventSchema) : Prop :=
  ∀ e, Conforms (FieldSchema.Holds typed) old e → WithoutAdded old new e →
    Conforms (FieldSchema.Accepts typed) new e

/-- The same of the events that hold anything under the names that are added. -/
def SoundForExtras (old new : EventSchema) : Prop :=
  ∀ e, Conforms (FieldSchema.Holds typed) old e → Conforms (FieldSchema.Accepts typed) new e

/-- Every field that an event has to have can hold something. -/
def Fillable (s : EventSchema) : Prop :=
  ∀ name f, s.field? name = some f → f.required = true → ∃ v, f.Holds typed v

/-- A field without an enum gets one that leaves out a value of its type. -/
def ImposesEnum (old new : EventSchema) : Prop :=
  ∃ name f g v, old.field? name = some f ∧ new.field? name = some g ∧ f.enum = none ∧
    typed v f.type ∧ ¬g.Allows v

/-- An added field refuses no value. -/
def AddsAnything (old new : EventSchema) : Prop :=
  ∀ name g v, old.field? name = none → new.field? name = some g → g.Accepts typed v

variable {typed} {old new : EventSchema}

theorem Conforms.fillable {e : Dict} (h : Conforms (FieldSchema.Holds typed) old e) :
    Fillable typed old := by
  intro name f hf hrequired
  obtain ⟨v, hv⟩ := h.present name f hf hrequired
  exact ⟨v, h.admitted name f v hf hv⟩

theorem Compatible.conforms (hcompatible : Compatible old new) (h : ¬ImposesEnum typed old new)
    {e : Dict} (he : Conforms (FieldSchema.Holds typed) old e)
    (hadded : ∀ name g v, old.field? name = none → new.field? name = some g →
      e.get? name = some v → g.Accepts typed v) :
    Conforms (FieldSchema.Accepts typed) new e := by
  constructor
  · intro name g hg hrequired
    cases hf : old.field? name with
    | none =>
      have hoptional := hcompatible.added name g hf hg
      rw [hrequired] at hoptional
      cases hoptional
    | some f => exact he.present name f hf ((hcompatible.kept name f g hf hg).required hrequired)
  · intro name g v hg hv
    cases hf : old.field? name with
    | none => exact hadded name g v hf hg hv
    | some f =>
      have hok := hcompatible.kept name f g hf hg
      obtain ⟨htyped, hallows⟩ := he.admitted name f v hf hv
      refine ⟨⟨f.type, htyped, hok.type⟩, ?_⟩
      cases henum : f.enum with
      | none => exact not_not.mp fun hrefuses => h ⟨name, f, g, v, hf, hg, henum, htyped, hrefuses⟩
      | some values =>
        -- an enum that was there has only grown
        intro values' henum'
        obtain ⟨x, hx, rfl⟩ := hallows values henum
        have hmem : x ∈ g.enumSet := hok.enum x (by rw [FieldSchema.enumSet, henum]; exact hx)
        rw [FieldSchema.enumSet, henum'] at hmem
        exact ⟨x, hmem, rfl⟩

open Classical in
/-- An event with the required fields only. -/
noncomputable def leastEvent (typed : Json → Text → Prop) (s : EventSchema) : Dict :=
  s.fields.filterMap fun p =>
    if p.2.required = true then some (p.1, Classical.epsilon (p.2.Holds typed)) else none

theorem mem_of_get?_eq_some {d : Dict} {k : Text} {v : Json} (h : d.get? k = some v) :
    (k, v) ∈ d := by
  induction d with
  | nil => cases h
  | cons p d ih =>
    rw [Dict.get?, List.lookup_cons] at h
    by_cases hk : k = p.1
    · subst hk
      simp only [BEq.rfl, Option.some.injEq] at h
      exact List.mem_cons.mpr (.inl (Prod.ext rfl h.symm))
    · have hne : (k == p.1) = false := by simpa using hk
      rw [hne] at h
      exact List.mem_cons_of_mem p (ih h)

theorem get?_of_mem {d : Dict} {k : Text} {v : Json} (h : (k, v) ∈ d) : ∃ w, d.get? k = some w := by
  induction d with
  | nil => cases h
  | cons p d ih =>
    rw [Dict.get?, List.lookup_cons]
    by_cases hk : k = p.1
    · exact ⟨p.2, by simp [hk]⟩
    · have hne : (k == p.1) = false := by simpa using hk
      rw [hne]
      obtain rfl | h := List.mem_cons.mp h
      · exact absurd rfl hk
      · exact ih h

theorem leastEvent_conforms (h : Fillable typed old) :
    Conforms (FieldSchema.Holds typed) old (leastEvent typed old) := by
  constructor
  · intro name f hf hrequired
    refine get?_of_mem (v := Classical.epsilon (f.Holds typed)) ?_
    exact List.mem_filterMap.mpr ⟨(name, f), field?_eq_some_iff.mp hf, if_pos hrequired⟩
  · intro name f v hf hv
    obtain ⟨p, hp, heq⟩ := List.mem_filterMap.mp (mem_of_get?_eq_some hv)
    split_ifs at heq with hrequired
    cases heq
    have hsame : p.2 = f := Option.some.inj ((field?_eq_some_iff.mpr hp).symm.trans hf)
    subst hsame
    exact Classical.epsilon_spec (h p.1 p.2 hf hrequired)

/-- A value may be put under any declared name that holds it. -/
theorem Conforms.set {e : Dict} (h : Conforms (FieldSchema.Holds typed) old e) {name : Text} {v : Json}
    (hv : ∀ f, old.field? name = some f → f.Holds typed v) :
    Conforms (FieldSchema.Holds typed) old (e.set name v) := by
  constructor
  · intro name' f hf hrequired
    by_cases hname : name' = name
    · subst hname
      exact ⟨v, Dict.get?_set e name' v⟩
    · rw [Dict.get?_set_of_ne e v hname]
      exact h.present name' f hf hrequired
  · intro name' f w hf hw
    by_cases hname : name' = name
    · subst hname
      rw [Dict.get?_set] at hw
      obtain rfl := Option.some.inj hw
      exact hv f hf
    · rw [Dict.get?_set_of_ne e v hname] at hw
      exact h.admitted name' f w hf hw

theorem leastEvent_withoutAdded : WithoutAdded old new (leastEvent typed old) := by
  intro name hnone _
  cases hv : (leastEvent typed old).get? name with
  | none => rfl
  | some v =>
    obtain ⟨p, hp, heq⟩ := List.mem_filterMap.mp (mem_of_get?_eq_some hv)
    split_ifs at heq
    cases heq
    exact absurd hp (field?_eq_none_iff.mp hnone p.2)

/-- The event with a value that its field does not accept any more. -/
theorem Sound.not_imposesEnum (hsound : Sound typed old new) (hfillable : Fillable typed old) :
    ¬ImposesEnum typed old new := by
  rintro ⟨name, f, g, v, hf, hg, henum, htyped, hrefuses⟩
  have hholds : f.Holds typed v := ⟨htyped, fun values h => by rw [henum] at h; cases h⟩
  have hconforms : Conforms (FieldSchema.Holds typed) old ((leastEvent typed old).set name v) := by
    refine (leastEvent_conforms hfillable).set fun f' hf' => ?_
    obtain rfl : f = f' := Option.some.inj (hf.symm.trans hf')
    exact hholds
  have hforeign : WithoutAdded old new ((leastEvent typed old).set name v) := by
    intro name' hnone hadded
    have hne : name' ≠ name := by
      rintro rfl
      rw [hf] at hnone
      cases hnone
    rw [Dict.get?_set_of_ne _ v hne]
    exact leastEvent_withoutAdded name' hnone hadded
  exact hrefuses ((hsound _ hconforms hforeign).admitted name g v hg (Dict.get?_set _ name v)).2

theorem SoundForExtras.addsAnything (hsound : SoundForExtras typed old new)
    (hfillable : Fillable typed old) : AddsAnything typed old new := by
  intro name g v hnone hg
  have hconforms : Conforms (FieldSchema.Holds typed) old ((leastEvent typed old).set name v) := by
    refine (leastEvent_conforms hfillable).set fun f hf => ?_
    rw [hnone] at hf
    cases hf
  exact (hsound _ hconforms).admitted name g v hg (Dict.get?_set _ name v)

/-- Events of the old schema are events of a compatible one unless a field gets an
enum that it did not have; with extra fields under the names that are added, unless
these refuse something as well. -/
theorem sound_iff (hcompatible : (checkCompatibility old new).compatible = true) :
    (Sound typed old new ↔ (Fillable typed old → ¬ImposesEnum typed old new)) ∧
      (SoundForExtras typed old new ↔
        (Fillable typed old → ¬ImposesEnum typed old new ∧ AddsAnything typed old new)) := by
  have hcompatible := check_iff.mp hcompatible
  refine ⟨⟨Sound.not_imposesEnum, fun h e he hforeign => ?_⟩,
    ⟨fun hsound hfillable => ⟨?_, hsound.addsAnything hfillable⟩, fun h e he => ?_⟩⟩
  · refine hcompatible.conforms (h he.fillable) he fun name g v hnone hg hv => ?_
    have habsent := hforeign name hnone (by rw [hg]; exact Option.some_ne_none g)
    rw [hv] at habsent
    cases habsent
  · exact Sound.not_imposesEnum (fun e he _ => hsound e he) hfillable
  · obtain ⟨himposes, hadds⟩ := h he.fillable
    exact hcompatible.conforms himposes he fun name g v hnone hg _ => hadds name g v hnone hg

end

/-! ## A field that gets an enum -/

/-- A schema with one required field. -/
def statusSchema (type : String) (enum : Option (List Text)) : EventSchema where
  schemaVersion := "s"
  fields := [(text "status", ⟨text type, true, enum⟩)]
  nodup := List.nodup_singleton _

/-- Every value has the type it is inferred to have. -/
def Inferred (v : Json) (t : Text) : Prop := inferTypeFromValue v = t

/-- An integer that becomes a float stays a value of its field. -/
theorem promoted_sound :
    Sound Inferred (statusSchema "integer" none) (statusSchema "float" none) := by
  have hcompatible : (checkCompatibility (statusSchema "integer" none)
      (statusSchema "float" none)).compatible = true := by decide +kernel
  apply (sound_iff hcompatible).1.mpr
  rintro - ⟨name, f, g, v, -, hg, -, -, hrefuses⟩
  have hmem := field?_eq_some_iff.mp hg
  obtain ⟨-, rfl⟩ := Prod.mk.inj (List.mem_singleton.mp hmem)
  exact hrefuses fun values h => by cases h

/-- The field takes any text, then `DONE` only, and the pair is compatible. -/
theorem imposed_enum_unsound :
    (checkCompatibility (statusSchema "string" none)
      (statusSchema "string" (some [text "DONE"]))).compatible = true ∧
    ∃ e, Conforms (FieldSchema.Holds Inferred) (statusSchema "string" none) e ∧
      ¬Conforms (FieldSchema.Accepts Inferred) (statusSchema "string" (some [text "DONE"])) e := by
  refine ⟨by decide +kernel, [(text "status", .str (text "OPEN"))], ⟨?_, ?_⟩, ?_⟩
  · intro name f hf _
    obtain ⟨rfl, -⟩ := Prod.mk.inj (List.mem_singleton.mp (field?_eq_some_iff.mp hf))
    exact ⟨_, rfl⟩
  · intro name f v hf hv
    obtain ⟨rfl, rfl⟩ := Prod.mk.inj (List.mem_singleton.mp (field?_eq_some_iff.mp hf))
    obtain rfl : Json.str (text "OPEN") = v := Option.some.inj hv
    exact ⟨rfl, fun values h => by cases h⟩
  · intro h
    have hallows := (h.admitted (text "status") ⟨text "string", true, some [text "DONE"]⟩
      (.str (text "OPEN")) rfl rfl).2
    obtain ⟨x, hx, hv⟩ := hallows _ rfl
    obtain rfl := List.mem_singleton.mp hx
    have hne : text "OPEN" ≠ text "DONE" := by decide
    exact hne (Json.str.inj hv)

end IceStream.Schema
