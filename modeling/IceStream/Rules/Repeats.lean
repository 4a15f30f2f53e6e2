import IceStream.Detectors.DuplicateLaw
import IceStream.Lib.Blind
import IceStream.Rules.OneByOne

/-!
# What the default rules remember

All but the two detectors of duplicates judge an event by itself, at the time they are asked.
-/

namespace IceStream
open Python Schema Metrics Fallible

/-! ## Schemas -/

/-- What has been cached is what would be found without. -/
def SchemaRegistry.Coherent (files : SchemaFiles) (r : SchemaRegistry) : Prop :=
  ∀ version, (SchemaRegistry.find files version r).1 = (SchemaRegistry.find files version .loaded).1

section

variable {files : SchemaFiles}

theorem coherent_loaded (files : SchemaFiles) : SchemaRegistry.Coherent files .loaded :=
  fun _ => rfl

/-- What is not cached is read from its file. -/
theorem find_answer (files : SchemaFiles) (version : Text) (r : SchemaRegistry) :
    (SchemaRegistry.find files version r).1 =
      (r.schemas.lookup version).elim (files version) fun schema => .ok (some schema) := by
  unfold SchemaRegistry.find
  cases r.schemas.lookup version with
  | some schema => rfl
  | none =>
    cases files version with
    | error e => rfl
    | ok found => cases found <;> rfl

theorem SchemaRegistry.Coherent.find {r : SchemaRegistry} (h : SchemaRegistry.Coherent files r)
    (version : Text) : SchemaRegistry.Coherent files (SchemaRegistry.find files version r).2 := by
  intro other
  rw [← h other]
  cases hlookup : r.schemas.lookup version with
  | some schema => simp only [SchemaRegistry.find, hlookup]
  | none =>
    rcases hfile : files version with e | _ | schema
    · simp only [SchemaRegistry.find, hlookup, hfile]
    · simp only [SchemaRegistry.find, hlookup, hfile]
    · have hcached : (SchemaRegistry.find files version r).2 =
          ⟨r.schemas ++ [(version, schema)]⟩ := by
        simp only [SchemaRegistry.find, hlookup, hfile]
      rw [hcached, find_answer, find_answer, List.lookup_append]
      by_cases hother : other = version
      · rw [hother, hlookup, hfile]
        simp
      · have hbeq : (other == version) = false := beq_eq_false_iff_ne.mpr hother
        simp [List.lookup_cons, hbeq]

/-- Registries that both answer as the directory does. -/
def BothCoherent (files : SchemaFiles) (r r' : SchemaRegistry) : Prop :=
  SchemaRegistry.Coherent files r ∧ SchemaRegistry.Coherent files r'

theorem blind_find (version : Text) :
    Blind (BothCoherent files) (SchemaRegistry.find files version) := by
  intro r r' h
  exact ⟨(h.1 version).trans (h.2 version).symm, h.1.find version, h.2.find version⟩

theorem blind_get (version : Text) :
    Blind (BothCoherent files) (SchemaRegistry.get files version) := by
  refine (blind_find version).bind ?_
  intro found
  cases found with
  | some schema => exact blind_pure schema
  | none =>
    dsimp only
    split
    · refine (blind_find _).bind ?_
      intro major
      cases major with
      | some schema => exact blind_pure schema
      | none => exact blind_raise _
    · exact blind_raise _

theorem blind_check (rule : SchemaDriftRule) (u : Unicode) (event : QualityEvent) :
    Blind (BothCoherent files) (rule.check u files event) := by
  have hexpected : Blind (BothCoherent files) (rule.expectedSchema files) := by
    refine (blind_get _).catching ?_
    intro e
    split
    · exact blind_get _
    · exact blind_raise e
  have hactual : Blind (BothCoherent files) (SchemaDriftRule.actualSchema u files event) := by
    unfold SchemaDriftRule.actualSchema
    split
    · exact blind_pure _
    · split
      · exact blind_pure _
      · refine Blind.catching ((blind_get _).bind fun schema => blind_pure _) ?_
        intro e
        split
        · exact blind_pure _
        · exact blind_raise e
  refine hexpected.bind fun expected => hactual.bind ?_
  intro actual
  cases actual with
  | error version => exact blind_pure _
  | ok actual => exact blind_pure _

end

/-! ## Worlds that differ in the ids they remember -/

/-- The clock and the schemas are the same; the ids and the metrics may not be. -/
structure Alike (files : SchemaFiles) (w w' : RuleWorld) : Prop where
  clock : w.clock = w'.clock
  reads : w.reads = w'.reads
  schemas : BothCoherent files w.schemas w'.schemas

/-- The same of the surroundings of an engine. -/
def AlikeWorlds (files : SchemaFiles) (w w' : EngineWorld) : Prop := Alike files w.1 w'.1

section

variable {platform : Platform} {files : SchemaFiles} {α : Type}

theorem blind_raising {σ : Type} {R : σ → σ → Prop} (result : Except Exc α) :
    Blind R (raising result) := fun _ _ h => ⟨rfl, h⟩

theorem blind_now : Blind (Alike files) RuleWorld.now := by
  intro w w' h
  refine ⟨?_, h.clock, congrArg (· + 1) h.reads, h.schemas⟩
  change Except.ok (w.clock w.reads) = .ok (w'.clock w'.reads)
  rw [h.clock, h.reads]

theorem blind_onSchemas {x : Fallible SchemaRegistry α} (hx : Blind (BothCoherent files) x) :
    Blind (Alike files) (RuleWorld.onSchemas x) := by
  intro w w' h
  obtain ⟨hanswer, hstate⟩ := hx _ _ h.schemas
  exact ⟨hanswer, h.clock, h.reads, hstate⟩

theorem blind_onRules {x : Fallible RuleWorld α} (hx : Blind (Alike files) x) :
    Blind (AlikeWorlds files) (RuleWorld.onRules x) := fun w w' h => hx w.1 w'.1 h

/-- A rule that does not see the ids. -/
def Unaware (files : SchemaFiles) (rule : QualityRule EngineWorld) : Prop :=
  ∀ event, Blind (AlikeWorlds files) (rule.validate event)

theorem unaware_boundedTimeRule (field : QualityField) (bound : TimeBound) :
    Unaware files (boundedTimeRule platform field bound) := by
  intro event
  apply blind_onRules
  refine (blind_raising _).bind ?_
  intro eventTime
  cases eventTime with
  | none => exact blind_pure _
  | some eventTime =>
    have hreference : Blind (Alike files) (referenceTime platform event) := by
      refine (blind_raising _).bind ?_
      intro ingestion
      cases ingestion with
      | none => exact blind_now
      | some ingestion => exact blind_pure _
    refine hreference.bind fun reference => (blind_raising _).bind ?_
    intro allowed
    split <;> exact blind_pure _

theorem unaware_schemaDriftRule (rule : SchemaDriftRule) :
    Unaware platform.schemaFiles (schemaDriftRule platform rule) := by
  intro event
  apply blind_onRules
  apply blind_onSchemas
  exact (blind_check rule _ event).bind fun result => blind_pure _

theorem stateless_valueRules {rule : QualityRule EngineWorld} (h : rule ∈ valueRules platform)
    (event : QualityEvent) : ∃ result, rule.validate event = raising result := by
  simp only [valueRules, List.mem_append, List.mem_cons, List.mem_map, List.not_mem_nil,
    or_false] at h
  obtain (rfl | ⟨p, -, rfl⟩) | rfl | rfl | rfl | rfl | rfl := h <;> exact ⟨_, rfl⟩

theorem unaware_valueRules {rule : QualityRule EngineWorld} (h : rule ∈ valueRules platform) :
    Unaware files rule := by
  intro event
  obtain ⟨result, hresult⟩ := stateless_valueRules h event
  rw [hresult]
  exact blind_raising result

/-- The default rules but for the two that look for duplicates. -/
def otherDetectors (platform : Platform) : List (QualityRule EngineWorld) :=
  [impossibleAmountRule platform.unicode, futureTimestampRule platform, lateEventRule platform,
    schemaDriftRule platform]

theorem unaware_otherDetectors {rule : QualityRule EngineWorld}
    (h : rule ∈ otherDetectors platform) : Unaware platform.schemaFiles rule := by
  simp only [otherDetectors, List.mem_cons, List.not_mem_nil, or_false] at h
  obtain rfl | rfl | rfl | rfl := h
  · exact fun event => blind_raising _
  · exact unaware_boundedTimeRule .eventTime _
  · exact unaware_boundedTimeRule .eventTime _
  · exact unaware_schemaDriftRule _

end

/-! ## Events that pass -/

namespace QualityEngine

section

variable {φ : Type} {event : QualityEvent} {rules rules' : List (QualityRule φ)} {w w' : φ}

def Passes (event : QualityEvent) (rule : QualityRule φ) (w : φ) : Prop :=
  (ownResult rule event (rule.validate event w).1).passed = true

/-- Each rule passes the event, in the state that those before it left. -/
def AllPass (event : QualityEvent) : List (QualityRule φ) → φ → Prop
  | [], _ => True
  | rule :: rules, w => Passes event rule w ∧ AllPass event rules (rule.validate event w).2

/-- The state that the rules leave. -/
def afterRules (event : QualityEvent) (rules : List (QualityRule φ)) (w : φ) : φ :=
  rules.foldl (fun w rule => (rule.validate event w).2) w

theorem OneByOne.state_eq {results : List ValidationResult} (h : OneByOne event rules w results w') :
    w' = afterRules event rules w := by
  induction h with
  | nil w => rfl
  | cons rule h ih => exact ih

theorem OneByOne.allPass_iff {results : List ValidationResult}
    (h : OneByOne event rules w results w') :
    (∀ r ∈ results, r.passed = true) ↔ AllPass event rules w := by
  induction h with
  | nil w => exact iff_of_true (fun _ hr => absurd hr List.not_mem_nil) trivial
  | cons rule h ih => rw [List.forall_mem_cons, ih, AllPass, Passes]

theorem allPass_append :
    AllPass event (rules ++ rules') w ↔
      AllPass event rules w ∧ AllPass event rules' (afterRules event rules w) := by
  induction rules generalizing w with
  | nil => exact (and_iff_right trivial).symm
  | cons rule rules ih => rw [List.cons_append, AllPass, ih, AllPass, and_assoc]; rfl

end

section

variable {files : SchemaFiles} {event : QualityEvent} {rules : List (QualityRule EngineWorld)}
  {w w' : EngineWorld}

/-- Rules that do not see the ids judge alike. -/
theorem allPass_alike (hrules : ∀ rule ∈ rules, Unaware files rule) (h : AlikeWorlds files w w') :
    (AllPass event rules w ↔ AllPass event rules w') ∧
      AlikeWorlds files (afterRules event rules w) (afterRules event rules w') := by
  induction rules generalizing w w' with
  | nil => exact ⟨Iff.rfl, h⟩
  | cons rule rules ih =>
    obtain ⟨hanswer, hstate⟩ := hrules rule List.mem_cons_self event w w' h
    obtain ⟨hrest, hafter⟩ := ih (fun r hr => hrules r (List.mem_cons_of_mem _ hr)) hstate
    refine ⟨?_, hafter⟩
    rw [AllPass, AllPass, Passes, Passes, hanswer, hrest]

/-- Rules that keep no state judge by the event alone. -/
theorem allPass_stateless (hrules : ∀ rule ∈ rules, ∃ result, rule.validate event = raising result) :
    (AllPass event rules w ↔ AllPass event rules w') ∧ afterRules event rules w = w := by
  induction rules with
  | nil => exact ⟨Iff.rfl, rfl⟩
  | cons rule rules ih =>
    obtain ⟨result, hresult⟩ := hrules rule List.mem_cons_self
    obtain ⟨hrest, hafter⟩ := ih fun r hr => hrules r (List.mem_cons_of_mem _ hr)
    have hstate (v : EngineWorld) : (rule.validate event v).2 = v := by
      rw [hresult]
      rfl
    have hpasses : Passes event rule w ↔ Passes event rule w' := by
      rw [Passes, Passes, hresult]
      rfl
    constructor
    · rw [AllPass, AllPass, hstate, hstate, hpasses, hrest]
    · rw [afterRules, List.foldl_cons, hstate]
      exact hafter

/-- Each of them passes an event that all of them pass. -/
theorem passes_of_allPass (hrules : ∀ rule ∈ rules, ∃ result, rule.validate event = raising result)
    (h : AllPass event rules w) : ∀ rule ∈ rules, Passes event rule w := by
  induction rules with
  | nil => exact fun rule hrule => absurd hrule List.not_mem_nil
  | cons rule rules ih =>
    obtain ⟨result, hresult⟩ := hrules rule List.mem_cons_self
    have hstate : (rule.validate event w).2 = w := by
      rw [hresult]
      rfl
    rw [AllPass, hstate] at h
    rw [List.forall_mem_cons]
    exact ⟨h.1, ih (fun r hr => hrules r (List.mem_cons_of_mem _ hr)) h.2⟩

end

end QualityEngine

/-! ## The two that remember -/

namespace DuplicateKind

/-- The clock is read for an event with an id. -/
def asked (kind : DuplicateKind) (u : Unicode) (event : QualityEvent) (w : RuleWorld) : RuleWorld :=
  if (kind.idOf u event).isSome then w.read else w

/-- The id is among those the window has left, or the window begins at no time. -/
def Recalls (kind : DuplicateKind) (u : Unicode) (event : QualityEvent) (w : RuleWorld) : Prop :=
  ∃ id, kind.idOf u event = some id ∧
    ∀ cutoff, addMicros (w.clock w.reads) (-(300 * 1000000)) = .ok cutoff →
      ∃ t, (id, t) ∈ kind.left cutoff w

section

variable {u : Unicode} {kind : DuplicateKind} {event : QualityEvent}

/-- What a detector does to the rest of the world. -/
structure Asks (kind : DuplicateKind) (u : Unicode) (event : QualityEvent) (w w' : RuleWorld) :
    Prop where
  clock : w'.clock = w.clock
  reads : w'.reads = (kind.asked u event w).reads
  schemas : w'.schemas = w.schemas
  others : ∀ other, other ≠ kind → other.seen.get w' = other.seen.get w

theorem asks_read {id : Text} (h : kind.idOf u event = some id) (w : RuleWorld) :
    Asks kind u event w w.read := by
  refine ⟨rfl, ?_, rfl, ?_⟩
  · rw [asked, h]
    rfl
  · intro other _
    exact other.get_read w

theorem asks_set {w w' : RuleWorld} (h : Asks kind u event w w') (ids : List (Text × Instant)) :
    Asks kind u event w (kind.seen.set ids w') := by
  refine ⟨(kind.clock_set ids w').trans h.clock, (kind.reads_set ids w').trans h.reads, ?_, ?_⟩
  · rw [← h.schemas]
    cases kind <;> rfl
  · intro other hother
    rw [← h.others other hother]
    cases kind with
    | events => cases other with
      | events => exact absurd rfl hother
      | orders => rfl
    | orders => cases other with
      | events => rfl
      | orders => exact absurd rfl hother

/-- A detector passes what it does not recall, and leaves the rest of the world alone. -/
theorem rule_passes_iff (kind : DuplicateKind) (u : Unicode) (event : QualityEvent)
    (w : EngineWorld) :
    (QualityEngine.Passes event (kind.rule u 300) w ↔ ¬kind.Recalls u event w.1) ∧
      Asks kind u event w.1 ((kind.rule u 300).validate event w).2.1 := by
  unfold QualityEngine.Passes
  cases hid : kind.idOf u event with
  | none =>
    obtain ⟨r, hr, hpassed⟩ := validate_of_none hid w
    rw [hr]
    refine ⟨iff_of_true hpassed ?_, rfl, ?_, rfl, fun _ _ => rfl⟩
    · rintro ⟨id, hsome, -⟩
      rw [hid] at hsome
      cases hsome
    · rw [asked, hid]
      rfl
  | some id =>
    have hread := asks_read hid w.1
    cases hcutoff : addMicros (w.1.clock w.1.reads) (-(300 * 1000000)) with
    | error e =>
      rw [validate_of_error hid (isUnique_of_overflow kind id w.1 hcutoff)]
      refine ⟨iff_of_false Bool.false_ne_true ?_, hread⟩
      intro hnot
      refine hnot ⟨id, hid, ?_⟩
      intro cutoff hok
      rw [hcutoff] at hok
      cases hok
    | ok cutoff =>
      obtain ⟨isNew, hunique, hnew⟩ := isUnique_of_cutoff kind id w.1 hcutoff
      obtain ⟨r, hr, hpassed⟩ := validate_of_ok hid hunique
      rw [hr]
      refine ⟨?_, asks_set hread _⟩
      change r.passed = true ↔ _
      rw [hpassed]
      have hrecalls : kind.Recalls u event w.1 ↔ isNew = false := by
        rw [hnew]
        constructor
        · rintro ⟨id', hid', hmem⟩
          rw [hid] at hid'
          obtain rfl := Option.some.inj hid'
          exact hmem cutoff hcutoff
        · intro hmem
          refine ⟨id, hid, ?_⟩
          intro cutoff' hok
          rw [hcutoff] at hok
          exact Except.ok.inj hok ▸ hmem
      rw [hrecalls, Bool.not_eq_false]

/-- What a detector recalls depends on its own ids and the clock. -/
theorem recalls_congr {w w' : RuleWorld} (hclock : w'.clock = w.clock) (hreads : w'.reads = w.reads)
    (hseen : kind.seen.get w' = kind.seen.get w) :
    kind.Recalls u event w' ↔ kind.Recalls u event w := by
  unfold Recalls left
  rw [hclock, hreads, hseen]

end

end DuplicateKind

namespace QualityEngine

section

variable {platform : Platform} {event : QualityEvent} {w w' : EngineWorld}

/-- The world when both detectors have been asked. -/
def askedBoth (u : Unicode) (event : QualityEvent) (w : EngineWorld) : EngineWorld :=
  (DuplicateKind.orders.asked u event (DuplicateKind.events.asked u event w.1), w.2)

/-- Some rule but the detectors of duplicates has something against the event. -/
def FailsOther (platform : Platform) (event : QualityEvent) (w : EngineWorld) : Prop :=
  ¬AllPass event (valueRules platform ++ otherDetectors platform)
    (askedBoth platform.unicode event w)

/-- The event's id, or the id of its order, is recalled. -/
def Repeats (u : Unicode) (event : QualityEvent) (w : RuleWorld) : Prop :=
  DuplicateKind.events.Recalls u event w ∨
    DuplicateKind.orders.Recalls u event (DuplicateKind.events.asked u event w)

/-- Being asked depends on the event alone. -/
theorem reads_asked (kind : DuplicateKind) {v v' : RuleWorld} (h : v'.reads = v.reads) :
    (kind.asked platform.unicode event v').reads = (kind.asked platform.unicode event v).reads := by
  unfold DuplicateKind.asked
  split
  · exact congrArg (· + 1) h
  · exact h

theorem clock_asked (kind : DuplicateKind) (v : RuleWorld) :
    (kind.asked platform.unicode event v).clock = v.clock := by
  unfold DuplicateKind.asked
  split <;> rfl

theorem schemas_asked (kind : DuplicateKind) (v : RuleWorld) :
    (kind.asked platform.unicode event v).schemas = v.schemas := by
  unfold DuplicateKind.asked
  split <;> rfl

theorem get_asked (kind other : DuplicateKind) (v : RuleWorld) :
    other.seen.get (kind.asked platform.unicode event v) = other.seen.get v := by
  unfold DuplicateKind.asked
  split
  · exact other.get_read v
  · rfl

theorem defaultRules_eq (platform : Platform) :
    (defaultRules platform : List (QualityRule EngineWorld)) = valueRules platform ++
      (DuplicateKind.events.rule platform.unicode 300 ::
        DuplicateKind.orders.rule platform.unicode 300 :: otherDetectors platform) := rfl

/-- An event passes when no other rule fails it and no detector recalls it. -/
theorem allPass_defaultRules_iff
    (h : SchemaRegistry.Coherent platform.schemaFiles w.1.schemas) :
    AllPass event (defaultRules platform) w ↔
      ¬FailsOther platform event w ∧ ¬Repeats platform.unicode event w.1 := by
  set w₁ := ((DuplicateKind.events.rule platform.unicode 300).validate event w).2 with hw₁
  set w₂ := ((DuplicateKind.orders.rule platform.unicode 300).validate event w₁).2 with hw₂
  obtain ⟨hevents, hasks₁⟩ := DuplicateKind.events.rule_passes_iff platform.unicode event w
  obtain ⟨horders, hasks₂⟩ := DuplicateKind.orders.rule_passes_iff platform.unicode event w₁
  have hvalue (v : EngineWorld) := @allPass_stateless event (valueRules platform) v
    (askedBoth platform.unicode event w) fun rule hrule => stateless_valueRules hrule event
  -- the detectors leave a world in which the others judge as in one where nothing was looked up
  have halike : AlikeWorlds platform.schemaFiles w₂ (askedBoth platform.unicode event w) := by
    refine ⟨?_, ?_, ?_, ?_⟩
    · change w₂.1.clock = (DuplicateKind.orders.asked _ event _).clock
      rw [clock_asked, clock_asked]
      exact hasks₂.clock.trans hasks₁.clock
    · exact hasks₂.reads.trans (reads_asked .orders hasks₁.reads)
    · rw [hasks₂.schemas, hasks₁.schemas]
      exact h
    · change SchemaRegistry.Coherent _ (DuplicateKind.orders.asked _ event _).schemas
      rw [schemas_asked, schemas_asked]
      exact h
  have hothers := (@allPass_alike _ event _ _ _ (fun rule hrule => unaware_otherDetectors hrule)
    halike).1
  have hrecalls : DuplicateKind.orders.Recalls platform.unicode event w₁.1 ↔
      DuplicateKind.orders.Recalls platform.unicode event
        (DuplicateKind.events.asked platform.unicode event w.1) := by
    apply DuplicateKind.recalls_congr
    · rw [clock_asked]
      exact hasks₁.clock
    · exact hasks₁.reads
    · rw [get_asked]
      exact hasks₁.others .orders (by intro hkind; cases hkind)
  rw [defaultRules_eq, allPass_append, (hvalue w).2, AllPass, AllPass, hevents, horders, hrecalls,
    (hvalue w).1, hothers, FailsOther, not_not, allPass_append, (hvalue _).2, Repeats, not_or]
  constructor
  · rintro ⟨hpass, hevent, horder, hrest⟩
    exact ⟨⟨hpass, hrest⟩, hevent, horder⟩
  · rintro ⟨⟨hpass, hrest⟩, hevent, horder⟩
    exact ⟨hpass, hevent, horder, hrest⟩

end

end QualityEngine

end IceStream
