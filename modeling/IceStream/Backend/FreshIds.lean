import IceStream.Backend.IncidentService
import IceStream.Lib.JsonNumbers

/-!
# Fresh incident ids

The next id of a day continues the one that comes last as a text.
-/

namespace IceStream
open Python

/-- What either database keeps to: a text is like its own beginnings, texts are ordered, and
behind the same beginning as many digits come in the order of their numbers. -/
structure Collation.Lawful (c : Collation) : Prop where
  startsLike_append (pre t : Text) : c.startsLike (pre ++ t) pre = true
  le_total (s t : Text) : c.le s t = true ∨ c.le t s = true
  le_trans (r s t : Text) : c.le r s = true → c.le s t = true → c.le r t = true
  le_antisymm (s t : Text) : c.le s t = true → c.le t s = true → s = t
  digits (pre ds es : Text) : IsDigits ds → IsDigits es → ds.length = es.length →
    digitsVal ds < digitsVal es → c.le (pre ++ es) (pre ++ ds) = false

/-! ## Digits as texts -/

theorem digitsVal_cons (d : CodePoint) (ds : Text) :
    digitsVal (d :: ds) = (d.val - 48) * 10 ^ ds.length + digitsVal ds := by
  have hhead : digitsVal [d] = d.val - 48 := by simp [digitsVal]
  rw [← List.singleton_append, digitsVal_append, hhead]

/-- As many digits come in the order of their numbers. -/
theorem lt_of_digitsVal_lt {ds es : Text} (hds : IsDigits ds) (hes : IsDigits es)
    (hlength : ds.length = es.length) (h : digitsVal ds < digitsVal es) : ds < es := by
  induction ds generalizing es with
  | nil =>
    rw [List.length_nil] at hlength
    rw [List.eq_nil_of_length_eq_zero hlength.symm] at h
    exact absurd h (lt_irrefl _)
  | cons d ds ih =>
    cases es with
    | nil => cases hlength
    | cons e es =>
      have hlength' : ds.length = es.length := Nat.succ.inj hlength
      have htail : IsDigits es := fun c hc => hes c (List.mem_cons_of_mem e hc)
      have hd := hds d List.mem_cons_self
      have he := hes e List.mem_cons_self
      simp only [isDigit, Bool.and_eq_true, decide_eq_true_eq] at hd he
      rw [digitsVal_cons, digitsVal_cons, hlength'] at h
      rw [List.cons_lt_cons_iff]
      obtain hlt | heq | hgt := lt_trichotomy d e
      · exact .inl hlt
      · subst heq
        exact .inr ⟨rfl, ih (fun c hc => hds c (List.mem_cons_of_mem d hc)) htail hlength'
          (by omega)⟩
      · have hbound := digitsVal_lt htail
        have hmore : (e.val - 48 + 1) * 10 ^ es.length ≤ (d.val - 48) * 10 ^ es.length := by
          apply Nat.mul_le_mul_right
          have hval : e.val < d.val := hgt
          omega
        rw [Nat.add_mul, Nat.one_mul] at hmore
        omega

theorem Collation.sqlite_lawful : Collation.sqlite.Lawful where
  startsLike_append pre t := by
    rw [Collation.sqlite, List.isPrefixOf_iff_prefix, lower, lower, List.map_append]
    exact List.prefix_append _ _
  le_total s t := by
    simp only [Collation.sqlite, decide_eq_true_eq]
    exact le_total s t
  le_trans r s t := by
    simp only [Collation.sqlite, decide_eq_true_eq]
    exact le_trans
  le_antisymm s t := by
    simp only [Collation.sqlite, decide_eq_true_eq]
    exact le_antisymm
  digits pre ds es hds hes hlength h := by
    simp only [Collation.sqlite, decide_eq_false_iff_not, not_le]
    exact List.append_left_lt (lt_of_digitsVal_lt hds hes hlength h)

namespace Incidents

/-! ## Numbered ids -/

/-- The id of the day with this number. -/
def numbered (pre : Text) (n : ℕ) : Text := pre ++ text (padLeft 4 (toString n))

theorem length_toString_le {m n : ℕ} (h : m ≤ n) : (toString m).length ≤ (toString n).length :=
  (Nat.length_repr_le_iff Nat.length_repr_pos).mpr (h.trans_lt (lt_pow_length n))

/-- Only a power of ten from 10000 on makes the id longer. -/
theorem length_padded {n : ℕ} (h : ¬∃ j, 4 ≤ j ∧ n + 1 = 10 ^ j) :
    (text (padLeft 4 (toString n))).length = (text (padLeft 4 (toString (n + 1)))).length := by
  have hle := length_toString_le (Nat.le_add_right n 1)
  have hlow := pow_length_le (show 0 < n + 1 by omega)
  have hhigh := lt_pow_length n
  simp only [text_padLeft, List.length_append, zeros, List.length_replicate, length_digits]
  by_cases hshort : (toString (n + 1)).length ≤ 4
  · omega
  · have hne : n + 1 ≠ 10 ^ ((toString (n + 1)).length - 1) := by
      intro heq
      exact h ⟨_, by omega, heq⟩
    have hsame : (toString (n + 1)).length ≤ (toString n).length := by
      by_contra hlt
      have hpow : 10 ^ (toString n).length ≤ 10 ^ ((toString (n + 1)).length - 1) :=
        Nat.pow_le_pow_right (by decide) (by omega)
      omega
    omega

theorem isDigits_padded (n : ℕ) : IsDigits (text (padLeft 4 (toString n))) := by
  rw [text_padLeft, isDigits_append]
  exact ⟨isDigits_zeros _, isDigits_digits n⟩

theorem digitsVal_padded (n : ℕ) : digitsVal (text (padLeft 4 (toString n))) = n := by
  rw [text_padLeft, digitsVal_append, digitsVal_zeros, digitsVal_digits, Nat.zero_mul, Nat.zero_add]

/-! ## The number at the end -/

theorem mem_numberText {u : Unicode} {t : Text} {c : CodePoint} (h : c ∈ numberText u t)
    (hdash : c.val = 0x2D) : c ∈ t := by
  obtain ⟨d, hd, rfl⟩ := List.mem_map.mp h
  have hmem : d ∈ t := by
    have hleft := (List.dropWhile_sublist _).mem (List.mem_reverse.mp hd)
    exact (List.dropWhile_sublist _).mem (List.mem_reverse.mp hleft)
  split_ifs at hdash ⊢ with hascii
  · exact hmem
  · exfalso
    cases hdigit : u.digit d with
    | none =>
      rw [hdigit] at hdash
      dsimp only at hdash
      omega
    | some n =>
      rw [hdigit] at hdash
      have hn := n.isLt
      simp only [codePoint, Fin.ofNat] at hdash
      omega

/-- Without a dash a number has no minus sign. -/
theorem intOfText_nonneg {u : Unicode} {t : Text} {i : ℤ} (hdash : ∀ c ∈ t, c.val ≠ 0x2D)
    (h : intOfText u t = .ok i) : ∃ n : ℕ, i = n := by
  have hsign : (takeSign (numberText u t)).1 = false := by
    cases hnumber : numberText u t with
    | nil => rfl
    | cons c rest =>
      have hc : c.val ≠ 0x2D := by
        intro heq
        have hmem : c ∈ numberText u t := by
          rw [hnumber]
          exact List.mem_cons_self
        exact hdash c (mem_numberText hmem heq) heq
      rw [takeSign, if_neg hc]
      split_ifs
      · rfl
      · rfl
  simp only [intOfText, hsign, Bool.false_eq_true, if_false] at h
  split_ifs at h
  exact ⟨_, (Except.ok.inj h).symm⟩

theorem lastPart_ne_dash {t : Text} : ∀ c ∈ lastPart t, c.val ≠ 0x2D := by
  intro c hc
  simpa using List.mem_takeWhile_imp (List.mem_reverse.mp hc)

/-- The number an id ends with; one that cannot be read counts as 0. -/
def EndsWith (u : Unicode) (t : Text) (n : ℕ) : Prop :=
  intOfText u (lastPart t) = .ok (n : ℤ) ∨ n = 0 ∧ ¬(intOfText u (lastPart t)).isOk

theorem exists_endsWith (u : Unicode) (t : Text) : ∃ n, EndsWith u t n := by
  cases h : intOfText u (lastPart t) with
  | error e => exact ⟨0, .inr ⟨rfl, by rw [h]; exact Bool.false_ne_true⟩⟩
  | ok i =>
    obtain ⟨n, rfl⟩ := intOfText_nonneg lastPart_ne_dash h
    exact ⟨n, .inl h⟩

section

variable {c : Collation} {u : Unicode} {pre : Text} {rows : Incidents}

/-- The id that comes last among those like the beginning. -/
def IsLast (c : Collation) (pre : Text) (rows : Incidents) (id : IncidentId) : Prop :=
  (id ∈ rows.map Incident.incidentId ∧ c.startsLike id.val pre = true) ∧
    ∀ other ∈ rows.map Incident.incidentId, c.startsLike other.val pre = true →
      c.le other.val id.val = true

/-- The later of two ids, where there is a first. -/
def later (c : Collation) (last : Option IncidentId) (id : IncidentId) : Option IncidentId :=
  match last with
  | none => some id
  | some l => if c.le l.val id.val then some id else some l

theorem later_spec (hc : c.Lawful) (best : Option IncidentId) (id : IncidentId) : ∃ next,
    later c best id = some next ∧ c.le id.val next.val = true ∧
      (∀ b, best = some b → c.le b.val next.val = true) ∧ (next = id ∨ best = some next) := by
  have hrefl (t : Text) : c.le t t = true := or_self_iff.mp (hc.le_total t t)
  cases best with
  | none => exact ⟨id, rfl, hrefl _, nofun, .inl rfl⟩
  | some b =>
    by_cases hle : c.le b.val id.val = true
    · refine ⟨id, if_pos hle, hrefl _, fun b' hb' => ?_, .inl rfl⟩
      rwa [← Option.some.inj hb']
    · refine ⟨b, if_neg hle, (hc.le_total _ _).resolve_left hle, fun b' hb' => ?_, .inr rfl⟩
      rw [← Option.some.inj hb']
      exact hrefl _

theorem foldl_later_spec (hc : c.Lawful) (ids : List IncidentId) (best : Option IncidentId) :
    (ids.foldl (later c) best = none → ids = [] ∧ best = none) ∧
      ∀ l, ids.foldl (later c) best = some l → (l ∈ ids ∨ best = some l) ∧
        (∀ id ∈ ids, c.le id.val l.val = true) ∧ ∀ b, best = some b → c.le b.val l.val = true := by
  induction ids generalizing best with
  | nil =>
    refine ⟨fun h => ⟨rfl, h⟩, fun l hl => ⟨.inr hl, nofun, fun b hb => ?_⟩⟩
    obtain rfl : b = l := Option.some.inj (hb.symm.trans hl)
    exact or_self_iff.mp (hc.le_total b.val b.val)
  | cons id ids ih =>
    obtain ⟨next, hnext, hid, hbest, hone⟩ := later_spec hc best id
    obtain ⟨hnone, hsome⟩ := ih (some next)
    rw [List.foldl_cons, hnext]
    refine ⟨fun h => absurd (hnone h).2 (Option.some_ne_none next), fun l hl => ?_⟩
    obtain ⟨hmem, hle, hafter⟩ := hsome l hl
    have hnextle := hafter next rfl
    refine ⟨?_, fun other hother => ?_, fun b hb => hc.le_trans _ _ _ (hbest b hb) hnextle⟩
    · obtain hin | heq := hmem
      · exact .inl (List.mem_cons_of_mem _ hin)
      · obtain rfl := Option.some.inj heq
        obtain rfl | hb := hone
        · exact .inl List.mem_cons_self
        · exact .inr hb
    · obtain rfl | hin := List.mem_cons.mp hother
      · exact hc.le_trans _ _ _ hid hnextle
      · exact hle other hin

/-- The query finds it. -/
theorem lastLike_spec (hc : c.Lawful) :
    (∃ id, rows.lastLike c pre = some id ∧ IsLast c pre rows id) ∨
    (rows.lastLike c pre = none ∧
      ∀ id ∈ rows.map Incident.incidentId, c.startsLike id.val pre = false) := by
  obtain ⟨hnone, hsome⟩ := foldl_later_spec hc
    ((rows.map Incident.incidentId).filter fun id => c.startsLike id.val pre) none
  cases hlast : rows.lastLike c pre with
  | none =>
    refine .inr ⟨rfl, fun id hid => ?_⟩
    have hempty := (hnone hlast).1
    rw [List.filter_eq_nil_iff] at hempty
    exact Bool.eq_false_iff.mpr (hempty id hid)
  | some l =>
    obtain ⟨hmem, hle, -⟩ := hsome l hlast
    refine .inl ⟨l, rfl, List.mem_filter.mp (hmem.resolve_right nofun), fun other hother hlike => ?_⟩
    exact hle other (List.mem_filter.mpr ⟨hother, hlike⟩)

theorem nextNumber_of_none (h : rows.lastLike c pre = none) : rows.nextNumber c u pre = 1 := by
  rw [nextNumber, h]

theorem nextNumber_of_endsWith {id : IncidentId} {n : ℕ} (hlast : rows.lastLike c pre = some id)
    (h : EndsWith u id.val n) : rows.nextNumber c u pre = (n + 1 : ℕ) := by
  rw [nextNumber, hlast]
  obtain hok | ⟨rfl, hbad⟩ := h
  · simp only [hok]
    rfl
  · cases hread : intOfText u (lastPart id.val) with
    | ok i =>
      rw [hread] at hbad
      exact absurd rfl hbad
    | error e =>
      simp only [hread]
      rfl

/-- The generated id, as far as its number can be written. -/
theorem generateIncidentId_eq {date : Text} {n : ℕ}
    (h : rows.nextNumber c u (text "INC-" ++ date ++ text "-") = n) :
    (maxStrDigits < (toString n).length ∧ ∃ e, rows.generateIncidentId c u date = .error e) ∨
    (¬maxStrDigits < (toString n).length ∧ ∃ id : IncidentId,
      rows.generateIncidentId c u date = .ok id ∧
        id.val = numbered (text "INC-" ++ date ++ text "-") n) := by
  have hshown : toString (rows.nextNumber c u (text "INC-" ++ date ++ text "-")) = toString n := by
    rw [h]
    rfl
  rw [generateIncidentId]
  simp only [hshown]
  split_ifs with hlong
  · exact .inl ⟨hlong, _, rfl⟩
  · exact .inr ⟨hlong, _, rfl, rfl⟩

theorem IsLast.eq (hc : c.Lawful) {id id' : IncidentId} (h : IsLast c pre rows id)
    (h' : IsLast c pre rows id') : id = id' :=
  Subtype.ext (hc.le_antisymm _ _ (h'.2 id h.1.1 h.1.2) (h.2 id' h'.1.1 h'.1.2))

theorem EndsWith.eq {t : Text} {m n : ℕ} (h : EndsWith u t m) (h' : EndsWith u t n) : m = n := by
  obtain hm | ⟨rfl, hbad⟩ := h
  · obtain hn | ⟨rfl, hbad⟩ := h'
    · rw [hm] at hn
      exact Int.ofNat.inj (Except.ok.inj hn)
    · rw [hm] at hbad
      exact absurd rfl hbad
  · obtain hn | ⟨rfl, -⟩ := h'
    · rw [hn] at hbad
      exact absurd rfl hbad
    · rfl

/-- A stored incident has this id. -/
def Taken (rows : Incidents) (t : Text) : Prop := ∃ id ∈ rows.map Incident.incidentId, id.val = t

theorem taken_iff {id : IncidentId} : Taken rows id.val ↔ (rows.lookup id).isSome := by
  constructor
  · rintro ⟨other, hother, heq⟩
    obtain ⟨row, hrow, rfl⟩ := List.mem_map.mp hother
    rw [lookup, List.find?_isSome]
    exact ⟨row, hrow, decide_eq_true (Subtype.ext heq)⟩
  · intro h
    obtain ⟨row, hrow⟩ := Option.isSome_iff_exists.mp h
    exact ⟨row.incidentId, List.mem_map_of_mem (List.mem_of_find?_eq_some hrow),
      congrArg Subtype.val (lookup_id hrow)⟩

/-- Behind an id the code made, the next is taken only where it is longer. -/
theorem IsLast.not_taken (hc : c.Lawful) {id : IncidentId} (h : IsLast c pre rows id) {n : ℕ}
    (hid : id.val = numbered pre n) (hpow : ¬∃ j, 4 ≤ j ∧ n + 1 = 10 ^ j) :
    ¬Taken rows (numbered pre (n + 1)) := by
  rintro ⟨other, hother, heq⟩
  have hle := h.2 other hother (by rw [heq]; exact hc.startsLike_append _ _)
  rw [heq, hid, numbered, numbered, hc.digits pre _ _ (isDigits_padded n) (isDigits_padded (n + 1))
    (length_padded hpow) (by rw [digitsVal_padded, digitsVal_padded]; omega)] at hle
  cases hle

/-- The next id is returned, and writing the incident adds a row and changes none. -/
def Fresh (c : Collation) (u : Unicode) (date : Text) (rows : Incidents) : Prop :=
  ∃ id, rows.generateIncidentId c u date = .ok id ∧ rows.lookup id = none ∧
    ∀ i : Incident, i.incidentId = id → rows.createIncident i = rows ++ [i.inserted]

/-- The last id's number cannot be continued: the next one is too long to write, or it is taken,
which behind an id that the code made takes a power of ten from 10000 on. -/
def Overtaken (c : Collation) (u : Unicode) (pre : Text) (rows : Incidents) : Prop :=
  ∃ id n, IsLast c pre rows id ∧ EndsWith u id.val n ∧
    (maxStrDigits < (toString (n + 1)).length ∨
      Taken rows (numbered pre (n + 1)) ∧
        (id.val = numbered pre n → ∃ j, 4 ≤ j ∧ n + 1 = 10 ^ j))

theorem fresh_iff_of_nextNumber {date : Text} {n : ℕ}
    (h : rows.nextNumber c u (text "INC-" ++ date ++ text "-") = n) :
    Fresh c u date rows ↔ ¬maxStrDigits < (toString n).length ∧
      ¬Taken rows (numbered (text "INC-" ++ date ++ text "-") n) := by
  obtain ⟨hlong, e, hgenerate⟩ | ⟨hshort, id, hgenerate, hid⟩ := generateIncidentId_eq h
  · refine iff_of_false ?_ fun h => h.1 hlong
    rintro ⟨id, hid, -⟩
    rw [hgenerate] at hid
    cases hid
  · rw [← hid, taken_iff]
    constructor
    · rintro ⟨id', hid', hfree, -⟩
      rw [hgenerate] at hid'
      obtain rfl := Except.ok.inj hid'
      exact ⟨hshort, by rw [hfree]; exact Bool.false_ne_true⟩
    · rintro ⟨-, hfree⟩
      refine ⟨id, hgenerate, by simpa using hfree, fun i hi => ?_⟩
      rw [createIncident, hi, if_neg hfree]

/-- The next id is fresh unless the last one is overtaken. -/
theorem fresh_iff (hc : c.Lawful) (u : Unicode) (date : Text) (rows : Incidents) :
    Fresh c u date rows ↔ ¬Overtaken c u (text "INC-" ++ date ++ text "-") rows := by
  generalize hpre : text "INC-" ++ date ++ text "-" = pre
  obtain ⟨id, hlast, hislast⟩ | ⟨hnone, hunlike⟩ := @lastLike_spec c pre rows hc
  · obtain ⟨n, hn⟩ := exists_endsWith u id.val
    have hnext := nextNumber_of_endsWith hlast hn
    rw [← hpre] at hnext
    rw [fresh_iff_of_nextNumber hnext, hpre, ← not_or]
    apply not_congr
    constructor
    · rintro (hlong | htaken)
      · exact ⟨id, n, hislast, hn, .inl hlong⟩
      · refine ⟨id, n, hislast, hn, .inr ⟨htaken, fun hid => ?_⟩⟩
        by_contra hpow
        exact hislast.not_taken hc hid hpow htaken
    · rintro ⟨id', n', hislast', hn', hover⟩
      obtain rfl := hislast.eq hc hislast'
      obtain rfl := hn.eq hn'
      exact hover.imp (fun h => h) And.left
  · have hnext : rows.nextNumber c u pre = (1 : ℕ) := nextNumber_of_none hnone
    rw [← hpre] at hnext
    rw [fresh_iff_of_nextNumber hnext, hpre]
    refine iff_of_true ⟨by decide +kernel, ?_⟩ ?_
    · rintro ⟨id, hid, heq⟩
      have hlike := hunlike id hid
      rw [heq, numbered, hc.startsLike_append] at hlike
      cases hlike
    · rintro ⟨id, n, hislast, -⟩
      have hlike := hunlike id hislast.1.1
      rw [hislast.1.2] at hlike
      cases hlike

end

/-! ## A day -/

/-- The incident of the day with this number. -/
def dayIncident (n : ℕ) : Incident :=
  ({} : Backend.IncidentReport).incident ⟨numbered "INC-2026-0903-" n, List.cons_ne_nil _ _⟩ 0

/-- One incident is followed by the second. -/
theorem second_of_day :
    Fresh .sqlite .ascii "2026-0903" [dayIncident 1] := by
  rw [fresh_iff Collation.sqlite_lawful .ascii "2026-0903" [dayIncident 1]]
  rintro ⟨id, n, hlast, hn, hover⟩
  obtain rfl : id = (dayIncident 1).incidentId := List.mem_singleton.mp hlast.1.1
  obtain rfl : n = 1 := hn.eq (.inl (by decide +kernel))
  obtain hlong | ⟨⟨other, hother, heq⟩, -⟩ := hover
  · revert hlong
    decide +kernel
  · obtain rfl : other = (dayIncident 1).incidentId := List.mem_singleton.mp hother
    revert heq
    decide +kernel

/-- `9999` comes behind `10000`, so that the latter is made again. -/
theorem ten_thousandth_again :
    ¬Fresh .sqlite .ascii "2026-0903" [dayIncident 9999, dayIncident 10000] := by
  rintro ⟨id, hid, hfree, -⟩
  have hagain : ((Incidents.generateIncidentId .sqlite .ascii "2026-0903"
      [dayIncident 9999, dayIncident 10000]).toOption.any fun id =>
        (Incidents.lookup [dayIncident 9999, dayIncident 10000] id).isSome) = true := by
    decide +kernel
  rw [hid, Except.toOption, Option.any_some, hfree] at hagain
  cases hagain

end Incidents
end IceStream
