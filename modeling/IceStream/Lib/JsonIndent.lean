import IceStream.Lib.JsonRoundTrip

/-!
# Indented JSON

`json.dumps` with an indentation starts a new line for every item and for every
member. `loads` undoes it as well, so two values with the same text are equal.
-/

namespace Python

theorem space_lt : 0x20 < 0x110000 := by decide

/-- The end of a line, and the spaces of the next one. -/
def newline (indent level : ℕ) : Text :=
  ⟨0x0A, by decide⟩ :: List.replicate (indent * level) ⟨0x20, space_lt⟩

/-- Items between two brackets, each on a line of its own. -/
def linesBetween (indent level : ℕ) (opening closing : CodePoint) (ts : List Text) : Text :=
  if ts.isEmpty then [opening, closing]
  else opening :: (newline indent (level + 1) ++
    ((comma :: newline indent (level + 1)).intercalate ts ++ (newline indent level ++ [closing])))

mutual

/-- `json.dumps(v, indent=indent)`, inside `level` brackets. -/
def Json.dumpsIndent (indent level : ℕ) : Json → Text
  | .arr xs =>
    linesBetween indent level ⟨0x5B, by decide⟩ ⟨0x5D, by decide⟩ (dumpsIndentList indent level xs)
  | .obj kvs =>
    linesBetween indent level ⟨0x7B, by decide⟩ ⟨0x7D, by decide⟩ (dumpsIndentItems indent level kvs)
  | v => text (v.dumps false)

def dumpsIndentList (indent level : ℕ) : List Json → List Text
  | [] => []
  | x :: xs => x.dumpsIndent indent (level + 1) :: dumpsIndentList indent level xs

def dumpsIndentItems (indent level : ℕ) : List (Text × Json) → List Text
  | [] => []
  | p :: ps =>
    (text (quoteText p.1 ++ ": ") ++ p.2.dumpsIndent indent (level + 1)) ::
      dumpsIndentItems indent level ps

end

example : (Json.obj [("a", .arr [.int 1, .bool true]), ("b", .obj [])]).dumpsIndent 2 0 =
    text "\x7b\n  \"a\": [\n    1,\n    true\n  ],\n  \"b\": \x7b\x7d\n\x7d" := by
  decide +kernel

section

variable (indent level : ℕ)

theorem dumpsIndentList_eq (xs : List Json) :
    dumpsIndentList indent level xs = xs.map (Json.dumpsIndent indent (level + 1)) := by
  induction xs with
  | nil => rfl
  | cons x xs ih => rw [dumpsIndentList, ih, List.map_cons]

/-- A member, as the reader of objects takes it. -/
def indentedMember (p : Text × Json) : MemberText :=
  ⟨p.1, p.2.dumpsIndent indent (level + 1), p.2⟩

theorem dumpsIndentItems_eq (ps : List (Text × Json)) :
    dumpsIndentItems indent level ps = (ps.map (indentedMember indent level)).map MemberText.text := by
  induction ps with
  | nil => rfl
  | cons p ps ih =>
    have hcolon : text ": " = [⟨0x3A, by decide⟩, ⟨0x20, by decide⟩] := by decide
    have hp : text (quoteText p.1 ++ ": ") ++ p.2.dumpsIndent indent (level + 1) =
        (indentedMember indent level p).text := by
      rw [text_append, hcolon, List.append_assoc]
      rfl
    rw [dumpsIndentItems, ih, hp, List.map_cons, List.map_cons]

theorem isJsonSpace_of_mem_newline {c : CodePoint} (h : c ∈ newline indent level) :
    isJsonSpace c = true := by
  obtain rfl | hspace := List.mem_cons.mp h
  · rfl
  · rw [List.eq_of_mem_replicate hspace]
    rfl

/-- One item a line. -/
def indented : Layout where
  lead := newline indent (level + 1)
  gap := newline indent (level + 1)
  tail := newline indent level
  lead_space _ h := isJsonSpace_of_mem_newline indent (level + 1) h
  gap_space _ h := isJsonSpace_of_mem_newline indent (level + 1) h
  tail_space _ h := isJsonSpace_of_mem_newline indent level h
  tail_line c h := by
    obtain rfl : ⟨0x0A, by decide⟩ = c := Option.some.inj h
    rfl

theorem linesBetween_eq {opening closing : CodePoint} {ts : List Text} (h : ts ≠ []) :
    linesBetween indent level opening closing ts =
      opening :: ((indented indent level).lead ++ (indented indent level).body ts closing) := by
  have hempty : ¬ts.isEmpty = true := by rwa [List.isEmpty_iff]
  rw [linesBetween, if_neg hempty]
  rfl

end

section

variable {limit depth indent level : ℕ}

theorem reads_arr_indented {xs : List Json}
    (hreads : ∀ x ∈ xs, Reads limit depth (x.dumpsIndent indent (level + 1)) x) :
    Reads limit (depth + 1) ((Json.arr xs).dumpsIndent indent level) (.arr xs) := by
  cases xs with
  | nil => exact reads_empty_arr
  | cons x xs =>
    let items := (x :: xs).map fun x => (x.dumpsIndent indent (level + 1), x)
    have hitems : ∀ p ∈ items, Reads limit depth p.1 p.2 := by
      intro p hp
      obtain ⟨y, hy, rfl⟩ := List.mem_map.mp hp
      exact hreads y hy
    have hvalues : items.map Prod.snd = x :: xs := by
      simp only [items, List.map_map]
      exact List.map_id _
    have htexts : dumpsIndentList indent level (x :: xs) = items.map Prod.fst := by
      rw [dumpsIndentList_eq]
      simp only [items, List.map_map]
      rfl
    have hnonempty : items ≠ [] := List.cons_ne_nil _ _
    have hread := reads_items (indented indent level) hnonempty hitems
    have hne : items.map Prod.fst ≠ [] := List.cons_ne_nil _ _
    rw [Json.dumpsIndent, htexts, linesBetween_eq _ _ hne]
    rwa [hvalues] at hread

theorem reads_obj_indented {kvs : List (Text × Json)} (hkeys : (kvs.map Prod.fst).Nodup)
    (hjoined : ∀ p ∈ kvs, Joined p.1)
    (hreads : ∀ p ∈ kvs, Reads limit depth (p.2.dumpsIndent indent (level + 1)) p.2) :
    Reads limit (depth + 1) ((Json.obj kvs).dumpsIndent indent level) (.obj kvs) := by
  cases kvs with
  | nil => exact reads_empty_obj
  | cons p ps =>
    set ms := (p :: ps).map (indentedMember indent level) with hms
    have hmem : ∀ m ∈ ms, ∃ q ∈ p :: ps, indentedMember indent level q = m := fun m hm =>
      List.mem_map.mp hm
    have hmkeys : (ms.map MemberText.key).Nodup := by
      rw [hms, List.map_map]
      exact hkeys
    have hmjoined : ∀ m ∈ ms, Joined m.key := by
      intro m hm
      obtain ⟨q, hq, rfl⟩ := hmem m hm
      exact hjoined q hq
    have hmreads : ∀ m ∈ ms, Reads limit depth m.written m.value := by
      intro m hm
      obtain ⟨q, hq, rfl⟩ := hmem m hm
      exact hreads q hq
    have hitems : ms.map MemberText.item = p :: ps := by
      rw [hms, List.map_map]
      exact List.map_id _
    have hnonempty : ms ≠ [] := List.cons_ne_nil _ _
    have hread := reads_members (indented indent level) hnonempty hmkeys hmjoined hmreads
    have hne : ms.map MemberText.text ≠ [] := List.cons_ne_nil _ _
    rw [Json.dumpsIndent, dumpsIndentItems_eq, linesBetween_eq _ _ hne]
    rwa [hitems] at hread

theorem reads_dumpsIndent {v : Json} (h : Readable depth v) :
    Reads limit depth (v.dumpsIndent indent level) v := by
  induction h generalizing level with
  | null => exact scansAs_null.reads
  | bool depth b => exact (scansAs_bool b).reads
  | int depth h => exact (scansAs_int h).reads
  | float depth f => exact (scansAs_dumpFloat f).reads
  | str depth h => exact reads_text h
  | arr h ih => exact reads_arr_indented fun x hx => ih x hx
  | obj hkeys hjoined h ih => exact reads_obj_indented hkeys hjoined fun p hp => ih p hp

end

/-- `loads` undoes the indented text. -/
theorem loads_dumpsIndent {limit depth : ℕ} {v : Json} (h : Readable depth v) (hdepth : depth ≤ limit)
    (indent : ℕ) : loads limit (v.dumpsIndent indent 0) = .ok v :=
  loads_of_reads (reads_dumpsIndent h) hdepth

/-- The indented text says which value it is of. -/
theorem dumpsIndent_injective {depth depth' indent : ℕ} {v w : Json} (hv : Readable depth v)
    (hw : Readable depth' w) (h : v.dumpsIndent indent 0 = w.dumpsIndent indent 0) : v = w := by
  have hload := loads_dumpsIndent hv (le_max_left depth depth') indent
  rw [h, loads_dumpsIndent hw (le_max_right depth depth') indent] at hload
  exact (Except.ok.inj hload).symm

end Python
