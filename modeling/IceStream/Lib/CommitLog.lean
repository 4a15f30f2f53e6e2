import Mathlib.Data.List.Nodup
import Mathlib.Data.List.Infix
import Mathlib.Data.List.TakeDrop

/-!
# A log with a committed and a trimmed mark

Entries are appended at the end, committed from the front and trimmed from the
front, never beyond the committed mark. A buffer in front of a durable table
is such a log: the table holds the committed entries, the buffer those that
are not trimmed yet.
-/

/-- The marks carry their order, so that a trimmed entry is always committed. -/
structure CommitLog (α : Type*) where
  entries : List α
  trimmed : ℕ
  committed : ℕ
  trimmed_le : trimmed ≤ committed
  committed_le : committed ≤ entries.length

namespace CommitLog

variable {α : Type*}

def empty : CommitLog α := ⟨[], 0, 0, le_rfl, le_rfl⟩

/-- What is not trimmed yet. -/
def pending (log : CommitLog α) : List α := log.entries.drop log.trimmed

/-- What is committed. -/
def durable (log : CommitLog α) : List α := log.entries.take log.committed

/-- The entries from `a` up to `b`. -/
def segment (log : CommitLog α) (a b : ℕ) : List α := (log.entries.drop a).take (b - a)

def append (log : CommitLog α) (x : α) : CommitLog α where
  entries := log.entries ++ [x]
  trimmed := log.trimmed
  committed := log.committed
  trimmed_le := log.trimmed_le
  committed_le := by
    have h := log.committed_le
    simp only [List.length_append, List.length_singleton]
    omega

/-- Move the committed mark on to `b`. -/
def commit (log : CommitLog α) (b : ℕ) (hlow : log.committed ≤ b)
    (hhigh : b ≤ log.entries.length) : CommitLog α where
  entries := log.entries
  trimmed := log.trimmed
  committed := b
  trimmed_le := log.trimmed_le.trans hlow
  committed_le := hhigh

/-- Trim everything that is committed. -/
def trim (log : CommitLog α) : CommitLog α where
  entries := log.entries
  trimmed := log.committed
  committed := log.committed
  trimmed_le := le_rfl
  committed_le := log.committed_le

theorem mem_pending_or_durable {log : CommitLog α} {x : α} (h : x ∈ log.entries) :
    x ∈ log.pending ∨ x ∈ log.durable := by
  rw [← List.take_append_drop log.trimmed log.entries, List.mem_append] at h
  obtain h | h := h
  · right
    exact (List.take_prefix_take_left log.trimmed_le).subset h
  · left
    exact h

theorem durable_nodup {log : CommitLog α} (h : log.entries.Nodup) : log.durable.Nodup :=
  h.sublist (List.take_sublist _ _)

theorem pending_append (log : CommitLog α) (x : α) :
    (log.append x).pending = log.pending ++ [x] := by
  have hle : log.trimmed ≤ log.entries.length := log.trimmed_le.trans log.committed_le
  exact List.drop_append_of_le_length hle

theorem durable_append (log : CommitLog α) (x : α) : (log.append x).durable = log.durable :=
  List.take_append_of_le_length log.committed_le

theorem segment_append {log : CommitLog α} (x : α) {a b : ℕ} (hab : a ≤ b)
    (hb : b ≤ log.entries.length) : (log.append x).segment a b = log.segment a b := by
  have hlen : b - a ≤ (log.entries.drop a).length := by
    rw [List.length_drop]
    omega
  show ((log.entries ++ [x]).drop a).take (b - a) = _
  rw [List.drop_append_of_le_length (hab.trans hb), List.take_append_of_le_length hlen]
  rfl

theorem length_segment {log : CommitLog α} {a b : ℕ} (hb : b ≤ log.entries.length) :
    (log.segment a b).length = b - a := by
  rw [segment, List.length_take, List.length_drop]
  omega

theorem pending_eq_segment (log : CommitLog α) :
    log.pending = log.segment log.trimmed log.entries.length := by
  rw [segment, List.take_of_length_le]
  · rfl
  · rw [List.length_drop]

/-- Committing the next segment adds exactly that segment. -/
theorem durable_commit {log : CommitLog α} {b : ℕ} (hlow : log.committed ≤ b)
    (hhigh : b ≤ log.entries.length) :
    (log.commit b hlow hhigh).durable = log.durable ++ log.segment log.committed b := by
  have hb : b = log.committed + (b - log.committed) := by omega
  show log.entries.take b = _
  rw [hb, List.take_add, ← hb]
  rfl

/-- Dropping as many entries as lie between the marks is a trim. -/
theorem pending_trim (log : CommitLog α) :
    log.trim.pending = log.pending.drop (log.committed - log.trimmed) := by
  have h := log.trimmed_le
  show log.entries.drop log.committed = _
  rw [pending, List.drop_drop]
  congr 1
  omega

/-- A segment that starts before the committed mark has a committed head. -/
theorem exists_mem_segment_and_durable {log : CommitLog α} {a b : ℕ} (hab : a < b)
    (hb : b ≤ log.entries.length) (ha : a < log.committed) :
    ∃ x, x ∈ log.segment a b ∧ x ∈ log.durable := by
  have hlt : a < log.entries.length := hab.trans_le hb
  refine ⟨log.entries[a], ?_, ?_⟩
  · have hpos : 0 < ((log.entries.drop a).take (b - a)).length := by
      rw [List.length_take, List.length_drop]
      omega
    have hmem := List.getElem_mem hpos
    rwa [List.getElem_take, List.getElem_drop] at hmem
  · exact List.mem_take_iff_getElem.mpr ⟨a, by omega, rfl⟩

/-- Without repeated entries, a nonempty segment heads the pending entries only
if it starts at the trimmed mark. -/
theorem start_eq_trimmed {log : CommitLog α} (hnodup : log.entries.Nodup) {a b : ℕ}
    (hab : a < b) (hb : b ≤ log.entries.length) (h : log.segment a b <+: log.pending) :
    a = log.trimmed := by
  have hpos : 0 < (log.segment a b).length := by
    rw [length_segment hb]
    omega
  have hpos' : 0 < log.pending.length := hpos.trans_le h.length_le
  have hget := h.getElem hpos
  have hleft : (log.segment a b)[0] = log.entries[a] := by
    simp [segment]
  have htrim : log.trimmed < log.entries.length := by
    rw [pending, List.length_drop] at hpos'
    omega
  have hright : log.pending[0] = log.entries[log.trimmed] := by
    simp [pending]
  rw [hleft, hright] at hget
  exact (List.Nodup.getElem_inj_iff hnodup).mp hget

theorem segment_prefix_pending (log : CommitLog α) (b : ℕ) :
    log.segment log.trimmed b <+: log.pending :=
  List.take_prefix _ _

end CommitLog
