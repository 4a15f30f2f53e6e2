import IceStream.Lib.Convert
import IceStream.Lib.Dates
import IceStream.Schema.Registry

/-!
# What the rules look at besides the event

The clock, what is left of the events before, and the schemas. How numbers become dates
depends on the platform.
-/

namespace IceStream
open Python Schema

/-- The Unicode database, `datetime.fromtimestamp(ts, tz=timezone.utc)`, and the files in the
directory of the schemas. -/
structure Platform where
  unicode : Unicode
  fromtimestamp : Json → Except Exc Instant
  schemaFiles : SchemaFiles

/-- A platform of ASCII, which dates whole seconds and has no files of schemas. -/
def Platform.ascii : Platform where
  unicode := .ascii
  fromtimestamp
    | .int i => addMicros 0 (i * 1000000)
    | .bool b => .ok (if b then 1000000 else 0)
    | _ => .error (valueError "cannot convert float NaN to integer")
  schemaFiles := fun _ => .ok none

/-- `parse_iso_timestamp` -/
def parseIsoTimestamp (platform : Platform) : Json → Except Exc (Option Instant)
  | .bool b => (platform.fromtimestamp (.bool b)).map some
  | .int i => (platform.fromtimestamp (.int i)).map some
  | .float x => (platform.fromtimestamp (.float x)).map some
  | .str ts =>
    let cleaned := strip ts
    if cleaned.isEmpty ∨ lower cleaned = text "none" then .ok none
    else
      let cleaned := if cleaned.getLast?.any (fun c => c.val == 0x5A || c.val == 0x7A) then
          cleaned.dropLast ++ text "+00:00"
        else cleaned
      match fromisoformat cleaned with
      | some dt => dt.utc.map some
      | none => .ok none
  | _ => .ok none

/-- What is kept from event to event, and the readings of the clocks to come. -/
structure RuleWorld where
  clock : ℕ → Instant
  reads : ℕ
  seenEvents : List (Text × Instant)
  seenOrders : List (Text × Instant)
  schemas : SchemaRegistry

namespace RuleWorld

/-- `clock.now()` -/
def now : Fallible RuleWorld Instant := fun s => (.ok (s.clock s.reads), { s with reads := s.reads + 1 })

def onSchemas {α : Type} (x : Fallible SchemaRegistry α) : Fallible RuleWorld α := fun s =>
  ((x s.schemas).1, { s with schemas := (x s.schemas).2 })

/-- In the surroundings of an engine, which hold more. -/
def onRules {ρ α : Type} (x : Fallible RuleWorld α) : Fallible (RuleWorld × ρ) α := fun w =>
  ((x w.1).1, ((x w.1).2, w.2))

end RuleWorld

def raising {σ α : Type} (result : Except Exc α) : Fallible σ α := fun s => (result, s)

theorem raising_ok {σ α : Type} {x : Except Exc α} {a : α} (h : x = .ok a) (s : σ) :
    (raising x : Fallible σ α) s = (.ok a, s) := by
  rw [h]
  rfl

theorem raising_error {σ α : Type} {x : Except Exc α} {e : Exc} (h : x = .error e) (s : σ) :
    (raising x : Fallible σ α) s = (.error e, s) := by
  rw [h]
  rfl

end IceStream
