import GrantConfig.Log
import GrantConfig.Provider.Display

/-!
# Shared providers

A provider that is shared between several handles and replaced as a whole. Each record that is
installed gets a number of its own, so two snapshots are the same record exactly when their
numbers are equal, even where the records have equal contents.
-/

namespace GrantConfig

/-- A record that was installed at some time. -/
structure Snapshot where
  number : Nat
  provider : Provider
deriving DecidableEq

/-- Slots with their current records, and handles, each of which refers to a slot. Numbers from
`fresh` on are unused. -/
structure Shared where
  slots : List Snapshot
  handles : List Nat
  fresh : Nat

namespace Shared

/-- No slots and no handles. -/
def empty : Shared := ⟨[], [], 0⟩

/-- Share a provider in a slot of its own; gives the handle. -/
def create (s : Shared) (p : Provider) : Nat × Shared :=
  (s.handles.length,
    ⟨s.slots ++ [⟨s.fresh, p⟩], s.handles ++ [s.slots.length], s.fresh + 1⟩)

/-- A further handle of the same slot. -/
def clone? (s : Shared) (handle : Nat) : Option (Nat × Shared) :=
  (s.handles[handle]?).map fun slot =>
    (s.handles.length, { s with handles := s.handles ++ [slot] })

/-- The current record of a handle. -/
def current? (s : Shared) (handle : Nat) : Option Snapshot :=
  (s.handles[handle]?).bind fun slot => s.slots[slot]?

/-- Install a provider through a handle; gives the record that it replaces. -/
def replace? (s : Shared) (handle : Nat) (p : Provider) : Option (Snapshot × Shared) := do
  let slot ← s.handles[handle]?
  let previous ← s.slots[slot]?
  return (previous, { s with slots := s.slots.set slot ⟨s.fresh, p⟩, fresh := s.fresh + 1 })

/-- The line that tells of a replacement. -/
def replacedLine : LogLine := ⟨.info, "Provider configuration replaced"⟩

/-- The outline of a handle with its current provider. -/
def outline (current : Provider) : Text.Outline :=
  .record "SharedProviderConfig" [("current", current.outline)]

end Shared

end GrantConfig
