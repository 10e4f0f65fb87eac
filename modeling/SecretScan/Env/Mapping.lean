import SecretScan.Env.Name
import SecretScan.Finding

/-!
# From findings to variables

Every distinct match gets one variable. The mapping keeps the order of discovery,
so it is a list, and a finding is looked up by the whole text of its match.
-/

namespace SecretScan.Env

/-- A variable and what it holds. -/
structure Entry where
  name : String
  value : String
  /-- The rule that found the value first. -/
  rule : String
deriving DecidableEq, Repr

/-- Matches and their variables, in order of discovery. -/
structure Mapping where
  byKey : List (String × Entry) := []
deriving DecidableEq, Repr

namespace Mapping

/-- The entries, in order of discovery. -/
def entries (m : Mapping) : List Entry := m.byKey.map (·.2)

/-- The names, in order of discovery. -/
def names (m : Mapping) : List String := m.entries.map (·.name)

/-- The number of entries. -/
def size (m : Mapping) : Nat := m.byKey.length

/-- The entry for a finding. -/
def assigned? (m : Mapping) (f : Finding) : Option Entry := m.byKey.lookup f.key

/-- The name for a finding. -/
def name? (m : Mapping) (f : Finding) : Option String := (m.assigned? f).map (·.name)

/-- The entry for a finding, which is made if there is none. -/
def add (m : Mapping) (pool : NamePool) (f : Finding) : Entry × Mapping × NamePool :=
  match m.assigned? f with
  | some e => (e, m, pool)
  | none =>
    let (name, pool) := pool.allocate f.rule
    let e : Entry := ⟨name, f.value, f.rule⟩
    (e, ⟨m.byKey ++ [(f.key, e)]⟩, pool)

/-- The mapping after more findings, in order. -/
def extend (m : Mapping) (pool : NamePool) : List Finding → Mapping
  | [] => m
  | f :: rest =>
    let (_, m, pool) := m.add pool f
    extend m pool rest

/-- The mapping for a list of findings, when some names are taken. -/
def ofFindings (findings : List Finding) (pool : NamePool := {}) : Mapping :=
  extend {} pool findings

end Mapping

end SecretScan.Env
