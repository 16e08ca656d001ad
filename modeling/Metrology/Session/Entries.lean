import Metrology.Registry.Entries
import Metrology.Session.Basic

/-!
# Entries of a session's registries

What the registries of a session hold, with the texts of their dimensions in the basis of the
session.
-/

namespace Metrology

namespace Session

/-- The entries of the registered units, or of those of one dimension. -/
def unitEntries (id : Nat) (d : Option Dimension) : SessionM (List UnitEntry) := do
  pure ((← registry id).unitEntries (← get).basis d)

/-- The entries of the conversion functions. -/
def conversionEntries (id : Nat) : SessionM (List ConversionEntry) := do
  pure ((← registry id).conversionEntries (← get).basis)

/-- The texts of the dimensions of the registered units. -/
def dimensionTexts (id : Nat) : SessionM (List String) := do
  pure ((← registry id).dimensions.map (← get).basis.describe)

/-- The counts of a registry. -/
def summary (id : Nat) : SessionM RegistrySummary := do
  pure ((← registry id).summary (← get).basis)

end Session

end Metrology
