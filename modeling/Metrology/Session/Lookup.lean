import Metrology.Session.Registration

/-!
# Looking units up

By name, where resolvers are asked in their order once the table has no answer, and by symbol, where
they are not. A unit that a resolver answers is registered. Every search is counted.
-/

namespace Metrology

namespace Session

/-- What a resolver answers to a name. -/
def consult (name : String) (r : Resolver) : SessionM (Option Measure) := do
  note (.consulted r.id name)
  match r.reply name with
  | .pass => pure none
  | .unit m => pure (some m)
  | .fresh d => some <$> issue d

/-- The first answer that the resolvers have for a name. -/
def consultAll (name : String) : List Resolver → SessionM (Option Measure)
  | [] => pure none
  | r :: rest => do
    match ← consult name r with
    | some m => pure (some m)
    | none => consultAll name rest

/-- The unit with a name: the one registered last, or the first that a resolver answers. -/
def tryName (id : Nat) (name : String) : SessionM (Option Measure) := do
  let r ← registry id
  match r.byName.get? name with
  | some m =>
    count (.nameLookup .hit)
    pure (some m)
  | none =>
    match ← consultAll name r.resolvers with
    | some m =>
      register id m
      count (.nameLookup .resolver)
      pure (some m)
    | none =>
      count (.nameLookup .miss)
      pure none

/-- The unit with a symbol, the one registered last. -/
def trySymbol (id : Nat) (symbol : String) : SessionM (Option Measure) := do
  let found := (← registry id).bySymbol.get? symbol
  count (.symbolLookup (if found.isSome then .hit else .miss))
  pure found

/-- The unit with a name, or a fault. -/
def unitNamed (id : Nat) (name : String) : SessionM Measure := do
  match ← tryName id name with
  | some m => pure m
  | none => throw (.unknownUnit .name name)

/-- The unit with a symbol, or a fault. -/
def unitWithSymbol (id : Nat) (symbol : String) : SessionM Measure := do
  match ← trySymbol id symbol with
  | some m => pure m
  | none => throw (.unknownUnit .symbol symbol)

/-- The unit that is meant: itself, or the one with a name. -/
def resolveRef (id : Option Nat) : UnitRef → SessionM Measure
  | .unit m => pure m
  | .name text => do unitNamed (← registryOr id) text
  | .other kind => throw (.notAUnit .reference kind)

/-- The named unit for a unit: see `Registry.resolve?`. -/
def resolveNamed? (id : Nat) (m : Measure) : SessionM (Option Measure) := do
  pure ((← registry id).resolve? m)

end Session

end Metrology
