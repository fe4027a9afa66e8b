import EntityStore.Billing.Operations

/-!
# Two-factor authentication of instances

The secret of an instance is made and checked by the provider; the row keeps it in a column that is
never shown.
-/

namespace EntityStore.TwoFactor

/-- Only instances of entities with two-factor secrets have one. -/
def allowed (i : Instance) : Except Error Unit :=
  i.model.requireTrait i.model.traits.usesTwoFactor "two-factor"

/-- The secret, if there is one. -/
def secret? (i : Instance) : Option String :=
  i.filledText? Model.secretColumn

/-- Makes a new secret, which replaces the one before, and answers it. -/
def enable : InstanceTask String := do
  let secret : String ← InstanceTask.ofTask (Task.requestTwoFactor .generateSecret)
  Instance.storeColumn Model.secretColumn (.text secret)
  return secret

/-- Checks a code against the secret. -/
def verify (code : String) : InstanceTask Bool := do
  let i ← Instance.current
  match secret? i with
  | none => throw (.auth (.notEnabled i.model.name (i.id?.getD 0)))
  | some secret => InstanceTask.ofTask (Task.requestTwoFactor (.verify secret code))

/-- Forgets the secret. -/
def disable : InstanceTask Unit :=
  Instance.storeColumn Model.secretColumn .null

end EntityStore.TwoFactor
