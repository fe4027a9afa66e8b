import EntityStore.Error

/-!
# Two-factor providers

A provider of second factors makes secrets and checks codes against them. Like a payments provider
it is a function from the requests made before and a new request to its answer.
-/

namespace EntityStore

/-- A request made of a two-factor provider. -/
inductive TwoFactorRequest where
  | generateSecret
  | verify (secret code : String)
deriving DecidableEq, Repr

/-- What a request is answered with. -/
def TwoFactorRequest.Answer : TwoFactorRequest → Type
  | .generateSecret => String
  | .verify .. => Bool

/-- A two-factor provider. `answer before request` may depend on all requests made before. -/
structure TwoFactorProvider where
  answer : List TwoFactorRequest → (request : TwoFactorRequest) →
    Except AuthError request.Answer

/-- The name of a request and its arguments in order, as a log shows them. -/
def TwoFactorRequest.record : TwoFactorRequest → String × List Value
  | .generateSecret => ("generate_secret", [])
  | .verify secret code => ("verify", [.text secret, .text code])

/-- The code at which the trial provider is out of reach. -/
def TwoFactorProvider.offlineCode : String := "offline"

/-- A provider for trials: its secrets are numbered, and the code of a secret is the secret after
`code:`. -/
def TwoFactorProvider.sandbox : TwoFactorProvider :=
  ⟨fun before request =>
    match request with
    | .generateSecret => .ok ("secret-" ++ toString (before.count .generateSecret + 1))
    | .verify secret code =>
      if code = offlineCode then .error (.provider "offline")
      else .ok (code == "code:" ++ secret)⟩

end EntityStore
