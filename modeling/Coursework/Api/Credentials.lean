import Coursework.Api.World

/-! # Credentials

An educator is known by the token that a request bears.

* **`Api.tokenOf`** is that token, **`Api.authenticate`** whom it is confirmed to belong to. -/

namespace Coursework.Api

/-- The token in a field of the form `Bearer` and the token. -/
def tokenIn? (value : Text) : Option Text :=
  let scheme := value.takeWhile (· != Sign.space)
  let token := Text.strip (value.drop (scheme.length + 1))
  if scheme.map Sign.lower = Text.ofString "bearer" && !token.isEmpty then some token else none

/-- The token that a request bears. -/
def tokenOf (request : Web.Request) : Option Text :=
  (request.field? "authorization").bind tokenIn?

/-- The educator who sends a request. -/
def authenticate (request : Web.Request) : Work Remote.Educator := do
  let token ← Work.orRefuse (tokenOf request) .noToken
  Work.orRefuse (← Work.identify token) .unconfirmed

end Coursework.Api
