/-
# Login -- tokens for the one account that has a password

The administrator logs in by name and password.  Blanks around the name do not
count.  A wrong name and a wrong password are answered alike.
-/
import GeoRegistry.Token
import GeoRegistry.Password
import GeoRegistry.Answer
import GeoRegistry.Text.Blank

namespace GeoRegistry

set_option autoImplicit false

/-- The account of the administrator. -/
structure Account where
  login : String
  email : String
  userId : Int
  password : Password

namespace Account

/-- The administrator as a caller. -/
def caller (a : Account) : Caller where
  userId := a.userId
  isAdmin := true
  login := some a.login
  email := some a.email
  name := some "Administrator"

/-- Name and password are those of the account. -/
def accepts (a : Account) (c : Credentials) : Except Failure Bool :=
  if Text.trimBlank c.username = a.login then a.password.accepts c.password else .ok false

/-- Where logins are logged. -/
def logger : String := "geothing.features.auth.usecases.login_usecase"

/-- Log in: a token for the right name and password. -/
def logIn {ε : Type} (a : Account) (i : Issuer) (now : Instant) (c : Credentials) :
    Dialogue ε Grant := do
  let extra := [("login", Cell.text c.username)]
  if ← .ofExcept (a.accepts c) then
    let token ← .ofExcept (i.issue now a.caller none)
    .log { level := .info, logger, message := "login successful", extra }
    return { accessToken := token, expiresIn := i.minutes * 60 }
  else
    .log { level := .warning, logger, message := "login refused", extra }
    .fail (.unauthorized "Incorrect username or password")

end Account

end GeoRegistry
