/-
# Password -- what is kept of a password

Nothing can be asked of a kept password but whether another text is the same
password.  A kept password may also come written out from elsewhere; then a
text is the same password when its digest is the one that is written.
-/
import GeoRegistry.Failure
import GeoRegistry.Password.Written
import GeoRegistry.Text.Utf8

namespace GeoRegistry

set_option autoImplicit false

/-- A kept password. -/
inductive Password where
  | kept (password : String)
  /-- A password that came written out. -/
  | foreign (text : String)

namespace Password

/-- The most characters a password may have. -/
def mostCharacters : Nat := 4096

/-- A text must not be too long for a password, and it must have octets. -/
def check (password : String) : Except Failure Unit :=
  if mostCharacters < password.length then .error .passwordTooLong
  else
    match Text.unencodable? password with
    | some fault => .error (.unencodable fault)
    | none => .ok ()

/-- Keep a password. -/
def keep (password : String) : Except Failure Password := do
  check password
  return .kept password

/-- A text names the scheme of kept passwords: a dollar sign, the scheme's name
and variant, and another dollar sign. -/
def namesScheme (text : String) : Bool :=
  let variant := (text.toList.drop 7).takeWhile Char.isLower
  "$argon2".toList.isPrefixOf text.toList && !variant.isEmpty &&
    (text.toList.drop (7 + variant.length)).head? == some '$'

/-- The candidate is the password. -/
def accepts (p : Password) (candidate : String) : Except Failure Bool := do
  match p with
  | .kept password =>
      check candidate
      return password == candidate
  | .foreign text =>
      if namesScheme text then
        check candidate
        match written text with
        | .ok w => return w.isOf (Text.Utf8.encode candidate)
        | .error fault => .error (.badHash fault)
      else .error .unknownHash

end Password

end GeoRegistry
