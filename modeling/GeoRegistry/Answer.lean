/-
# Answer -- small documents that clients exchange with the registry

Counts, feature collections, and the two halves of a login.
-/
import GeoRegistry.Validation.Scalar

namespace GeoRegistry

set_option autoImplicit false

open Record

/-- How many rows match. -/
structure Count where
  count : Int

def Count.shape : Shape Count where
  name := "CountResponse"
  read r := Count.mk <$> required "count" Scalar.integer r
  fields c := [("count", .int c.count)]

/-- GeoJSON features as the database wrote them. -/
structure FeatureCollection where
  type : String
  features : List Record

def FeatureCollection.shape : Shape FeatureCollection where
  name := "FeatureCollection"
  read r :=
    FeatureCollection.mk
      <$> defaulted "type" Scalar.text "FeatureCollection" r
      <*> defaulted "features" (Scalar.list Scalar.record) [] r
  fields c := [("type", .text c.type), ("features", .list (c.features.map .record))]

/-- What a user presents to log in. -/
structure Credentials where
  username : String
  password : String

def Credentials.shape : Shape Credentials where
  name := "LoginRequest"
  read r :=
    Credentials.mk <$> required "username" Scalar.text r <*> required "password" Scalar.text r
  fields c := [("username", .text c.username), ("password", .text c.password)]

/-- The token a login earns, and for how many seconds it lasts. -/
structure Grant where
  accessToken : String
  tokenType : String := "bearer"
  expiresIn : Int

def Grant.shape : Shape Grant where
  name := "LoginResponse"
  read r :=
    Grant.mk
      <$> required "access_token" Scalar.text r
      <*> defaulted "token_type" Scalar.text "bearer" r
      <*> required "expires_in" Scalar.integer r
  fields g :=
    [("access_token", .text g.accessToken), ("token_type", .text g.tokenType),
     ("expires_in", .int g.expiresIn)]

end GeoRegistry
