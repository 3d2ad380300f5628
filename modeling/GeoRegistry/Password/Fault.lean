/-
# Password.Fault -- what is wrong with a password that comes written out

Such a text names a digest and how it was made.  Nothing can be compared with
one that cannot be read, or whose digest is not made here.
-/
import GeoRegistry.Text.Ascii
import GeoRegistry.Text.Base64Url
import GeoRegistry.Text.IntegerLiteral
import GeoRegistry.Text.Quoted

namespace GeoRegistry.Password

set_option autoImplicit false

/-- Why a digest is not made. -/
inductive Flaw where
  /-- The text is not as digests are written. -/
  | unread
  | shortDigest
  | shortSalt
  | littleMemory
  | fewPasses
  | fewLanes
  | manyLanes
  /-- There is not so much memory. -/
  | noMemory
  deriving DecidableEq, Repr

/-- What is said about a flaw. -/
def Flaw.message : Flaw → String
  | .unread => "Decoding failed"
  | .shortDigest => "Output is too short"
  | .shortSalt => "Salt is too short"
  | .littleMemory => "Memory cost is too small"
  | .fewPasses => "Time cost is too small"
  | .fewLanes => "Too few lanes"
  | .manyLanes => "Too many lanes"
  | .noMemory => "Memory allocation error"

inductive Fault where
  /-- The text has characters that no such text has. -/
  | notAscii (fault : Text.NotAscii)
  /-- The parts of the text are not those of a written digest. -/
  | malformed
  /-- The text names a key. -/
  | keyed
  /-- A number has too many digits. -/
  | longNumber (digits : Nat)
  /-- A part has a length that no octets are written in. -/
  | broken
  /-- A part is no base64. -/
  | notBase64 (fault : Text.Base64Url.Fault)
  /-- There is no salt. -/
  | unsalted
  | shortSalt
  | fewPasses (found : Nat)
  | manyPasses (found : Nat)
  | fewLanes (found : Nat)
  /-- There is no such variant. -/
  | unknownVariant (name : String)
  /-- There never was such a version. -/
  | unknownVersion (found : Nat)
  /-- The version is later than those known. -/
  | laterVersion (found : Nat)
  | littleMemory (found : Nat)
  /-- There is too little memory for so many lanes. -/
  | scarceMemory (memory lanes : Nat)
  /-- The text holds more that went into the digest. -/
  | associated
  /-- Nothing else is wrong with the text, yet its digest is not made. -/
  | flawed (flaw : Flaw) (text : String)
  deriving DecidableEq, Repr

/-- The fewest octets of a salt. -/
def leastSalt : Nat := 8

/-- The least memory, for one lane. -/
def leastMemory : Nat := 8

/-- The most passes. -/
def mostPasses : Nat := 4294967295

/-- What is said about a number that is too small. -/
def tooLow (field : String) (found least : Nat) : String :=
  "argon2: " ++ field ++ " (" ++ toString found ++ ") is too low, must be at least " ++
    toString least

namespace Fault

/-- What is said about a fault. -/
def message : Fault → String
  | .notAscii fault => fault.message
  | .malformed => "malformed argon2 hash"
  | .keyed => "argon2 'keyid' parameter not supported"
  | .longNumber digits => Text.tooManyDigits digits
  | .broken => "invalid base64 input"
  | .notBase64 fault => fault.message
  | .unsalted => "no salt specified"
  | .shortSalt => "salt too small (argon2 requires >= " ++ toString leastSalt ++ " bytes)"
  | .fewPasses n => tooLow "rounds" n 1
  | .manyPasses n =>
      "argon2: rounds (" ++ toString n ++ ") is too large, cannot be more than " ++
        toString mostPasses
  | .fewLanes n => tooLow "parallelism" n 1
  | .unknownVariant name => "unknown argon2 hash type: " ++ Text.quote name
  | .unknownVersion n => "invalid argon2 hash version: " ++ toString n
  | .laterVersion n =>
      "argon2: hash version 0x" ++ Text.upperHex n ++ " not supported by 'argon2_cffi' backend " ++
        "(max version is 0x13); try updating or switching backends"
  | .littleMemory n => tooLow "memory_cost" n leastMemory
  | .scarceMemory memory lanes =>
      let needed := toString (8 * lanes)
      if Text.maxDigits < needed.length then Text.tooManyDigitsToShow
      else
        "argon2: memory_cost (" ++ toString memory ++ ") is too low, must be at least 8 * " ++
          "parallelism (8 * " ++ toString lanes ++ " = " ++ needed ++ ")"
  | .associated => "argon2_cffi backend doesn't support the 'data' parameter"
  | .flawed flaw text =>
      "malformed argon2 hash (" ++
        (if flaw = .unread then ""
        else "argon2_cffi reported: " ++ flaw.message ++ ": hash=") ++
        "b" ++ Text.quote text ++ ")"

end Fault

end GeoRegistry.Password
