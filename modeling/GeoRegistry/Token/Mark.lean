/-
# Token.Mark -- marks of keys that are no shared secrets

A digest is made under a secret that both sides share.  A text that holds a key
of a pair, or a certificate, is told by the line that announces what it holds
(`isAnnounced`), or by the kind of key that it names (`namesKind`).
-/
namespace GeoRegistry.Token.Mark

set_option autoImplicit false

/-- One text is part of another. -/
def isPart (part : List Char) : List Char → Bool
  | [] => part.isEmpty
  | c :: rest => part.isPrefixOf (c :: rest) || isPart part rest

/-- What a line may announce. -/
def announced : List String :=
  ["CERTIFICATE", "TRUSTED CERTIFICATE", "PRIVATE KEY", "PUBLIC KEY", "ENCRYPTED PRIVATE KEY",
   "OPENSSH PRIVATE KEY", "DSA PRIVATE KEY", "RSA PRIVATE KEY", "RSA PUBLIC KEY",
   "EC PRIVATE KEY", "DH PARAMETERS", "NEW CERTIFICATE REQUEST", "CERTIFICATE REQUEST",
   "SSH2 PUBLIC KEY", "SSH2 ENCRYPTED PRIVATE KEY", "X509 CRL"]

/-- The lines that announce something: the innermost dash of either side may be a
blank. -/
def lines (what : String) : List String :=
  ["-", " "].flatMap fun before => ["-", " "].map fun behind =>
    "----" ++ before ++ "BEGIN " ++ what ++ behind ++ "----"

/-- The text has a line that announces a key or a certificate. -/
def isAnnounced (cs : List Char) : Bool :=
  announced.any fun what => (lines what).any fun line => isPart line.toList cs

/-- The kinds of keys that a text may name. -/
def kinds : List String :=
  ["ssh-ed25519", "ssh-rsa", "ssh-dss", "ecdsa-sha2-nistp256", "ecdsa-sha2-nistp384",
   "ecdsa-sha2-nistp521"]

/-- What the kind of a certified key ends with. -/
def certified : String := "-cert-v01@openssh.com"

/-- A character that ends a word. -/
def isGap (c : Char) : Bool :=
  c = ' ' || ('\t' ≤ c && c ≤ '\r')

/-- A character that may stand between a kind and its key. -/
def isBetween (c : Char) : Bool :=
  c = ' ' || c = '\t'

/-- The text starts with the kind of a certified key and has another word behind
it. -/
def namesCertified (cs : List Char) : Bool :=
  let kind := cs.takeWhile (!isGap ·)
  let rest := cs.drop kind.length
  let key := rest.dropWhile isBetween
  certified.toList.isSuffixOf kind && key.length < rest.length && key.head?.any (!isGap ·)

/-- The text names a kind of key. -/
def namesKind (cs : List Char) : Bool :=
  (kinds.any fun kind => isPart kind.toList cs) || namesCertified cs

/-- The text is marked as no shared secret. -/
def isMarked (s : String) : Bool :=
  isAnnounced s.toList || namesKind s.toList

end GeoRegistry.Token.Mark
