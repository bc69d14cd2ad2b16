/-
Password hashes.

* `PasswordHash`: the version, the cost, the salt and the digest;
* `PasswordHash.render` / `PasswordHash.parse`: its text;
* `PasswordHash.make`: the hash of a new password;
* `PasswordHash.admits`: whether a password has a given hash.
-/
import RegisterMachine.Numeral
import RegisterMachine.Password.Blowfish
import RegisterMachine.Password.Radix64

namespace RegisterMachine

/-- Why a password has no hash, or a text is no hash. -/
inductive HashError where
  | emptyPassword
  | passwordTooLong
  | invalidCost (cost : Int)
  | tooShort
  | invalidStart (c : UInt8)
  | versionTooNew (c : UInt8)
  | unreadableCost (text : Bytes) (e : Numeral.Error)
  | invalidSalt (position : Nat)
deriving DecidableEq, Repr

/-- The wording of an error.  A byte is shown as the character with its number. -/
def HashError.message : HashError → Bytes
  | .emptyPassword => utf8 "empty password"
  | .passwordTooLong => utf8 "bcrypt: password length exceeds 72 bytes"
  | .invalidCost cost =>
    utf8 "crypto/bcrypt: cost " ++ integer cost ++ utf8 " is outside allowed range (4,31)"
  | .tooShort => utf8 "crypto/bcrypt: hashedSecret too short to be a bcrypted password"
  | .invalidStart c =>
    utf8 "crypto/bcrypt: bcrypt hashes must start with '$', but hashedSecret started with '"
      ++ String.utf8EncodeChar (Char.ofNat c.toNat) ++ utf8 "'"
  | .versionTooNew c =>
    utf8 "crypto/bcrypt: bcrypt algorithm version '" ++ String.utf8EncodeChar (Char.ofNat c.toNat)
      ++ utf8 "' requested is newer than current version '2'"
  | .unreadableCost text e => e.message (utf8 "strconv.Atoi") text
  | .invalidSalt position => utf8 "illegal base64 data at input byte " ++ decimal position

/-- A password hash. -/
structure PasswordHash where
  major : UInt8
  /-- The minor version, or zero when there is none. -/
  minor : UInt8
  cost : Nat
  /-- The salt as 22 characters. -/
  salt : Bytes
  /-- The digest as text; only its first 31 bytes matter. -/
  digest : Bytes
deriving DecidableEq, Repr

namespace PasswordHash

/-- The least cost. -/
def leastCost : Int := 4

/-- The greatest cost. -/
def greatestCost : Int := 31

/-- The cost in place of one that is below the least. -/
def defaultCost : Nat := 10

/-- The longest password that can be hashed. -/
def longestPassword : Nat := 72

/-- The number of characters of a salt. -/
def saltSize : Nat := 22

/-- The number of characters of a digest. -/
def digestSize : Nat := 31

/-- The least number of bytes of a hash. -/
def leastSize : Nat := 59

/-- The dollar sign that divides the parts of a hash. -/
def divider : UInt8 := 36

/-- The text of a hash.  A digest that is too short is filled up with zero bytes
and one that is too long is cut. -/
def render (h : PasswordHash) : Bytes :=
  divider :: h.major :: (if h.minor = 0 then [] else [h.minor]) ++ divider
    :: Bytes.padLeft 48 2 (decimal h.cost) ++ divider :: h.salt
    ++ Bytes.padRight 0 digestSize (h.digest.take digestSize)

/-- The cost, when it is within range. -/
def checkCost (cost : Int) : Except HashError Nat :=
  if cost < leastCost ∨ greatestCost < cost then .error (.invalidCost cost) else .ok cost.toNat

/-- Reads the text of a hash. -/
def parse (s : Bytes) : Except HashError PasswordHash :=
  if s.length < leastSize then .error .tooShort
  else if s.getD 0 0 ≠ divider then .error (.invalidStart (s.getD 0 0))
  else if 50 < s.getD 1 0 then .error (.versionTooNew (s.getD 1 0))
  else
    let minor := s.getD 2 0
    let rest := if minor = divider then s.drop 3 else s.drop 4
    match Numeral.readInteger (.plain 10) (rest.take 2) with
    | .error e => .error (.unreadableCost (rest.take 2) e)
    | .ok cost =>
      match checkCost cost with
      | .error e => .error e
      | .ok cost =>
        .ok { major := s.getD 1 0
              minor := if minor = divider then 0 else minor
              cost := cost
              salt := (rest.drop 3).take saltSize
              digest := rest.drop (3 + saltSize) }

/-- The digest of a password as text.  The password is ended by a zero byte. -/
def computeDigest (password : Bytes) (cost : Nat) (salt : Bytes) : Except HashError Bytes :=
  match Radix64.decode (salt ++ List.replicate (4 - salt.length % 4) Radix64.padding) with
  | .error position => .error (.invalidSalt position)
  | .ok raw => .ok (Radix64.encode (Blowfish.digest (password ++ [0]) raw cost))

/-- The hash of a password under sixteen bytes of salt.  A cost below the least
one stands for the default. -/
def make (password : Bytes) (cost : Int) (salt : Bytes) : Except HashError PasswordHash :=
  if password.isEmpty then .error .emptyPassword
  else if longestPassword < password.length then .error .passwordTooLong
  else
    match checkCost (if cost < leastCost then defaultCost else cost) with
    | .error e => .error e
    | .ok cost =>
      let salt := Radix64.encode salt
      match computeDigest password cost salt with
      | .error e => .error e
      | .ok digest => .ok { major := 50, minor := 97, cost := cost, salt := salt, digest := digest }

/-- The password has the hash: computed anew with the same version, cost and
salt, the texts are equal. -/
def admits (h : PasswordHash) (password : Bytes) : Except HashError Bool :=
  match computeDigest password h.cost h.salt with
  | .error e => .error e
  | .ok digest => .ok (h.render = { h with digest := digest }.render)

end PasswordHash

end RegisterMachine
