/-
The Blowfish cipher and the slow key schedule for passwords.

* `Pi.fraction`, `Pi.words`: the binary digits of pi after the point, as a
  number and as 32-bit words;
* `Blowfish.encrypt`: encrypts a block of two words;
* `Blowfish.expand`: mixes a key and a salt into the subkeys;
* `Blowfish.digest`: the value computed from a password, a salt and a cost.

The subkeys are eighteen words for the rounds followed by four tables of 256
words.  They start as the binary digits of pi, which is sixteen times the
arctangent of 1/5 less four times the arctangent of 1/239.  Both series are
summed in whole numbers, with 64 digits to spare for what is lost in the
divisions.
-/
import RegisterMachine.Bytes

namespace RegisterMachine.Pi

/-- Adds up the series of an arctangent, with alternating signs, until its terms
vanish; `term` is the next power and `odd` its divisor. -/
def series (square : Nat) : Nat → Nat → Nat → Int → Int
  | 0, _, _, sum => sum
  | fuel + 1, term, odd, sum =>
    if term = 0 then sum
    else
      let part : Int := term / odd
      series square fuel (term / square) (odd + 2) (if odd % 4 = 1 then sum + part else sum - part)

/-- The arctangent of `1 / x`, times `2 ^ bits`. -/
def arctangent (bits x : Nat) : Int :=
  series (x * x) (bits + 1) (Nat.pow 2 bits / x) 1 0

/-- The first `bits` binary digits of pi after the point, as a number. -/
def fraction (bits : Nat) : Nat :=
  let precise := bits + 64
  let pi := (16 * arctangent precise 5 - 4 * arctangent precise 239).toNat
  (pi % Nat.pow 2 precise) >>> 64

/-- The first `n` words of the binary digits of pi after the point. -/
def words (n : Nat) : Array UInt32 :=
  let digits := fraction (32 * n)
  Array.ofFn fun i : Fin n => (digits >>> (32 * (n - 1 - i))).toUInt32

end RegisterMachine.Pi

namespace RegisterMachine.Blowfish

/-- The round words and the four tables, one after another. -/
abbrev Subkeys := Array UInt32

/-- The number of words in the subkeys. -/
def size : Nat := 18 + 4 * 256

/-- The subkeys before any key is mixed in. -/
def initial : Subkeys :=
  Pi.words size

/-- The word of table `t` at the given byte. -/
@[inline] def tableWord (k : Subkeys) (t : Nat) (b : UInt32) : UInt32 :=
  k.getD (18 + 256 * t + b.toNat) 0

/-- The function that each round applies to half of a block. -/
@[inline] def mix (k : Subkeys) (x : UInt32) : UInt32 :=
  ((tableWord k 0 (x >>> 24) + tableWord k 1 ((x >>> 16) &&& 0xFF))
    ^^^ tableWord k 2 ((x >>> 8) &&& 0xFF)) + tableWord k 3 (x &&& 0xFF)

/-- The sixteen rounds, of which `left` are still to come. -/
def rounds (k : Subkeys) : Nat → UInt32 → UInt32 → UInt32 × UInt32
  | 0, x, y => (y ^^^ k.getD 17 0, x)
  | left + 1, x, y => rounds k left (y ^^^ mix k x ^^^ k.getD (16 - left) 0) x

/-- Encrypts a block of two words. -/
def encrypt (k : Subkeys) (l r : UInt32) : UInt32 × UInt32 :=
  rounds k 16 (l ^^^ k.getD 0 0) r

/-- Word `i` of a key whose bytes are repeated without end. -/
def cyclicWord (key : Array UInt8) (i : Nat) : UInt32 :=
  let byte := fun j => (key.getD ((4 * i + j) % key.size) 0).toUInt32
  (byte 0 <<< 24) ||| (byte 1 <<< 16) ||| (byte 2 <<< 8) ||| byte 3

/-- Mixes the words of a key into the round words. -/
def mixKey (key : Array UInt32) : Nat → Subkeys → Subkeys
  | 0, k => k
  | i + 1, k => mixKey key i (k.modify i (· ^^^ key.getD i 0))

/-- Replaces all subkeys in order by the encryption of the block before, with the
words of the salt mixed in; `left` pairs are still to come. -/
def refill (salt : Array UInt32) : Nat → UInt32 → UInt32 → Subkeys → Subkeys
  | 0, _, _, k => k
  | left + 1, l, r, k =>
    let i := size - 2 * (left + 1)
    let l' := l ^^^ salt.getD (i % salt.size) 0
    let r' := r ^^^ salt.getD ((i + 1) % salt.size) 0
    match encrypt k l' r' with
    | (l'', r'') => refill salt left l'' r'' ((k.setIfInBounds i l'').setIfInBounds (i + 1) r'')

/-- Mixes a key and a salt into the subkeys. -/
def expand (key salt : Array UInt32) (k : Subkeys) : Subkeys :=
  refill salt (size / 2) 0 0 (mixKey key 18 k)

/-- Mixes two keys in turn into the subkeys, `n` times. -/
def alternate (key key' : Array UInt32) : Nat → Subkeys → Subkeys
  | 0, k => k
  | n + 1, k => alternate key key' n (expand key' #[] (expand key #[] k))

/-- Encrypts a block `n` times. -/
def encryptTimes (k : Subkeys) : Nat → UInt32 × UInt32 → UInt32 × UInt32
  | 0, block => block
  | n + 1, (l, r) => encryptTimes k n (encrypt k l r)

/-- The four bytes of a word, the most significant first. -/
def wordBytes (w : UInt32) : Bytes :=
  [(w >>> 24).toUInt8, (w >>> 16).toUInt8, (w >>> 8).toUInt8, w.toUInt8]

/-- The text that is encrypted under a password. -/
def magic : Bytes := utf8 "OrpheanBeholderScryDoubt"

/-- The words of a byte string repeated as often as it takes for `n` words. -/
def cyclicWords (n : Nat) (s : Bytes) : Array UInt32 :=
  let key := s.toArray
  Array.ofFn fun i : Fin n => cyclicWord key i

/-- The value computed from a key, a salt and a cost: the subkeys are mixed with
both `2 ^ cost` times, and a fixed text is encrypted 64 times.  The last of its
24 bytes is left out. -/
def digest (key salt : Bytes) (cost : Nat) : Bytes :=
  let keyWords := cyclicWords 18 key
  -- a salt of `n` bytes repeats after `n` words
  let saltStream := cyclicWords salt.length salt
  let k := expand keyWords saltStream initial
  let k := alternate keyWords (cyclicWords 18 salt) (Nat.pow 2 cost) k
  let text := cyclicWords 6 magic
  let block := fun i =>
    let (l, r) := encryptTimes k 64 (text.getD (2 * i) 0, text.getD (2 * i + 1) 0)
    wordBytes l ++ wordBytes r
  (block 0 ++ block 1 ++ block 2).take 23

end RegisterMachine.Blowfish
