/-
Passwords that cannot be stored, and what a stored hash says about them.

* `Blowfish.keyBytes`: the 72 bytes that the cipher takes from a key;
* `Blowfish.digest_congr`: the digest depends on nothing else of the key;
* `Radix64.encode_injective`: the text of a digest tells the digest;
* `PasswordFile.verify_stored`: so a password is admitted just when its digest is the
  stored one;
* `PasswordFile.Refused`: the passwords that are too short or too long to be stored;
* `PasswordFile.admitted_though_refused`: **some of them are admitted, for every password
  that has been stored.**

Nothing is used about the cipher but that it is a function of these bytes, the salt and the
cost.
-/
import RegisterMachine.Proofs.FileSystem.Failures
import RegisterMachine.Proofs.Password.RoundTrip
import RegisterMachine.Proofs.Store.Files

namespace RegisterMachine

/-! ### Keys -/

namespace Blowfish

/-- The bytes that the cipher takes from a key, which is repeated as often as it takes. -/
def keyBytes (key : Bytes) : Bytes :=
  (List.range 72).map fun k => key.getD (k % key.length) 0

lemma length_keyBytes (key : Bytes) : (keyBytes key).length = 72 := by
  rw [keyBytes, List.length_map, List.length_range]

/-- Of a long key the first bytes are taken. -/
lemma keyBytes_of_le {key : Bytes} (h : 72 ≤ key.length) : keyBytes key = key.take 72 := by
  refine List.ext_getElem ?_ fun k hk hk' => ?_
  · rw [length_keyBytes, List.length_take]
    omega
  · rw [length_keyBytes] at hk
    have hlt : k < key.length := by omega
    simp only [keyBytes, List.getElem_map, List.getElem_range, List.getElem_take]
    rw [Nat.mod_eq_of_lt hlt, List.getD_eq_getElem _ _ hlt]

/-- Zero bytes are taken from zero bytes, however many there are. -/
lemma keyBytes_replicate_zero {n n' : Nat} :
    keyBytes (List.replicate n 0) = keyBytes (List.replicate n' 0) := by
  have hzero (n k : Nat) : (List.replicate n (0 : UInt8)).getD k 0 = 0 := by
    rw [List.getD_eq_getElem?_getD, List.getElem?_replicate]
    split_ifs <;> rfl
  rw [keyBytes, keyBytes]
  exact List.map_congr_left fun k _ => by rw [hzero, hzero]

/-- Keys from which the same bytes are taken agree byte by byte, when they are repeated. -/
lemma getD_of_keyBytes {key key' : Bytes} (h : keyBytes key = keyBytes key') {k : Nat}
    (hk : k < 72) :
    key.toArray.getD (k % key.toArray.size) 0 = key'.toArray.getD (k % key'.toArray.size) 0 := by
  have hbyte : key.getD (k % key.length) 0 = key'.getD (k % key'.length) 0 :=
    List.map_inj_left.mp h k (List.mem_range.mpr hk)
  simpa [List.getD_eq_getElem?_getD] using hbyte

lemma cyclicWord_congr {key key' : Bytes} (h : keyBytes key = keyBytes key') {i : Nat}
    (hi : i < 18) : cyclicWord key.toArray i = cyclicWord key'.toArray i := by
  rw [cyclicWord, cyclicWord]
  dsimp only
  rw [getD_of_keyBytes h (k := 4 * i + 0) (by omega),
    getD_of_keyBytes h (k := 4 * i + 1) (by omega),
    getD_of_keyBytes h (k := 4 * i + 2) (by omega),
    getD_of_keyBytes h (k := 4 * i + 3) (by omega)]

lemma cyclicWords_congr {key key' : Bytes} (h : keyBytes key = keyBytes key') :
    cyclicWords 18 key = cyclicWords 18 key' := by
  have hword : (fun i : Fin 18 => cyclicWord key.toArray i)
      = fun i : Fin 18 => cyclicWord key'.toArray i :=
    funext fun i => cyclicWord_congr h i.isLt
  rw [cyclicWords, cyclicWords]
  exact congrArg Array.ofFn hword

/-- **The digest depends on the 72 bytes of the key**, the salt and the cost. -/
lemma digest_congr {key key' : Bytes} (h : keyBytes key = keyBytes key') (salt : Bytes)
    (cost : Nat) : digest key salt cost = digest key' salt cost := by
  simp only [digest, cyclicWords_congr h]

lemma length_digest (key salt : Bytes) (cost : Nat) : (digest key salt cost).length = 23 := by
  simp only [digest, wordBytes, List.length_take, List.length_append, List.length_cons,
    List.length_nil]
  omega

end Blowfish

/-! ### Digests as text -/

namespace Radix64

lemma letter_injective {m n : Nat} (hm : m < 64) (hn : n < 64) (h : letter m = letter n) :
    m = n := by
  have hvalue := congrArg value? h
  rw [value?_letter hm, value?_letter hn] at hvalue
  exact Option.some.inj hvalue

/-- Four characters tell the number of 24 bits that they are made of. -/
lemma eq_of_letters {m n : Nat} (hm : m < 16777216) (hn : n < 16777216)
    (h₁ : letter (m / 262144) = letter (n / 262144))
    (h₂ : letter (m / 4096 % 64) = letter (n / 4096 % 64))
    (h₃ : letter (m / 64 % 64) = letter (n / 64 % 64)) (h₄ : m % 64 = n % 64) : m = n := by
  have e₁ := letter_injective (by omega) (by omega) h₁
  have e₂ := letter_injective (by omega) (by omega) h₂
  have e₃ := letter_injective (by omega) (by omega) h₃
  omega

/-- **The text of some bytes tells them**, if their number is known. -/
lemma encode_injective {s t : Bytes} (hlength : s.length = t.length) (h : encode s = encode t) :
    s = t := by
  induction s using encode.induct generalizing t with
  | case1 a b c rest ih =>
      obtain ⟨a', t, rfl⟩ := List.exists_cons_of_length_eq_add_one hlength.symm
      obtain ⟨b', t, rfl⟩ := List.exists_cons_of_length_eq_add_one (Nat.succ.inj hlength.symm)
      obtain ⟨c', t, rfl⟩ :=
        List.exists_cons_of_length_eq_add_one (Nat.succ.inj (Nat.succ.inj hlength.symm))
      have := a.toNat_lt
      have := b.toNat_lt
      have := c.toNat_lt
      have := a'.toNat_lt
      have := b'.toNat_lt
      have := c'.toNat_lt
      simp only [encode, List.cons.injEq] at h
      obtain ⟨h₁, h₂, h₃, h₄, hrest⟩ := h
      have hn := eq_of_letters (by omega) (by omega) h₁ h₂ h₃
        (letter_injective (by omega) (by omega) h₄)
      obtain rfl : a = a' := UInt8.toNat_inj.mp (by omega)
      obtain rfl : b = b' := UInt8.toNat_inj.mp (by omega)
      obtain rfl : c = c' := UInt8.toNat_inj.mp (by omega)
      rw [ih (by simpa using hlength) hrest]
  | case2 a b =>
      obtain ⟨a', b', rfl⟩ := List.length_eq_two.mp hlength.symm
      have := a.toNat_lt
      have := b.toNat_lt
      have := a'.toNat_lt
      have := b'.toNat_lt
      simp only [encode, List.cons.injEq] at h
      obtain ⟨h₁, h₂, h₃, -⟩ := h
      have hn := eq_of_letters (by omega) (by omega) h₁ h₂ h₃ (by omega)
      obtain rfl : a = a' := UInt8.toNat_inj.mp (by omega)
      obtain rfl : b = b' := UInt8.toNat_inj.mp (by omega)
      rfl
  | case3 a =>
      obtain ⟨a', rfl⟩ := List.length_eq_one_iff.mp hlength.symm
      have := a.toNat_lt
      have := a'.toNat_lt
      simp only [encode, List.cons.injEq] at h
      have e₁ := letter_injective (by omega) (by omega) h.1
      have e₂ := letter_injective (by omega) (by omega) h.2.1
      obtain rfl : a = a' := UInt8.toNat_inj.mp (by omega)
      rfl
  | case4 => exact (List.length_eq_zero_iff.mp hlength.symm).symm

end Radix64

/-! ### What a stored hash says -/

namespace PasswordHash

/-- Two hashes that differ in the digest at most have the same text only if they do not
differ, provided that the digests have the right size. -/
lemma render_inj {h : PasswordHash} {digest : Bytes} (hsize : h.digest.length = digestSize)
    (hsize' : digest.length = digestSize) :
    h.render = { h with digest := digest }.render ↔ digest = h.digest := by
  rw [render, render]
  dsimp only
  rw [padRight_take_of_length hsize, padRight_take_of_length hsize', List.append_cancel_left_eq,
    eq_comm]

/-- What a password must be like to be hashed. -/
lemma of_make_eq_ok {password salt : Bytes} {cost : Int} {h : PasswordHash}
    (hmake : make password cost salt = .ok h) :
    password ≠ [] ∧ password.length ≤ longestPassword ∧ cost ≤ greatestCost := by
  rw [make] at hmake
  split_ifs at hmake with hempty hlong hlow
  · rw [leastCost] at hlow
    exact ⟨by simpa using hempty, by omega, by rw [greatestCost]; omega⟩
  · refine ⟨by simpa using hempty, by omega, ?_⟩
    by_contra hhigh
    rw [checkCost, if_pos (.inr (by omega))] at hmake
    exact absurd hmake (by simp)

end PasswordHash

namespace PasswordFile

variable {fs later : FileSystem} {path password salt : Bytes} {cost : Int} {h : PasswordHash}

/-- What was stored is the text of the hash. -/
lemma exists_make_of_write (hwrite : (write path password cost salt fs).1 = .ok ()) :
    ∃ h m, PasswordHash.make password cost salt = .ok h
      ∧ (write path password cost salt fs).2.get? (Path.resolve path)
        = some (.file m h.render) := by
  rw [write] at hwrite ⊢
  rw [hash] at hwrite ⊢
  cases hmake : PasswordHash.make password cost salt with
  | error e =>
      rw [hmake] at hwrite
      exact absurd hwrite (by simp)
  | ok h =>
      rw [hmake] at hwrite
      have hget := @FileSystem.get?_write_of_ok fs mode path h.render
      dsimp only at hwrite ⊢
      generalize fs.write mode path h.render = x at hwrite hget ⊢
      obtain ⟨r, fs'⟩ := x
      cases r with
      | error e => exact absurd hwrite (by simp)
      | ok u => exact ⟨h, _, rfl, hget rfl⟩

/-- **A password is admitted just when its digest is that of the stored one**, and there is
a verdict on every password. -/
lemma verify_stored (hsalt : salt.length = 16)
    (hmake : PasswordHash.make password cost salt = .ok h)
    (hread : (later.read path).1 = .ok h.render) (candidate : Bytes) :
    ∃ b, (verify path candidate later).1 = .ok b
      ∧ (b = true ↔ Blowfish.digest (candidate ++ [0]) salt h.cost
        = Blowfish.digest (password ++ [0]) salt h.cost) := by
  obtain ⟨hne, hlong, hcost⟩ := PasswordHash.of_make_eq_ok hmake
  obtain ⟨h', hmake', hhash⟩ := PasswordHash.exists_make hne hlong hcost hsalt
  obtain rfl : h = h' := Except.ok.inj (hmake.symm.trans hmake')
  have hsize (key : Bytes) :
      (Radix64.encode (Blowfish.digest key salt h.cost)).length = PasswordHash.digestSize := by
    rw [Radix64.length_encode, Blowfish.length_digest]
    rfl
  have hverify : (verify path candidate later).1 = judge path candidate h.render := by
    rw [verify_of_read (Prod.ext hread rfl)]
  have hjudge := judge_hash hhash hsalt (List.forall_mem_nil _) path candidate []
  rw [List.append_nil] at hjudge
  refine ⟨_, hverify.trans hjudge, ?_⟩
  rw [decide_eq_true_iff, PasswordHash.render_inj (by rw [hhash.digest_eq, hsize]) (hsize _),
    hhash.digest_eq]
  constructor
  · exact Radix64.encode_injective (by rw [Blowfish.length_digest, Blowfish.length_digest])
  · exact congrArg Radix64.encode

/-! ### Passwords that cannot be stored -/

/-- The password can never be hashed, as it is empty or too long. -/
def Refused (password : Bytes) : Prop :=
  ∃ e, (e = HashError.emptyPassword ∨ e = HashError.passwordTooLong)
    ∧ ∀ cost salt, hash password cost salt = .error (.hash e)

lemma refused_nil : Refused [] :=
  ⟨_, .inl rfl, fun _ _ => rfl⟩

lemma refused_of_lt (hlong : PasswordHash.longestPassword < password.length) :
    Refused password := by
  refine ⟨_, .inr rfl, fun cost salt => ?_⟩
  have hne : password.isEmpty = false := by
    cases password with
    | nil => exact absurd hlong (by simp)
    | cons c password => rfl
  rw [hash, PasswordHash.make, hne, if_neg (by simp), if_pos hlong]

/-- **Passwords that cannot be stored are admitted.**  Once a password has been stored, the
file says of every candidate whether its digest is the stored one, and the digest depends
only on 72 bytes that are taken from the candidate with a zero byte behind it, over and over.
So for every password that has been stored, those 72 bytes followed by anything at all are
admitted, though they are too long to be stored; and if the password consists of zero bytes,
so is the empty one. -/
theorem admitted_though_refused (hsalt : salt.length = 16)
    (hwrite : (write path password cost salt fs).1 = .ok ()) :
    ∃ h m, PasswordHash.make password cost salt = .ok h
      ∧ (write path password cost salt fs).2.get? (Path.resolve path) = some (.file m h.render)
      ∧ ∀ later : FileSystem, (later.read path).1 = .ok h.render →
        (∀ candidate, ∃ b, (verify path candidate later).1 = .ok b
          ∧ (b = true ↔ Blowfish.digest (candidate ++ [0]) salt h.cost
            = Blowfish.digest (password ++ [0]) salt h.cost))
        ∧ (∀ candidate,
          Blowfish.keyBytes (candidate ++ [0]) = Blowfish.keyBytes (password ++ [0]) →
          (verify path candidate later).1 = .ok true)
        ∧ (∀ rest, rest ≠ [] →
          Refused (Blowfish.keyBytes (password ++ [0]) ++ rest)
            ∧ (verify path (Blowfish.keyBytes (password ++ [0]) ++ rest) later).1 = .ok true)
        ∧ (Refused [] ∧ ((∀ c ∈ password, c = 0) → (verify path [] later).1 = .ok true)) := by
  obtain ⟨h, m, hmake, hget⟩ := exists_make_of_write hwrite
  refine ⟨h, m, hmake, hget, fun later hread => ?_⟩
  have hverdict := verify_stored hsalt hmake hread
  have hadmitted (candidate : Bytes)
      (hkey : Blowfish.keyBytes (candidate ++ [0]) = Blowfish.keyBytes (password ++ [0])) :
      (verify path candidate later).1 = .ok true := by
    obtain ⟨b, hverify, hb⟩ := hverdict candidate
    rw [hverify, hb.mpr (Blowfish.digest_congr hkey salt h.cost)]
  have hlength := Blowfish.length_keyBytes (password ++ [0])
  refine ⟨hverdict, hadmitted, fun rest hrest => ⟨refused_of_lt ?_, hadmitted _ ?_⟩,
    refused_nil, fun hzero => hadmitted [] ?_⟩
  · have hpos := List.length_pos_of_ne_nil hrest
    rw [List.length_append, hlength, PasswordHash.longestPassword]
    omega
  · rw [List.append_assoc, Blowfish.keyBytes_of_le (by rw [List.length_append, hlength]; omega),
      List.take_left' hlength]
  · have hall : password ++ [0] = List.replicate (password.length + 1) 0 := by
      rw [List.replicate_succ', ← List.eq_replicate_of_mem hzero]
    rw [hall, List.nil_append]
    exact Blowfish.keyBytes_replicate_zero (n := 1)

/-- Where there are no files yet, a password that can be hashed is stored and read. -/
lemma stored_alone {text : Bytes} (hhash : hash password cost salt = .ok text) :
    (write (utf8 "h") password cost salt {}).1 = .ok ()
      ∧ ((write (utf8 "h") password cost salt {}).2.read (utf8 "h")).1 = .ok text := by
  rw [write, hhash]
  exact ⟨rfl, rfl⟩

/-- Of seventy-two letters with one more behind them and of the empty password, neither can
be stored; but one is admitted in place of the letters, and the other in place of a zero
byte. -/
theorem admitted_in_place :
    let salt : Bytes := List.replicate 16 0
    let letters : Bytes := List.replicate 72 97
    let after := fun password => (write (utf8 "h") password 4 salt {}).2
    (write (utf8 "h") letters 4 salt {}).1 = .ok ()
      ∧ hash (letters ++ [98]) 4 salt = .error (.hash .passwordTooLong)
      ∧ (verify (utf8 "h") (letters ++ [98]) (after letters)).1 = .ok true
      ∧ (write (utf8 "h") [0] 4 salt {}).1 = .ok ()
      ∧ hash [] 4 salt = .error (.hash .emptyPassword)
      ∧ (verify (utf8 "h") [] (after [0])).1 = .ok true := by
  intro salt letters after
  have hkey : Blowfish.keyBytes (letters ++ [0]) = letters := by
    rw [Blowfish.keyBytes_of_le (by decide), List.take_left' (by decide)]
  obtain ⟨text, hhash, -⟩ := @exists_hash letters salt 4 (by decide) (by decide) (by decide) rfl
  obtain ⟨text', hhash', -⟩ := @exists_hash [0] salt 4 (by decide) (by decide) (by decide) rfl
  obtain ⟨hwrite, hread⟩ := stored_alone hhash
  obtain ⟨hwrite', hread'⟩ := stored_alone hhash'
  obtain ⟨h, m, hmake, -, hlater⟩ := admitted_though_refused rfl hwrite
  obtain ⟨h', m', hmake', -, hlater'⟩ := admitted_though_refused rfl hwrite'
  rw [hash, hmake] at hhash
  rw [hash, hmake'] at hhash'
  rw [← Except.ok.inj hhash] at hread
  rw [← Except.ok.inj hhash'] at hread'
  obtain ⟨-, -, hlong, -⟩ := hlater _ hread
  obtain ⟨-, -, -, -, hempty⟩ := hlater' _ hread'
  have hadmitted := (hlong [98] (by decide)).2
  rw [hkey] at hadmitted
  exact ⟨hwrite, rfl, hadmitted, hwrite', rfl, hempty (by simp)⟩

end PasswordFile

end RegisterMachine
