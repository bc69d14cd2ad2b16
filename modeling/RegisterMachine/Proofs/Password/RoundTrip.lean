/-
What is stored for a password admits this password.

* `Radix64.decode_encode`: sixteen bytes of salt can be read from their text;
* `PasswordHash.parse_render`: so can a hash, but for what its text leaves out of
  the digest;
* `PasswordFile.judge_hash`: a stored hash is judged to be that of the passwords whose
  digest makes the same text;
* `PasswordFile.exists_hash`: **the stored text is judged to be that of the
  password**, with any white space before it and with anything behind it.

Nothing is used about the digest itself but that it is a function of the password,
the salt and the cost.
-/
import Mathlib.Data.List.Basic
import Mathlib.Data.List.TakeWhile
import RegisterMachine.Proofs.Password.Start

namespace RegisterMachine

/-! ### Bytes as text -/

namespace Radix64

/-- A character is neither white space nor part of a longer one. -/
def IsPlain (c : UInt8) : Prop :=
  c.toNat < 128 ∧ Blank.isBlank (Char.ofNat c.toNat) = false

instance (c : UInt8) : Decidable (IsPlain c) :=
  inferInstanceAs (Decidable (_ ∧ _))

lemma value?_letter {n : Nat} (h : n < 64) : value? (letter n) = some n := by
  have hall : ∀ n < 64, value? (letter n) = some n := by decide +kernel
  exact hall n h

lemma isPlain_letter (n : Nat) : IsPlain (letter n) := by
  have hall : ∀ c ∈ alphabet, IsPlain c := by decide +kernel
  rw [letter, List.getD_eq_getElem?_getD]
  cases hget : alphabet[n]? with
  | none => decide
  | some c => exact hall c (List.mem_of_getElem? hget)

lemma isPlain_of_mem_encode {s : Bytes} {c : UInt8} (h : c ∈ encode s) : IsPlain c := by
  fun_induction encode s with
  | case1 a b d rest n ih =>
      simp only [List.mem_cons] at h
      rcases h with rfl | rfl | rfl | rfl | h
      · exact isPlain_letter _
      · exact isPlain_letter _
      · exact isPlain_letter _
      · exact isPlain_letter _
      · exact ih h
  | case2 a b n =>
      simp only [List.mem_cons, List.not_mem_nil, or_false] at h
      rcases h with rfl | rfl | rfl <;> exact isPlain_letter _
  | case3 a n =>
      simp only [List.mem_cons, List.not_mem_nil, or_false] at h
      rcases h with rfl | rfl <;> exact isPlain_letter _
  | case4 => exact absurd h List.not_mem_nil

lemma length_encode (s : Bytes) : (encode s).length = (s.length * 4 + 2) / 3 := by
  fun_induction encode s with
  | case1 a b c rest n ih =>
      simp only [List.length_cons]
      rw [ih]
      omega
  | case2 a b n => simp
  | case3 a n => simp
  | case4 => rfl

/-- A value is added to the unfinished quantum, which the fourth one completes. -/
lemma decodeFrom_letter {n : Nat} (hn : n < 64) (total : Nat) (values : List Nat) (rest : Bytes) :
    decodeFrom total values (letter n :: rest)
      = if values.length = 3 then (decodeFrom total [] rest).map (quantum (values ++ [n]) ++ ·)
        else decodeFrom total (values ++ [n]) rest := by
  rw [decodeFrom, value?_letter hn]
  dsimp only
  split_ifs with hfull
  · cases decodeFrom total [] rest <;> rfl
  · rfl

lemma quantum_four {v₁ v₂ v₃ v₄ n : Nat}
    (hn : (((0 * 64 + v₁) * 64 + v₂) * 64 + v₃) * 64 + v₄ = n) :
    quantum [v₁, v₂, v₃, v₄] = [(n / 65536).toUInt8, (n / 256).toUInt8, n.toUInt8] := by
  rw [← hn]
  rfl

lemma quantum_two {v₁ v₂ n : Nat} (hn : (((0 * 64 + v₁) * 64 + v₂) * 64 + 0) * 64 + 0 = n) :
    quantum [v₁, v₂] = [(n / 65536).toUInt8] := by
  rw [← hn]
  rfl

/-- Four values hold three bytes. -/
lemma quantum_bytes (a b c : UInt8) :
    let n := (a.toNat * 256 + b.toNat) * 256 + c.toNat
    quantum [n / 262144, n / 4096 % 64, n / 64 % 64, n % 64] = [a, b, c] := by
  intro n
  have ha := a.toNat_lt
  have hb := b.toNat_lt
  have hc := c.toNat_lt
  have h₁ : (n / 65536).toUInt8 = a := UInt8.toNat_inj.mp (by simp [n]; omega)
  have h₂ : (n / 256).toUInt8 = b := UInt8.toNat_inj.mp (by simp [n]; omega)
  have h₃ : n.toUInt8 = c := UInt8.toNat_inj.mp (by simp [n])
  rw [quantum_four (n := n) (by omega), h₁, h₂, h₃]

/-- Two values hold one byte. -/
lemma quantum_byte (a : UInt8) :
    let n := a.toNat * 65536
    quantum [n / 262144, n / 4096 % 64] = [a] := by
  intro n
  have h₁ : (n / 65536).toUInt8 = a := UInt8.toNat_inj.mp (by simp [n])
  rw [quantum_two (n := n) (by omega), h₁]

/-- Bytes that leave one over when they are taken by threes can be read from their text
and two characters of padding. -/
lemma decodeFrom_encode (total : Nat) {s : Bytes} (h : s.length % 3 = 1) :
    decodeFrom total [] (encode s ++ [padding, padding]) = .ok s := by
  fun_induction encode s with
  | case1 a b c rest n ih =>
      have ha := a.toNat_lt
      have hb := b.toNat_lt
      have hc := c.toNat_lt
      have hrest : rest.length % 3 = 1 := by
        simp only [List.length_cons] at h
        omega
      simp only [List.cons_append]
      rw [decodeFrom_letter (by omega), if_neg (by simp), decodeFrom_letter (by omega),
        if_neg (by simp), decodeFrom_letter (by omega), if_neg (by simp),
        decodeFrom_letter (by omega), if_pos (by simp), ih hrest]
      exact congrArg (fun q => Except.ok (q ++ rest)) (quantum_bytes a b c)
  | case2 a b n => simp at h
  | case3 a n =>
      have ha := a.toNat_lt
      have hpadding : value? padding = none := by decide +kernel
      simp only [List.cons_append, List.nil_append]
      rw [decodeFrom_letter (by omega), if_neg (by simp), decodeFrom_letter (by omega),
        if_neg (by simp), decodeFrom, hpadding]
      exact congrArg Except.ok (quantum_byte a)
  | case4 => simp at h

/-- **Sixteen bytes of salt** can be read from their padded text. -/
lemma decode_encode {salt : Bytes} (h : salt.length = 16) :
    decode (encode salt ++ [padding, padding]) = .ok salt :=
  decodeFrom_encode _ (by rw [h])

end Radix64

/-! ### Hashes and their texts -/

namespace PasswordHash

/-- The digest as it stands in the text of a hash. -/
def shown (h : PasswordHash) : Bytes :=
  Bytes.padRight 0 digestSize (h.digest.take digestSize)

/-- A hash as it is made of a new password. -/
structure IsNew (h : PasswordHash) : Prop where
  major : h.major = 50
  minor : h.minor = 97
  cost : 4 ≤ h.cost ∧ h.cost ≤ 31
  salt : h.salt.length = saltSize

/-- A hash as it is made of a password under some salt. -/
structure IsHashOf (h : PasswordHash) (password saltBytes : Bytes) : Prop extends IsNew h where
  salt_eq : h.salt = Radix64.encode saltBytes
  digest_eq : h.digest = Radix64.encode (Blowfish.digest (password ++ [0]) saltBytes h.cost)

variable {h : PasswordHash}

lemma length_shown (h : PasswordHash) : h.shown.length = digestSize := by
  rw [shown, Bytes.padRight, List.length_append, List.length_replicate, List.length_take]
  omega

lemma isPlain_of_mem_shown (hplain : ∀ c ∈ h.digest, Radix64.IsPlain c) {c : UInt8}
    (hc : c ∈ h.shown) : Radix64.IsPlain c := by
  rw [shown, Bytes.padRight, List.mem_append, List.mem_replicate] at hc
  rcases hc with hc | ⟨-, rfl⟩
  · exact hplain c (List.mem_of_mem_take hc)
  · decide

/-- A digest of the right size stands in the text of a hash as it is. -/
lemma padRight_take_of_length {digest : Bytes} (hsize : digest.length = digestSize) :
    Bytes.padRight 0 digestSize (digest.take digestSize) = digest := by
  rw [List.take_of_length_le (Nat.le_of_eq hsize), Bytes.padRight, hsize, Nat.sub_self,
    List.replicate_zero, List.append_nil]

/-- The text of a hash says nothing but what it shows of the digest. -/
lemma render_shown (h : PasswordHash) : { h with digest := h.shown }.render = h.render := by
  rw [render, render]
  dsimp only
  rw [padRight_take_of_length h.length_shown, shown]

/-- The costs from 4 to 31 are written with two digits, and can be read from them. -/
lemma cost_text {n : Nat} (hn : n ≤ 31) :
    ∃ x y, Bytes.padLeft 48 2 (decimal n) = [x, y]
      ∧ Numeral.readInteger (.plain 10) [x, y] = .ok n := by
  have hlength : ∀ n < 32, (Bytes.padLeft 48 2 (decimal n)).length = 2
      ∧ Numeral.readInteger (.plain 10) (Bytes.padLeft 48 2 (decimal n)) = .ok (n : Int) := by
    decide +kernel
  obtain ⟨htwo, hread⟩ := hlength n (by omega)
  obtain ⟨x, y, hxy⟩ := List.length_eq_two.mp htwo
  rw [hxy] at hread
  exact ⟨x, y, hxy, hread⟩

/-- The text of a new hash, part by part. -/
lemma IsNew.exists_render (hnew : h.IsNew) :
    ∃ x y, h.render = [36, 50, 97, 36, x, y, 36] ++ (h.salt ++ h.shown)
      ∧ Numeral.readInteger (.plain 10) [x, y] = .ok h.cost := by
  obtain ⟨x, y, htext, hread⟩ := cost_text hnew.cost.2
  refine ⟨x, y, ?_, hread⟩
  rw [render, hnew.major, hnew.minor, htext, if_neg (by decide), shown]
  simp [divider]

/-- A new hash has sixty bytes. -/
lemma IsNew.length_render (hnew : h.IsNew) : h.render.length = 60 := by
  obtain ⟨x, y, htext, -⟩ := hnew.exists_render
  rw [htext, List.length_append, List.length_append, hnew.salt, length_shown, saltSize, digestSize]
  rfl

/-- **A new hash can be read from its text**, but for what this leaves out of the
digest. -/
lemma IsNew.parse_render (hnew : h.IsNew) : parse h.render = .ok { h with digest := h.shown } := by
  obtain ⟨x, y, htext, hread⟩ := hnew.exists_render
  have hlength := hnew.length_render
  have hcost : checkCost h.cost = .ok h.cost := by
    have := hnew.cost
    rw [checkCost, leastCost, greatestCost, if_neg (by omega), Int.toNat_natCast]
  have htail : (x :: y :: 36 :: (h.salt ++ h.shown)).drop 3 = h.salt ++ h.shown := rfl
  have hsalt : (h.salt ++ h.shown).take saltSize = h.salt := List.take_left' hnew.salt
  have hdigest : (h.salt ++ h.shown).drop saltSize = h.shown := List.drop_left' hnew.salt
  rw [parse, if_neg (by rw [hlength, leastSize]; omega), htext]
  simp only [List.cons_append, List.nil_append, List.getD_cons_zero, List.getD_cons_succ,
    List.drop_succ_cons, List.drop_zero, divider]
  rw [if_neg (by decide), if_neg (by decide), if_neg (by decide),
    show (x :: y :: 36 :: (h.salt ++ h.shown)).take 2 = [x, y] from rfl, hread]
  dsimp only
  rw [hcost]
  dsimp only
  rw [← List.drop_drop, htail, hsalt, hdigest, if_neg (by decide), ← hnew.major, ← hnew.minor]

/-- The digest of a password under sixteen bytes of salt is the text of what the cipher
makes of it. -/
lemma computeDigest_encode (password : Bytes) (cost : Nat) {salt : Bytes}
    (hsalt : salt.length = 16) :
    computeDigest password cost (Radix64.encode salt)
      = .ok (Radix64.encode (Blowfish.digest (password ++ [0]) salt cost)) := by
  have hsize : (Radix64.encode salt).length % 4 = 2 := by
    rw [Radix64.length_encode, hsalt]
  have hpadding : List.replicate (4 - 2) Radix64.padding = [Radix64.padding, Radix64.padding] := rfl
  rw [computeDigest, hsize, hpadding, Radix64.decode_encode hsalt]

/-- Making a hash succeeds for passwords of one to 72 bytes and for costs that are not
too high. -/
lemma exists_make {password salt : Bytes} {cost : Int} (hpassword : password ≠ [])
    (hlong : password.length ≤ longestPassword) (hcost : cost ≤ greatestCost)
    (hsalt : salt.length = 16) :
    ∃ h, make password cost salt = .ok h ∧ h.IsHashOf password salt := by
  have hsize : (Radix64.encode salt).length = saltSize := by
    rw [Radix64.length_encode, hsalt]
    rfl
  obtain ⟨n, hn, hcheck⟩ : ∃ n : Nat, (4 ≤ n ∧ n ≤ 31)
      ∧ checkCost (if cost < leastCost then defaultCost else cost) = .ok n := by
    rw [greatestCost] at hcost
    by_cases hlow : cost < leastCost
    · exact ⟨defaultCost, by decide, by rw [if_pos hlow]; rfl⟩
    · rw [leastCost] at hlow
      refine ⟨cost.toNat, by omega, ?_⟩
      rw [leastCost, if_neg hlow, checkCost, leastCost, greatestCost, if_neg (by omega)]
  have hcompute := computeDigest_encode password n hsalt
  generalize hdigest : Radix64.encode (Blowfish.digest (password ++ [0]) salt n) = digest
    at hcompute
  refine ⟨⟨50, 97, n, Radix64.encode salt, digest⟩, ?_, ⟨rfl, rfl, hn, hsize⟩, rfl, hdigest.symm⟩
  rw [make, if_neg (by simpa using hpassword), if_neg (by omega), hcheck]
  dsimp only
  rw [hcompute]

end PasswordHash

/-! ### Texts that were stored -/

/-- White space in front of a text is trimmed away, and what follows a character that is no
white space does not change the text up to it. -/
lemma Blank.exists_trim_encode {spaces : List Char} (hspaces : ∀ c ∈ spaces, isBlank c = true)
    {c d : Char} (hc : isBlankPiece (.char c) = false) (hd : isBlankPiece (.char d) = false)
    (mid x : Bytes) :
    ∃ y, trim (Utf8.encode spaces
        ++ (String.utf8EncodeChar c ++ mid ++ String.utf8EncodeChar d ++ x))
      = String.utf8EncodeChar c ++ mid ++ String.utf8EncodeChar d ++ y := by
  have hfront : (Utf8.pieces (Utf8.encode spaces)).dropWhile isBlankPiece = [] := by
    rw [List.dropWhile_eq_nil_iff]
    clear hc hd
    induction spaces with
    | nil => simp [Utf8.encode, Utf8.pieces, Utf8.piecesFrom]
    | cons s spaces ih =>
        rw [Utf8.encode, List.flatMap_cons, ← Utf8.encode, Utf8.pieces_encode_append]
        intro p hp
        rcases List.mem_cons.mp hp with rfl | hp
        · exact hspaces s List.mem_cons_self
        · exact ih (fun c hc => hspaces c (List.mem_cons_of_mem s hc)) p hp
  have htrim := trim_between hc hd (Utf8.encode spaces) mid x
  rw [hfront, List.nil_append, Utf8.flatten_cons, Utf8.flatten_pieces, Utf8.flatten_cons] at htrim
  refine ⟨_, Eq.trans ?_ (htrim.trans (List.append_assoc _ _ _).symm)⟩
  congr 1
  simp only [List.append_assoc]

namespace PasswordFile

open PasswordHash (IsNew)

/-- A new hash admits the passwords whose digest makes the same text. -/
lemma check_render {h : PasswordHash} {password digest : Bytes} (hnew : h.IsNew)
    (hdigest : PasswordHash.computeDigest password h.cost h.salt = .ok digest) (path : Bytes) :
    check path h.render password
      = .ok (decide (h.render = { h with digest := digest }.render)) := by
  rw [check, hnew.parse_render]
  dsimp only
  rw [PasswordHash.admits, hdigest]
  dsimp only
  rw [h.render_shown]

/-- The last byte of the text of a hash is a character of its own and no white space. -/
lemma exists_last {h : PasswordHash} (hnew : h.IsNew)
    (hplain : ∀ c ∈ h.digest, Radix64.IsPlain c) :
    ∃ mid d, h.render = String.utf8EncodeChar '$' ++ mid ++ String.utf8EncodeChar d
      ∧ Blank.isBlankPiece (.char d) = false := by
  obtain ⟨x, y, htext, -⟩ := hnew.exists_render
  have hne : h.shown ≠ [] := by
    intro hnil
    have hlength := h.length_shown
    rw [hnil, PasswordHash.digestSize] at hlength
    exact absurd hlength (by simp)
  have hlast : Radix64.IsPlain (h.shown.getLast hne) :=
    PasswordHash.isPlain_of_mem_shown hplain (List.getLast_mem hne)
  refine ⟨[50, 97, 36, x, y, 36] ++ (h.salt ++ h.shown.dropLast),
    Char.ofNat (h.shown.getLast hne).toNat, ?_, hlast.2⟩
  have hdollar : String.utf8EncodeChar '$' = [36] := by decide
  have hsingle : String.utf8EncodeChar (Char.ofNat (h.shown.getLast hne).toNat)
      = [h.shown.getLast hne] := by
    have hvalid : (h.shown.getLast hne).toNat.isValidChar := .inl (by have := hlast.1; omega)
    rw [String.utf8EncodeChar, Utf8.val_ofNat hvalid, if_pos (by have := hlast.1; omega),
      Utf8.ofNat_eq_of_toNat rfl]
  rw [htext, hdollar, hsingle]
  conv_lhs => rw [← List.dropLast_append_getLast hne]
  simp

/-- The text of a new hash is judged for itself, whatever white space stands before it and
whatever follows. -/
lemma judge_render {h : PasswordHash} (hnew : h.IsNew)
    (hplain : ∀ c ∈ h.digest, Radix64.IsPlain c) {spaces : List Char}
    (hspaces : ∀ c ∈ spaces, Blank.isBlank c = true) (path password x : Bytes) :
    judge path password (Utf8.encode spaces ++ (h.render ++ x)) = check path h.render password := by
  obtain ⟨mid, d, htext, hd⟩ := exists_last hnew hplain
  obtain ⟨y, hy⟩ := Blank.exists_trim_encode hspaces (c := '$') (by decide) hd mid x
  rw [← htext] at hy
  have hlength : (h.render ++ y).length ≠ 0 := by
    rw [List.length_append, hnew.length_render]
    omega
  rw [judge, hy, if_neg (by simpa [List.isEmpty_iff, ← List.length_eq_zero_iff] using hlength)]
  exact check_append (Nat.le_of_eq hnew.length_render.symm) path y password

/-- **What a stored hash says about a password**: it is right if its digest makes the same
text, whatever white space stands before the hash and whatever follows. -/
lemma judge_hash {h : PasswordHash} {password salt : Bytes} (hhash : h.IsHashOf password salt)
    (hsalt : salt.length = 16) {spaces : List Char}
    (hspaces : ∀ c ∈ spaces, Blank.isBlank c = true) (path candidate x : Bytes) :
    judge path candidate (Utf8.encode spaces ++ (h.render ++ x)) = .ok (decide (h.render
      = { h with digest :=
            Radix64.encode (Blowfish.digest (candidate ++ [0]) salt h.cost) }.render)) := by
  have hplain : ∀ c ∈ h.digest, Radix64.IsPlain c := by
    rw [hhash.digest_eq]
    exact fun c => Radix64.isPlain_of_mem_encode
  have hdigest : PasswordHash.computeDigest candidate h.cost h.salt
      = .ok (Radix64.encode (Blowfish.digest (candidate ++ [0]) salt h.cost)) := by
    rw [hhash.salt_eq, PasswordHash.computeDigest_encode candidate h.cost hsalt]
  rw [judge_render hhash.toIsNew hplain hspaces, check_render hhash.toIsNew hdigest]

/-- **What is stored for a password is judged to be right for it**, whatever white space
stands before it and whatever follows. -/
theorem exists_hash {password salt : Bytes} {cost : Int} (hpassword : password ≠ [])
    (hlong : password.length ≤ PasswordHash.longestPassword)
    (hcost : cost ≤ PasswordHash.greatestCost) (hsalt : salt.length = 16) :
    ∃ text, hash password cost salt = .ok text
      ∧ ∀ (path : Bytes) (spaces : List Char) (x : Bytes),
        (∀ c ∈ spaces, Blank.isBlank c = true) →
        judge path password (Utf8.encode spaces ++ (text ++ x)) = .ok true := by
  obtain ⟨h, hmake, hhash⟩ := PasswordHash.exists_make hpassword hlong hcost hsalt
  refine ⟨h.render, by rw [hash, hmake], fun path spaces x hspaces => ?_⟩
  rw [judge_hash hhash hsalt hspaces, ← hhash.digest_eq, decide_eq_true (Eq.refl h.render)]

end PasswordFile

end RegisterMachine
