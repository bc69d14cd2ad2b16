/-
Only the start of a stored hash matters.

* `PasswordHash.parse_append`, `PasswordHash.admits_append`: what follows a hash has no
  influence on whether a password is admitted;
* `Blank.trim_between`: trimming leaves what stands between two characters that are no white
  space alone;
* `PasswordFile.judge_log`: **a log that stands in place of a hash is judged by its
  start**, whatever is added to it.
-/
import RegisterMachine.Log
import RegisterMachine.Password.File
import RegisterMachine.Proofs.Text.Fields

namespace RegisterMachine

/-! ### Hashes -/

namespace PasswordHash

variable {s : Bytes} {h : PasswordHash}

/-- What follows a hash is read as more of the digest. -/
lemma parse_append (hs : leastSize ≤ s.length) (y : Bytes) :
    parse (s ++ y) = (parse s).map fun h => { h with digest := h.digest ++ y } := by
  have hlength : ¬ (s ++ y).length < leastSize := by
    rw [List.length_append]
    omega
  have hlength' : ¬ s.length < leastSize := by omega
  rw [leastSize] at hs
  have hbyte {i : Nat} (hi : i < 3) : (s ++ y).getD i 0 = s.getD i 0 := by
    rw [List.getD_eq_getElem?_getD, List.getElem?_append_left (by omega),
      List.getD_eq_getElem?_getD]
  have hrest : (if s.getD 2 0 = divider then (s ++ y).drop 3 else (s ++ y).drop 4)
      = (if s.getD 2 0 = divider then s.drop 3 else s.drop 4) ++ y := by
    split_ifs
    · exact List.drop_append_of_le_length (by omega)
    · exact List.drop_append_of_le_length (by omega)
  have hlong : 3 + saltSize ≤ (if s.getD 2 0 = divider then s.drop 3 else s.drop 4).length := by
    rw [saltSize]
    split_ifs <;> rw [List.length_drop] <;> omega
  rw [parse, parse, if_neg hlength, if_neg hlength', hbyte (show 0 < 3 by omega),
    hbyte (show 1 < 3 by omega)]
  split_ifs
  · rfl
  · rfl
  dsimp only
  rw [hbyte (show 2 < 3 by omega), hrest]
  generalize (if s.getD 2 0 = divider then s.drop 3 else s.drop 4) = rest at hlong ⊢
  rw [saltSize] at hlong
  rw [List.take_append_of_le_length (by omega)]
  cases Numeral.readInteger (.plain 10) (rest.take 2) with
  | error e => rfl
  | ok cost =>
      dsimp only
      cases checkCost cost with
      | error e => rfl
      | ok cost =>
          simp only [Except.map]
          rw [saltSize, List.drop_append_of_le_length (by omega : 3 ≤ rest.length),
            List.take_append_of_le_length (by rw [List.length_drop]; omega),
            List.drop_append_of_le_length hlong]

/-- All but the first bytes of a hash are its digest. -/
lemma length_digest (hparse : parse s = .ok h) : s.length ≤ h.digest.length + 29 := by
  rw [parse] at hparse
  split_ifs at hparse
  dsimp only at hparse
  have hrest : s.length ≤ (if s.getD 2 0 = divider then s.drop 3 else s.drop 4).length + 4 := by
    split_ifs <;> rw [List.length_drop] <;> omega
  generalize (if s.getD 2 0 = divider then s.drop 3 else s.drop 4) = rest at hrest hparse
  cases hcost : Numeral.readInteger (.plain 10) (rest.take 2) with
  | error e => simp [hcost] at hparse
  | ok cost =>
      rw [hcost] at hparse
      dsimp only at hparse
      cases hcheck : checkCost cost with
      | error e => simp [hcheck] at hparse
      | ok cost =>
          rw [hcheck] at hparse
          obtain rfl := Except.ok.inj hparse
          dsimp only
          rw [List.length_drop, saltSize]
          omega

/-- A password is admitted whatever follows the digest. -/
lemma admits_append (hdigest : digestSize ≤ h.digest.length) (y password : Bytes) :
    admits { h with digest := h.digest ++ y } password = h.admits password := by
  have htake : (h.digest ++ y).take digestSize = h.digest.take digestSize :=
    List.take_append_of_le_length hdigest
  have hrender : render { h with digest := h.digest ++ y } = h.render := by
    rw [render, render, htake]
  rw [admits, admits]
  dsimp only
  cases computeDigest password h.cost h.salt with
  | error e => rfl
  | ok digest =>
      dsimp only
      rw [hrender]

end PasswordHash

namespace PasswordFile

/-- What a text that is stored at `path` says about a password. -/
def judge (path password data : Bytes) : Except PasswordError Bool :=
  if (Blank.trim data).isEmpty then .error (.emptyHash path)
  else check path (Blank.trim data) password

lemma verify_of_read {fs fs' : FileSystem} {path data : Bytes}
    (h : fs.read path = (.ok data, fs')) (password : Bytes) :
    verify path password fs = (judge path password data, fs') := by
  rw [verify, read, h, judge]
  dsimp only
  split_ifs <;> rfl

lemma verify_of_error {fs fs' : FileSystem} {path : Bytes} {e : FileError}
    (h : fs.read path = (.error e, fs')) (password : Bytes) :
    verify path password fs = (.error (.unreadable e), fs') := by
  rw [verify, read, h]

/-- Texts with the same start are judged alike. -/
lemma check_append {start : Bytes} (h : 60 ≤ start.length) (path y password : Bytes) :
    check path (start ++ y) password = check path start password := by
  have hsize : PasswordHash.leastSize ≤ start.length := by
    rw [PasswordHash.leastSize]
    omega
  rw [check, check, PasswordHash.parse_append hsize]
  cases hparse : PasswordHash.parse start with
  | error e => rfl
  | ok hash =>
      have hlength := PasswordHash.length_digest hparse
      have hdigest : PasswordHash.digestSize ≤ hash.digest.length := by
        rw [PasswordHash.digestSize]
        omega
      simp only [Except.map]
      rw [PasswordHash.admits_append hdigest]

end PasswordFile

/-! ### Texts that go on -/

lemma dropWhile_append_cons {α : Type} {p : α → Bool} {c : α} (hc : p c = false)
    (l l' : List α) : (l ++ c :: l').dropWhile p = l.dropWhile p ++ c :: l' := by
  induction l with
  | nil => simp [hc]
  | cons a l ih =>
      by_cases ha : p a = true
      · simp [ha, ih]
      · simp [ha]

lemma reverse_dropWhile_append_cons {α : Type} {p : α → Bool} {c : α} (hc : p c = false)
    (l l' : List α) : ((l ++ c :: l').reverse.dropWhile p).reverse
      = l ++ c :: (l'.reverse.dropWhile p).reverse := by
  rw [List.reverse_append, List.reverse_cons, List.append_assoc, List.singleton_append,
    dropWhile_append_cons hc]
  simp

/-- Trimming leaves the part of a text alone that stands between two characters that are
no white space. -/
lemma Blank.trim_between {c d : Char} (hc : isBlankPiece (.char c) = false)
    (hd : isBlankPiece (.char d) = false) (front mid x : Bytes) :
    trim (front ++ String.utf8EncodeChar c ++ (mid ++ String.utf8EncodeChar d ++ x))
      = Utf8.flatten ((Utf8.pieces front).dropWhile isBlankPiece ++ .char c :: Utf8.pieces mid)
        ++ Utf8.flatten (.char d :: ((Utf8.pieces x).reverse.dropWhile isBlankPiece).reverse) := by
  rw [trim, Utf8.pieces_append_encode_append, Utf8.pieces_append_encode_append,
    dropWhile_append_cons hc, ← List.cons_append, ← List.append_assoc,
    reverse_dropWhile_append_cons hd, Utf8.flatten_append]

/-- How a trimmed text starts, up to the second of these characters, does not depend on
what follows. -/
lemma Blank.exists_trim {c d : Char} (hc : isBlankPiece (.char c) = false)
    (hd : isBlankPiece (.char d) = false) (front mid : Bytes) :
    ∃ start, mid.length ≤ start.length ∧ ∀ x, ∃ y, trim
      (front ++ String.utf8EncodeChar c ++ (mid ++ String.utf8EncodeChar d ++ x)) = start ++ y := by
  refine ⟨Utf8.flatten ((Utf8.pieces front).dropWhile isBlankPiece ++ .char c :: Utf8.pieces mid),
    ?_, fun x => ⟨_, trim_between hc hd front mid x⟩⟩
  rw [Utf8.flatten_append, Utf8.flatten_cons, Utf8.flatten_pieces]
  simp only [List.length_append]
  omega

/-! ### Logs -/

/-- What stands between the braces in the text of a record. -/
def Log.Record.body (r : Log.Record) : Bytes :=
  Bytes.joined (utf8 ",") (((utf8 "level", Log.Value.text r.severity.name)
    :: (utf8 "msg", .text r.message) :: r.attributes).map fun x =>
      Log.jsonString false x.1 ++ utf8 ":" ++ x.2.json)

/-- The text of a record is a line in braces. -/
lemma Log.Record.object_eq (r : Log.Record) : r.object = 123 :: (r.body ++ [125, 10]) := by
  have hbrace : utf8 "\x7b" = [123] := by decide
  have hbrace' : utf8 "\x7d" = [125] := by decide
  rw [object, hbrace, hbrace', newline, List.append_assoc, List.append_assoc]
  rfl

/-- **A log that stands in place of a hash is judged by its start**, once it holds a
record that is long enough. -/
lemma PasswordFile.judge_log {r : Log.Record} (h : 60 ≤ r.body.length)
    (path password front x x' : Bytes) :
    judge path password (front ++ r.object ++ x') = judge path password (front ++ r.object ++ x)
    := by
  have hopen : String.utf8EncodeChar '\x7b' = [123] := by decide
  have hclose : String.utf8EncodeChar '\x7d' = [125] := by decide
  obtain ⟨start, hstart, htrim⟩ := Blank.exists_trim (c := '\x7b') (d := '\x7d') (by decide)
    (by decide) front r.body
  rw [hopen, hclose] at htrim
  have hjudge (x : Bytes) : judge path password (front ++ r.object ++ x)
      = check path start password := by
    obtain ⟨y, hy⟩ := htrim (10 :: x)
    have htext : front ++ r.object ++ x = front ++ [123] ++ (r.body ++ [125] ++ 10 :: x) := by
      simp [r.object_eq]
    have hne : start ++ y ≠ [] := by
      intro hnil
      have hlength := congrArg List.length hnil
      simp only [List.length_append, List.length_nil] at hlength
      omega
    rw [judge, htext, hy, if_neg (by simpa using hne), check_append (by omega)]
  rw [hjudge, hjudge]

end RegisterMachine
