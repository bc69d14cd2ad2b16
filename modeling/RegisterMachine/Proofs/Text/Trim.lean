/-
Texts without the white space around them.

* `Utf8.encode_of_head?`: a character that is read has the bytes that it was
  read from, so cutting a text into pieces loses nothing (`Utf8.flatten_pieces`);
* `Utf8.pieces_flatten_suffix` / `Utf8.pieces_flatten_initial`: the pieces
  behind a cut, and those before it, are again the pieces of their bytes;
* `Blank.fields_trim`: a text has the same fields without the white space
  around it, and so a line means the same (`Instruction.decode_trim`).
-/
import Mathlib.Tactic.Common
import RegisterMachine.Instruction

namespace RegisterMachine

namespace Utf8

/-! ### The bytes of a character that is read -/

/-- What the first byte of a character announces, by the number of bytes that
follow it. -/
lemma lead?_cases {a : UInt8} {count high least : Nat}
    (h : lead? a = some (count, high, least)) :
    (count = 0 ∧ a.toNat < 0x80 ∧ high = a.toNat ∧ least = 0)
      ∨ (count = 1 ∧ 0xC2 ≤ a.toNat ∧ a.toNat < 0xE0 ∧ high = a.toNat % 32 ∧ least = 0x80)
      ∨ (count = 2 ∧ 0xE0 ≤ a.toNat ∧ a.toNat < 0xF0 ∧ high = a.toNat % 16 ∧ least = 0x800)
      ∨ (count = 3 ∧ 0xF0 ≤ a.toNat ∧ a.toNat < 0xF5 ∧ high = a.toNat % 8
          ∧ least = 0x10000) := by
  unfold lead? at h
  simp only [UInt8.lt_iff_toNat_lt, UInt8.reduceToNat] at h
  split_ifs at h <;> simp only [Option.some.injEq, Prod.mk.injEq] at h <;> omega

lemma val_ofNat {n : Nat} (h : n.isValidChar) : (Char.ofNat n).val.toNat = n := by
  rw [Char.ofNat, dif_pos h]
  rfl

lemma isContinuation_iff {b : UInt8} :
    isContinuation b = true ↔ 0x80 ≤ b.toNat ∧ b.toNat < 0xC0 := by
  simp [isContinuation, UInt8.le_iff_toNat_le, UInt8.lt_iff_toNat_lt]

lemma ofNat_eq_of_toNat {x : UInt8} {k : Nat} (h : k = x.toNat) : UInt8.ofNat k = x := by
  rw [h, UInt8.ofNat_toNat]

/-- A character that is read has the bytes it was read from. -/
lemma encode_of_head? {a : UInt8} {rest : Bytes} {c : Char} {n : Nat}
    (h : head? a rest = some (c, n)) :
    String.utf8EncodeChar c = a :: rest.take n ∧ n ≤ rest.length := by
  unfold head? at h
  split at h
  · exact absurd h (by simp)
  · rename_i count high least hlead
    dsimp only at h
    split_ifs at h with hif
    obtain ⟨hlen, hcont, hleast, hvalid⟩ := hif
    simp only [Option.some.injEq, Prod.mk.injEq] at h
    obtain ⟨rfl, rfl⟩ := h
    refine ⟨?_, by rw [List.length_take] at hlen; omega⟩
    generalize rest.take count = tail at *
    generalize hcode : tail.foldl (fun v b => v * 64 + b.toNat % 64) high = code at *
    rw [String.utf8EncodeChar, val_ofNat hvalid]
    -- one case for each number of bytes; the bounds on the code point select
    -- the same number when it is written
    obtain ⟨rfl, ha, rfl, rfl⟩ | ⟨rfl, ha, ha', rfl, rfl⟩ | ⟨rfl, ha, ha', rfl, rfl⟩
      | ⟨rfl, ha, ha', rfl, rfl⟩ := lead?_cases hlead
    · match tail, hlen with
      | [], _ =>
          rw [List.foldl_nil] at hcode
          rw [if_pos (by omega), ofNat_eq_of_toNat (x := a) (by omega)]
    · match tail, hlen with
      | [b], _ =>
          simp only [List.all_cons, List.all_nil, Bool.and_true, isContinuation_iff] at hcont
          simp only [List.foldl_cons, List.foldl_nil] at hcode
          rw [if_neg (by omega), if_pos (by omega), ofNat_eq_of_toNat (x := a) (by omega),
            ofNat_eq_of_toNat (x := b) (by omega)]
    · match tail, hlen with
      | [b, b'], _ =>
          simp only [List.all_cons, List.all_nil, Bool.and_true, Bool.and_eq_true,
            isContinuation_iff] at hcont
          simp only [List.foldl_cons, List.foldl_nil] at hcode
          rw [if_neg (by omega), if_neg (by omega), if_pos (by omega),
            ofNat_eq_of_toNat (x := a) (by omega), ofNat_eq_of_toNat (x := b) (by omega),
            ofNat_eq_of_toNat (x := b') (by omega)]
    · match tail, hlen with
      | [b, b', b''], _ =>
          simp only [List.all_cons, List.all_nil, Bool.and_true, Bool.and_eq_true,
            isContinuation_iff] at hcont
          simp only [List.foldl_cons, List.foldl_nil] at hcode
          rw [if_neg (by omega), if_neg (by omega), if_neg (by omega),
            ofNat_eq_of_toNat (x := a) (by omega), ofNat_eq_of_toNat (x := b) (by omega),
            ofNat_eq_of_toNat (x := b') (by omega), ofNat_eq_of_toNat (x := b'') (by omega)]

/-- Reading a character looks only at its own bytes. -/
lemma head?_congr {a : UInt8} {rest rest' : Bytes} {c : Char} {n : Nat}
    (h : head? a rest = some (c, n)) (htake : rest'.take n = rest.take n) :
    head? a rest' = some (c, n) := by
  unfold head? at h ⊢
  split at h
  · exact absurd h (by simp)
  · dsimp only at h ⊢
    split_ifs at h with hif
    simp only [Option.some.injEq, Prod.mk.injEq] at h
    obtain ⟨rfl, rfl⟩ := h
    rw [htake, if_pos hif]

/-- What follows a character does not matter for reading it. -/
lemma head?_append {a : UInt8} {rest : Bytes} {c : Char} {n : Nat}
    (h : head? a rest = some (c, n)) (more : Bytes) : head? a (rest ++ more) = some (c, n) :=
  head?_congr h (List.take_append_of_le_length (encode_of_head? h).2)

/-! ### The pieces of a text -/

lemma piecesFrom_eq_drop (skip : Nat) (s : Bytes) : piecesFrom skip s = pieces (s.drop skip) := by
  induction s generalizing skip with
  | nil => cases skip <;> simp [pieces, piecesFrom]
  | cons a rest ih =>
      cases skip with
      | zero => rfl
      | succ skip => rw [piecesFrom, ih, List.drop_succ_cons]

lemma pieces_cons_char {a : UInt8} {rest : Bytes} {c : Char} {n : Nat}
    (h : head? a rest = some (c, n)) :
    pieces (a :: rest) = .char c :: pieces (rest.drop n) := by
  rw [pieces, piecesFrom, h, ← piecesFrom_eq_drop]

lemma pieces_cons_stray {a : UInt8} {rest : Bytes} (h : head? a rest = none) :
    pieces (a :: rest) = .stray a :: pieces rest := by
  rw [pieces, piecesFrom, h, pieces]

@[simp] lemma flatten_cons (p : Piece) (ps : List Piece) :
    flatten (p :: ps) = p.bytes ++ flatten ps := rfl

lemma flatten_append (ps qs : List Piece) : flatten (ps ++ qs) = flatten ps ++ flatten qs :=
  List.flatMap_append

/-- The first piece of a text, and the text behind it. -/
lemma pieces_eq_cons {s : Bytes} {p : Piece} {ps : List Piece} (h : pieces s = p :: ps) :
    ∃ s', s = p.bytes ++ s' ∧ pieces s' = ps := by
  cases s with
  | nil => simp [pieces, piecesFrom] at h
  | cons a rest =>
      cases hhead : head? a rest with
      | none =>
          rw [pieces_cons_stray hhead, List.cons.injEq] at h
          obtain ⟨rfl, hps⟩ := h
          exact ⟨rest, rfl, hps⟩
      | some x =>
          obtain ⟨c, n⟩ := x
          rw [pieces_cons_char hhead, List.cons.injEq] at h
          obtain ⟨rfl, hps⟩ := h
          refine ⟨rest.drop n, ?_, hps⟩
          rw [Piece.bytes, (encode_of_head? hhead).1, List.cons_append, List.take_append_drop]

/-- The pieces of a text have the bytes of the text. -/
lemma flatten_pieces (s : Bytes) : flatten (pieces s) = s := by
  generalize h : pieces s = ps
  induction ps generalizing s with
  | nil =>
      cases s with
      | nil => rfl
      | cons a rest =>
          cases hhead : head? a rest with
          | none => simp [pieces_cons_stray hhead] at h
          | some x => simp [pieces_cons_char (c := x.1) (n := x.2) hhead] at h
  | cons p ps ih =>
      obtain ⟨s', rfl, hs'⟩ := pieces_eq_cons h
      rw [flatten_cons, ih s' hs']

/-- The pieces behind a cut are the pieces of their bytes. -/
lemma pieces_flatten_suffix {s : Bytes} {before ps : List Piece} (h : pieces s = before ++ ps) :
    pieces (flatten ps) = ps := by
  induction before generalizing s with
  | nil =>
      rw [List.nil_append] at h
      rw [← h, flatten_pieces]
  | cons p before ih =>
      obtain ⟨s', -, hs'⟩ := pieces_eq_cons h
      exact ih hs'

/-- The pieces before a cut are the pieces of their bytes: a byte that starts
no character in the whole text starts none in a shorter one either. -/
lemma pieces_flatten_initial {s : Bytes} {ps after : List Piece} (h : pieces s = ps ++ after) :
    pieces (flatten ps) = ps := by
  induction ps generalizing s with
  | nil => rfl
  | cons p ps ih =>
      cases s with
      | nil => simp [pieces, piecesFrom] at h
      | cons a rest =>
          cases hhead : head? a rest with
          | none =>
              rw [pieces_cons_stray hhead, List.cons_append, List.cons.injEq] at h
              obtain ⟨rfl, hrest⟩ := h
              have hbytes : rest = flatten ps ++ flatten after := by
                rw [← flatten_append, ← hrest, flatten_pieces]
              have hnone : head? a (flatten ps) = none := by
                by_contra hne
                obtain ⟨⟨c, n⟩, hsome⟩ := Option.ne_none_iff_exists'.mp hne
                rw [hbytes, head?_append hsome] at hhead
                exact absurd hhead (by simp)
              rw [flatten_cons, Piece.bytes, List.singleton_append, pieces_cons_stray hnone,
                ih hrest]
          | some x =>
              obtain ⟨c, n⟩ := x
              obtain ⟨hencode, hn⟩ := encode_of_head? hhead
              rw [pieces_cons_char hhead, List.cons_append, List.cons.injEq] at h
              obtain ⟨rfl, hrest⟩ := h
              have hlen : (rest.take n).length = n := by rw [List.length_take]; omega
              have hagain : head? a (rest.take n ++ flatten ps) = some (c, n) :=
                head?_congr hhead (List.take_left' hlen)
              rw [flatten_cons, Piece.bytes, hencode, List.cons_append, pieces_cons_char hagain,
                List.drop_left' hlen, ih hrest]

end Utf8

namespace Blank

open Utf8

/-- The pieces of a trimmed text are the pieces of the text, trimmed. -/
lemma pieces_trim (s : Bytes) :
    pieces (trim s)
      = (((pieces s).dropWhile isBlankPiece).reverse.dropWhile isBlankPiece).reverse := by
  set front := (pieces s).dropWhile isBlankPiece with hfront
  have hsuffix : pieces s = (pieces s).takeWhile isBlankPiece ++ front := by
    rw [hfront, List.takeWhile_append_dropWhile]
  have hinner : pieces (flatten front)
      = (front.reverse.dropWhile isBlankPiece).reverse
        ++ (front.reverse.takeWhile isBlankPiece).reverse := by
    rw [pieces_flatten_suffix hsuffix, ← List.reverse_append, List.takeWhile_append_dropWhile,
      List.reverse_reverse]
  exact pieces_flatten_initial hinner

lemma runs_cons_blank {p : Piece} (hp : isBlankPiece p = true) (ps : List Piece) :
    runs (p :: ps) = runs ps := by
  simp [runs, List.splitOnP_cons_eq_if_modifyHead, hp]

lemma runs_append_blank {p : Piece} (hp : isBlankPiece p = true) (ps : List Piece) :
    runs (ps ++ [p]) = runs ps := by
  simp [runs, List.splitOnP_append_cons ps [] hp]

/-- White space before the first run makes no difference. -/
lemma runs_dropWhile (ps : List Piece) : runs (ps.dropWhile isBlankPiece) = runs ps := by
  induction ps with
  | nil => rfl
  | cons p ps ih =>
      by_cases hp : isBlankPiece p = true
      · rw [List.dropWhile_cons_of_pos hp, ih, runs_cons_blank hp]
      · rw [List.dropWhile_cons_of_neg hp]

/-- White space behind the last run makes no difference. -/
lemma runs_reverse_dropWhile (ps : List Piece) :
    runs (ps.reverse.dropWhile isBlankPiece).reverse = runs ps := by
  generalize hqs : ps.reverse = qs
  rw [← List.reverse_reverse ps, hqs]
  induction qs generalizing ps with
  | nil => rfl
  | cons p qs ih =>
      by_cases hp : isBlankPiece p = true
      · rw [List.dropWhile_cons_of_pos hp, ih qs.reverse (List.reverse_reverse qs),
          List.reverse_cons, runs_append_blank hp]
      · rw [List.dropWhile_cons_of_neg hp]

/-- A text has the same fields without the white space around it. -/
lemma fields_trim (s : Bytes) : fields (trim s) = fields s := by
  rw [fields, pieces_trim, runs_reverse_dropWhile, runs_dropWhile, fields]

end Blank

/-- A line means the same without the white space around it. -/
@[simp] lemma Instruction.decode_trim (line : Bytes) : decode (Blank.trim line) = decode line := by
  rw [decode, Blank.fields_trim, decode]

end RegisterMachine
