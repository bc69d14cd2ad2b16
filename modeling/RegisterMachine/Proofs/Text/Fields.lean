/-
The runs of a text between white space.

* `Utf8.pieces_encode_append`: a character that is written is read back,
  whatever follows it;
* `Utf8.pieces_append`: a text may be cut before a byte that continues no
  character;
* `Blank.Space`, `Blank.Solid`, `Blank.SplitsInto`: white space and the maximal
  runs without it, told on the bytes of a text and not on its pieces;
* `Blank.splitsInto_iff`: **every text splits into its fields, and in no other
  way**;
* `Blank.trim_eq_head_append`: the text without the white space around it is
  empty where there is no run, and begins with the first one otherwise.
-/
import Mathlib.Tactic.Common
import RegisterMachine.Proofs.Text.Trim

namespace RegisterMachine

namespace Utf8

/-! ### Reading back a character -/

/-- What a byte announces that may start a character. -/
lemma lead?_eq (a : UInt8) :
    (a.toNat < 0x80 → lead? a = some (0, a.toNat, 0))
      ∧ (0xC2 ≤ a.toNat → a.toNat < 0xE0 → lead? a = some (1, a.toNat % 32, 0x80))
      ∧ (0xE0 ≤ a.toNat → a.toNat < 0xF0 → lead? a = some (2, a.toNat % 16, 0x800))
      ∧ (0xF0 ≤ a.toNat → a.toNat < 0xF5 → lead? a = some (3, a.toNat % 8, 0x10000)) := by
  unfold lead?
  simp only [UInt8.lt_iff_toNat_lt, UInt8.reduceToNat]
  refine ⟨fun h => ?_, fun h h' => ?_, fun h h' => ?_, fun h h' => ?_⟩
  · rw [if_pos h]
  · rw [if_neg (by omega), if_neg (by omega), if_pos h']
  · rw [if_neg (by omega), if_neg (by omega), if_neg (by omega), if_pos h']
  · rw [if_neg (by omega), if_neg (by omega), if_neg (by omega), if_neg (by omega), if_pos h']

/-- A first byte with the bytes that it announces is read as the character with
their code point. -/
lemma head?_of_tail {a : UInt8} {tail : Bytes} {c : Char} {high least : Nat}
    (hlead : lead? a = some (tail.length, high, least)) (htail : tail.all isContinuation = true)
    (hcode : tail.foldl (fun v b => v * 64 + b.toNat % 64) high = c.val.toNat)
    (hleast : least ≤ c.val.toNat) (s : Bytes) :
    head? a (tail ++ s) = some (c, tail.length) := by
  unfold head?
  rw [hlead]
  dsimp only
  rw [List.take_left, hcode, if_pos ⟨rfl, htail, hleast, c.valid⟩]
  exact congrArg some (congrArg (·, tail.length) (Char.ofNat_toNat c))

/-- A character that is written is read back, whatever follows it, and its first
byte continues no other. -/
lemma exists_head?_encode (c : Char) :
    ∃ a tail, String.utf8EncodeChar c = a :: tail ∧ isContinuation a = false
      ∧ ∀ s, head? a (tail ++ s) = some (c, tail.length) := by
  have hvalid : c.val.toNat.isValidChar := c.valid
  have hstart (k : Nat) (h : k < 128 ∨ 192 ≤ k) (h' : k < 256) :
      isContinuation (UInt8.ofNat k) = false := by
    rw [← Bool.not_eq_true, isContinuation_iff, UInt8.toNat_ofNat']
    omega
  have hnext (n : Nat) : isContinuation (UInt8.ofNat (n % 64 + 128)) = true := by
    rw [isContinuation_iff, UInt8.toNat_ofNat']
    omega
  rw [String.utf8EncodeChar]
  -- one case for each number of bytes, as in `encode_of_head?`
  split_ifs with h1 h2 h3
  · refine ⟨_, [], rfl, hstart _ (by omega) (by omega),
      head?_of_tail ((lead?_eq _).1 ?_) rfl ?_ (by omega)⟩
    · rw [UInt8.toNat_ofNat']
      omega
    · rw [List.foldl_nil, UInt8.toNat_ofNat']
      omega
  · refine ⟨_, [_], rfl, hstart _ (by omega) (by omega),
      head?_of_tail ((lead?_eq _).2.1 ?_ ?_) (by simp only [List.all_cons, hnext]; rfl) ?_
        (by omega)⟩
    · rw [UInt8.toNat_ofNat']
      omega
    · rw [UInt8.toNat_ofNat']
      omega
    · simp only [List.foldl_cons, List.foldl_nil, UInt8.toNat_ofNat']
      omega
  · refine ⟨_, [_, _], rfl, hstart _ (by omega) (by omega),
      head?_of_tail ((lead?_eq _).2.2.1 ?_ ?_) (by simp only [List.all_cons, hnext]; rfl) ?_
        (by omega)⟩
    · rw [UInt8.toNat_ofNat']
      omega
    · rw [UInt8.toNat_ofNat']
      omega
    · simp only [List.foldl_cons, List.foldl_nil, UInt8.toNat_ofNat']
      omega
  · refine ⟨_, [_, _, _], rfl, hstart _ (by omega) (by omega),
      head?_of_tail ((lead?_eq _).2.2.2 ?_ ?_) (by simp only [List.all_cons, hnext]; rfl) ?_
        (by omega)⟩
    · rw [UInt8.toNat_ofNat']
      omega
    · rw [UInt8.toNat_ofNat']
      omega
    · simp only [List.foldl_cons, List.foldl_nil, UInt8.toNat_ofNat']
      omega

/-- A character at the start of a text is its first piece. -/
lemma pieces_encode_append (c : Char) (s : Bytes) :
    pieces (String.utf8EncodeChar c ++ s) = .char c :: pieces s := by
  obtain ⟨a, tail, hencode, -, hhead⟩ := exists_head?_encode c
  rw [hencode, List.cons_append, pieces_cons_char (hhead s), List.drop_left]

/-! ### Cutting a text -/

/-- A byte that starts no character starts none either when a text follows that
does not begin with a continuation. -/
lemma head?_append_eq_none {a : UInt8} {rest : Bytes} (h : head? a rest = none) {x : UInt8}
    (hx : isContinuation x = false) (s : Bytes) : head? a (rest ++ x :: s) = none := by
  by_contra hne
  obtain ⟨⟨c, n⟩, hsome⟩ := Option.ne_none_iff_exists'.mp hne
  by_cases hn : n ≤ rest.length
  · have hcut := head?_congr hsome (List.take_append_of_le_length hn).symm
    rw [hcut] at h
    exact absurd h (by simp)
  · -- the character would have the byte behind the cut among its own
    have hcont : ((rest ++ x :: s).take n).all isContinuation = true := by
      unfold head? at hsome
      split at hsome
      · exact absurd hsome (by simp)
      · dsimp only at hsome
        split_ifs at hsome with hif
        simp only [Option.some.injEq, Prod.mk.injEq] at hsome
        exact hsome.2 ▸ hif.2.1
    have hmem : x ∈ (rest ++ x :: s).take n := by
      rw [List.take_append]
      obtain ⟨k, hk⟩ : ∃ k, n - rest.length = k + 1 := ⟨n - rest.length - 1, by omega⟩
      simp [hk]
    rw [List.all_eq_true.mp hcont x hmem] at hx
    exact absurd hx (by simp)

/-- A text may be cut before a byte that continues no character: its pieces are
those of the two parts. -/
lemma pieces_append (t : Bytes) {x : UInt8} (hx : isContinuation x = false) (s : Bytes) :
    pieces (t ++ x :: s) = pieces t ++ pieces (x :: s) := by
  generalize hps : pieces t = ps
  induction ps generalizing t with
  | nil =>
      have ht : t = [] := by rw [← flatten_pieces t, hps]; rfl
      rw [ht, List.nil_append, List.nil_append]
  | cons p ps ih =>
      cases t with
      | nil => exact absurd hps (by simp [pieces, piecesFrom])
      | cons a rest =>
          cases hhead : head? a rest with
          | none =>
              rw [pieces_cons_stray hhead, List.cons.injEq] at hps
              rw [List.cons_append, pieces_cons_stray (head?_append_eq_none hhead hx s),
                ih rest hps.2, hps.1, List.cons_append]
          | some y =>
              obtain ⟨c, n⟩ := y
              have hn := (encode_of_head? hhead).2
              rw [pieces_cons_char hhead, List.cons.injEq] at hps
              rw [List.cons_append, pieces_cons_char (head?_append hhead _),
                List.drop_append_of_le_length hn, ih _ hps.2, hps.1, List.cons_append]

/-- A character in the middle of a text is one of its pieces. -/
lemma pieces_append_encode_append (t : Bytes) (c : Char) (s : Bytes) :
    pieces (t ++ String.utf8EncodeChar c ++ s) = pieces t ++ .char c :: pieces s := by
  obtain ⟨a, tail, hencode, ha, -⟩ := exists_head?_encode c
  have hsecond := pieces_encode_append c s
  rw [hencode, List.cons_append] at hsecond
  rw [hencode, List.append_assoc, List.cons_append, pieces_append t ha, hsecond]

end Utf8

namespace Blank

open Utf8

/-- A white space character in its UTF-8 form. -/
def Space (w : Bytes) : Prop :=
  ∃ c, isBlank c = true ∧ w = String.utf8EncodeChar c

/-- A text with something in it, but no white space character anywhere. -/
structure Solid (t : Bytes) : Prop where
  ne_nil : t ≠ []
  no_space : ∀ w, Space w → ¬ w <:+: t

/-- A text and its maximal runs without white space: a run reaches to the end of
the text or to a white space character, and the next one starts behind such a
character. -/
inductive SplitsInto : Bytes → List Bytes → Prop where
  | nil : SplitsInto [] []
  | space {w s : Bytes} {ts : List Bytes} (hw : Space w) (h : SplitsInto s ts) :
      SplitsInto (w ++ s) ts
  | last {t : Bytes} (ht : Solid t) : SplitsInto t [t]
  | run {t w s : Bytes} {ts : List Bytes} (ht : Solid t) (hw : Space w) (h : SplitsInto s ts) :
      SplitsInto (t ++ w ++ s) (t :: ts)

/-! ### Runs of bytes and runs of pieces -/

/-- A text is solid when it has pieces and none of them is white space. -/
lemma solid_iff {t : Bytes} : Solid t ↔ t ≠ [] ∧ ∀ p ∈ pieces t, isBlankPiece p = false := by
  constructor
  · refine fun h => ⟨h.ne_nil, fun p hp => ?_⟩
    by_contra hblank
    cases p with
    | stray b => exact hblank rfl
    | char c =>
        obtain ⟨before, after, hsplit⟩ := List.append_of_mem hp
        refine h.no_space _ ⟨c, by simpa [isBlankPiece] using hblank, rfl⟩ ?_
        refine ⟨flatten before, flatten after, ?_⟩
        rw [← flatten_pieces t, hsplit, flatten_append, flatten_cons, Piece.bytes,
          List.append_assoc]
  · rintro ⟨hne, hpieces⟩
    refine ⟨hne, ?_⟩
    rintro w ⟨c, hc, rfl⟩ ⟨before, after, rfl⟩
    have hblank := hpieces (.char c) (by rw [pieces_append_encode_append]; simp)
    rw [isBlankPiece, hc] at hblank
    exact absurd hblank (by simp)

lemma pieces_ne_nil {t : Bytes} (h : t ≠ []) : pieces t ≠ [] := by
  intro hnil
  apply h
  rw [← flatten_pieces t, hnil]
  rfl

/-- A run of pieces without white space is one run. -/
lemma runs_of_solid {ps : List Piece} (hne : ps ≠ []) (h : ∀ p ∈ ps, isBlankPiece p = false) :
    runs ps = [ps] := by
  rw [runs, List.splitOnP_eq_singleton h]
  simp [hne]

/-- White space divides runs. -/
lemma runs_append_blank_cons {p : Piece} (hp : isBlankPiece p = true) (ps qs : List Piece) :
    runs (ps ++ p :: qs) = runs ps ++ runs qs := by
  rw [runs, List.splitOnP_append_cons ps qs hp, List.filter_append, runs, runs]

lemma fields_of_solid {t : Bytes} (h : Solid t) : fields t = [t] := by
  have hpieces := (solid_iff.mp h).2
  rw [fields, runs_of_solid (pieces_ne_nil h.ne_nil) hpieces, List.map_singleton, flatten_pieces]

lemma fields_space_append {w : Bytes} (hw : Space w) (s : Bytes) : fields (w ++ s) = fields s := by
  obtain ⟨c, hc, rfl⟩ := hw
  rw [fields, pieces_encode_append, runs_cons_blank (p := .char c) hc, fields]

lemma fields_append_space_append {w : Bytes} (hw : Space w) (t s : Bytes) :
    fields (t ++ w ++ s) = fields t ++ fields s := by
  obtain ⟨c, hc, rfl⟩ := hw
  rw [fields, pieces_append_encode_append, runs_append_blank_cons (p := .char c) hc,
    List.map_append, fields, fields]

/-- A text splits into nothing but its fields. -/
lemma SplitsInto.eq_fields {s : Bytes} {ts : List Bytes} (h : SplitsInto s ts) :
    ts = fields s := by
  induction h with
  | nil => rfl
  | space hw _ ih => rw [fields_space_append hw, ih]
  | last ht => rw [fields_of_solid ht]
  | run ht hw _ ih => rw [fields_append_space_append hw, fields_of_solid ht, ← ih]; rfl

/-- A text splits into its fields.  The induction is on the number of pieces: the
first run, or a white space character before it, is taken off. -/
lemma splitsInto_fields (s : Bytes) : SplitsInto s (fields s) := by
  generalize hn : (pieces s).length = n
  induction n using Nat.strongRecOn generalizing s with
  | _ n ih =>
    set front := (pieces s).takeWhile (!isBlankPiece ·) with hfront
    have hsplit : pieces s = front ++ (pieces s).dropWhile (!isBlankPiece ·) := by
      rw [hfront, List.takeWhile_append_dropWhile]
    have hpieces : pieces (flatten front) = front := pieces_flatten_initial hsplit
    have hsolid (hne : front ≠ []) : Solid (flatten front) := by
      refine solid_iff.mpr ⟨fun h => hne ?_, fun p hp => ?_⟩
      · rw [← hpieces, h]
        rfl
      · rw [hpieces] at hp
        simpa using List.all_eq_true.mp List.all_takeWhile p hp
    cases hrest : (pieces s).dropWhile (!isBlankPiece ·) with
    | nil =>
        rw [hrest, List.append_nil] at hsplit
        have hs : s = flatten front := by rw [← hsplit, flatten_pieces]
        by_cases hne : front = []
        · rw [hs, hne]
          exact .nil
        · rw [hs, fields_of_solid (hsolid hne)]
          exact .last (hsolid hne)
    | cons p after =>
        have hp : isBlankPiece p = true := by
          have hhead := List.head?_dropWhile_not (!isBlankPiece ·) (pieces s)
          rw [hrest] at hhead
          simpa using hhead
        cases p with
        | stray b => exact absurd hp (by simp [isBlankPiece])
        | char c =>
            rw [hrest] at hsplit
            have hs : s = flatten front ++ String.utf8EncodeChar c ++ flatten after := by
              rw [← flatten_pieces s, hsplit, flatten_append, flatten_cons, Piece.bytes,
                List.append_assoc]
            have hcut : pieces s = (front ++ [.char c]) ++ after := by simp [hsplit]
            have hafter : pieces (flatten after) = after := pieces_flatten_suffix hcut
            have hlength : (pieces (flatten after)).length < n := by
              rw [hafter, ← hn, hsplit, List.length_append, List.length_cons]
              omega
            have hspace : Space (String.utf8EncodeChar c) := ⟨c, hp, rfl⟩
            have htail := ih _ hlength (flatten after) rfl
            by_cases hne : front = []
            · rw [hs, hne]
              change SplitsInto (String.utf8EncodeChar c ++ flatten after)
                (fields (String.utf8EncodeChar c ++ flatten after))
              rw [fields_space_append hspace]
              exact .space hspace htail
            · rw [hs, fields_append_space_append hspace, fields_of_solid (hsolid hne)]
              exact .run (hsolid hne) hspace htail

/-- **Every text splits into its fields, and in no other way.** -/
theorem splitsInto_iff (s : Bytes) (ts : List Bytes) : SplitsInto s ts ↔ ts = fields s :=
  ⟨SplitsInto.eq_fields, fun h => h ▸ splitsInto_fields s⟩

/-! ### The text without the white space around it -/

/-- A trimmed text does not start with white space. -/
lemma not_space_prefix_trim {w : Bytes} (hw : Space w) (s : Bytes) : ¬ w <+: trim s := by
  rintro ⟨rest, hrest⟩
  obtain ⟨c, hc, rfl⟩ := hw
  set front := (pieces s).dropWhile isBlankPiece with hfront
  have hpieces : (front.reverse.dropWhile isBlankPiece).reverse = .char c :: pieces rest := by
    rw [hfront, ← pieces_trim, ← hrest, pieces_encode_append]
  have hhead : front.head? = some (.char c) := by
    have hsplit : front = (front.reverse.dropWhile isBlankPiece).reverse
        ++ (front.reverse.takeWhile isBlankPiece).reverse := by
      rw [← List.reverse_append, List.takeWhile_append_dropWhile, List.reverse_reverse]
    rw [hsplit, hpieces]
    rfl
  have hnot := List.head?_dropWhile_not isBlankPiece (pieces s)
  rw [← hfront, hhead] at hnot
  simp [isBlankPiece, hc] at hnot

/-- Without the white space around it, a text begins with its first run, and is
empty when there is none. -/
lemma trim_eq_head_append (s : Bytes) :
    ∃ rest, trim s = (fields s).headD [] ++ rest ∧ (fields s = [] → rest = []) := by
  have h := splitsInto_fields (trim s)
  rw [fields_trim] at h
  generalize fields s = ts at h
  generalize htrim : trim s = t at h
  cases h with
  | nil => exact ⟨[], rfl, fun _ => rfl⟩
  | space hw _ => exact absurd ⟨_, htrim.symm⟩ (not_space_prefix_trim hw s)
  | last _ => exact ⟨[], (List.append_nil _).symm, fun _ => rfl⟩
  | run _ _ _ => exact ⟨_, List.append_assoc _ _ _, fun h => absurd h (by simp)⟩

end Blank

end RegisterMachine
