/-
How a text is cut into the lines of a program.

* `Program.IsWhole`: a text of whole lines, and
  `Program.parse_append`: its lines stand before those of the text behind it;
* `EndedLine`: a line with its end, a line feed that may follow a carriage return;
* `Program.exists_written`: every text consists of ended lines and a rest without a
  line feed, and `Program.parse_written`: its lines are these;
* `Program.parse_by_lines`: **a text is cut into lines exactly at its line feeds**, and
  one carriage return before each of them, or at the end of the text, is left out.
-/
import Mathlib.Data.List.Basic
import RegisterMachine.Program

namespace RegisterMachine

/-! ### Lines and their ends -/

/-- How a line of a text is ended. -/
inductive LineEnd where
  | feed
  | returnAndFeed
deriving DecidableEq

/-- The bytes that end a line. -/
def LineEnd.bytes : LineEnd → Bytes
  | .feed => [10]
  | .returnAndFeed => [13, 10]

/-- A line without a line feed, and how it is ended.  A line that is ended by a line
feed alone does not itself end with a carriage return. -/
structure EndedLine where
  line : Bytes
  ending : LineEnd
  no_feed : 10 ∉ line
  no_return : ending = .feed → line.getLast? ≠ some 13

/-- The line together with its end. -/
def EndedLine.bytes (x : EndedLine) : Bytes :=
  x.line ++ x.ending.bytes

namespace Program

/-- The text of ended lines. -/
def written (lines : List EndedLine) : Bytes :=
  lines.flatMap EndedLine.bytes

/-- The text consists of whole lines: it is empty or ends with a line feed. -/
def IsWhole (text : Bytes) : Prop :=
  text = [] ∨ text.getLast? = some 10

lemma not_and_not_of_isWhole {text : Bytes} (h : IsWhole text) :
    ¬ (text ≠ [] ∧ text.getLast? ≠ some 10) := by
  rwa [← not_or, not_not]

/-! ### Texts one after another -/

lemma segments_concat (front : Bytes) : segments (front ++ [10]) = front.splitOn 10 := by
  rw [segments, List.splitOn_append_cons_self, List.splitOn_nil]
  simp

lemma segments_append_cons (front text : Bytes) :
    segments (front ++ 10 :: text) = front.splitOn 10 ++ segments text := by
  have hne := List.splitOn_ne_nil 10 text
  rw [segments, segments, List.splitOn_append_cons_self,
    List.getLast?_append_of_ne_nil _ hne, List.dropLast_append_of_ne_nil hne]
  split_ifs <;> rfl

/-- The lines of whole lines stand before those of the text behind them. -/
theorem parse_append {text : Bytes} (h : IsWhole text) (text' : Bytes) :
    parse (text ++ text') = parse text ++ parse text' := by
  obtain rfl | hlast := h
  · rfl
  · obtain ⟨front, rfl⟩ := List.getLast?_eq_some_iff.mp hlast
    rw [parse, parse, parse, List.append_assoc, List.singleton_append, segments_append_cons,
      segments_concat, List.map_append]

/-! ### Single lines -/

variable {l : Bytes}

lemma dropEnding_concat (l : Bytes) : Bytes.dropEnding [13] (l ++ [13]) = l := by
  rw [Bytes.dropEnding, if_pos (List.isSuffixOf_iff_suffix.mpr (List.suffix_append l [13]))]
  simp

lemma dropEnding_of_ne (h : l.getLast? ≠ some 13) : Bytes.dropEnding [13] l = l := by
  rw [Bytes.dropEnding, if_neg]
  intro hsuffix
  obtain ⟨front, rfl⟩ := List.isSuffixOf_iff_suffix.mp hsuffix
  exact h List.getLast?_concat

/-- A line that is ended loses a carriage return before its end. -/
lemma parse_feed (h : 10 ∉ l) : parse (l ++ [10]) = [Bytes.dropEnding [13] l] := by
  rw [parse, segments_concat, List.splitOn_eq_singleton h, List.map_singleton]

/-- So does a line that is not ended. -/
lemma parse_unended (h : 10 ∉ l) (hne : l ≠ []) : parse l = [Bytes.dropEnding [13] l] := by
  rw [parse, segments, List.splitOn_eq_singleton h]
  simp [hne]

/-- An ended line is read back. -/
lemma parse_bytes (x : EndedLine) : parse x.bytes = [x.line] := by
  obtain ⟨line, ending, hfeed, hreturn⟩ := x
  cases ending with
  | feed =>
      change parse (line ++ [10]) = [line]
      rw [parse_feed hfeed, dropEnding_of_ne (hreturn rfl)]
  | returnAndFeed =>
      have hfeed' : 10 ∉ line ++ [13] := by simpa using hfeed
      change parse (line ++ ([13] ++ [10])) = [line]
      rw [← List.append_assoc, parse_feed hfeed', dropEnding_concat]

lemma isWhole_bytes (x : EndedLine) : IsWhole x.bytes := by
  refine .inr ?_
  rw [EndedLine.bytes]
  cases x.ending <;> simp [LineEnd.bytes]

/-- An ended line has one line feed. -/
lemma count_bytes (x : EndedLine) : x.bytes.count 10 = 1 := by
  rw [EndedLine.bytes, List.count_append, List.count_eq_zero.mpr x.no_feed]
  cases x.ending <;> rfl

/-! ### Whole texts -/

/-- The lines of a text are those that were written, whatever follows them. -/
lemma parse_written (lines : List EndedLine) (rest : Bytes) :
    parse (written lines ++ rest) = lines.map EndedLine.line ++ parse rest := by
  induction lines with
  | nil => rfl
  | cons x lines ih =>
      rw [written, List.flatMap_cons, List.append_assoc, parse_append (isWhole_bytes x),
        parse_bytes, ← written, ih]
      rfl

lemma count_written (lines : List EndedLine) : (written lines).count 10 = lines.length := by
  induction lines with
  | nil => rfl
  | cons x lines ih =>
      rw [written, List.flatMap_cons, List.count_append, count_bytes, ← written, ih,
        List.length_cons, Nat.add_comm]

lemma isWhole_written (lines : List EndedLine) : IsWhole (written lines) := by
  induction lines with
  | nil => exact .inl rfl
  | cons x lines ih =>
      rw [written, List.flatMap_cons, ← written]
      obtain hnil | hlast := ih
      · rw [hnil, List.append_nil]
        exact isWhole_bytes x
      · exact .inr (by rw [List.getLast?_append, hlast]; rfl)

/-- A byte other than a line feed may be put before an ended line.  A carriage return
becomes part of the end if it stands right before a line feed. -/
lemma exists_bytes_cons {c : UInt8} (hc : c ≠ 10) (x : EndedLine) :
    ∃ y : EndedLine, y.bytes = c :: x.bytes := by
  obtain ⟨line, ending, hfeed, hreturn⟩ := x
  have hfeed' : 10 ∉ c :: line := by simp [hfeed, hc.symm]
  cases line with
  | cons a line =>
      refine ⟨⟨c :: a :: line, ending, hfeed', fun he => ?_⟩, rfl⟩
      rw [List.getLast?_cons_cons]
      exact hreturn he
  | nil =>
      cases ending with
      | returnAndFeed => exact ⟨⟨[c], .returnAndFeed, hfeed', by simp⟩, rfl⟩
      | feed =>
          -- the only byte that cannot be in the line
          by_cases hc' : c = 13
          · subst hc'
            exact ⟨⟨[], .returnAndFeed, by simp, by simp⟩, rfl⟩
          · exact ⟨⟨[c], .feed, hfeed', by simpa using hc'⟩, rfl⟩

/-- Every text consists of ended lines and a rest without a line feed. -/
lemma exists_written (text : Bytes) :
    ∃ (lines : List EndedLine) (rest : Bytes), text = written lines ++ rest ∧ 10 ∉ rest := by
  induction text with
  | nil => exact ⟨[], [], rfl, by simp⟩
  | cons c text ih =>
      obtain ⟨lines, rest, rfl, hrest⟩ := ih
      by_cases hc : c = 10
      · subst hc
        exact ⟨⟨[], .feed, by simp, by simp⟩ :: lines, rest, rfl, hrest⟩
      · cases lines with
        | nil => exact ⟨[], c :: rest, rfl, by simpa [eq_comm] using ⟨hc, hrest⟩⟩
        | cons x lines =>
            obtain ⟨y, hy⟩ := exists_bytes_cons hc x
            refine ⟨y :: lines, rest, ?_, hrest⟩
            rw [written, written, List.flatMap_cons, List.flatMap_cons, hy]
            rfl

/-- There are as many lines as line feeds, and one more where the text does not end
with a line feed. -/
lemma length_parse_eq (text : Bytes) :
    (parse text).length
      = text.count 10 + if text ≠ [] ∧ text.getLast? ≠ some 10 then 1 else 0 := by
  obtain ⟨lines, rest, rfl, hrest⟩ := exists_written text
  rw [parse_written, List.length_append, List.length_map, List.count_append, count_written,
    List.count_eq_zero.mpr hrest, Nat.add_zero]
  refine congrArg (lines.length + ·) ?_
  by_cases hne : rest = []
  · subst hne
    rw [List.append_nil, if_neg (not_and_not_of_isWhole (isWhole_written lines))]
    rfl
  · have hlast : rest.getLast? ≠ some 10 := fun h => hrest (List.mem_of_getLast? h)
    rw [parse_unended hrest hne, List.getLast?_append_of_ne_nil _ hne,
      if_pos ⟨by simp [hne], hlast⟩]
    rfl

/-- Whole lines are as many as the line feeds. -/
lemma length_parse {text : Bytes} (h : IsWhole text) : (parse text).length = text.count 10 := by
  rw [length_parse_eq, if_neg (not_and_not_of_isWhole h), Nat.add_zero]

lemma feed_not_mem_of_mem_parse {text : Bytes} (h : l ∈ parse text) : 10 ∉ l := by
  obtain ⟨lines, rest, rfl, hrest⟩ := exists_written text
  rw [parse_written, List.mem_append] at h
  obtain h | h := h
  · obtain ⟨x, -, rfl⟩ := List.mem_map.mp h
    exact x.no_feed
  · by_cases hne : rest = []
    · subst hne
      exact absurd h List.not_mem_nil
    · rw [parse_unended hrest hne, List.mem_singleton] at h
      subst h
      rw [Bytes.dropEnding]
      split_ifs
      · exact fun hmem => hrest (List.mem_of_mem_take hmem)
      · exact hrest

/-- **A text is cut into lines exactly at its line feeds.**  Every text consists of
ended lines and a rest without a line feed, and its lines are these; a rest that is not
empty is one more line, without a carriage return at its end.  So there are as many
lines as line feeds, and one more where the text does not end with one; the lines of
whole lines stand before those of what follows; and no line has a line feed in it. -/
theorem parse_by_lines :
    (∀ text, ∃ lines rest, text = written lines ++ rest ∧ 10 ∉ rest)
      ∧ (∀ lines, parse (written lines) = lines.map EndedLine.line)
      ∧ (∀ lines last, 10 ∉ last → last ≠ [] → last.getLast? ≠ some 13 →
          parse (written lines ++ last) = lines.map EndedLine.line ++ [last])
      ∧ (∀ lines last, 10 ∉ last →
          parse (written lines ++ (last ++ [13])) = lines.map EndedLine.line ++ [last])
      ∧ (∀ text : Bytes, (parse text).length
          = text.count 10 + if text ≠ [] ∧ text.getLast? ≠ some 10 then 1 else 0)
      ∧ (∀ text text' : Bytes, text = [] ∨ text.getLast? = some 10 →
          parse (text ++ text') = parse text ++ parse text')
      ∧ ∀ text, ∀ l ∈ parse text, 10 ∉ l := by
  refine ⟨exists_written, fun lines => ?_, fun lines last hlast hne hreturn => ?_,
    fun lines last hlast => ?_, length_parse_eq, fun text text' h => parse_append h text',
    fun text l => feed_not_mem_of_mem_parse⟩
  · have h := parse_written lines []
    rw [List.append_nil] at h
    rw [h]
    exact List.append_nil _
  · rw [parse_written, parse_unended hlast hne, dropEnding_of_ne hreturn]
  · have hlast' : 10 ∉ last ++ [13] := by simpa using hlast
    rw [parse_written, parse_unended hlast' (by simp), dropEnding_concat]

end Program

end RegisterMachine
