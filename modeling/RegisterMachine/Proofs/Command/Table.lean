/-
The printed forms of a bank, read row by row.

* `Registers.cells`: the fields of the lines of a text, and `Palette.bare`: a text
  without its colours;
* `Registers.Shows`: a text tells the names and the values of the registers, in base ten
  and in base sixteen, as a table or as the entries of a document;
* `Registers.shows_render`: **what is printed for a bank shows it**;
* `Registers.Offers`: a row gives the name of a register and a value;
* `Registers.assignment_of_offers`: **what a row of the table gives names the register of
  that row and its word**.
-/
import RegisterMachine.Command.Registers
import RegisterMachine.Proofs.Command.Stored
import RegisterMachine.Proofs.Instruction.RoundTrip
import RegisterMachine.Proofs.Program.Lines
import RegisterMachine.Proofs.Text.Literal
import RegisterMachine.Proofs.Yaml.Word

namespace RegisterMachine

variable {b : Bank}

/-! ### Columns -/

namespace Blank

lemma fields_append_blank_cons (s t : Bytes) : fields (s ++ 32 :: t) = fields s ++ fields t := by
  have hblank := fields_append_space_append space_blank s t
  rwa [List.append_assoc] at hblank

lemma fields_replicate_append (k : Nat) (s : Bytes) :
    fields (List.replicate k 32 ++ s) = fields s := by
  induction k with
  | zero => rfl
  | succ k ih =>
      rw [List.replicate_succ, List.cons_append]
      exact (fields_space_append space_blank _).trans ih

lemma fields_append_replicate (s : Bytes) (k : Nat) :
    fields (s ++ List.replicate k 32) = fields s := by
  induction k with
  | zero => rw [List.replicate_zero, List.append_nil]
  | succ k ih =>
      rw [List.replicate_succ', ← List.append_assoc, fields_append_blank_cons, ih]
      exact List.append_nil _

/-- Blanks between columns do not count. -/
lemma fields_columns {s t u : Bytes} (hs : Solid s) (ht : Solid t) (hu : Solid u) (m n : Nat) :
    fields (Bytes.padRight 32 m s ++ 32 :: Bytes.padLeft 32 n t ++ 32 :: u) = [s, t, u] := by
  rw [fields_append_blank_cons, fields_append_blank_cons, Bytes.padRight, Bytes.padLeft,
    fields_append_replicate, fields_replicate_append, fields_of_solid hs, fields_of_solid ht,
    fields_of_solid hu]
  rfl

end Blank

namespace Registers

variable {c : UInt8} {i : Nat} {v : Word}

lemma alphanumeric_of_isDigitIn {base : Nat} (h : Numeral.IsDigitIn base c) : IsAlphanumeric c := by
  obtain ⟨d, -, hd⟩ := h
  rw [Numeral.digit?, Bytes.lower] at hd
  rw [IsAlphanumeric]
  split_ifs at hd with hcapital hdigit hletter hdigit hletter <;>
    simp only [UInt8.le_iff_toNat_le, UInt8.toNat_add, UInt8.reduceToNat] at * <;> omega

lemma hexadecimalWord_eq (v : Word) :
    hexadecimalWord v = 48 :: 120 :: hexadecimalCapital 8 v.toNat := by
  have hmark : utf8 "0x" = [48, 120] := by decide
  rw [hexadecimalWord, hmark]
  rfl

lemma alphanumeric_hexadecimalWord (v : Word) : ∀ c ∈ hexadecimalWord v, IsAlphanumeric c := by
  rw [hexadecimalWord_eq, List.forall_mem_cons, List.forall_mem_cons]
  refine ⟨by decide, by decide, fun c hc => ?_⟩
  exact alphanumeric_of_isDigitIn ((Numeral.valueIn_hexadecimalCapital 8 v.toNat).2 c hc)

lemma alphanumeric_name (i : Nat) : ∀ c ∈ Register.name i, IsAlphanumeric c := by
  intro c hc
  obtain rfl | hc := List.mem_cons.mp hc
  · decide
  · have hdigit := of_mem_decimal hc
    rw [IsAlphanumeric]
    omega

lemma solid_hexadecimalWord (v : Word) : Blank.Solid (hexadecimalWord v) := by
  refine Blank.solid_of_visible ?_ fun c hc => ?_
  · rw [hexadecimalWord_eq]
    simp
  · exact (alphanumeric_hexadecimalWord v c hc).visible

lemma solid_decimal (n : Nat) : Blank.Solid (decimal n) := by
  refine Blank.solid_of_visible (digits_decimal n).ne_nil fun c hc => ?_
  have hdigit := of_mem_decimal hc
  omega

/-! ### Rows -/

/-- A row of the table without its end. -/
def rowText (i : Nat) (v : Word) : Bytes :=
  Bytes.padRight 32 4 (Register.name i) ++ 32 :: Bytes.padLeft 32 10 (decimal v.toNat)
    ++ 32 :: hexadecimalWord v

lemma tableRow_plain (i : Nat) (v : Word) : tableRow .plain i v = rowText i v ++ [10] :=
  rfl

lemma fields_rowText (i : Nat) (v : Word) :
    Blank.fields (rowText i v) = [Register.name i, decimal v.toNat, hexadecimalWord v] :=
  Blank.fields_columns (Register.solid_name i) (solid_decimal _) (solid_hexadecimalWord v) 4 10

/-- There are no control characters in a row. -/
lemma le_of_mem_rowText (h : c ∈ rowText i v) : 32 ≤ c.toNat := by
  have hword {s : Bytes} (hs : ∀ c ∈ s, IsAlphanumeric c) (hc : c ∈ s) : 32 ≤ c.toNat := by
    have hvisible := (hs c hc).visible
    omega
  have hdecimal (hc : c ∈ decimal v.toNat) : 32 ≤ c.toNat := by
    have hdigit := of_mem_decimal hc
    omega
  have hblank {k : Nat} (hc : c ∈ List.replicate k 32) : 32 ≤ c.toNat := by
    rw [List.eq_of_mem_replicate hc]
    decide
  simp only [rowText, Bytes.padRight, Bytes.padLeft, List.mem_append, List.mem_cons] at h
  obtain ((hc | hc) | rfl | hc | hc) | rfl | hc := h
  · exact hword (alphanumeric_name i) hc
  · exact hblank hc
  · decide
  · exact hblank hc
  · exact hdecimal hc
  · decide
  · exact hword (alphanumeric_hexadecimalWord v) hc

/-- The fields of the lines of a text. -/
def cells (text : Bytes) : List (List Bytes) :=
  (Program.parse text).map Blank.fields

/-- The cells of a text of lines without control characters are the fields of these. -/
lemma cells_lines {lines : List Bytes} (h : ∀ l ∈ lines, ∀ c ∈ l, 32 ≤ c.toNat) :
    cells (lines.flatMap (· ++ newline)) = lines.map Blank.fields := by
  induction lines with
  | nil => rfl
  | cons l lines ih =>
      rw [List.forall_mem_cons] at h
      have hwhole : Program.IsWhole (l ++ newline) := .inr (List.getLast?_concat)
      have hfeed : 10 ∉ l := fun hc => absurd (h.1 10 hc) (by decide)
      have hreturn : l.getLast? ≠ some 13 := fun hc =>
        absurd (h.1 13 (List.mem_of_getLast? hc)) (by decide)
      have hline : Program.parse (l ++ newline) = [l] := by
        rw [newline, Program.parse_feed hfeed, Program.dropEnding_of_ne hreturn]
      rw [cells] at ih ⊢
      rw [List.flatMap_cons, Program.parse_append hwhole, hline, List.map_append, ih h.2]
      rfl

/-- The registers in their order. -/
lemma rows_eq (b : Bank) : rows b = (List.finRange 16).map fun r => (r.val, b.word r) := by
  refine List.ext_getElem (by simp [rows, Bank.toList]) fun n hn hn' => ?_
  simp [rows, Bank.toList, Bank.word_eq_getElem]

/-- The cells of the table are the names and the values of the registers, in base ten and
in base sixteen. -/
lemma cells_table (b : Bank) :
    cells (table .plain b) = (List.finRange 16).map fun r =>
      [Register.name r.val, decimal (b.word r).toNat, hexadecimalWord (b.word r)] := by
  have htable : table .plain b = ((List.finRange 16).map fun r =>
      rowText r.val (b.word r)).flatMap (· ++ newline) := by
    rw [table, rows_eq, List.flatMap_map, List.flatMap_map]
    exact List.flatMap_congr fun r _ => tableRow_plain r.val (b.word r)
  rw [htable, cells_lines, List.map_map]
  · exact List.map_congr_left fun r _ => fields_rowText r.val (b.word r)
  · intro l hl c hc
    obtain ⟨r, -, rfl⟩ := List.mem_map.mp hl
    exact le_of_mem_rowText hc

lemma length_cells_table (b : Bank) : (cells (table .plain b)).length = 16 := by
  simp [cells_table]

lemma getElem?_cells_table (b : Bank) (r : Fin 16) :
    (cells (table .plain b))[r.val]?
      = some [Register.name r.val, decimal (b.word r).toNat, hexadecimalWord (b.word r)] := by
  simp [cells_table]

/-! ### Colours -/

end Registers

namespace Palette

/-- A text without the marks for colours, each of which goes from an escape character to
the next `m`; `inside` tells that such a mark has begun. -/
def bareFrom (inside : Bool) : Bytes → Bytes
  | [] => []
  | a :: rest =>
    if inside then bareFrom (a ≠ 109) rest
    else if a = 27 then bareFrom true rest
    else a :: bareFrom false rest

/-- A printed text without the colours of a palette. -/
def bare : Palette → Bytes → Bytes
  | .plain, s => s
  | .coloured, s => bareFrom false s

lemma bareFrom_append {s : Bytes} (h : 27 ∉ s) (t : Bytes) :
    bareFrom false (s ++ t) = s ++ bareFrom false t := by
  induction s with
  | nil => rfl
  | cons a s ih =>
      rw [List.mem_cons, not_or] at h
      rw [List.cons_append, bareFrom, if_neg Bool.false_ne_true, if_neg (Ne.symm h.1), ih h.2]
      rfl

lemma bareFrom_mark {code : Bytes} (h : 109 ∉ code) (t : Bytes) :
    bareFrom true (code ++ 109 :: t) = bareFrom false t := by
  induction code with
  | nil => rfl
  | cons a code ih =>
      rw [List.mem_cons, not_or] at h
      rw [List.cons_append, bareFrom, if_pos rfl, decide_eq_true (Ne.symm h.1), ih h.2]

/-- Without its colours a painted text is what it was. -/
lemma bareFrom_paint {start ending s : Bytes} (hstart : 109 ∉ start) (hending : 109 ∉ ending)
    (hs : 27 ∉ s) (t : Bytes) :
    bareFrom false (paint start ending .coloured s ++ t) = s ++ bareFrom false t := by
  have hmark (code rest : Bytes) (hcode : 109 ∉ code) :
      bareFrom false (27 :: 91 :: (code ++ 109 :: rest)) = bareFrom false rest :=
    bareFrom_mark hcode rest
  have hescape : utf8 "\x1b[" = [27, 91] := by decide
  have hend : utf8 "m" = [109] := by decide
  rw [paint, hescape, hend]
  simp only [List.append_assoc, List.cons_append, List.nil_append]
  rw [hmark _ _ hstart, bareFrom_append hs, hmark _ _ hending]

end Palette

namespace Registers

variable {c : UInt8} {i : Nat} {v : Word}

lemma bareFrom_tableRow (i : Nat) (v : Word) (t : Bytes) :
    Palette.bareFrom false (tableRow .coloured i v ++ t)
      = tableRow .plain i v ++ Palette.bareFrom false t := by
  have hescape : 27 ∉ rowText i v := fun h => absurd (le_of_mem_rowText h) (by decide)
  simp only [rowText, List.mem_append, List.mem_cons, not_or] at hescape
  obtain ⟨⟨hname, -, hvalue⟩, -, hhex⟩ := hescape
  have hblank (rest : Bytes) : Palette.bareFrom false (32 :: rest)
      = 32 :: Palette.bareFrom false rest := rfl
  rw [tableRow, tableRow, Palette.green, Palette.magenta]
  simp only [List.append_assoc, List.cons_append]
  rw [Palette.bareFrom_paint (by decide) (by decide) hname, hblank,
    Palette.bareFrom_paint (by decide) (by decide) hvalue, hblank,
    Palette.bareFrom_paint (by decide) (by decide) hhex]
  rfl

/-- The table is the same in all colours. -/
lemma bare_table (p : Palette) (b : Bank) : p.bare (table p b) = table .plain b := by
  have hrows (rows : List (Nat × Word)) :
      Palette.bareFrom false (rows.flatMap fun row => tableRow .coloured row.1 row.2)
        = rows.flatMap fun row => tableRow .plain row.1 row.2 := by
    induction rows with
    | nil => rfl
    | cons row rows ih => rw [List.flatMap_cons, bareFrom_tableRow, ih, List.flatMap_cons]
  cases p with
  | plain => rfl
  | coloured => exact hrows (rows b)

/-! ### Entries of a document -/

/-- Names are written as they are. -/
lemma renderText_name (i : Nat) :
    Yaml.renderText (Register.name i) = Register.name i ++ newline := by
  have hreads : Yaml.readsAsText (Register.name i) (Yaml.letters (Register.name i)) = true :=
    Yaml.readsAsText_of_x (decimal i) (Yaml.letters (decimal i))
  rw [Yaml.renderText_eq (alphanumeric_name i), if_pos hreads]

/-- A word in base sixteen reads as a number, so it is written in quotes. -/
lemma renderText_hexadecimalWord (v : Word) :
    Yaml.renderText (hexadecimalWord v) = 34 :: hexadecimalWord v ++ [34] ++ newline := by
  have hletters := alphanumeric_hexadecimalWord v
  have hfilter : (hexadecimalWord v).filter (· ≠ 95) = hexadecimalWord v := by
    refine List.filter_eq_self.mpr fun c hc => ?_
    have hcode := hletters c hc
    refine decide_eq_true fun heq => ?_
    rw [heq] at hcode
    exact absurd hcode (by decide)
  have hinteger : ∃ n, Yaml.integer? (hexadecimalWord v) = some n := by
    have hlt : v.toNat < Nat.pow 2 64 := Nat.lt_of_lt_of_le v.isLt (by decide)
    rw [Yaml.integer?, hexadecimalWord_eq, Numeral.readNatural_hexadecimal 8 hlt]
    cases Numeral.readInteger .literal (48 :: 120 :: hexadecimalCapital 8 v.toNat) with
    | ok n => exact ⟨n, rfl⟩
    | error e => exact ⟨_, rfl⟩
  obtain ⟨n, hn⟩ := hinteger
  rw [← hfilter] at hn
  have hreads :
      Yaml.readsAsText (hexadecimalWord v) (Yaml.letters (hexadecimalWord v)) = false := by
    rw [hexadecimalWord_eq] at hn ⊢
    exact Yaml.readsAsText_of_integer (by decide) hn _
  rw [Yaml.renderText_eq hletters, hreads]
  rfl

/-- The lines of an entry. -/
def entryLines (i : Nat) (v : Word) : List Bytes :=
  [utf8 "  - name:" ++ 32 :: Register.name i, utf8 "    value:" ++ 32 :: decimal v.toNat,
    utf8 "    hex:" ++ 32 :: (34 :: hexadecimalWord v ++ [34])]

lemma yamlEntry_eq (i : Nat) (v : Word) :
    yamlEntry i v = (entryLines i v).flatMap (· ++ newline) := by
  have hname : utf8 "  - name: " = utf8 "  - name:" ++ [32] := by decide
  have hvalue : utf8 "    value: " = utf8 "    value:" ++ [32] := by decide
  have hhex : utf8 "    hex: " = utf8 "    hex:" ++ [32] := by decide
  rw [yamlEntry, renderText_name, renderText_hexadecimalWord, hname, hvalue, hhex]
  simp [entryLines]

lemma visible_quoted (v : Word) :
    ∀ c ∈ 34 :: hexadecimalWord v ++ [34], 33 ≤ c.toNat ∧ c.toNat < 128 := by
  intro c hc
  rw [List.mem_append, List.mem_cons, List.mem_singleton] at hc
  obtain (rfl | hc) | rfl := hc
  · decide
  · exact (alphanumeric_hexadecimalWord v c hc).visible
  · decide

/-- There are no control characters in an entry. -/
lemma le_of_mem_entryLines {l : Bytes} (h : l ∈ entryLines i v) : ∀ c ∈ l, 32 ≤ c.toNat := by
  have hline {label value : Bytes} (hlabel : (label.all fun c => 32 ≤ c.toNat) = true)
      (hvalue : ∀ c ∈ value, 33 ≤ c.toNat ∧ c.toNat < 128) :
      ∀ c ∈ label ++ 32 :: value, 32 ≤ c.toNat := by
    intro c hc
    rw [List.mem_append, List.mem_cons] at hc
    obtain hc | rfl | hc := hc
    · exact of_decide_eq_true (List.all_eq_true.mp hlabel c hc)
    · decide
    · have hvisible := hvalue c hc
      omega
  simp only [entryLines, List.mem_cons, List.not_mem_nil, or_false] at h
  obtain rfl | rfl | rfl := h
  · exact hline (by decide) fun c hc => (alphanumeric_name i c hc).visible
  · refine hline (by decide) fun c hc => ?_
    have hdigit := of_mem_decimal hc
    omega
  · exact hline (by decide) (visible_quoted v)

/-- The cells of an entry. -/
lemma fields_entryLines (i : Nat) (v : Word) :
    (entryLines i v).map Blank.fields = [[utf8 "-", utf8 "name:", Register.name i],
      [utf8 "value:", decimal v.toNat], [utf8 "hex:", 34 :: hexadecimalWord v ++ [34]]] := by
  have hname : Blank.fields (utf8 "  - name:") = [utf8 "-", utf8 "name:"] := by decide
  have hvalue : Blank.fields (utf8 "    value:") = [utf8 "value:"] := by decide
  have hhex : Blank.fields (utf8 "    hex:") = [utf8 "hex:"] := by decide
  have hquoted : Blank.Solid (34 :: hexadecimalWord v ++ [34]) :=
    Blank.solid_of_visible (by simp) (visible_quoted v)
  have hline {label value : Bytes} (hsolid : Blank.Solid value) :
      Blank.fields (label ++ 32 :: value) = Blank.fields label ++ [value] := by
    rw [Blank.fields_append_blank_cons, Blank.fields_of_solid hsolid]
  rw [entryLines, List.map_cons, List.map_cons, List.map_singleton,
    hline (Register.solid_name i), hline (solid_decimal _), hline hquoted, hname, hvalue, hhex]
  rfl

/-! ### Printed banks -/

/-- The text tells the bank `b` in a format.  A table has one row for each register, with
its name and its word in base ten and in base sixteen.  A document names the directory, and
its entries tell the same of each register. -/
def Shows (colours : Palette) (directory : Bytes) (b : Bank) (text : Bytes) : Format → Prop
  | .table => cells (colours.bare text) = (List.finRange 16).map fun r =>
      [Register.name r.val, decimal (b.word r).toNat,
        utf8 "0x" ++ hexadecimalCapital 8 (b.word r).toNat]
  | .yaml => ∃ entries,
      text = utf8 "directory: " ++ Yaml.renderText directory ++ utf8 "registers:\n" ++ entries
        ∧ cells entries = (List.finRange 16).flatMap fun r =>
          [[utf8 "-", utf8 "name:", Register.name r.val],
            [utf8 "value:", decimal (b.word r).toNat],
            [utf8 "hex:", utf8 "\"0x" ++ hexadecimalCapital 8 (b.word r).toNat ++ utf8 "\""]]

/-- **What is printed for a bank shows it.** -/
theorem shows_render (colours : Palette) (directory : Bytes) (b : Bank) (format : Format) :
    Shows colours directory b (render colours directory b format) format := by
  cases format with
  | table =>
      change cells (colours.bare (table colours b)) = _
      rw [bare_table, cells_table]
      rfl
  | yaml =>
      have hentries : (rows b).flatMap (fun row => yamlEntry row.1 row.2)
          = ((List.finRange 16).flatMap fun r => entryLines r.val (b.word r)).flatMap
            (· ++ newline) := by
        rw [rows_eq, List.flatMap_map, List.flatMap_assoc]
        exact List.flatMap_congr fun r _ => yamlEntry_eq r.val (b.word r)
      have hkey : utf8 "registers:\n" = utf8 "registers:" ++ newline := by decide
      refine ⟨(rows b).flatMap fun row => yamlEntry row.1 row.2, ?_, ?_⟩
      · rw [hkey, ← List.append_assoc]
        rfl
      · rw [hentries, cells_lines, List.map_flatMap]
        · exact List.flatMap_congr fun r _ => fields_entryLines r.val (b.word r)
        · intro l hl
          obtain ⟨r, -, hr⟩ := List.mem_flatMap.mp hl
          exact le_of_mem_entryLines hr

/-! ### Values of a row -/

/-- The row `r` of a text gives the name `token`, and `text` as one of its two values. -/
def Offers (printed : Bytes) (r : Fin 16) (token text : Bytes) : Prop :=
  ∃ value value', (cells printed)[r.val]? = some [token, value, value']
    ∧ (text = value ∨ text = value')

/-- **What a row of the table gives names the register of that row and its word.** -/
theorem assignment_of_offers {r : Fin 16} {token text : Bytes}
    (h : Offers (table .plain b) r token text) :
    assignment token text = .ok (r.val, (b.word r).toNat) := by
  obtain ⟨value, value', hrow, htext⟩ := h
  rw [getElem?_cells_table] at hrow
  obtain ⟨rfl, rfl, rfl, -⟩ : Register.name r.val = token ∧ decimal (b.word r).toNat = value
      ∧ hexadecimalWord (b.word r) = value' ∧ True := by
    simpa using hrow
  have hlt : (b.word r).toNat < Nat.pow 2 32 := (b.word r).isLt
  have hrange : Register.InRange (r.val : Int) :=
    Register.inRange_iff.mpr ⟨by omega, by have := r.isLt; omega⟩
  refine assignment_eq_ok_iff.mpr
    ⟨Register.parse_eq_ok_iff.mpr ⟨Register.names_name _, hrange⟩, ?_⟩
  obtain rfl | rfl := htext
  · exact Numeral.readNatural_decimal hlt
  · rw [hexadecimalWord_eq]
    exact Numeral.readNatural_hexadecimal 8 hlt

end Registers

end RegisterMachine
