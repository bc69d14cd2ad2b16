/-
Loading a bank, register by register and whatever failures are due.

* `Store.answer`: what comes of reading the file of a register, when those before it
  have been read;
* `Slot.wordOf`, `Slot.complaint?`: the word that is taken from it, and the error that
  it adds;
* `Store.loadOver`: loading into a bank that is there already, one register after the
  other, and `Store.loadOver_eq_load`: nothing of that bank is left;
* `Store.answer_eq_read`: registers are read as if they were alone, unless the failures
  are such that they count for several places together;
* `Store.load_by_register`: **each register is the word of its own file or zero**, and
  the errors are those of the single registers in order;
* `Store.load_by_register_failing`: a failure that is met once, at whatever place comes
  first, makes a register depend on the file of another.
-/
import RegisterMachine.Proofs.FileSystem.Agreement
import RegisterMachine.Proofs.FileSystem.Failures
import RegisterMachine.Proofs.Store.Stored

namespace RegisterMachine

open FileSystem (Spent)

variable {fs fs' : FileSystem} {d : Bytes} {i j n : Nat} {is js : List Nat}

/-! ### Reading a single register -/

namespace Slot

/-- The word that a register takes from the answer to reading its file: that of four
bytes, and zero otherwise. -/
def wordOf : Except FileError Bytes → Word
  | .ok data => (decode data).toOption.getD 0#32
  | .error _ => 0#32

/-- The error that the answer adds to those of loading.  A missing file adds none. -/
def complaint? (path : Bytes) : Except FileError Bytes → Option StoreError
  | .ok data =>
    if data.length = size then none else some (.malformedSlot (some path) data.length)
  | .error e => if e.errno = .notFound then none else some (.file e)

lemma wordOf_of_length_ne {data : Bytes} (h : data.length ≠ size) : wordOf (.ok data) = 0#32 := by
  rw [wordOf, decode_of_length_ne h]
  rfl

/-- The first byte counts most. -/
lemma toNat_wordOf (x y z w : UInt8) :
    (wordOf (.ok [x, y, z, w])).toNat
      = x.toNat * 16777216 + y.toNat * 65536 + z.toNat * 256 + w.toNat := by
  have hx := x.toNat_lt
  have hy := y.toNat_lt
  have hz := z.toNat_lt
  have hw := w.toNat_lt
  change (BitVec.ofNat 32 (((x.toNat * 256 + y.toNat) * 256 + z.toNat) * 256 + w.toNat)).toNat = _
  rw [BitVec.toNat_ofNat, Nat.mod_eq_of_lt (by omega)]
  omega

lemma complaint?_ne_none_iff {path : Bytes} {a : Except FileError Bytes} :
    complaint? path a ≠ none ↔ (∃ e, a = .error e ∧ e.errno ≠ .notFound)
      ∨ ∃ data, a = .ok data ∧ data.length ≠ size := by
  cases a with
  | error e => simp [complaint?]
  | ok data => simp [complaint?]

/-- Reading a register takes the word from the answer, unless there is a complaint. -/
lemma read_of_complaint?_eq_none (h : complaint? (path d i) (fs.read (path d i)).1 = none) :
    read d i fs = (.ok (wordOf (fs.read (path d i)).1), (fs.read (path d i)).2) := by
  rw [read]
  generalize fs.read (path d i) = x at h ⊢
  obtain ⟨a, fs'⟩ := x
  cases a with
  | error e =>
      have herrno : e.errno = .notFound := by simpa [complaint?] using h
      dsimp only
      rw [if_pos herrno]
      rfl
  | ok data =>
      have hlength : data.length = size := by simpa [complaint?] using h
      obtain ⟨v, hv⟩ := exists_decode hlength
      dsimp only
      rw [hv, wordOf, hv]
      rfl

lemma read_of_complaint?_eq_some {e : StoreError}
    (h : complaint? (path d i) (fs.read (path d i)).1 = some e) :
    read d i fs = (.error e, (fs.read (path d i)).2) ∧ wordOf (fs.read (path d i)).1 = 0#32 := by
  rw [read]
  generalize fs.read (path d i) = x at h ⊢
  obtain ⟨a, fs'⟩ := x
  cases a with
  | error e' =>
      rw [complaint?] at h
      split_ifs at h with herrno
      obtain rfl := Option.some.inj h
      dsimp only
      rw [if_neg herrno]
      exact ⟨rfl, rfl⟩
  | ok data =>
      rw [complaint?] at h
      split_ifs at h with hlength
      obtain rfl := Option.some.inj h
      dsimp only
      rw [decode_of_length_ne hlength]
      exact ⟨rfl, wordOf_of_length_ne hlength⟩

lemma spent_read (d : Bytes) (i : Int) (fs : FileSystem) : Spent fs (Slot.read d i fs).2 := by
  have hread := FileSystem.spent_read fs (Slot.path d i)
  rw [Slot.read]
  generalize fs.read (Slot.path d i) = x at hread ⊢
  obtain ⟨r, fs₁⟩ := x
  cases r with
  | error e => exact hread
  | ok data =>
      dsimp only
      cases Slot.decode data <;> exact hread

end Slot

namespace Store

/-! ### One register after the other -/

lemma spent_readAll (d : Bytes) (is : List Nat) (fs : FileSystem) :
    Spent fs (Store.readAll d is fs).2 := by
  induction is generalizing fs with
  | nil => exact .refl fs
  | cons i is ih =>
      have hread := Slot.spent_read d i fs
      rw [Store.readAll]
      generalize Slot.read d i fs = x at hread ⊢
      obtain ⟨r, fs₁⟩ := x
      cases r <;> exact hread.trans (ih fs₁)

/-- Loading changes no entry. -/
lemma spent_load (d : Bytes) (fs : FileSystem) : Spent fs (Store.load d fs).2 :=
  Store.spent_readAll d Store.registers fs

lemma load_snd (hfs : fs.failures = []) (d : Bytes) : (load d fs).2 = fs :=
  (spent_load d fs).eq_of_nil hfs

lemma readAll_cons (d : Bytes) (i : Nat) (is : List Nat) (fs : FileSystem) :
    readAll d (i :: is) fs
      = ((Slot.wordOf (fs.read (Slot.path d i)).1
            :: (readAll d is (fs.read (Slot.path d i)).2).1.1,
          (Slot.complaint? (Slot.path d i) (fs.read (Slot.path d i)).1).toList
            ++ (readAll d is (fs.read (Slot.path d i)).2).1.2),
        (readAll d is (fs.read (Slot.path d i)).2).2) := by
  rw [readAll]
  cases hcomplaint : Slot.complaint? (Slot.path d i) (fs.read (Slot.path d i)).1 with
  | none =>
      rw [Slot.read_of_complaint?_eq_none hcomplaint]
      rfl
  | some e =>
      obtain ⟨hread, hword⟩ := Slot.read_of_complaint?_eq_some hcomplaint
      rw [hread, hword]
      rfl

lemma readAll_append (d : Bytes) (is js : List Nat) (fs : FileSystem) :
    readAll d (is ++ js) fs
      = (((readAll d is fs).1.1 ++ (readAll d js (readAll d is fs).2).1.1,
          (readAll d is fs).1.2 ++ (readAll d js (readAll d is fs).2).1.2),
        (readAll d js (readAll d is fs).2).2) := by
  induction is generalizing fs with
  | nil => rfl
  | cons i is ih => simp only [List.cons_append, readAll_cons, ih, List.append_assoc]

/-- The file system when the registers before `i` have been read. -/
def reached (d : Bytes) (fs : FileSystem) (i : Nat) : FileSystem :=
  (readAll d (List.range i) fs).2

/-- What comes of reading the file of register `i`, when those before it have been
read. -/
def answer (d : Bytes) (fs : FileSystem) (i : Nat) : Except FileError Bytes :=
  ((reached d fs i).read (Slot.path d i)).1

lemma locate_reached (d : Bytes) (fs : FileSystem) (i : Nat) (path : Bytes) :
    (reached d fs i).locate path = fs.locate path := by
  obtain ⟨failures, -, heq⟩ := spent_readAll d (List.range i) fs
  rw [reached, heq]
  rfl

lemma readAll_range_succ (d : Bytes) (fs : FileSystem) (n : Nat) :
    readAll d (List.range (n + 1)) fs
      = (((readAll d (List.range n) fs).1.1 ++ [Slot.wordOf (answer d fs n)],
          (readAll d (List.range n) fs).1.2
            ++ (Slot.complaint? (Slot.path d n) (answer d fs n)).toList),
        ((reached d fs n).read (Slot.path d n)).2) := by
  rw [List.range_succ, readAll_append, readAll_cons]
  simp only [readAll, List.append_nil, answer, reached]

lemma words_readAll_range (d : Bytes) (fs : FileSystem) (n : Nat) :
    (readAll d (List.range n) fs).1.1
      = (List.range n).map fun i => Slot.wordOf (answer d fs i) := by
  induction n with
  | zero => rfl
  | succ n ih =>
      rw [readAll_range_succ, ih, List.range_succ, List.map_append]
      rfl

/-- The errors are those of the single registers, in order. -/
lemma errors_readAll_range (d : Bytes) (fs : FileSystem) (n : Nat) :
    (readAll d (List.range n) fs).1.2
      = (List.range n).filterMap fun (i : Nat) =>
        Slot.complaint? (Slot.path d i) (answer d fs i) := by
  induction n with
  | zero => rfl
  | succ n ih =>
      rw [readAll_range_succ, ih, List.range_succ, List.filterMap_append]
      cases hn : Slot.complaint? (Slot.path d n) (answer d fs n) with
      | none => simp [hn]
      | some e => simp [hn]

lemma errors_load (d : Bytes) (fs : FileSystem) :
    (load d fs).1.2
      = registers.filterMap fun (i : Nat) => Slot.complaint? (Slot.path d i) (answer d fs i) :=
  errors_readAll_range d fs Register.count

/-- Loading meets no error exactly if no register adds one. -/
lemma errors_load_eq_nil_iff : (load d fs).1.2 = [] ↔ ∀ r : Fin 16,
    Slot.complaint? (Slot.path d r) (answer d fs r) = none := by
  rw [errors_load, List.filterMap_eq_nil_iff]
  simp only [registers, List.mem_range]
  exact ⟨fun h r => h r r.isLt, fun h i hi => h ⟨i, hi⟩⟩

lemma word_load (d : Bytes) (fs : FileSystem) (r : Fin 16) :
    (load d fs).1.1.word r = Slot.wordOf (answer d fs r) := by
  change (Bank.ofList (readAll d (List.range Register.count) fs).1.1).word r = _
  rw [words_readAll_range]
  exact word_ofList_map (fun i => Slot.wordOf (answer d fs i)) r

/-! ### Loading over a bank -/

/-- The bank with `v` in register `i`, if there is one. -/
def overwrite (b : Bank) (i : Nat) (v : Word) : Bank :=
  (b.set i (v.setWidth 64)).toOption.getD b

/-- Reads the files of the given registers and sets these in a bank, each as soon as it
is read; a register whose file cannot be read is set to zero. -/
def loadOver (directory : Bytes) : List Nat → Bank → FileSystem →
    (Bank × List StoreError) × FileSystem
  | [], b, fs => ((b, []), fs)
  | i :: rest, b, fs =>
    match Slot.read directory i fs with
    | (.ok v, fs') => loadOver directory rest (overwrite b i v) fs'
    | (.error e, fs') =>
      let ((b', errors), fs'') := loadOver directory rest (overwrite b i 0#32) fs'
      ((b', e :: errors), fs'')

lemma word_overwrite (b : Bank) (v : Word) (h : i < Register.count) (r : Fin 16) :
    (overwrite b i v).word r = if r.val = i then v else b.word r := by
  have hrange : Register.InRange i := ⟨Int.natCast_nonneg i, by exact_mod_cast h⟩
  have hset : overwrite b i v = b.put i (v.setWidth 64).toNat := by
    rw [overwrite, Bank.set_of_inRange b _ hrange]
    rfl
  have hvalue : BitVec.ofNat 32 (v.setWidth 64).toNat = v := by
    rw [BitVec.toNat_setWidth, Nat.mod_eq_of_lt (Nat.lt_trans v.isLt (by decide)),
      BitVec.ofNat_toNat, BitVec.setWidth_eq]
  rw [hset, Bank.word_put, hvalue]
  simp only [Int.natCast_inj]

lemma loadOver_cons (d : Bytes) (i : Nat) (is : List Nat) (b : Bank) (fs : FileSystem) :
    loadOver d (i :: is) b fs
      = (((loadOver d is (overwrite b i (Slot.wordOf (fs.read (Slot.path d i)).1))
            (fs.read (Slot.path d i)).2).1.1,
          (Slot.complaint? (Slot.path d i) (fs.read (Slot.path d i)).1).toList
            ++ (loadOver d is (overwrite b i (Slot.wordOf (fs.read (Slot.path d i)).1))
              (fs.read (Slot.path d i)).2).1.2),
        (loadOver d is (overwrite b i (Slot.wordOf (fs.read (Slot.path d i)).1))
          (fs.read (Slot.path d i)).2).2) := by
  rw [loadOver]
  cases hcomplaint : Slot.complaint? (Slot.path d i) (fs.read (Slot.path d i)).1 with
  | none =>
      rw [Slot.read_of_complaint?_eq_none hcomplaint]
      rfl
  | some e =>
      obtain ⟨hread, hword⟩ := Slot.read_of_complaint?_eq_some hcomplaint
      rw [hread, hword]
      rfl

lemma loadOver_append (d : Bytes) (is js : List Nat) (b : Bank) (fs : FileSystem) :
    loadOver d (is ++ js) b fs
      = (((loadOver d js (loadOver d is b fs).1.1 (loadOver d is b fs).2).1.1,
          (loadOver d is b fs).1.2
            ++ (loadOver d js (loadOver d is b fs).1.1 (loadOver d is b fs).2).1.2),
        (loadOver d js (loadOver d is b fs).1.1 (loadOver d is b fs).2).2) := by
  induction is generalizing b fs with
  | nil => rfl
  | cons i is ih => simp only [List.cons_append, loadOver_cons, ih, List.append_assoc]

/-- Loading the first registers over a bank meets the same errors and leaves the same
files; these registers are as they were read, and the others as they were. -/
lemma loadOver_range (d : Bytes) (b : Bank) (fs : FileSystem) (h : n ≤ Register.count) :
    (loadOver d (List.range n) b fs).1.2 = (readAll d (List.range n) fs).1.2
      ∧ (loadOver d (List.range n) b fs).2 = reached d fs n
      ∧ ∀ r : Fin 16, (loadOver d (List.range n) b fs).1.1.word r
        = if r.val < n then Slot.wordOf (answer d fs r) else b.word r := by
  induction n with
  | zero => exact ⟨rfl, rfl, fun _ => rfl⟩
  | succ n ih =>
      obtain ⟨herrors, hfiles, hwords⟩ := ih (by omega)
      rw [reached, readAll_range_succ, List.range_succ, loadOver_append, loadOver_cons, hfiles,
        herrors]
      refine ⟨congrArg (_ ++ ·) (List.append_nil _), rfl, fun r => ?_⟩
      dsimp only [loadOver]
      rw [word_overwrite _ _ (by omega), hwords, ← answer]
      by_cases hrn : r.val = n
      · rw [if_pos hrn, if_pos (by omega), hrn]
      · rw [if_neg hrn]
        have hiff : r.val < n + 1 ↔ r.val < n := by omega
        simp only [hiff]

/-- **Nothing is left of a bank that is loaded over.** -/
lemma loadOver_eq_load (d : Bytes) (b : Bank) (fs : FileSystem) :
    loadOver d registers b fs = load d fs := by
  obtain ⟨herrors, hfiles, hwords⟩ := loadOver_range d b fs (Nat.le_refl Register.count)
  have hbank : (loadOver d registers b fs).1.1 = (load d fs).1.1 := by
    apply Bank.ext_word
    intro r
    rw [word_load]
    exact (hwords r).trans (if_pos r.isLt)
  exact Prod.ext (Prod.ext hbank herrors) hfiles

/-! ### Registers apart -/

lemma path_ne_path (d : Bytes) (h : j ≠ i) :
    Path.resolve (Slot.path d j) ≠ Path.resolve (Slot.path d i) := by
  rw [Slot.resolve_path, Slot.resolve_path]
  exact fun hplace => h (by exact_mod_cast Slot.place_injective hplace)

/-- Reading other registers leaves the failures as they are for this one. -/
lemma sameAt_readAll (hall : ∀ f ∈ fs.failures, f.Separate) (hi : i ∉ is) :
    List.Forall₂ (Failure.SameAt (Path.resolve (Slot.path d i))) fs.failures
      (readAll d is fs).2.failures := by
  induction is generalizing fs with
  | nil => exact Failure.sameAt_refl _ _
  | cons j is ih =>
      rw [List.mem_cons, not_or] at hi
      have hrest := FileSystem.forall_failures_read (fun _ hf => hf.met) hall (Slot.path d j)
      rw [readAll_cons]
      exact Failure.sameAt_trans (FileSystem.sameAt_read hall (path_ne_path d (Ne.symm hi.1)))
        (ih hrest hi.2)

/-- **A register is read as if it were alone**, unless a failure counts for several
places together. -/
lemma answer_eq_read (hall : ∀ f ∈ fs.failures, f.Separate) (d : Bytes) (i : Nat) :
    answer d fs i = (fs.read (Slot.path d i)).1 := by
  have hsame : List.Forall₂ (Failure.SameAt (Path.resolve (Slot.path d i))) fs.failures
      (reached d fs i).failures := sameAt_readAll hall (by simp)
  exact FileSystem.read_fst_congr (locate_reached d fs i _)
    fun op => Failure.take_of_sameAt hsame op

/-- A register depends on its own file and on the way there. -/
lemma answer_congr (hall : ∀ f ∈ fs.failures, f.Separate) (hfailures : fs'.failures = fs.failures)
    (hsame : ∀ p ∈ Path.prefixes (Path.resolve (Slot.path d i)), fs'.get? p = fs.get? p) :
    answer d fs' i = answer d fs i := by
  have hparents : ∀ q ∈ Path.parents (Path.resolve (Slot.path d i)), fs'.get? q = fs.get? q :=
    fun q hq => hsame q (Path.mem_parents_iff.mp hq).1
  have hplace : fs'.get? (Path.resolve (Slot.path d i))
      = fs.get? (Path.resolve (Slot.path d i)) := by
    apply hsame
    rw [Path.mem_prefixes_iff, Slot.resolve_path]
    exact ⟨by simp [Slot.place], List.prefix_refl _⟩
  have hlocate : fs'.locate (Slot.path d i) = fs.locate (Slot.path d i) := by
    rw [FileSystem.locate, FileSystem.locate, hplace,
      FileSystem.obstacle?_congr fun q hq => congrArg _ (hparents q hq)]
  rw [answer_eq_read hall, answer_eq_read (by rwa [hfailures])]
  exact FileSystem.read_fst_congr hlocate fun op => by rw [hfailures]

/-- What is read is the content that the file has from the start. -/
lemma get?_of_answer {data : Bytes} (h : answer d fs i = .ok data) :
    ∃ m, fs.get? (Path.resolve (Slot.path d i)) = some (.file m data) := by
  obtain ⟨m, hlocate⟩ := FileSystem.locate_of_read_eq_ok h
  refine ⟨m, ?_⟩
  rw [← (spent_readAll d (List.range i) fs).get?_eq]
  exact (Move.of_locate hlocate).2

/-- **Loading by register**, for all files, failures and directories.  Loading changes no
entry, and nothing is left of the bank that was there.  Each register has the word of
the four bytes that were read from its file, and is zero otherwise.  It adds an error
exactly if its file could not be read though it is not missing, or is not of four bytes,
and the errors of loading are these in the order of the registers.  What was read is the
content of the register's own file; and a register depends on nothing but its own file
and the directories on the way, unless a failure counts for several places together. -/
theorem load_by_register (d : Bytes) (fs : FileSystem) :
    (∃ failures, (load d fs).2 = { fs with failures })
      ∧ (∀ b, loadOver d registers b fs = load d fs)
      ∧ (load d fs).1.2 = registers.filterMap (fun (i : Nat) =>
        Slot.complaint? (Slot.path d i) (answer d fs i))
      ∧ ((load d fs).1.2 = [] ↔ ∀ r : Fin 16,
        Slot.complaint? (Slot.path d r) (answer d fs r) = none)
      ∧ ∀ r : Fin 16,
        (∀ x y z w, answer d fs r = .ok [x, y, z, w] → ((load d fs).1.1.word r).toNat
            = x.toNat * 16777216 + y.toNat * 65536 + z.toNat * 256 + w.toNat)
          ∧ ((∀ data, answer d fs r = .ok data → data.length ≠ 4) →
            (load d fs).1.1.word r = 0#32)
          ∧ (Slot.complaint? (Slot.path d r) (answer d fs r) ≠ none
            ↔ (∃ e, answer d fs r = .error e ∧ e.errno ≠ .notFound)
              ∨ ∃ data, answer d fs r = .ok data ∧ data.length ≠ 4)
          ∧ (∀ data, answer d fs r = .ok data →
            ∃ m, fs.get? (Path.resolve (Slot.path d r)) = some (.file m data))
          ∧ ((∀ f ∈ fs.failures, f.Separate) → ∀ fs', fs'.failures = fs.failures →
            (∀ p ∈ Path.prefixes (Path.resolve (Slot.path d r)), fs'.get? p = fs.get? p) →
            answer d fs' r = answer d fs r) := by
  refine ⟨?_, fun b => loadOver_eq_load d b fs, errors_load d fs, errors_load_eq_nil_iff, fun r =>
    ⟨fun x y z w h => ?_, fun h => ?_, Slot.complaint?_ne_none_iff, fun _ h => get?_of_answer h,
      fun hall _ hfailures hsame => answer_congr hall hfailures hsame⟩⟩
  · obtain ⟨failures, -, heq⟩ := spent_load d fs
    exact ⟨failures, heq⟩
  · rw [word_load, h, Slot.toNat_wordOf]
  · rw [word_load]
    cases hanswer : answer d fs r with
    | error e => rfl
    | ok data => exact Slot.wordOf_of_length_ne (h data hanswer)

/-- A failure at the file of one register has no influence on another, whether the first
file is there or not.  A failure that is met once, wherever a file is read first, may have
one: a register is then read exactly if the file of another is there to fail before. -/
theorem load_by_register_failing :
    let d := utf8 "registers"
    let place : Location := [utf8 "registers", utf8 "x0.bin"]
    let separate : Failure := ⟨.read, some place, .inputOutput, some 1⟩
    let shared : Failure := ⟨.read, none, .inputOutput, some 1⟩
    let missing (f : Failure) : FileSystem :=
      { entries := [([utf8 "registers"], .directory),
          ([utf8 "registers", utf8 "x1.bin"], .file 0o644 [0, 0, 0, 9])]
        failures := [f] }
    let present (f : Failure) : FileSystem := (missing f).put place (.file 0o644 [0, 0, 0, 7])
    let second (fs : FileSystem) : Word := (load d fs).1.1.word 1
    (separate.Separate ∧ ¬ shared.Separate)
      ∧ (answer d (present separate) 1 = answer d (missing separate) 1
        ∧ (second (missing separate)).toNat = 9 ∧ (second (present separate)).toNat = 9)
      ∧ (load d (missing separate)).1.2 = []
      ∧ (second (present shared)).toNat = 9 ∧ second (missing shared) = 0#32
      ∧ (load d (missing shared)).1.2 ≠ [] := by
  intro d place separate shared missing present second
  have hanswer : answer d (missing separate) 1 = .ok [0, 0, 0, 9] := by decide +kernel
  have hshared : answer d (present shared) 1 = .ok [0, 0, 0, 9] := by decide +kernel
  obtain ⟨-, -, -, hnone, hsecond⟩ := load_by_register d (missing separate)
  obtain ⟨hword, -, -, -, halone⟩ := hsecond 1
  have hsame : answer d (present separate) 1 = answer d (missing separate) 1 := by
    refine halone ?_ _ rfl fun p hp => FileSystem.get?_put_of_ne ?_ _
    · simp [missing, separate, Failure.Separate]
    · revert p
      decide
  obtain ⟨hword', -⟩ := (load_by_register d (present separate)).2.2.2.2 1
  obtain ⟨hfirst, -⟩ := (load_by_register d (present shared)).2.2.2.2 1
  obtain ⟨-, -, -, hsome, hlost⟩ := load_by_register d (missing shared)
  refine ⟨⟨.inl (by simp [separate]), by simp [shared, Failure.Separate]⟩,
    ⟨hsame, hword 0 0 0 9 hanswer, hword' 0 0 0 9 (hsame.trans hanswer)⟩,
    hnone.mpr (by decide +kernel), hfirst 0 0 0 9 hshared, ?_, ?_⟩
  · have hfailed : answer d (missing shared) 1
        = .error ⟨.read, utf8 "registers/x1.bin", none, .inputOutput⟩ := by decide +kernel
    exact (hlost 1).2.1 fun data hdata => absurd (hfailed.symm.trans hdata) (by simp)
  · rw [Ne, hsome]
    decide +kernel

end Store

end RegisterMachine
