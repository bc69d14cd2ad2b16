/-
Saving and loading undo each other.

* `Slot.Unhindered`, `Store.Ready`: nothing is in the way of writing one register, and
  of saving a bank;
* `Store.ready_of_save`, `Store.Ready.save`: where a bank could be saved once, **every
  further one can be saved**, whatever failures are due;
* `Store.resave`: saving the bank that was loaded;
* `Store.get?_save_again`: saving a bank twice changes at most the modes of its files;
* `Store.load_save_inverse`: **what was saved is loaded, and saving what was loaded keeps
  the files of the registers that were read**.
-/
import RegisterMachine.Proofs.Store.Files
import RegisterMachine.Proofs.Store.Loading

namespace RegisterMachine

variable {fs fs' : FileSystem} {d : Bytes} {b : Bank} {i j : Nat} {v : Word} {is : List Nat}
  {p : Location}

/-- Nothing is made where something stands already. -/
lemma FileSystem.fill_of_get? {places : List Location} (h : ∀ p ∈ places, fs.get? p ≠ none) :
    fs.fill places = fs := by
  induction places with
  | nil => rfl
  | cons p places ih =>
      rw [fill, List.foldl_cons, if_neg (h p (by simp)), ← fill]
      exact ih fun q hq => h q (by simp [hq])

namespace Slot

/-! ### Single registers -/

/-- Four bytes are those of the word that they stand for. -/
lemma encode_wordOf {data : Bytes} (h : data.length = size) :
    encode (wordOf (.ok data)) = data := by
  obtain ⟨x, y, z, w, rfl⟩ := List.length_eq_four.mp h
  have hx := x.toNat_lt
  have hy := y.toNat_lt
  have hz := z.toNat_lt
  have hw := w.toNat_lt
  have hword := toNat_wordOf x y z w
  simp only [encode, List.cons.injEq, and_true, ← UInt8.toNat_inj, Nat.toUInt8_eq,
    UInt8.toNat_ofNat', BitVec.toNat_ushiftRight, Nat.shiftRight_eq_div_pow, hword]
  omega

lemma encode_wordOf_error (e : FileError) : encode (wordOf (.error e)) = [0, 0, 0, 0] := by
  change encode 0#32 = _
  decide

/-- No failure is due for writing a register. -/
structure Unhindered (d : Bytes) (i : Nat) (fs : FileSystem) : Prop where
  create : fs.Clear .openToWrite (scratch d i)
  fill : fs.Clear .write (scratch d i)
  move : fs.Clear .rename (scratch d i)

lemma Unhindered.of_failures_eq (h : Unhindered d i fs) (heq : fs'.failures = fs.failures) :
    Unhindered d i fs' :=
  ⟨h.create.of_failures_eq heq, h.fill.of_failures_eq heq, h.move.of_failures_eq heq⟩

/-- No failure was due for a register that could be written, and all are still due. -/
lemma of_write_eq_ok (h : (write d i v fs).1 = .ok ()) :
    Unhindered d i fs ∧ (write d i v fs).2.failures = fs.failures := by
  have hwritten := @FileSystem.of_write_eq_ok fs (scratch d i) mode (encode v)
  rw [write] at h ⊢
  generalize fs.write mode (scratch d i) (encode v) = x at hwritten h ⊢
  obtain ⟨r, fs₁⟩ := x
  cases r with
  | error e => exact absurd h (by simp)
  | ok =>
      obtain ⟨hcreate, hfill, hfailures⟩ := hwritten rfl
      have hmoved := @FileSystem.of_rename_eq_ok fs₁ (scratch d i) (path d i)
      dsimp only at h hfailures ⊢
      generalize fs₁.rename (scratch d i) (path d i) = y at hmoved h ⊢
      obtain ⟨r₂, fs₂⟩ := y
      cases r₂ with
      | error e => exact absurd h (by simp)
      | ok =>
          obtain ⟨hmove, hkept⟩ := hmoved rfl
          exact ⟨⟨hcreate, hfill, hmove.of_failures_eq hfailures.symm⟩, hkept.trans hfailures⟩

/-- A register is written if no failure is due and no directory stands in the way. -/
lemma write_of_unhindered (h : Unhindered d i fs) (hmade : fs.Made (Path.resolve d))
    (hslot : fs.get? (place (Path.resolve d) i) ≠ some .directory)
    (hscratch : fs.get? (scratchPlace (Path.resolve d) i) ≠ some .directory) (v : Word) :
    (write d i v fs).1 = .ok () := by
  have hwritten := FileSystem.exists_write_of_clear h.create h.fill (scratch_ne_nil d i)
    (by rw [resolve_scratch]; exact FileSystem.obstacle?_of_made hmade _)
    (by rw [resolve_scratch]; exact hscratch) mode (encode v)
  rw [resolve_scratch] at hwritten
  obtain ⟨m, fs₁, hwrite, hconfined, hget⟩ := hwritten
  have hmade₁ : fs₁.Made (Path.resolve d) := by
    intro p hp
    rw [hconfined.get?_eq p ?_, hmade p hp]
    intro hp'
    rw [List.mem_singleton.mp hp'] at hp
    exact Path.concat_not_mem_prefixes _ _ hp
  have hslot₁ : fs₁.get? (place (Path.resolve d) i) ≠ some .directory := by
    rw [hconfined.get?_eq _ (by simpa using place_ne_scratchPlace (Path.resolve d) i i)]
    exact hslot
  have hlocate : fs₁.locate (scratch d i) = .ok (.file m (encode v)) := by
    apply FileSystem.locate_of_get? (scratch_ne_nil d i)
    · rw [resolve_scratch]
      exact FileSystem.obstacle?_of_made hmade₁ _
    · rw [resolve_scratch, hget]
  have hmoved := FileSystem.rename_of_clear (h.move.of_failures_eq hconfined.failures) hlocate
    (show fs₁.obstacle? (Path.resolve (path d i)) = none by
      rw [resolve_path]
      exact FileSystem.obstacle?_of_made hmade₁ _)
    (by rw [resolve_path]; exact hslot₁)
  rw [write, hwrite]
  dsimp only
  rw [hmoved]

/-- The file of a register gets another mode than the usual one only from a file that was
left beside it. -/
lemma exists_of_modeAt_ne {loc : Location} (h : modeAt loc fs i ≠ mode) :
    ∃ c, fs.get? (scratchPlace loc i) = some (.file (modeAt loc fs i) c) := by
  rw [modeAt, FileSystem.file?] at h ⊢
  cases hleft : fs.get? (scratchPlace loc i) with
  | none => exact absurd (by rw [hleft]; rfl) h
  | some e =>
      cases e with
      | directory => exact absurd (by rw [hleft]; rfl) h
      | file m c => exact ⟨c, rfl⟩

/-- A file of four bytes is read as their word where no failure is due. -/
lemma read_of_clear {m : Nat} {c : Bytes} (hopen : fs.Clear .openToRead (path d i))
    (hread : fs.Clear .read (path d i)) (hmade : fs.Made (Path.resolve d))
    (hget : fs.get? (place (Path.resolve d) i) = some (.file m c)) (hc : decode c = .ok v) :
    read d i fs = (.ok v, fs) := by
  have hlocate : fs.locate (path d i) = .ok (.file m c) := by
    apply FileSystem.locate_of_get? (path_ne_nil d i)
    · rw [resolve_path]
      exact FileSystem.obstacle?_of_made hmade _
    · rw [resolve_path, hget]
  rw [read, FileSystem.read_of_clear hopen hread hlocate]
  dsimp only
  rw [hc]

end Slot

namespace Store

/-! ### Saving again -/

/-- Every register can be written: the directory is there, none stands where the files
of the registers are or are written first, and no failure is due. -/
structure Ready (d : Bytes) (fs : FileSystem) : Prop where
  ne_nil : d ≠ []
  clear : fs.Clear .makeDirectory d
  made : fs.Made (Path.resolve d)
  slot : ∀ i < Register.count, fs.get? (Slot.place (Path.resolve d) i) ≠ some .directory
  scratch : ∀ i < Register.count, fs.get? (Slot.scratchPlace (Path.resolve d) i) ≠ some .directory
  unhindered : ∀ i < Register.count, Slot.Unhindered d i fs

lemma unhindered_of_writeAll (h : (writeAll d b is fs).1 = []) :
    (∀ i ∈ is, Slot.Unhindered d i fs) ∧ (writeAll d b is fs).2.failures = fs.failures := by
  induction is generalizing fs with
  | nil => exact ⟨by simp, rfl⟩
  | cons i is ih =>
      rw [writeAll_cons] at h ⊢
      rw [List.append_eq_nil_iff, Option.toList_eq_nil_iff, failure?_eq_none_iff] at h
      obtain ⟨hfirst, hkept⟩ := Slot.of_write_eq_ok h.1
      obtain ⟨hrest, hkept'⟩ := ih h.2
      refine ⟨List.forall_mem_cons.mpr ⟨hfirst, fun j hj => ?_⟩, hkept'.trans hkept⟩
      exact (hrest j hj).of_failures_eq hkept.symm

/-- After a save without errors all failures are still due. -/
lemma failures_save_of_ok (h : (save d b fs).1.errors = []) :
    (save d b fs).2.failures = fs.failures := by
  obtain ⟨made, hmade, hok, hfill, -⟩ := exists_made h
  rw [save_of_ok hmade]
  dsimp only
  rw [(unhindered_of_writeAll hok).2, hfill]
  exact (FileSystem.confined_fill fs _).failures

/-- A save without errors leaves all that is needed for another one. -/
lemma ready_of_save (h : (save d b fs).1.errors = []) : Ready d (save d b fs).2 := by
  have hfailures := failures_save_of_ok h
  obtain ⟨made, hmade, hok, hfill, hway⟩ := exists_made h
  obtain ⟨hclear, hne⟩ := FileSystem.of_makeDirectories_eq_ok (congrArg Prod.fst hmade)
  obtain ⟨hunhindered, -⟩ := unhindered_of_writeAll hok
  refine ⟨hne, hclear.of_failures_eq hfailures, fun p hp => ?_, fun i hi => ?_, fun i hi => ?_,
    fun i hi => ?_⟩
  · rw [save_of_ok hmade]
    dsimp only
    rw [get?_way_of_mem_states (writeAll_mem_states d b registers made) hp, hfill]
    exact FileSystem.made_fill hway p hp
  · simp [(get?_save_of_ok h hi).1]
  · simp [(get?_save_of_ok h hi).2]
  · apply (hunhindered i (List.mem_range.mpr hi)).of_failures_eq
    rw [hfailures, hfill]
    exact (FileSystem.confined_fill fs _).failures.symm

/-- Writing one register leaves all that is needed for the others. -/
lemma Ready.write (h : Ready d fs) (hi : i < Register.count) (v : Word) :
    (Slot.write d i v fs).1 = .ok () ∧ Ready d (Slot.write d i v fs).2 := by
  have hok := Slot.write_of_unhindered (h.unhindered i hi) h.made (h.slot i hi) (h.scratch i hi) v
  obtain ⟨-, hfailures⟩ := Slot.of_write_eq_ok hok
  obtain ⟨hslot, hscratch⟩ := Slot.get?_own_write_of_ok hok
  have hwithin := Slot.within_write d i v fs
  refine ⟨hok, h.ne_nil, h.clear.of_failures_eq hfailures, fun p hp => ?_, fun j hj => ?_,
    fun j hj => ?_, fun j hj => (h.unhindered j hj).of_failures_eq hfailures⟩
  · rw [hwithin p (Slot.not_own_of_mem_prefixes hp), h.made p hp]
  · by_cases hji : j = i
    · simp [hji, hslot]
    · rw [hwithin _ (Slot.not_own_of_ne (Ne.symm hji) (.inl rfl))]
      exact h.slot j hj
  · by_cases hji : j = i
    · simp [hji, hscratch]
    · rw [hwithin _ (Slot.not_own_of_ne (Ne.symm hji) (.inr rfl))]
      exact h.scratch j hj

lemma Ready.writeAll (h : Ready d fs) (his : ∀ i ∈ is, i < Register.count) (b : Bank) :
    (Store.writeAll d b is fs).1 = [] := by
  induction is generalizing fs with
  | nil => rfl
  | cons i is ih =>
      obtain ⟨hok, hready⟩ := h.write (his i (by simp)) (b.value i)
      rw [writeAll_cons, hok]
      exact ih hready fun j hj => his j (by simp [hj])

/-- **Where all is ready a bank is saved without errors.** -/
lemma Ready.save (h : Ready d fs) (b : Bank) : (Store.save d b fs).1.errors = [] := by
  have hmade := FileSystem.makeDirectories_of_clear h.clear h.ne_nil fun p hp => by
    rw [FileSystem.file?, h.made p hp]
  rw [FileSystem.fill_of_get? fun p hp => by simp [h.made p hp]] at hmade
  rw [save_of_ok hmade]
  exact h.writeAll (fun i => lt_of_mem_registers) b

/-- **Saving a bank once more changes no entry**, except that the file of a register gets
the usual mode where it was made from a file that was left beside it with another. -/
lemma get?_save_again (h : (save d b fs).1.errors = []) (p : Location) :
    (save d b (save d b fs).2).2.get? p = (save d b fs).2.get? p
      ∨ ∃ r : Fin 16, ∃ m c c', p = Path.resolve (Slot.path d r) ∧ m ≠ Slot.mode
        ∧ fs.get? (Path.resolve (Slot.scratch d r)) = some (.file m c')
        ∧ (save d b fs).2.get? p = some (.file m c)
        ∧ (save d b (save d b fs).2).2.get? p = some (.file Slot.mode c) := by
  have hready := ready_of_save h
  have hagain := hready.save b
  by_cases hchanged : (save d b (save d b fs).2).2.get? p = (save d b fs).2.get? p
  · exact .inl hchanged
  · obtain ⟨hway, hnone, -⟩ | ⟨i, hi, hown⟩ := changed_by_save hchanged
    · exact absurd (hready.made p hway) (by simp [hnone])
    · have hcount := lt_of_mem_registers hi
      obtain ⟨hslot, hscratch⟩ := get?_save_of_ok h hcount
      obtain ⟨hslot', hscratch'⟩ := get?_save_of_ok hagain hcount
      have husual : Slot.modeAt (Path.resolve d) (save d b fs).2 i = Slot.mode := by
        rw [Slot.modeAt, FileSystem.file?, hscratch]
        rfl
      rw [husual] at hslot'
      obtain rfl | rfl := hown
      · have hmode : Slot.modeAt (Path.resolve d) fs i ≠ Slot.mode := by
          intro hmode
          rw [hslot, hslot', hmode] at hchanged
          exact hchanged rfl
        obtain ⟨c', hleft⟩ := Slot.exists_of_modeAt_ne hmode
        refine .inr ⟨⟨i, hcount⟩, Slot.modeAt (Path.resolve d) fs i, _, c', ?_, hmode, ?_, hslot,
          hslot'⟩
        · rw [Slot.resolve_path]
        · rw [Slot.resolve_scratch]
          exact hleft
      · exact absurd (hscratch'.trans hscratch.symm) hchanged

/-! ### Loading what was saved -/

lemma bank_ofList_value (b : Bank) :
    Bank.ofList (registers.map fun (i : Nat) => b.value i) = b := by
  apply Bank.ext_word
  intro r
  rw [word_ofList_map, value_eq_word]

/-- A bank is loaded where each file holds the word of its register, if no failure is due
for that. -/
lemma load_of_encoded (hmade : fs.Made (Path.resolve d))
    (hslot : ∀ i < Register.count, ∃ m, fs.get? (Slot.place (Path.resolve d) i)
      = some (.file m (Slot.encode (b.value i))))
    (hclear : ∀ i < Register.count, fs.Clear .openToRead (Slot.path d i)
      ∧ fs.Clear .read (Slot.path d i)) :
    load d fs = ((b, []), fs) := by
  have hread : ∀ i ∈ registers, Slot.read d i fs = (.ok (b.value i), fs) := by
    intro i hi
    have hcount := lt_of_mem_registers hi
    obtain ⟨m, hget⟩ := hslot i hcount
    exact Slot.read_of_clear (hclear i hcount).1 (hclear i hcount).2 hmade hget
      (Slot.decode_encode _)
  rw [load, readAll_of_ok hread]
  dsimp only
  rw [bank_ofList_value]

/-- What was saved without errors is loaded, if no failure is due for that. -/
lemma load_of_save (h : (save d b fs).1.errors = [])
    (hclear : ∀ i < Register.count, (save d b fs).2.Clear .openToRead (Slot.path d i)
      ∧ (save d b fs).2.Clear .read (Slot.path d i)) :
    load d (save d b fs).2 = ((b, []), (save d b fs).2) :=
  load_of_encoded (ready_of_save h).made (fun _ hi => ⟨_, (get?_save_of_ok h hi).1⟩) hclear

/-! ### Saving what was loaded -/

/-- Saves the bank that is loaded. -/
def resave (d : Bytes) (fs : FileSystem) : Saving × FileSystem :=
  save d (load d fs).1.1 (load d fs).2

/-- After the bank that was loaded has been saved, the file of a register holds the word
that was read. -/
lemma get?_resave (h : (resave d fs).1.errors = []) (r : Fin 16) :
    ∃ m, (resave d fs).2.get? (Path.resolve (Slot.path d r))
      = some (.file m (Slot.encode (Slot.wordOf (answer d fs r)))) := by
  have hslot := (get?_save_of_ok h r.isLt).1
  rw [value_eq_word, word_load, ← Slot.resolve_path] at hslot
  exact ⟨_, hslot⟩

/-- What the failures are about stays while registers are read. -/
lemma forall_failures_readAll {Q : Failure → Prop} (hmet : ∀ f, Q f → Q f.met)
    (hall : ∀ f ∈ fs.failures, Q f) : ∀ f ∈ (readAll d is fs).2.failures, Q f := by
  induction is generalizing fs with
  | nil => exact hall
  | cons i is ih =>
      rw [readAll_cons]
      exact ih (FileSystem.forall_failures_read hmet hall _)

/-- Where loading meets no error a file that is there is read, unless a failure says that
it is missing. -/
lemma exists_answer (h : (load d fs).1.2 = []) {r : Fin 16} {e : Entry}
    (hlocate : fs.locate (Slot.path d r) = .ok e)
    (hall : ∀ f ∈ fs.failures, f.operation = .openToRead ∨ f.operation = .read →
      f.errno ≠ .notFound) : ∃ c, answer d fs r = .ok c := by
  have hcomplaint := errors_load_eq_nil_iff.mp h r
  rw [answer] at hcomplaint ⊢
  obtain ⟨op, errno, hop, htake, heq⟩ | ⟨errno, hother, -⟩ | ⟨-, heq⟩ | ⟨m, c, -, heq⟩ :=
    (reached d fs r).read_cases (Slot.path d r)
  · -- the failure that was met is one of those that were due from the start
    obtain ⟨f, hf, hoperation, herrno⟩ := Failure.exists_of_take htake
    have hreal := forall_failures_readAll (fun _ hf => hf) hall f hf
    rw [heq] at hcomplaint
    have hmissing : errno = .notFound := by simpa [Slot.complaint?] using hcomplaint
    rw [hoperation, herrno] at hreal
    exact absurd hmissing (hreal hop)
  · rw [locate_reached, hlocate] at hother
    exact absurd hother (by simp)
  · rw [heq] at hcomplaint
    exact absurd hcomplaint (by simp [Slot.complaint?])
  · exact ⟨c, by rw [heq]⟩

/-- A file that is not there is not read. -/
lemma answer_of_missing {errno : Errno} (h : fs.locate (Slot.path d i) = .error errno) :
    ∃ e, answer d fs i = .error e := by
  cases hanswer : answer d fs i with
  | error e => exact ⟨e, rfl⟩
  | ok data =>
      obtain ⟨m, hlocate⟩ := FileSystem.locate_of_read_eq_ok hanswer
      rw [locate_reached, h] at hlocate
      exact absurd hlocate (by simp)

/-- **Saving and loading undo each other.**  What was saved without errors is loaded, if
no failure is due for reading it.  Where a bank is loaded without errors and then saved
without errors, the files that were read keep their four bytes, and all others hold four
zeros; a file that is there is read, unless a failure says that it is missing.  Then the
bank can be saved once more, and that changes nothing but the modes of files that were
made from others left beside them. -/
theorem load_save_inverse (d : Bytes) (fs : FileSystem) :
    (∀ b, (save d b fs).1.errors = [] →
        (∀ r : Fin 16, (save d b fs).2.Clear .openToRead (Slot.path d r)
          ∧ (save d b fs).2.Clear .read (Slot.path d r)) →
        load d (save d b fs).2 = ((b, []), (save d b fs).2))
      ∧ ((load d fs).1.2 = [] → (resave d fs).1.errors = [] →
        (∀ r : Fin 16,
          (∀ c, answer d fs r = .ok c → c.length = 4
              ∧ (∃ m, fs.get? (Path.resolve (Slot.path d r)) = some (.file m c))
              ∧ ∃ m, (resave d fs).2.get? (Path.resolve (Slot.path d r)) = some (.file m c))
            ∧ (∀ e, answer d fs r = .error e →
              ∃ m, (resave d fs).2.get? (Path.resolve (Slot.path d r))
                = some (.file m [0, 0, 0, 0]))
            ∧ (∀ e, fs.locate (Slot.path d r) = .ok e →
              (∀ f ∈ fs.failures, f.operation = .openToRead ∨ f.operation = .read →
                f.errno ≠ .notFound) → ∃ c, answer d fs r = .ok c)
            ∧ ∀ errno, fs.locate (Slot.path d r) = .error errno → ∃ e, answer d fs r = .error e)
          ∧ (save d (load d fs).1.1 (resave d fs).2).1.errors = []
          ∧ ∀ p, (save d (load d fs).1.1 (resave d fs).2).2.get? p = (resave d fs).2.get? p
            ∨ ∃ r : Fin 16, ∃ m c c', p = Path.resolve (Slot.path d r) ∧ m ≠ Slot.mode
              ∧ fs.get? (Path.resolve (Slot.scratch d r)) = some (.file m c')
              ∧ (resave d fs).2.get? p = some (.file m c)
              ∧ (save d (load d fs).1.1 (resave d fs).2).2.get? p = some (.file Slot.mode c)) := by
  refine ⟨fun b hsave hclear => load_of_save hsave fun i hi => hclear ⟨i, hi⟩,
    fun hload hsave => ⟨fun r => ⟨fun c hc => ?_, fun e he => ?_, fun e hlocate hall => ?_,
      fun errno hlocate => answer_of_missing hlocate⟩, (ready_of_save hsave).save _, fun p => ?_⟩⟩
  · have hlength : c.length = 4 := by
      have hcomplaint := errors_load_eq_nil_iff.mp hload r
      rw [hc, Slot.complaint?] at hcomplaint
      split_ifs at hcomplaint with hlength
      exact hlength
    have hslot := get?_resave hsave r
    rw [hc, Slot.encode_wordOf hlength] at hslot
    exact ⟨hlength, get?_of_answer hc, hslot⟩
  · have hslot := get?_resave hsave r
    rw [he, Slot.encode_wordOf_error] at hslot
    exact hslot
  · exact exists_answer hload hlocate hall
  · have hagain := get?_save_again hsave p
    simp only [(spent_load d fs).get?_eq] at hagain
    exact hagain

/-- A store with one register and a file left beside another, in which nothing can be
removed: saving what was loaded keeps the one and makes zeros of the others, and what was
saved is loaded. -/
theorem load_save_inverse_over_seven :
    let fs : FileSystem :=
      { entries := [([utf8 "r"], .directory),
          ([utf8 "r", utf8 "x1.bin"], .file 0o644 [0, 0, 0, 7]),
          ([utf8 "r", utf8 "x2.bin.tmp"], .file 0o600 [1, 2, 3, 4, 5])]
        failures := [⟨.remove, none, .accessDenied, none⟩] }
    let d := utf8 "r"
    (load d fs).1.2 = [] ∧ (resave d fs).1.errors = []
      ∧ (∃ m, (resave d fs).2.get? (Path.resolve (Slot.path d 1)) = some (.file m [0, 0, 0, 7]))
      ∧ (∃ m, (resave d fs).2.get? (Path.resolve (Slot.path d 2)) = some (.file m [0, 0, 0, 0]))
      ∧ load d (save d (Bank.zero.update 1 9#32) fs).2
        = ((Bank.zero.update 1 9#32, []), (save d (Bank.zero.update 1 9#32) fs).2) := by
  intro fs d
  have hload : (load d fs).1.2 = [] := by decide +kernel
  have hresave : (resave d fs).1.errors = [] := by decide +kernel
  have hsave : (save d (Bank.zero.update 1 9#32) fs).1.errors = [] := by decide +kernel
  have hfailures : (save d (Bank.zero.update 1 9#32) fs).2.failures = fs.failures := by
    decide +kernel
  have hone : answer d fs 1 = .ok [0, 0, 0, 7] := by decide +kernel
  have htwo : ∃ e, answer d fs 2 = .error e := ⟨⟨.openToRead, utf8 "r/x2.bin", none, .notFound⟩,
    by decide +kernel⟩
  obtain ⟨hforth, hback⟩ := load_save_inverse d fs
  obtain ⟨hslots, -, -⟩ := hback hload hresave
  obtain ⟨e, he⟩ := htwo
  refine ⟨hload, hresave, ((hslots 1).1 _ hone).2.2, (hslots 2).2.1 e he, ?_⟩
  apply hforth _ hsave
  intro r
  rw [FileSystem.Clear, FileSystem.Clear, hfailures]
  exact ⟨rfl, rfl⟩

/-- A store in which the file of a register is said to be missing when it is opened. -/
def hiddenSlot : FileSystem where
  entries := [([utf8 "r"], .directory), ([utf8 "r", utf8 "x3.bin"], .file 0o644 [0, 0, 0, 7])]
  failures := [⟨.openToRead, some [utf8 "r", utf8 "x3.bin"], .notFound, none⟩]

/-- A store with nothing but a file that was left where a register is written first. -/
def leftBeside : FileSystem where
  entries := [([utf8 "r"], .directory), ([utf8 "r", utf8 "x0.bin.tmp"], .file 0o600 [])]

/-- Saving what was loaded makes zeros of a file that was said to be missing, and a file
that was left beside that of a register gives it its mode until the next save. -/
theorem resave_forgets :
    ((load (utf8 "r") hiddenSlot).1.2 = [] ∧ (resave (utf8 "r") hiddenSlot).1.errors = []
        ∧ (resave (utf8 "r") hiddenSlot).2.get? [utf8 "r", utf8 "x3.bin"]
          = some (.file 0o644 [0, 0, 0, 0]))
      ∧ (load (utf8 "r") leftBeside).1.2 = [] ∧ (resave (utf8 "r") leftBeside).1.errors = []
      ∧ (resave (utf8 "r") leftBeside).2.get? [utf8 "r", utf8 "x0.bin"]
        = some (.file 0o600 [0, 0, 0, 0])
      ∧ (save (utf8 "r") (load (utf8 "r") leftBeside).1.1
          (resave (utf8 "r") leftBeside).2).2.get? [utf8 "r", utf8 "x0.bin"]
        = some (.file 0o644 [0, 0, 0, 0]) := by
  decide +kernel

end Store

end RegisterMachine
