/-
Clearing a store, register by register and whatever failures are due.

* `FileSystem.removable`: why an entry can or cannot be removed, as long as no failure
  is due, and `FileSystem.removable_congr`: it depends on the entry, on the way to it
  and on what stands inside it;
* `Store.cleared`: the file system when the first registers have been tried, and
  `Store.removal`: what comes of trying the next one;
* `Store.removeAll_range`: clearing is to try all registers, one after the other;
* `Store.Vacated`: the files of all registers have been removed or were missing;
* `Store.clear_by_register`: **the file of each register is removed or left as it was**,
  the errors are those of the registers that were left without being missing, and a store
  that was vacated is loaded as zero and need not be cleared again.
-/
import RegisterMachine.Proofs.Store.RoundTrip

namespace RegisterMachine

namespace FileSystem

variable {fs fs' : FileSystem} {path : Bytes}

/-- Whether the entry at a path can be removed when no failure is due: a file, or a
directory with nothing in it. -/
def removable (path : Bytes) (fs : FileSystem) : Except Errno Unit :=
  match fs.locate path with
  | .error errno => .error errno
  | .ok .directory => if fs.occupied (Path.resolve path) then .error .notEmpty else .ok ()
  | .ok (.file _ _) => .ok ()

/-- Where no failure is due an entry is removed if it can be. -/
lemma remove_fst_of_clear (h : fs.Clear .remove path) :
    (fs.remove path).1
      = (fs.removable path).mapError fun errno => ⟨.remove, path, none, errno⟩ := by
  rw [remove, attempt_of_clear h, removable]
  dsimp only
  cases fs.locate path with
  | error errno => rfl
  | ok e =>
      cases e with
      | file m c => rfl
      | directory =>
          dsimp only
          split_ifs <;> rfl

lemma removable_congr (hlocate : fs'.locate path = fs.locate path)
    (hinside : ∀ n, fs'.get? (Path.resolve path ++ [n]) = fs.get? (Path.resolve path ++ [n])) :
    fs'.removable path = fs.removable path := by
  have hoccupied : fs'.occupied (Path.resolve path) = fs.occupied (Path.resolve path) := by
    rw [Bool.eq_iff_iff, occupied_iff, occupied_iff]
    simp only [hinside]
  rw [removable, removable, hlocate, hoccupied]

/-- What could be removed stood there, with nothing in the way, and is gone. -/
lemma of_remove_eq_ok (hroot : Path.resolve path ≠ []) (h : (fs.remove path).1 = .ok ()) :
    (∃ e, fs.locate path = .ok e) ∧ (fs.remove path).2.get? (Path.resolve path) = none := by
  obtain ⟨hclear, -, -⟩ := of_attempt_eq_ok h
  refine ⟨?_, ?_⟩
  · rw [remove_fst_of_clear hclear, removable] at h
    cases hlocate : fs.locate path with
    | error errno =>
        rw [hlocate] at h
        exact absurd h (by simp [Except.mapError])
    | ok e => exact ⟨e, rfl⟩
  · obtain ⟨e, fs', -, heq⟩ | ⟨fs', ⟨-, appender, rfl⟩, heq⟩ := (Move.remove path).perform_cases fs
    · exact absurd (h.symm.trans (congrArg Prod.fst heq)) (by simp)
    · rw [show fs.remove path = _ from heq]
      exact get?_erase_self hroot

/-- What could not be removed is still there, and so is everything else. -/
lemma get?_remove_of_error {e : FileError} (h : (fs.remove path).1 = .error e) (p : Location) :
    (fs.remove path).2.get? p = fs.get? p := by
  obtain ⟨e', fs', hspent, heq⟩ | ⟨fs', -, heq⟩ := (Move.remove path).perform_cases fs
  · rw [show fs.remove path = _ from heq]
    exact hspent.get?_eq p
  · exact absurd (h.symm.trans (congrArg Prod.fst heq)) (by simp)

/-- What is missing cannot be reached. -/
lemma locate_of_removable (h : fs.removable path = .error .notFound) :
    fs.locate path = .error .notFound := by
  rw [removable] at h
  cases hlocate : fs.locate path with
  | error errno =>
      rw [hlocate] at h
      exact congrArg Except.error (Except.error.inj h)
  | ok e =>
      rw [hlocate] at h
      cases e with
      | file m c => exact absurd h (by simp)
      | directory =>
          dsimp only at h
          split_ifs at h
          exact absurd h (by simp)

/-- What the failures are about stays while an entry is removed. -/
lemma forall_failures_remove {Q : Failure → Prop} (hmet : ∀ f, Q f → Q f.met)
    (hall : ∀ f ∈ fs.failures, Q f) (path : Bytes) : ∀ f ∈ (fs.remove path).2.failures, Q f := by
  apply forall_failures_attempt hmet hall
  dsimp only
  split
  · rfl
  · split_ifs <;> rfl
  · rfl

end FileSystem

namespace Store

variable {fs : FileSystem} {d : Bytes} {i n : Nat}

/-! ### One register after the other -/

/-- The error that removing the file of a register adds.  A missing file adds none. -/
def refusal? : Except FileError Unit → Option StoreError
  | .ok () => none
  | .error e => if e.errno = .notFound then none else some (.file e)

/-- The file system when it was tried to remove the files of the first `n` registers,
whatever came of that. -/
def cleared (d : Bytes) (fs : FileSystem) : Nat → FileSystem
  | 0 => fs
  | n + 1 => ((cleared d fs n).remove (Slot.path d n)).2

/-- What comes of removing the file of register `i` when the registers before it have
been tried. -/
def removal (d : Bytes) (fs : FileSystem) (i : Nat) : Except FileError Unit :=
  ((cleared d fs i).remove (Slot.path d i)).1

lemma refusal?_eq_none_iff {r : Except FileError Unit} :
    refusal? r = none ↔ r = .ok () ∨ ∃ e, r = .error e ∧ e.errno = .notFound := by
  cases r with
  | ok => simp [refusal?]
  | error e => simp [refusal?]

lemma removeAll_cons (d : Bytes) (i : Nat) (is : List Nat) (fs : FileSystem) :
    removeAll d (i :: is) fs
      = ((refusal? (fs.remove (Slot.path d i)).1).toList
            ++ (removeAll d is (fs.remove (Slot.path d i)).2).1,
          (removeAll d is (fs.remove (Slot.path d i)).2).2) := by
  rw [removeAll]
  obtain ⟨r, fs'⟩ := fs.remove (Slot.path d i)
  cases r with
  | ok => rfl
  | error e =>
      dsimp only [refusal?]
      split_ifs <;> rfl

lemma removeAll_append (d : Bytes) (is js : List Nat) (fs : FileSystem) :
    removeAll d (is ++ js) fs
      = ((removeAll d is fs).1 ++ (removeAll d js (removeAll d is fs).2).1,
          (removeAll d js (removeAll d is fs).2).2) := by
  induction is generalizing fs with
  | nil => rfl
  | cons i is ih => simp only [List.cons_append, removeAll_cons, ih, List.append_assoc]

/-- Removing the files of the first registers is to try each of them, and the errors are
those of the single ones in order. -/
lemma removeAll_range (d : Bytes) (fs : FileSystem) (n : Nat) :
    removeAll d (List.range n) fs
      = ((List.range n).filterMap fun i => refusal? (removal d fs i), cleared d fs n) := by
  induction n with
  | zero => rfl
  | succ n ih =>
      rw [List.range_succ, removeAll_append, ih, removeAll_cons, List.filterMap_append]
      cases hn : refusal? (removal d fs n) with
      | none =>
          rw [removal] at hn
          simp [hn, removeAll, removal, cleared]
      | some e =>
          rw [removal] at hn
          simp [hn, removeAll, removal, cleared]

lemma clear_eq (d : Bytes) (fs : FileSystem) :
    clear d fs = (registers.filterMap fun i => refusal? (removal d fs i),
      cleared d fs Register.count) :=
  removeAll_range d fs Register.count

lemma clear_snd (d : Bytes) (fs : FileSystem) : (clear d fs).2 = cleared d fs Register.count := by
  rw [clear_eq]

/-- Clearing meets no error exactly if no register adds one. -/
lemma errors_clear_eq_nil_iff : (clear d fs).1 = [] ↔ ∀ r : Fin 16,
    removal d fs r = .ok () ∨ ∃ e, removal d fs r = .error e ∧ e.errno = .notFound := by
  rw [clear_eq, List.filterMap_eq_nil_iff]
  simp only [registers, List.mem_range, refusal?_eq_none_iff]
  exact ⟨fun h r => h r r.isLt, fun h i hi => h ⟨i, hi⟩⟩

/-! ### What each register finds and leaves -/

lemma get?_cleared_succ {p : Location} (h : p ≠ Slot.place (Path.resolve d) n) :
    (cleared d fs (n + 1)).get? p = (cleared d fs n).get? p := by
  apply (Move.remove (Slot.path d n)).within_perform
  simpa only [Move.places, List.mem_singleton, Slot.resolve_path] using h

/-- Only the files of registers that were tried can have changed. -/
lemma get?_cleared_of_ne {p : Location} (h : ∀ i < n, p ≠ Slot.place (Path.resolve d) i) :
    (cleared d fs n).get? p = fs.get? p := by
  induction n with
  | zero => rfl
  | succ n ih =>
      rw [get?_cleared_succ (h n (by omega)), ih fun i hi => h i (by omega)]

/-- The file of a register stays as it is after the register itself was tried. -/
lemma get?_cleared_of_lt (h : i < n) :
    (cleared d fs n).get? (Slot.place (Path.resolve d) i)
      = (cleared d fs (i + 1)).get? (Slot.place (Path.resolve d) i) := by
  induction n with
  | zero => exact absurd h (by omega)
  | succ n ih =>
      by_cases hin : i = n
      · rw [hin]
      · rw [← ih (by omega)]
        refine get?_cleared_succ fun hplace => hin ?_
        exact_mod_cast Slot.place_injective hplace

/-- The way to the file of a register stays as it is. -/
lemma obstacle?_cleared (d : Bytes) (fs : FileSystem) (n i : Nat) :
    (cleared d fs n).obstacle? (Path.resolve (Slot.path d i))
      = fs.obstacle? (Path.resolve (Slot.path d i)) := by
  refine FileSystem.obstacle?_congr fun q hq => congrArg _ (get?_cleared_of_ne fun j _ heq => ?_)
  rw [Slot.resolve_path, Slot.place, Path.parents_concat, heq] at hq
  exact Path.concat_not_mem_prefixes _ _ hq

/-- When it is tried, a register finds what stood there from the start. -/
lemma get?_cleared_self (d : Bytes) (fs : FileSystem) (i : Nat) :
    (cleared d fs i).get? (Path.resolve (Slot.path d i))
      = fs.get? (Path.resolve (Slot.path d i)) := by
  rw [Slot.resolve_path]
  refine get?_cleared_of_ne fun j hj hplace => ?_
  have hij : i = j := by exact_mod_cast Slot.place_injective hplace
  omega

lemma locate_cleared (d : Bytes) (fs : FileSystem) (i : Nat) :
    (cleared d fs i).locate (Slot.path d i) = fs.locate (Slot.path d i) := by
  rw [FileSystem.locate, FileSystem.locate, obstacle?_cleared, get?_cleared_self]

lemma removable_cleared (d : Bytes) (fs : FileSystem) (i : Nat) :
    (cleared d fs i).removable (Slot.path d i) = fs.removable (Slot.path d i) := by
  refine FileSystem.removable_congr (locate_cleared d fs i) fun name => ?_
  refine get?_cleared_of_ne fun j _ hplace => ?_
  have hlength := congrArg List.length hplace
  rw [Slot.resolve_path, Slot.place, Slot.place] at hlength
  simp at hlength

/-- A register whose file could be removed had one, and has none in the end. -/
lemma get?_cleared_of_ok (h : i < n) (hok : removal d fs i = .ok ()) :
    fs.get? (Path.resolve (Slot.path d i)) ≠ none
      ∧ (cleared d fs n).locate (Slot.path d i) = .error .notFound
      ∧ (cleared d fs n).get? (Path.resolve (Slot.path d i)) = none := by
  have hroot : Path.resolve (Slot.path d i) ≠ [] := by simp [Slot.resolve_path, Slot.place]
  obtain ⟨⟨e, hlocate⟩, hgone⟩ := FileSystem.of_remove_eq_ok hroot hok
  rw [locate_cleared] at hlocate
  obtain ⟨hway, hstood⟩ := Move.of_locate hlocate
  have hget : (cleared d fs n).get? (Path.resolve (Slot.path d i)) = none := by
    rw [Slot.resolve_path] at hgone ⊢
    rw [get?_cleared_of_lt h]
    exact hgone
  refine ⟨by simp [hstood], ?_, hget⟩
  exact FileSystem.locate_of_missing (Slot.path_ne_nil d i)
    ((obstacle?_cleared d fs n i).trans hway) hget

/-- A register whose file could not be removed has it as it was. -/
lemma get?_cleared_of_error (h : i < n) {e : FileError} (herror : removal d fs i = .error e) :
    (cleared d fs n).get? (Path.resolve (Slot.path d i))
      = fs.get? (Path.resolve (Slot.path d i)) := by
  rw [Slot.resolve_path, get?_cleared_of_lt h, cleared, FileSystem.get?_remove_of_error herror,
    ← Slot.resolve_path, get?_cleared_self]

/-- A register is refused by the failure that is due for it. -/
lemma removal_of_due {errno : Errno}
    (h : (Failure.take .remove (Path.resolve (Slot.path d i)) (cleared d fs i).failures).1
      = some errno) : removal d fs i = .error ⟨.remove, Slot.path d i, none, errno⟩ := by
  rw [removal, FileSystem.remove, FileSystem.attempt_of_due h]

/-- Where no failure is due for it, a register is removed as if it were alone. -/
lemma removal_of_clear (h : (cleared d fs i).Clear .remove (Slot.path d i)) :
    removal d fs i = (fs.removable (Slot.path d i)).mapError fun errno =>
      ⟨.remove, Slot.path d i, none, errno⟩ := by
  rw [removal, FileSystem.remove_fst_of_clear h, removable_cleared]

/-- What the failures are about stays while the store is cleared. -/
lemma forall_failures_cleared {Q : Failure → Prop} (hmet : ∀ f, Q f → Q f.met)
    (hall : ∀ f ∈ fs.failures, Q f) (n : Nat) : ∀ f ∈ (cleared d fs n).failures, Q f := by
  induction n with
  | zero => exact hall
  | succ n ih => exact FileSystem.forall_failures_remove hmet ih (Slot.path d n)

/-! ### Stores without files -/

/-- The file of each register has been removed, or was missing. -/
def Vacated (d : Bytes) (fs : FileSystem) : Prop :=
  ∀ r : Fin 16, removal d fs r = .ok () ∨ fs.locate (Slot.path d r) = .error .notFound

/-- Clearing without errors vacates the store, unless a failure only says that a file is
missing. -/
lemma vacated_of_errors_eq_nil
    (hfailures : ∀ f ∈ fs.failures, f.operation = .remove → f.errno ≠ .notFound)
    (h : (clear d fs).1 = []) : Vacated d fs := by
  intro r
  refine (errors_clear_eq_nil_iff.mp h r).imp_right ?_
  rintro ⟨e, herror, hmissing⟩
  have hother := forall_failures_cleared (d := d) (fun _ hf => hf) hfailures r
  cases hdue : (Failure.take .remove (Path.resolve (Slot.path d r))
      (cleared d fs r).failures).1 with
  | some errno =>
      rw [removal_of_due hdue] at herror
      obtain rfl := Except.error.inj herror
      obtain ⟨f, hf, hop, rfl⟩ := Failure.exists_of_take hdue
      exact absurd hmissing (hother f hf hop)
  | none =>
      rw [removal_of_clear hdue] at herror
      cases hremovable : fs.removable (Slot.path d r) with
      | ok =>
          rw [hremovable] at herror
          exact absurd herror (by simp [Except.mapError])
      | error errno =>
          rw [hremovable] at herror
          obtain rfl := Except.error.inj herror
          obtain rfl : errno = .notFound := hmissing
          exact FileSystem.locate_of_removable hremovable

lemma Vacated.locate_clear (h : Vacated d fs) (r : Fin 16) :
    (clear d fs).2.locate (Slot.path d r) = .error .notFound := by
  have hr : r.val < Register.count := r.isLt
  rw [clear_snd]
  cases hremoval : removal d fs r with
  | ok => exact (get?_cleared_of_ok hr hremoval).2.1
  | error e =>
      have hmissing := (h r).resolve_left (by simp [hremoval])
      rw [← hmissing, FileSystem.locate, FileSystem.locate, obstacle?_cleared,
        get?_cleared_of_error hr hremoval]

/-- A store without files is loaded as zero. -/
lemma load_of_missing (h : ∀ i < Register.count, fs.locate (Slot.path d i) = .error .notFound)
    (hopen : ∀ i < Register.count, fs.Clear .openToRead (Slot.path d i)) :
    load d fs = ((.zero, []), fs) := by
  have hread : ∀ i ∈ registers, Slot.read d i fs = (.ok (Bank.zero.value i), fs) := by
    intro i hi
    have hcount := lt_of_mem_registers hi
    rw [Slot.read, FileSystem.read, FileSystem.attempt_of_clear (hopen i hcount), h i hcount,
      Bank.value_zero]
    rfl
  rw [load, readAll_of_ok hread]
  dsimp only
  rw [bank_ofList_value]

/-- A store without files need not be cleared. -/
lemma clear_of_missing (h : ∀ i < Register.count, fs.locate (Slot.path d i) = .error .notFound)
    (hremove : ∀ i < Register.count, fs.Clear .remove (Slot.path d i)) :
    clear d fs = ([], fs) := by
  have hremoval (i : Nat) (hi : i < Register.count) : fs.remove (Slot.path d i)
      = (.error ⟨.remove, Slot.path d i, none, .notFound⟩, fs) := by
    rw [FileSystem.remove, FileSystem.attempt_of_clear (hremove i hi), h i hi]
    rfl
  have hall : ∀ is : List Nat, (∀ i ∈ is, i < Register.count) → removeAll d is fs = ([], fs) := by
    intro is his
    induction is with
    | nil => rfl
    | cons i is ih =>
        rw [removeAll_cons, hremoval i (his i (by simp)), ih fun j hj => his j (by simp [hj])]
        rfl
  exact hall registers fun i => lt_of_mem_registers

/-- **Clearing by register**, for all files, failures and directories.  All registers are
tried, one after the other and whatever comes of it.  A register whose file could be
removed had one and has none in the end, one whose file could not be removed has it as it
was, and nothing else changes.  A register meets the failure that is due for it, and is
otherwise removed as if it were alone.  The errors are those of the single registers in
order, without missing files, so there is none exactly if each was removed or reported
missing; and they were indeed missing, unless a failure only says so.  A store that was
vacated is loaded as zero, as after zero was saved, and clearing it again changes
nothing. -/
theorem clear_by_register (d : Bytes) (fs : FileSystem) :
    clear d fs = (registers.filterMap fun i => refusal? (removal d fs i),
        cleared d fs Register.count)
      ∧ (∀ p, (∀ r : Fin 16, p ≠ Path.resolve (Slot.path d r)) →
        (clear d fs).2.get? p = fs.get? p)
      ∧ (∀ r : Fin 16,
        (removal d fs r = .ok () → fs.get? (Path.resolve (Slot.path d r)) ≠ none
            ∧ (clear d fs).2.get? (Path.resolve (Slot.path d r)) = none)
          ∧ (∀ e, removal d fs r = .error e → (clear d fs).2.get? (Path.resolve (Slot.path d r))
            = fs.get? (Path.resolve (Slot.path d r)))
          ∧ (∀ errno, (Failure.take .remove (Path.resolve (Slot.path d r))
              (cleared d fs r).failures).1 = some errno →
            removal d fs r = .error ⟨.remove, Slot.path d r, none, errno⟩)
          ∧ ((cleared d fs r).Clear .remove (Slot.path d r) → removal d fs r
            = (fs.removable (Slot.path d r)).mapError fun errno =>
              ⟨.remove, Slot.path d r, none, errno⟩))
      ∧ ((clear d fs).1 = [] ↔ ∀ r : Fin 16,
        removal d fs r = .ok () ∨ ∃ e, removal d fs r = .error e ∧ e.errno = .notFound)
      ∧ ((∀ f ∈ fs.failures, f.operation = .remove → f.errno ≠ .notFound) →
        (clear d fs).1 = [] → Vacated d fs)
      ∧ (Vacated d fs →
        ((∀ r : Fin 16, (clear d fs).2.Clear .openToRead (Slot.path d r)) →
          load d (clear d fs).2 = ((.zero, []), (clear d fs).2)
            ∧ ∀ fs', (save d .zero fs').1.errors = [] →
              (∀ r : Fin 16, (save d .zero fs').2.Clear .openToRead (Slot.path d r)
                ∧ (save d .zero fs').2.Clear .read (Slot.path d r)) →
              (load d (save d .zero fs').2).1 = (load d (clear d fs).2).1)
        ∧ ((∀ r : Fin 16, (clear d fs).2.Clear .remove (Slot.path d r)) →
          clear d (clear d fs).2 = ([], (clear d fs).2))) := by
  refine ⟨clear_eq d fs, fun p hp => ?_, fun r => ⟨fun hok => ?_, fun e herror => ?_,
    fun _ hdue => removal_of_due hdue, removal_of_clear⟩, errors_clear_eq_nil_iff,
    vacated_of_errors_eq_nil, fun hvacated => ⟨fun hopen => ?_, fun hremove => ?_⟩⟩
  · rw [clear_snd]
    refine get?_cleared_of_ne fun i hi => ?_
    rw [← Slot.resolve_path]
    exact hp ⟨i, hi⟩
  · have hr : r.val < Register.count := r.isLt
    obtain ⟨hstood, -, hgone⟩ := get?_cleared_of_ok hr hok
    rw [clear_snd]
    exact ⟨hstood, hgone⟩
  · have hr : r.val < Register.count := r.isLt
    rw [clear_snd]
    exact get?_cleared_of_error hr herror
  · have hload : load d (clear d fs).2 = ((.zero, []), (clear d fs).2) :=
      load_of_missing (fun i hi => hvacated.locate_clear ⟨i, hi⟩) fun i hi => hopen ⟨i, hi⟩
    refine ⟨hload, fun fs' hsave hread => ?_⟩
    rw [hload, load_of_save hsave fun i hi => hread ⟨i, hi⟩]
  · exact clear_of_missing (fun i hi => hvacated.locate_clear ⟨i, hi⟩) fun i hi => hremove ⟨i, hi⟩

/-- A store with a file, an empty directory and a directory that is not empty in the place
of files, of which the last cannot be removed: the others are gone, and once it is empty
the store is vacated. -/
theorem clear_by_register_with_directories :
    let d := utf8 "r"
    let inner : Location := [utf8 "r", utf8 "x2.bin", utf8 "n"]
    let full : FileSystem :=
      { entries := [([utf8 "r"], .directory), ([utf8 "r", utf8 "x0.bin"], .file 0o644 [0, 0, 7]),
          ([utf8 "r", utf8 "x1.bin"], .directory), ([utf8 "r", utf8 "x2.bin"], .directory),
          (inner, .file 0o600 [])]
        failures := [⟨.remove, some inner, .accessDenied, none⟩] }
    let fs := full.erase inner
    (clear d full).1 = [.file ⟨.remove, utf8 "r/x2.bin", none, .notEmpty⟩]
      ∧ (clear d full).2.get? [utf8 "r", utf8 "x0.bin"] = none
      ∧ (clear d full).2.get? [utf8 "r", utf8 "x2.bin"] = some .directory
      ∧ Vacated d fs ∧ load d (clear d fs).2 = ((.zero, []), (clear d fs).2)
      ∧ clear d (clear d fs).2 = ([], (clear d fs).2) := by
  intro d inner full fs
  obtain ⟨-, -, hfull, -⟩ := clear_by_register d full
  obtain ⟨-, -, -, -, hvacated, hafter⟩ := clear_by_register d fs
  have hok : removal d full 0 = .ok () := by decide +kernel
  have herror : removal d full 2 = .error ⟨.remove, utf8 "r/x2.bin", none, .notEmpty⟩ := by
    decide +kernel
  have hfs : Vacated d fs := hvacated (by decide +kernel) (by decide +kernel)
  obtain ⟨hload, hagain⟩ := hafter hfs
  refine ⟨by decide +kernel, ((hfull 0).1 hok).2, ((hfull 2).2.1 _ herror).trans ?_, hfs,
    (hload ?_).1, hagain ?_⟩
  · decide +kernel
  · simp only [FileSystem.Clear]
    decide +kernel
  · simp only [FileSystem.Clear]
    decide +kernel

end Store

end RegisterMachine
