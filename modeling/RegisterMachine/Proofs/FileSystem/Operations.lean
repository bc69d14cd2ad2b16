/-
What the operations on files do where no failure is due.

* `FileSystem.get?_put`, `FileSystem.get?_erase`, `FileSystem.get?_fill`: what
  stands at a place afterwards;
* `FileSystem.Made`: all directories on the way to a place are there;
* `FileSystem.Confined`: entries differ at given places at most;
* `FileSystem.Clear`: no failure is due for an operation at a path, and
  `FileSystem.attempt_of_clear`: so it is performed;
* `FileSystem.exists_write`, `FileSystem.exists_rename`,
  `FileSystem.exists_remove`, `FileSystem.makeDirectories_eq`: the operations that
  change files, where they succeed;
* `FileSystem.Spares`: the entries at certain places are left alone; reading
  spares every place, and writing spares all places but its own.
-/
import Mathlib.Tactic.Common
import RegisterMachine.FileSystem.Change
import RegisterMachine.Proofs.FileSystem.Path

namespace RegisterMachine

/-- The entry is a directory. -/
def Entry.isDirectory : Entry → Bool
  | .directory => true
  | .file _ _ => false

namespace FileSystem

variable {fs fs' fs'' : FileSystem} {loc p : Location} {e : Entry} {path : Bytes}

/-! ### Entries -/

@[simp] lemma get?_nil (fs : FileSystem) : fs.get? [] = some .directory := rfl

lemma ne_nil_of_get? (h : fs.get? loc ≠ some .directory) : loc ≠ [] := by
  rintro rfl
  exact h rfl

lemma get?_erase (fs : FileSystem) (loc p : Location) :
    (fs.erase loc).get? p = if p = loc ∧ p ≠ [] then none else fs.get? p := by
  by_cases hp : p = []
  · simp [hp]
  · rw [get?, get?, erase, if_neg hp, if_neg hp, List.find?_filter]
    by_cases hloc : p = loc
    · subst hloc
      simp [hp]
    · have hfind (a : Location × Entry) :
          decide (decide (a.1 ≠ loc) = true ∧ decide (a.1 = p) = true) = decide (a.1 = p) := by
        by_cases ha : a.1 = p
        · simp [ha, hloc]
        · simp [ha]
      simp only [hfind]
      rw [if_neg (by simp [hloc])]

lemma get?_put (fs : FileSystem) (loc p : Location) (e : Entry) :
    (fs.put loc e).get? p = if p = loc ∧ p ≠ [] then some e else fs.get? p := by
  by_cases hp : p = []
  · simp [hp]
  · by_cases hloc : p = loc
    · subst hloc
      simp [get?, put, hp]
    · have herase := get?_erase fs loc p
      rw [if_neg (by simp [hloc])] at herase ⊢
      rw [← herase, get?, get?, put, if_neg hp, if_neg hp]
      simp [Ne.symm hloc]

lemma get?_put_of_ne (h : p ≠ loc) (e : Entry) : (fs.put loc e).get? p = fs.get? p := by
  rw [get?_put, if_neg (by simp [h])]

lemma get?_put_self (h : loc ≠ []) (e : Entry) : (fs.put loc e).get? loc = some e := by
  rw [get?_put, if_pos ⟨rfl, h⟩]

lemma get?_erase_of_ne (h : p ≠ loc) : (fs.erase loc).get? p = fs.get? p := by
  rw [get?_erase, if_neg (by simp [h])]

lemma get?_erase_self (h : loc ≠ []) : (fs.erase loc).get? loc = none := by
  rw [get?_erase, if_pos ⟨rfl, h⟩]

lemma file?_of_get? {m : Nat} {c : Bytes} (h : fs.get? loc = some (.file m c)) :
    fs.file? loc = some (m, c) := by
  rw [file?, h]

/-- Filling places makes directories of those that held nothing, and changes no
other. -/
lemma get?_fill (fs : FileSystem) (places : List Location) (p : Location) :
    (fs.fill places).get? p
      = if p ∈ places ∧ fs.get? p = none then some .directory else fs.get? p := by
  induction places generalizing fs with
  | nil => simp [fill]
  | cons q places ih =>
      rw [fill, List.foldl_cons, ← fill, ih]
      by_cases hq : fs.get? q = none
      · have hroot : q ≠ [] := by
          rintro rfl
          simp at hq
        rw [if_pos hq, get?_put]
        by_cases hp : p = q
        · subst hp
          simp [hroot, hq]
        · simp [hp]
      · rw [if_neg hq]
        by_cases hp : p = q
        · subst hp
          simp [hq]
        · simp [hp]

/-- Entries differ at the given places at most. -/
structure Confined (places : List Location) (fs fs' : FileSystem) : Prop where
  failures : fs'.failures = fs.failures
  appender : fs'.appender = fs.appender
  get?_eq : ∀ p, p ∉ places → fs'.get? p = fs.get? p

lemma Confined.trans {places : List Location} (h : Confined places fs fs')
    (h' : Confined places fs' fs'') : Confined places fs fs'' :=
  ⟨h'.failures.trans h.failures, h'.appender.trans h.appender,
    fun p hp => (h'.get?_eq p hp).trans (h.get?_eq p hp)⟩

lemma Confined.mono {places places' : List Location} (h : Confined places fs fs')
    (hsub : ∀ p ∈ places, p ∈ places') : Confined places' fs fs' :=
  ⟨h.failures, h.appender, fun p hp => h.get?_eq p fun hp' => hp (hsub p hp')⟩

lemma confined_put (fs : FileSystem) (loc : Location) (e : Entry) :
    Confined [loc] fs (fs.put loc e) :=
  ⟨rfl, rfl, fun _ hp => get?_put_of_ne (by simpa using hp) e⟩

lemma confined_erase (fs : FileSystem) (loc : Location) : Confined [loc] fs (fs.erase loc) :=
  ⟨rfl, rfl, fun _ hp => get?_erase_of_ne (by simpa using hp)⟩

lemma confined_fill (fs : FileSystem) (places : List Location) :
    Confined places fs (fs.fill places) := by
  induction places generalizing fs with
  | nil => exact ⟨rfl, rfl, fun _ _ => rfl⟩
  | cons q places ih =>
      have hrest (fs : FileSystem) : Confined (q :: places) fs (fs.fill places) :=
        (ih fs).mono fun p hp => List.mem_cons_of_mem q hp
      rw [fill, List.foldl_cons, ← fill]
      split_ifs
      · exact ((confined_put fs q .directory).mono (by simp)).trans (hrest _)
      · exact hrest fs

/-! ### The way to an entry of a directory -/

/-- All directories on the way to a place are there, and the place is one of
them. -/
def Made (loc : Location) (fs : FileSystem) : Prop :=
  ∀ p ∈ Path.prefixes loc, fs.get? p = some .directory

/-- What is in the way to a place depends only on whether there are files or
directories on it. -/
lemma obstacle?_congr (h : ∀ q ∈ Path.parents loc,
      (fs'.get? q).map Entry.isDirectory = (fs.get? q).map Entry.isDirectory) :
    fs'.obstacle? loc = fs.obstacle? loc := by
  rw [obstacle?, obstacle?]
  generalize Path.parents loc = places at h
  induction places with
  | nil => rfl
  | cons q places ih =>
      have hq := h q (by simp)
      rw [List.findSome?_cons, List.findSome?_cons, ih fun p hp => h p (by simp [hp])]
      cases hget : fs.get? q with
      | none =>
          rw [hget, Option.map_none, Option.map_eq_none_iff] at hq
          rw [hq]
      | some e =>
          rw [hget, Option.map_some, Option.map_eq_some_iff] at hq
          obtain ⟨e', he', heq⟩ := hq
          rw [he']
          cases e <;> cases e' <;> first | rfl | exact absurd heq (by simp [Entry.isDirectory])

lemma obstacle?_of_made (h : fs.Made loc) (n : Bytes) : fs.obstacle? (loc ++ [n]) = none := by
  rw [obstacle?, Path.parents_concat, List.findSome?_eq_none_iff]
  intro p hp
  rw [h p hp]

/-- Where no file is in the way, a directory that is not there is missing. -/
lemma obstacle?_of_not_made (hway : ∀ p ∈ Path.prefixes loc, fs.file? p = none)
    (h : ¬ fs.Made loc) (n : Bytes) : fs.obstacle? (loc ++ [n]) = some .notFound := by
  have hnone : fs.obstacle? (loc ++ [n]) ≠ none := by
    rw [obstacle?, Path.parents_concat, Ne, List.findSome?_eq_none_iff]
    intro hall
    refine h fun p hp => ?_
    have hp' := hall p hp
    split at hp' <;> simp_all
  obtain ⟨e, he⟩ := Option.ne_none_iff_exists'.mp hnone
  rw [he]
  rw [obstacle?, Path.parents_concat] at he
  obtain ⟨p, hp, hpe⟩ := List.exists_of_findSome?_eq_some he
  have hfile := hway p hp
  split at hpe
  · exact absurd hpe (by simp)
  · rename_i hget
    rw [file?_of_get? hget] at hfile
    exact absurd hfile (by simp)
  · rw [← hpe]

lemma made_fill (hway : ∀ p ∈ Path.prefixes loc, fs.file? p = none) :
    (fs.fill (Path.prefixes loc)).Made loc := by
  intro p hp
  have hfile := hway p hp
  rw [get?_fill]
  split_ifs with hget
  · rfl
  · rw [file?] at hfile
    split at hfile
    · exact absurd hfile (by simp)
    · rename_i hother
      cases hp' : fs.get? p with
      | none => exact absurd ⟨hp, hp'⟩ hget
      | some e =>
          cases e with
          | file m c => exact absurd hp' (hother m c)
          | directory => rfl

lemma locate_of_obstacle {err : Errno} (hpath : path ≠ [])
    (h : fs.obstacle? (Path.resolve path) = some err) : fs.locate path = .error err := by
  rw [locate, if_neg hpath, h]

lemma locate_of_get? (hpath : path ≠ []) (h : fs.obstacle? (Path.resolve path) = none)
    (hget : fs.get? (Path.resolve path) = some e) : fs.locate path = .ok e := by
  rw [locate, if_neg hpath, h, hget]

lemma locate_of_missing (hpath : path ≠ []) (h : fs.obstacle? (Path.resolve path) = none)
    (hget : fs.get? (Path.resolve path) = none) : fs.locate path = .error .notFound := by
  rw [locate, if_neg hpath, h, hget]

/-! ### Operations without failures -/

/-- No failure is due for the operation at the path. -/
def Clear (op : Operation) (path : Bytes) (fs : FileSystem) : Prop :=
  (Failure.take op (Path.resolve path) fs.failures).1 = none

lemma clear_of_nil (h : fs.failures = []) (op : Operation) (path : Bytes) : fs.Clear op path := by
  rw [Clear, h]
  rfl

lemma Clear.of_failures_eq {op : Operation} (h : fs.Clear op path)
    (heq : fs'.failures = fs.failures) : fs'.Clear op path := by
  rw [Clear, heq]
  exact h

/-- An operation for which no failure is due is performed. -/
lemma attempt_of_clear {α : Type} {op : Operation} (h : fs.Clear op path) (target : Option Bytes)
    (action : FileSystem → Except Errno α × FileSystem) :
    attempt op path target action fs
      = ((action fs).1.mapError fun errno => ⟨op, path, target, errno⟩, (action fs).2) := by
  rw [Clear] at h
  rw [attempt]
  generalize Failure.take op (Path.resolve path) fs.failures = taken at h ⊢
  obtain ⟨found, failures⟩ := taken
  obtain rfl : found = none := h
  dsimp only
  obtain ⟨result, fs'⟩ := action fs
  cases result <;> rfl

lemma attempt_eq {α : Type} (h : fs.failures = []) (op : Operation) (path : Bytes)
    (target : Option Bytes) (action : FileSystem → Except Errno α × FileSystem) :
    attempt op path target action fs
      = ((action fs).1.mapError fun errno => ⟨op, path, target, errno⟩, (action fs).2) :=
  attempt_of_clear (clear_of_nil h op path) target action

/-- Reading a file changes nothing. -/
lemma read_eq (h : fs.failures = []) (path : Bytes) :
    fs.read path = (match fs.locate path with
      | .error errno => .error ⟨.openToRead, path, none, errno⟩
      | .ok (.file _ c) => .ok c
      | .ok .directory => .error ⟨.read, path, none, .isDirectory⟩, fs) := by
  rw [read, attempt_eq h]
  cases fs.locate path with
  | error errno => rfl
  | ok e =>
      simp only [Except.mapError]
      rw [attempt_eq h]
      cases e <;> rfl

lemma read_snd (h : fs.failures = []) (path : Bytes) : (fs.read path).2 = fs := by
  rw [read_eq h]

/-- Asking for a directory changes nothing. -/
lemma isDirectory_snd (h : fs.failures = []) (path : Bytes) : (fs.isDirectory path).2 = fs := by
  rw [isDirectory, attempt_eq h]
  cases fs.locate path <;> rfl

/-- Writing a file that is there, or can be made, replaces its content. -/
lemma exists_write_of_clear (hopen : fs.Clear .openToWrite path) (hwrite : fs.Clear .write path)
    (hpath : path ≠ []) (hway : fs.obstacle? (Path.resolve path) = none)
    (hget : fs.get? (Path.resolve path) ≠ some .directory) (mode : Nat) (content : Bytes) :
    ∃ m fs', fs.write mode path content = (.ok (), fs') ∧ Confined [Path.resolve path] fs fs'
      ∧ fs'.get? (Path.resolve path) = some (.file m content) := by
  have hroot := ne_nil_of_get? hget
  have hprepare : ∃ m, fs.prepare mode false path
      = (.ok (Path.resolve path), fs.put (Path.resolve path) (.file m [])) := by
    rw [prepare, if_neg hpath]
    cases hentry : fs.get? (Path.resolve path) with
    | none => exact ⟨mode, by simp only [hentry, hway]⟩
    | some e =>
        cases e with
        | directory => exact absurd hentry hget
        | file m c => exact ⟨m, by simp [hentry]⟩
  obtain ⟨m, hm⟩ := hprepare
  refine ⟨m, (fs.put (Path.resolve path) (.file m [])).put (Path.resolve path) (.file m content),
    ?_, (confined_put _ _ _).trans (confined_put _ _ _), get?_put_self hroot _⟩
  have hready : (fs.put (Path.resolve path) (.file m [])).Clear .write path :=
    hwrite.of_failures_eq rfl
  rw [write, attempt_of_clear hopen, hm]
  simp only [Except.mapError]
  rw [attempt_of_clear hready, setContent, file?_of_get? (get?_put_self hroot _)]
  rfl

lemma exists_write (h : fs.failures = []) (hpath : path ≠ [])
    (hway : fs.obstacle? (Path.resolve path) = none)
    (hget : fs.get? (Path.resolve path) ≠ some .directory) (mode : Nat) (content : Bytes) :
    ∃ m fs', fs.write mode path content = (.ok (), fs') ∧ Confined [Path.resolve path] fs fs'
      ∧ fs'.get? (Path.resolve path) = some (.file m content) :=
  exists_write_of_clear (clear_of_nil h _ _) (clear_of_nil h _ _) hpath hway hget mode content

/-- A file can be moved to where no directory stands. -/
lemma rename_of_clear {source target : Bytes} {m : Nat} {c : Bytes}
    (h : fs.Clear .rename source) (hsource : fs.locate source = .ok (.file m c))
    (hway : fs.obstacle? (Path.resolve target) = none)
    (hget : fs.get? (Path.resolve target) ≠ some .directory) :
    fs.rename source target
      = (.ok (), { (fs.erase (Path.resolve source)).put (Path.resolve target) (.file m c) with
          appender := fs.appender.map (follow (Path.resolve source) (Path.resolve target)) }) := by
  rw [rename, attempt_of_clear h, hsource]
  dsimp only
  rw [hway]
  cases hentry : fs.get? (Path.resolve target) with
  | none => rfl
  | some e =>
      cases e with
      | directory => exact absurd hentry hget
      | file => rfl

/-- Moving a file in place of another, or to where nothing stands. -/
lemma exists_rename {source target : Bytes} {m : Nat} {c : Bytes} (h : fs.failures = [])
    (hsource : fs.locate source = .ok (.file m c))
    (hway : fs.obstacle? (Path.resolve target) = none)
    (hget : fs.get? (Path.resolve target) ≠ some .directory)
    (hroot : Path.resolve source ≠ []) (hne : Path.resolve source ≠ Path.resolve target)
    (happender : fs.appender.map (follow (Path.resolve source) (Path.resolve target))
      = fs.appender) :
    ∃ fs', fs.rename source target = (.ok (), fs')
      ∧ Confined [Path.resolve source, Path.resolve target] fs fs'
      ∧ fs'.get? (Path.resolve target) = some (.file m c)
      ∧ fs'.get? (Path.resolve source) = none := by
  have hrename : fs.rename source target
      = (.ok (), (fs.erase (Path.resolve source)).put (Path.resolve target) (.file m c)) := by
    rw [rename_of_clear (clear_of_nil h _ _) hsource hway hget, happender]
    rfl
  refine ⟨_, hrename, ?_, get?_put_self (ne_nil_of_get? hget) _, ?_⟩
  · exact ((confined_erase _ _).mono (by simp)).trans ((confined_put _ _ _).mono (by simp))
  · rw [get?_put_of_ne hne, get?_erase_self hroot]

/-- A file that can be reached can be removed. -/
lemma remove_of_clear {m : Nat} {c : Bytes} (h : fs.Clear .remove path)
    (hpath : fs.locate path = .ok (.file m c)) :
    fs.remove path = (.ok (), { fs.erase (Path.resolve path) with
      appender := fs.appender.map (detach (Path.resolve path)) }) := by
  rw [remove, attempt_of_clear h, hpath]
  rfl

/-- Removing a file leaves nothing at its place. -/
lemma exists_remove {m : Nat} {c : Bytes} (h : fs.failures = [])
    (hpath : fs.locate path = .ok (.file m c)) (hroot : Path.resolve path ≠ [])
    (happender : fs.appender.map (detach (Path.resolve path)) = fs.appender) :
    ∃ fs', fs.remove path = (.ok (), fs') ∧ Confined [Path.resolve path] fs fs'
      ∧ fs'.get? (Path.resolve path) = none := by
  refine ⟨fs.erase (Path.resolve path), ?_, confined_erase _ _, get?_erase_self hroot⟩
  rw [remove_of_clear (clear_of_nil h _ _) hpath, happender]
  rfl

lemma remove_error {errno : Errno} (h : fs.failures = []) (hpath : fs.locate path = .error errno) :
    fs.remove path = (.error ⟨.remove, path, none, errno⟩, fs) := by
  rw [remove, attempt_eq h, hpath]
  rfl

/-- A directory can be made where no file is in the way. -/
lemma makeDirectories_of_clear (h : fs.Clear .makeDirectory path) (hpath : path ≠ [])
    (hway : ∀ p ∈ Path.prefixes (Path.resolve path), fs.file? p = none) :
    fs.makeDirectories path = (.ok (), fs.fill (Path.prefixes (Path.resolve path))) := by
  have hany : ((Path.prefixes (Path.resolve path)).any fun p => (fs.file? p).isSome) = false := by
    rw [List.any_eq_false]
    intro p hp
    simp [hway p hp]
  rw [makeDirectories, attempt_of_clear h, if_neg hpath]
  simp only [hany]
  rfl

lemma makeDirectories_eq (h : fs.failures = []) (hpath : path ≠ [])
    (hway : ∀ p ∈ Path.prefixes (Path.resolve path), fs.file? p = none) :
    fs.makeDirectories path = (.ok (), fs.fill (Path.prefixes (Path.resolve path))) :=
  makeDirectories_of_clear (clear_of_nil h _ _) hpath hway

/-! ### Places that are spared -/

variable {P : Location → Prop}

/-- No failure is due, and the file held open is at no place with `P`. -/
structure Safe (P : Location → Prop) (fs : FileSystem) : Prop where
  failures : fs.failures = []
  appender : ∀ a, fs.appender = some a → ∀ p, a.place = some p → ¬ P p

/-- The entries at the places with `P` have been left alone. -/
structure Spares (P : Location → Prop) (fs fs' : FileSystem) : Prop where
  safe : fs'.Safe P
  get?_eq : ∀ p, P p → fs'.get? p = fs.get? p

lemma Spares.refl (h : fs.Safe P) : Spares P fs fs :=
  ⟨h, fun _ _ => rfl⟩

lemma Spares.trans (h : Spares P fs fs') (h' : Spares P fs' fs'') : Spares P fs fs'' :=
  ⟨h'.safe, fun p hp => (h'.get?_eq p hp).trans (h.get?_eq p hp)⟩

lemma spares_put (h : fs.Safe P) (hloc : ¬ P loc) (e : Entry) : Spares P fs (fs.put loc e) := by
  refine ⟨⟨h.failures, h.appender⟩, fun p hp => get?_put_of_ne ?_ e⟩
  rintro rfl
  exact hloc hp

lemma spares_setContent (h : fs.Safe P) (hloc : ¬ P loc) (content : Bytes) :
    Spares P fs (fs.setContent loc content) := by
  rw [setContent]
  split
  · exact spares_put h hloc _
  · exact .refl h

/-- Making a file ready for writing fails, or concerns its place alone, where no
directory stands. -/
lemma prepare_cases (fs : FileSystem) (mode : Nat) (keep : Bool) (path : Bytes) :
    (∃ errno, fs.prepare mode keep path = (.error errno, fs))
      ∨ fs.get? (Path.resolve path) ≠ some .directory
        ∧ (fs.prepare mode keep path = (.ok (Path.resolve path), fs)
          ∨ ∃ e, fs.prepare mode keep path
            = (.ok (Path.resolve path), fs.put (Path.resolve path) e)) := by
  rw [prepare]
  by_cases hpath : path = []
  · rw [if_pos hpath]
    exact .inl ⟨_, rfl⟩
  · rw [if_neg hpath]
    dsimp only
    cases hentry : fs.get? (Path.resolve path) with
    | none =>
        dsimp only
        cases fs.obstacle? (Path.resolve path) with
        | none => exact .inr ⟨by simp, .inr ⟨_, rfl⟩⟩
        | some errno => exact .inl ⟨_, rfl⟩
    | some e =>
        cases e with
        | directory => exact .inl ⟨_, rfl⟩
        | file m c =>
            cases keep with
            | true => exact .inr ⟨by simp, .inl rfl⟩
            | false => exact .inr ⟨by simp, .inr ⟨_, rfl⟩⟩

variable (hfree : P (Path.resolve path) → fs.get? (Path.resolve path) = some .directory)

include hfree in
/-- Where a directory stands at its place if that is to be spared, making a file
ready for writing spares all places, and it fails or the file is at none of
them. -/
lemma spares_prepare (h : fs.Safe P) (mode : Nat) (keep : Bool) :
    Spares P fs (fs.prepare mode keep path).2
      ∧ ∀ loc, (fs.prepare mode keep path).1 = .ok loc → ¬ P loc := by
  obtain ⟨errno, hprepare⟩ | ⟨hget, hprepare⟩ := prepare_cases fs mode keep path
  · rw [hprepare]
    exact ⟨.refl h, by simp⟩
  · have hapart : ¬ P (Path.resolve path) := fun hp => hget (hfree hp)
    obtain hprepare | ⟨e, hprepare⟩ := hprepare
    · rw [hprepare]
      exact ⟨.refl h, fun loc hloc => Except.ok.inj hloc ▸ hapart⟩
    · rw [hprepare]
      exact ⟨spares_put h hapart e, fun loc hloc => Except.ok.inj hloc ▸ hapart⟩

include hfree in
/-- Writing a file spares all places but its own. -/
lemma spares_write (h : fs.Safe P) (mode : Nat) (content : Bytes) :
    Spares P fs (fs.write mode path content).2 := by
  obtain ⟨hspares, hapart⟩ := spares_prepare hfree h mode false
  rw [write, attempt_eq h.failures]
  cases hprepare : (fs.prepare mode false path).1 with
  | error errno => exact hspares
  | ok loc =>
      simp only [Except.mapError]
      rw [attempt_eq hspares.safe.failures]
      exact hspares.trans (spares_setContent hspares.safe (hapart loc hprepare) content)

include hfree in
/-- Opening a file for appending spares all places but its own. -/
lemma spares_openAppender (h : fs.Safe P) (mode : Nat) :
    Spares P fs (fs.openAppender mode path).2 := by
  obtain ⟨hspares, hapart⟩ := spares_prepare hfree h mode true
  rw [openAppender, attempt_eq h.failures]
  cases hprepare : (fs.prepare mode true path).1 with
  | error errno => exact hspares
  | ok loc =>
      refine ⟨⟨hspares.safe.failures, ?_⟩, hspares.get?_eq⟩
      intro a ha p hp
      obtain rfl := Option.some.inj ha
      obtain rfl := Option.some.inj hp
      exact hapart _ hprepare

/-- Writing to the file held open spares all places at which it is not. -/
lemma spares_append (h : fs.Safe P) (content : Bytes) : Spares P fs (fs.append content) := by
  rw [append]
  cases happender : fs.appender with
  | none => exact .refl h
  | some a =>
      dsimp only
      rw [attempt_eq h.failures]
      cases hplace : a.place with
      | none => exact .refl h
      | some loc =>
          dsimp only
          cases fs.file? loc with
          | none => exact .refl h
          | some old => exact spares_setContent h (h.appender a happender loc hplace) _

/-- A file held open does not move along with files at spared places. -/
lemma map_follow_eq {source target : Location} (h : fs.Safe P) (hsource : P source)
    (htarget : P target) : fs.appender.map (follow source target) = fs.appender := by
  cases happender : fs.appender with
  | none => rfl
  | some a =>
      have hne {loc : Location} (hloc : P loc) : a.place ≠ some loc :=
        fun hplace => h.appender a happender loc hplace hloc
      rw [Option.map_some, follow, if_neg (hne hsource), detach, if_neg (hne htarget)]

lemma map_detach_eq (h : fs.Safe P) (hloc : P loc) :
    fs.appender.map (detach loc) = fs.appender := by
  cases happender : fs.appender with
  | none => rfl
  | some a =>
      rw [Option.map_some, detach, if_neg fun hplace => h.appender a happender loc hplace hloc]

lemma spares_closeAppender (h : fs.Safe P) : Spares P fs fs.closeAppender :=
  ⟨⟨h.failures, by simp [closeAppender]⟩, fun _ _ => rfl⟩

end FileSystem

end RegisterMachine
