/-
Two file systems side by side, on which the same operations are performed.

* `FileSystem.Twin`: what may stand at one place in both: the same; or, at the places
  with `D`, anything but a directory; or, at the place of a log, files that start
  alike;
* `FileSystem.Harmless`: failures are due only for writing at places with `D`;
* `FileSystem.Parallel`: both are alike at every place, and so is the file held open;
* `FileSystem.Parallel.read_cases`, `FileSystem.Parallel.write_cases`: **operations at
  places without `D` fail in both or succeed in both, and leave them alike**; where no
  place with `D` is on the way they have the same results;
* `FileSystem.Parallel.rename_cases`, `FileSystem.Parallel.remove`,
  `FileSystem.Parallel.makeDirectories`, `FileSystem.Parallel.append`: likewise.
-/
import RegisterMachine.Proofs.FileSystem.Confinement
import RegisterMachine.Proofs.FileSystem.Failures

namespace RegisterMachine

/-- An entry with something added to its end, if it is a file. -/
def Entry.extend (content : Bytes) : Entry → Entry
  | .file m c => .file m (c ++ content)
  | .directory => .directory

lemma Entry.map_extend_ne_directory {e : Option Entry} (h : e ≠ some .directory)
    (content : Bytes) : e.map (Entry.extend content) ≠ some .directory := by
  cases e with
  | none => simp
  | some e =>
      cases e with
      | file m c => simp [extend]
      | directory => exact absurd rfl h

namespace FileSystem

variable {D : Location → Prop} {T : Location → Bytes → Prop} {fs fs' : FileSystem}
  {q loc : Location} {path : Bytes} {e e' : Option Entry} {α : Type}

/-! ### Single places -/

/-- What stands at a place in two file systems.  Places with `D` are those that are
never looked at.  `T q c` says that a log is at `q`, and that its text starts with
`c`. -/
inductive Twin (D : Location → Prop) (T : Location → Bytes → Prop) (q : Location) :
    Option Entry → Option Entry → Prop
  | same (e : Option Entry) : Twin D T q e e
  | apart {e e' : Option Entry} (h : D q) (he : e ≠ some .directory)
      (he' : e' ≠ some .directory) : Twin D T q e e'
  | logged {c : Bytes} (h : T q c) (m : Nat) (x x' : Bytes) :
      Twin D T q (some (.file m (c ++ x))) (some (.file m (c ++ x')))

namespace Twin

lemma symm (h : Twin D T q e e') : Twin D T q e' e := by
  cases h with
  | same e => exact .same e
  | apart h he he' => exact .apart h he' he
  | logged h m x x' => exact .logged h m x' x

lemma mono {T' : Location → Bytes → Prop} (h : Twin D T q e e') (hT : ∀ q c, T q c → T' q c) :
    Twin D T' q e e' := by
  cases h with
  | same e => exact .same e
  | apart h he he' => exact .apart h he he'
  | logged h m x x' => exact .logged (hT q _ h) m x x'

lemma widen {D' : Location → Prop} (h : Twin D T q e e') (hD : D q → D' q) :
    Twin D' T q e e' := by
  cases h with
  | same e => exact .same e
  | apart h he he' => exact .apart (hD h) he he'
  | logged h m x x' => exact .logged h m x x'

/-- Places without `D` that are no log hold the same. -/
lemma eq (h : Twin D T q e e') (hq : ¬ D q) (hT : ∀ c, ¬ T q c) : e' = e := by
  cases h with
  | same e => rfl
  | apart h he he' => exact absurd h hq
  | logged h m x x' => exact absurd h (hT _)

lemma directory (h : Twin D T q e e') (he : e = some .directory) : e' = some .directory := by
  subst he
  cases h with
  | same e => rfl
  | apart h he he' => exact absurd rfl he

/-- Places without `D` hold entries of the same kind. -/
lemma isDirectory_eq (h : Twin D T q e e') (hq : ¬ D q) :
    e'.map Entry.isDirectory = e.map Entry.isDirectory := by
  cases h with
  | same e => rfl
  | apart h he he' => exact absurd h hq
  | logged h m x x' => rfl

lemma eq_none_iff (h : Twin D T q e e') (hq : ¬ D q) : e' = none ↔ e = none := by
  cases h with
  | same e => rfl
  | apart h he he' => exact absurd h hq
  | logged h m x x' => simp

/-- The same is added to both files. -/
lemma extend (h : Twin D T q e e') (content : Bytes) :
    Twin D T q (e.map (Entry.extend content)) (e'.map (Entry.extend content)) := by
  cases h with
  | same e => exact .same _
  | apart h he he' =>
      exact .apart h (Entry.map_extend_ne_directory he _) (Entry.map_extend_ne_directory he' _)
  | logged h m x x' =>
      simp only [Option.map_some, Entry.extend, List.append_assoc]
      exact .logged h m _ _

/-- Something is added to one file only, at a place with `D`. -/
lemma extend_left (h : Twin D T q e e') (hq : D q) (content : Bytes) :
    Twin D T q (e.map (Entry.extend content)) e' := by
  by_cases he : e = some .directory
  · subst he
    rw [h.directory rfl]
    exact .same _
  · refine .apart hq (Entry.map_extend_ne_directory he _) fun he' => he ?_
    exact h.symm.directory he'

end Twin

/-! ### Failures -/

/-- Failures are due only for writing at places with `D`. -/
def Harmless (D : Location → Prop) (fs : FileSystem) : Prop :=
  ∀ f ∈ fs.failures, f.operation = .write ∧ ∃ q, D q ∧ f.place = some q

lemma harmless_of_nil (h : fs.failures = []) : fs.Harmless D := by
  simp [Harmless, h]

lemma Harmless.of_failures_eq (h : fs.Harmless D) (heq : fs'.failures = fs.failures) :
    fs'.Harmless D := by
  rw [Harmless, heq]
  exact h

/-- No failure is met but by writing at a place with `D`. -/
lemma Harmless.take_eq_none (h : fs.Harmless D) {op : Operation} (hop : op = .write → ¬ D loc) :
    (Failure.take op loc fs.failures).1 = none := by
  rw [Harmless] at h
  generalize fs.failures = failures at h ⊢
  induction failures with
  | nil => rfl
  | cons f failures ih =>
      obtain ⟨hwrite, q, hq, hplace⟩ := h f (by simp)
      have hnot : f.applies op loc = false := by
        rw [Failure.applies]
        by_cases hop' : op = .write
        · have hne : q ≠ loc := by
            rintro rfl
            exact hop hop' hq
          simp [hplace, hne]
        · simp [hwrite, Ne.symm hop']
      rw [Failure.take, hnot]
      exact ih fun f' hf' => h f' (by simp [hf'])

/-- Such operations are performed. -/
lemma Harmless.attempt_eq (h : fs.Harmless D) {op : Operation}
    (hop : op = .write → ¬ D (Path.resolve path)) (target : Option Bytes)
    (action : FileSystem → Except Errno α × FileSystem) :
    attempt op path target action fs
      = ((action fs).1.mapError fun errno => ⟨op, path, target, errno⟩, (action fs).2) :=
  attempt_of_clear (h.take_eq_none hop) target action

/-- Failures that are met concern the same operations and places as before. -/
lemma Harmless.take (h : fs.Harmless D) (op : Operation) (loc : Location) :
    Harmless D { fs with failures := (Failure.take op loc fs.failures).2 } :=
  Failure.forall_mem_take (fun _ hf => hf) h op loc

lemma Harmless.attempt (h : fs.Harmless D) {action : FileSystem → Except Errno α × FileSystem}
    (haction : (action fs).2.failures = fs.failures) (op : Operation) (path : Bytes)
    (target : Option Bytes) : (attempt op path target action fs).2.Harmless D := by
  have htaken := h.take op (Path.resolve path)
  rw [FileSystem.attempt]
  generalize Failure.take op (Path.resolve path) fs.failures = taken at htaken ⊢
  obtain ⟨found, failures⟩ := taken
  cases found with
  | some errno => exact htaken
  | none =>
      dsimp only
      generalize action fs = x at haction ⊢
      obtain ⟨r, fs'⟩ := x
      cases r <;> exact h.of_failures_eq haction

lemma Harmless.append (h : fs.Harmless D) (content : Bytes) : (fs.append content).Harmless D := by
  rw [FileSystem.append]
  split
  · exact h
  · apply h.attempt
    split
    · rfl
    · split
      · rfl
      · exact failures_setContent fs _ _

/-! ### Single file systems -/

lemma get?_of_locate {x : Entry} (h : fs.locate path = .ok x) :
    fs.get? (Path.resolve path) = some x := by
  rw [locate] at h
  split_ifs at h
  split at h
  · exact absurd h (by simp)
  · split at h
    · exact absurd h (by simp)
    · rename_i hget
      rw [hget, Except.ok.inj h]

/-- A file at `loc` has been made ready for writing. -/
structure Prepared (loc : Location) (fs fs' : FileSystem) : Prop where
  before : fs.get? loc ≠ some .directory
  after : fs'.get? loc ≠ some .directory
  other : ∀ q, q ≠ loc → fs'.get? q = fs.get? q
  failures : fs'.failures = fs.failures

lemma prepared_put (h : fs.get? loc ≠ some .directory) (m : Nat) (c : Bytes) :
    Prepared loc fs (fs.put loc (.file m c)) where
  before := h
  after := by rw [get?_put_self (ne_nil_of_get? h)]; simp
  other := fun q hq => get?_put_of_ne hq _
  failures := rfl

lemma prepared_cases (fs : FileSystem) (mode : Nat) (keep : Bool) (path : Bytes) :
    (∃ errno, fs.prepare mode keep path = (.error errno, fs))
      ∨ ∃ fs', fs.prepare mode keep path = (.ok (Path.resolve path), fs')
        ∧ Prepared (Path.resolve path) fs fs' := by
  rw [prepare]
  by_cases hpath : path = []
  · rw [if_pos hpath]
    exact .inl ⟨_, rfl⟩
  · rw [if_neg hpath]
    dsimp only
    cases hentry : fs.get? (Path.resolve path) with
    | none =>
        dsimp only
        cases fs.obstacle? (Path.resolve path) with
        | none => exact .inr ⟨_, rfl, prepared_put (by simp [hentry]) mode []⟩
        | some errno => exact .inl ⟨_, rfl⟩
    | some e =>
        cases e with
        | directory => exact .inl ⟨_, rfl⟩
        | file m c =>
            have hfile : fs.get? (Path.resolve path) ≠ some .directory := by simp [hentry]
            cases keep with
            | true => exact .inr ⟨fs, rfl, hfile, hfile, fun _ _ => rfl, rfl⟩
            | false => exact .inr ⟨_, rfl, prepared_put hfile m []⟩

/-- Where nothing is in the way, a file can be made ready. -/
lemma exists_prepared (hpath : path ≠ []) (hentry : fs.get? (Path.resolve path) ≠ some .directory)
    (hway : fs.obstacle? (Path.resolve path) = none) (mode : Nat) (keep : Bool) :
    ∃ fs', fs.prepare mode keep path = (.ok (Path.resolve path), fs') := by
  rw [prepare, if_neg hpath]
  dsimp only
  rw [hway]
  generalize fs.get? (Path.resolve path) = e at hentry ⊢
  cases e with
  | none => exact ⟨_, rfl⟩
  | some e =>
      cases e with
      | directory => exact absurd rfl hentry
      | file m c => exact ⟨_, rfl⟩

lemma appender_append (fs : FileSystem) (content : Bytes) :
    (fs.append content).appender = fs.appender := by
  rw [append]
  cases happender : fs.appender with
  | none => exact happender
  | some a =>
      dsimp only
      obtain ⟨errno, fs', hspent, heq⟩ | heq := attempt_cases .write a.path none _ fs
      · rw [heq]
        exact hspent.appender_eq.trans happender
      · rw [heq]
        split
        · exact happender
        · split
          · exact happender
          · exact (appender_setContent fs _ _).trans happender

lemma get?_setContent_append {m : Nat} {old : Bytes} (h : fs.file? loc = some (m, old))
    (content : Bytes) (q : Location) : (fs.setContent loc (old ++ content)).get? q
      = if q = loc then (fs.get? q).map (Entry.extend content) else fs.get? q := by
  have hget : fs.get? loc = some (.file m old) := by
    rw [file?] at h
    split at h
    · rename_i hget
      rw [hget]
      simp_all
    · exact absurd h (by simp)
  have hne : fs.get? loc ≠ some .directory := by simp [hget]
  have hroot := ne_nil_of_get? hne
  rw [setContent, h]
  dsimp only
  split_ifs with hq
  · rw [hq, get?_put_self hroot, hget]
    rfl
  · exact get?_put_of_ne hq _

/-- What stands at each place when something has been added to the file held open. -/
def extended (fs : FileSystem) (content : Bytes) (q : Location) : Option Entry :=
  if ∃ a ∈ fs.appender, a.place = some q then (fs.get? q).map (Entry.extend content)
  else fs.get? q

/-- Adding to the file held open does so if no failure is met. -/
lemma get?_append_of_take (h : ∀ a ∈ fs.appender,
      (Failure.take .write (Path.resolve a.path) fs.failures).1 = none) (content : Bytes)
    (q : Location) : (fs.append content).get? q = fs.extended content q := by
  rw [append, extended]
  cases happender : fs.appender with
  | none => simp
  | some a =>
      have hnone := h a happender
      dsimp only
      rw [attempt]
      generalize Failure.take .write (Path.resolve a.path) fs.failures = taken at hnone ⊢
      obtain ⟨found, failures⟩ := taken
      obtain rfl : found = none := hnone
      cases hplace : a.place with
      | none => simp [hplace]
      | some loc =>
          have hiff : (∃ a' ∈ some a, a'.place = some q) ↔ q = loc := by
            simp [hplace, eq_comm]
          simp only [hiff]
          cases hfile : fs.file? loc with
          | some x => exact get?_setContent_append hfile content q
          | none =>
              dsimp only
              split_ifs with hq
              · subst hq
                rw [file?] at hfile
                cases hget : fs.get? q with
                | none => rfl
                | some x =>
                    cases x with
                    | file m c => simp [hget] at hfile
                    | directory => rfl
              · rfl

/-- Something is added, or a failure is met and nothing changes. -/
lemma append_cases (fs : FileSystem) (content : Bytes) :
    (∀ q, (fs.append content).get? q = fs.get? q)
      ∨ ∀ q, (fs.append content).get? q = fs.extended content q := by
  by_cases hnone : ∀ a ∈ fs.appender,
      (Failure.take .write (Path.resolve a.path) fs.failures).1 = none
  · exact .inr (get?_append_of_take hnone content)
  · refine .inl fun q => ?_
    push Not at hnone
    obtain ⟨a, ha, hne⟩ := hnone
    obtain ⟨errno, herrno⟩ := Option.ne_none_iff_exists'.mp hne
    rw [append, show fs.appender = some a from ha]
    dsimp only
    rw [attempt]
    generalize Failure.take .write (Path.resolve a.path) fs.failures = taken at herrno ⊢
    obtain ⟨found, failures⟩ := taken
    obtain rfl : found = some errno := herrno
    rfl

lemma Harmless.get?_append (h : fs.Harmless D)
    (hpath : ∀ a ∈ fs.appender, ¬ D (Path.resolve a.path)) (content : Bytes) (q : Location) :
    (fs.append content).get? q = fs.extended content q :=
  get?_append_of_take (fun a ha => h.take_eq_none fun _ => hpath a ha) content q

/-! ### Both file systems -/

/-- Two file systems are alike at every place.  The file held open is in each of them
at a place with `D`, or it is the same in both and writing to it does not fail. -/
structure Parallel (D : Location → Prop) (T : Location → Bytes → Prop) (fs fs' : FileSystem) :
    Prop where
  harmless : fs.Harmless D
  harmless' : fs'.Harmless D
  entry : ∀ q, Twin D T q (fs.get? q) (fs'.get? q)
  appender : (fs.AppendsTo D ∧ fs'.AppendsTo D)
    ∨ fs'.appender = fs.appender ∧ ∀ a ∈ fs.appender, ¬ D (Path.resolve a.path)

/-- Where no failures are due and no file is held open, files that differ are the places
with `D`. -/
lemma parallel_of_differing (hfs : fs.failures = []) (hfs' : fs'.failures = [])
    (happender : fs.appender = none) (happender' : fs'.appender = none)
    (hfiles : ∀ q, fs'.get? q ≠ fs.get? q →
      fs.get? q ≠ some .directory ∧ fs'.get? q ≠ some .directory) :
    Parallel (fun q => fs'.get? q ≠ fs.get? q) T fs fs' where
  harmless := harmless_of_nil hfs
  harmless' := harmless_of_nil hfs'
  entry := by
    intro q
    by_cases hq : fs'.get? q = fs.get? q
    · rw [hq]
      exact .same _
    · exact .apart hq (hfiles q hq).1 (hfiles q hq).2
  appender := .inr ⟨happender'.trans happender.symm, by simp [happender]⟩

namespace Parallel

/-- Where no failures are due, files are alike with themselves. -/
lemma refl (h : fs.failures = []) : Parallel (fun _ => False) T fs fs where
  harmless := harmless_of_nil h
  harmless' := harmless_of_nil h
  entry := fun _ => .same _
  appender := .inr ⟨rfl, fun _ _ => id⟩

lemma symm (h : Parallel D T fs fs') : Parallel D T fs' fs where
  harmless := h.harmless'
  harmless' := h.harmless
  entry := fun q => (h.entry q).symm
  appender := by
    obtain ⟨happender, happender'⟩ | ⟨heq, hpath⟩ := h.appender
    · exact .inl ⟨happender', happender⟩
    · exact .inr ⟨heq.symm, by rw [heq]; exact hpath⟩

lemma mono (h : Parallel D T fs fs') {T' : Location → Bytes → Prop}
    (hT : ∀ q c, T q c → T' q c) : Parallel D T' fs fs' where
  harmless := h.harmless
  harmless' := h.harmless'
  entry := fun q => (h.entry q).mono hT
  appender := h.appender

/-- More places may be left out of account, if the file held open is at one of them. -/
lemma widen (h : Parallel D T fs fs') {D' : Location → Prop} (hD : ∀ q, D q → D' q)
    (hheld : fs.AppendsTo D') (hheld' : fs'.AppendsTo D') : Parallel D' T fs fs' where
  harmless := fun f hf => (h.harmless f hf).imp_right fun ⟨q, hq, hplace⟩ => ⟨q, hD q hq, hplace⟩
  harmless' := fun f hf =>
    (h.harmless' f hf).imp_right fun ⟨q, hq, hplace⟩ => ⟨q, hD q hq, hplace⟩
  entry := fun q => (h.entry q).widen (hD q)
  appender := .inl ⟨hheld, hheld'⟩

/-- Where no place with `D` is on the way, the same is. -/
lemma obstacle?_eq (h : Parallel D T fs fs') (hway : ∀ q ∈ Path.parents loc, ¬ D q) :
    fs'.obstacle? loc = fs.obstacle? loc :=
  obstacle?_congr fun q hq => (h.entry q).isDirectory_eq (hway q hq)

/-- What is in the way in one file system is so in the other, if perhaps in another
way. -/
lemma obstacle?_ne_none (h : Parallel D T fs fs') (hway : fs.obstacle? loc ≠ none) :
    fs'.obstacle? loc ≠ none := by
  intro hnone
  refine hway (obstacle?_eq_none_iff.mpr fun q hq => ?_)
  exact (h.entry q).symm.directory (obstacle?_eq_none_iff.mp hnone q hq)

/-- Nothing is in the way in both, or something is in both; it is the same where no place
with `D` is on the way. -/
lemma obstacle?_cases (h : Parallel D T fs fs') (loc : Location) :
    (fs.obstacle? loc = none ∧ fs'.obstacle? loc = none)
      ∨ ∃ errno errno', fs.obstacle? loc = some errno ∧ fs'.obstacle? loc = some errno'
        ∧ ((∀ q ∈ Path.parents loc, ¬ D q) → errno' = errno) := by
  cases hway : fs.obstacle? loc with
  | none =>
      refine .inl ⟨rfl, ?_⟩
      by_contra hne
      exact h.symm.obstacle?_ne_none hne hway
  | some errno =>
      have hne : fs.obstacle? loc ≠ none := by simp [hway]
      obtain ⟨errno', hway'⟩ := Option.ne_none_iff_exists'.mp (h.obstacle?_ne_none hne)
      refine .inr ⟨errno, errno', rfl, hway', fun hclear => ?_⟩
      rw [h.obstacle?_eq hclear, hway] at hway'
      exact (Option.some.inj hway').symm

/-- A path leads nowhere in both, or to entries that are alike. -/
lemma locate_cases (h : Parallel D T fs fs') (hpath : ¬ D (Path.resolve path)) :
    (∃ errno errno', fs.locate path = .error errno ∧ fs'.locate path = .error errno'
        ∧ ((∀ q ∈ Path.parents (Path.resolve path), ¬ D q) → errno' = errno))
      ∨ ∃ x x', fs.locate path = .ok x ∧ fs'.locate path = .ok x'
        ∧ Twin D T (Path.resolve path) (some x) (some x') := by
  have hentry := h.entry (Path.resolve path)
  have hmissing := hentry.eq_none_iff hpath
  rw [locate, locate]
  split_ifs
  · exact .inl ⟨_, _, rfl, rfl, fun _ => rfl⟩
  · obtain ⟨hway, hway'⟩ | ⟨errno, errno', hway, hway', herrno⟩ :=
      h.obstacle?_cases (Path.resolve path)
    · rw [hway, hway']
      cases hget : fs.get? (Path.resolve path) with
      | none =>
          rw [hmissing.mpr hget]
          exact .inl ⟨_, _, rfl, rfl, fun _ => rfl⟩
      | some x =>
          have hne : fs'.get? (Path.resolve path) ≠ none :=
            fun hnone => by simp [hmissing.mp hnone] at hget
          obtain ⟨x', hget'⟩ := Option.ne_none_iff_exists'.mp hne
          rw [hget, hget'] at hentry
          rw [hget']
          exact .inr ⟨x, x', rfl, rfl, hentry⟩
    · rw [hway, hway']
      exact .inl ⟨errno, errno', rfl, rfl, herrno⟩

/-! ### Reading -/

/-- **Reading** fails in both or gives the same text, or that of the log. -/
lemma read_cases (h : Parallel D T fs fs') (hpath : ¬ D (Path.resolve path)) :
    (∃ e e', fs.read path = (.error e, fs) ∧ fs'.read path = (.error e', fs')
        ∧ ((∀ q ∈ Path.parents (Path.resolve path), ¬ D q) → e' = e))
      ∨ (∃ c, fs.read path = (.ok c, fs) ∧ fs'.read path = (.ok c, fs'))
      ∨ ∃ c x x', T (Path.resolve path) c ∧ fs.read path = (.ok (c ++ x), fs)
        ∧ fs'.read path = (.ok (c ++ x'), fs') := by
  rw [read, read, h.harmless.attempt_eq (by simp), h.harmless'.attempt_eq (by simp)]
  dsimp only
  obtain ⟨errno, errno', hlocate, hlocate', herrno⟩ | ⟨x, x', hlocate, hlocate', htwin⟩ :=
    h.locate_cases hpath
  · rw [hlocate, hlocate']
    exact .inl ⟨_, _, rfl, rfl, fun hclear => by rw [herrno hclear]⟩
  · rw [hlocate, hlocate']
    simp only [Except.mapError]
    rw [h.harmless.attempt_eq (by simp), h.harmless'.attempt_eq (by simp)]
    cases htwin with
    | same e =>
        cases x with
        | directory => exact .inl ⟨_, _, rfl, rfl, fun _ => rfl⟩
        | file m c => exact .inr (.inl ⟨c, rfl, rfl⟩)
    | apart h he he' => exact absurd h hpath
    | logged h m y y' => exact .inr (.inr ⟨_, y, y', h, rfl, rfl⟩)

/-! ### Entries that are put, erased and made -/

/-- The same entry may be put at one place in both. -/
lemma put (h : Parallel D T fs fs') (loc : Location) (e : Entry) :
    Parallel D T (fs.put loc e) (fs'.put loc e) where
  harmless := h.harmless
  harmless' := h.harmless'
  entry := by
    intro q
    rw [get?_put, get?_put]
    split_ifs
    · exact .same _
    · exact h.entry q
  appender := h.appender

lemma erase (h : Parallel D T fs fs') (loc : Location) :
    Parallel D T (fs.erase loc) (fs'.erase loc) where
  harmless := h.harmless
  harmless' := h.harmless'
  entry := by
    intro q
    rw [get?_erase, get?_erase]
    split_ifs
    · exact .same _
    · exact h.entry q
  appender := h.appender

lemma fill (h : Parallel D T fs fs') {places : List Location} (hplaces : ∀ q ∈ places, ¬ D q) :
    Parallel D T (fs.fill places) (fs'.fill places) where
  harmless := h.harmless.of_failures_eq (confined_fill fs places).failures
  harmless' := h.harmless'.of_failures_eq (confined_fill fs' places).failures
  entry := by
    intro q
    rw [get?_fill, get?_fill]
    by_cases hq : q ∈ places
    · simp only [hq, true_and, (h.entry q).eq_none_iff (hplaces q hq)]
      split_ifs
      · exact .same _
      · exact h.entry q
    · simp only [hq, false_and, if_false]
      exact h.entry q
  appender := by
    rw [AppendsTo, AppendsTo, (confined_fill fs places).appender,
      (confined_fill fs' places).appender]
    exact h.appender

/-- The file held open may change in both alike. -/
lemma withAppender (h : Parallel D T fs fs') {f : Appender → Appender}
    (hpath : ∀ a, (f a).path = a.path) (hplace : ∀ a, (∀ p ∈ a.place, D p) →
      ∀ p ∈ (f a).place, D p) :
    Parallel D T { fs with appender := fs.appender.map f }
      { fs' with appender := fs'.appender.map f } where
  harmless := h.harmless
  harmless' := h.harmless'
  entry := h.entry
  appender := by
    have hmap {fs : FileSystem} (happender : fs.AppendsTo D) :
        ∀ a ∈ fs.appender.map f, ∀ p ∈ a.place, D p := by
      intro a ha
      obtain ⟨a₀, ha₀, rfl⟩ := Option.map_eq_some_iff.mp ha
      exact hplace a₀ (happender a₀ ha₀)
    obtain ⟨happender, happender'⟩ | ⟨heq, hresolve⟩ := h.appender
    · exact .inl ⟨hmap happender, hmap happender'⟩
    · refine .inr ⟨congrArg (Option.map f) heq, fun a ha => ?_⟩
      obtain ⟨a₀, ha₀, rfl⟩ := Option.map_eq_some_iff.mp ha
      rw [hpath]
      exact hresolve a₀ ha₀

lemma isSome_file? (h : Parallel D T fs fs') (hq : ¬ D q) :
    (fs'.file? q).isSome = (fs.file? q).isSome := by
  have hentry := h.entry q
  rw [file?, file?]
  generalize fs.get? q = e at hentry ⊢
  generalize fs'.get? q = e' at hentry ⊢
  cases hentry with
  | same e => rfl
  | apart h he he' => exact absurd h hq
  | logged h m x x' => rfl

/-- Making directories has the same result in both where no place with `D` is among
them. -/
lemma makeDirectories (h : Parallel D T fs fs')
    (hpath : ∀ q ∈ Path.prefixes (Path.resolve path), ¬ D q) :
    (fs'.makeDirectories path).1 = (fs.makeDirectories path).1
      ∧ Parallel D T (fs.makeDirectories path).2 (fs'.makeDirectories path).2 := by
  have hany : ((Path.prefixes (Path.resolve path)).any fun q => (fs'.file? q).isSome)
      = (Path.prefixes (Path.resolve path)).any fun q => (fs.file? q).isSome := by
    rw [Bool.eq_iff_iff, List.any_eq_true, List.any_eq_true]
    exact exists_congr fun q => and_congr_right fun hq => by rw [h.isSome_file? (hpath q hq)]
  rw [FileSystem.makeDirectories, FileSystem.makeDirectories, h.harmless.attempt_eq (by simp),
    h.harmless'.attempt_eq (by simp)]
  dsimp only
  rw [hany]
  split_ifs
  · exact ⟨rfl, h⟩
  · exact ⟨rfl, h⟩
  · exact ⟨rfl, h.fill hpath⟩

/-! ### Writing -/

/-- Making a file ready for writing fails in both, or leaves the same empty file in both,
or keeps the files that are there. -/
lemma prepare_cases (h : Parallel D T fs fs') (hpath : ¬ D (Path.resolve path)) (mode : Nat)
    (keep : Bool) :
    (∃ errno errno', fs.prepare mode keep path = (.error errno, fs)
        ∧ fs'.prepare mode keep path = (.error errno', fs')
        ∧ ((∀ q ∈ Path.parents (Path.resolve path), ¬ D q) → errno' = errno))
      ∨ Path.resolve path ≠ []
        ∧ ((∃ m, fs.prepare mode keep path
              = (.ok (Path.resolve path), fs.put (Path.resolve path) (.file m []))
            ∧ fs'.prepare mode keep path
              = (.ok (Path.resolve path), fs'.put (Path.resolve path) (.file m [])))
          ∨ keep = true ∧ fs.prepare mode keep path = (.ok (Path.resolve path), fs)
            ∧ fs'.prepare mode keep path = (.ok (Path.resolve path), fs')
            ∧ ∃ m c m' c', fs.get? (Path.resolve path) = some (.file m c)
              ∧ fs'.get? (Path.resolve path) = some (.file m' c')) := by
  have hentry := h.entry (Path.resolve path)
  have hroot {x : Option Entry} (hget : fs.get? (Path.resolve path) = x)
      (hx : x ≠ some .directory) : Path.resolve path ≠ [] :=
    ne_nil_of_get? (by rw [hget]; exact hx)
  rw [prepare, prepare]
  by_cases hempty : path = []
  · rw [if_pos hempty, if_pos hempty]
    exact .inl ⟨_, _, rfl, rfl, fun _ => rfl⟩
  · rw [if_neg hempty, if_neg hempty]
    dsimp only
    generalize hget : fs.get? (Path.resolve path) = e at hentry ⊢
    generalize fs'.get? (Path.resolve path) = e' at hentry ⊢
    cases hentry with
    | apart h he he' => exact absurd h hpath
    | logged hT m x x' =>
        refine .inr ⟨hroot hget (by simp), ?_⟩
        cases keep with
        | false => exact .inl ⟨m, rfl, rfl⟩
        | true => exact .inr ⟨rfl, rfl, rfl, _, _, _, _, rfl, rfl⟩
    | same e =>
        cases e with
        | none =>
            dsimp only
            obtain ⟨hway, hway'⟩ | ⟨errno, errno', hway, hway', herrno⟩ :=
              h.obstacle?_cases (Path.resolve path)
            · rw [hway, hway']
              exact .inr ⟨hroot hget (by simp), .inl ⟨mode, rfl, rfl⟩⟩
            · rw [hway, hway']
              exact .inl ⟨errno, errno', rfl, rfl, herrno⟩
        | some x =>
            cases x with
            | directory => exact .inl ⟨_, _, rfl, rfl, fun _ => rfl⟩
            | file m c =>
                refine .inr ⟨hroot hget (by simp), ?_⟩
                cases keep with
                | false => exact .inl ⟨m, rfl, rfl⟩
                | true => exact .inr ⟨rfl, rfl, rfl, _, _, _, _, rfl, rfl⟩

/-- **Writing** a file fails in both, since it cannot be made ready, or leaves the same
file in both. -/
lemma write_cases (h : Parallel D T fs fs') (hpath : ¬ D (Path.resolve path)) (mode : Nat)
    (content : Bytes) :
    (∃ errno errno', fs.write mode path content = (.error ⟨.openToWrite, path, none, errno⟩, fs)
        ∧ fs'.write mode path content = (.error ⟨.openToWrite, path, none, errno'⟩, fs')
        ∧ ((∀ q ∈ Path.parents (Path.resolve path), ¬ D q) → errno' = errno))
      ∨ ∃ fs₁ fs₁' m, fs.write mode path content = (.ok (), fs₁)
        ∧ fs'.write mode path content = (.ok (), fs₁') ∧ Parallel D T fs₁ fs₁'
        ∧ fs₁.get? (Path.resolve path) = some (.file m content)
        ∧ fs₁'.get? (Path.resolve path) = some (.file m content) := by
  rw [write, write, h.harmless.attempt_eq (by simp), h.harmless'.attempt_eq (by simp)]
  obtain ⟨errno, errno', hprepare, hprepare', herrno⟩ | ⟨hroot, ⟨m, hprepare, hprepare'⟩ | hkeep⟩ :=
    h.prepare_cases hpath mode false
  · rw [hprepare, hprepare']
    exact .inl ⟨errno, errno', rfl, rfl, herrno⟩
  · have hput := h.put (Path.resolve path) (.file m [])
    rw [hprepare, hprepare']
    simp only [Except.mapError]
    rw [hput.harmless.attempt_eq (fun _ => hpath), hput.harmless'.attempt_eq (fun _ => hpath),
      setContent, setContent, file?_of_get? (get?_put_self hroot _),
      file?_of_get? (get?_put_self hroot _)]
    exact .inr ⟨_, _, m, rfl, rfl, hput.put _ _, get?_put_self hroot _, get?_put_self hroot _⟩
  · exact absurd hkeep.1 (by simp)

/-- Opening a file for appending fails in both, or holds it open in both. -/
lemma openAppender_cases (h : Parallel D T fs fs') (hpath : ¬ D (Path.resolve path))
    (mode : Nat) :
    (∃ e e', fs.openAppender mode path = (.error e, fs)
        ∧ fs'.openAppender mode path = (.error e', fs'))
      ∨ ∃ fs₁ fs₁' m c m' c', fs.openAppender mode path = (.ok (), fs₁)
        ∧ fs'.openAppender mode path = (.ok (), fs₁') ∧ Parallel D T fs₁ fs₁'
        ∧ fs₁.appender = some ⟨path, some (Path.resolve path)⟩
        ∧ fs₁'.appender = some ⟨path, some (Path.resolve path)⟩
        ∧ fs₁.get? (Path.resolve path) = some (.file m c)
        ∧ fs₁'.get? (Path.resolve path) = some (.file m' c') := by
  have hheld {fs fs' : FileSystem} (h : Parallel D T fs fs') : Parallel D T
      { fs with appender := some ⟨path, some (Path.resolve path)⟩ }
      { fs' with appender := some ⟨path, some (Path.resolve path)⟩ } :=
    ⟨h.harmless, h.harmless', h.entry, .inr ⟨rfl, by rintro a ⟨⟩; exact hpath⟩⟩
  rw [openAppender, openAppender, h.harmless.attempt_eq (by simp),
    h.harmless'.attempt_eq (by simp)]
  obtain ⟨errno, errno', hprepare, hprepare', -⟩ | ⟨hroot, ⟨m, hprepare, hprepare'⟩
      | ⟨-, hprepare, hprepare', m, c, m', c', hget, hget'⟩⟩ := h.prepare_cases hpath mode true
  · rw [hprepare, hprepare']
    exact .inl ⟨_, _, rfl, rfl⟩
  · rw [hprepare, hprepare']
    exact .inr ⟨_, _, m, [], m, [], rfl, rfl, hheld (h.put _ _), rfl, rfl,
      get?_put_self hroot _, get?_put_self hroot _⟩
  · rw [hprepare, hprepare']
    exact .inr ⟨_, _, m, c, m', c', rfl, rfl, hheld h, rfl, rfl, hget, hget'⟩

/-- Opening a file for appending on one side only, at a place with `D`. -/
lemma openAppender_left (h : Parallel D T fs fs') (hpath : D (Path.resolve path))
    (hheld : fs'.AppendsTo D) (mode : Nat) :
    Parallel D T (fs.openAppender mode path).2 fs' := by
  rw [openAppender, h.harmless.attempt_eq (by simp)]
  obtain ⟨errno, hprepare⟩ | ⟨fs₁, hprepare, hready⟩ := prepared_cases fs mode true path
  · rw [hprepare]
    exact h
  · rw [hprepare]
    refine ⟨h.harmless.of_failures_eq hready.failures, h.harmless', fun q => ?_, .inl ⟨?_, hheld⟩⟩
    · change Twin D T q (fs₁.get? q) (fs'.get? q)
      by_cases hq : q = Path.resolve path
      · subst hq
        exact .apart hpath hready.after fun hdirectory =>
          hready.before ((h.entry _).symm.directory hdirectory)
      · rw [hready.other q hq]
        exact h.entry q
    · rintro a ⟨⟩ p hp
      exact Option.some.inj hp ▸ hpath

/-- Opening a file for appending at a place with `D` at which nothing is in the way. -/
lemma openAppender_apart (h : Parallel D T fs fs') (hpath : path ≠ [])
    (hplace : D (Path.resolve path)) (hentry : fs.get? (Path.resolve path) ≠ some .directory)
    (hway : fs.obstacle? (Path.resolve path) = none) (hheld' : fs'.AppendsTo D) (mode : Nat) :
    ∃ fs₁ fs₁', fs.openAppender mode path = (.ok (), fs₁)
      ∧ fs'.openAppender mode path = (.ok (), fs₁') ∧ Parallel D T fs₁ fs₁'
      ∧ fs₁.appender = some ⟨path, some (Path.resolve path)⟩
      ∧ fs₁'.appender = some ⟨path, some (Path.resolve path)⟩ := by
  have hentry' : fs'.get? (Path.resolve path) ≠ some .directory :=
    fun hdirectory => hentry ((h.entry _).symm.directory hdirectory)
  have hway' : fs'.obstacle? (Path.resolve path) = none := by
    obtain ⟨-, hway'⟩ | ⟨errno, -, hsome, -⟩ := h.obstacle?_cases (Path.resolve path)
    · exact hway'
    · exact absurd (hway.symm.trans hsome) (by simp)
  have hopen {fs : FileSystem} (h : fs.Harmless D)
      (hprepare : ∃ fs₁, fs.prepare mode true path = (.ok (Path.resolve path), fs₁)) :
      ∃ fs₁, fs.openAppender mode path = (.ok (), fs₁)
        ∧ fs₁.appender = some ⟨path, some (Path.resolve path)⟩ := by
    obtain ⟨fs₁, hprepare⟩ := hprepare
    rw [openAppender, h.attempt_eq (by simp), hprepare]
    exact ⟨_, rfl, rfl⟩
  obtain ⟨fs₁, hopened, hheld₁⟩ :=
    hopen h.harmless (exists_prepared hpath hentry hway mode true)
  obtain ⟨fs₁', hopened', hheld₁'⟩ :=
    hopen h.harmless' (exists_prepared hpath hentry' hway' mode true)
  have hleft := h.openAppender_left hplace hheld' mode
  rw [hopened] at hleft
  have hboth := hleft.symm.openAppender_left hplace (by
    rintro a ha p hp
    rw [hheld₁] at ha
    obtain rfl := Option.some.inj ha
    exact Option.some.inj hp ▸ hplace) mode
  rw [hopened'] at hboth
  exact ⟨fs₁, fs₁', hopened, hopened', hboth.symm, hheld₁, hheld₁'⟩

/-! ### Moving and removing -/

/-- **Moving** a file that is the same in both fails in both or moves it in both. -/
lemma rename_cases (h : Parallel D T fs fs') {source target : Bytes}
    (hsource : ¬ D (Path.resolve source)) (htarget : ¬ D (Path.resolve target))
    (hway : ∀ q ∈ Path.parents (Path.resolve source), ¬ D q)
    (hway' : ∀ q ∈ Path.parents (Path.resolve target), ¬ D q)
    (heq : fs'.get? (Path.resolve source) = fs.get? (Path.resolve source)) :
    (∃ e, fs.rename source target = (.error e, fs) ∧ fs'.rename source target = (.error e, fs'))
      ∨ ∃ fs₁ fs₁', fs.rename source target = (.ok (), fs₁)
        ∧ fs'.rename source target = (.ok (), fs₁') ∧ Parallel D T fs₁ fs₁' := by
  have hlocate : fs'.locate source = fs.locate source := by
    rw [locate, locate, h.obstacle?_eq hway, heq]
  have htwin := h.entry (Path.resolve target)
  rw [rename, rename, h.harmless.attempt_eq (by simp), h.harmless'.attempt_eq (by simp)]
  dsimp only
  rw [hlocate, h.obstacle?_eq hway']
  cases fs.locate source with
  | error errno => exact .inl ⟨_, rfl, rfl⟩
  | ok x =>
      cases x with
      | directory => exact .inl ⟨_, rfl, rfl⟩
      | file m c =>
          have hmoved := ((h.erase (Path.resolve source)).put (Path.resolve target)
            (.file m c)).withAppender (f := follow (Path.resolve source) (Path.resolve target))
            (fun a => by rw [follow, detach]; split_ifs <;> rfl) (fun a ha p hp => by
              rw [follow, detach] at hp
              split_ifs at hp with hat
              · exact absurd (ha _ hat) hsource
              · exact absurd hp (by simp)
              · exact ha p hp)
          dsimp only
          cases fs.obstacle? (Path.resolve target) with
          | some errno => exact .inl ⟨_, rfl, rfl⟩
          | none =>
              generalize fs.get? (Path.resolve target) = e at htwin ⊢
              generalize fs'.get? (Path.resolve target) = e' at htwin ⊢
              cases htwin with
              | apart hD he he' => exact absurd hD htarget
              | logged hT m' x x' => exact .inr ⟨_, _, rfl, rfl, hmoved⟩
              | same e =>
                  cases e with
                  | none => exact .inr ⟨_, _, rfl, rfl, hmoved⟩
                  | some x =>
                      cases x with
                      | directory => exact .inl ⟨_, rfl, rfl⟩
                      | file m' c' => exact .inr ⟨_, _, rfl, rfl, hmoved⟩

/-- Directories are occupied in both or in none, where no place with `D` is in them. -/
lemma occupied_eq (h : Parallel D T fs fs') (hinside : ∀ n, ¬ D (loc ++ [n])) :
    fs'.occupied loc = fs.occupied loc := by
  rw [Bool.eq_iff_iff, occupied_iff, occupied_iff]
  exact exists_congr fun n => not_congr ((h.entry _).eq_none_iff (hinside n))

/-- Removing has the same result in both. -/
lemma remove (h : Parallel D T fs fs') (hpath : ¬ D (Path.resolve path))
    (hway : ∀ q ∈ Path.parents (Path.resolve path), ¬ D q)
    (hinside : fs.get? (Path.resolve path) = some .directory →
      ∀ n, ¬ D (Path.resolve path ++ [n])) :
    (fs'.remove path).1 = (fs.remove path).1
      ∧ Parallel D T (fs.remove path).2 (fs'.remove path).2 := by
  have hdetached := (h.erase (Path.resolve path)).withAppender
    (f := detach (Path.resolve path))
    (fun a => by rw [detach]; split_ifs <;> rfl) (fun a ha p hp => by
      rw [detach] at hp
      split_ifs at hp with hat
      · exact absurd hp (by simp)
      · exact ha p hp)
  rw [FileSystem.remove, FileSystem.remove, h.harmless.attempt_eq (by simp),
    h.harmless'.attempt_eq (by simp)]
  dsimp only
  obtain ⟨errno, errno', hlocate, hlocate', herrno⟩ | ⟨x, x', hlocate, hlocate', htwin⟩ :=
    h.locate_cases hpath
  · rw [hlocate, hlocate', herrno hway]
    exact ⟨rfl, h⟩
  · rw [hlocate, hlocate']
    cases htwin with
    | apart hD he he' => exact absurd hD hpath
    | logged hT m y y' => exact ⟨rfl, hdetached⟩
    | same e =>
        cases x with
        | file m c => exact ⟨rfl, hdetached⟩
        | directory =>
            dsimp only
            rw [h.occupied_eq (hinside (get?_of_locate hlocate))]
            split_ifs
            · exact ⟨rfl, h⟩
            · exact ⟨rfl, h.erase _⟩

/-! ### Adding to the file held open -/

/-- What is added to the file held open is of no account: it is at a place with `D`, or
it is a log. -/
def Loose (D : Location → Prop) (T : Location → Bytes → Prop) (fs fs' : FileSystem) : Prop :=
  ∀ a ∈ fs.appender, ∀ q ∈ a.place, D q ∨ ∃ c m x x', T q c
    ∧ fs.get? q = some (.file m (c ++ x)) ∧ fs'.get? q = some (.file m (c ++ x'))

/-- Something may be added on one side only. -/
lemma append_left (h : Parallel D T fs fs') (hloose : Loose D T fs fs') (content : Bytes) :
    Parallel D T (fs.append content) fs' ∧ Loose D T (fs.append content) fs' := by
  have hheld : (fs.append content).AppendsTo D ∧ fs'.AppendsTo D
      ∨ fs'.appender = (fs.append content).appender
        ∧ ∀ a ∈ (fs.append content).appender, ¬ D (Path.resolve a.path) := by
    rw [AppendsTo, appender_append]
    exact h.appender
  obtain hsame | hextended := append_cases fs content
  · refine ⟨⟨h.harmless.append content, h.harmless', fun q => ?_, hheld⟩, fun a ha q hq => ?_⟩
    · rw [hsame]
      exact h.entry q
    · rw [appender_append] at ha
      rw [hsame]
      exact hloose a ha q hq
  · refine ⟨⟨h.harmless.append content, h.harmless', fun q => ?_, hheld⟩, fun a ha q hq => ?_⟩
    · rw [hextended, extended]
      split_ifs with hplace
      · obtain ⟨a, ha, hq⟩ := hplace
        obtain hD | ⟨c, m, x, x', hT, hget, hget'⟩ := hloose a ha q hq
        · exact (h.entry q).extend_left hD content
        · rw [hget, hget', Option.map_some, Entry.extend, List.append_assoc]
          exact .logged hT m (x ++ content) x'
      · exact h.entry q
    · rw [appender_append] at ha
      obtain hD | ⟨c, m, x, x', hT, hget, hget'⟩ := hloose a ha q hq
      · exact .inl hD
      · refine .inr ⟨c, m, x ++ content, x', hT, ?_, hget'⟩
        rw [hextended, extended, if_pos ⟨a, ha, hq⟩, hget, Option.map_some, Entry.extend,
          List.append_assoc]

/-- **The same** may be added to the file held open in both. -/
lemma append (h : Parallel D T fs fs') (content : Bytes) :
    Parallel D T (fs.append content) (fs'.append content) := by
  obtain ⟨happender, happender'⟩ | ⟨heq, hpath⟩ := h.appender
  · have hleft := (h.append_left (fun a ha q hq => .inl (happender a ha q hq)) content).1
    exact (hleft.symm.append_left (fun a ha q hq => .inl (happender' a ha q hq)) content).1.symm
  · refine ⟨h.harmless.append content, h.harmless'.append content, fun q => ?_, .inr ?_⟩
    · rw [h.harmless.get?_append hpath, h.harmless'.get?_append (by rwa [heq]), extended,
        extended, heq]
      split_ifs
      · exact (h.entry q).extend content
      · exact h.entry q
    · rw [appender_append, appender_append]
      exact ⟨heq, hpath⟩

end Parallel

end FileSystem

end RegisterMachine
