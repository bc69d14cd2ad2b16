/-
Operations on files one after another, whatever failures are due.

* `FileSystem.Spent`: nothing has happened but that failures were met;
* `FileSystem.attempt_cases`: an operation meets a failure or is performed;
* `Move`: a single operation that changes files;
* `Move.perform_cases`: **a move that fails changes no entry, and one that
  succeeds has its effect**; all else about moves is read off this;
* `Script`: moves one after another, each chosen by the results of those before;
  `Script.run` is what comes of them, and `Script.states` are the file systems
  on the way;
* `Script.within_of_mem_states`: on the way entries differ at most at the places
  that the moves are about;
* `Script.rooted_of_mem_states`: every entry stays inside a directory;
* `Script.writeFile`: writing a file as two moves.
-/
import RegisterMachine.Proofs.FileSystem.Operations

namespace RegisterMachine

/-- Meeting a failure keeps it in the list. -/
lemma Failure.length_take (op : Operation) (loc : Location) (failures : List Failure) :
    (take op loc failures).2.length = failures.length := by
  induction failures with
  | nil => rfl
  | cons f rest ih =>
      rw [take]
      split_ifs
      · rfl
      · exact congrArg (· + 1) ih

namespace FileSystem

variable {fs fs' fs'' : FileSystem} {loc p : Location} {path : Bytes}

/-! ### Failures that are met -/

/-- Nothing has happened but that failures were met. -/
def Spent (fs fs' : FileSystem) : Prop :=
  ∃ failures, failures.length = fs.failures.length ∧ fs' = { fs with failures }

lemma Spent.refl (fs : FileSystem) : Spent fs fs :=
  ⟨fs.failures, rfl, rfl⟩

lemma Spent.trans (h : Spent fs fs') (h' : Spent fs' fs'') : Spent fs fs'' := by
  obtain ⟨failures, hlength, rfl⟩ := h
  obtain ⟨failures', hlength', rfl⟩ := h'
  exact ⟨failures', hlength'.trans hlength, rfl⟩

lemma Spent.get?_eq (h : Spent fs fs') (p : Location) : fs'.get? p = fs.get? p := by
  obtain ⟨failures, -, rfl⟩ := h
  rfl

lemma Spent.appender_eq (h : Spent fs fs') : fs'.appender = fs.appender := by
  obtain ⟨failures, -, rfl⟩ := h
  rfl

lemma Spent.failures_eq_nil (h : Spent fs fs') (hfs : fs.failures = []) : fs'.failures = [] := by
  obtain ⟨failures, hlength, rfl⟩ := h
  rw [hfs] at hlength
  exact List.length_eq_zero_iff.mp hlength

/-- Where no failure is due nothing is spent. -/
lemma Spent.eq_of_nil (h : Spent fs fs') (hfs : fs.failures = []) : fs' = fs := by
  have hnil := h.failures_eq_nil hfs
  obtain ⟨failures, -, rfl⟩ := h
  obtain rfl : failures = fs.failures := hnil.trans hfs.symm
  rfl

/-- An operation meets a failure, or is performed. -/
lemma attempt_cases {α : Type} (op : Operation) (path : Bytes) (target : Option Bytes)
    (action : FileSystem → Except Errno α × FileSystem) (fs : FileSystem) :
    (∃ errno fs', Spent fs fs'
        ∧ attempt op path target action fs = (.error ⟨op, path, target, errno⟩, fs'))
      ∨ attempt op path target action fs
        = ((action fs).1.mapError fun errno => ⟨op, path, target, errno⟩, (action fs).2) := by
  have hlength := Failure.length_take op (Path.resolve path) fs.failures
  rw [attempt]
  generalize Failure.take op (Path.resolve path) fs.failures = taken at hlength ⊢
  obtain ⟨found, failures⟩ := taken
  cases found with
  | some errno => exact .inl ⟨errno, _, ⟨failures, hlength, rfl⟩, rfl⟩
  | none =>
      refine .inr ?_
      obtain ⟨result, fs'⟩ := action fs
      cases result <;> rfl

/-! ### Places -/

/-- Entries differ at most at the places with `P`. -/
def Within (P : Location → Prop) (fs fs' : FileSystem) : Prop :=
  ∀ p, ¬ P p → fs'.get? p = fs.get? p

variable {P Q : Location → Prop}

lemma Spent.within (h : Spent fs fs') : Within P fs fs' :=
  fun p _ => h.get?_eq p

lemma Within.refl (fs : FileSystem) : Within P fs fs :=
  fun _ _ => rfl

lemma Within.trans (h : Within P fs fs') (h' : Within P fs' fs'') : Within P fs fs'' :=
  fun p hp => (h' p hp).trans (h p hp)

lemma Within.mono (h : Within P fs fs') (hsub : ∀ p, P p → Q p) : Within Q fs fs' :=
  fun p hp => h p fun hP => hp (hsub p hP)

lemma obstacle?_eq_none_iff :
    fs.obstacle? loc = none ↔ ∀ q ∈ Path.parents loc, fs.get? q = some .directory := by
  rw [obstacle?, List.findSome?_eq_none_iff]
  refine forall₂_congr fun q _ => ?_
  split <;> simp_all

/-! ### Entries inside directories -/

/-- Every entry stands inside a directory. -/
def Rooted (fs : FileSystem) : Prop :=
  ∀ p, fs.get? p ≠ none → ∀ q ∈ Path.parents p, fs.get? q = some .directory

/-- It is enough to look at the entries that are listed. -/
lemma rooted_of_entries
    (h : ∀ e ∈ fs.entries, ∀ q ∈ Path.parents e.1, fs.get? q = some .directory) : fs.Rooted := by
  intro p hp q hq
  by_cases hnil : p = []
  · rw [hnil] at hq
    exact absurd hq (by simp [Path.parents, Path.prefixes])
  · rw [get?, if_neg hnil, Ne, Option.map_eq_none_iff] at hp
    obtain ⟨e, he⟩ := Option.ne_none_iff_exists'.mp hp
    have hplace : e.1 = p := by simpa using List.find?_some he
    exact h e (List.mem_of_find?_eq_some he) q (hplace ▸ hq)

lemma rooted_congr (h : fs.Rooted) (hget : ∀ p, fs'.get? p = fs.get? p) : fs'.Rooted := by
  intro p hp q hq
  rw [hget] at hp ⊢
  exact h p hp q hq

/-- A file may be put where no directory stands but the way to it is there. -/
lemma rooted_put (h : fs.Rooted) (hget : fs.get? loc ≠ some .directory)
    (hway : ∀ q ∈ Path.parents loc, fs.get? q = some .directory) (e : Entry) :
    (fs.put loc e).Rooted := by
  intro p hp q hq
  have hdirectory : fs.get? q = some .directory := by
    by_cases hploc : p = loc
    · exact hway q (hploc ▸ hq)
    · rw [get?_put_of_ne hploc] at hp
      exact h p hp q hq
  have hne : q ≠ loc := by
    rintro rfl
    exact hget hdirectory
  rw [get?_put_of_ne hne, hdirectory]

lemma occupied_of_get? {n : Bytes} (h : fs.get? (loc ++ [n]) ≠ none) : fs.occupied loc = true := by
  rw [get?, if_neg (by simp), Ne, Option.map_eq_none_iff] at h
  obtain ⟨e, he⟩ := Option.ne_none_iff_exists'.mp h
  have hplace : e.1 = loc ++ [n] := by simpa using List.find?_some he
  rw [occupied, List.any_eq_true]
  exact ⟨e, List.mem_of_find?_eq_some he, by simp [hplace]⟩

lemma occupied_iff : fs.occupied loc = true ↔ ∃ n, fs.get? (loc ++ [n]) ≠ none := by
  refine ⟨fun h => ?_, fun ⟨n, hn⟩ => occupied_of_get? hn⟩
  rw [occupied, List.any_eq_true] at h
  obtain ⟨⟨q, x⟩, hmem, hq⟩ := h
  obtain ⟨hne, rfl⟩ : q ≠ [] ∧ q.dropLast = loc := by simpa using hq
  refine ⟨q.getLast hne, ?_⟩
  rw [List.dropLast_concat_getLast, get?, if_neg hne, Ne, Option.map_eq_none_iff,
    List.find?_eq_none]
  exact fun hnone => hnone _ hmem (by simp)

/-- A file may be erased, and so may a directory with nothing in it. -/
lemma rooted_erase (h : fs.Rooted)
    (hempty : fs.get? loc = some .directory → fs.occupied loc = false) :
    (fs.erase loc).Rooted := by
  intro p hp q hq
  have hget : fs.get? p ≠ none := by
    rw [get?_erase] at hp
    split_ifs at hp with hif
    · exact absurd rfl hp
    · exact hp
  have hdirectory := h p hget q hq
  by_cases hne : q = loc
  · -- the next place on the way from `loc` to `p` holds something
    subst hne
    obtain ⟨hinitial, hstrict⟩ := Path.mem_parents_iff.mp hq
    obtain ⟨tail, rfl⟩ := (Path.mem_prefixes_iff.mp hinitial).2
    cases tail with
    | nil => exact absurd (List.append_nil q).symm hstrict
    | cons n tail =>
        have hchild : fs.get? (q ++ [n]) ≠ none := by
          by_cases htail : tail = []
          · rw [htail] at hget
            exact hget
          · have hmem : q ++ [n] ∈ Path.parents (q ++ n :: tail) := by
              rw [Path.mem_parents_iff, Path.mem_prefixes_iff]
              exact ⟨⟨by simp, tail, by simp⟩, by simp [Ne.symm htail]⟩
            simp [h _ hget _ hmem]
        rw [occupied_of_get? hchild] at hempty
        exact absurd (hempty hdirectory) (by simp)
  · rw [get?_erase_of_ne hne, hdirectory]

/-- Directories may be made on a way that is free of files. -/
lemma rooted_fill (h : fs.Rooted) (hway : ∀ p ∈ Path.prefixes loc, fs.file? p = none) :
    (fs.fill (Path.prefixes loc)).Rooted := by
  intro p hp q hq
  by_cases hploc : p ∈ Path.prefixes loc
  · apply made_fill hway
    rw [Path.mem_parents_iff] at hq
    rw [Path.mem_prefixes_iff] at hq hploc ⊢
    exact ⟨hq.1.1, hq.1.2.trans hploc.2⟩
  · rw [(confined_fill fs _).get?_eq p hploc] at hp
    rw [get?_fill, h p hp q hq]
    simp

end FileSystem

open FileSystem

/-- A single operation that changes files. -/
inductive Move where
  | makeDirectories (path : Bytes)
  /-- Makes a file ready for writing, which leaves it empty. -/
  | create (mode : Nat) (path : Bytes)
  /-- Writes to the file that was made ready. -/
  | fill (path content : Bytes)
  | rename (source target : Bytes)
  | remove (path : Bytes)

namespace Move

/-- Performs a move. -/
def perform : Move → FileSystem → Except FileError Unit × FileSystem
  | .makeDirectories path, fs => fs.makeDirectories path
  | .create mode path, fs =>
    let (result, fs') := attempt .openToWrite path none (prepare mode false path) fs
    (result.map fun _ => (), fs')
  | .fill path content, fs =>
    attempt .write path none (fun fs => (.ok (), fs.setContent (Path.resolve path) content)) fs
  | .rename source target, fs => fs.rename source target
  | .remove path, fs => fs.remove path

/-- The places that a move is about. -/
def places : Move → List Location
  | .makeDirectories path => Path.prefixes (Path.resolve path)
  | .create _ path => [Path.resolve path]
  | .fill path _ => [Path.resolve path]
  | .rename source target => [Path.resolve source, Path.resolve target]
  | .remove path => [Path.resolve path]

/-- What a move does where it succeeds, and where it can. -/
def Effect (fs fs' : FileSystem) : Move → Prop
  | .makeDirectories path =>
    (∀ p ∈ Path.prefixes (Path.resolve path), fs.file? p = none)
      ∧ fs' = fs.fill (Path.prefixes (Path.resolve path))
  | .create _ path =>
    fs.get? (Path.resolve path) ≠ some .directory
      ∧ (fs.get? (Path.resolve path) = none → fs.obstacle? (Path.resolve path) = none)
      ∧ ∃ m, fs' = fs.put (Path.resolve path) (.file m [])
  | .fill path content => fs' = fs.setContent (Path.resolve path) content
  | .rename source target =>
    fs.obstacle? (Path.resolve target) = none
      ∧ fs.get? (Path.resolve target) ≠ some .directory
      ∧ ∃ m c appender, fs.get? (Path.resolve source) = some (.file m c)
        ∧ fs' = { (fs.erase (Path.resolve source)).put (Path.resolve target) (.file m c) with
            appender }
  | .remove path =>
    (fs.get? (Path.resolve path) = some .directory → fs.occupied (Path.resolve path) = false)
      ∧ ∃ appender, fs' = { fs.erase (Path.resolve path) with appender }

/-- A move has failed and changed no entry, or it has succeeded with its effect. -/
def Done (m : Move) (fs : FileSystem) (x : Except FileError Unit × FileSystem) : Prop :=
  (∃ e fs', Spent fs fs' ∧ x = (.error e, fs')) ∨ ∃ fs', m.Effect fs fs' ∧ x = (.ok (), fs')

variable {fs fs' : FileSystem}

lemma done_error {m : Move} (e : FileError) : m.Done fs (.error e, fs) :=
  .inl ⟨e, fs, .refl fs, rfl⟩

/-- An operation that changes nothing or has the effect of a move is a move. -/
lemma done_attempt {m : Move} {action : FileSystem → Except Errno Unit × FileSystem}
    (h : (∃ errno, action fs = (.error errno, fs))
      ∨ ∃ fs', m.Effect fs fs' ∧ action fs = (.ok (), fs'))
    (op : Operation) (path : Bytes) (target : Option Bytes) :
    m.Done fs (attempt op path target action fs) := by
  obtain ⟨errno, fs', hspent, heq⟩ | heq := attempt_cases op path target action fs
  · exact .inl ⟨_, fs', hspent, heq⟩
  · rw [heq]
    obtain ⟨errno, haction⟩ | ⟨fs', heffect, haction⟩ := h
    · rw [haction]
      exact done_error _
    · rw [haction]
      exact .inr ⟨fs', heffect, rfl⟩

/-- What a path leads to stands at its place, and nothing is in the way. -/
lemma of_locate {path : Bytes} {e : Entry} (h : fs.locate path = .ok e) :
    fs.obstacle? (Path.resolve path) = none ∧ fs.get? (Path.resolve path) = some e := by
  unfold locate at h
  split_ifs at h
  split at h
  · exact absurd h (by simp)
  · rename_i hway
    split at h
    · exact absurd h (by simp)
    · rename_i hget
      exact ⟨hway, hget.trans (congrArg some (Except.ok.inj h))⟩

lemma done_makeDirectories (path : Bytes) (fs : FileSystem) :
    Done (.makeDirectories path) fs (fs.makeDirectories path) := by
  apply done_attempt
  by_cases hpath : path = []
  · exact .inl ⟨_, if_pos hpath⟩
  · rw [if_neg hpath]
    dsimp only
    split_ifs with hany
    · exact .inl ⟨_, rfl⟩
    · refine .inr ⟨_, ⟨fun p hp => ?_, rfl⟩, rfl⟩
      rw [List.any_eq_true] at hany
      by_contra hfile
      exact hany ⟨p, hp, by simpa [Option.isSome_iff_ne_none] using hfile⟩

lemma done_create (mode : Nat) (path : Bytes) (fs : FileSystem) :
    Done (.create mode path) fs (perform (.create mode path) fs) := by
  have hprepare : (∃ errno, fs.prepare mode false path = (.error errno, fs))
      ∨ ∃ fs', Effect fs fs' (.create mode path)
        ∧ fs.prepare mode false path = (.ok (Path.resolve path), fs') := by
    rw [prepare]
    by_cases hpath : path = []
    · exact .inl ⟨_, if_pos hpath⟩
    · rw [if_neg hpath]
      dsimp only
      cases hget : fs.get? (Path.resolve path) with
      | none =>
          dsimp only
          cases hway : fs.obstacle? (Path.resolve path) with
          | some errno => exact .inl ⟨_, rfl⟩
          | none => exact .inr ⟨_, ⟨by simp [hget], fun _ => hway, _, rfl⟩, rfl⟩
      | some e =>
          cases e with
          | directory => exact .inl ⟨_, rfl⟩
          | file m c => exact .inr ⟨_, ⟨by simp [hget], by simp [hget], _, rfl⟩, rfl⟩
  rw [perform]
  obtain ⟨errno, fs', hspent, heq⟩ | heq :=
    attempt_cases .openToWrite path none (prepare mode false path) fs
  · rw [heq]
    exact .inl ⟨_, fs', hspent, rfl⟩
  · rw [heq]
    obtain ⟨errno, herror⟩ | ⟨fs', heffect, hok⟩ := hprepare
    · rw [herror]
      exact done_error _
    · rw [hok]
      exact .inr ⟨fs', heffect, rfl⟩

lemma done_rename (source target : Bytes) (fs : FileSystem) :
    Done (.rename source target) fs (fs.rename source target) := by
  apply done_attempt
  dsimp only
  cases hlocate : fs.locate source with
  | error errno => exact .inl ⟨_, rfl⟩
  | ok e =>
      cases e with
      | directory => exact .inl ⟨_, rfl⟩
      | file m c =>
          dsimp only
          have hsource := (of_locate hlocate).2
          cases hway : fs.obstacle? (Path.resolve target) with
          | some errno => exact .inl ⟨_, rfl⟩
          | none =>
              cases hget : fs.get? (Path.resolve target) with
              | none =>
                  exact .inr ⟨_, ⟨hway, by simp [hget], m, c, _, hsource, rfl⟩, rfl⟩
              | some e =>
                  cases e with
                  | directory => exact .inl ⟨_, rfl⟩
                  | file m' c' =>
                      exact .inr ⟨_, ⟨hway, by simp [hget], m, c, _, hsource, rfl⟩, rfl⟩

lemma done_remove (path : Bytes) (fs : FileSystem) :
    Done (.remove path) fs (fs.remove path) := by
  apply done_attempt
  dsimp only
  cases hlocate : fs.locate path with
  | error errno => exact .inl ⟨_, rfl⟩
  | ok e =>
      have hget := (of_locate hlocate).2
      cases e with
      | directory =>
          dsimp only
          split_ifs with hoccupied
          · exact .inl ⟨_, rfl⟩
          · exact .inr ⟨_, ⟨fun _ => by simpa using hoccupied, fs.appender, rfl⟩, rfl⟩
      | file m c => exact .inr ⟨_, ⟨by simp [hget], _, rfl⟩, rfl⟩

/-- **A move that fails changes no entry, and one that succeeds has its
effect.** -/
theorem perform_cases (m : Move) (fs : FileSystem) : m.Done fs (m.perform fs) := by
  cases m with
  | makeDirectories path => exact done_makeDirectories path fs
  | create mode path => exact done_create mode path fs
  | fill path content =>
      rw [perform]
      apply done_attempt
      exact .inr ⟨_, rfl, rfl⟩
  | rename source target => exact done_rename source target fs
  | remove path => exact done_remove path fs

/-! ### What every move keeps -/

lemma Effect.within {m : Move} (h : m.Effect fs fs') : Within (· ∈ m.places) fs fs' := by
  cases m with
  | makeDirectories path =>
      obtain ⟨-, rfl⟩ := h
      exact (confined_fill fs _).get?_eq
  | create mode path =>
      obtain ⟨-, -, m, rfl⟩ := h
      exact (confined_put fs _ _).get?_eq
  | fill path content =>
      obtain rfl : fs' = _ := h
      rw [setContent]
      split
      · exact (confined_put fs _ _).get?_eq
      · exact .refl fs
  | rename source target =>
      obtain ⟨-, -, m, c, appender, -, rfl⟩ := h
      exact (((confined_erase fs _).mono (by simp [places])).trans
        ((confined_put _ (Path.resolve target) _).mono (by simp [places]))).get?_eq
  | remove path =>
      obtain ⟨-, appender, rfl⟩ := h
      exact (confined_erase fs _).get?_eq

lemma Effect.rooted {m : Move} (h : m.Effect fs fs') (hfs : fs.Rooted) : fs'.Rooted := by
  cases m with
  | makeDirectories path =>
      obtain ⟨hway, rfl⟩ := h
      exact rooted_fill hfs hway
  | create mode path =>
      obtain ⟨hget, hnone, m, rfl⟩ := h
      refine rooted_put hfs hget ?_ _
      by_cases hmissing : fs.get? (Path.resolve path) = none
      · exact obstacle?_eq_none_iff.mp (hnone hmissing)
      · exact hfs _ hmissing
  | fill path content =>
      obtain rfl : fs' = _ := h
      unfold setContent file?
      cases hget : fs.get? (Path.resolve path) with
      | none => exact hfs
      | some e =>
          cases e with
          | directory => exact hfs
          | file m c => exact rooted_put hfs (by simp [hget]) (hfs _ (by simp [hget])) _
  | rename source target =>
      obtain ⟨hway, hget, m, c, appender, hsource, rfl⟩ := h
      have herased : (fs.erase (Path.resolve source)).Rooted :=
        rooted_erase hfs (by simp [hsource])
      have hkept {q : Location} (hq : fs.get? q = some .directory) :
          (fs.erase (Path.resolve source)).get? q = some .directory := by
        rw [get?_erase_of_ne, hq]
        rintro rfl
        rw [hsource] at hq
        exact absurd hq (by simp)
      refine rooted_congr (rooted_put herased ?_ ?_ (.file m c)) fun p => rfl
      · rw [get?_erase]
        split_ifs
        · simp
        · exact hget
      · exact fun q hq => hkept (obstacle?_eq_none_iff.mp hway q hq)
  | remove path =>
      obtain ⟨hempty, appender, rfl⟩ := h
      exact rooted_congr (rooted_erase hfs hempty) fun p => rfl

lemma Effect.failures_eq {m : Move} (h : m.Effect fs fs') : fs'.failures = fs.failures := by
  cases m with
  | makeDirectories path =>
      obtain ⟨-, rfl⟩ := h
      exact (confined_fill fs _).failures
  | create mode path =>
      obtain ⟨-, -, m, rfl⟩ := h
      rfl
  | fill path content =>
      obtain rfl : fs' = _ := h
      rw [setContent]
      split <;> rfl
  | rename source target =>
      obtain ⟨-, -, m, c, appender, -, rfl⟩ := h
      rfl
  | remove path =>
      obtain ⟨-, appender, rfl⟩ := h
      rfl

/-- A move changes entries at its own places only. -/
lemma within_perform (m : Move) (fs : FileSystem) :
    Within (· ∈ m.places) fs (m.perform fs).2 := by
  obtain ⟨e, fs', hspent, heq⟩ | ⟨fs', heffect, heq⟩ := m.perform_cases fs
  · rw [heq]
    exact hspent.within
  · rw [heq]
    exact heffect.within

/-- A move leaves every entry inside a directory. -/
lemma rooted_perform (h : fs.Rooted) (m : Move) : (m.perform fs).2.Rooted := by
  obtain ⟨e, fs', hspent, heq⟩ | ⟨fs', heffect, heq⟩ := m.perform_cases fs
  · rw [heq]
    exact rooted_congr h hspent.get?_eq
  · rw [heq]
    exact heffect.rooted h

/-- A move meets no failure where none is due. -/
lemma failures_perform (h : fs.failures = []) (m : Move) : (m.perform fs).2.failures = [] := by
  obtain ⟨e, fs', hspent, heq⟩ | ⟨fs', heffect, heq⟩ := m.perform_cases fs
  · rw [heq]
    exact hspent.failures_eq_nil h
  · rw [heq]
    exact heffect.failures_eq.trans h

end Move

/-! ### Moves one after another -/

/-- Moves one after another, each chosen by the results of those before, and what
comes of them. -/
inductive Script (α : Type) where
  | done (a : α)
  | move (m : Move) (next : Except FileError Unit → Script α)

namespace Script

variable {α β : Type} {fs s : FileSystem}

/-- Performs the moves. -/
def run : Script α → FileSystem → α × FileSystem
  | .done a, fs => (a, fs)
  | .move m next, fs => (next (m.perform fs).1).run (m.perform fs).2

/-- The file systems before the first move, between two moves and after the last
one. -/
def states : Script α → FileSystem → List FileSystem
  | .done _, fs => [fs]
  | .move m next, fs => fs :: (next (m.perform fs).1).states (m.perform fs).2

/-- Goes on with the moves that `f` tells from what came of the others. -/
def bind (f : α → Script β) : Script α → Script β
  | .done a => f a
  | .move m next => .move m fun r => (next r).bind f

/-- All moves are about places with `P`. -/
def Touches (P : Location → Prop) : Script α → Prop
  | .done _ => True
  | .move m next => (∀ p ∈ m.places, P p) ∧ ∀ r, (next r).Touches P

lemma mem_states_self (x : Script α) (fs : FileSystem) : fs ∈ x.states fs := by
  cases x <;> simp [states]

lemma mem_states_run (x : Script α) (fs : FileSystem) : (x.run fs).2 ∈ x.states fs := by
  induction x generalizing fs with
  | done a => simp [run, states]
  | move m next ih => exact List.mem_cons_of_mem _ (ih _ _)

lemma run_bind (f : α → Script β) (x : Script α) (fs : FileSystem) :
    (x.bind f).run fs = (f (x.run fs).1).run (x.run fs).2 := by
  induction x generalizing fs with
  | done a => rfl
  | move m next ih => exact ih _ _

/-- The states of moves that go on are those of both parts. -/
lemma mem_states_bind {f : α → Script β} {x : Script α} :
    s ∈ (x.bind f).states fs
      ↔ s ∈ x.states fs ∨ s ∈ (f (x.run fs).1).states (x.run fs).2 := by
  induction x generalizing fs with
  | done a =>
      have hself := mem_states_self (f a) fs
      simp only [bind, states, run, List.mem_singleton]
      exact ⟨.inr, fun h => h.elim (fun heq => heq ▸ hself) id⟩
  | move m next ih =>
      simp only [bind, states, run, List.mem_cons, ih, or_assoc]

lemma Touches.mono {P Q : Location → Prop} {x : Script α} (h : x.Touches P)
    (hsub : ∀ p, P p → Q p) : x.Touches Q := by
  induction x with
  | done a => trivial
  | move m next ih => exact ⟨fun p hp => hsub p (h.1 p hp), fun r => ih r (h.2 r)⟩

lemma Touches.bind {P : Location → Prop} {x : Script α} {f : α → Script β} (h : x.Touches P)
    (hf : ∀ a, (f a).Touches P) : (x.bind f).Touches P := by
  induction x with
  | done a => exact hf a
  | move m next ih => exact ⟨h.1, fun r => ih r (h.2 r)⟩

/-- On the way entries differ at most at the places that the moves are about. -/
lemma within_of_mem_states {P : Location → Prop} {x : Script α} (h : x.Touches P)
    (hs : s ∈ x.states fs) : Within P fs s := by
  induction x generalizing fs with
  | done a =>
      obtain rfl := List.mem_singleton.mp hs
      exact .refl s
  | move m next ih =>
      rcases List.mem_cons.mp hs with rfl | hs
      · exact .refl s
      · exact ((m.within_perform fs).mono h.1).trans (ih _ (h.2 _) hs)

/-- On the way every entry stays inside a directory. -/
lemma rooted_of_mem_states {x : Script α} (h : fs.Rooted) (hs : s ∈ x.states fs) : s.Rooted := by
  induction x generalizing fs with
  | done a => exact List.mem_singleton.mp hs ▸ h
  | move m next ih =>
      rcases List.mem_cons.mp hs with rfl | hs
      · exact h
      · exact ih _ (Move.rooted_perform h m) hs

/-- On the way no failure is due where none was. -/
lemma failures_of_mem_states {x : Script α} (h : fs.failures = []) (hs : s ∈ x.states fs) :
    s.failures = [] := by
  induction x generalizing fs with
  | done a => exact List.mem_singleton.mp hs ▸ h
  | move m next ih =>
      rcases List.mem_cons.mp hs with rfl | hs
      · exact h
      · exact ih _ (Move.failures_perform h m) hs

/-! ### Writing a file -/

/-- Writing a file, as a move that makes it ready and one that fills it. -/
def writeFile (mode : Nat) (path content : Bytes) : Script (Except FileError Unit) :=
  .move (.create mode path) fun
    | .error e => .done (.error e)
    | .ok () => .move (.fill path content) .done

lemma run_writeFile (mode : Nat) (path content : Bytes) (fs : FileSystem) :
    (writeFile mode path content).run fs = fs.write mode path content := by
  rw [writeFile, run, Move.perform, FileSystem.write]
  obtain ⟨errno, fs', -, heq⟩ | heq :=
    attempt_cases .openToWrite path none (prepare mode false path) fs
  · rw [heq]
    rfl
  · rw [heq]
    obtain ⟨errno, hprepare⟩ | ⟨-, hprepare | ⟨e, hprepare⟩⟩ := prepare_cases fs mode false path
    · rw [hprepare]
      rfl
    · rw [hprepare]
      rfl
    · rw [hprepare]
      rfl

lemma touches_writeFile (mode : Nat) (path content : Bytes) :
    (writeFile mode path content).Touches (· = Path.resolve path) := by
  refine ⟨fun p => List.mem_singleton.mp, ?_⟩
  rintro (e | ⟨⟨⟩⟩)
  · trivial
  · exact ⟨fun p => List.mem_singleton.mp, fun _ => trivial⟩

/-- A file that was written holds what was written. -/
lemma get?_writeFile {mode : Nat} {path content : Bytes}
    (h : ((writeFile mode path content).run fs).1 = .ok ()) :
    ∃ m, ((writeFile mode path content).run fs).2.get? (Path.resolve path)
      = some (.file m content) := by
  rw [writeFile, run] at h ⊢
  obtain ⟨e, fs₁, -, heq⟩ | ⟨fs₁, ⟨hget, -, m, rfl⟩, heq⟩ :=
    (Move.create mode path).perform_cases fs
  · rw [heq] at h
    exact absurd h (by simp [run])
  · have hroot := ne_nil_of_get? hget
    have hfile : (fs.put (Path.resolve path) (.file m [])).get? (Path.resolve path)
        = some (.file m []) := get?_put_self hroot _
    rw [heq] at h ⊢
    dsimp only at h ⊢
    rw [run] at h ⊢
    obtain ⟨e, fs₂, -, heq₂⟩ | ⟨fs₂, heffect, heq₂⟩ :=
      (Move.fill path content).perform_cases (fs.put (Path.resolve path) (.file m []))
    · rw [heq₂] at h
      exact absurd h (by simp [run])
    · obtain rfl : fs₂ = _ := heffect
      rw [heq₂, run, setContent, file?_of_get? hfile]
      exact ⟨m, get?_put_self hroot _⟩

end Script

end RegisterMachine
