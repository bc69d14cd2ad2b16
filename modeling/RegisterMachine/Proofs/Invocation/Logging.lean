/-
What keeping a log does to the files.

* `FileSystem.Lengthened`: directories stay where they are, and files keep what they hold
  and may go on;
* `Invocation.lengthened_setUpLogging`: **setting up a log makes files longer at most**,
  where no failures are due.
-/
import RegisterMachine.Invocation
import RegisterMachine.Proofs.Command.Parallel

namespace RegisterMachine

namespace FileSystem

variable {fs fs' fs'' : FileSystem} {q : Location}

/-- No failure is due; directories stay and no others are made; files keep what they hold,
and something may follow it. -/
structure Lengthened (fs fs' : FileSystem) : Prop where
  failures : fs'.failures = []
  directory_iff : ∀ q, fs'.get? q = some .directory ↔ fs.get? q = some .directory
  file : ∀ q m c, fs.get? q = some (.file m c) → ∃ x, fs'.get? q = some (.file m (c ++ x))

namespace Lengthened

lemma refl (h : fs.failures = []) : Lengthened fs fs :=
  ⟨h, fun _ => Iff.rfl, fun _ _ c hq => ⟨[], by rw [hq, List.append_nil]⟩⟩

lemma trans (h : Lengthened fs fs') (h' : Lengthened fs' fs'') : Lengthened fs fs'' := by
  refine ⟨h'.failures, fun q => (h'.directory_iff q).trans (h.directory_iff q), ?_⟩
  intro q m c hq
  obtain ⟨x, hx⟩ := h.file q m c hq
  obtain ⟨y, hy⟩ := h'.file q m (c ++ x) hx
  exact ⟨x ++ y, by rw [hy, List.append_assoc]⟩

/-- The way to a place stays free. -/
lemma obstacle?_eq_none (h : Lengthened fs fs') (hq : fs.obstacle? q = none) :
    fs'.obstacle? q = none := by
  rw [obstacle?_eq_none_iff] at hq ⊢
  intro r hr
  exact (h.directory_iff r).mpr (hq r hr)

/-- What was in the way to a place still is, except that a new file may stand where
something was missing. -/
lemma obstacle?_cases (h : Lengthened fs fs') (q : Location) :
    fs'.obstacle? q = fs.obstacle? q
      ∨ fs.obstacle? q = some .notFound ∧ fs'.obstacle? q = some .notDirectory := by
  rw [obstacle?, obstacle?]
  induction Path.parents q with
  | nil => exact .inl rfl
  | cons r places ih =>
      rw [List.findSome?_cons, List.findSome?_cons]
      cases hr : fs.get? r with
      | none =>
          cases hr' : fs'.get? r with
          | none => exact .inl rfl
          | some e =>
              cases e with
              | directory => exact absurd ((h.directory_iff r).mp hr') (by simp [hr])
              | file m c => exact .inr ⟨rfl, rfl⟩
      | some e =>
          cases e with
          | directory =>
              rw [(h.directory_iff r).mpr hr]
              exact ih
          | file m c =>
              obtain ⟨x, hr'⟩ := h.file r m c hr
              rw [hr']
              exact .inl rfl

/-- A path to an entry that has stayed as it is leads where it led, or it led nowhere and
now there is a file in the way. -/
lemma locate_cases (h : Lengthened fs fs') {path : Bytes}
    (hget : fs'.get? (Path.resolve path) = fs.get? (Path.resolve path)) :
    fs'.locate path = fs.locate path
      ∨ fs.locate path = .error .notFound ∧ fs'.locate path = .error .notDirectory := by
  by_cases hpath : path = []
  · rw [locate, locate, if_pos hpath, if_pos hpath]
    exact .inl rfl
  · obtain hway | ⟨hway, hway'⟩ := h.obstacle?_cases (Path.resolve path)
    · rw [locate, locate, hway, hget]
      exact .inl rfl
    · exact .inr ⟨locate_of_obstacle hpath hway, locate_of_obstacle hpath hway'⟩

/-- A file that has stayed as it is can still be reached. -/
lemma locate_eq (h : Lengthened fs fs') {path : Bytes} {e : Entry} (hpath : fs.locate path = .ok e)
    (hget : fs'.get? (Path.resolve path) = fs.get? (Path.resolve path)) :
    fs'.locate path = .ok e := by
  obtain hsame | ⟨hnone, -⟩ := h.locate_cases hget
  · exact hsame.trans hpath
  · exact absurd (hpath.symm.trans hnone) (by simp)

end Lengthened

/-- A new file at a place where nothing stands. -/
lemma lengthened_put (h : fs.failures = []) (hq : fs.get? q = none) (m : Nat) (c : Bytes) :
    Lengthened fs (fs.put q (.file m c)) := by
  have hfree : fs.get? q ≠ some .directory := by simp [hq]
  have hroot : q ≠ [] := ne_nil_of_get? hfree
  refine ⟨h, fun r => ?_, fun r m' c' hr => ?_⟩
  · by_cases hrq : r = q
    · subst hrq
      simp [get?_put_self hroot, hq]
    · rw [get?_put_of_ne hrq]
  · have hrq : r ≠ q := by
      rintro rfl
      rw [hq] at hr
      exact absurd hr (by simp)
    exact ⟨[], by rw [get?_put_of_ne hrq, hr, List.append_nil]⟩

/-- A file that is opened for appending keeps what it holds. -/
lemma lengthened_openAppender (h : fs.failures = []) (mode : Nat) (path : Bytes) :
    Lengthened fs (fs.openAppender mode path).2 := by
  have hprepare : Lengthened fs (fs.prepare mode true path).2 := by
    rw [prepare]
    by_cases hpath : path = []
    · rw [if_pos hpath]
      exact .refl h
    · rw [if_neg hpath]
      dsimp only
      cases hentry : fs.get? (Path.resolve path) with
      | none =>
          dsimp only
          cases fs.obstacle? (Path.resolve path) with
          | none => exact lengthened_put h hentry mode []
          | some errno => exact .refl h
      | some e => cases e <;> exact .refl h
  rw [openAppender, attempt_eq h]
  generalize fs.prepare mode true path = x at hprepare ⊢
  obtain ⟨r, fs₁⟩ := x
  cases r with
  | error errno => exact hprepare
  | ok loc => exact ⟨hprepare.failures, hprepare.directory_iff, hprepare.file⟩

/-- Something is added to the file held open. -/
lemma lengthened_append (h : fs.failures = []) (content : Bytes) :
    Lengthened fs (fs.append content) := by
  have hget (q : Location) : (fs.append content).get? q = fs.extended content q :=
    get?_append_of_take (by simp [h, Failure.take]) content q
  have hfailures : (fs.append content).failures = [] := by
    rw [append]
    split
    · exact h
    · rw [attempt_eq h]
      split
      · exact h
      · split
        · exact h
        · rw [failures_setContent, h]
  refine ⟨hfailures, fun q => ?_, fun q m c hq => ?_⟩
  · rw [hget, extended]
    split_ifs
    · cases fs.get? q with
      | none => simp
      | some e => cases e <;> simp [Entry.extend]
    · rfl
  · rw [hget, extended, hq]
    split_ifs
    · exact ⟨content, rfl⟩
    · exact ⟨[], by rw [List.append_nil]⟩

end FileSystem

open FileSystem (Lengthened)

variable {fs : FileSystem} {w : World}

lemma World.lengthened_log (h : w.files.failures = []) (r : Log.Record) :
    Lengthened w.files (w.log r).files := by
  rw [files_log_eq]
  split_ifs
  · exact FileSystem.lengthened_append h _
  · exact .refl h

lemma World.lengthened_logOption (h : w.files.failures = []) (r : Option Log.Record) :
    Lengthened w.files ((r.map w.log).getD w).files := by
  cases r with
  | none => exact .refl h
  | some r => exact lengthened_log h r

lemma Invocation.lengthened_openLog (h : w.files.failures = []) (settings : Settings) :
    Lengthened w.files (openLog settings w).2.files := by
  rw [openLog]
  split_ifs
  · exact .refl h
  · have hopened := FileSystem.lengthened_openAppender h logMode settings.logFile
    generalize w.files.openAppender logMode settings.logFile = x at hopened ⊢
    obtain ⟨r, files⟩ := x
    cases r <;> exact hopened

/-- Setting up the log makes files longer at most. -/
lemma Invocation.lengthened_setUpLogging (h : w.files.failures = []) (settings : Settings)
    (file : Settings.File) (c : Command) (ws : List Bytes) :
    Lengthened w.files (setUpLogging settings file c ws w).2.files := by
  rw [setUpLogging]
  split
  · exact .refl h
  · rename_i level _
    have hopened := lengthened_openLog h settings
    generalize openLog settings w = x at hopened ⊢
    obtain ⟨r, w₁⟩ := x
    cases r with
    | error e => exact hopened
    | ok =>
        have hstarted := hopened.trans (World.lengthened_log
          (w := { w₁ with threshold := some level }) hopened.failures (startedRecord c ws))
        exact hstarted.trans (World.lengthened_logOption hstarted.failures _)

end RegisterMachine
