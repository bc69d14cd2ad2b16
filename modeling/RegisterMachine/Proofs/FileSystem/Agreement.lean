/-
What looking at files depends on, and what keeping a log changes, whatever
failures are due.

* `FileSystem.spent_read`, `FileSystem.spent_isDirectory`: looking at files
  changes no entry;
* `FileSystem.Logged`: entries differ at most where the log is;
  `FileSystem.logged_openAppender` and `FileSystem.logged_append` keep it so;
* `FileSystem.Agree`: two file systems that cannot be told apart by looking at
  certain places;
* `FileSystem.twins_read`, `FileSystem.twins_isDirectory`,
  `FileSystem.twins_openAppender`, `FileSystem.Agree.append`: **operations at these
  places have the same results in both and leave them alike**.
-/
import RegisterMachine.Proofs.FileSystem.Script

namespace RegisterMachine.FileSystem

variable {fs fs' fs'' : FileSystem} {path : Bytes} {α : Type}

/-! ### Looking at files -/

lemma spent_attempt {action : FileSystem → Except Errno α × FileSystem}
    (h : (action fs).2 = fs) (op : Operation) (path : Bytes) (target : Option Bytes) :
    Spent fs (attempt op path target action fs).2 := by
  obtain ⟨errno, fs', hspent, heq⟩ | heq := attempt_cases op path target action fs
  · rw [heq]
    exact hspent
  · rw [heq, h]
    exact .refl fs

lemma spent_read (fs : FileSystem) (path : Bytes) : Spent fs (fs.read path).2 := by
  have hopened : Spent fs (attempt .openToRead path none (fun fs => (fs.locate path, fs)) fs).2 :=
    spent_attempt rfl _ _ _
  rw [read]
  generalize attempt .openToRead path none (fun fs => (fs.locate path, fs)) fs = x at hopened ⊢
  obtain ⟨r, fs₁⟩ := x
  cases r with
  | error e => exact hopened
  | ok entry => exact hopened.trans (spent_attempt (by cases entry <;> rfl) _ _ _)

lemma spent_isDirectory (fs : FileSystem) (path : Bytes) : Spent fs (fs.isDirectory path).2 := by
  apply spent_attempt
  cases fs.locate path <;> rfl

/-! ### Keeping a log -/

variable {L P : Location → Prop}

/-- The file held open is at a place with `L`, unless it is gone. -/
def AppendsTo (L : Location → Prop) (fs : FileSystem) : Prop :=
  ∀ a ∈ fs.appender, ∀ p ∈ a.place, L p

/-- Entries differ at most at places with `L`, and the file held open is at such a
place. -/
structure Logged (L : Location → Prop) (fs fs' : FileSystem) : Prop where
  within : Within L fs fs'
  appendsTo : fs'.AppendsTo L

lemma Logged.trans (h : Logged L fs fs') (h' : Logged L fs' fs'') : Logged L fs fs'' :=
  ⟨h.within.trans h'.within, h'.appendsTo⟩

lemma AppendsTo.logged_of_spent (h : fs.AppendsTo L) (hs : Spent fs fs') : Logged L fs fs' := by
  refine ⟨hs.within, ?_⟩
  rw [AppendsTo, hs.appender_eq]
  exact h

lemma AppendsTo.logged_refl (h : fs.AppendsTo L) : Logged L fs fs :=
  h.logged_of_spent (.refl fs)

lemma within_setContent (fs : FileSystem) (loc : Location) (content : Bytes) :
    Within (· = loc) fs (fs.setContent loc content) := by
  rw [setContent]
  split
  · exact fun p hp => get?_put_of_ne hp _
  · exact .refl fs

lemma appender_setContent (fs : FileSystem) (loc : Location) (content : Bytes) :
    (fs.setContent loc content).appender = fs.appender := by
  rw [setContent]
  split <;> rfl

lemma AppendsTo.logged_attempt (h : fs.AppendsTo L)
    {action : FileSystem → Except Errno α × FileSystem} (haction : Logged L fs (action fs).2)
    (op : Operation) (path : Bytes) (target : Option Bytes) :
    Logged L fs (attempt op path target action fs).2 := by
  obtain ⟨errno, fs', hspent, heq⟩ | heq := attempt_cases op path target action fs
  · rw [heq]
    exact h.logged_of_spent hspent
  · rw [heq]
    exact haction

/-- What is added to the log goes to the place where it is. -/
lemma AppendsTo.logged_append (h : fs.AppendsTo L) (content : Bytes) :
    Logged L fs (fs.append content) := by
  rw [append]
  cases happender : fs.appender with
  | none => exact h.logged_refl
  | some a =>
      apply h.logged_attempt
      cases hplace : a.place with
      | none => exact h.logged_refl
      | some loc =>
          dsimp only
          split
          · exact h.logged_refl
          · refine ⟨fun p hp => within_setContent fs loc _ p ?_, ?_⟩
            · rintro rfl
              exact hp (h a happender p hplace)
            · rw [AppendsTo, appender_setContent]
              exact h

/-- The file that is made ready is the one at the place of the path. -/
lemma eq_of_prepared {mode : Nat} {keep : Bool} {loc : Location}
    (h : (attempt .openToWrite path none (prepare mode keep path) fs).1 = .ok loc) :
    loc = Path.resolve path := by
  obtain ⟨errno, fs', -, heq⟩ | heq :=
    attempt_cases .openToWrite path none (prepare mode keep path) fs
  · rw [heq] at h
    exact absurd h (by simp)
  · rw [heq] at h
    obtain ⟨errno, hprepare⟩ | ⟨-, hprepare | ⟨e, hprepare⟩⟩ := prepare_cases fs mode keep path
    · rw [hprepare] at h
      exact absurd h (by simp [Except.mapError])
    · rw [hprepare] at h
      exact (Except.ok.inj h).symm
    · rw [hprepare] at h
      exact (Except.ok.inj h).symm

lemma AppendsTo.logged_prepare (h : fs.AppendsTo L) (hpath : L (Path.resolve path)) (mode : Nat)
    (keep : Bool) : Logged L fs (fs.prepare mode keep path).2 := by
  obtain ⟨errno, hprepare⟩ | ⟨-, hprepare | ⟨e, hprepare⟩⟩ := prepare_cases fs mode keep path
  · rw [hprepare]
    exact h.logged_refl
  · rw [hprepare]
    exact h.logged_refl
  · rw [hprepare]
    refine ⟨fun p hp => get?_put_of_ne ?_ e, h⟩
    rintro rfl
    exact hp hpath

/-- Opening the log makes it at its place, if it is missing. -/
lemma AppendsTo.logged_openAppender (h : fs.AppendsTo L) (hpath : L (Path.resolve path))
    (mode : Nat) : Logged L fs (fs.openAppender mode path).2 := by
  have hloc (loc : Location) := @eq_of_prepared fs path mode true loc
  have hprepared := h.logged_attempt (h.logged_prepare hpath mode true) .openToWrite path none
  rw [openAppender]
  generalize attempt .openToWrite path none (prepare mode true path) fs = x at hloc hprepared ⊢
  obtain ⟨r, fs₁⟩ := x
  cases r with
  | error e => exact hprepared
  | ok loc =>
      refine ⟨hprepared.within, ?_⟩
      rintro a ⟨⟩ p ⟨⟩
      rw [hloc loc rfl]
      exact hpath

/-! ### Files that cannot be told apart -/

/-- Looking at places with `P`, on whose ways the same directories are, tells no
difference: the same stands there, the same failures are due, and the file held open
is at such a place in both. -/
structure Agree (P : Location → Prop) (fs fs' : FileSystem) : Prop where
  failures : fs'.failures = fs.failures
  appender : fs'.appender = fs.appender
  appendsTo : fs.AppendsTo P
  get?_eq : ∀ p, P p → fs'.get? p = fs.get? p
  way : ∀ p, P p → ∀ q ∈ Path.parents p,
    (fs'.get? q).map Entry.isDirectory = (fs.get? q).map Entry.isDirectory

/-- Two results are the same and come with files that cannot be told apart. -/
def Twins (P : Location → Prop) (x x' : α × FileSystem) : Prop :=
  x'.1 = x.1 ∧ Agree P x.2 x'.2

lemma Twins.exists_pair {x x' : α × FileSystem} (h : Twins P x x') :
    ∃ r fs fs', x = (r, fs) ∧ x' = (r, fs') ∧ Agree P fs fs' := by
  obtain ⟨r, fs⟩ := x
  obtain ⟨r', fs'⟩ := x'
  obtain ⟨rfl, hagree⟩ : r' = r ∧ Agree P fs fs' := h
  exact ⟨r', fs, fs', rfl, rfl, hagree⟩

lemma Agree.obstacle?_eq (h : Agree P fs fs') {p : Location} (hp : P p) :
    fs'.obstacle? p = fs.obstacle? p :=
  obstacle?_congr (h.way p hp)

lemma Agree.locate_eq (h : Agree P fs fs') (hpath : P (Path.resolve path)) :
    fs'.locate path = fs.locate path := by
  rw [locate, locate, h.obstacle?_eq hpath, h.get?_eq _ hpath]

lemma Agree.file?_eq (h : Agree P fs fs') {p : Location} (hp : P p) : fs'.file? p = fs.file? p := by
  rw [file?, file?, h.get?_eq p hp]

/-- The same entry may be put at one place in both. -/
lemma Agree.put (h : Agree P fs fs') (loc : Location) (e : Entry) :
    Agree P (fs.put loc e) (fs'.put loc e) where
  failures := h.failures
  appender := h.appender
  appendsTo := h.appendsTo
  get?_eq := by
    intro p hp
    rw [get?_put, get?_put, h.get?_eq p hp]
  way := by
    intro p hp q hq
    rw [get?_put, get?_put]
    split_ifs
    · rfl
    · exact h.way p hp q hq

lemma Agree.setContent (h : Agree P fs fs') {loc : Location} (hloc : P loc) (content : Bytes) :
    Agree P (fs.setContent loc content) (fs'.setContent loc content) := by
  rw [FileSystem.setContent, FileSystem.setContent, h.file?_eq hloc]
  split
  · exact h.put loc _
  · exact h

/-- An operation is the same in both if what it does is. -/
lemma twins_attempt (h : Agree P fs fs') {action : FileSystem → Except Errno α × FileSystem}
    (haction : Twins P (action fs) (action fs')) (op : Operation) (path : Bytes)
    (target : Option Bytes) :
    Twins P (attempt op path target action fs) (attempt op path target action fs') := by
  obtain ⟨r, fs₁, fs₁', hx, hx', hagree⟩ := haction.exists_pair
  rw [attempt, attempt, h.failures]
  obtain ⟨found, failures⟩ := Failure.take op (Path.resolve path) fs.failures
  cases found with
  | some errno => exact ⟨rfl, ⟨rfl, h.appender, h.appendsTo, h.get?_eq, h.way⟩⟩
  | none =>
      dsimp only
      rw [hx, hx']
      cases r with
      | error errno => exact ⟨rfl, hagree⟩
      | ok a => exact ⟨rfl, hagree⟩

lemma twins_read (h : Agree P fs fs') (hpath : P (Path.resolve path)) :
    Twins P (fs.read path) (fs'.read path) := by
  have hopened : Twins P (attempt .openToRead path none (fun fs => (fs.locate path, fs)) fs)
      (attempt .openToRead path none (fun fs => (fs.locate path, fs)) fs') :=
    twins_attempt h ⟨h.locate_eq hpath, h⟩ _ _ _
  obtain ⟨r, fs₁, fs₁', hx, hx', hagree⟩ := hopened.exists_pair
  rw [read, read, hx, hx']
  cases r with
  | error e => exact ⟨rfl, hagree⟩
  | ok entry =>
      apply twins_attempt hagree
      cases entry with
      | directory => exact ⟨rfl, hagree⟩
      | file m c => exact ⟨rfl, hagree⟩

lemma twins_isDirectory (h : Agree P fs fs') (hpath : P (Path.resolve path)) :
    Twins P (fs.isDirectory path) (fs'.isDirectory path) := by
  apply twins_attempt h
  rw [h.locate_eq hpath]
  cases fs.locate path with
  | error errno => exact ⟨rfl, h⟩
  | ok entry => exact ⟨rfl, h⟩

lemma twins_prepare (h : Agree P fs fs') (hpath : P (Path.resolve path)) (mode : Nat)
    (keep : Bool) : Twins P (fs.prepare mode keep path) (fs'.prepare mode keep path) := by
  rw [prepare, prepare]
  by_cases hempty : path = []
  · rw [if_pos hempty, if_pos hempty]
    exact ⟨rfl, h⟩
  · rw [if_neg hempty, if_neg hempty]
    dsimp only
    rw [h.get?_eq _ hpath, h.obstacle?_eq hpath]
    cases fs.get? (Path.resolve path) with
    | none =>
        cases fs.obstacle? (Path.resolve path) with
        | some errno => exact ⟨rfl, h⟩
        | none => exact ⟨rfl, h.put _ _⟩
    | some e =>
        cases e with
        | directory => exact ⟨rfl, h⟩
        | file m c =>
            cases keep with
            | true => exact ⟨rfl, h⟩
            | false => exact ⟨rfl, h.put _ _⟩

lemma twins_openAppender (h : Agree P fs fs') (hpath : P (Path.resolve path)) (mode : Nat) :
    Twins P (fs.openAppender mode path) (fs'.openAppender mode path) := by
  have hprepared := twins_attempt h (twins_prepare h hpath mode true) .openToWrite path none
  obtain ⟨r, fs₁, fs₁', hx, hx', hagree⟩ := hprepared.exists_pair
  rw [openAppender, openAppender, hx, hx']
  cases r with
  | error e => exact ⟨rfl, hagree⟩
  | ok loc =>
      refine ⟨rfl, ⟨hagree.failures, rfl, ?_, hagree.get?_eq, hagree.way⟩⟩
      rintro a ⟨⟩ p ⟨⟩
      rw [eq_of_prepared (congrArg Prod.fst hx)]
      exact hpath

lemma Agree.append (h : Agree P fs fs') (content : Bytes) :
    Agree P (fs.append content) (fs'.append content) := by
  rw [FileSystem.append, FileSystem.append, h.appender]
  cases happender : fs.appender with
  | none => exact h
  | some a =>
      refine (twins_attempt h ?_ .write a.path none).2
      cases hplace : a.place with
      | none => exact ⟨rfl, h⟩
      | some loc =>
          have hloc : P loc := h.appendsTo a happender loc hplace
          dsimp only
          rw [h.file?_eq hloc]
          split
          · exact ⟨rfl, h⟩
          · exact ⟨rfl, h.setContent hloc _⟩

end RegisterMachine.FileSystem
