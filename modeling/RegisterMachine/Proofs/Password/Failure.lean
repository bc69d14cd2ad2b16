/-
What is left of a stored password when a new one could not be stored.

* `PasswordFile.verify_calm`: what a file says about a password where no failures are
  due;
* `PasswordFile.Kept`: what stands at a path is the same, and so is what it says about
  every password;
* `PasswordFile.kept_write_iff`: **the old password is kept unless the writing itself
  has failed**: the file has been emptied by then, and no password has a hash any more.
-/
import RegisterMachine.Proofs.FileSystem.Failures
import RegisterMachine.Proofs.Password.RoundTrip
import RegisterMachine.Proofs.Store.Files

namespace RegisterMachine

variable {fs fs' : FileSystem} {path password salt : Bytes} {cost : Int}

/-- What is in the way to a path does not depend on what stands there. -/
lemma FileSystem.obstacle?_of_within (h : Within (· = Path.resolve path) fs fs') :
    fs'.obstacle? (Path.resolve path) = fs.obstacle? (Path.resolve path) :=
  obstacle?_congr fun q hq => by rw [h q (Path.mem_parents_iff.mp hq).2]

/-- Where a path leads depends on what stands there and on the way. -/
lemma FileSystem.locate_congr (hwithin : Within (· = Path.resolve path) fs fs')
    (hget : fs'.get? (Path.resolve path) = fs.get? (Path.resolve path)) :
    fs'.locate path = fs.locate path := by
  rw [locate, locate, obstacle?_of_within hwithin, hget]

namespace PasswordFile

/-- What the file at a path says about a password where no failures are due. -/
lemma verify_calm (fs : FileSystem) (path password : Bytes) :
    (verify path password fs.calm).1 = match fs.locate path with
      | .error errno => .error (.unreadable ⟨.openToRead, path, none, errno⟩)
      | .ok (.file _ c) => judge path password c
      | .ok .directory => .error (.unreadable ⟨.read, path, none, .isDirectory⟩) := by
  have hread := FileSystem.read_eq (show fs.calm.failures = [] from rfl) path
  rw [show fs.calm.locate path = fs.locate path from rfl] at hread
  cases hlocate : fs.locate path with
  | error errno =>
      rw [hlocate] at hread
      rw [verify_of_error hread]
  | ok entry =>
      rw [hlocate] at hread
      cases entry with
      | file m c => rw [verify_of_read hread]
      | directory => rw [verify_of_error hread]

/-- What stands at a path is the same, and so is what it says about every password where
no failures are due. -/
def Kept (path : Bytes) (fs fs' : FileSystem) : Prop :=
  fs'.get? (Path.resolve path) = fs.get? (Path.resolve path)
    ∧ ∀ password, (verify path password fs'.calm).1 = (verify path password fs.calm).1

/-- It is enough that the file is the same. -/
lemma kept_of_get?_eq (hwithin : FileSystem.Within (· = Path.resolve path) fs fs')
    (hget : fs'.get? (Path.resolve path) = fs.get? (Path.resolve path)) : Kept path fs fs' := by
  refine ⟨hget, fun password => ?_⟩
  rw [verify_calm, verify_calm, FileSystem.locate_congr hwithin hget]

/-- The content of the file at `path`, which was open and is empty by now, could not be
written. -/
def Unwritten (path : Bytes) (e : PasswordError) : Prop :=
  ∃ errno, e = .file ⟨.write, path, none, errno⟩

/-- A password that cannot be stored cannot be hashed, or its file cannot be opened, and
nothing has happened yet; or the file cannot be written, and is empty. -/
lemma write_cases {e : PasswordError} (h : (write path password cost salt fs).1 = .error e) :
    let after := (write path password cost salt fs).2
    ((∃ cause, e = .hash cause) ∨ ∃ errno, e = .file ⟨.openToWrite, path, none, errno⟩)
        ∧ FileSystem.Spent fs after
      ∨ Unwritten path e ∧ FileSystem.Within (· = Path.resolve path) fs after
        ∧ after.get? (Path.resolve path) = some (.file
          (((fs.file? (Path.resolve path)).map Prod.fst).getD mode) []) := by
  intro after
  simp only [after]
  rw [write] at h ⊢
  cases hhash : hash password cost salt with
  | error cause =>
      rw [hhash] at h
      rw [hash] at hhash
      split at hhash
      · exact absurd hhash (by simp)
      · obtain rfl := Except.error.inj hhash
        exact .inl ⟨.inl ⟨_, (Except.error.inj h).symm⟩, .refl fs⟩
  | ok text =>
      rw [hhash] at h
      have hwithin := fs.within_write mode path text
      have hwritten := fs.write_cases mode path text
      dsimp only at h ⊢ hwritten
      generalize fs.write mode path text = x at hwithin hwritten h ⊢
      obtain ⟨r, fs₁⟩ := x
      obtain ⟨errno, rfl, hspent⟩ | ⟨-, ⟨errno, rfl, hget⟩ | ⟨rfl, -⟩⟩ := hwritten
      · exact .inl ⟨.inr ⟨errno, (Except.error.inj h).symm⟩, hspent⟩
      · exact .inr ⟨⟨errno, (Except.error.inj h).symm⟩, hwithin, hget⟩
      · exact absurd h (by simp)

/-- An empty file has no hash for any password. -/
lemma verify_emptied {m : Nat} {b : Bool}
    (hwithin : FileSystem.Within (· = Path.resolve path) fs fs')
    (hget : fs'.get? (Path.resolve path) = some (.file m []))
    (h : (verify path password fs.calm).1 = .ok b) :
    (verify path password fs'.calm).1 = .error (.emptyHash path) := by
  have hlocate : fs'.locate path = .ok (.file m []) := by
    cases hbefore : fs.locate path with
    | error errno =>
        rw [verify_calm, hbefore] at h
        exact absurd h (by simp)
    | ok entry =>
        -- There was a verdict, so the path is not empty and nothing is in the way.
        rw [FileSystem.locate] at hbefore ⊢
        split_ifs at hbefore ⊢
        rw [FileSystem.obstacle?_of_within hwithin, hget]
        cases hobstacle : fs.obstacle? (Path.resolve path) with
        | none => rfl
        | some errno =>
            rw [hobstacle] at hbefore
            exact absurd hbefore (by simp)
  rw [verify_calm, hlocate]
  rfl

/-- **The old password is kept unless the writing itself has failed.**  A password that
cannot be hashed and a file that cannot be opened change nothing; where the open file
cannot be written it is empty, whatever it held, and every password that had a verdict
meets an empty hash.  Nothing else changes. -/
theorem kept_write_iff {e : PasswordError} (h : (write path password cost salt fs).1 = .error e) :
    let after := (write path password cost salt fs).2
    (∀ q ≠ Path.resolve path, after.get? q = fs.get? q)
      ∧ ((∃ cause, e = .hash cause) ∨ (∃ errno, e = .file ⟨.openToWrite, path, none, errno⟩)
        ∨ Unwritten path e)
      ∧ (Kept path fs after
        ↔ (Unwritten path e → ∃ m, fs.get? (Path.resolve path) = some (.file m [])))
      ∧ (Unwritten path e → (∃ m, after.get? (Path.resolve path) = some (.file m []))
        ∧ ∀ password' b, (verify path password' fs.calm).1 = .ok b →
          (verify path password' after.calm).1 = .error (.emptyHash path)) := by
  intro after
  obtain ⟨hcause, hspent⟩ | ⟨hunwritten, hwithin, hget⟩ := write_cases h
  · have hno : ¬ Unwritten path e := by
      rintro ⟨errno, rfl⟩
      obtain ⟨cause, hcause⟩ | ⟨errno', hcause⟩ := hcause <;> simp at hcause
    have hkept : Kept path fs after := kept_of_get?_eq hspent.within (hspent.get?_eq _)
    exact ⟨fun q _ => hspent.get?_eq q, hcause.imp_right .inl,
      iff_of_true hkept fun hu => absurd hu hno, fun hu => absurd hu hno⟩
  · refine ⟨hwithin, .inr (.inr hunwritten), ⟨fun hkept _ => ?_, fun hempty => ?_⟩,
      fun _ => ⟨⟨_, hget⟩, fun password' b => verify_emptied hwithin hget⟩⟩
    · exact ⟨_, hkept.1.symm.trans hget⟩
    · obtain ⟨m, hm⟩ := hempty hunwritten
      -- An empty file keeps its mode when it is emptied once more.
      rw [FileSystem.file?_of_get? hm] at hget
      exact kept_of_get?_eq hwithin (hget.trans hm.symm)

/-- The first of two passwords is stored, and there is no space left for the second: the
first is lost. -/
theorem not_kept_on_full_disk :
    ∃ text : Bytes, ∃ fs : FileSystem,
      fs = { entries := [([utf8 "h"], .file 0o600 text)]
             failures := [⟨.write, some [utf8 "h"], .noSpace, none⟩] }
      ∧ (verify (utf8 "h") (utf8 "one") fs.calm).1 = .ok true
      ∧ (write (utf8 "h") (utf8 "two") 4 (List.replicate 16 0) fs).1
        = .error (.file ⟨.write, utf8 "h", none, .noSpace⟩)
      ∧ ¬ Kept (utf8 "h") fs (write (utf8 "h") (utf8 "two") 4 (List.replicate 16 0) fs).2
      ∧ (verify (utf8 "h") (utf8 "one")
          (write (utf8 "h") (utf8 "two") 4 (List.replicate 16 0) fs).2.calm).1
        = .error (.emptyHash (utf8 "h")) := by
  obtain ⟨text, -, hjudge⟩ := @exists_hash (utf8 "one") (List.replicate 16 0) 4
    (by decide) (by decide) (by decide) (by decide)
  obtain ⟨text', hhash, -⟩ := @exists_hash (utf8 "two") (List.replicate 16 0) 4
    (by decide) (by decide) (by decide) (by decide)
  have hbefore : judge (utf8 "h") (utf8 "one") text = .ok true := by
    simpa [Utf8.encode] using hjudge (utf8 "h") [] [] (by simp)
  refine ⟨text, _, rfl, ?_⟩
  generalize hfs : FileSystem.mk [([utf8 "h"], .file 0o600 text)]
    [⟨.write, some [utf8 "h"], .noSpace, none⟩] none = fs
  have hget : fs.get? (Path.resolve (utf8 "h")) = some (.file 0o600 text) := by
    rw [← hfs]
    rfl
  have hverify : (verify (utf8 "h") (utf8 "one") fs.calm).1 = .ok true := by
    have hlocate : fs.locate (utf8 "h") = .ok (.file 0o600 text) := by
      rw [← hfs]
      rfl
    rw [verify_calm, hlocate]
    exact hbefore
  have herror : (write (utf8 "h") (utf8 "two") 4 (List.replicate 16 0) fs).1
      = .error (.file ⟨.write, utf8 "h", none, .noSpace⟩) := by
    rw [write, hhash, ← hfs]
    rfl
  obtain ⟨-, -, hkept, hlost⟩ := kept_write_iff herror
  refine ⟨hverify, herror, fun hk => ?_, (hlost ⟨_, rfl⟩).2 _ _ hverify⟩
  obtain ⟨m, hm⟩ := hkept.mp hk ⟨_, rfl⟩
  obtain ⟨-, rfl⟩ := Entry.file.inj (Option.some.inj (hget.symm.trans hm))
  exact absurd hbefore (by decide)

end PasswordFile

end RegisterMachine
