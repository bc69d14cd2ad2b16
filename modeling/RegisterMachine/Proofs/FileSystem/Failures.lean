/-
Which failures an operation meets.

* `Failure.forall_mem_take`: what a failure is about stays when it is met;
* `Failure.Separate`: a failure is for a single place, or for every place without
  limit; `Failure.SameAt`: two failures that come to the same at a place;
* `FileSystem.Clear.attempt`: an operation leaves the failures for other operations as
  they are;
* `FileSystem.of_attempt_eq_ok`, `FileSystem.of_write_eq_ok`,
  `FileSystem.of_rename_eq_ok`: no failure was due where an operation succeeds, and all
  are still due;
* `FileSystem.read_cases`: **reading meets a failure that is due and changes nothing
  else, or tells where the path leads**;
* `FileSystem.sameAt_read`: it leaves separate failures as they are at other places.
-/
import RegisterMachine.Proofs.FileSystem.Script

namespace RegisterMachine

namespace Failure

variable {f g h : Failure} {failures failures' : List Failure} {op : Operation}
  {loc loc' : Location}

/-! ### Failures that are met -/

/-- What a failure is about stays when it is met, so what is said of all failures stays
true. -/
lemma forall_mem_take {Q : Failure → Prop} (hmet : ∀ f, Q f → Q f.met)
    (hall : ∀ f ∈ failures, Q f) (op : Operation) (loc : Location) :
    ∀ f ∈ (take op loc failures).2, Q f := by
  induction failures with
  | nil => exact hall
  | cons f failures ih =>
      rw [List.forall_mem_cons] at hall
      rw [take]
      split_ifs
      · exact List.forall_mem_cons.mpr ⟨hmet f hall.1, hall.2⟩
      · exact List.forall_mem_cons.mpr ⟨hall.1, ih hall.2⟩

/-- The failure that an operation meets is one of those for it. -/
lemma exists_of_take {errno : Errno} (htake : (take op loc failures).1 = some errno) :
    ∃ f ∈ failures, f.operation = op ∧ f.errno = errno := by
  induction failures with
  | nil => exact absurd htake (by simp [take])
  | cons f failures ih =>
      rw [take] at htake
      split_ifs at htake with happlies
      · rw [applies, Bool.and_eq_true, Bool.and_eq_true, decide_eq_true_iff] at happlies
        exact ⟨f, by simp, happlies.1.1, Option.some.inj htake⟩
      · obtain ⟨g, hg, hop⟩ := ih htake
        exact ⟨g, by simp [hg], hop⟩

/-- Meeting a failure changes nothing for other operations. -/
lemma take_of_operation_ne {op' : Operation} (hne : op' ≠ op) (loc loc' : Location)
    (failures : List Failure) :
    (take op' loc' (take op loc failures).2).1 = (take op' loc' failures).1 := by
  induction failures with
  | nil => rfl
  | cons f failures ih =>
      rw [take]
      split_ifs with happlies
      · have hop : f.operation = op := by
          rw [applies, Bool.and_eq_true, Bool.and_eq_true, decide_eq_true_iff] at happlies
          exact happlies.1.1
        have hother : f.applies op' loc' = false := by simp [applies, hop, hne.symm]
        have hmet : f.met.applies op' loc' = false := by simp [applies, met, hop, hne.symm]
        simp only [take, hother, hmet, Bool.false_eq_true, if_false]
      · simp only [take]
        split_ifs
        · rfl
        · exact ih

/-! ### Failures at other places -/

/-- The failure is for a single place, or it is met without limit: meeting it at one
place changes nothing for the others. -/
def Separate (f : Failure) : Prop :=
  f.place ≠ none ∨ f.remaining = none

/-- The failures are the same, or both are for another place than `loc`. -/
def SameAt (loc : Location) (f g : Failure) : Prop :=
  g = f ∨ ∃ q, q ≠ loc ∧ f.place = some q ∧ g.place = some q

lemma Separate.met (hf : f.Separate) : f.met.Separate := by
  obtain hplace | hremaining := hf
  · exact .inl hplace
  · exact .inr (by simp [Failure.met, hremaining])

lemma SameAt.refl (loc : Location) (f : Failure) : SameAt loc f f :=
  .inl rfl

lemma SameAt.trans (hfg : SameAt loc f g) (hgh : SameAt loc g h) : SameAt loc f h := by
  obtain rfl | ⟨q, hq, hf, hg⟩ := hfg
  · exact hgh
  · obtain rfl | ⟨q', -, hg', hh⟩ := hgh
    · exact .inr ⟨q, hq, hf, hg⟩
    · rw [← hg', hg] at hh
      exact .inr ⟨q, hq, hf, hh⟩

lemma applies_of_place {q : Location} (hq : q ≠ loc) (hplace : f.place = some q) :
    f.applies op loc = false := by
  simp [applies, hplace, hq]

/-- Meeting a failure at one place leaves those at the others as they are. -/
lemma sameAt_met (hf : f.Separate) (happlies : f.applies op loc' = true) (hne : loc' ≠ loc) :
    SameAt loc f f.met := by
  by_cases hremaining : f.remaining = none
  · refine .inl ?_
    cases f
    simp_all [met]
  · have hplace : f.place = some loc' := by
      rw [applies, Bool.and_eq_true, Bool.and_eq_true, Bool.or_eq_true, decide_eq_true_iff,
        decide_eq_true_iff, decide_eq_true_iff] at happlies
      exact happlies.1.2.resolve_left (hf.resolve_right hremaining)
    exact .inr ⟨loc', hne, hplace, hplace⟩

lemma sameAt_refl (loc : Location) (failures : List Failure) :
    List.Forall₂ (SameAt loc) failures failures := by
  induction failures with
  | nil => exact .nil
  | cons f failures ih => exact .cons (.refl loc f) ih

lemma sameAt_trans {failures'' : List Failure} (h : List.Forall₂ (SameAt loc) failures failures')
    (h' : List.Forall₂ (SameAt loc) failures' failures'') :
    List.Forall₂ (SameAt loc) failures failures'' := by
  induction h generalizing failures'' with
  | nil => exact h'
  | cons hfg _ ih =>
      obtain _ | ⟨hgh, hrest⟩ := h'
      exact .cons (hfg.trans hgh) (ih hrest)

lemma sameAt_take (hall : ∀ f ∈ failures, f.Separate) (hne : loc' ≠ loc) (op : Operation) :
    List.Forall₂ (SameAt loc) failures (take op loc' failures).2 := by
  induction failures with
  | nil => exact .nil
  | cons f failures ih =>
      rw [List.forall_mem_cons] at hall
      rw [take]
      split_ifs with happlies
      · exact .cons (sameAt_met hall.1 happlies hne) (sameAt_refl loc failures)
      · exact .cons (.refl loc f) (ih hall.2)

/-- Failures that come to the same at a place are met there or not met there together. -/
lemma take_of_sameAt (h : List.Forall₂ (SameAt loc) failures failures') (op : Operation) :
    (take op loc failures').1 = (take op loc failures).1 := by
  induction h with
  | nil => rfl
  | @cons f g failures failures' hfg _ ih =>
      rw [take, take]
      obtain rfl | ⟨q, hq, hf, hg⟩ := hfg
      · split_ifs
        · rfl
        · exact ih
      · rw [applies_of_place hq hf, applies_of_place hq hg]
        exact ih

end Failure

namespace FileSystem

variable {fs fs' : FileSystem} {op : Operation} {path : Bytes} {target : Option Bytes} {α : Type}
  {action : FileSystem → Except Errno α × FileSystem} {loc : Location}

/-- The same files, and no failures are due. -/
def calm (fs : FileSystem) : FileSystem :=
  { fs with failures := [] }

/-! ### Operations that meet a failure -/

/-- A failure that is due is met, and nothing else happens. -/
lemma attempt_of_due {errno : Errno}
    (h : (Failure.take op (Path.resolve path) fs.failures).1 = some errno)
    (target : Option Bytes) (action : FileSystem → Except Errno α × FileSystem) :
    attempt op path target action fs = (.error ⟨op, path, target, errno⟩,
      { fs with failures := (Failure.take op (Path.resolve path) fs.failures).2 }) := by
  rw [attempt]
  generalize Failure.take op (Path.resolve path) fs.failures = taken at h ⊢
  obtain ⟨found, failures⟩ := taken
  obtain rfl : found = some errno := h
  rfl

/-- No failure was due for an operation that succeeds. -/
lemma of_attempt_eq_ok {a : α} (h : (attempt op path target action fs).1 = .ok a) :
    fs.Clear op path ∧ (action fs).1 = .ok a
      ∧ (attempt op path target action fs).2 = (action fs).2 := by
  cases hdue : (Failure.take op (Path.resolve path) fs.failures).1 with
  | some errno =>
      rw [attempt_of_due hdue] at h
      exact absurd h (by simp)
  | none =>
      rw [attempt_of_clear hdue] at h ⊢
      refine ⟨hdue, ?_, rfl⟩
      cases hr : (action fs).1 with
      | error errno =>
          rw [hr] at h
          exact absurd h (by simp [Except.mapError])
      | ok b =>
          rw [hr] at h
          exact congrArg Except.ok (Except.ok.inj h)

/-- An operation that fails tells what it is and where. -/
lemma exists_of_attempt_eq_error {e : FileError}
    (h : (attempt op path target action fs).1 = .error e) :
    ∃ errno, e = ⟨op, path, target, errno⟩ := by
  cases hdue : (Failure.take op (Path.resolve path) fs.failures).1 with
  | some errno =>
      rw [attempt_of_due hdue] at h
      exact ⟨errno, (Except.error.inj h).symm⟩
  | none =>
      rw [attempt_of_clear hdue] at h
      cases hr : (action fs).1 with
      | error errno =>
          rw [hr] at h
          exact ⟨errno, (Except.error.inj h).symm⟩
      | ok a =>
          rw [hr] at h
          exact absurd h (by simp [Except.mapError])

/-- An operation leaves the failures for other operations as they are. -/
lemma Clear.attempt {op' : Operation} {path' : Bytes} (h : fs.Clear op' path') (hne : op' ≠ op)
    (haction : (action fs).2.failures = fs.failures) :
    (attempt op path target action fs).2.Clear op' path' := by
  cases hdue : (Failure.take op (Path.resolve path) fs.failures).1 with
  | some errno =>
      rw [attempt_of_due hdue]
      exact (Failure.take_of_operation_ne hne _ _ _).trans h
  | none =>
      rw [attempt_of_clear hdue]
      exact h.of_failures_eq haction

/-- What the failures are about stays in an operation. -/
lemma forall_failures_attempt {Q : Failure → Prop} (hmet : ∀ f, Q f → Q f.met)
    (hall : ∀ f ∈ fs.failures, Q f) (haction : (action fs).2.failures = fs.failures) :
    ∀ f ∈ (attempt op path target action fs).2.failures, Q f := by
  cases hdue : (Failure.take op (Path.resolve path) fs.failures).1 with
  | some errno =>
      rw [attempt_of_due hdue]
      exact Failure.forall_mem_take hmet hall _ _
  | none =>
      rw [attempt_of_clear hdue, haction]
      exact hall

/-! ### Operations that succeed -/

lemma failures_setContent (fs : FileSystem) (loc : Location) (content : Bytes) :
    (fs.setContent loc content).failures = fs.failures := by
  rw [setContent]
  split <;> rfl

lemma failures_prepare (fs : FileSystem) (mode : Nat) (keep : Bool) (path : Bytes) :
    (fs.prepare mode keep path).2.failures = fs.failures := by
  obtain ⟨errno, heq⟩ | ⟨-, heq | ⟨e, heq⟩⟩ := prepare_cases fs mode keep path
  · rw [heq]
  · rw [heq]
  · rw [heq]
    rfl

/-- No failure was due for a file that could be written. -/
lemma of_write_eq_ok {mode : Nat} {content : Bytes}
    (h : (fs.write mode path content).1 = .ok ()) :
    fs.Clear .openToWrite path ∧ fs.Clear .write path
      ∧ (fs.write mode path content).2.failures = fs.failures := by
  have hprepared := failures_prepare fs mode false path
  have hopened (loc : Location) :=
    @of_attempt_eq_ok fs .openToWrite path none _ (prepare mode false path) loc
  rw [write] at h ⊢
  generalize attempt .openToWrite path none (prepare mode false path) fs = x at h hopened ⊢
  obtain ⟨r, fs₁⟩ := x
  cases r with
  | error e => exact absurd h (by simp)
  | ok loc =>
      obtain ⟨hopen, -, rfl⟩ := hopened loc rfl
      obtain ⟨hwrite, -, hafter⟩ := of_attempt_eq_ok h
      refine ⟨hopen, hwrite.of_failures_eq hprepared.symm, ?_⟩
      dsimp only
      rw [hafter, failures_setContent, hprepared]

/-- No failure was due for a file that could be moved. -/
lemma of_rename_eq_ok {source goal : Bytes} (h : (fs.rename source goal).1 = .ok ()) :
    fs.Clear .rename source ∧ (fs.rename source goal).2.failures = fs.failures := by
  refine ⟨(of_attempt_eq_ok h).1, ?_⟩
  obtain ⟨e, fs', -, heq⟩ | ⟨fs', heffect, heq⟩ := (Move.rename source goal).perform_cases fs
  · exact absurd (h.symm.trans (congrArg Prod.fst heq)) (by simp)
  · rw [show fs.rename source goal = _ from heq]
    exact heffect.failures_eq

/-- No failure was due for a directory that could be made, and its path is not empty. -/
lemma of_makeDirectories_eq_ok (h : (fs.makeDirectories path).1 = .ok ()) :
    fs.Clear .makeDirectory path ∧ path ≠ [] := by
  obtain ⟨hclear, haction, -⟩ := of_attempt_eq_ok h
  refine ⟨hclear, ?_⟩
  rintro rfl
  exact absurd haction (by simp)

/-! ### Reading -/

/-- A file that can be reached is read as it stands where no failure is due. -/
lemma read_of_clear {m : Nat} {c : Bytes} (hopen : fs.Clear .openToRead path)
    (hread : fs.Clear .read path) (h : fs.locate path = .ok (.file m c)) :
    fs.read path = (.ok c, fs) := by
  rw [read, attempt_of_clear hopen, h]
  dsimp only [Except.mapError]
  rw [attempt_of_clear hread]
  rfl

/-- Reading meets a failure, or the path leads to no file, or the file is read. -/
lemma read_cases (fs : FileSystem) (path : Bytes) :
    (∃ op errno, (op = .openToRead ∨ op = .read)
        ∧ (Failure.take op (Path.resolve path) fs.failures).1 = some errno
        ∧ fs.read path = (.error ⟨op, path, none, errno⟩,
          { fs with failures := (Failure.take op (Path.resolve path) fs.failures).2 }))
      ∨ (∃ errno, fs.locate path = .error errno
        ∧ fs.read path = (.error ⟨.openToRead, path, none, errno⟩, fs))
      ∨ (fs.locate path = .ok .directory
        ∧ fs.read path = (.error ⟨.read, path, none, .isDirectory⟩, fs))
      ∨ ∃ m c, fs.locate path = .ok (.file m c) ∧ fs.read path = (.ok c, fs) := by
  cases hopen : (Failure.take .openToRead (Path.resolve path) fs.failures).1 with
  | some errno =>
      refine .inl ⟨.openToRead, errno, .inl rfl, hopen, ?_⟩
      rw [read, attempt_of_due hopen]
  | none =>
      have hopened := attempt_of_clear hopen none fun fs => (fs.locate path, fs)
      cases hlocate : fs.locate path with
      | error errno =>
          rw [hlocate] at hopened
          refine .inr (.inl ⟨errno, rfl, ?_⟩)
          rw [read, hopened]
          rfl
      | ok entry =>
          rw [hlocate] at hopened
          cases hdue : (Failure.take .read (Path.resolve path) fs.failures).1 with
          | some errno =>
              refine .inl ⟨.read, errno, .inr rfl, hdue, ?_⟩
              rw [read, hopened]
              dsimp only [Except.mapError]
              rw [attempt_of_due hdue]
          | none =>
              cases entry with
              | directory =>
                  refine .inr (.inr (.inl ⟨rfl, ?_⟩))
                  rw [read, hopened]
                  dsimp only [Except.mapError]
                  rw [attempt_of_clear hdue]
                  rfl
              | file m c => exact .inr (.inr (.inr ⟨m, c, rfl, read_of_clear hopen hdue hlocate⟩))

/-- Reading changes nothing but the failure that it meets. -/
lemma read_snd_cases (fs : FileSystem) (path : Bytes) :
    (fs.read path).2 = fs ∨ ∃ op, (fs.read path).2
      = { fs with failures := (Failure.take op (Path.resolve path) fs.failures).2 } := by
  obtain ⟨op, errno, -, -, heq⟩ | ⟨errno, -, heq⟩ | ⟨-, heq⟩ | ⟨m, c, -, heq⟩ :=
    read_cases fs path
  · exact .inr ⟨op, by rw [heq]⟩
  · exact .inl (by rw [heq])
  · exact .inl (by rw [heq])
  · exact .inl (by rw [heq])

/-- What the failures are about stays while a file is read. -/
lemma forall_failures_read {Q : Failure → Prop} (hmet : ∀ f, Q f → Q f.met)
    (hall : ∀ f ∈ fs.failures, Q f) (path : Bytes) : ∀ f ∈ (fs.read path).2.failures, Q f := by
  obtain hkept | ⟨op, hmeet⟩ := fs.read_snd_cases path
  · rw [hkept]
    exact hall
  · rw [hmeet]
    exact Failure.forall_mem_take hmet hall op _

/-- Reading at one place leaves separate failures as they are at another. -/
lemma sameAt_read (hall : ∀ f ∈ fs.failures, f.Separate) (hne : Path.resolve path ≠ loc) :
    List.Forall₂ (Failure.SameAt loc) fs.failures (fs.read path).2.failures := by
  obtain hkept | ⟨op, hmeet⟩ := fs.read_snd_cases path
  · rw [hkept]
    exact Failure.sameAt_refl loc fs.failures
  · rw [hmeet]
    exact Failure.sameAt_take hall hne op

/-- What is read is where the path leads. -/
lemma locate_of_read_eq_ok {c : Bytes} (h : (fs.read path).1 = .ok c) :
    ∃ m, fs.locate path = .ok (.file m c) := by
  obtain ⟨op, errno, -, -, heq⟩ | ⟨errno, -, heq⟩ | ⟨-, heq⟩ | ⟨m, c', hlocate, heq⟩ :=
    read_cases fs path
  · exact absurd h (by simp [heq])
  · exact absurd h (by simp [heq])
  · exact absurd h (by simp [heq])
  · rw [heq] at h
    obtain rfl := Except.ok.inj h
    exact ⟨m, hlocate⟩

/-- The answer of reading depends on where the path leads and on the failures that are
due there. -/
lemma read_fst_congr (hlocate : fs'.locate path = fs.locate path)
    (hdue : ∀ op, (Failure.take op (Path.resolve path) fs'.failures).1
      = (Failure.take op (Path.resolve path) fs.failures).1) :
    (fs'.read path).1 = (fs.read path).1 := by
  rw [read, read]
  cases hopen : (Failure.take .openToRead (Path.resolve path) fs.failures).1 with
  | some errno => rw [attempt_of_due hopen, attempt_of_due ((hdue _).trans hopen)]
  | none =>
      rw [attempt_of_clear hopen, attempt_of_clear ((hdue _).trans hopen), hlocate]
      cases fs.locate path with
      | error errno => rfl
      | ok entry =>
          dsimp only [Except.mapError]
          cases hread : (Failure.take .read (Path.resolve path) fs.failures).1 with
          | some errno => rw [attempt_of_due hread, attempt_of_due ((hdue _).trans hread)]
          | none =>
              rw [attempt_of_clear hread, attempt_of_clear ((hdue _).trans hread)]
              cases entry <;> rfl

end FileSystem

end RegisterMachine
