/-
Commands in two worlds side by side.

* `CommandError.seen`: what can be seen of an error besides its message;
* `World.Parallel`: two worlds with files that are alike;
* `Matched`: results that cannot be told apart, in worlds that are alike;
* `Run.matched_perform`: **a program runs alike in both**, also with other colours;
* `Registers.matched_show`, `Registers.matched_set`, `Registers.matched_reset`,
  `Password.matched_store`, `Documentation.matched_show`: so do other commands.

In all of them `S` says that the output is to be the same, too.
-/
import RegisterMachine.Proofs.Command.Changes
import RegisterMachine.Proofs.Password.Start
import RegisterMachine.Proofs.Store.Parallel

namespace RegisterMachine

variable {D : Location → Prop} {T : Location → Bytes → Prop} {S : Prop} {w w' : World}
  {d path : Bytes} {settings settings' : Settings} {colours colours' : Palette} {α : Type}

/-! ### Worlds and results -/

/-- The status that an error stands for, and what is printed on the output about it. -/
def CommandError.seen (e : CommandError) : Nat × Bytes :=
  (e.exitCode, e.report.1)

/-- Two worlds with files that are alike, in which the same has been printed if `S`
holds, and where logging has been set up in both or in none. -/
structure World.Parallel (D : Location → Prop) (T : Location → Bytes → Prop) (S : Prop)
    (w w' : World) : Prop where
  files : FileSystem.Parallel D T w.files w'.files
  output : S → w'.output = w.output
  threshold : w'.threshold.isSome = w.threshold.isSome

/-- Results that cannot be told apart but for the messages of errors, in worlds that are
alike. -/
structure Matched (D : Location → Prop) (T : Location → Bytes → Prop) (S : Prop)
    (x x' : Except CommandError α × World) : Prop where
  seen : x'.1.mapError CommandError.seen = x.1.mapError CommandError.seen
  world : World.Parallel D T S x.2 x'.2

lemma World.files_log_eq (w : World) (r : Log.Record) :
    (w.log r).files = if w.threshold.isSome then w.files.append r.object else w.files := by
  rw [log]
  cases w.threshold with
  | none => rfl
  | some least =>
      rw [if_pos (show (some least).isSome = true from rfl)]
      dsimp only
      split_ifs <;> rfl

lemma World.threshold_log (w : World) (r : Log.Record) : (w.log r).threshold = w.threshold := by
  rw [log]
  cases hthreshold : w.threshold with
  | none => exact hthreshold
  | some least =>
      dsimp only
      split_ifs <;> exact hthreshold

namespace World.Parallel

lemma matched (h : World.Parallel D T S w w') (r : Except CommandError α) :
    Matched D T S (r, w) (r, w') :=
  ⟨rfl, h⟩

lemma matched_error (h : World.Parallel D T S w w') {e e' : CommandError}
    (he : e'.seen = e.seen) : Matched (α := α) D T S (.error e, w) (.error e', w') :=
  ⟨congrArg Except.error he, h⟩

lemma withFiles (h : World.Parallel D T S w w') {files files' : FileSystem}
    (hfiles : FileSystem.Parallel D T files files') :
    World.Parallel D T S (w.withFiles files) (w'.withFiles files') :=
  ⟨hfiles, h.output, h.threshold⟩

lemma print (h : World.Parallel D T S w w') {s s' : Bytes} (hs : S → s' = s) :
    World.Parallel D T S (w.print s) (w'.print s') :=
  ⟨h.files, fun hS => congrArg₂ (· ++ ·) (h.output hS) (hs hS), h.threshold⟩

/-- The same record is logged in both. -/
lemma log (h : World.Parallel D T S w w') (r : Log.Record) :
    World.Parallel D T S (w.log r) (w'.log r) := by
  refine ⟨?_, fun hS => ?_, ?_⟩
  · rw [files_log_eq, files_log_eq, h.threshold]
    split_ifs
    · exact h.files.append _
    · exact h.files
  · rw [output_log, output_log, h.output hS]
  · rw [threshold_log, threshold_log]
    exact h.threshold

lemma logOption (h : World.Parallel D T S w w') (r : Option Log.Record) :
    World.Parallel D T S ((r.map w.log).getD w) ((r.map w'.log).getD w') := by
  cases r with
  | none => exact h
  | some r => exact h.log r

end World.Parallel

/-! ### Programs -/

namespace Run

/-- Loading gives the same bank in both worlds, or errors. -/
lemma load_cases (h : World.Parallel D T S w w')
    (hway : ∀ q ∈ Path.prefixes (Path.resolve d), ¬ D q)
    (hslots : ∀ i ∈ Store.registers, ¬ D (Slot.place (Path.resolve d) (i : Nat)))
    (hT : ∀ q c, T q c → Slot.size < c.length) :
    ∃ w₁ w₁', World.Parallel D T S w₁ w₁'
      ∧ ((∃ b, load d w = (.ok b, w₁) ∧ load d w' = (.ok b, w₁'))
        ∨ ∃ errors errors', load d w = (.error (.load d errors), w₁)
          ∧ load d w' = (.error (.load d errors'), w₁')) := by
  obtain ⟨b, errors, errors', hload, hload', hlength⟩ :=
    Store.load_parallel h.files hway hslots hT
  have hrecord : Store.loadRecord d b errors' = Store.loadRecord d b errors := by
    rw [Store.loadRecord, Store.loadRecord, Store.record, Store.record, hlength]
  have hlogged := (h.withFiles h.files).log (Store.loadRecord d b errors)
  refine ⟨_, _, hlogged, ?_⟩
  rw [load, load, hload, hload']
  dsimp only
  rw [hrecord]
  cases errors with
  | nil =>
      obtain rfl := List.length_eq_zero_iff.mp hlength
      exact .inl ⟨b, rfl, rfl⟩
  | cons e errors =>
      cases errors' with
      | nil => exact absurd hlength (by simp)
      | cons e' errors' => exact .inr ⟨_, _, rfl, rfl⟩

/-- Saving has the same result in both worlds. -/
lemma save_parallel (h : World.Parallel D T S w w')
    (hstore : ∀ q, Store.Guarded (Path.resolve d) q → ¬ D q) (b : Bank) :
    ∃ errors w₁ w₁', save d b w = (errors, w₁) ∧ save d b w' = (errors, w₁')
      ∧ World.Parallel D T S w₁ w₁' := by
  obtain ⟨saving, files, files', hsave, hsave', hfiles⟩ := Store.save_parallel h.files hstore b
  rw [save, save, hsave, hsave']
  exact ⟨_, _, _, rfl, rfl, (h.withFiles hfiles).logOption _⟩

lemma deliverEvent_parallel (h : World.Parallel D T S w w')
    (hstore : ∀ q, Store.Guarded (Path.resolve d) q → ¬ D q) (hcolours : S → colours' = colours)
    (e : Event) :
    ∃ errors w₁ w₁', deliverEvent colours d e w = (errors, w₁)
      ∧ deliverEvent colours' d e w' = (errors, w₁') ∧ World.Parallel D T S w₁ w₁' := by
  have hprinted := h.print (show S → e.output colours' = e.output colours from
    fun hS => by rw [hcolours hS])
  have hlogged := hprinted.logOption e.record?
  cases e with
  | save b => exact save_parallel hlogged hstore b
  | _ => exact ⟨_, _, _, rfl, rfl, hlogged⟩

/-- The events of a run have the same results in both worlds. -/
lemma deliver_parallel (h : World.Parallel D T S w w')
    (hstore : ∀ q, Store.Guarded (Path.resolve d) q → ¬ D q) (hcolours : S → colours' = colours)
    (es : List Event) :
    ∃ errors w₁ w₁', deliver colours d es w = (errors, w₁)
      ∧ deliver colours' d es w' = (errors, w₁') ∧ World.Parallel D T S w₁ w₁' := by
  induction es generalizing w w' with
  | nil => exact ⟨_, _, _, rfl, rfl, h⟩
  | cons e es ih =>
      obtain ⟨errors, w₁, w₁', hevent, hevent', h₁⟩ := deliverEvent_parallel h hstore hcolours e
      obtain ⟨later, w₂, w₂', hrest, hrest', h₂⟩ := ih h₁
      rw [deliver, deliver, hevent, hevent']
      dsimp only
      rw [hrest, hrest']
      exact ⟨_, _, _, rfl, rfl, h₂⟩

lemma matched_execute (h : World.Parallel D T S w w')
    (hdirectory : settings'.registersDirectory = settings.registersDirectory)
    (hstore : ∀ q, Store.Guarded (Path.resolve settings.registersDirectory) q → ¬ D q)
    (hcolours : S → colours' = colours) (path : Bytes) (p : Program) (b : Bank) :
    Matched D T S (execute settings colours path p b w)
      (execute settings' colours' path p b w') := by
  obtain ⟨errors, w₁, w₁', hdeliver, hdeliver', h₁⟩ :=
    deliver_parallel h hstore hcolours (({ bank := b } : Machine).run p).2
  rw [execute, execute, hdirectory]
  dsimp only
  rw [hdeliver, hdeliver']
  split_ifs
  · exact (h₁.log _).matched _
  · exact (h₁.log _).matched _

/-- **A program runs alike in both worlds**, also with other colours, unless it is read
from the log. -/
theorem matched_perform (h : World.Parallel D T S w w')
    (hdirectory : settings'.registersDirectory = settings.registersDirectory)
    (hknown : palette settings = .ok colours)
    (hknown' : palette settings' = .ok colours')
    (hstore : ∀ q, Store.Guarded (Path.resolve settings.registersDirectory) q → ¬ D q)
    (hT : ∀ q c, T q c → Slot.size < c.length) (hcolours : S → colours' = colours)
    (hpath : ¬ D (Path.resolve path)) (hprogram : ∀ c, ¬ T (Path.resolve path) c) :
    Matched D T S (perform settings path w) (perform settings' path w') := by
  have hway : ∀ q ∈ Path.prefixes (Path.resolve settings.registersDirectory), ¬ D q :=
    fun q hq => hstore q (.inl hq)
  have hslots : ∀ i ∈ Store.registers,
      ¬ D (Slot.place (Path.resolve settings.registersDirectory) (i : Nat)) :=
    fun i hi => hstore _ (Store.guarded_place (List.mem_range.mp hi))
  rw [perform, perform, hknown, hknown', hdirectory]
  dsimp only
  rw [Program.fetch, Program.fetch]
  obtain ⟨e, e', hread, hread', -⟩ | ⟨c, hread, hread'⟩ | ⟨c, x, x', hc, -⟩ :=
    h.files.read_cases hpath
  · rw [hread, hread']
    exact (h.withFiles h.files).matched_error rfl
  · rw [hread, hread']
    dsimp only
    obtain ⟨w₁, w₁', h₁, ⟨b, hload, hload'⟩ | ⟨errors, errors', hload, hload'⟩⟩ := load_cases
      ((h.withFiles h.files).log (loadedRecord path (Program.parse c))) hway hslots hT
    · rw [hload, hload']
      exact matched_execute h₁ hdirectory hstore hcolours path _ b
    · rw [hload, hload']
      exact h₁.matched_error rfl
  · exact absurd hc (hprogram c)

end Run

/-! ### The commands on the stored registers -/

namespace Registers

/-- The registers are shown alike in both worlds. -/
lemma matched_show (h : World.Parallel D T S w w')
    (hway : ∀ q ∈ Path.prefixes (Path.resolve settings.registersDirectory), ¬ D q)
    (hslots : ∀ i ∈ Store.registers,
      ¬ D (Slot.place (Path.resolve settings.registersDirectory) (i : Nat)))
    (hT : ∀ q c, T q c → Slot.size < c.length) (format : Bytes) :
    Matched D T S (Registers.show settings format w) (Registers.show settings format w') := by
  rw [Registers.show, Registers.show]
  cases Run.palette settings with
  | error e => exact h.matched _
  | ok colours =>
      dsimp only
      obtain ⟨w₁, w₁', h₁, ⟨b, hload, hload'⟩ | ⟨errors, errors', hload, hload'⟩⟩ :=
        Run.load_cases h hway hslots hT
      · rw [hload, hload']
        dsimp only
        cases Format.ofName? format with
        | none => exact h₁.matched _
        | some f => exact (h₁.print fun _ => rfl).matched _
      · rw [hload, hload']
        exact h₁.matched_error rfl

/-- A register is set alike in both worlds. -/
lemma matched_set (h : World.Parallel D T S w w')
    (hstore : ∀ q, Store.Guarded (Path.resolve settings.registersDirectory) q → ¬ D q)
    (hT : ∀ q c, T q c → Slot.size < c.length) (token text : Bytes) :
    Matched D T S (set settings token text w) (set settings token text w') := by
  rw [set, set]
  cases assignment token text with
  | error e => exact h.matched _
  | ok a =>
      obtain ⟨i, n⟩ := a
      dsimp only
      rw [store, store]
      obtain ⟨w₁, w₁', h₁, ⟨b, hload, hload'⟩ | ⟨errors, errors', hload, hload'⟩⟩ :=
        Run.load_cases h (fun q hq => hstore q (.inl hq))
          (fun i hi => hstore _ (Store.guarded_place (List.mem_range.mp hi))) hT
      · rw [hload, hload']
        dsimp only
        cases b.set i (BitVec.ofNat 64 n) with
        | error cause => exact h₁.matched _
        | ok b' =>
            obtain ⟨errors, w₂, w₂', hsave, hsave', h₂⟩ := Run.save_parallel h₁ hstore b'
            dsimp only
            rw [hsave, hsave']
            cases errors with
            | nil => exact (h₂.log _).matched _
            | cons e errors => exact h₂.matched _
      · rw [hload, hload']
        exact h₁.matched_error rfl

/-- The registers are reset alike in both worlds. -/
lemma matched_reset (h : World.Parallel D T S w w')
    (hway : ∀ q ∈ Path.prefixes (Path.resolve settings.registersDirectory), ¬ D q)
    (hslots : ∀ i ∈ Store.registers,
      ¬ D (Slot.place (Path.resolve settings.registersDirectory) (i : Nat))
        ∧ ∀ n, ¬ D (Slot.place (Path.resolve settings.registersDirectory) i ++ [n])) :
    Matched D T S (reset settings w) (reset settings w') := by
  obtain ⟨errors, files, files', hclear, hclear', hfiles⟩ :=
    Store.clear_parallel h.files hway hslots
  rw [reset, reset, hclear, hclear']
  cases errors with
  | nil => exact ((h.withFiles hfiles).log _).matched _
  | cons e errors => exact (h.withFiles hfiles).matched _

end Registers

/-! ### The other commands -/

/-- A password is stored alike in both worlds. -/
lemma Password.matched_store (h : World.Parallel D T S w w')
    (hpath : ¬ D (Path.resolve settings.hashFile)) (cost : Int) (input salt : Bytes) :
    Matched D T S (store settings cost input salt w) (store settings cost input salt w') := by
  rw [store, store]
  cases firstLine input with
  | error e => exact h.matched _
  | ok password =>
      dsimp only
      rw [PasswordFile.write, PasswordFile.write]
      cases PasswordFile.hash password cost salt with
      | error e => exact (h.withFiles h.files).matched _
      | ok text =>
          dsimp only
          obtain ⟨errno, errno', hwrite, hwrite', -⟩ | ⟨files, files', m, hwrite, hwrite', hfiles,
              -⟩ := h.files.write_cases hpath PasswordFile.mode text
          · rw [hwrite, hwrite']
            exact (h.withFiles h.files).matched_error rfl
          · rw [hwrite, hwrite']
            exact ((h.withFiles hfiles).log _).matched _

/-- The judgement on a password is the same on both sides, if it does not depend on how a
log goes on; or the file cannot be read on either side. -/
lemma PasswordFile.verify_parallel {fs fs' : FileSystem} (h : FileSystem.Parallel D T fs fs')
    (hpath : ¬ D (Path.resolve path)) (password : Bytes)
    (hlog : ∀ c x x', T (Path.resolve path) c →
      judge path password (c ++ x') = judge path password (c ++ x)) :
    (∃ e e', verify path password fs = (.error e, fs) ∧ verify path password fs' = (.error e', fs'))
      ∨ ∃ r, verify path password fs = (r, fs) ∧ verify path password fs' = (r, fs') := by
  obtain ⟨e, e', hread, hread', -⟩ | ⟨c, hread, hread'⟩ | ⟨c, x, x', hc, hread, hread'⟩ :=
    h.read_cases hpath
  · exact .inl ⟨_, _, verify_of_error hread password, verify_of_error hread' password⟩
  · exact .inr ⟨_, verify_of_read hread password, verify_of_read hread' password⟩
  · refine .inr ⟨_, verify_of_read hread password, ?_⟩
    rw [verify_of_read hread' password, hlog c x x' hc]

/-- A password is checked alike in both worlds, if that does not depend on how a log
goes on. -/
lemma Password.matched_check (h : World.Parallel D T S w w')
    (hpath : ¬ D (Path.resolve settings.hashFile)) (input : Bytes)
    (hlog : ∀ password c x x', T (Path.resolve settings.hashFile) c →
      PasswordFile.judge settings.hashFile password (c ++ x')
        = PasswordFile.judge settings.hashFile password (c ++ x)) :
    Matched D T S (check settings input w) (check settings input w') := by
  rw [check, check]
  cases firstLine input with
  | error e => exact h.matched _
  | ok password =>
      dsimp only
      obtain ⟨e, e', hverify, hverify'⟩ | ⟨r, hverify, hverify'⟩ :=
        PasswordFile.verify_parallel h.files hpath password (hlog password)
      · rw [hverify, hverify']
        exact (h.withFiles h.files).matched_error rfl
      · rw [hverify, hverify']
        cases r with
        | error e => exact (h.withFiles h.files).matched _
        | ok isMatch =>
            have hlogged :=
              (h.withFiles h.files).log (checkedRecord settings.hashFile isMatch)
            dsimp only
            split_ifs
            · exact (hlogged.print fun _ => rfl).matched _
            · exact (hlogged.print fun _ => rfl).matched _

/-- The manual is shown alike in both worlds. -/
lemma Documentation.matched_show (h : World.Parallel D T S w w')
    (hpath : path ≠ [] → ¬ D (Path.resolve path)) (t : Manual.Topic) :
    Matched D T S (Documentation.show t path w) (Documentation.show t path w') := by
  rw [Documentation.show, Documentation.show]
  split_ifs with hempty
  · exact (h.print fun _ => rfl).matched _
  · rw [write, write]
    obtain ⟨errno, errno', hwrite, hwrite', -⟩ | ⟨files, files', m, hwrite, hwrite', hfiles, -⟩ :=
      h.files.write_cases (hpath (by simpa using hempty)) mode (page t)
    · rw [hwrite, hwrite']
      exact (h.withFiles h.files).matched_error rfl
    · rw [hwrite, hwrite']
      exact (h.withFiles hfiles).matched _

end RegisterMachine
