/-
The course of running a program, whatever failures are due.

* `Program.console`: the text that a program prints;
* `Run.fetched`, `Run.announced`: the world when the program has been read, and
  when it has run and its bank is still to be saved;
* `Run.perform_cases`: **a program cannot be read, or the bank cannot be loaded, or
  the program runs and its bank is saved**, with what is printed;
* `World.Logged`: nothing is printed and nothing is changed but the log;
* `World.Alike`: worlds that cannot be told apart by looking at certain places.
-/
import RegisterMachine.Command.Run
import RegisterMachine.Proofs.Command.Stored
import RegisterMachine.Proofs.Store.Loading

namespace RegisterMachine

open FileSystem (Spent Agree Twins AppendsTo)

variable {L P : Location → Prop} {fs fs' : FileSystem} {w w' w'' : World} {d path : Bytes}

/-! ### Reading -/

lemma Program.spent_fetch (path : Bytes) (fs : FileSystem) :
    Spent fs (Program.fetch path fs).2 := by
  have hread := FileSystem.spent_read fs path
  rw [Program.fetch]
  generalize fs.read path = x at hread ⊢
  obtain ⟨r, fs₁⟩ := x
  cases r <;> exact hread

lemma Program.twins_fetch (h : Agree P fs fs') (hpath : P (Path.resolve path)) :
    Twins P (Program.fetch path fs) (Program.fetch path fs') := by
  obtain ⟨r, fs₁, fs₁', hx, hx', hagree⟩ := (FileSystem.twins_read h hpath).exists_pair
  rw [Program.fetch, Program.fetch, hx, hx']
  cases r <;> exact ⟨rfl, hagree⟩

/-! ### Logging -/

namespace World

/-- Nothing is printed, and entries are changed at places with `L` only, where the
file held open is. -/
structure Logged (L : Location → Prop) (w w' : World) : Prop where
  output_eq : w'.output = w.output
  files : FileSystem.Logged L w.files w'.files

lemma Logged.trans (h : Logged L w w') (h' : Logged L w' w'') : Logged L w w'' :=
  ⟨h'.output_eq.trans h.output_eq, h.files.trans h'.files⟩

lemma logged_withFiles {files : FileSystem} (h : FileSystem.Logged L w.files files) :
    Logged L w (w.withFiles files) :=
  ⟨rfl, h⟩

lemma logged_log (h : w.files.AppendsTo L) (r : Log.Record) : Logged L w (w.log r) := by
  refine ⟨output_log w r, ?_⟩
  rw [log]
  split
  · exact h.logged_refl
  · dsimp only
    split_ifs
    · exact h.logged_append _
    · exact h.logged_append _

/-- Worlds that cannot be told apart by looking at places with `P`. -/
structure Alike (P : Location → Prop) (w w' : World) : Prop where
  output_eq : w'.output = w.output
  errors_eq : w'.errors = w.errors
  threshold_eq : w'.threshold = w.threshold
  files : Agree P w.files w'.files

lemma Alike.log (h : Alike P w w') (r : Log.Record) : Alike P (w.log r) (w'.log r) := by
  rw [World.log, World.log, h.threshold_eq]
  split
  · exact h
  · have hfiles := h.files.append r.object
    dsimp only
    split_ifs
    · exact ⟨h.output_eq, congrArg (· ++ r.line) h.errors_eq, h.threshold_eq, hfiles⟩
    · exact ⟨h.output_eq, h.errors_eq, h.threshold_eq, hfiles⟩

end World

/-! ### What a program prints -/

/-- The text that a program prints: a line for each value that it shows, and one
for the fault with which it stops, if there is one. -/
def Program.console (colours : Palette) (p : Program) (b : Bank) : Bytes :=
  ((Instruction.showsAll b p.body).flatMap fun (_, v) =>
      colours.green (decimal v.toNat) ++ newline)
    ++ p.fault?.toList.flatMap fun f => colours.red f.message ++ newline

/-- Only events for the console print. -/
lemma Event.flatMap_output (colours : Palette) (es : List Event) :
    es.flatMap (Event.output colours)
      = (es.filter Event.isConsole).flatMap (Event.output colours) := by
  induction es with
  | nil => rfl
  | cons e es ih =>
      rw [List.flatMap_cons, ih]
      cases e <;> rfl

/-- The events of a run print the text of the program. -/
lemma Machine.output_run (colours : Palette) (p : Program) (b : Bank) :
    (({ bank := b } : Machine).run p).2.flatMap (Event.output colours) = p.console colours b := by
  have hfault : (reference p b).state = .halted → (reference p b).fault = none :=
    fun h => Program.fault?_of_halted h
  rw [Event.flatMap_output, run_eq, List.filter_append, Instruction.console_eventsAll,
    console_closing hfault, List.flatMap_append, List.flatMap_map, List.flatMap_map]
  rfl

/-- Saving the bank is the last event of a run, and the only one of its kind. -/
lemma Machine.exists_front (p : Program) (b : Bank) :
    ∃ front, (({ bank := b } : Machine).run p).2 = front ++ [.save (p.result b)]
      ∧ front.filterMap Event.bank? = []
      ∧ (({ bank := b } : Machine).run p).2.dropLast = front := by
  have hlast : (({ bank := b } : Machine).run p).2.getLast? = some (.save (p.result b)) := by
    rw [run_eq, List.getLast?_append, getLast?_closing]
    rfl
  have hbanks := banks_run p { bank := b }
  obtain ⟨front, hfront⟩ := List.getLast?_eq_some_iff.mp hlast
  refine ⟨front, hfront, ?_, by rw [hfront, List.dropLast_concat]⟩
  rw [hfront, List.filterMap_append] at hbanks
  have hlength := congrArg List.length hbanks
  rw [List.length_append] at hlength
  exact List.length_eq_zero_iff.mp (by simpa [Event.bank?] using hlength)

/-! ### The course of a run -/

namespace Run

lemma output_load (d : Bytes) (w : World) : (load d w).2.output = w.output := by
  rw [load]
  exact World.output_log _ _

lemma output_save (d : Bytes) (b : Bank) (w : World) : (save d b w).2.output = w.output := by
  rw [save]
  dsimp only
  cases Store.saveRecord? d b (Store.save d b w.files).1 with
  | none => rfl
  | some r => exact World.output_log _ r

lemma output_deliverEvent (colours : Palette) (d : Bytes) (e : Event) (w : World) :
    (deliverEvent colours d e w).2.output = w.output ++ e.output colours := by
  have hlogged (r : Option Log.Record) :
      ((r.map (w.print (e.output colours)).log).getD (w.print (e.output colours))).output
        = w.output ++ e.output colours := by
    cases r with
    | none => rfl
    | some r => exact World.output_log _ r
  cases e with
  | save b => exact (output_save d b _).trans (hlogged _)
  | _ => exact hlogged _

/-- Events are printed one after another. -/
lemma output_deliver (colours : Palette) (d : Bytes) (es : List Event) (w : World) :
    (deliver colours d es w).2.output = w.output ++ es.flatMap (Event.output colours) := by
  induction es generalizing w with
  | nil => simp [deliver]
  | cons e es ih =>
      rw [deliver]
      dsimp only
      rw [ih, output_deliverEvent, List.flatMap_cons, List.append_assoc]

lemma deliver_append (colours : Palette) (d : Bytes) (es es' : List Event) (w : World) :
    deliver colours d (es ++ es') w
      = ((deliver colours d es w).1 ++ (deliver colours d es' (deliver colours d es w).2).1,
          (deliver colours d es' (deliver colours d es w).2).2) := by
  induction es generalizing w with
  | nil => rfl
  | cons e es ih =>
      rw [List.cons_append, deliver, deliver]
      dsimp only
      rw [ih, List.append_assoc]

/-- Events other than saves meet no errors of the store. -/
lemma errors_deliver_of_banks_nil {es : List Event} (h : es.filterMap Event.bank? = [])
    (colours : Palette) (d : Bytes) (w : World) : (deliver colours d es w).1 = [] := by
  induction es generalizing w with
  | nil => rfl
  | cons e es ih =>
      cases e with
      | save b => simp [Event.bank?] at h
      | _ => exact ih h _

lemma errors_deliver_save (colours : Palette) (d : Bytes) (b : Bank) (w : World) :
    (deliver colours d [.save b] w).1 = (Store.save d b w.files).1.errors := by
  rw [deliver]
  exact List.append_nil _

/-- The world when the program at `path` has been read. -/
def fetched (path : Bytes) (p : Program) (w : World) : World :=
  (w.withFiles (Program.fetch path w.files).2).log (loadedRecord path p)

/-- The world when a program has run on the bank of a store, and its own is still to
be saved. -/
def announced (colours : Palette) (d : Bytes) (p : Program) (b : Bank) (w : World) : World :=
  (deliver colours d (({ bank := b } : Machine).run p).2.dropLast (load d w).2).2

lemma logged_fetched (h : w.files.AppendsTo L) (path : Bytes) (p : Program) :
    World.Logged L w (fetched path p w) := by
  have hread := World.logged_withFiles (h.logged_of_spent (Program.spent_fetch path w.files))
  exact hread.trans (World.logged_log hread.files.appendsTo _)

lemma logged_load (h : w.files.AppendsTo L) (d : Bytes) : World.Logged L w (load d w).2 := by
  have hread := World.logged_withFiles (h.logged_of_spent (Store.spent_load d w.files))
  exact hread.trans (World.logged_log hread.files.appendsTo _)

/-- The errors of saving the bank that a program ends with. -/
def savingErrors (colours : Palette) (d : Bytes) (p : Program) (b : Bank) (w : World) :
    List StoreError :=
  (Store.save d (p.result b) (announced colours d p b w).files).1.errors

lemma output_execute (settings : Settings) (colours : Palette) (path : Bytes) (p : Program)
    (b : Bank) (w : World) :
    (execute settings colours path p b w).2.output = w.output ++ p.console colours b := by
  have houtput := output_deliver colours settings.registersDirectory
    (({ bank := b } : Machine).run p).2 w
  rw [Machine.output_run] at houtput
  rw [execute]
  dsimp only
  split_ifs
  · exact (World.output_log _ _).trans houtput
  · exact (World.output_log _ _).trans houtput

/-- Running a program fails only if the bank that it ends with cannot be saved. -/
lemma execute_fst (settings : Settings) (colours : Palette) (path : Bytes) (p : Program)
    (b : Bank) (w : World) :
    (execute settings colours path p b (load settings.registersDirectory w).2).1
      = if savingErrors colours settings.registersDirectory p b w = [] then .ok ()
        else .error (.persistence (savingErrors colours settings.registersDirectory p b w)) := by
  have herrors : (deliver colours settings.registersDirectory (({ bank := b } : Machine).run p).2
      (load settings.registersDirectory w).2).1
        = savingErrors colours settings.registersDirectory p b w := by
    obtain ⟨front, hrun, hfront, hdropLast⟩ := Machine.exists_front p b
    rw [savingErrors, announced, hdropLast, hrun, deliver_append,
      errors_deliver_of_banks_nil hfront, errors_deliver_save]
    rfl
  rw [execute]
  dsimp only
  rw [herrors]
  cases savingErrors colours settings.registersDirectory p b w <;> rfl

section

variable {settings : Settings} {colours : Palette} {p : Program} {b : Bank}

lemma load_of_nil (h : (Store.load d w.files).1 = (b, [])) : (load d w).1 = .ok b := by
  rw [load]
  generalize Store.load d w.files = x at h ⊢
  obtain ⟨answer, files⟩ := x
  obtain rfl : answer = (b, []) := h
  rfl

lemma load_of_ne_nil (h : (Store.load d w.files).1.2 ≠ []) :
    (load d w).1 = .error (.load d (Store.load d w.files).1.2) := by
  rw [load]
  generalize Store.load d w.files = x at h ⊢
  obtain ⟨⟨b, errors⟩, files⟩ := x
  cases errors with
  | nil => exact absurd rfl h
  | cons e errors => rfl

/-- A program that cannot be read ends the run. -/
lemma perform_of_unread (hcolours : palette settings = .ok colours)
    {e : Program.ReadError} (h : (Program.fetch path w.files).1 = .error e) :
    perform settings path w
      = (.error (.program e), w.withFiles (Program.fetch path w.files).2) := by
  rw [perform, hcolours]
  dsimp only
  generalize Program.fetch path w.files = x at h ⊢
  obtain ⟨r, files⟩ := x
  obtain rfl : r = .error e := h
  rfl

/-- Goes on when the bank is to be loaded. -/
def continued (settings : Settings) (colours : Palette) (path : Bytes) (p : Program) :
    Except CommandError Bank × World → Except CommandError Unit × World
  | (.error e, w) => (.error e, w)
  | (.ok b, w) => execute settings colours path p b w

lemma perform_of_read (hcolours : palette settings = .ok colours)
    (h : (Program.fetch path w.files).1 = .ok p) :
    perform settings path w = continued settings colours path p
      (load settings.registersDirectory (fetched path p w)) := by
  rw [perform, hcolours, fetched]
  dsimp only
  generalize Program.fetch path w.files = x at h ⊢
  obtain ⟨r, files⟩ := x
  obtain rfl : r = .ok p := h
  dsimp only
  obtain ⟨r', w'⟩ := load settings.registersDirectory _
  cases r' <;> rfl

/-- A bank that cannot be loaded ends the run. -/
lemma perform_of_unloaded (hcolours : palette settings = .ok colours)
    (h : (Program.fetch path w.files).1 = .ok p) {e : CommandError}
    (hload : (load settings.registersDirectory (fetched path p w)).1 = .error e) :
    perform settings path w
      = (.error e, (load settings.registersDirectory (fetched path p w)).2) := by
  rw [perform_of_read hcolours h]
  generalize load settings.registersDirectory (fetched path p w) = x at hload ⊢
  obtain ⟨r, w'⟩ := x
  obtain rfl : r = .error e := hload
  rfl

lemma perform_of_loaded (hcolours : palette settings = .ok colours)
    (h : (Program.fetch path w.files).1 = .ok p)
    (hload : (load settings.registersDirectory (fetched path p w)).1 = .ok b) :
    perform settings path w = execute settings colours path p b
      (load settings.registersDirectory (fetched path p w)).2 := by
  rw [perform_of_read hcolours h]
  generalize load settings.registersDirectory (fetched path p w) = x at hload ⊢
  obtain ⟨r, w'⟩ := x
  obtain rfl : r = .ok b := hload
  rfl

/-- **The course of a run.**  The program cannot be read, or it can and the bank
cannot be loaded, or both can and the program runs; then it prints its text, and
only saving its bank may fail. -/
theorem perform_cases (hcolours : palette settings = .ok colours) (path : Bytes)
    (w : World) :
    (∃ e, (Program.fetch path w.files).1 = .error e
        ∧ perform settings path w
          = (.error (.program e), w.withFiles (Program.fetch path w.files).2))
      ∨ (∃ p errors, (Program.fetch path w.files).1 = .ok p
        ∧ (Store.load settings.registersDirectory (fetched path p w).files).1.2 = errors
        ∧ errors ≠ []
        ∧ perform settings path w = (.error (.load settings.registersDirectory errors),
          (load settings.registersDirectory (fetched path p w)).2))
      ∨ ∃ p b, (Program.fetch path w.files).1 = .ok p
        ∧ (Store.load settings.registersDirectory (fetched path p w).files).1 = (b, [])
        ∧ (perform settings path w).2.output = w.output ++ p.console colours b
        ∧ (perform settings path w).1
          = if savingErrors colours settings.registersDirectory p b (fetched path p w) = []
            then .ok ()
            else .error (.persistence
              (savingErrors colours settings.registersDirectory p b (fetched path p w))) := by
  cases hfetch : (Program.fetch path w.files).1 with
  | error e => exact .inl ⟨e, rfl, perform_of_unread hcolours hfetch⟩
  | ok p =>
      refine .inr ?_
      cases hload : (Store.load settings.registersDirectory (fetched path p w).files).1 with
      | mk b errors =>
          by_cases herrors : errors = []
          · rw [herrors] at hload
            refine .inr ⟨p, b, rfl, hload, ?_⟩
            rw [perform_of_loaded hcolours hfetch (load_of_nil hload)]
            refine ⟨?_, execute_fst settings colours path p b _⟩
            rw [output_execute, output_load, fetched, World.output_log]
            rfl
          · have hne : (Store.load settings.registersDirectory
                (fetched path p w).files).1.2 ≠ [] := by
              rw [hload]
              exact herrors
            refine .inl ⟨p, _, rfl, rfl, hne, ?_⟩
            exact perform_of_unloaded hcolours hfetch (load_of_ne_nil hne)

end

end Run

end RegisterMachine
