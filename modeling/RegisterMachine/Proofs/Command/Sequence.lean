/-
Programs one after another.

* `Program.Passes`: no line of a program stops it, and
  `Program.passes_of_completed`: such are the programs that are executed to their end;
* `Program.body_append`, `Program.result_append`, `Program.faultFrom_append`: behind
  such a program the next one goes on with its bank, and its lines are counted on;
* `Program.console_append`: what both print as one program.
-/
import RegisterMachine.Proofs.Command.Course
import RegisterMachine.Proofs.Program.Lines

namespace RegisterMachine

namespace Program

/-- No line stops the program. -/
def Passes (p : Program) : Prop :=
  ∀ l ∈ p, ∃ i, Instruction.decode l = .ok i ∧ i ≠ .halt

/-- No line stops a program that is executed to its end. -/
lemma passes_of_completed {p : Program} (h : p.ending = .completed) : p.Passes := by
  intro l hl
  have hall := List.findIdx_eq_length.mp (stopLine_of_completed h)
  exact exists_of_not_stopsAt (by simpa using hall l hl)

variable {p : Program}

lemma body_append (h : p.Passes) (q : Program) : body (p ++ q) = p.body ++ q.body := by
  induction p with
  | nil => rfl
  | cons l p ih =>
      obtain ⟨i, hdecode, hi⟩ := h l (by simp)
      rw [List.cons_append, body_cons_pass hdecode hi, body_cons_pass hdecode hi,
        ih fun l' hl' => h l' (by simp [hl']), List.cons_append]

/-- The lines of the second program are counted on. -/
lemma faultFrom_append (h : p.Passes) (n : Nat) (q : Program) :
    faultFrom n (p ++ q) = faultFrom (n + p.length) q := by
  induction p generalizing n with
  | nil => rfl
  | cons l p ih =>
      obtain ⟨i, hdecode, hi⟩ := h l (by simp)
      rw [List.cons_append, faultFrom_cons_pass (stopsAt_of_pass hdecode hi),
        ih fun l' hl' => h l' (by simp [hl']), List.length_cons, Nat.add_assoc, Nat.add_comm 1]

/-- A program that is executed to its end has no fault. -/
lemma fault?_of_passes (h : p.Passes) : p.fault? = none := by
  have happend := faultFrom_append h 0 []
  rw [List.append_nil] at happend
  exact happend

/-- The second program goes on with the bank that the first one ends with. -/
lemma result_append (h : p.Passes) (q : Program) (b : Bank) :
    result (p ++ q) b = q.result (p.result b) := by
  rw [result, body_append h, List.foldl_append, result, result]

end Program

/-- The line that is printed for a fault, if there is one. -/
def Fault.report (colours : Palette) (f : Option Fault) : Bytes :=
  f.toList.flatMap fun f => colours.red f.message ++ newline

/-- The lines that are printed for the values that a program shows. -/
def Program.shown (colours : Palette) (p : Program) (b : Bank) : Bytes :=
  (Instruction.showsAll b p.body).flatMap fun x => colours.green (decimal x.2.toNat) ++ newline

lemma Program.console_eq (colours : Palette) (p : Program) (b : Bank) :
    p.console colours b = p.shown colours b ++ Fault.report colours p.fault? :=
  rfl

lemma Instruction.showsAll_append (b : Bank) (is js : List Instruction) :
    showsAll b (is ++ js) = showsAll b is ++ showsAll (is.foldl apply b) js := by
  induction is generalizing b with
  | nil => rfl
  | cons i is ih =>
      rw [List.cons_append, showsAll, ih, showsAll, List.foldl_cons, List.append_assoc]

/-- **What two programs print as one.**  The first one prints what it prints alone, and
the second one what it prints on the bank that the first one ends with; only the line
of a fault is counted from the first one on. -/
theorem Program.console_append {p : Program} (h : p.Passes) (q : Program) (colours : Palette)
    (b : Bank) :
    console colours (p ++ q) b = p.console colours b ++ q.shown colours (p.result b)
      ++ Fault.report colours (q.fault?.map (Fault.later p.length)) := by
  have hfault : fault? (p ++ q) = q.fault?.map (Fault.later p.length) := by
    rw [fault?, faultFrom_append h, Nat.zero_add, faultFrom_eq]
  have hshown : shown colours (p ++ q) b = p.shown colours b ++ q.shown colours (p.result b) := by
    rw [shown, body_append h, Instruction.showsAll_append, List.flatMap_append]
    rfl
  rw [console_eq, console_eq, hfault, hshown, fault?_of_passes h]
  simp [Fault.report]

end RegisterMachine
