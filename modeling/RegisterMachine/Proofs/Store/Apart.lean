/-
The files of the registers never share a path.

* `Path.absolute`: the shortest spelling of a path from the root;
* `Path.names_absolute`, `Path.absolute_eq_ofLocation`: it tells the names on the way to
  the place that the path leads to, and nothing else;
* `Path.absolute_inj`: so two paths have the same one just when they lead to the same place;
* `Path.entry` / `Path.absolute_of_concat`: the path of a name in a directory;
* `Slot.paths_apart`: **for every spelling of the directory and all indices, the files of
  the registers and those that are still to be moved have different paths**, directly in
  the directory.
-/
import RegisterMachine.Proofs.Store.Slot

namespace RegisterMachine

/-! ### Paths from the root -/

namespace Path

/-- The shortest spelling from the root of the path to a place. -/
def absolute (path : Bytes) : Bytes :=
  clean (separator :: path)

/-- The path of the name `n` in the directory with the absolute path `d`, which is the
root if it is nothing but a slash. -/
def entry (d n : Bytes) : Bytes :=
  if d = [separator] then separator :: n else d ++ separator :: n

variable {p q d n : Bytes}

/-- No step leads upwards where none did so before. -/
lemma above_not_mem_descend {loc : Location} (h : above ∉ loc) (n : Bytes) :
    above ∉ descend loc n := by
  rw [descend]
  split_ifs with hn
  · exact fun hmem => h ((List.dropLast_sublist loc).subset hmem)
  · rw [List.mem_append, List.mem_singleton]
    rintro (hmem | hmem)
    · exact h hmem
    · exact hn hmem.symm

/-- From the root, a step upwards in the shortest spelling is one on the way: it never has
to be kept. -/
lemma cleanStep_eq_descend {done : List Bytes} (h : above ∉ done) (n : Bytes) :
    cleanStep true done n = descend done n := by
  rw [cleanStep, descend]
  split_ifs with hn hdone hroot hlast
  · rw [hdone]
    rfl
  · exact absurd rfl hroot
  · exact absurd (List.mem_of_getLast? hlast) h
  · rfl
  · rfl

lemma foldl_cleanStep_eq (ns : List Bytes) {done : List Bytes} (h : above ∉ done) :
    ns.foldl (cleanStep true) done = ns.foldl descend done := by
  induction ns generalizing done with
  | nil => rfl
  | cons n ns ih =>
      rw [List.foldl_cons, List.foldl_cons, cleanStep_eq_descend h,
        ih (above_not_mem_descend h n)]

lemma rooted_cons (path : Bytes) : rooted (separator :: path) = true := rfl

lemma foldl_names_cons (path : Bytes) :
    (names (separator :: path)).foldl (cleanStep true) [] = resolve path := by
  rw [names_separator_cons, foldl_cleanStep_eq _ List.not_mem_nil]
  rfl

/-- The absolute path is the path of the place. -/
lemma absolute_eq_ofLocation (path : Bytes) : absolute path = ofLocation (resolve path) := by
  rw [absolute, clean, rooted_cons, foldl_names_cons]
  rfl

/-- The names in the absolute path are those on the way to the place. -/
lemma names_absolute (path : Bytes) : names (absolute path) = resolve path := by
  rw [absolute, names_clean, rooted_cons, foldl_names_cons]

/-- **Absolute paths are equal just when the paths lead to the same place.** -/
lemma absolute_inj : absolute p = absolute q ↔ resolve p = resolve q := by
  constructor
  · intro h
    rw [← names_absolute p, ← names_absolute q, h]
  · intro h
    rw [absolute_eq_ofLocation, absolute_eq_ofLocation, h]

lemma joined_concat (sep n : Bytes) {parts : List Bytes} (h : parts ≠ []) :
    Bytes.joined sep (parts ++ [n]) = Bytes.joined sep parts ++ (sep ++ n) := by
  obtain ⟨init, last, rfl⟩ : ∃ init last, parts = init ++ [last] :=
    ⟨_, _, (List.dropLast_concat_getLast h).symm⟩
  -- Two names with what is between them stand where one name would stand.
  rw [joined_concat_append]
  induction init with
  | nil => simp [Bytes.joined]
  | cons m init ih =>
      have hne (x : List Bytes) (y : Bytes) : x ++ [y] ≠ [] := by simp
      rw [Bytes.joined, Bytes.joined] at ih ⊢
      rw [List.cons_append, List.cons_append, List.cons_append,
        List.intercalate_cons_of_ne_nil (hne _ _), List.intercalate_cons_of_ne_nil (hne _ _),
        ih (hne _ _)]

/-- **A place one step further has the path of a name in the directory.** -/
lemma absolute_of_concat (h : resolve p = resolve d ++ [n]) :
    absolute p = entry (absolute d) n := by
  rw [absolute_eq_ofLocation p, h, entry]
  split_ifs with hroot
  · have hnil : resolve d = [] := by
      rw [← names_absolute, hroot]
      rfl
    rw [hnil, ofLocation, List.nil_append]
    simp [Bytes.joined]
  · have hne : resolve d ≠ [] := by
      intro hnil
      rw [absolute_eq_ofLocation, hnil] at hroot
      exact hroot rfl
    rw [absolute_eq_ofLocation, ofLocation, ofLocation, joined_concat _ _ hne]
    rfl

end Path

/-! ### Paths of slots -/

namespace Slot

/-- **The files of the registers never share a path.**  However the directory is spelled,
and for all indices, also where there is no such register: the absolute paths of two files
are equal only if the indices are, so are those of two files that are still to be moved, and
a file is never one of these.  All of them lie directly in the directory. -/
theorem paths_apart (d : Bytes) (i j : Int) :
    (Path.absolute (path d i) = Path.absolute (path d j) ↔ i = j)
      ∧ (Path.absolute (scratch d i) = Path.absolute (scratch d j) ↔ i = j)
      ∧ Path.absolute (scratch d i) ≠ Path.absolute (path d j)
      ∧ (Path.Plain (fileName i)
        ∧ Path.absolute (path d i) = Path.entry (Path.absolute d) (fileName i))
      ∧ Path.Plain (fileName i ++ utf8 ".tmp")
        ∧ Path.absolute (scratch d i)
          = Path.entry (Path.absolute d) (fileName i ++ utf8 ".tmp") := by
  simp only [ne_eq, Path.absolute_inj]
  rw [resolve_path, resolve_path, resolve_scratch, resolve_scratch]
  refine ⟨⟨place_injective, congrArg _⟩, ⟨scratchPlace_injective, congrArg _⟩,
    (place_ne_scratchPlace _ j i).symm, ⟨plain_fileName i, ?_⟩, plain_scratchName i, ?_⟩
  · exact Path.absolute_of_concat (resolve_path d i)
  · exact Path.absolute_of_concat (resolve_scratch d i)

end Slot

end RegisterMachine
