/-
Where paths lead to.

* `Path.Plain`: a name that leads down from a directory;
* `Path.resolve_clean`: the shortest spelling of a path leads to the same place;
* `Path.resolve_join`: a plain name inside a directory leads one step further;
* `Path.join_append`: a text behind such a path is a text behind its last name;
* `Path.parents_concat`: the directories on the way to an entry of a directory;
* `Path.mem_prefixes_iff`: the places on the way to a place.
-/
import Mathlib.Tactic.Common
import RegisterMachine.FileSystem.Path

namespace RegisterMachine.Path

/-- A name that leads down from a directory: it is not empty, it does not stand
for the directory itself or the one above, and there is no slash in it. -/
structure Plain (n : Bytes) : Prop where
  ne_nil : n ≠ []
  ne_here : n ≠ here
  ne_above : n ≠ above
  no_separator : separator ∉ n

/-! ### The names in a path -/

lemma not_mem_of_mem_splitOn {a : UInt8} {part : Bytes} (path : Bytes)
    (h : part ∈ path.splitOn a) : a ∉ part := by
  induction path generalizing part with
  | nil =>
      rw [List.splitOn_nil, List.mem_singleton] at h
      simp [h]
  | cons c path ih =>
      rw [List.splitOn_cons_eq_if_modifyHead] at h
      split_ifs at h with hc
      · rcases List.mem_cons.mp h with rfl | h
        · simp
        · exact ih h
      · cases hparts : path.splitOn a with
        | nil => exact absurd hparts (List.splitOn_ne_nil _ _)
        | cons first others =>
            rw [hparts, List.modifyHead_cons] at h
            rcases List.mem_cons.mp h with rfl | h
            · have hfirst : a ∉ first := ih (by simp [hparts])
              have hne : a ≠ c := by
                rintro rfl
                simp at hc
              simp [hne, hfirst]
            · exact ih (by simp [hparts, h])

lemma of_mem_names {path n : Bytes} (h : n ∈ names path) :
    n ≠ [] ∧ n ≠ here ∧ separator ∉ n := by
  rw [names, List.mem_filter, decide_eq_true_iff] at h
  exact ⟨h.2.1, h.2.2, not_mem_of_mem_splitOn path h.1⟩

@[simp] lemma names_nil : names [] = [] := rfl

@[simp] lemma names_here : names here = [] := by
  decide

lemma names_append (p q : Bytes) : names (p ++ separator :: q) = names p ++ names q := by
  rw [names, List.splitOn_append_cons_self, List.filter_append, names, names]

lemma names_separator_cons (q : Bytes) : names (separator :: q) = names q := by
  have h := names_append [] q
  rwa [names_nil, List.nil_append, List.nil_append] at h

lemma Plain.names_eq {n : Bytes} (h : Plain n) : names n = [n] := by
  rw [names, List.splitOn_eq_singleton h.no_separator]
  simp [h.ne_nil, h.ne_here]

/-- Names with slashes between them are read back. -/
lemma names_joined {parts : List Bytes}
    (h : ∀ n ∈ parts, n ≠ [] ∧ n ≠ here ∧ separator ∉ n) :
    names (Bytes.joined [separator] parts) = parts := by
  by_cases hparts : parts = []
  · subst hparts
    rfl
  · rw [names, Bytes.joined, List.splitOn_intercalate _ (fun n hn => (h n hn).2.2) hparts,
      List.filter_eq_self]
    intro n hn
    simp [(h n hn).1, (h n hn).2.1]

/-! ### Shortest spellings -/

/-- The place that names lead to from the root. -/
def walk (ns : List Bytes) : Location :=
  ns.foldl descend []

lemma resolve_eq_walk (path : Bytes) : resolve path = walk (names path) := rfl

lemma walk_concat (ns : List Bytes) (n : Bytes) : walk (ns ++ [n]) = descend (walk ns) n := by
  rw [walk, List.foldl_append]
  rfl

lemma descend_of_ne {n : Bytes} (h : n ≠ above) (loc : Location) : descend loc n = loc ++ [n] := by
  rw [descend, if_neg h]

/-- One name further in the shortest spelling is one name further on the way. -/
lemma walk_cleanStep (isRooted : Bool) (done : List Bytes) (n : Bytes) :
    walk (cleanStep isRooted done n) = descend (walk done) n := by
  rw [cleanStep]
  split_ifs with hn hdone hroot hlast
  · subst hn hdone
    rfl
  · subst hn hdone
    rfl
  · rw [hn, walk_concat]
  · obtain ⟨done, last, rfl⟩ : ∃ init last, done = init ++ [last] :=
      ⟨_, _, (List.dropLast_concat_getLast hdone).symm⟩
    have hne : last ≠ above := by simpa using hlast
    rw [List.dropLast_concat, walk_concat, descend_of_ne hne, hn, descend, if_pos rfl,
      List.dropLast_concat]
  · rw [walk_concat]

lemma walk_foldl_cleanStep (isRooted : Bool) (ns done : List Bytes) :
    walk (ns.foldl (cleanStep isRooted) done) = ns.foldl descend (walk done) := by
  induction ns generalizing done with
  | nil => rfl
  | cons n ns ih => rw [List.foldl_cons, List.foldl_cons, ih, walk_cleanStep]

/-- The names of a shortest spelling are names of the path or lead upwards. -/
lemma of_mem_foldl_cleanStep {P : Bytes → Prop} (isRooted : Bool) (ns : List Bytes)
    (habove : P above) {done : List Bytes} (hns : ∀ n ∈ ns, P n) (hdone : ∀ n ∈ done, P n) :
    ∀ n ∈ ns.foldl (cleanStep isRooted) done, P n := by
  induction ns generalizing done with
  | nil => exact hdone
  | cons m ns ih =>
      refine ih (fun n hn => hns n (by simp [hn])) ?_
      intro n hn
      rw [cleanStep] at hn
      split_ifs at hn
      · exact absurd hn (by simp)
      · exact (List.mem_singleton.mp hn) ▸ habove
      · rcases List.mem_append.mp hn with hn | hn
        · exact hdone n hn
        · exact (List.mem_singleton.mp hn) ▸ habove
      · exact hdone n ((List.dropLast_sublist done).subset hn)
      · rcases List.mem_append.mp hn with hn | hn
        · exact hdone n hn
        · exact (List.mem_singleton.mp hn) ▸ hns m (by simp)

lemma names_clean (path : Bytes) :
    names (clean path) = (names path).foldl (cleanStep (rooted path)) [] := by
  have hnames := names_joined (of_mem_foldl_cleanStep (rooted path) (names path)
    (P := fun n => n ≠ [] ∧ n ≠ here ∧ separator ∉ n) (by decide) (fun n => of_mem_names)
    (List.forall_mem_nil _))
  rw [clean]
  split_ifs with hroot hempty
  · rw [names_separator_cons, hnames]
  · rw [hempty, names_nil] at hnames
    rw [names_here, ← hnames]
  · exact hnames

/-- **The shortest spelling of a path leads to the same place.** -/
theorem resolve_clean (path : Bytes) : resolve (clean path) = resolve path := by
  rw [resolve_eq_walk, names_clean, walk_foldl_cleanStep]
  rfl

/-! ### Names inside a directory -/

/-- A plain name inside a directory leads one step further. -/
lemma resolve_join (d : Bytes) {n : Bytes} (hn : Plain n) :
    resolve (join d n) = resolve d ++ [n] := by
  rw [join]
  split_ifs with hd
  · rw [hd, resolve_clean, resolve_eq_walk, hn.names_eq]
    exact descend_of_ne hn.ne_above []
  · rw [resolve_clean, resolve_eq_walk, names_append, hn.names_eq, walk_concat,
      descend_of_ne hn.ne_above, resolve_eq_walk]

lemma joined_concat_append (sep : Bytes) (parts : List Bytes) (n s : Bytes) :
    Bytes.joined sep (parts ++ [n]) ++ s = Bytes.joined sep (parts ++ [n ++ s]) := by
  induction parts with
  | nil => simp [Bytes.joined]
  | cons p parts ih =>
      have hne (x : Bytes) : parts ++ [x] ≠ [] := by simp
      rw [Bytes.joined, Bytes.joined] at ih ⊢
      rw [List.cons_append, List.cons_append, List.intercalate_cons_of_ne_nil (hne _),
        List.intercalate_cons_of_ne_nil (hne _), ← ih]
      simp only [List.append_assoc]

lemma clean_plain {n : Bytes} (hn : Plain n) : clean n = n := by
  have hroot : rooted n = false := by
    obtain ⟨c, rest, rfl⟩ := List.exists_cons_of_ne_nil hn.ne_nil
    have hc : c ≠ separator := fun h => hn.no_separator (by simp [h])
    simpa [rooted] using hc
  rw [clean, hroot, hn.names_eq]
  simp [cleanStep, hn.ne_above, Bytes.joined, hn.ne_nil]

/-- The shortest spelling of a plain name inside a directory ends with it. -/
lemma clean_concat {d n : Bytes} (hd : d ≠ []) (hn : Plain n) :
    clean (d ++ separator :: n) =
      (if rooted d then [separator] else []) ++ Bytes.joined [separator]
        ((names d).foldl (cleanStep (rooted d)) [] ++ [n]) := by
  have hroot : rooted (d ++ separator :: n) = rooted d := by
    obtain ⟨c, rest, rfl⟩ := List.exists_cons_of_ne_nil hd
    rfl
  have hstep (done : List Bytes) : cleanStep (rooted d) done n = done ++ [n] := by
    rw [cleanStep, if_neg hn.ne_above]
  have htext (done : List Bytes) : Bytes.joined [separator] (done ++ [n]) ≠ [] := by
    intro h
    have hlength := congrArg List.length (joined_concat_append [separator] done [] n)
    rw [List.nil_append, h] at hlength
    simp [hn.ne_nil] at hlength
  rw [clean, hroot, names_append, hn.names_eq, List.foldl_append, List.foldl_cons, List.foldl_nil,
    hstep]
  split_ifs with h1 h2
  · rfl
  · exact absurd h2 (htext _)
  · rfl

/-- A text behind the path of a name inside a directory is a text behind that
name. -/
lemma join_append (d : Bytes) {n s : Bytes} (hn : Plain n) (hns : Plain (n ++ s)) :
    join d n ++ s = join d (n ++ s) := by
  rw [join, join]
  split_ifs with hd
  · rw [clean_plain hn, clean_plain hns]
  · rw [clean_concat hd hn, clean_concat hd hns, List.append_assoc, joined_concat_append]

lemma ne_nil_of_resolve {path : Bytes} {loc : Location} {n : Bytes}
    (h : resolve path = loc ++ [n]) : path ≠ [] := by
  rintro rfl
  simp [resolve] at h

/-! ### The way to a place -/

lemma prefixes_concat (loc : Location) (n : Bytes) :
    prefixes (loc ++ [n]) = prefixes loc ++ [loc ++ [n]] := by
  induction loc with
  | nil => rfl
  | cons m loc ih => simp [prefixes, ih]

/-- The directories on the way to an entry of a directory lead to that
directory. -/
lemma parents_concat (loc : Location) (n : Bytes) : parents (loc ++ [n]) = prefixes loc := by
  rw [parents, prefixes_concat, List.dropLast_concat]

/-- The places on the way to `loc` are those that it starts with. -/
lemma mem_prefixes_iff {p loc : Location} : p ∈ prefixes loc ↔ p ≠ [] ∧ p <+: loc := by
  induction loc generalizing p with
  | nil => simp [prefixes]
  | cons n loc ih =>
      rw [prefixes, List.mem_cons, List.mem_map]
      constructor
      · rintro (rfl | ⟨q, hq, rfl⟩)
        · exact ⟨by simp, loc, rfl⟩
        · exact ⟨by simp, List.cons_prefix_cons.mpr ⟨rfl, (ih.mp hq).2⟩⟩
      · rintro ⟨hne, hinitial⟩
        cases p with
        | nil => exact absurd rfl hne
        | cons m q =>
            obtain ⟨rfl, hq⟩ := List.cons_prefix_cons.mp hinitial
            by_cases hnil : q = []
            · exact .inl (by rw [hnil])
            · exact .inr ⟨q, ih.mpr ⟨hnil, hq⟩, rfl⟩

lemma ne_nil_of_mem_prefixes {p loc : Location} (h : p ∈ prefixes loc) : p ≠ [] :=
  (mem_prefixes_iff.mp h).1

/-- An entry of a directory is not on the way to it. -/
lemma concat_not_mem_prefixes (loc : Location) (n : Bytes) : loc ++ [n] ∉ prefixes loc := by
  intro h
  have hle := (mem_prefixes_iff.mp h).2.length_le
  rw [List.length_append, List.length_singleton] at hle
  omega

/-- The directories that `loc` lies in are the other places on the way to it. -/
lemma mem_parents_iff {p loc : Location} : p ∈ parents loc ↔ p ∈ prefixes loc ∧ p ≠ loc := by
  rcases List.eq_nil_or_concat loc with rfl | ⟨init, n, rfl⟩
  · simp [parents, prefixes]
  · rw [List.concat_eq_append, parents_concat, prefixes_concat, List.mem_append,
      List.mem_singleton]
    constructor
    · intro h
      refine ⟨.inl h, ?_⟩
      rintro rfl
      exact concat_not_mem_prefixes init n h
    · rintro ⟨h | h, hne⟩
      · exact h
      · exact absurd h hne

end RegisterMachine.Path
