/-
The files that settings are read from.

* `Path.extension_of_resolve`: the ending of a path is that of the name it leads
  to, or there is none;
* `Settings.File.sources`: the files that are looked at for the settings, and
  `Settings.File.source_ne_place`: **none of them is the file of a register**;
* `Settings.File.spent_load`, `Settings.File.twins_load`: reading the settings
  changes no entry, and depends on these files only.
-/
import RegisterMachine.Proofs.FileSystem.Agreement
import RegisterMachine.Proofs.Store.Slot
import RegisterMachine.Settings.File

namespace RegisterMachine

open FileSystem (Spent Agree Twins)

/-! ### Endings -/

namespace Path

/-- The ending is that of the last name. -/
lemma extension_append (front : Bytes) {last : Bytes} (h : separator ∉ last) :
    extension (front ++ separator :: last) = extension last := by
  rw [extension, extension, List.splitOn_append_cons_self, List.splitOn_eq_singleton h,
    List.getLast?_append]
  rfl

lemma exists_last_name (path : Bytes) :
    ∃ last ns, separator ∉ last ∧ extension path = extension last
      ∧ names path = ns ++ names last := by
  by_cases hpath : separator ∈ path
  · obtain ⟨after, before, hsplit, hafter⟩ :=
      List.eq_append_cons_of_mem (List.mem_reverse.mpr hpath)
    have hlast : separator ∉ after.reverse := by simpa using hafter
    have heq : path = before.reverse ++ separator :: after.reverse := by
      rw [← List.reverse_reverse path, hsplit]
      simp
    refine ⟨after.reverse, names before.reverse, hlast, ?_, ?_⟩
    · rw [heq, extension_append _ hlast]
    · rw [heq, names_append]
  · exact ⟨path, [], hpath, rfl, rfl⟩

/-- The ending of a path is that of the name it leads to, or there is none. -/
lemma extension_of_resolve {path n : Bytes} {loc : Location} (h : resolve path = loc ++ [n]) :
    extension path = [] ∨ extension path = extension n := by
  obtain ⟨last, ns, hlast, hextension, hnames⟩ := exists_last_name path
  rw [hextension]
  by_cases hempty : last = []
  · exact .inl (by rw [hempty]; rfl)
  by_cases hhere : last = here
  · exact .inl (by rw [hhere]; decide)
  by_cases habove : last = above
  · exact .inl (by rw [habove]; decide)
  have hplain : Plain last := ⟨hempty, hhere, habove, hlast⟩
  rw [resolve_eq_walk, hnames, hplain.names_eq, walk_concat, descend_of_ne habove] at h
  exact .inr (congrArg extension (List.cons.inj (List.append_inj_right' h rfl)).1)

end Path

lemma Slot.extension_fileName (i : Int) : Path.extension (fileName i) = utf8 "bin" := by
  have hname : fileName i = Register.name i ++ 46 :: utf8 "bin" := rfl
  have hbin : 46 ∉ utf8 "bin" := by decide
  have hdot : (fileName i).contains 46 = true := by simp [hname]
  rw [Path.extension, List.splitOn_eq_singleton (separator_not_mem_fileName i)]
  change (if (fileName i).contains 46 then (((fileName i).splitOn 46).getLast?).getD [] else []) = _
  rw [if_pos hdot, hname, List.splitOn_append_cons_self, List.splitOn_eq_singleton hbin,
    List.getLast?_append]
  rfl

namespace Settings.File

/-! ### The files that are looked at -/

/-- The files that are looked at for the settings: the one that is given, if its
format is known, and otherwise those in the home directory. -/
def sources (given home : Bytes) : List Bytes :=
  if given.isEmpty then
    if home.isEmpty then [] else candidates home
  else
    match formatOf given with
    | .ok _ => [given]
    | .error _ => []

lemma homeName_eq : homeName = [46, 99, 112, 120] := by
  decide

lemma plain_homeName_append {s : Bytes} (hs : Path.separator ∉ s) : Path.Plain (homeName ++ s) where
  ne_nil := by simp [homeName_eq]
  ne_here := by
    rw [homeName_eq]
    intro h
    exact absurd (List.cons.inj (h : _ = (46 : UInt8) :: [])).2 (by simp)
  ne_above := by
    rw [homeName_eq]
    intro h
    exact absurd (List.cons.inj (h : _ = (46 : UInt8) :: [46])).2 (by simp)
  no_separator := by
    rw [List.mem_append]
    rintro (h | h)
    · exact absurd h (by decide)
    · exact hs h

/-- A file in the home directory has a name of its own. -/
lemma exists_resolve_candidate {home path : Bytes} (h : path ∈ candidates home) :
    ∃ loc s, Path.resolve path = loc ++ [homeName ++ s] := by
  rw [candidates, List.mem_append, List.mem_map, List.mem_singleton] at h
  generalize Path.clean (if Path.rooted home then home else 47 :: home) = directory at h
  obtain ⟨ending, hending, rfl⟩ | rfl := h
  · have hall : ∀ e ∈ endings, Path.separator ∉ 46 :: e := by decide
    exact ⟨_, _, Path.resolve_join directory (plain_homeName_append (hall _ hending))⟩
  · have hplain := plain_homeName_append (s := []) (by simp)
    rw [List.append_nil] at hplain
    exact ⟨Path.resolve directory, [], (Path.resolve_join directory hplain).trans (by simp)⟩

/-- **Settings are never read from the file of a register.** -/
theorem source_ne_place {given home path : Bytes} (h : path ∈ sources given home) (loc : Location)
    (i : Int) : Path.resolve path ≠ Slot.place loc i := by
  intro hplace
  rw [sources] at h
  split_ifs at h with hgiven hhome
  · exact absurd h (by simp)
  · obtain ⟨loc', s, hresolve⟩ := exists_resolve_candidate h
    rw [hplace, Slot.place, Slot.fileName_eq, homeName_eq] at hresolve
    have hname := (List.cons.inj (List.append_inj_right' hresolve rfl)).1
    exact absurd (List.cons.inj hname).1 (by decide)
  · split at h
    · rename_i format hformat
      obtain rfl := List.mem_singleton.mp h
      have hextension := Path.extension_of_resolve hplace
      rw [Slot.extension_fileName] at hextension
      have hunknown : [] ∉ endings ∧ utf8 "bin" ∉ endings := by decide
      rw [formatOf] at hformat
      obtain hnil | hbin := hextension
      · rw [hnil, if_neg hunknown.1] at hformat
        exact absurd hformat (by simp)
      · rw [hbin, if_neg hunknown.2] at hformat
        exact absurd hformat (by simp)
    · exact absurd h (by simp)

/-! ### Reading the settings -/

variable {P : Location → Prop} {fs fs' : FileSystem}

lemma spent_search (paths : List Bytes) (fs : FileSystem) : Spent fs (search paths fs).2 := by
  induction paths generalizing fs with
  | nil => exact .refl fs
  | cons path paths ih =>
      have hlook := FileSystem.spent_isDirectory fs path
      rw [search]
      generalize fs.isDirectory path = x at hlook ⊢
      obtain ⟨r, fs₁⟩ := x
      match r with
      | .ok false => exact hlook
      | .ok true => exact hlook.trans (ih fs₁)
      | .error e => exact hlook.trans (ih fs₁)

lemma twins_search (h : Agree P fs fs') {paths : List Bytes}
    (hpaths : ∀ path ∈ paths, P (Path.resolve path)) :
    Twins P (search paths fs) (search paths fs') := by
  induction paths generalizing fs fs' with
  | nil => exact ⟨rfl, h⟩
  | cons path paths ih =>
      have hlook := FileSystem.twins_isDirectory h (hpaths path (by simp))
      obtain ⟨r, fs₁, fs₁', hx, hx', hagree⟩ := hlook.exists_pair
      have hrest := ih hagree fun q hq => hpaths q (by simp [hq])
      rw [search, search, hx, hx']
      match r with
      | .ok false => exact ⟨rfl, hagree⟩
      | .ok true => exact hrest
      | .error e => exact hrest

/-- The file that is found is one of those looked for. -/
lemma mem_of_search {paths : List Bytes} {path : Bytes} (h : (search paths fs).1 = some path) :
    path ∈ paths := by
  induction paths generalizing fs with
  | nil => exact absurd h (by simp [search])
  | cons q paths ih =>
      rw [search] at h
      generalize fs.isDirectory q = x at h
      obtain ⟨r, fs₁⟩ := x
      match r, h with
      | .ok false, h => exact (Option.some.inj h) ▸ List.mem_cons_self
      | .ok true, h => exact List.mem_cons_of_mem _ (ih h)
      | .error e, h => exact List.mem_cons_of_mem _ (ih h)

lemma spent_read (reader : Reader) (format : Format) (path : Bytes) (fs : FileSystem) :
    Spent fs (read reader format path fs).2 := by
  have hread := FileSystem.spent_read fs path
  rw [read]
  generalize fs.read path = x at hread ⊢
  obtain ⟨r, fs₁⟩ := x
  cases r with
  | error e => exact hread
  | ok text =>
      dsimp only
      cases entriesOf reader format text <;> exact hread

lemma twins_read (h : Agree P fs fs') {path : Bytes} (hpath : P (Path.resolve path))
    (reader : Reader) (format : Format) :
    Twins P (read reader format path fs) (read reader format path fs') := by
  obtain ⟨r, fs₁, fs₁', hx, hx', hagree⟩ := (FileSystem.twins_read h hpath).exists_pair
  rw [read, read, hx, hx']
  cases r with
  | error e => exact ⟨rfl, hagree⟩
  | ok text =>
      dsimp only
      cases entriesOf reader format text <;> exact ⟨rfl, hagree⟩

/-- Reading the settings changes no entry. -/
lemma spent_load (reader : Reader) (given home : Bytes) (fs : FileSystem) :
    Spent fs (load reader given home fs).2 := by
  rw [load]
  split_ifs
  · rw [loadHome]
    split_ifs
    · exact .refl fs
    · have hsearch := spent_search (candidates home) fs
      generalize search (candidates home) fs = x at hsearch ⊢
      obtain ⟨r, fs₁⟩ := x
      cases r with
      | none => exact hsearch
      | some path => exact hsearch.trans (spent_read reader .yaml path fs₁)
  · cases formatOf given with
    | error e => exact .refl fs
    | ok format => exact spent_read reader format given fs

lemma load_snd (h : fs.failures = []) (reader : Reader) (given home : Bytes) :
    (load reader given home fs).2 = fs :=
  (spent_load reader given home fs).eq_of_nil h

/-- Reading the settings depends on the files that are looked at only. -/
lemma twins_load (h : Agree P fs fs') (reader : Reader) {given home : Bytes}
    (hsources : ∀ path ∈ sources given home, P (Path.resolve path)) :
    Twins P (load reader given home fs) (load reader given home fs') := by
  rw [sources] at hsources
  rw [load, load]
  split_ifs at hsources ⊢ with hgiven hhome
  · rw [loadHome, loadHome, if_pos hhome, if_pos hhome]
    exact ⟨rfl, h⟩
  · obtain ⟨r, fs₁, fs₁', hx, hx', hagree⟩ := (twins_search h hsources).exists_pair
    rw [loadHome, loadHome, if_neg hhome, if_neg hhome, hx, hx']
    cases r with
    | none => exact ⟨rfl, hagree⟩
    | some path =>
        exact twins_read hagree (hsources path (mem_of_search (congrArg Prod.fst hx)))
          reader .yaml
  · cases hformat : formatOf given with
    | error e => exact ⟨rfl, h⟩
    | ok format =>
        rw [hformat] at hsources
        exact twins_read h (hsources given (by simp)) reader format

end Settings.File

end RegisterMachine
