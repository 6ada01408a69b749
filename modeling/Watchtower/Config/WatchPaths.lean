import Watchtower.Config.Settings

/-!
# Where a watch path leads

`Settings.validate` refuses a watch path that `os.path.abspath` turns into a single slash.  POSIX
leaves two leading slashes alone, so the root has a second spelling, which passes.

* `enter`, `resolve` — one component, and a whole text, followed from a directory.
* `denotes` — the directory a path leads to: the names on the way down from the root.
* `abspath_eq_root_iff` — `os.path.abspath` spells the root in one of two ways.
* **`watchPath_below_root_iff`** — an accepted path leads below the root exactly when its absolute
  form is not the other spelling.
-/

namespace Watchtower

open Core Py

/-! ## Following a path -/

/-- One component, followed from a directory; the root is its own parent. -/
def enter (directory : List PyStr) (component : PyStr) : List PyStr :=
  if component = [] ∨ component = py "." then directory
  else if component = py ".." then directory.dropLast
  else directory ++ [component]

/-- A text of components, followed from a directory. -/
def resolve (directory : List PyStr) (text : PyStr) : List PyStr :=
  (text.splitOn slash).foldl enter directory

/-- The directory a path leads to from the working directory `cwd`, which has to be absolute when
the path is not. -/
def denotes (cwd path : PyStr) : Option (List PyStr) :=
  if path.head? = some slash then some (resolve [] path)
  else if cwd.head? = some slash then some (resolve (resolve [] cwd) path)
  else none

/-- The path leads to the root of the file system. -/
def DenotesRoot (cwd path : PyStr) : Prop := denotes cwd path = some []

instance (cwd path : PyStr) : Decidable (DenotesRoot cwd path) :=
  inferInstanceAs (Decidable (denotes cwd path = some []))

/-- An empty component leads nowhere. -/
lemma resolve_nil (directory : List PyStr) : resolve directory [] = directory := by
  rw [resolve, List.splitOn_nil, List.foldl_cons, List.foldl_nil, enter, if_pos (.inl rfl)]

/-- Two texts joined by a slash are followed one after the other. -/
lemma resolve_append_slash (directory : List PyStr) (first second : PyStr) :
    resolve directory (first ++ slash :: second) = resolve (resolve directory first) second := by
  rw [resolve, List.splitOn_append_cons_self, List.foldl_append]
  rfl

/-- The same when the slash ends the first text. -/
lemma resolve_append {first : PyStr} (h : first.getLast? = some slash) (directory : List PyStr)
    (second : PyStr) :
    resolve directory (first ++ second) = resolve (resolve directory first) second := by
  obtain ⟨init, rfl⟩ := List.getLast?_eq_some_iff.mp h
  rw [resolve_append_slash directory init [], resolve_nil, List.append_assoc]
  exact resolve_append_slash directory init second

/-! ## What `normpath` keeps -/

/-- No parent is kept when the path is absolute. -/
lemma parent_not_mem_enter {kept : List PyStr} (h : py ".." ∉ kept) (component : PyStr) :
    py ".." ∉ enter kept component := by
  unfold enter
  split_ifs with hskip hparent
  · exact h
  · exact fun hmem => h (List.dropLast_subset _ hmem)
  · rw [List.mem_append, List.mem_singleton, not_or]
    exact ⟨h, fun heq => hparent heq.symm⟩

lemma normComponent_eq_enter {kept : List PyStr} (h : py ".." ∉ kept) (component : PyStr) :
    normComponent true kept component = enter kept component := by
  have hlast : kept.getLast? ≠ some (py "..") := fun hlast => h (List.mem_of_getLast? hlast)
  unfold normComponent enter
  split_ifs with hskip hpush hparent hparent
  · rfl
  · simp [hparent, hlast] at hpush
  · rfl
  · rfl
  · simp [hparent] at hpush

/-- Component by component `normpath` follows an absolute path. -/
lemma foldl_normComponent (components : List PyStr) {kept : List PyStr} (h : py ".." ∉ kept) :
    components.foldl (normComponent true) kept = components.foldl enter kept := by
  induction components generalizing kept with
  | nil => rfl
  | cons component components ih =>
      rw [List.foldl_cons, List.foldl_cons, normComponent_eq_enter h]
      exact ih (parent_not_mem_enter h component)

/-- What is kept are components that are not empty. -/
lemma mem_foldl_normComponent {absolute : Bool} {components kept : List PyStr} {part : PyStr}
    (h : part ∈ components.foldl (normComponent absolute) kept) :
    part ∈ kept ∨ part ∈ components ∧ part ≠ [] := by
  induction components generalizing kept with
  | nil => exact .inl h
  | cons component components ih =>
      rcases ih h with hkept | ⟨hmem, hne⟩
      · unfold normComponent at hkept
        split_ifs at hkept with hskip hpush
        · exact .inl hkept
        · rcases List.mem_append.mp hkept with hkept | hnew
          · exact .inl hkept
          · rw [List.mem_singleton] at hnew
            subst hnew
            exact .inr ⟨List.mem_cons_self, fun hnil => hskip (.inl hnil)⟩
        · exact .inl (List.dropLast_subset _ hkept)
      · exact .inr ⟨List.mem_cons_of_mem _ hmem, hne⟩

/-- Components joined by slashes do not start with one. -/
lemma exists_joinChar_eq {kept : List PyStr} (h : ∀ part ∈ kept, part ≠ [] ∧ slash ∉ part)
    (hne : kept ≠ []) : ∃ c text, joinChar slash kept = c :: text ∧ c ≠ slash := by
  obtain ⟨part, rest, rfl⟩ := List.exists_cons_of_ne_nil hne
  obtain ⟨hpart, hslash⟩ := h part List.mem_cons_self
  obtain ⟨c, part, rfl⟩ := List.exists_cons_of_ne_nil hpart
  have hc : c ≠ slash := fun heq => hslash (heq ▸ List.mem_cons_self)
  cases rest with
  | nil => exact ⟨c, part, by simp [joinChar, List.intercalate], hc⟩
  | cons next rest =>
      exact ⟨c, _, by rw [joinChar, List.intercalate_cons_cons, List.cons_append]; rfl, hc⟩

/-- An absolute path keeps one slash or two. -/
lemma pathRoot_of_absolute {path : PyStr} (h : path.head? = some slash) :
    pathRoot path = py "/" ∨ pathRoot path = py "//" := by
  obtain ⟨text, rfl⟩ := List.head?_eq_some_iff.mp h
  show pathRoot (47 :: text) = _ ∨ pathRoot (47 :: text) = _
  unfold pathRoot
  split
  · exact .inr rfl
  · split_ifs
    · exact .inl rfl
    · exact .inr rfl
  · exact .inl rfl
  · next hnot => exact absurd rfl (hnot text)

lemma pathRoot_of_relative {path : PyStr} (h : path.head? ≠ some slash) : pathRoot path = [] := by
  unfold pathRoot
  split
  · exact absurd rfl h
  · exact absurd rfl h
  · exact absurd rfl h
  · rfl

/-- An absolute path is normalised to one of the two spellings of the root exactly when following
it leads there. -/
lemma normpath_eq_root_iff {path : PyStr} (h : path.head? = some slash) :
    (normpath path = py "/" ∨ normpath path = py "//") ↔ resolve [] path = [] := by
  have hne : pathRoot path ≠ [] := by
    rcases pathRoot_of_absolute h with hroot | hroot <;> rw [hroot] <;> decide
  have habsolute : (!(pathRoot path).isEmpty) = true := by
    simp [hne]
  have hkept : (path.splitOn slash).foldl (normComponent true) [] = resolve [] path :=
    foldl_normComponent _ List.not_mem_nil
  have hnorm : normpath path = pathRoot path ++ joinChar slash (resolve [] path) := by
    simp only [normpath, habsolute, hkept]
    exact if_neg fun hnil => hne (List.append_eq_nil_iff.mp hnil).1
  have hparts : ∀ part ∈ resolve [] path, part ≠ [] ∧ slash ∉ part := by
    intro part hpart
    rw [← hkept] at hpart
    rcases mem_foldl_normComponent hpart with hnil | ⟨hmem, hpart⟩
    · exact absurd hnil List.not_mem_nil
    · exact ⟨hpart, PurePath.not_mem_of_mem_splitOn hmem⟩
  rw [hnorm]
  constructor
  · intro hspelling
    by_contra hresolve
    -- what follows the leading slashes starts with another character
    obtain ⟨c, text, hjoin, hc⟩ := exists_joinChar_eq hparts hresolve
    rw [hjoin] at hspelling
    rcases pathRoot_of_absolute h with hroot | hroot <;> rw [hroot] at hspelling <;>
      rcases hspelling with hspelling | hspelling <;> simp [py] at hspelling
    exact hc hspelling.1
  · intro hresolve
    rw [hresolve, show joinChar slash [] = [] from rfl, List.append_nil]
    exact pathRoot_of_absolute h

/-- A relative path is normalised to neither. -/
lemma normpath_ne_root {path : PyStr} (h : path.head? ≠ some slash) :
    ¬ (normpath path = py "/" ∨ normpath path = py "//") := by
  set kept := (path.splitOn slash).foldl (normComponent false) [] with hkept
  have hparts : ∀ part ∈ kept, part ≠ [] ∧ slash ∉ part := by
    intro part hpart
    rcases mem_foldl_normComponent hpart with hnil | ⟨hmem, hpart⟩
    · exact absurd hnil List.not_mem_nil
    · exact ⟨hpart, PurePath.not_mem_of_mem_splitOn hmem⟩
  have hnorm : normpath path
      = if joinChar slash kept = [] then py "." else joinChar slash kept := by
    simp [normpath, pathRoot_of_relative h, hkept]
  rw [hnorm]
  by_cases hnil : kept = []
  · rw [hnil]
    decide
  · obtain ⟨c, text, hjoin, hc⟩ := exists_joinChar_eq hparts hnil
    rw [hjoin, if_neg (List.cons_ne_nil c text)]
    rintro (heq | heq)
    · exact hc (List.cons.inj heq).1
    · exact hc (List.cons.inj heq).1

/-- `os.path.abspath` spells the root, in one of two ways, for just the paths that lead there. -/
theorem abspath_eq_root_iff {cwd path : PyStr} :
    (abspath cwd path = py "/" ∨ abspath cwd path = py "//") ↔ DenotesRoot cwd path := by
  rw [DenotesRoot, denotes]
  by_cases hpath : path.head? = some slash
  · rw [abspath, if_pos hpath, if_pos hpath, normpath_eq_root_iff hpath, Option.some_inj]
  · rw [abspath, if_neg hpath, if_neg hpath]
    by_cases hcwd : cwd.head? = some slash
    · obtain ⟨rest, rfl⟩ := List.head?_eq_some_iff.mp hcwd
      rw [if_pos hcwd, Option.some_inj]
      by_cases hlast : (slash :: rest).getLast? = some slash
      · rw [if_pos (.inr hlast), normpath_eq_root_iff rfl, resolve_append hlast]
      · have hend : ¬ (slash :: rest = [] ∨ (slash :: rest).getLast? = some slash) :=
          not_or.mpr ⟨List.cons_ne_nil _ _, hlast⟩
        rw [if_neg hend, normpath_eq_root_iff rfl, resolve_append_slash]
    · rw [if_neg hcwd]
      refine iff_of_false ?_ (by simp)
      split_ifs with hend
      · refine normpath_ne_root ?_
        cases cwd with
        | nil => exact hpath
        | cons c rest => exact hcwd
      · refine normpath_ne_root ?_
        cases cwd with
        | nil => exact absurd (.inl rfl) hend
        | cons c rest => exact hcwd

/-! ## What the validator lets through -/

section

variable [UnicodeData] [Normalization] {cwd path : PyStr} {s : Settings}

/-- No accepted watch path is made absolute to a single slash. -/
lemma Settings.watchPath_accepted (h : s.validate cwd = .ok ())
    (hpath : path ∈ s.codeWatcher.watchPaths) : abspath cwd path ≠ py "/" := by
  simp only [validate, validateCode, check_bind_eq_ok, forM_eq_ok, require_eq_ok,
    Bool.and_eq_true, bne_iff_ne] at h
  exact (h.2.2.2.2.2.2.1 path hpath).2

/-- **An accepted watch path leads below the root of the file system exactly when
`os.path.abspath` does not turn it into two slashes.** -/
theorem watchPath_below_root_iff (h : s.validate cwd = .ok ())
    (hpath : path ∈ s.codeWatcher.watchPaths) :
    ¬ DenotesRoot cwd path ↔ abspath cwd path ≠ py "//" := by
  rw [← abspath_eq_root_iff, not_or]
  exact and_iff_right (Settings.watchPath_accepted h hpath)

end

section

attribute [local instance] asciiData asciiNormalization

theorem watchPath_below_root_iff_src :
    ¬ DenotesRoot (py "/app") (py "./src") ↔ abspath (py "/app") (py "./src") ≠ py "//" :=
  watchPath_below_root_iff (s := deployment [py "./src"]) (by decide +kernel) (by decide)

/-- Two slashes pass, and so does a way down and up again behind them. -/
theorem doubleSlash_accepted :
    (deployment [py "//", py "//srv/.."]).validate (py "/app") = .ok () ∧
      DenotesRoot (py "/app") (py "//") ∧ DenotesRoot (py "/app") (py "//srv/..") := by
  decide +kernel

end

end Watchtower
