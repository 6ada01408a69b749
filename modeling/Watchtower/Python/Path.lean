import Watchtower.Python.Str

/-!
# POSIX paths

* `normpath`, `abspath` — `os.path`.
* `PurePath` — `pathlib.PurePosixPath`: a root and the components, empty ones and single dots left
  out; with its `parts`, `name`, `suffix` and `parent`.
-/

namespace Py

/-- The separator of path components. -/
def slash : PyChar := 47

/-- The slashes a path starts with, as far as they matter: exactly two are kept apart from one. -/
def pathRoot : PyStr → PyStr
  | [47, 47] => py "//"
  | 47 :: 47 :: c :: _ => if c = 47 then py "/" else py "//"
  | 47 :: _ => py "/"
  | _ => []

/-! ## `os.path` -/

/-- One component, taken onto the ones kept so far. -/
def normComponent (absolute : Bool) (kept : List PyStr) (component : PyStr) : List PyStr :=
  if component = [] ∨ component = py "." then kept
  else if component ≠ py ".." ∨ (absolute = false ∧ kept = []) ∨ kept.getLast? = some (py "..") then
    kept ++ [component]
  else kept.dropLast

/-- `os.path.normpath`. -/
def normpath (path : PyStr) : PyStr :=
  let root := pathRoot path
  let kept := (path.splitOn slash).foldl (normComponent (!root.isEmpty)) []
  let text := root ++ joinChar slash kept
  if text = [] then py "." else text

/-- `os.path.abspath`, for the current directory `cwd`. -/
def abspath (cwd path : PyStr) : PyStr :=
  if path.head? = some slash then normpath path
  else if cwd = [] ∨ cwd.getLast? = some slash then normpath (cwd ++ path)
  else normpath (cwd ++ slash :: path)

/-! ## `pathlib` -/

/-- A parsed path. -/
structure PurePath where
  root : PyStr
  components : List PyStr
  deriving DecidableEq

namespace PurePath

/-- `Path(path)`. -/
def ofStr (path : PyStr) : PurePath where
  root := pathRoot path
  components := (path.splitOn slash).filter fun part => !part.isEmpty && part != py "."

/-- `path.parts`. -/
def parts (p : PurePath) : List PyStr :=
  if p.root = [] then p.components else p.root :: p.components

/-- `path.name`. -/
def name (p : PurePath) : PyStr := p.components.getLastD []

/-- `path.parent`. -/
def parent (p : PurePath) : PurePath := { p with components := p.components.dropLast }

/-- `path / name`, for one component. -/
def child (p : PurePath) (name : PyStr) : PurePath := { p with components := p.components ++ [name] }

@[simp] lemma parent_child (p : PurePath) (name : PyStr) : (p.child name).parent = p := by
  rw [parent, child, List.dropLast_concat]

@[simp] lemma name_child (p : PurePath) (component : PyStr) :
    (p.child component).name = component := by
  rw [name, child, List.getLastD_eq_getLast?, List.getLast?_concat, Option.getD_some]

/-- `path.suffix`: from the last dot of the name on, unless that dot opens or closes the name. -/
def suffix (p : PurePath) : PyStr :=
  let (stem, found, extension) := rpartition 46 p.name
  if found && !stem.isEmpty && !extension.isEmpty then 46 :: extension else []

/-- A piece is free of the separator. -/
lemma not_mem_of_mem_splitOn {sep : PyChar} {s piece : PyStr} (h : piece ∈ s.splitOn sep) :
    sep ∉ piece := by
  induction s generalizing piece with
  | nil =>
      rw [List.splitOn_nil, List.mem_singleton] at h
      rw [h]
      exact List.not_mem_nil
  | cons d s ih =>
      rw [List.splitOn_cons_eq_if_modifyHead] at h
      split_ifs at h with hd
      · rcases List.mem_cons.mp h with rfl | h
        · exact List.not_mem_nil
        · exact ih h
      · cases hsplit : s.splitOn sep with
        | nil => exact absurd hsplit (List.splitOn_ne_nil _ _)
        | cons first rest =>
            rw [hsplit, List.modifyHead_cons] at h
            rcases List.mem_cons.mp h with rfl | h
            · rw [List.mem_cons, not_or]
              refine ⟨fun heq => hd (by rw [heq, beq_self_eq_true]), ih ?_⟩
              rw [hsplit]
              exact List.mem_cons_self
            · refine ih ?_
              rw [hsplit]
              exact List.mem_cons_of_mem _ h

/-- `str(path)`. -/
def str (p : PurePath) : PyStr :=
  if p.components = [] then (if p.root = [] then py "." else p.root)
  else p.root ++ joinChar slash p.components

/-- What a component of a parsed path looks like. -/
def IsComponent (part : PyStr) : Prop := part ≠ [] ∧ part ≠ py "." ∧ slash ∉ part

instance (part : PyStr) : Decidable (IsComponent part) :=
  inferInstanceAs (Decidable (part ≠ [] ∧ part ≠ py "." ∧ slash ∉ part))

lemma root_ofStr_cases (path : PyStr) :
    (ofStr path).root = [] ∨ (ofStr path).root = [slash] ∨ (ofStr path).root = [slash, slash] := by
  show pathRoot path = [] ∨ pathRoot path = [slash] ∨ pathRoot path = [slash, slash]
  unfold pathRoot
  split
  · exact .inr (.inr rfl)
  · split_ifs
    · exact .inr (.inl rfl)
    · exact .inr (.inr rfl)
  · exact .inr (.inl rfl)
  · exact .inl rfl

lemma isComponent_of_mem_components {path part : PyStr} (h : part ∈ (ofStr path).components) :
    IsComponent part := by
  obtain ⟨hmem, hkept⟩ := List.mem_filter.mp h
  simp only [Bool.and_eq_true, Bool.not_eq_true', List.isEmpty_eq_false_iff, bne_iff_ne] at hkept
  exact ⟨hkept.1, hkept.2, not_mem_of_mem_splitOn hmem⟩

lemma pathRoot_append {root : PyStr}
    (hroot : root = [] ∨ root = [slash] ∨ root = [slash, slash]) {c : PyChar} (hc : c ≠ slash)
    (text : PyStr) : pathRoot (root ++ c :: text) = root := by
  rcases hroot with rfl | rfl | rfl
  · rw [List.nil_append, pathRoot]
    all_goals
      intros
      simp_all [slash]
  · show pathRoot (47 :: c :: text) = _
    rw [pathRoot]
    · rfl
    all_goals
      intros
      simp_all [slash]
  · show pathRoot (47 :: 47 :: c :: text) = _
    rw [pathRoot, if_neg (show ¬ c = 47 from hc)]
    rfl

/-- The root leaves no component. -/
lemma components_ofStr_append {root : PyStr}
    (hroot : root = [] ∨ root = [slash] ∨ root = [slash, slash]) (text : PyStr) :
    (ofStr (root ++ text)).components = (ofStr text).components := by
  have hslash : ∀ text, (ofStr (slash :: text)).components = (ofStr text).components := by
    intro text
    rw [ofStr, List.splitOn_cons_eq_if_modifyHead, if_pos (beq_self_eq_true _)]
    rfl
  rcases hroot with rfl | rfl | rfl
  · rfl
  · exact hslash text
  · exact (hslash (slash :: text)).trans (hslash text)

/-- A path is what its text is read as. -/
theorem ofStr_str {p : PurePath}
    (hroot : p.root = [] ∨ p.root = [slash] ∨ p.root = [slash, slash])
    (hcomponents : ∀ part ∈ p.components, IsComponent part) : ofStr p.str = p := by
  obtain ⟨root, components⟩ := p
  cases components with
  | nil => rcases hroot with h | h | h <;> cases h <;> decide
  | cons part rest =>
      have hne := List.cons_ne_nil part rest
      obtain ⟨hpart, -, hslash⟩ := hcomponents part List.mem_cons_self
      obtain ⟨c, part, rfl⟩ := List.exists_cons_of_ne_nil hpart
      obtain ⟨text, htext⟩ : ∃ text, joinChar slash ((c :: part) :: rest) = c :: text := by
        cases rest with
        | nil => exact ⟨part, by simp [joinChar, List.intercalate]⟩
        | cons next rest =>
            exact ⟨_, by rw [joinChar, List.intercalate_cons_cons, List.cons_append]; rfl⟩
      have hsplit : (joinChar slash ((c :: part) :: rest)).splitOn slash = (c :: part) :: rest :=
        List.splitOn_intercalate slash (fun l hl => (hcomponents l hl).2.2) hne
      have hkept : (ofStr (c :: text)).components = (c :: part) :: rest := by
        rw [ofStr, ← htext, hsplit]
        refine List.filter_eq_self.mpr fun l hl => ?_
        simp [(hcomponents l hl).1, (hcomponents l hl).2.1]
      rw [str, if_neg hne, htext]
      have hroot' : (ofStr (root ++ c :: text)).root = root :=
        pathRoot_append hroot (fun h => hslash (h ▸ List.mem_cons_self)) text
      rw [← hkept, ← components_ofStr_append hroot]
      cases h : ofStr (root ++ c :: text)
      rw [h] at hroot'
      cases hroot'
      rfl

/-- The characters of a piece are characters of the text. -/
lemma mem_of_mem_splitOn {sep c : PyChar} {s piece : PyStr} (hpiece : piece ∈ s.splitOn sep)
    (hc : c ∈ piece) : c ∈ s := by
  induction s generalizing piece with
  | nil =>
      rw [List.splitOn_nil, List.mem_singleton] at hpiece
      rw [hpiece] at hc
      cases hc
  | cons d s ih =>
      rw [List.splitOn, List.splitOnP_cons_eq_if_modifyHead] at hpiece
      split_ifs at hpiece
      · rcases List.mem_cons.mp hpiece with rfl | hrest
        · cases hc
        · exact List.mem_cons_of_mem _ (ih hrest hc)
      · cases hsplit : s.splitOnP (· == sep) with
        | nil => exact absurd hsplit (List.splitOnP_ne_nil _ _)
        | cons first rest =>
            rw [hsplit, List.modifyHead_cons, List.mem_cons] at hpiece
            rcases hpiece with rfl | hrest
            · rcases List.mem_cons.mp hc with rfl | hc
              · exact List.mem_cons_self
              · have hfirst : first ∈ s.splitOn sep := by
                  rw [List.splitOn, hsplit]
                  exact List.mem_cons_self
                exact List.mem_cons_of_mem _ (ih hfirst hc)
            · refine List.mem_cons_of_mem _ (ih ?_ hc)
              rw [List.splitOn, hsplit]
              exact List.mem_cons_of_mem _ hrest

/-- The components of a path that can be encoded can be encoded. -/
lemma encodable_component {path component : PyStr} (h : encodable path = true)
    (hmem : component ∈ (ofStr path).components) : encodable component = true := by
  simp only [encodable, List.all_eq_true] at h ⊢
  exact fun c hc => h c (mem_of_mem_splitOn (List.mem_of_mem_filter hmem) hc)

/-- And so can its parts. -/
lemma encodable_part {path part : PyStr} (h : encodable path = true)
    (hmem : part ∈ (ofStr path).parts) : encodable part = true := by
  have hroot : encodable (pathRoot path) = true := by
    unfold pathRoot
    split
    · rfl
    · split_ifs <;> rfl
    · rfl
    · rfl
  rw [parts] at hmem
  split_ifs at hmem
  · exact encodable_component h hmem
  · rcases List.mem_cons.mp hmem with rfl | hmem
    · exact hroot
    · exact encodable_component h hmem

end PurePath

end Py
