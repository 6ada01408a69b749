import Watchtower.CodeWatcher.Scan

/-!
# The service of a file

`_infer_service_system` looks for a marker among all parts of a path, the name of the file
included, and takes the part after it.  Findings of one directory are correlated through it, so it
should be the directories that decide.

* `directoryService` — what the directories alone give.
* `NamesFile` — the file is the part after the marker that decides.
* `inferService_eq` — the service comes from the directories, or else from the file's own name.
* **`service_from_directories_iff`** — when it is the directories that decide.
* **`services_apart`** — the counterexample: two files side by side in a directory `services`.
-/

namespace Watchtower

open Py

/-! ## Markers -/

/-- A name as the service it becomes. -/
def cutName (name : PyStr) : PyStr := (strip name).take 200

/-- The first directory with the marker's name is the last one of all. -/
def EndsAt (dirs : List PyStr) (marker : PyStr) : Prop :=
  ∃ before, dirs = before ++ [marker] ∧ marker ∉ before

/-- The marker is no directory's name, or a directory with a blank name comes after it. -/
def PassesOver (dirs : List PyStr) (marker : PyStr) : Prop :=
  marker ∉ dirs ∨
    ∃ before next after, dirs = before ++ marker :: next :: after ∧ marker ∉ before ∧ strip next = []

/-- What is left of a list from a value on. -/
lemma dropWhile_bne_append {before : List PyStr} {marker : PyStr} (h : marker ∉ before)
    (after : List PyStr) :
    (before ++ marker :: after).dropWhile (fun part => part != marker) = marker :: after := by
  induction before with
  | nil => simp
  | cons part before ih =>
      rw [List.mem_cons, not_or] at h
      rw [List.cons_append, List.dropWhile_cons_of_pos (by simpa using Ne.symm h.1)]
      exact ih h.2

/-- A value is in a list from its first occurrence on. -/
lemma exists_first_of_mem {l : List PyStr} {marker : PyStr} (h : marker ∈ l) :
    ∃ before after, l = before ++ marker :: after ∧ marker ∉ before := by
  induction l with
  | nil => cases h
  | cons part l ih =>
      by_cases hpart : part = marker
      · exact ⟨[], l, by rw [hpart]; rfl, List.not_mem_nil⟩
      · obtain ⟨before, after, rfl, hnot⟩ := ih ((List.mem_cons.mp h).resolve_left (Ne.symm hpart))
        refine ⟨part :: before, after, rfl, ?_⟩
        rw [List.mem_cons, not_or]
        exact ⟨Ne.symm hpart, hnot⟩

lemma markedService_of_not_mem {parts : List PyStr} {marker : PyStr} (h : marker ∉ parts) :
    markedService parts marker = none := by
  have hdrop : parts.dropWhile (fun part => part != marker) = [] := by
    rw [List.dropWhile_eq_nil_iff]
    intro part hpart
    simpa using ne_of_mem_of_not_mem hpart h
  rw [markedService, hdrop]

lemma markedService_of_next {before after : List PyStr} {marker next : PyStr}
    (h : marker ∉ before) :
    markedService (before ++ marker :: next :: after) marker
      = if strip next = [] then none else some (cutName next) := by
  rw [markedService, dropWhile_bne_append h]
  rfl

lemma markedService_of_endsAt {dirs : List PyStr} {marker : PyStr} (h : EndsAt dirs marker) :
    markedService dirs marker = none := by
  obtain ⟨before, rfl, hnot⟩ := h
  rw [markedService, dropWhile_bne_append hnot]

/-- Where a marker stands among the directories. -/
lemma marker_cases (dirs : List PyStr) (marker : PyStr) :
    EndsAt dirs marker ∨ PassesOver dirs marker ∨
      ∃ before next after, dirs = before ++ marker :: next :: after ∧ marker ∉ before ∧
        strip next ≠ [] := by
  by_cases hmem : marker ∈ dirs
  · obtain ⟨before, after, rfl, hnot⟩ := exists_first_of_mem hmem
    cases after with
    | nil => exact .inl ⟨before, rfl, hnot⟩
    | cons next after =>
        by_cases hnext : strip next = []
        · exact .inr (.inl (.inr ⟨before, next, after, rfl, hnot, hnext⟩))
        · exact .inr (.inr ⟨before, next, after, rfl, hnot, hnext⟩)
  · exact .inr (.inl (.inl hmem))

lemma markedService_of_passesOver {dirs : List PyStr} {marker : PyStr}
    (h : PassesOver dirs marker) : markedService dirs marker = none := by
  rcases h with hmem | ⟨before, next, after, rfl, hnot, hnext⟩
  · exact markedService_of_not_mem hmem
  · rw [markedService_of_next hnot, if_pos hnext]

/-- A file right below a marker is taken for the directory that should be there. -/
lemma markedService_append_of_endsAt {dirs : List PyStr} {marker : PyStr} (h : EndsAt dirs marker)
    (name : PyStr) :
    markedService (dirs ++ [name]) marker
      = if strip name = [] then none else some (cutName name) := by
  obtain ⟨before, rfl, hnot⟩ := h
  rw [List.append_assoc]
  exact markedService_of_next hnot

/-- Elsewhere the name of the file is of no account. -/
lemma markedService_append {dirs : List PyStr} {marker : PyStr} (h : ¬ EndsAt dirs marker)
    (name : PyStr) : markedService (dirs ++ [name]) marker = markedService dirs marker := by
  by_cases hmem : marker ∈ dirs
  · obtain ⟨before, after, rfl, hnot⟩ := exists_first_of_mem hmem
    cases after with
    | nil => exact absurd ⟨before, rfl, hnot⟩ h
    | cons next after =>
        rw [List.append_assoc, List.cons_append, List.cons_append, markedService_of_next hnot,
          markedService_of_next hnot]
  · rw [markedService_of_not_mem hmem]
    by_cases hname : name = marker
    · exact markedService_of_endsAt ⟨dirs, by rw [hname], hmem⟩
    · refine markedService_of_not_mem ?_
      rw [List.mem_append, List.mem_singleton, not_or]
      exact ⟨hmem, Ne.symm hname⟩

/-- The root of a path is no marker. -/
lemma markedService_parts (path : PyStr) {marker : PyStr} (h : marker ≠ py "/")
    (h' : marker ≠ py "//") :
    markedService (PurePath.ofStr path).parts marker
      = markedService (PurePath.ofStr path).components marker := by
  have hroot : (PurePath.ofStr path).root ≠ marker ∨ (PurePath.ofStr path).root = [] := by
    show pathRoot path ≠ marker ∨ pathRoot path = []
    unfold pathRoot
    split
    · exact .inl (Ne.symm h')
    · split_ifs
      · exact .inl (Ne.symm h)
      · exact .inl (Ne.symm h')
    · exact .inl (Ne.symm h)
    · exact .inr rfl
  rw [PurePath.parts]
  split_ifs with hnil
  · rfl
  · have hne := hroot.resolve_right hnil
    rw [markedService, markedService, List.dropWhile_cons_of_pos (by simpa using hne)]

/-! ## Services -/

/-- The service that the directories of a path give. -/
def directoryService (dirs : List PyStr) : PyStr :=
  match markedService dirs (py "services") with
  | some service => service
  | none =>
      match markedService dirs (py "components") with
      | some service => service
      | none =>
          if strip (dirs.getLastD []) = [] then py "unknown-service"
          else cutName (dirs.getLastD [])

/-- The service of a file in these directories is read off the file's own name: the first
`services` is the last directory, or it is passed over and the first `components` is. -/
def NamesFile (dirs : List PyStr) : Prop :=
  EndsAt dirs (py "services") ∨ (PassesOver dirs (py "services") ∧ EndsAt dirs (py "components"))

/-- A service that comes from the directories. -/
def FromDirectories (dirs : List PyStr) (service : PyStr) : Prop :=
  (∃ d ∈ dirs, service = cutName d) ∨ service = py "unknown-service"

/-- A list ends in one value. -/
lemma not_endsAt_of_endsAt {dirs : List PyStr} {marker other : PyStr} (h : EndsAt dirs marker)
    (hne : marker ≠ other) : ¬ EndsAt dirs other := by
  rintro ⟨before', heq, -⟩
  obtain ⟨before, rfl, -⟩ := h
  have hlast := congrArg (fun l => l.getLast?) heq
  simp only [List.getLast?_append_of_ne_nil _ (List.cons_ne_nil _ _), List.getLast?_singleton,
    Option.some.injEq] at hlast
  exact hne hlast

lemma fromDirectories_of_markedService {dirs : List PyStr} {marker service : PyStr}
    (h : markedService dirs marker = some service) : ∃ d ∈ dirs, service = cutName d := by
  rcases marker_cases dirs marker with hends | hpasses | ⟨before, next, after, rfl, hnot, hnext⟩
  · rw [markedService_of_endsAt hends] at h
    cases h
  · rw [markedService_of_passesOver hpasses] at h
    cases h
  · rw [markedService_of_next hnot, if_neg hnext, Option.some.injEq] at h
    exact ⟨next, by simp, h.symm⟩

/-- The directories give the name of one of them, or none. -/
lemma fromDirectories_directoryService (dirs : List PyStr) :
    FromDirectories dirs (directoryService dirs) := by
  unfold directoryService
  split
  · next h => exact .inl (fromDirectories_of_markedService h)
  · split
    · next h => exact .inl (fromDirectories_of_markedService h)
    · split_ifs with hblank
      · exact .inr rfl
      · cases dirs with
        | nil => exact absurd rfl hblank
        | cons d dirs =>
            refine .inl ⟨_, ?_, rfl⟩
            rw [List.getLastD_eq_getLast?, List.getLast?_eq_some_getLast (List.cons_ne_nil d dirs)]
            exact List.getLast_mem _

/-- A path with a name is its directories and the name. -/
lemma components_eq (path : PurePath) (h : path.components ≠ []) :
    path.components = path.parent.components ++ [path.name] := by
  rw [PurePath.parent, PurePath.name, List.getLastD_eq_getLast?,
    List.getLast?_eq_some_getLast h, Option.getD_some]
  exact (List.dropLast_append_getLast h).symm

/-- The service, with the root of the path left out. -/
lemma inferService_eq (path : PyStr) :
    inferService path =
      match markedService (PurePath.ofStr path).components (py "services") with
      | some service => service
      | none =>
          match markedService (PurePath.ofStr path).components (py "components") with
          | some service => service
          | none =>
              if strip ((PurePath.ofStr path).parent.components.getLastD []) = [] then
                py "unknown-service"
              else cutName ((PurePath.ofStr path).parent.components.getLastD []) := by
  rw [inferService, markedService_parts path (by decide) (by decide),
    markedService_parts path (by decide) (by decide)]
  show (match markedService (PurePath.ofStr path).components (py "services") with
    | some service => service
    | none =>
        match markedService (PurePath.ofStr path).components (py "components") with
        | some service => service
        | none => (if strip ((PurePath.ofStr path).parent.components.getLastD []) = [] then
            py "unknown-service"
          else strip ((PurePath.ofStr path).parent.components.getLastD [])).take 200) = _
  congr 1
  funext hnone
  congr 1
  funext hnone
  rw [apply_ite (List.take 200)]
  rfl

/-- Below a marker that decides, a file is its own service. -/
lemma inferService_of_namesFile {path : PyStr}
    (h : NamesFile (PurePath.ofStr path).parent.components)
    (hname : strip (PurePath.ofStr path).name ≠ []) :
    inferService path = cutName (PurePath.ofStr path).name := by
  have hcomponents : (PurePath.ofStr path).components ≠ [] := by
    intro hnil
    rw [PurePath.name, hnil] at hname
    exact hname rfl
  rw [inferService_eq, components_eq _ hcomponents]
  rcases h with hends | ⟨hpasses, hends⟩
  · rw [markedService_append_of_endsAt hends, if_neg hname]
  · have hnot := not_endsAt_of_endsAt hends (show py "components" ≠ py "services" by decide)
    rw [markedService_append hnot, markedService_of_passesOver hpasses,
      markedService_append_of_endsAt hends, if_neg hname]

/-- Elsewhere it is the directories that decide. -/
lemma inferService_of_not_namesFile {path : PyStr}
    (h : ¬ NamesFile (PurePath.ofStr path).parent.components ∨
      strip (PurePath.ofStr path).name = []) :
    inferService path = directoryService (PurePath.ofStr path).parent.components := by
  rw [inferService_eq, directoryService]
  by_cases hcomponents : (PurePath.ofStr path).components = []
  · rw [PurePath.parent, hcomponents]
    rfl
  · have hmarked : ∀ marker, (EndsAt (PurePath.ofStr path).parent.components marker →
        strip (PurePath.ofStr path).name = []) →
        markedService (PurePath.ofStr path).components marker
          = markedService (PurePath.ofStr path).parent.components marker := by
      intro marker hblank
      rw [components_eq _ hcomponents]
      by_cases hends : EndsAt (PurePath.ofStr path).parent.components marker
      · rw [markedService_append_of_endsAt hends, markedService_of_endsAt hends,
          if_pos (hblank hends)]
      · exact markedService_append hends _
    rw [hmarked _ fun hends => h.resolve_left fun hnot => hnot (.inl hends)]
    rcases marker_cases (PurePath.ofStr path).parent.components (py "services") with
      hends | hpasses | ⟨before, next, after, heq, hnot, hnext⟩
    · have hother := not_endsAt_of_endsAt hends (show py "services" ≠ py "components" by decide)
      rw [hmarked _ fun hends' => absurd hends' hother]
    · rw [hmarked _ fun hends => h.resolve_left fun hnot => hnot (.inr ⟨hpasses, hends⟩)]
    · rw [heq, markedService_of_next hnot, if_neg hnext]

/-! ## Files side by side -/

/-- Next to a file there is room for one of any name. -/
lemma exists_sibling (path : PyStr) {name : PyStr} (hname : PurePath.IsComponent name) :
    ∃ q, (PurePath.ofStr q).parent = (PurePath.ofStr path).parent ∧
      (PurePath.ofStr q).name = name := by
  have hread : PurePath.ofStr ((PurePath.ofStr path).parent.child name).str
      = (PurePath.ofStr path).parent.child name := by
    refine PurePath.ofStr_str (PurePath.root_ofStr_cases path) fun part hpart => ?_
    rcases List.mem_append.mp hpart with hdir | hlast
    · exact PurePath.isComponent_of_mem_components (List.mem_of_mem_dropLast hdir)
    · rw [List.mem_singleton.mp hlast]
      exact hname
  refine ⟨((PurePath.ofStr path).parent.child name).str, ?_, ?_⟩
  · rw [hread, PurePath.parent_child]
  · rw [hread, PurePath.name_child]

/-- A cut name is blank exactly when the name is. -/
lemma cutName_eq_nil_iff {name : PyStr} : cutName name = [] ↔ strip name = [] := by
  rw [cutName, List.take_eq_nil_iff]
  simp

/-- Below a marker that decides, two files have one service when their names come to the same. -/
lemma inferService_eq_iff_of_namesFile {p q : PyStr}
    (h : NamesFile (PurePath.ofStr p).parent.components)
    (hq : (PurePath.ofStr q).parent = (PurePath.ofStr p).parent) :
    inferService p = inferService q ↔
      cutName (PurePath.ofStr p).name = cutName (PurePath.ofStr q).name ∨
        (strip (PurePath.ofStr p).name = [] ∧ cutName (PurePath.ofStr q).name
          = directoryService (PurePath.ofStr p).parent.components) ∨
        (strip (PurePath.ofStr q).name = [] ∧ cutName (PurePath.ofStr p).name
          = directoryService (PurePath.ofStr p).parent.components) := by
  have hq' : NamesFile (PurePath.ofStr q).parent.components := hq ▸ h
  by_cases hblank : strip (PurePath.ofStr p).name = [] <;>
    by_cases hblank' : strip (PurePath.ofStr q).name = []
  · rw [inferService_of_not_namesFile (.inr hblank), inferService_of_not_namesFile (.inr hblank'),
      hq, cutName_eq_nil_iff.mpr hblank, cutName_eq_nil_iff.mpr hblank']
    simp
  · have hne : cutName (PurePath.ofStr q).name ≠ [] := mt cutName_eq_nil_iff.mp hblank'
    rw [inferService_of_not_namesFile (.inr hblank), inferService_of_namesFile hq' hblank',
      cutName_eq_nil_iff.mpr hblank, or_iff_right hne.symm, or_iff_left fun h => hblank' h.1,
      and_iff_right hblank]
    exact eq_comm
  · have hne : cutName (PurePath.ofStr p).name ≠ [] := mt cutName_eq_nil_iff.mp hblank
    rw [inferService_of_namesFile h hblank, inferService_of_not_namesFile (.inr hblank'), hq,
      cutName_eq_nil_iff.mpr hblank']
    simp [hblank, hblank', hne]
  · rw [inferService_of_namesFile h hblank, inferService_of_namesFile hq' hblank']
    simp [hblank, hblank']

/-- **The directories decide unless the first marker that is not passed over is the last of them.**
All files of a directory have one service exactly when the directory is not of that kind; two files
of it have the same one beyond that exactly when their names come to the same; and a service is the
name of a directory or `unknown-service` exactly when the directory is not of that kind, the name is
blank, or it happens to be a directory's name as well. -/
theorem service_from_directories_iff (path : PyStr) :
    ((∀ p q, (PurePath.ofStr p).parent = (PurePath.ofStr path).parent →
        (PurePath.ofStr q).parent = (PurePath.ofStr path).parent →
        inferService p = inferService q) ↔
      ¬ NamesFile (PurePath.ofStr path).parent.components) ∧
    (∀ q, (PurePath.ofStr q).parent = (PurePath.ofStr path).parent →
      (inferService path = inferService q ↔
        ¬ NamesFile (PurePath.ofStr path).parent.components ∨
          cutName (PurePath.ofStr path).name = cutName (PurePath.ofStr q).name ∨
          (strip (PurePath.ofStr path).name = [] ∧ cutName (PurePath.ofStr q).name
            = directoryService (PurePath.ofStr path).parent.components) ∨
          (strip (PurePath.ofStr q).name = [] ∧ cutName (PurePath.ofStr path).name
            = directoryService (PurePath.ofStr path).parent.components))) ∧
    (FromDirectories (PurePath.ofStr path).parent.components (inferService path) ↔
      ¬ NamesFile (PurePath.ofStr path).parent.components ∨
        strip (PurePath.ofStr path).name = [] ∨
        FromDirectories (PurePath.ofStr path).parent.components
          (cutName (PurePath.ofStr path).name)) := by
  refine ⟨⟨?_, ?_⟩, ?_, ?_⟩
  · intro hsame hnames
    obtain ⟨p, hp, hpname⟩ := exists_sibling path (show PurePath.IsComponent (py "a.py") by decide)
    obtain ⟨q, hq, hqname⟩ := exists_sibling path (show PurePath.IsComponent (py "b.py") by decide)
    have heq := hsame p q hp hq
    rw [inferService_of_namesFile (hp ▸ hnames) (by rw [hpname]; decide),
      inferService_of_namesFile (hq ▸ hnames) (by rw [hqname]; decide), hpname, hqname] at heq
    exact absurd heq (by decide)
  · intro hnames p q hp hq
    rw [inferService_of_not_namesFile (.inl (hp ▸ hnames)),
      inferService_of_not_namesFile (.inl (hq ▸ hnames)), hp, hq]
  · intro q hq
    by_cases hnames : NamesFile (PurePath.ofStr path).parent.components
    · rw [or_iff_right (not_not_intro hnames)]
      exact inferService_eq_iff_of_namesFile hnames hq
    · rw [inferService_of_not_namesFile (.inl hnames),
        inferService_of_not_namesFile (.inl (hq ▸ hnames)), hq]
      exact iff_of_true rfl (.inl hnames)
  · by_cases hown : ¬ NamesFile (PurePath.ofStr path).parent.components ∨
        strip (PurePath.ofStr path).name = []
    · rw [inferService_of_not_namesFile hown, ← or_assoc]
      exact iff_of_true (fromDirectories_directoryService _) (.inl hown)
    · rw [← or_assoc, or_iff_right hown]
      rw [not_or, not_not] at hown
      rw [inferService_of_namesFile hown.1 hown.2]

/-- Two files right below `services` are two services, neither of which is a directory. -/
theorem services_apart :
    (PurePath.ofStr (py "/srv/services/a.py")).parent
        = (PurePath.ofStr (py "/srv/services/b.py")).parent ∧
      inferService (py "/srv/services/a.py") = py "a.py" ∧
      inferService (py "/srv/services/b.py") = py "b.py" ∧
      (∀ d ∈ (PurePath.ofStr (py "/srv/services/a.py")).parent.components,
        inferService (py "/srv/services/a.py") ≠ cutName d) ∧
      inferService (py "/srv/services/a.py") ≠ py "unknown-service" := by
  decide +kernel

end Watchtower
