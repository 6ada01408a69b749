import Watchtower.CodeWatcher.Fitting

/-!
# The walk over the syntax tree

`_ASTVisitor` overrides two visit methods, and both have to go on with the traversal.

* `visit` — the walk: `visit_Call`, `visit_Attribute` and `generic_visit`, with the findings
  collected so far.
* `preorder` — the nodes of a tree, each before the nodes below it.
* `emissions` — what is to be emitted at a node.
* **`visit_eq_foldlM`** — the walk emits what there is to emit at the nodes, in pre-order.
* **`visitor_collects`** — what is collected, exactly when every report fits the schema.
* `undecodablePath_not_collected` — a path that has no UTF-8 encoding.
* `scanFileAst_eq_visit` — the walk is what `_scan_file_ast` keeps the findings of.
-/

namespace Watchtower

open Core Py

/-! ## Nodes in order -/

/-- The nodes of a tree in pre-order. -/
def preorder : {i : AstIx} → Ast i → List (Ast .node)
  | _, .name id => [.name id]
  | _, .attr line value name load => .attr line value name load :: preorder value
  | _, .call line func args keywords =>
      .call line func args keywords :: (preorder func ++ preorder args ++ preorder keywords)
  | _, .constant b => [.constant b]
  | _, .other children => .other children :: preorder children
  | _, .nil => []
  | _, .cons head tail => preorder head ++ preorder tail
  | _, .noKeyword => []
  | _, .keyword _ value rest => preorder value ++ preorder rest

/-- The keywords of a call. -/
def keywordList : Ast .keywords → List (Option PyStr × Ast .node)
  | .noKeyword => []
  | .keyword arg value rest => (arg, value) :: keywordList rest

/-! ## What there is to emit -/

/-- The name `eval` or `exec`. -/
def isEvalName : Ast .node → Bool
  | .name id => id == py "eval" || id == py "exec"
  | _ => false

/-- The keyword `shell=True`. -/
def isShellTrue : Option PyStr × Ast .node → Bool
  | (arg, .constant true) => arg == some (py "shell")
  | _ => false

/-- The name of a sensitive attribute. -/
def sensitiveName : Ast .node → Option PyStr
  | .attr _ _ name _ =>
      if [py "password", py "token", py "secret", py "key"].contains name then some name else none
  | _ => none

/-- The finding about a call of `eval` or `exec`. -/
def evalHit (line : LineNo) : AstHit where
  line := line
  node := py "Call"
  type := .evalUsage
  severity := .high
  title := py "eval()/exec() call detected"
  description := py "Direct use of eval()/exec() can execute arbitrary code."
  confidence := unitDouble 0.88

/-- The finding about a shell. -/
def shellHit (line : LineNo) : AstHit where
  line := line
  node := py "Call"
  type := .suspiciousPattern
  severity := .high
  title := py "subprocess shell=True detected"
  description := py "shell=True allows shell injection via unsanitized input."
  confidence := unitDouble 0.85

/-- The finding about an attribute of a sensitive attribute. -/
def dereferenceHit (line : LineNo) (name : PyStr) : AstHit where
  line := line
  node := py "Attribute"
  type := .nullDereference
  severity := .medium
  title := py "Possible null dereference on sensitive field"
  description := py "Attribute chain on sensitive field '" ++ name ++ py "' without None guard."
  confidence := unitDouble 0.55

/-- The emissions at a node: one for a call of `eval` or `exec`; one for every keyword `shell=True`
of a call that may start a process; one for a sensitive attribute that another one is read of. -/
def emissions : Ast .node → List AstHit
  | .call line func _ keywords =>
      (if isEvalName func then [evalHit line] else []) ++
        if startsProcess func then
          ((keywordList keywords).filter isShellTrue).map fun _ => shellHit line
        else []
  | .attr line value _ true => ((sensitiveName value).map (dereferenceHit line)).toList
  | _ => []

lemma evalHits_eq (line : LineNo) (func : Ast .node) :
    evalHits line func = if isEvalName func then [evalHit line] else [] := by
  cases func with
  | name id =>
      simp only [evalHits, isEvalName, Bool.or_eq_true, beq_iff_eq]
      rfl
  | _ => rfl

lemma shellHits_eq (line : LineNo) : ∀ keywords : Ast .keywords,
    shellHits line keywords
      = ((keywordList keywords).filter isShellTrue).map fun _ => shellHit line
  | .noKeyword => by simp only [shellHits, keywordList, List.filter_nil, List.map_nil]
  | .keyword arg (.constant true) rest => by
      rw [shellHits, shellHits_eq line rest, keywordList]
      by_cases harg : arg = some (py "shell")
      · have hkeep : isShellTrue (arg, .constant true) = true := by
          rw [isShellTrue, harg]
          exact beq_self_eq_true _
        rw [if_pos harg, List.filter_cons_of_pos hkeep]
        rfl
      · have hdrop : ¬ isShellTrue (arg, .constant true) = true := by
          rw [isShellTrue, beq_iff_eq]
          exact harg
        rw [if_neg harg, List.filter_cons_of_neg hdrop]
        rfl
  | .keyword arg (.constant false) rest => by
      simp only [shellHits, keywordList, List.filter, isShellTrue]
      exact shellHits_eq line rest
  | .keyword arg (.name id) rest => by
      simp only [shellHits, keywordList, List.filter, isShellTrue]
      exact shellHits_eq line rest
  | .keyword arg (.attr l v n b) rest => by
      simp only [shellHits, keywordList, List.filter, isShellTrue]
      exact shellHits_eq line rest
  | .keyword arg (.call l f a k) rest => by
      simp only [shellHits, keywordList, List.filter, isShellTrue]
      exact shellHits_eq line rest
  | .keyword arg (.other children) rest => by
      simp only [shellHits, keywordList, List.filter, isShellTrue]
      exact shellHits_eq line rest

lemma dereferenceHits_eq (line : LineNo) (value : Ast .node) :
    dereferenceHits line value = ((sensitiveName value).map (dereferenceHit line)).toList := by
  cases value with
  | attr line' value name load =>
      simp only [dereferenceHits, sensitiveName]
      split_ifs <;> rfl
  | _ => rfl

/-- The list of all that is emitted in a tree. -/
lemma astHits_eq {i : AstIx} (tree : Ast i) : astHits tree = (preorder tree).flatMap emissions := by
  induction tree with
  | name id => rfl
  | attr line value name load ih =>
      cases load with
      | true => simp only [astHits, preorder, List.flatMap_cons, emissions, if_true,
          dereferenceHits_eq, ih]
      | false => simp only [astHits, preorder, List.flatMap_cons, emissions, Bool.false_eq_true,
          if_false, ih]
  | call line func args keywords ihf iha ihk =>
      simp only [astHits, preorder, List.flatMap_cons, List.flatMap_append, emissions, evalHits_eq,
        shellHits_eq, ihf, iha, ihk]
  | constant b => rfl
  | other children ih => simp only [astHits, preorder, List.flatMap_cons, emissions, ih,
      List.nil_append]
  | nil => rfl
  | cons head tail ihh iht => simp only [astHits, preorder, List.flatMap_append, ihh, iht]
  | noKeyword => rfl
  | keyword arg value rest ihv ihr => simp only [astHits, preorder, List.flatMap_append, ihv, ihr]

/-! ## The walk -/

section Walk

variable [UnicodeData] [Sha256] (settings : Settings) (path : PyStr) (stamps : ℕ → Stamp)

/-- `_emit`: one more finding is collected, or `new_finding` raises. -/
def emit (found : List Finding) (hit : AstHit) : Except PyExc (List Finding) := do
  let f ← makeFinding (stamps found.length) (astReport settings path hit)
  return found ++ [f]

/-- `_ASTVisitor.visit`.  A call and an attribute are looked at first, and `generic_visit` goes on to
the children of every node. -/
def visit : {i : AstIx} → Ast i → List Finding → Except PyExc (List Finding)
  | _, .name _, found => .ok found
  | _, .attr line value _ load, found => do
      let found ← if load then (dereferenceHits line value).foldlM (emit settings path stamps) found
        else .ok found
      visit value found
  | _, .call line func args keywords, found => do
      let found ← (evalHits line func).foldlM (emit settings path stamps) found
      let found ← if startsProcess func then
          (shellHits line keywords).foldlM (emit settings path stamps) found
        else .ok found
      let found ← visit func found
      let found ← visit args found
      visit keywords found
  | _, .constant _, found => .ok found
  | _, .other children, found => visit children found
  | _, .nil, found => .ok found
  | _, .cons head tail, found => do
      let found ← visit head found
      visit tail found
  | _, .noKeyword, found => .ok found
  | _, .keyword _ value rest, found => do
      let found ← visit value found
      visit rest found

/-- **The walk emits what there is to emit at the nodes, in pre-order.** -/
theorem visit_eq_foldlM {i : AstIx} (tree : Ast i) : ∀ found,
    visit settings path stamps tree found
      = ((preorder tree).flatMap emissions).foldlM (emit settings path stamps) found := by
  induction tree with
  | name id => exact fun _ => rfl
  | attr line value name load ih =>
      intro found
      cases load with
      | true =>
          simp only [visit, preorder, List.flatMap_cons, List.foldlM_append, emissions, if_true,
            dereferenceHits_eq]
          congr 1
          funext found'
          exact ih found'
      | false =>
          simp only [visit, preorder, List.flatMap_cons, emissions, Bool.false_eq_true, if_false,
            List.nil_append]
          exact ih found
  | call line func args keywords ihf iha ihk =>
      intro found
      simp only [visit, preorder, List.flatMap_cons, List.flatMap_append, List.foldlM_append,
        emissions, evalHits_eq, ihf, iha, ihk, bind_assoc]
      congr 1
      funext found'
      split_ifs
      · rw [shellHits_eq]
      · rfl
  | constant b => exact fun _ => rfl
  | other children ih =>
      intro found
      simp only [visit, preorder, List.flatMap_cons, emissions, List.nil_append]
      exact ih found
  | nil => exact fun _ => rfl
  | cons head tail ihh iht =>
      intro found
      simp only [visit, preorder, List.flatMap_append, List.foldlM_append, ihh, iht]
  | noKeyword => exact fun _ => rfl
  | keyword arg value rest ihv ihr =>
      intro found
      simp only [visit, preorder, List.flatMap_append, List.foldlM_append, ihv, ihr]

/-! ## What is collected -/

variable {settings path stamps}

/-- The findings of a walk that does not raise, beyond those it starts with. -/
lemma madeFrom_of_foldlM {hits : List AstHit} : ∀ {found collected : List Finding},
    hits.foldlM (emit settings path stamps) found = .ok collected →
      ∃ fresh, collected = found ++ fresh ∧
        List.Forall₂ (fun hit f => MadeFrom (astReport settings path hit) f) hits fresh := by
  induction hits with
  | nil =>
      intro found collected h
      cases h
      exact ⟨[], (List.append_nil _).symm, .nil⟩
  | cons hit hits ih =>
      intro found collected h
      rw [List.foldlM_cons] at h
      obtain ⟨found', hemit, hrest⟩ := bind_eq_ok_iff.mp h
      obtain ⟨f, hf, hret⟩ := bind_eq_ok_iff.mp hemit
      cases hret
      obtain ⟨fresh, rfl, hfresh⟩ := ih hrest
      exact ⟨f :: fresh, by rw [List.append_assoc]; rfl, .cons ⟨_, hf⟩ hfresh⟩

/-- What findings are made of fits. -/
lemma fits_of_forall₂_madeFrom {hits : List AstHit} {found : List Finding}
    (h : List.Forall₂ (fun hit f => MadeFrom (astReport settings path hit) f) hits found) :
    ∀ hit ∈ hits, (astReport settings path hit).Fits :=
  ((List.forall₂_and_left _ _).mp (h.imp fun _ _ hmade => ⟨fits_of_madeFrom hmade, hmade⟩)).1

/-- Where every report fits, nothing raises. -/
lemma returns_foldlM {hits : List AstHit} : ∀ {found : List Finding},
    (∀ hit ∈ hits, (astReport settings path hit).Fits) →
      Returns (hits.foldlM (emit settings path stamps) found) := by
  induction hits with
  | nil => exact fun _ => returns_ok _
  | cons hit hits ih =>
      intro found h
      obtain ⟨f, hf⟩ := (returns_makeFinding_iff (stamps found.length) _).mpr
        (h hit List.mem_cons_self)
      have hemit : emit settings path stamps found hit = .ok (found ++ [f]) := by
        rw [emit, hf]
        rfl
      rw [List.foldlM_cons, hemit]
      exact ih fun hit hhit => h hit (List.mem_cons_of_mem _ hhit)

/-! ## In the scan -/

/-- The findings made of the emissions one after the other are those of the loop. -/
lemma foldlM_eq_makeFindings (k : ℕ) (hits : List AstHit) : ∀ found : List Finding,
    hits.foldlM (emit settings path fun i => stamps (k + i)) found
      = match makeFindings stamps (k + found.length)
          (hits.map fun hit => .ok (astReport settings path hit)) with
        | (fresh, none) => .ok (found ++ fresh)
        | (_, some e) => .error e := by
  induction hits with
  | nil =>
      intro found
      simp only [List.map_nil, makeFindings, List.append_nil]
      rfl
  | cons hit hits ih =>
      intro found
      rw [List.foldlM_cons, List.map_cons, makeFindings, ok_bind, emit]
      cases hmade : makeFinding (stamps (k + found.length)) (astReport settings path hit) with
      | error e => rfl
      | ok f =>
          have hlen : k + (found ++ [f]).length = k + found.length + 1 := by
            rw [List.length_append, List.length_singleton, Nat.add_assoc]
          have hrest := ih (found ++ [f])
          rw [hlen] at hrest
          rw [ok_bind]
          refine hrest.trans ?_
          rcases makeFindings stamps (k + found.length + 1)
            (hits.map fun hit => .ok (astReport settings path hit)) with ⟨fresh, _ | e⟩
          · simp only [List.append_assoc, List.singleton_append]
          · rfl

/-- **`_scan_file_ast` keeps what the walk collects**, and nothing of a walk that raises. -/
theorem scanFileAst_eq_visit {parse : PyStr → Option (Ast .node)} {source : PyStr}
    {tree : Ast .node} (k : ℕ) (hpython : (py ".py").isSuffixOf path = true)
    (htree : parse source = some tree) :
    scanFileAst settings parse stamps k path source
      = match visit settings path (fun i => stamps (k + i)) tree [] with
        | .ok findings => findings
        | .error _ => [] := by
  have hhits : fileAstHits parse path source = (preorder tree).flatMap emissions := by
    rw [fileAstHits, if_pos hpython, htree]
    exact astHits_eq tree
  rw [scanFileAst, hhits, visit_eq_foldlM, foldlM_eq_makeFindings, List.length_nil, Nat.add_zero]
  rcases makeFindings stamps k (((preorder tree).flatMap emissions).map fun hit =>
    .ok (astReport settings path hit)) with ⟨fresh, _ | e⟩ <;> rfl

end Walk

/-- **What the visitor collects** from a tree of any shape: in pre-order, one finding for each
emission at each of its nodes, exactly when the path and its titles suit the schema at all of them.
Otherwise the walk raises. -/
theorem visitor_collects [UnicodeData] [Sha256] (settings : Settings) (path : PyStr)
    (stamps : ℕ → Stamp) (tree : Ast .node) :
    visit settings path stamps tree []
        = ((preorder tree).flatMap emissions).foldlM (emit settings path stamps) [] ∧
      ((∃ findings, visit settings path stamps tree [] = .ok findings ∧
          List.Forall₂ (fun hit f => MadeFrom (astReport settings path hit) f)
            ((preorder tree).flatMap emissions) findings) ↔
        ∀ hit ∈ (preorder tree).flatMap emissions, HitFits settings path hit.title hit.line) := by
  have hwalk := visit_eq_foldlM settings path stamps tree []
  have hfits : ∀ hit ∈ (preorder tree).flatMap emissions,
      ((astReport settings path hit).Fits ↔ HitFits settings path hit.title hit.line) := by
    intro hit hhit
    rw [← astHits_eq] at hhit
    exact astReport_fits_iff (fits_of_mem_astHits tree hhit)
  refine ⟨hwalk, ?_, ?_⟩
  · rintro ⟨findings, -, hmade⟩ hit hhit
    exact (hfits hit hhit).mp (fits_of_forall₂_madeFrom hmade hit hhit)
  · intro h
    obtain ⟨findings, hcollected⟩ : Returns (((preorder tree).flatMap emissions).foldlM
        (emit settings path stamps) []) :=
      returns_foldlM fun hit hhit => (hfits hit hhit).mpr (h hit hhit)
    obtain ⟨fresh, rfl, hfresh⟩ := madeFrom_of_foldlM hcollected
    exact ⟨_, hwalk.trans hcollected, hfresh⟩

section Sample

attribute [local instance] asciiData pathDigest

/-- `eval(x)`. -/
def evalTree : Ast .node :=
  .call ⟨1, by decide⟩ (.name (py "eval")) (.cons (.name (py "x")) .nil) .noKeyword

/-- One finding is collected from it. -/
theorem visitor_collects_evalTree :
    ∃ findings, visit codeSettings (py "/srv/auth/a.py") (fun _ => sampleStamp) evalTree []
        = .ok findings ∧
      List.Forall₂ (fun hit f => MadeFrom (astReport codeSettings (py "/srv/auth/a.py") hit) f)
        [evalHit ⟨1, by decide⟩] findings := by
  refine (visitor_collects codeSettings (py "/srv/auth/a.py") (fun _ => sampleStamp) evalTree).2.mpr ?_
  intro hit hhit
  obtain rfl : hit = evalHit ⟨1, by decide⟩ := List.mem_singleton.mp hhit
  exact ⟨{ platform := ⟨by decide, by decide⟩, encodable := by decide, length := by decide },
    by decide⟩

/-- Under a path with a byte that is not UTF-8 it raises, and `_scan_file_ast` returns nothing. -/
theorem undecodablePath_not_collected :
    (preorder evalTree).flatMap emissions = [evalHit ⟨1, by decide⟩] ∧
      (¬ ∃ findings, visit codeSettings undecodablePath (fun _ => sampleStamp) evalTree []
        = .ok findings) ∧
      scanFileAst codeSettings (fun _ => some evalTree) (fun _ => sampleStamp) 0 undecodablePath
        (py "eval(x)") = [] := by
  have hraises : ∀ findings, visit codeSettings undecodablePath (fun _ => sampleStamp) evalTree []
      ≠ .ok findings := by
    intro findings h
    rw [visit_eq_foldlM] at h
    obtain ⟨fresh, -, hfresh⟩ := madeFrom_of_foldlM h
    have hfits := fits_of_forall₂_madeFrom hfresh (evalHit ⟨1, by decide⟩) List.mem_cons_self
    exact absurd hfits.file_encodable (by decide)
  refine ⟨rfl, fun ⟨findings, h⟩ => hraises findings h, ?_⟩
  rw [scanFileAst_eq_visit 0 (by decide) rfl]
  cases hvisit : visit codeSettings undecodablePath (fun _ => sampleStamp) evalTree [] with
  | error e => rfl
  | ok findings => exact absurd hvisit (hraises findings)

end Sample

end Watchtower
