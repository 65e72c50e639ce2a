import Mathlib.Algebra.Ring.Nat
import LintReview.Format
import LintReview.Proofs.Json.Difference
import LintReview.Proofs.Json.Documents
import LintReview.Proofs.Json.Records
import LintReview.Proofs.Sequence

/-! Logs of any shape as input. Each field of a diagnostic is read from a leaf of its result, the
symbol also from the catalogue of the run (`diagnostic_eq`), and it is unknown if the leaf is not of
its type (`Reports`). **Every document is read, as one diagnostic for each result of each run, and
what differs in one leaf differs in one field of one diagnostic** (`read_lenient`). -/

namespace LintReview.Format.SarifLog

open Json (Tree Step)
open Json.Tree (DifferAt)

/-! ## Places in a log -/

/-- The items of the array that a member is. There are none if it is anything else, or missing. -/
def elements (name : String) (t : Tree) : List Tree :=
  match t.member? name with
  | some (.array items) => items
  | _ => []

/-- The results of a log, each with its run, as they follow one another in the document. -/
def reported (log : Tree) : List (Tree × Tree) :=
  (elements "runs" log).flatMap fun run => (elements "results" run).map fun result => (run, result)

/-- The result at a position of a run. -/
def resultAt? (i j : Nat) (log : Tree) : Option Tree :=
  (elements "runs" log)[i]?.bind fun run => (elements "results" run)[j]?

/-- How many results precede a position of a run. -/
def place (i j : Nat) (log : Tree) : Nat :=
  (((elements "runs" log).take i).map fun run => (elements "results" run).length).sum + j

def runSteps (i : Nat) : List Step := [.member "runs", .item i]

def resultSteps (i j : Nat) : List Step := runSteps i ++ [.member "results", .item j]

/-- The rule catalogue of a run. -/
def catalogueSteps : List Step := [.member "tool", .member "driver", .member "rules"]

/-- The first location of a result. -/
def locationSteps : List Step := [.member "locations", .item 0, .member "physicalLocation"]

/-- The leaves of a result that a diagnostic is read from. -/
inductive Leaf where
  | ruleId
  | ruleIndex
  | level
  | text
  | uri
  | startLine
  | startColumn
  | endLine
  | endColumn
  deriving DecidableEq

namespace Leaf

def steps : Leaf → List Step
  | ruleId => [.member "ruleId"]
  | ruleIndex => [.member "ruleIndex"]
  | level => [.member "level"]
  | text => [.member "message", .member "text"]
  | uri => locationSteps ++ [.member "artifactLocation", .member "uri"]
  | startLine => locationSteps ++ [.member "region", .member "startLine"]
  | startColumn => locationSteps ++ [.member "region", .member "startColumn"]
  | endLine => locationSteps ++ [.member "region", .member "endLine"]
  | endColumn => locationSteps ++ [.member "region", .member "endColumn"]

def path (leaf : Leaf) : List String := leaf.steps.map Step.text

/-- The leaf of a result. -/
def of? (leaf : Leaf) (result : Tree) : Option Tree := result.descend? leaf.path

/-- The diagnostics are the same, apart from the field that is read from this leaf. -/
def SameBut : Leaf → Diagnostic → Diagnostic → Prop
  | ruleId, d, d' => d' = { d with id := d'.id }
  | ruleIndex, d, d' => d' = { d with sym := d'.sym }
  | level, d, d' => d' = { d with level := d'.level }
  | text, d, d' => d' = { d with msg := d'.msg }
  | uri, d, d' => d' = { d with path := d'.path }
  | startLine, d, d' => d' = { d with line := d'.line }
  | startColumn, d, d' => d' = { d with col := d'.col }
  | endLine, d, d' => d' = { d with eline := d'.eline }
  | endColumn, d, d' => d' = { d with ecol := d'.ecol }

end Leaf

/-- The field is a text if the value is, and otherwise unknown. -/
def IsText (value : Option Tree) (field : Option String) : Prop :=
  ∀ s, field = some s ↔ value = some (.text (some s))

/-- The field is an unsigned number of 32 bits if the value is, and otherwise unknown. -/
def IsWord (value : Option Tree) (field : Option UInt32) : Prop :=
  ∀ n, field = some n ↔ ∃ t, value = some t ∧ t.IsUnsigned n.toNat

/-- The rule that a result of the run refers to by its position in the catalogue. -/
def IsRule (run : Tree) (index : Option Tree) (rule : Tree) : Prop :=
  ∃ t k, index = some t ∧ t.IsUnsigned k ∧ k < UInt64.size ∧
    ∃ rules, run.descend? (catalogueSteps.map Step.text) = some (.array rules) ∧
      rules[k]? = some rule

/-- The diagnostic says what is known of the result. -/
structure Reports (run result : Tree) (d : Diagnostic) : Prop where
  id : IsText (Leaf.ruleId.of? result) d.id
  sym : ∀ s, d.sym = some s ↔ ∃ rule, IsRule run (Leaf.ruleIndex.of? result) rule ∧
    rule.descend? ["name"] = some (.text (some s))
  msg : IsText (Leaf.text.of? result) d.msg
  level : ∀ l, d.level = some l ↔ Leaf.level.of? result = some (.text (some l.word))
  path : IsText (Leaf.uri.of? result) d.path
  line : IsWord (Leaf.startLine.of? result) d.line
  col : IsWord (Leaf.startColumn.of? result) d.col
  eline : IsWord (Leaf.endLine.of? result) d.eline
  ecol : IsWord (Leaf.endColumn.of? result) d.ecol

variable {t t' run run' result rules : Tree} {leaf : Leaf} {value value' : Leaf → Option Tree}
  {name : String} {steps : List Step} {i j : Nat}

/-! ## Fields of a diagnostic -/

/-- The diagnostic that leaves with these values make. -/
def ofLeaves (rules : Tree) (value : Leaf → Option Tree) : Diagnostic where
  id := (value .ruleId).bind Tree.string?
  sym := ((value .ruleIndex).bind Tree.uint64?).bind fun index =>
    (rules.item? index.toNat).bind (stringAt? · ["name"])
  msg := (value .text).bind Tree.string?
  level := ((value .level).bind Tree.string?).bind Level.ofWord?
  path := (value .uri).bind Tree.string?
  line := (value .startLine).bind Tree.uint32?
  col := (value .startColumn).bind Tree.uint32?
  eline := (value .endLine).bind Tree.uint32?
  ecol := (value .endColumn).bind Tree.uint32?

theorem path_locationSteps (steps : List Step) :
    (locationSteps ++ steps).map Step.text =
      ["locations", "0", "physicalLocation"] ++ steps.map Step.text := by
  rw [List.map_append]
  rfl

theorem descend?_getD_null {first : List String} {path : List String} :
    ((t.descend? first).getD .null).descend? (name :: path) = t.descend? (first ++ name :: path) := by
  rw [Tree.descend?_append]
  cases t.descend? first <;> rfl

theorem diagnostic_eq : diagnostic rules result = ofLeaves rules (·.of? result) := by
  have hindex : result.member? "ruleIndex" = Leaf.ruleIndex.of? result :=
    Tree.member?_eq_descend? rfl
  have hlevel : result.member? "level" = Leaf.level.of? result := Tree.member?_eq_descend? rfl
  have hlocation (name last : String) :
      ((result.descend? ["locations", "0", "physicalLocation"]).getD .null).descend? [name, last] =
        result.descend?
          ((locationSteps ++ [Step.member name, Step.member last]).map Step.text) := by
    rw [descend?_getD_null, path_locationSteps]
    rfl
  have hsym : ruleName? rules result = ((Leaf.ruleIndex.of? result).bind Tree.uint64?).bind
      fun index => (rules.item? index.toNat).bind (stringAt? · ["name"]) := by
    rw [← hindex, Option.bind_assoc]
    rfl
  simp only [diagnostic, ofLeaves, stringAt?, uint32At?, hlevel, hlocation, hsym]
  rfl

/-- A diagnostic depends on each leaf in one field only. -/
theorem sameBut_ofLeaves (h : ∀ other, other ≠ leaf → value other = value' other) :
    leaf.SameBut (ofLeaves rules value) (ofLeaves rules value') := by
  cases leaf <;>
    simp only [Leaf.SameBut, ofLeaves, h, ne_eq, reduceCtorEq, not_false_eq_true]

theorem isText_bind {value : Option Tree} : IsText value (value.bind Tree.string?) := by
  intro s
  simp only [Option.bind_eq_some_iff, Tree.string?_eq_some_iff, exists_eq_right]

theorem isWord_bind {value : Option Tree} : IsWord value (value.bind Tree.uint32?) := by
  intro n
  simp only [Option.bind_eq_some_iff, Tree.uint32?_eq_some_iff]

theorem ofWord?_eq_some_iff {w : String} {l : Level} : Level.ofWord? w = some l ↔ w = l.word := by
  constructor
  · intro h
    unfold Level.ofWord? at h
    split at h
    · next hw => cases h; exact hw
    split at h
    · next hw => cases h; exact hw
    split at h
    · next hw => cases h; exact hw
    · cases h
  · rintro rfl
    exact Level.ofWord?_word l

theorem item?_rules_eq_some_iff {rule : Tree} {k : Nat} :
    (SarifLog.rules run).item? k = some rule ↔
      ∃ rules, run.descend? (catalogueSteps.map Step.text) = some (.array rules) ∧
        rules[k]? = some rule := by
  have hpath : catalogueSteps.map Step.text = ["tool", "driver", "rules"] := rfl
  rw [SarifLog.rules, hpath]
  cases run.descend? ["tool", "driver", "rules"] with
  | none => exact iff_of_false nofun fun ⟨_, h, _⟩ => nomatch h
  | some t =>
    cases t with
    | array rules =>
      constructor
      · exact fun h => ⟨rules, rfl, h⟩
      · rintro ⟨_, ⟨⟩, h⟩
        exact h
    | _ => exact iff_of_false nofun fun ⟨_, h, _⟩ => nomatch h

theorem isRule_iff {index : Option Tree} {rule : Tree} :
    IsRule run index rule ↔ ∃ n, index.bind Tree.uint64? = some n ∧
      (SarifLog.rules run).item? n.toNat = some rule := by
  simp only [Option.bind_eq_some_iff, Tree.uint64?_eq_some_iff, item?_rules_eq_some_iff]
  constructor
  · rintro ⟨t, k, rfl, hk, hlt, hrules⟩
    have hword : (UInt64.ofNat k).toNat = k := UInt64.toNat_ofNat_of_lt' hlt
    exact ⟨.ofNat k, ⟨t, rfl, hword.symm ▸ hk⟩, hword.symm ▸ hrules⟩
  · rintro ⟨n, ⟨t, rfl, hn⟩, hrules⟩
    exact ⟨t, n.toNat, rfl, hn, n.toNat_lt, hrules⟩

theorem reports_diagnostic : Reports run result (diagnostic (SarifLog.rules run) result) := by
  rw [diagnostic_eq]
  exact
    { id := isText_bind
      sym := by
        intro s
        simp only [isRule_iff, ofLeaves, stringAt?, Option.bind_eq_some_iff,
          Tree.string?_eq_some_iff, exists_eq_right]
        constructor
        · rintro ⟨n, hn, rule, hrule, hname⟩
          exact ⟨rule, ⟨n, hn, hrule⟩, hname⟩
        · rintro ⟨rule, ⟨n, hn, hrule⟩, hname⟩
          exact ⟨n, hn, rule, hrule, hname⟩
      msg := isText_bind
      level := by
        intro l
        simp only [ofLeaves, Option.bind_eq_some_iff, Tree.string?_eq_some_iff,
          ofWord?_eq_some_iff, exists_eq_right]
      path := isText_bind
      line := isWord_bind
      col := isWord_bind
      eline := isWord_bind
      ecol := isWord_bind }

/-! ## Diagnostics of a log -/

theorem elements_eq (name : String) : elements name t = ((t.member? name).bind Tree.items?).getD [] := by
  unfold elements
  cases t.member? name with
  | none => rfl
  | some u => cases u <;> rfl

theorem runs_eq : runs t = elements "runs" t := (elements_eq "runs").symm

theorem results_eq : results run = elements "results" run := (elements_eq "results").symm

/-- The diagnostics of a run. -/
def ofRun (run : Tree) : List Diagnostic :=
  (elements "results" run).map (diagnostic (SarifLog.rules run))

theorem diagnostics_eq_flatMap : diagnostics t = (elements "runs" t).flatMap ofRun := by
  rw [diagnostics, runs_eq]
  apply List.flatMap_congr
  intro run _
  rw [runDiagnostics, results_eq, ofRun]

theorem length_flatMap_ofRun (before : List Tree) :
    (before.flatMap ofRun).length =
      (before.map fun run => (elements "results" run).length).sum := by
  simp only [List.length_flatMap, ofRun, List.length_map]

theorem forall₂_reports :
    List.Forall₂ (fun entry d => Reports entry.1 entry.2 d) (reported t) (diagnostics t) := by
  have hdiagnostics :
      diagnostics t = (reported t).map fun entry => diagnostic (SarifLog.rules entry.1) entry.2 := by
    rw [diagnostics_eq_flatMap, reported, List.map_flatMap]
    apply List.flatMap_congr
    intro run _
    rw [List.map_map]
    rfl
  rw [hdiagnostics, List.forall₂_map_right_iff]
  exact List.forall₂_same.mpr fun _ _ => reports_diagnostic

/-! ## Differences -/

theorem member?_of_getElem?_elements {x : Tree} (h : (elements name t)[i]? = some x) :
    t.member? name = some (.array (elements name t)) := by
  unfold elements at h ⊢
  split at h
  · next hmember => rw [hmember]
  · cases h

theorem exists_elements_of_differAt {x x' : Tree}
    (h : DifferAt (.member name :: .item i :: steps) (some t) (some t'))
    (hx : (elements name t)[i]? = some x) (hx' : (elements name t')[i]? = some x') :
    ∃ before after, elements name t = before ++ x :: after ∧
      elements name t' = before ++ x' :: after ∧ before.length = i ∧
      DifferAt steps (some x) (some x') := by
  cases h with
  | member _ _ _ h =>
    rw [Option.bind_some, Option.bind_some, member?_of_getElem?_elements hx,
      member?_of_getElem?_elements hx'] at h
    cases h with
    | item _ _ hothers hnext =>
      simp only [Option.bind_some, Tree.item?] at hothers hnext
      rw [hx, hx'] at hnext
      obtain ⟨before, after, hbefore, hafter, hlength⟩ :=
        List.exists_append_cons_of_getElem? hx hx' hothers
      exact ⟨before, after, hbefore, hafter, hlength, hnext⟩

theorem elements_eq_of_differAt {other : String}
    (h : DifferAt (.member other :: steps) (some t) (some t')) (hname : name ≠ other) :
    elements name t = elements name t' := by
  cases h with
  | member _ _ hothers _ =>
    have hmember : t.member? name = t'.member? name := hothers name hname
    rw [elements, elements, hmember]

theorem rules_eq_of_differAt
    (h : DifferAt (.member "results" :: steps) (some run) (some run')) :
    SarifLog.rules run = SarifLog.rules run' := by
  have hpath : ¬["tool", "driver", "rules"] <+: (Step.member "results" :: steps).map Step.text :=
    fun hprefix => absurd (List.cons_prefix_cons.mp hprefix).1 (by decide)
  have hsteps : ¬(Step.member "results" :: steps).map Step.text <+: ["tool", "driver", "rules"] :=
    fun hprefix => absurd (List.cons_prefix_cons.mp hprefix).1 (by decide)
  have hdescend : run.descend? ["tool", "driver", "rules"] =
      run'.descend? ["tool", "driver", "rules"] := h.descend?_eq hpath hsteps
  rw [SarifLog.rules, SarifLog.rules, hdescend]

theorem not_prefix_path {leaf other : Leaf} (h : other ≠ leaf) : ¬other.path <+: leaf.path := by
  revert h
  cases other <;> cases leaf <;> decide

theorem sameBut_of_differAt {result' : Tree}
    (h : DifferAt leaf.steps (some result) (some result')) :
    leaf.SameBut (diagnostic rules result) (diagnostic rules result') := by
  rw [diagnostic_eq, diagnostic_eq]
  apply sameBut_ofLeaves
  intro other hother
  exact h.descend?_eq (not_prefix_path hother) (not_prefix_path hother.symm)

theorem diagnostics_split {before after : List Tree}
    (h : elements "runs" t = before ++ run :: after) :
    diagnostics t = before.flatMap ofRun ++ (ofRun run ++ after.flatMap ofRun) := by
  rw [diagnostics_eq_flatMap, h, List.flatMap_append, List.flatMap_cons]

theorem place_eq {before after : List Tree} (h : elements "runs" t = before ++ run :: after)
    (hlength : before.length = i) : place i j t = (before.flatMap ofRun).length + j := by
  rw [place, h, List.take_left' hlength, length_flatMap_ofRun]

/-- Another value in one leaf changes one field of one diagnostic. -/
theorem diagnostics_of_differAt_leaf {result' : Tree} (hresult : resultAt? i j t = some result)
    (hresult' : resultAt? i j t' = some result')
    (h : DifferAt (resultSteps i j ++ leaf.steps) (some t) (some t')) :
    ∃ before d d' after, diagnostics t = before ++ d :: after ∧
      diagnostics t' = before ++ d' :: after ∧ before.length = place i j t ∧
      leaf.SameBut d d' := by
  obtain ⟨run, hrun, hresult⟩ := Option.bind_eq_some_iff.mp hresult
  obtain ⟨run', hrun', hresult'⟩ := Option.bind_eq_some_iff.mp hresult'
  obtain ⟨runs, later, hruns, hruns', hi, hdiffer⟩ := exists_elements_of_differAt h hrun hrun'
  -- The catalogue lies beside the way to the leaf.
  have hrules := rules_eq_of_differAt hdiffer
  obtain ⟨earlier, rest, hresults, hresults', hj, hleaf⟩ :=
    exists_elements_of_differAt hdiffer hresult hresult'
  refine ⟨runs.flatMap ofRun ++ earlier.map (diagnostic (SarifLog.rules run)),
    diagnostic (SarifLog.rules run) result, diagnostic (SarifLog.rules run) result',
    rest.map (diagnostic (SarifLog.rules run)) ++ later.flatMap ofRun, ?_, ?_, ?_,
    sameBut_of_differAt hleaf⟩
  · rw [diagnostics_split hruns, ofRun, hresults]
    simp only [List.map_append, List.map_cons, List.append_assoc, List.cons_append]
  · rw [diagnostics_split hruns', ofRun, hresults', ← hrules]
    simp only [List.map_append, List.map_cons, List.append_assoc, List.cons_append]
  · rw [List.length_append, List.length_map, hj, place_eq hruns hi]

/-- Another catalogue changes the symbols of one run. -/
theorem diagnostics_of_differAt_catalogue (hrun : (elements "runs" t)[i]? = some run)
    (hrun' : (elements "runs" t')[i]? = some run')
    (h : DifferAt (runSteps i ++ catalogueSteps) (some t) (some t')) :
    ∃ before own own' after, diagnostics t = before ++ (own ++ after) ∧
      diagnostics t' = before ++ (own' ++ after) ∧ before.length = place i 0 t ∧
      own.length = (elements "results" run).length ∧
      List.Forall₂ Leaf.ruleIndex.SameBut own own' := by
  obtain ⟨runs, later, hruns, hruns', hi, hdiffer⟩ := exists_elements_of_differAt h hrun hrun'
  have hresults : elements "results" run = elements "results" run' :=
    elements_eq_of_differAt hdiffer (by decide)
  refine ⟨runs.flatMap ofRun, ofRun run, ofRun run', later.flatMap ofRun, diagnostics_split hruns,
    diagnostics_split hruns', ?_, List.length_map _, ?_⟩
  · rw [place_eq hruns hi, Nat.add_zero]
  rw [ofRun, ofRun, hresults, List.forall₂_map_left_iff, List.forall₂_map_right_iff]
  exact List.forall₂_same.mpr fun _ _ => rfl

/-! ## Texts -/

theorem read_eq_ok {s : String} (h : Json.readWhole? s = some t) :
    InputReader.sarif.read s = .ok (diagnostics t) := by
  unfold InputReader.read
  dsimp only
  rw [read?, h]
  rfl

/-- **Every document is read.** Each result of each run yields one diagnostic, in the order of the
document, with the fields that are of their type. Documents that differ in one leaf of a result only
yield diagnostics that differ in its field only, and those that differ in the catalogue of a run
only yield ones that differ in the symbols of this run only. -/
theorem read_lenient {s : String} (h : Json.readWhole? s = some t) :
    ∃ ds, InputReader.sarif.read s = .ok ds ∧
      ds.length = ((elements "runs" t).map fun run => (elements "results" run).length).sum ∧
      List.Forall₂ (fun entry d => Reports entry.1 entry.2 d) (reported t) ds ∧
      (∀ s' t' i j result result' leaf, Json.readWhole? s' = some t' →
        resultAt? i j t = some result → resultAt? i j t' = some result' →
        DifferAt (resultSteps i j ++ Leaf.steps leaf) (some t) (some t') →
        ∃ before d d' after, ds = before ++ d :: after ∧
          InputReader.sarif.read s' = .ok (before ++ d' :: after) ∧
          before.length = place i j t ∧ leaf.SameBut d d') ∧
      ∀ s' t' i run run', Json.readWhole? s' = some t' →
        (elements "runs" t)[i]? = some run → (elements "runs" t')[i]? = some run' →
        DifferAt (runSteps i ++ catalogueSteps) (some t) (some t') →
        ∃ before own own' after, ds = before ++ (own ++ after) ∧
          InputReader.sarif.read s' = .ok (before ++ (own' ++ after)) ∧
          before.length = place i 0 t ∧ own.length = (elements "results" run).length ∧
          List.Forall₂ Leaf.ruleIndex.SameBut own own' := by
  refine ⟨diagnostics t, read_eq_ok h, ?_, forall₂_reports, ?_, ?_⟩
  · rw [diagnostics_eq_flatMap, length_flatMap_ofRun]
  · intro s' t' i j result result' leaf h' hresult hresult' hdiffer
    obtain ⟨before, d, d', after, hds, hds', hplace, hsame⟩ :=
      diagnostics_of_differAt_leaf hresult hresult' hdiffer
    exact ⟨before, d, d', after, hds, hds' ▸ read_eq_ok h', hplace, hsame⟩
  · intro s' t' i run run' h' hrun hrun' hdiffer
    obtain ⟨before, own, own', after, hds, hds', hplace, hlength, hsame⟩ :=
      diagnostics_of_differAt_catalogue hrun hrun' hdiffer
    exact ⟨before, own, own', after, hds, hds' ▸ read_eq_ok h', hplace, hlength, hsame⟩

/-- A log with one rule and one result, which refers to a rule like this. -/
def exampleLog (ruleIndex : Tree) : Tree :=
  .record
    [("runs", .array [.record
      [("tool", .record [("driver", .record
        [("rules", .array [.record [("name", .ofString "unused-import")]])])]),
       ("results", .array [.record
         [("ruleId", .ofString "W1"), ("ruleIndex", ruleIndex)]])]])]

theorem plain_exampleLog {ruleIndex : Tree} (h : ruleIndex.Plain 3) :
    (exampleLog ruleIndex).Plain 8 := by
  have hrule : (Tree.record [("name", .ofString "unused-import")]).Plain 2 :=
    .record (List.forall_mem_singleton.mpr .ofString)
  have hdriver : (Tree.record
      [("rules", .array [.record [("name", .ofString "unused-import")]])]).Plain 4 :=
    .record (List.forall_mem_singleton.mpr (.array (List.forall_mem_singleton.mpr hrule)))
  have hresult : (Tree.record [("ruleId", .ofString "W1"), ("ruleIndex", ruleIndex)]).Plain 4 :=
    .record (List.forall_mem_cons.mpr ⟨.ofString, List.forall_mem_singleton.mpr h⟩)
  refine .record (List.forall_mem_singleton.mpr (.array (List.forall_mem_singleton.mpr ?_)))
  apply Tree.Plain.record
  refine List.forall_mem_cons.mpr ⟨?_, List.forall_mem_singleton.mpr ?_⟩
  · exact .record (List.forall_mem_singleton.mpr hdriver)
  · exact .array (List.forall_mem_singleton.mpr hresult)

theorem differAt_exampleLog (ruleIndex ruleIndex' : Tree) :
    DifferAt (resultSteps 0 0 ++ Leaf.ruleIndex.steps) (some (exampleLog ruleIndex))
      (some (exampleLog ruleIndex')) := by
  apply Tree.DifferAt.object [] [] (List.forall_mem_nil _)
  apply Tree.DifferAt.array [] []
  apply Tree.DifferAt.object [_] [] (List.forall_mem_nil _)
  apply Tree.DifferAt.array [] []
  apply Tree.DifferAt.object [_] [] (List.forall_mem_nil _)
  exact .here

/-- A position that is written as a text. -/
theorem read_lenient_misfit :
    let s := String.ofList (exampleLog (.ofNat 0)).compact
    let s' := String.ofList (exampleLog (.ofString "0")).compact
    Json.readWhole? s = some (exampleLog (.ofNat 0)) ∧
    Json.readWhole? s' = some (exampleLog (.ofString "0")) ∧
    ∃ d d', InputReader.sarif.read s = .ok [d] ∧ InputReader.sarif.read s' = .ok [d'] ∧
      Leaf.ruleIndex.SameBut d d' ∧ d.sym = some "unused-import" ∧ d'.sym = none := by
  have hs := Json.readWhole?_compact (plain_exampleLog (.ofNat (by decide : 0 < UInt64.size)))
    (by decide)
  have hs' := Json.readWhole?_compact (plain_exampleLog (.ofString (s := "0"))) (by decide)
  refine ⟨hs, hs', ?_⟩
  obtain ⟨ds, hread, -, -, hleaf, -⟩ := read_lenient hs
  obtain ⟨before, d, d', after, rfl, hread', hplace, hsame⟩ :=
    hleaf _ _ 0 0 _ _ .ruleIndex hs' rfl rfl (differAt_exampleLog _ _)
  obtain rfl : before = [] := List.eq_nil_of_length_eq_zero hplace
  have hds : d :: after = diagnostics (exampleLog (.ofNat 0)) :=
    Except.ok.inj (hread.symm.trans (read_eq_ok hs))
  have hds' : d' :: after = diagnostics (exampleLog (.ofString "0")) :=
    Except.ok.inj (hread'.symm.trans (read_eq_ok hs'))
  obtain ⟨rfl, rfl⟩ := List.cons.inj hds
  obtain ⟨rfl, -⟩ := List.cons.inj hds'
  exact ⟨_, _, hread, hread', hsame, rfl, rfl⟩

end LintReview.Format.SarifLog
