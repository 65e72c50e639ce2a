import Mathlib.Data.List.Forall2
import Mathlib.Data.List.Induction
import Mathlib.Data.List.Nodup
import LintReview.Proofs.Sarif.Assembly

/-! The rules of an assembled log. A diagnostic introduces a rule if it carries both an identifier
and a symbol and none before it carries this identifier with one (`Introduces`). **The catalogue
holds just the rules that are introduced, in this order** (`isCatalogue_catalogue`), and a result
points to a rule just if the identifier of its diagnostic has been introduced up to there. What is
emitted for some diagnostics stays as it is when others follow (`assemble_registers`). -/

namespace LintReview.Sarif

/-! ## The specification -/

/-- The diagnostic at the position carries the rule, and no earlier one its identifier together with
a symbol. -/
structure Introduces (ds : List Diagnostic) (i : Nat) (r : Rule) : Prop where
  carries : ∃ d, ds[i]? = some d ∧ d.id = some r.id ∧ d.sym = some r.name
  first : ∀ j < i, ∀ e, ds[j]? = some e → e.id = some r.id → e.sym = none

/-- The rules are those that the diagnostics introduce, in the order of the positions where they do,
and no two have the same identifier. -/
structure IsCatalogue (ds : List Diagnostic) (rules : List Rule) : Prop where
  nodup : (rules.map Rule.id).Nodup
  introduced : ∃ positions : List Nat, positions.Pairwise (· < ·) ∧
    (∀ i, i ∈ positions ↔ ∃ r, Introduces ds i r) ∧ List.Forall₂ (Introduces ds) positions rules

/-- The result is the one of the diagnostic at the position. It has an index just if some diagnostic
up to there carries its identifier together with a symbol, and a region just if some coordinate is
known. -/
structure Result.IsAt (mode : UriMode) (ds : List Diagnostic) (i : Nat) (d : Diagnostic)
    (r : Result) : Prop where
  message : r.message = d.msg
  level : r.level = d.level
  ruleId : r.ruleId = d.id.or d.sym
  location : ∃ l, r.locations = [l] ∧ l.uri = d.path.map mode.uri ∧
    ∀ g, l.region = some g ↔
      (d.line.isSome ∨ d.col.isSome ∨ d.eline.isSome ∨ d.ecol.isSome) ∧
        g = ⟨d.line, d.col, d.eline, d.ecol⟩
  ruleIndex : r.ruleIndex.isSome ↔
    ∃ x, d.id = some x ∧ ∃ j ≤ i, ∃ e, ds[j]? = some e ∧ e.id = some x ∧ e.sym.isSome

variable {mode : UriMode} {toolName x : String} {d : Diagnostic} {ds more : List Diagnostic}
  {rules : List Rule} {r : Rule} {i : Nat}

/-! ## The catalogue -/

theorem catalogue_concat (ds : List Diagnostic) (d : Diagnostic) :
    catalogue (ds ++ [d]) = register (catalogue ds) d := by
  rw [catalogue, List.foldl_append]
  rfl

theorem exists_mem_take_iff {p : Diagnostic → Prop} :
    (∃ e ∈ ds.take i, p e) ↔ ∃ j < i, ∃ e, ds[j]? = some e ∧ p e := by
  simp only [List.mem_iff_getElem?, List.getElem?_take]
  constructor
  · rintro ⟨e, ⟨j, hj⟩, he⟩
    by_cases hlt : j < i
    · rw [if_pos hlt] at hj
      exact ⟨j, hlt, e, hj, he⟩
    · rw [if_neg hlt] at hj
      cases hj
  · rintro ⟨j, hlt, e, hj, he⟩
    exact ⟨e, ⟨j, by rw [if_pos hlt, hj]⟩, he⟩

/-- A diagnostic introduces a rule if it carries it and the catalogue so far does not know its
identifier. -/
theorem introduces_iff : Introduces ds i r ↔
    (∃ d, ds[i]? = some d ∧ d.id = some r.id ∧ d.sym = some r.name) ∧
      ∀ q ∈ catalogue (ds.take i), q.id ≠ r.id := by
  have hknown : (∀ q ∈ catalogue (ds.take i), q.id ≠ r.id) ↔
      ∀ j < i, ∀ e, ds[j]? = some e → e.id = some r.id → e.sym = none := by
    have hmem : (∃ q ∈ catalogue (ds.take i), q.id = r.id) ↔
        ∃ j < i, ∃ e, ds[j]? = some e ∧ e.id = some r.id ∧ e.sym.isSome = true :=
      mem_catalogue.trans exists_mem_take_iff
    rw [← not_iff_not]
    push Not
    simp only [hmem, Option.isSome_iff_ne_none]
  rw [hknown]
  exact ⟨fun h => ⟨h.carries, h.first⟩, fun h => ⟨h.1, h.2⟩⟩

theorem Introduces.lt_length (h : Introduces ds i r) : i < ds.length := by
  obtain ⟨d, hd, -⟩ := h.carries
  exact (List.getElem?_eq_some_iff.mp hd).1

/-- Diagnostics that follow do not change what is introduced before. -/
theorem introduces_append_iff (hi : i < ds.length) :
    Introduces (ds ++ more) i r ↔ Introduces ds i r := by
  rw [introduces_iff, introduces_iff, List.getElem?_append_left hi,
    List.take_append_of_le_length (Nat.le_of_lt hi)]

theorem introduces_concat_iff : Introduces (ds ++ [d]) i r ↔
    Introduces ds i r ∨
      i = ds.length ∧ d.id = some r.id ∧ d.sym = some r.name ∧ ∀ q ∈ catalogue ds, q.id ≠ r.id := by
  have hlast : Introduces (ds ++ [d]) ds.length r ↔
      d.id = some r.id ∧ d.sym = some r.name ∧ ∀ q ∈ catalogue ds, q.id ≠ r.id := by
    rw [introduces_iff, List.take_left]
    simp [and_assoc]
  constructor
  · intro h
    have hi := h.lt_length
    rw [List.length_append, List.length_singleton, Nat.lt_succ_iff_lt_or_eq] at hi
    rcases hi with hi | rfl
    · exact .inl ((introduces_append_iff hi).mp h)
    · exact .inr ⟨rfl, hlast.mp h⟩
  · rintro (h | ⟨rfl, h⟩)
    · exact (introduces_append_iff h.lt_length).mpr h
    · exact hlast.mpr h

/-- A diagnostic whose rule is known, or that carries none, introduces nothing. -/
theorem IsCatalogue.concat_of_known (h : IsCatalogue ds (catalogue ds))
    (hknown : ∀ id, d.id = some id → d.sym.isSome = true → ∃ q ∈ catalogue ds, q.id = id) :
    IsCatalogue (ds ++ [d]) (catalogue ds) := by
  have hsame : ∀ i r, Introduces (ds ++ [d]) i r ↔ Introduces ds i r := by
    intro i r
    rw [introduces_concat_iff, or_iff_left]
    rintro ⟨-, hid, hsym, hnew⟩
    obtain ⟨q, hq, hqid⟩ := hknown r.id hid (by rw [hsym]; rfl)
    exact hnew q hq hqid
  obtain ⟨hnodup, positions, hascending, hmem, hall⟩ := h
  refine ⟨hnodup, positions, hascending, fun i => ?_, hall.imp fun i r => (hsame i r).mpr⟩
  simp only [hsame, hmem]

/-- A diagnostic with a new rule introduces this one, behind all others. -/
theorem IsCatalogue.concat_of_new (h : IsCatalogue ds (catalogue ds)) (hid : d.id = some r.id)
    (hsym : d.sym = some r.name) (hnew : ∀ q ∈ catalogue ds, q.id ≠ r.id) :
    IsCatalogue (ds ++ [d]) (catalogue ds ++ [r]) := by
  have hlast : Introduces (ds ++ [d]) ds.length r :=
    introduces_concat_iff.mpr (.inr ⟨rfl, hid, hsym, hnew⟩)
  obtain ⟨hnodup, positions, hascending, hmem, hall⟩ := h
  refine ⟨?_, positions ++ [ds.length], ?_, fun i => ?_, ?_⟩
  · rw [List.map_append, List.nodup_append]
    refine ⟨hnodup, List.nodup_singleton _, fun y hy z hz => ?_⟩
    obtain ⟨q, hq, rfl⟩ := List.mem_map.mp hy
    cases List.mem_singleton.mp hz
    exact hnew q hq
  · rw [List.pairwise_append]
    refine ⟨hascending, List.pairwise_singleton _ _, fun i hi j hj => ?_⟩
    obtain ⟨q, hq⟩ := (hmem i).mp hi
    cases List.mem_singleton.mp hj
    exact hq.lt_length
  · rw [List.mem_append, List.mem_singleton, hmem]
    constructor
    · rintro (⟨q, hq⟩ | rfl)
      · exact ⟨q, introduces_concat_iff.mpr (.inl hq)⟩
      · exact ⟨r, hlast⟩
    · rintro ⟨q, hq⟩
      exact (introduces_concat_iff.mp hq).imp (fun h => ⟨q, h⟩) And.left
  · have hkept : List.Forall₂ (Introduces (ds ++ [d])) positions (catalogue ds) :=
      hall.imp fun i q hq => introduces_concat_iff.mpr (.inl hq)
    exact List.rel_append hkept (.cons hlast .nil)

/-- By induction on the diagnostics, of which the last one is registered last. -/
theorem isCatalogue_catalogue (ds : List Diagnostic) : IsCatalogue ds (catalogue ds) := by
  induction ds using List.reverseRecOn with
  | nil =>
    refine ⟨List.nodup_nil, [], List.Pairwise.nil, fun i => ?_, .nil⟩
    simp [introduces_iff]
  | append_singleton ds d ih =>
    rw [catalogue_concat]
    rcases register_cases (catalogue ds) d with
      ⟨hsame, hknown⟩ | ⟨id, sym, hid, hsym, hnew, hadded⟩
    · rw [hsame]
      exact ih.concat_of_known hknown
    · rw [hadded]
      exact ih.concat_of_new hid hsym hnew

theorem exists_of_mem_catalogue (hr : r ∈ catalogue ds) :
    ∃ d ∈ ds, d.id = some r.id ∧ d.sym = some r.name := by
  obtain ⟨-, positions, -, -, hall⟩ := isCatalogue_catalogue ds
  obtain ⟨k, hk, rfl⟩ := List.getElem_of_mem hr
  obtain ⟨d, hd, hcarries⟩ := (hall.get (hall.length_eq ▸ hk) hk).carries
  exact ⟨d, List.mem_of_getElem? hd, hcarries⟩

/-! ## The results -/

theorem regionOf?_eq_some_iff {g : Region} : regionOf? d = some g ↔
    (d.line.isSome ∨ d.col.isSome ∨ d.eline.isSome ∨ d.ecol.isSome) ∧
      g = ⟨d.line, d.col, d.eline, d.ecol⟩ := by
  have hknown : d.hasRegion = true ↔
      (d.line.isSome ∨ d.col.isSome ∨ d.eline.isSome ∨ d.ecol.isSome) := by
    simp only [Diagnostic.hasRegion, Bool.or_eq_true, or_assoc]
  rw [← hknown, regionOf?]
  split
  · next h => simp only [h, true_and, Option.some.injEq, eq_comm]
  · next h => simp only [h, false_and, reduceCtorEq]

/-- An identifier is looked up in the catalogue up to the position of its diagnostic. -/
theorem isSome_indexAt : (indexAt ds i d).isSome ↔
    ∃ x, d.id = some x ∧ ∃ j ≤ i, ∃ e, ds[j]? = some e ∧ e.id = some x ∧ e.sym.isSome := by
  unfold indexAt
  cases d.id with
  | none => simp
  | some x =>
    simp only [Option.bind_some, isSome_ruleIndex?, mem_catalogue, exists_mem_take_iff,
      Nat.lt_succ_iff, Option.some.injEq, exists_eq_left']

theorem isAt_resultOf : (resultOf mode (indexAt ds i d) d).IsAt mode ds i d where
  message := rfl
  level := rfl
  ruleId := rfl
  location := ⟨_, rfl, rfl, fun _ => regionOf?_eq_some_iff⟩
  ruleIndex := isSome_indexAt

/-- What the diagnostics up to a position decide does not depend on those that follow. -/
theorem indexAt_append (hi : i < ds.length) : indexAt (ds ++ more) i d = indexAt ds i d := by
  rw [indexAt, indexAt, List.take_append_of_le_length hi]

theorem prefix_results_append : (assemble ds toolName mode).results <+:
    (assemble (ds ++ more) toolName mode).results := by
  refine List.prefix_iff_getElem?.mpr fun i hi => ?_
  rw [length_results_assemble] at hi
  rw [← List.getElem?_eq_getElem, getElem?_results_assemble, getElem?_results_assemble,
    List.getElem?_append_left hi]
  simp only [indexAt_append hi]

theorem prefix_catalogue_append : catalogue ds <+: catalogue (ds ++ more) := by
  have hprefix : catalogue ((ds ++ more).take ds.length) <+: catalogue (ds ++ more) :=
    catalogue_take_prefix
  rwa [List.take_left] at hprefix

/-- An index points to the rule with the identifier of the diagnostic, in every longer catalogue. -/
theorem exists_rule_of_indexAt {k : UInt64} (h : indexAt ds i d = some k)
    (hsize : (catalogue ds).length ≤ UInt64.size) :
    ∃ rule, (catalogue ds)[k.toNat]? = some rule ∧ d.id = some rule.id := by
  obtain ⟨x, hid, hk⟩ := Option.bind_eq_some_iff.mp h
  obtain ⟨rule, hrule, rfl⟩ := exists_of_ruleIndex?_eq_some hk catalogue_take_prefix hsize
  exact ⟨rule, hrule, hid⟩

/-! ## The log -/

theorem runs_assemble (ds : List Diagnostic) (toolName : String) (mode : UriMode) :
    (assemble ds toolName mode).runs =
      [{ toolName, rules := catalogue ds, results := (assemble ds toolName mode).results }] := by
  simp only [assemble, Log.results, List.flatMap_cons, List.flatMap_nil, List.append_nil,
    collect_fst, catalogue]

/-- **The rules of an assembled log are exact.** Its one run has the catalogue of the diagnostics
and a result for each of them; an index points to the rule with the identifier of its diagnostic, as
long as 64 bits hold the indices; and further diagnostics only append to both. -/
theorem assemble_registers (ds more : List Diagnostic) (toolName : String) (mode : UriMode) :
    ∃ run : Run, (assemble ds toolName mode).runs = [run] ∧ run.toolName = toolName ∧
      IsCatalogue ds run.rules ∧ run.results.length = ds.length ∧
      (∀ i d, ds[i]? = some d → ∃ r : Result, run.results[i]? = some r ∧ r.IsAt mode ds i d ∧
        ∀ k, r.ruleIndex = some k → run.rules.length ≤ UInt64.size →
          ∃ rule : Rule, run.rules[k.toNat]? = some rule ∧ d.id = some rule.id ∧
            r.ruleId = some rule.id) ∧
      ∃ longer : Run, (assemble (ds ++ more) toolName mode).runs = [longer] ∧
        run.rules <+: longer.rules ∧ run.results <+: longer.results := by
  refine ⟨_, runs_assemble ds toolName mode, rfl, isCatalogue_catalogue ds,
    length_results_assemble, fun i d hd => ?_, _, runs_assemble (ds ++ more) toolName mode,
    prefix_catalogue_append, prefix_results_append⟩
  refine ⟨_, getElem?_results_of_eq_some hd, isAt_resultOf, fun k hk hsize => ?_⟩
  obtain ⟨rule, hrule, hid⟩ := exists_rule_of_indexAt hk hsize
  refine ⟨rule, hrule, hid, ?_⟩
  rw [isAt_resultOf.ruleId, hid]
  rfl

/-- An identifier that comes without a symbol, then with one, and then with another. -/
def renamed : List Diagnostic :=
  [{ id := some "E1" }, { id := some "E1", sym := some "indent", line := some 3 },
    { id := some "E1", sym := some "tabs" }]

theorem assemble_registers_renamed :
    renamed[2]? = some { id := some "E1", sym := some "tabs" } ∧
      ∃ run : Run, (assemble renamed "lint" .asReported).runs = [run] ∧
        run.rules.length ≤ UInt64.size ∧
        ∃ (r : Result) (k : UInt64), run.results[2]? = some r ∧ r.ruleIndex = some k ∧
          ∃ rule : Rule, run.rules[k.toNat]? = some rule ∧ r.ruleId = some rule.id := by
  obtain ⟨run, hrun, -, -, -, hall, -⟩ := assemble_registers renamed [] "lint" .asReported
  have hsize : run.rules.length ≤ UInt64.size := by
    cases hrun
    decide
  obtain ⟨r, hr, hat, hrule⟩ := hall 2 _ rfl
  obtain ⟨k, hk⟩ := Option.isSome_iff_exists.mp
    (hat.ruleIndex.mpr ⟨"E1", rfl, 1, by decide, _, rfl, rfl, rfl⟩)
  obtain ⟨rule, hfound, -, hid⟩ := hrule k hk hsize
  exact ⟨rfl, run, hrun, hsize, r, k, hr, hk, rule, hfound, hid⟩

end LintReview.Sarif
