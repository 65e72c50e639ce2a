import Mathlib.Data.List.Forall2
import LintReview.Proofs.Sarif.Assembly
import LintReview.Proofs.Sarif.Ingestion
import LintReview.Proofs.SourcePath.Tidy

/-! Reading an emitted log as input and assembling it again. **A result says the same each time**,
except that every round tidies its address once more (`reingestTimes_restates`). **The catalogue
stays as it is, and so do the indices**, except that a diagnostic which had only a symbol comes back
with that symbol as its identifier, and so with an index if a rule before it has this identifier
(`reingest_catalogue`).

The latter needs that 64 bits hold the indices, as they do for any catalogue that fits a memory:
else the names that the reader finds through them would be those of other rules. -/

namespace LintReview.Sarif

/-- A log read as input and assembled again. -/
def reingest (toolName : String) (l : Log) : Except ReadError Log := do
  return assemble (← InputReader.sarif.read l.text) toolName .asReported

/-- A log after so many rounds of reading and assembling. -/
def reingestTimes (toolName : String) : Nat → Log → Except ReadError Log
  | 0, l => .ok l
  | k + 1, l => do reingest toolName (← reingestTimes toolName k l)

variable {mode : UriMode} {toolName x : String} {d : Diagnostic} {ds : List Diagnostic}
  {rules final : List Rule} {i : Nat}

theorem reingest_eq (toolName : String) (l : Log) :
    reingest toolName l = .ok (assemble l.diagnostics toolName .asReported) := by
  rw [reingest, InputReader.read, l.read?_text]
  rfl

theorem diagnostics_assemble : (assemble ds toolName mode).diagnostics =
    (assemble ds toolName mode).results.map (Result.diagnostic (catalogue ds)) := by
  simp only [Log.diagnostics, Log.results, assemble, List.flatMap_cons, List.flatMap_nil,
    List.append_nil, Run.diagnostics, collect_fst, catalogue]

/-- A diagnostic that is read comes from the result at its position. -/
theorem getElem?_diagnostics_assemble : (assemble ds toolName mode).diagnostics[i]? =
    ds[i]?.map fun d => (resultOf mode (indexAt ds i d) d).diagnostic (catalogue ds) := by
  rw [diagnostics_assemble, List.getElem?_map, getElem?_results_assemble, Option.map_map]
  rfl

/-! ## The results -/

/-- The address tidied so many times more. -/
def Location.tidied (k : Nat) (l : Location) : Location :=
  { l with uri := l.uri.map SourcePath.tidy^[k] }

/-- What a result says after so many rounds, apart from its index. -/
def Result.restated (k : Nat) (r : Result) : Result :=
  { r with locations := r.locations.map (Location.tidied k), ruleIndex := none }

theorem Location.tidied_zero (l : Location) : l.tidied 0 = l := by
  obtain ⟨uri, region⟩ := l
  cases uri <;> rfl

theorem Location.tidied_tidied (j k : Nat) (l : Location) :
    (l.tidied k).tidied j = l.tidied (j + k) := by
  simp only [tidied, Option.map_map, Function.iterate_add]

theorem Location.tidied_succ_eq_self_iff {k : Nat} {l : Location} :
    l.tidied (k + 1) = l ↔ ∀ uri ∈ l.uri, SourcePath.IsTidy uri := by
  obtain ⟨uri, region⟩ := l
  cases uri with
  | none => simp [tidied]
  | some uri =>
    simp only [tidied, Option.map_some, mk.injEq, Option.some.injEq, and_true,
      SourcePath.iterate_tidy_eq_self_iff, Option.mem_some_iff, forall_eq']

theorem map_tidied_eq_self_iff {k : Nat} {ls : List Location} :
    ls.map (Location.tidied k) = ls ↔
      k = 0 ∨ ∀ l ∈ ls, ∀ uri ∈ l.uri, SourcePath.IsTidy uri := by
  have hmap : ls.map (Location.tidied k) = ls ↔ ∀ l ∈ ls, l.tidied k = l := by
    conv => lhs; rhs; rw [← List.map_id ls]
    exact List.map_inj_left
  rw [hmap]
  cases k with
  | zero => simp [Location.tidied_zero]
  | succ k => simp [Location.tidied_succ_eq_self_iff]

theorem Result.restated_restated (j k : Nat) (r : Result) :
    (r.restated k).restated j = r.restated (j + k) := by
  simp only [restated, List.map_map, Function.comp_def, Location.tidied_tidied]

/-- A result says what its diagnostic said, apart from the rule. -/
theorem diagnostic_resultOf (index : Option UInt64) :
    (resultOf mode index d).diagnostic rules =
      { d with
        id := d.id.or d.sym
        sym := (resultOf mode index d).ruleName? rules
        path := d.path.map mode.uri } := by
  have hregion : (regionOf? d).getD {} = ⟨d.line, d.col, d.eline, d.ecol⟩ := by
    unfold regionOf?
    split
    · rfl
    · next hnone =>
      simp only [Diagnostic.hasRegion, Bool.or_eq_true, Option.isSome_iff_ne_none, not_or,
        Classical.not_not] at hnone
      obtain ⟨⟨⟨hline, hcol⟩, heline⟩, hecol⟩ := hnone
      rw [hline, hcol, heline, hecol]
      rfl
  simp only [Result.diagnostic, resultOf, List.head?_cons, Option.bind_some, hregion]

theorem regionOf?_diagnostic (index : Option UInt64) :
    regionOf? ((resultOf mode index d).diagnostic rules) = regionOf? d := by
  rw [diagnostic_resultOf]
  rfl

/-- A diagnostic that is read becomes the result it comes from. -/
theorem restated_resultOf_diagnostic (f : String → Option UInt64) (index : Option UInt64) :
    (resultOf .asReported index ((resultOf mode (d.id.bind f) d).diagnostic rules)).restated 0 =
      (resultOf mode (d.id.bind f) d).restated 1 := by
  have hruleId : (d.id.or d.sym).or ((resultOf mode (d.id.bind f) d).ruleName? rules) =
      d.id.or d.sym := by
    cases hid : d.id with
    | none => exact Option.or_none
    | some x => rfl
  have hplace : Location.tidied 0 ⟨(d.path.map mode.uri).map SourcePath.tidy,
        regionOf? ((resultOf mode (d.id.bind f) d).diagnostic rules)⟩ =
      Location.tidied 1 ⟨d.path.map mode.uri, regionOf? d⟩ := by
    rw [regionOf?_diagnostic]
    exact Location.tidied_zero _
  rw [Result.restated, Result.restated, Result.mk.injEq]
  exact ⟨rfl, congrArg ([·]) hplace, rfl, hruleId, rfl⟩

theorem map_restated_results : (assemble (assemble ds toolName mode).diagnostics toolName
      .asReported).results.map (Result.restated 0) =
    (assemble ds toolName mode).results.map (Result.restated 1) := by
  refine List.ext_getElem? fun i => ?_
  rw [List.getElem?_map, List.getElem?_map, getElem?_results_assemble,
    getElem?_diagnostics_assemble, getElem?_results_assemble]
  simp only [Option.map_map, Function.comp_def, indexAt, restated_resultOf_diagnostic]

/-- After any number of rounds the log is again one that has been assembled. -/
theorem exists_reingestTimes_eq (ds : List Diagnostic) (toolName : String) (mode : UriMode)
    (k : Nat) :
    ∃ ds' mode', reingestTimes toolName k (assemble ds toolName mode) =
        .ok (assemble ds' toolName mode') ∧
      (assemble ds' toolName mode').results.map (Result.restated 0) =
        (assemble ds toolName mode).results.map (Result.restated k) := by
  induction k with
  | zero => exact ⟨ds, mode, rfl, rfl⟩
  | succ k ih =>
    obtain ⟨ds', mode', hround, hresults⟩ := ih
    refine ⟨(assemble ds' toolName mode').diagnostics, .asReported, ?_, ?_⟩
    · rw [reingestTimes, hround]
      exact reingest_eq toolName _
    · -- A further round counts on top, so that the indices of the rounds before do not matter.
      have hmore : ∀ n, Result.restated (1 + n) = Result.restated 1 ∘ Result.restated n :=
        fun n => funext fun r => (r.restated_restated 1 n).symm
      rw [map_restated_results, Nat.add_comm k 1, hmore k, ← List.map_map, ← hresults,
        List.map_map, ← hmore 0]

/-- **Every round of re-ingesting restates every result**: apart from its index, only its address
changes, and just if there is something to tidy. -/
theorem reingestTimes_restates (ds : List Diagnostic) (toolName : String) (mode : UriMode)
    (k : Nat) :
    ∃ l, reingestTimes toolName k (assemble ds toolName mode) = .ok l ∧
      List.Forall₂ (fun r r' =>
          r' = { r with
            locations := r.locations.map (Location.tidied k)
            ruleIndex := r'.ruleIndex } ∧
          (r'.locations = r.locations ↔
            k = 0 ∨ ∀ l ∈ r.locations, ∀ uri ∈ l.uri, SourcePath.IsTidy uri))
        (assemble ds toolName mode).results l.results := by
  obtain ⟨ds', mode', hrounds, hresults⟩ := exists_reingestTimes_eq ds toolName mode k
  refine ⟨_, hrounds, ?_⟩
  rw [← List.forall₂_eq_eq_eq, List.forall₂_map_left_iff, List.forall₂_map_right_iff] at hresults
  refine (hresults.imp fun r' r hsame => ?_).flip
  obtain ⟨hmessage, hlocations, hlevel, hruleId, -⟩ := Result.mk.inj hsame
  rw [map_tidied_eq_self_iff.mpr (.inl rfl)] at hlocations
  obtain ⟨message, locations, level, ruleId, ruleIndex⟩ := r'
  cases hmessage
  cases hlocations
  cases hlevel
  cases hruleId
  exact ⟨rfl, map_tidied_eq_self_iff⟩

/-- A path that starts with `./` twice still starts with it once when it is emitted, and loses this
too in the next round. -/
theorem reingest_dotted :
    (assemble [{ path := some "././a.py" }] "lint" .asReported).results.map
        (fun r => r.locations.map Location.uri) = [[some "./a.py"]] ∧
      ∃ l, reingest "lint" (assemble [{ path := some "././a.py" }] "lint" .asReported) = .ok l ∧
        l.results.map (fun r => r.locations.map Location.uri) = [[some "a.py"]] :=
  ⟨rfl, _, reingest_eq _ _, rfl⟩

/-! ## The catalogue -/

/-- The symbol that is read is the name which the identifier had at the time. -/
theorem sym_diagnostic (hid : d.id = some x) (hextends : rules <+: final)
    (hsize : final.length ≤ UInt64.size) :
    ((resultOf mode (d.id.bind (ruleIndex? rules)) d).diagnostic final).sym =
      (rules.find? fun r => r.id = x).map Rule.name := by
  rw [hid, ← getElem?_ruleIndex? hextends hsize, Option.map_bind]
  rfl

theorem sym_diagnostic_of_id_eq_none {f : String → Option UInt64} (hid : d.id = none) :
    ((resultOf mode (d.id.bind f) d).diagnostic final).sym = none := by
  rw [hid]
  rfl

/-- A diagnostic registers like another one if its symbol is the name that the identifier has after
this. -/
theorem register_eq_of_sym_eq {d' : Diagnostic} (hid : d.id = some x) (hid' : d'.id = some x)
    (hsym : d'.sym = ((register rules d).find? fun r => r.id = x).map Rule.name) :
    register rules d' = register rules d := by
  by_cases hknown : ∃ r ∈ rules, r.id = x
  · -- Whatever the symbols are, neither diagnostic adds a rule.
    have hsame {d : Diagnostic} (h : d.id = some x) : register rules d = rules :=
      register_of_mem fun id h' => by
        cases h.symm.trans h'
        exact hknown
    rw [hsame hid, hsame hid']
  · have hnew : ∀ r ∈ rules, r.id ≠ x := fun r hr h => hknown ⟨r, hr, h⟩
    have hnone : rules.find? (fun r => r.id = x) = none := by simpa using hnew
    cases hs : d.sym with
    | none =>
      have hsame : register rules d = rules := register_of_sym_eq_none hs
      rw [hsame, hnone] at hsym
      rw [hsame]
      exact register_of_sym_eq_none hsym
    | some s =>
      have hadded : register rules d = rules ++ [⟨x, s⟩] := register_of_new hid hs hnew
      have hsym' : d'.sym = some s := by
        rw [hsym, hadded, List.find?_append, hnone]
        simp
      rw [hadded]
      exact register_of_new hid' hsym' hnew

/-- A diagnostic that is read registers just as the one it comes from. -/
theorem register_diagnostic (hextends : register rules d <+: final)
    (hsize : final.length ≤ UInt64.size) :
    register rules
        ((resultOf mode (d.id.bind (ruleIndex? (register rules d))) d).diagnostic final) =
      register rules d := by
  cases hid : d.id with
  | none =>
    have hsame : register rules d = rules := register_of_mem fun id h => nomatch hid.symm.trans h
    rw [hsame, ← hid]
    exact register_of_sym_eq_none (sym_diagnostic_of_id_eq_none hid)
  | some x =>
    rw [← hid]
    exact register_eq_of_sym_eq hid (congrArg (Option.or · d.sym) hid)
      (sym_diagnostic hid hextends hsize)

/-- The two catalogues agree not only in the end but after every diagnostic, as indices are given
out on the way. -/
theorem catalogue_take_diagnostics (toolName : String) (mode : UriMode)
    (hsize : (catalogue ds).length ≤ UInt64.size) (n : Nat) :
    catalogue ((assemble ds toolName mode).diagnostics.take n) = catalogue (ds.take n) := by
  induction n with
  | zero => rfl
  | succ n ih =>
    have hread : (assemble ds toolName mode).diagnostics[n]? = _ := getElem?_diagnostics_assemble
    cases hd : ds[n]? with
    | none =>
      rw [List.take_add_one, List.take_add_one, hread, hd]
      simpa using ih
    | some d =>
      rw [hd] at hread
      rw [catalogue_take_succ hread, catalogue_take_succ hd, ih]
      unfold indexAt
      rw [catalogue_take_succ hd]
      exact register_diagnostic (catalogue_take_succ hd ▸ catalogue_take_prefix) hsize

theorem catalogue_diagnostics (hsize : (catalogue ds).length ≤ UInt64.size) :
    catalogue (assemble ds toolName mode).diagnostics = catalogue ds := by
  have hlength : (assemble ds toolName mode).diagnostics.length = ds.length := by
    rw [diagnostics_assemble, List.length_map, length_results_assemble]
  have hall := catalogue_take_diagnostics toolName mode hsize ds.length
  rwa [List.take_of_length_le (Nat.le_of_eq hlength), List.take_length] at hall

/-! ## The indices -/

/-- The diagnostic has only a symbol, and one before its position registered this as the identifier
of a rule. -/
def Clashes (ds : List Diagnostic) (i : Nat) (d : Diagnostic) : Prop :=
  d.id = none ∧ ∃ s, d.sym = some s ∧ ∃ e ∈ ds.take i, e.id = some s ∧ e.sym.isSome = true

/-- An index is looked up for the identifier, and in the next round for a symbol without one. -/
theorem exists_results (hsize : (catalogue ds).length ≤ UInt64.size) (toolName' : String)
    (hd : ds[i]? = some d) :
    ∃ r r', (assemble ds toolName mode).results[i]? = some r ∧
      (assemble (assemble ds toolName mode).diagnostics toolName' .asReported).results[i]? =
        some r' ∧
      r.ruleIndex = d.id.bind (ruleIndex? (catalogue (ds.take (i + 1)))) ∧
      r'.ruleIndex = (d.id.or d.sym).bind (ruleIndex? (catalogue (ds.take (i + 1)))) := by
  have hread : (assemble ds toolName mode).diagnostics[i]? =
      some ((resultOf mode (indexAt ds i d) d).diagnostic (catalogue ds)) := by
    rw [getElem?_diagnostics_assemble, hd]
    rfl
  refine ⟨_, _, getElem?_results_of_eq_some hd, getElem?_results_of_eq_some hread, rfl, ?_⟩
  rw [← catalogue_take_diagnostics toolName mode hsize]
  rfl

/-- A diagnostic without identifier does not register, so the catalogue after it will do as well. -/
theorem clashes_iff (hd : ds[i]? = some d) : Clashes ds i d ↔
    d.id = none ∧ ∃ s k, d.sym = some s ∧ ruleIndex? (catalogue (ds.take (i + 1))) s = some k := by
  refine and_congr_right fun hid => exists_congr fun s => ?_
  have hsame : catalogue (ds.take (i + 1)) = catalogue (ds.take i) := by
    rw [catalogue_take_succ hd]
    exact register_of_mem fun id h => nomatch hid.symm.trans h
  rw [hsame, ← mem_catalogue, ← isSome_ruleIndex?, Option.isSome_iff_exists]
  exact exists_and_left.symm

/-- **Re-ingesting keeps the catalogue.** The index of a result changes just if its diagnostic
clashes with an earlier one, and then it appears. -/
theorem reingest_catalogue (ds : List Diagnostic) (toolName toolName' : String) (mode : UriMode)
    (hsize : (assemble ds toolName mode).rules.length ≤ UInt64.size) :
    ∃ l, reingest toolName' (assemble ds toolName mode) = .ok l ∧
      l.rules = (assemble ds toolName mode).rules ∧
      l.results.length = ds.length ∧
      ∀ i d, ds[i]? = some d → ∃ r r', (assemble ds toolName mode).results[i]? = some r ∧
        l.results[i]? = some r' ∧ (r'.ruleIndex ≠ r.ruleIndex ↔ Clashes ds i d) ∧
        (Clashes ds i d → r.ruleIndex = none ∧ ∃ k rule, r'.ruleIndex = some k ∧
          l.rules[k.toNat]? = some rule ∧ d.sym = some rule.id) := by
  rw [rules_assemble] at hsize ⊢
  have hrules : (assemble (assemble ds toolName mode).diagnostics toolName' .asReported).rules =
      catalogue ds := by
    rw [rules_assemble, catalogue_diagnostics hsize]
  refine ⟨_, reingest_eq _ _, hrules, ?_, fun i d hd => ?_⟩
  · rw [length_results_assemble, diagnostics_assemble, List.length_map, length_results_assemble]
  obtain ⟨r, r', hr, hr', hindex, hindex'⟩ := exists_results hsize toolName' hd
  refine ⟨r, r', hr, hr', ?_, ?_⟩
  · rw [clashes_iff hd, hindex, hindex']
    cases hid : d.id with
    | none => simp [Option.ne_none_iff_exists']
    | some x => simp
  · intro hclash
    obtain ⟨hid, s, k, hsym, hk⟩ := (clashes_iff hd).mp hclash
    obtain ⟨rule, hrule, rfl⟩ := exists_of_ruleIndex?_eq_some hk catalogue_take_prefix hsize
    refine ⟨?_, k, rule, ?_, hrules ▸ hrule, hsym⟩
    · rw [hindex, hid]
      rfl
    · rw [hindex', hid, hsym]
      exact hk

/-- A symbol that is the identifier of an earlier rule. -/
def clashing : List Diagnostic :=
  [{ id := some "E1", sym := some "indent" }, { sym := some "E1" }, { id := some "E1" }]

theorem reingest_catalogue_clashing :
    (assemble clashing "lint" .asReported).rules.length ≤ UInt64.size ∧
      Clashes clashing 1 { sym := some "E1" } ∧
      ∃ l r', reingest "lint" (assemble clashing "lint" .asReported) = .ok l ∧
        l.rules = [⟨"E1", "indent"⟩] ∧ l.results[1]? = some r' ∧ r'.ruleIndex ≠ none := by
  have hsize : (assemble clashing "lint" .asReported).rules.length ≤ UInt64.size := by decide
  have hclash : Clashes clashing 1 { sym := some "E1" } :=
    ⟨rfl, "E1", rfl, { id := some "E1", sym := some "indent" }, List.mem_singleton_self _, rfl, rfl⟩
  obtain ⟨l, hl, hrules, -, hall⟩ := reingest_catalogue clashing "lint" "lint" .asReported hsize
  obtain ⟨r, r', -, hr', hindex, hclashing⟩ := hall 1 _ rfl
  refine ⟨hsize, hclash, l, r', hl, hrules, hr', ?_⟩
  rw [← (hclashing hclash).1]
  exact hindex.mpr hclash

end LintReview.Sarif
