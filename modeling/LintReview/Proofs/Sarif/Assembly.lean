import Mathlib.Data.List.Basic
import LintReview.Sarif.Assembly

/-! What an assembled log holds. Its catalogue comes from registering the diagnostics one after the
other (`catalogue`), and a result has the index that the catalogue gave its diagnostic at the time
(`getElem?_results_assemble`). A rule stays where it is and as it is, so that an index names the
same rule in every later catalogue (`getElem?_ruleIndex?`). -/

namespace LintReview.Sarif

def Log.rules (l : Log) : List Rule := l.runs.flatMap Run.rules

def Log.results (l : Log) : List Result := l.runs.flatMap Run.results

/-- The catalogue after these diagnostics. -/
def catalogue (ds : List Diagnostic) : List Rule := ds.foldl register []

/-- The index that the result of a diagnostic at a position gets. -/
def indexAt (ds : List Diagnostic) (i : Nat) (d : Diagnostic) : Option UInt64 :=
  d.id.bind (ruleIndex? (catalogue (ds.take (i + 1))))

variable {mode : UriMode} {toolName x : String} {d : Diagnostic} {ds : List Diagnostic}
  {rules final : List Rule} {i : Nat}

/-! ## Registering -/

/-- A diagnostic with an identifier that is not known and a symbol adds its rule at the end; any
other one leaves the catalogue as it is. -/
theorem register_cases (rules : List Rule) (d : Diagnostic) :
    (register rules d = rules ∧
        ∀ id, d.id = some id → d.sym.isSome = true → ∃ r ∈ rules, r.id = id) ∨
      ∃ id sym, d.id = some id ∧ d.sym = some sym ∧ (∀ r ∈ rules, r.id ≠ id) ∧
        register rules d = rules ++ [⟨id, sym⟩] := by
  unfold register
  split
  · next id sym hid hsym =>
    by_cases hany : rules.any (·.id = id) = true
    · refine .inl ⟨if_pos hany, fun id' hid' _ => ?_⟩
      cases hid.symm.trans hid'
      simpa using hany
    · exact .inr ⟨id, sym, hid, hsym, by simpa using hany, if_neg hany⟩
  · next hnone =>
    refine .inl ⟨rfl, fun id hid hsym => ?_⟩
    obtain ⟨sym, hsym⟩ := Option.isSome_iff_exists.mp hsym
    exact absurd hsym (hnone id sym hid)

theorem register_of_mem (h : ∀ id, d.id = some id → ∃ r ∈ rules, r.id = id) :
    register rules d = rules := by
  rcases register_cases rules d with ⟨hsame, -⟩ | ⟨id, sym, hid, -, hnew, -⟩
  · exact hsame
  · obtain ⟨r, hr, hrid⟩ := h id hid
    exact absurd hrid (hnew r hr)

theorem register_of_sym_eq_none (h : d.sym = none) : register rules d = rules := by
  rcases register_cases rules d with ⟨hsame, -⟩ | ⟨id, sym, -, hsym, -, -⟩
  · exact hsame
  · cases h.symm.trans hsym

theorem register_of_new {id sym : String} (hid : d.id = some id) (hsym : d.sym = some sym)
    (hnew : ∀ r ∈ rules, r.id ≠ id) : register rules d = rules ++ [⟨id, sym⟩] := by
  rcases register_cases rules d with ⟨-, hknown⟩ | ⟨id', sym', hid', hsym', -, hadded⟩
  · obtain ⟨r, hr, hrid⟩ := hknown id hid (hsym ▸ rfl)
    exact absurd hrid (hnew r hr)
  · cases hid.symm.trans hid'
    cases hsym.symm.trans hsym'
    exact hadded

theorem prefix_register : rules <+: register rules d := by
  rcases register_cases rules d with ⟨hsame, -⟩ | ⟨id, sym, -, -, -, hadded⟩
  · exact hsame.symm ▸ List.prefix_rfl
  · exact hadded.symm ▸ List.prefix_append _ _

/-- The identifiers after a diagnostic are those before it and its own, if it has a symbol. -/
theorem mem_register : (∃ r ∈ register rules d, r.id = x) ↔
    (∃ r ∈ rules, r.id = x) ∨ d.id = some x ∧ d.sym.isSome = true := by
  rcases register_cases rules d with ⟨hsame, hknown⟩ | ⟨id, sym, hid, hsym, -, hadded⟩
  · rw [hsame]
    exact ⟨.inl, fun h => h.elim id fun ⟨hid, hsym⟩ => hknown x hid hsym⟩
  · rw [hadded, hid, hsym]
    simp [or_and_right, exists_or]

theorem prefix_foldl_register : rules <+: ds.foldl register rules := by
  induction ds generalizing rules with
  | nil => exact List.prefix_rfl
  | cons d ds ih => exact prefix_register.trans ih

theorem mem_foldl_register : (∃ r ∈ ds.foldl register rules, r.id = x) ↔
    (∃ r ∈ rules, r.id = x) ∨ ∃ d ∈ ds, d.id = some x ∧ d.sym.isSome = true := by
  induction ds generalizing rules with
  | nil => simp
  | cons d ds ih =>
    rw [List.foldl_cons, ih, mem_register, or_assoc]
    simp only [List.mem_cons, or_and_right, exists_or, exists_eq_left]

/-- The catalogue holds the identifiers that came with a symbol. -/
theorem mem_catalogue : (∃ r ∈ catalogue ds, r.id = x) ↔
    ∃ d ∈ ds, d.id = some x ∧ d.sym.isSome = true := by
  rw [catalogue, mem_foldl_register]
  simp

theorem catalogue_take_prefix : catalogue (ds.take i) <+: catalogue ds := by
  have hsplit : catalogue ds = (ds.drop i).foldl register (catalogue (ds.take i)) := by
    rw [catalogue, catalogue, ← List.foldl_append, List.take_append_drop]
  rw [hsplit]
  exact prefix_foldl_register

theorem catalogue_take_succ (h : ds[i]? = some d) :
    catalogue (ds.take (i + 1)) = register (catalogue (ds.take i)) d := by
  rw [List.take_add_one, h, catalogue, List.foldl_append]
  rfl

/-! ## Positions -/

theorem isSome_ruleIndex? : (ruleIndex? rules x).isSome = true ↔ ∃ r ∈ rules, r.id = x := by
  simp [ruleIndex?]

/-- The index of a rule finds it in every longer catalogue, as long as 64 bits hold the indices. -/
theorem getElem?_ruleIndex? (hextends : rules <+: final) (hsize : final.length ≤ UInt64.size) :
    ((ruleIndex? rules x).bind fun k => final[k.toNat]?) = rules.find? fun r => r.id = x := by
  rw [List.find?_eq_bind_findIdx?_getElem?, ruleIndex?]
  cases hfound : rules.findIdx? fun r => r.id = x with
  | none => rfl
  | some k =>
    have hk : k < rules.length := (List.findIdx?_eq_some_iff_findIdx_eq.mp hfound).1
    have hlength : rules.length ≤ final.length := hextends.length_le
    have hexact : (UInt64.ofNat k).toNat = k := UInt64.toNat_ofNat_of_lt' (by omega)
    simp only [Option.map_some, Option.bind_some, hexact, List.getElem?_eq_getElem hk,
      List.prefix_iff_getElem?.mp hextends k hk]

theorem exists_of_ruleIndex?_eq_some {k : UInt64} (h : ruleIndex? rules x = some k)
    (hextends : rules <+: final) (hsize : final.length ≤ UInt64.size) :
    ∃ r, final[k.toNat]? = some r ∧ r.id = x := by
  have hfound := getElem?_ruleIndex? (x := x) hextends hsize
  obtain ⟨r, hr⟩ : ∃ r, rules.find? (fun r => r.id = x) = some r := by
    rw [← Option.isSome_iff_exists, List.find?_isSome]
    simpa using isSome_ruleIndex?.mp (h ▸ rfl)
  rw [h, hr] at hfound
  exact ⟨r, hfound, by simpa using List.find?_some hr⟩

/-! ## The log -/

theorem collect_fst : (collect mode rules ds).1 = ds.foldl register rules := by
  induction ds generalizing rules with
  | nil => rfl
  | cons d ds ih => exact ih

theorem length_collect_snd : (collect mode rules ds).2.length = ds.length := by
  induction ds generalizing rules with
  | nil => rfl
  | cons d ds ih => exact congrArg (· + 1) ih

/-- A result comes from the diagnostic at its position and the catalogue up to there. -/
theorem getElem?_collect_snd : (collect mode rules ds).2[i]? = ds[i]?.map fun d =>
    resultOf mode (d.id.bind (ruleIndex? ((ds.take (i + 1)).foldl register rules))) d := by
  induction ds generalizing rules i with
  | nil => rfl
  | cons d ds ih =>
    cases i with
    | zero => rfl
    | succ i => exact ih

theorem rules_assemble : (assemble ds toolName mode).rules = catalogue ds := by
  simp only [Log.rules, assemble, List.flatMap_cons, List.flatMap_nil, List.append_nil, collect_fst,
    catalogue]

theorem length_results_assemble : (assemble ds toolName mode).results.length = ds.length := by
  simp only [Log.results, assemble, List.flatMap_cons, List.flatMap_nil, List.append_nil,
    length_collect_snd]

theorem getElem?_results_assemble : (assemble ds toolName mode).results[i]? =
    ds[i]?.map fun d => resultOf mode (indexAt ds i d) d := by
  simp only [Log.results, assemble, List.flatMap_cons, List.flatMap_nil, List.append_nil,
    getElem?_collect_snd, indexAt, catalogue]

theorem getElem?_results_of_eq_some (hd : ds[i]? = some d) :
    (assemble ds toolName mode).results[i]? = some (resultOf mode (indexAt ds i d) d) := by
  rw [getElem?_results_assemble, hd]
  rfl

end LintReview.Sarif
