import Mathlib.Data.List.Basic
import LintReview.Format
import LintReview.Proofs.Json.RoundTrip
import LintReview.Sarif.Encoding

/-! Reading a log as input. A log stands for a list of diagnostics, one for each result
(`Log.diagnostics`). The reader of input finds its fields in a JSON document by their names and
knows nothing of the fields of a `Log`; **on the text of a log it finds just these diagnostics**
(`Log.read?_text`). -/

namespace LintReview

namespace Json.Tree

/-! ## Members of written objects -/

section

variable {name n : String} {t : Tree} {path : List String} {ms ns : List (String × Tree)}

@[simp]
theorem member?_record_nil : (record []).member? name = none := rfl

@[simp]
theorem member?_record_cons : (record ((n, t) :: ms)).member? name =
    ((record ms).member? name).or (if n = name then some t else none) := by
  have hlast : ([(some n, t)].find? fun m => m.1 = some name).map (·.2) =
      if n = name then some t else none := by
    by_cases h : n = name <;> simp [h]
  simp only [record, member?, List.map_cons, List.reverse_cons, List.find?_append, Option.map_or,
    hlast]

@[simp]
theorem member?_record_append : (record (ms ++ ns)).member? name =
    ((record ns).member? name).or ((record ms).member? name) := by
  simp only [record, member?, List.map_append, List.reverse_append, List.find?_append,
    Option.map_or]

@[simp]
theorem descend?_nil : t.descend? [] = some t := rfl

@[simp]
theorem descend?_null_cons : null.descend? (name :: path) = none := rfl

@[simp]
theorem descend?_record : (record ms).descend? (name :: path) =
    ((record ms).member? name).bind (·.descend? path) := rfl

@[simp]
theorem descend?_array_zero {items : List Tree} :
    (array items).descend? ("0" :: path) = items.head?.bind (·.descend? path) := by
  have hzero : Decimal.read? "0".toList = some 0 ∧ Decimal.digits 0 = "0".toList := ⟨rfl, rfl⟩
  rw [descend?, child?, hzero.1]
  simp only [hzero.2, if_true, List.head?_eq_getElem?]

end

/-! ## Leaves -/

theorem string?_ofString (s : String) : (ofString s).string? = some s := rfl

theorem uint32?_ofNat (n : UInt32) : (ofNat n.toNat).uint32? = some n := by
  have hn : n.toNat < UInt32.size := n.toNat_lt
  simp only [uint32?, ofNat, natural?, Decimal.read?_digits, Option.bind_some, if_pos hn,
    UInt32.ofNat_toNat]

theorem uint64?_ofNat (n : UInt64) : (ofNat n.toNat).uint64? = some n := by
  have hn : n.toNat < UInt64.size := n.toNat_lt
  simp only [uint64?, ofNat, natural?, Decimal.read?_digits, Option.bind_some, if_pos hn,
    UInt64.ofNat_toNat]

/-- An optional value that is read as it was written. -/
theorem bind_map_eq_self {α : Type} {read? : Tree → Option α} {encode : α → Tree}
    (h : ∀ a, read? (encode a) = some a) (o : Option α) : (o.map encode).bind read? = o := by
  cases o with
  | none => rfl
  | some a => exact h a

@[simp]
theorem bind_string?_map (o : Option String) : (o.map ofString).bind string? = o :=
  bind_map_eq_self string?_ofString o

end Json.Tree

namespace Sarif

open Json (Tree)

section

variable {α : Type} {name n : String} {encode : α → Tree} {o : Option α} {bound : Nat}

@[simp]
theorem member?_optionalMember : (Tree.record (optionalMember n encode o)).member? name =
    if n = name then o.map encode else none := by
  cases o <;> simp [optionalMember]

theorem plain_optionalMember (h : ∀ a, (encode a).Plain bound) :
    ∀ m ∈ optionalMember name encode o, m.2.Plain bound := by
  intro m hm
  cases o with
  | none => cases hm
  | some a =>
    cases List.mem_singleton.mp hm
    exact h a

/-! ## A log is a plain tree -/

theorem plain_ofUInt32 (n : UInt32) : (ofUInt32 n).Plain bound :=
  .ofNat (Nat.lt_trans n.toNat_lt (by decide))

theorem Region.plain_toJson (r : Region) : r.toJson.Plain (bound + 1) := by
  refine .record ?_
  simp only [List.forall_mem_append]
  exact ⟨⟨⟨plain_optionalMember plain_ofUInt32, plain_optionalMember plain_ofUInt32⟩,
    plain_optionalMember plain_ofUInt32⟩, plain_optionalMember plain_ofUInt32⟩

theorem Location.plain_toJson (l : Location) : l.toJson.Plain (bound + 3) := by
  refine .record ?_
  simp only [List.forall_mem_singleton]
  refine .record ?_
  refine List.forall_mem_cons.mpr ⟨?_, ?_⟩
  · exact .record (plain_optionalMember fun _ => .ofString)
  · exact plain_optionalMember Region.plain_toJson

theorem Result.plain_toJson (r : Result) : r.toJson.Plain (bound + 5) := by
  refine .record ?_
  simp only [List.forall_mem_cons, List.forall_mem_append]
  refine ⟨?_, ?_, ⟨?_, ?_⟩, ?_⟩
  · exact .record (plain_optionalMember fun _ => .ofString)
  · exact .array (List.forall_mem_map.mpr fun l _ => l.plain_toJson)
  · exact plain_optionalMember fun _ => .ofString
  · exact plain_optionalMember fun _ => .ofString
  · exact plain_optionalMember fun i => .ofNat i.toNat_lt

theorem Rule.plain_toJson (r : Rule) : r.toJson.Plain (bound + 1) := by
  refine .record ?_
  simp only [List.forall_mem_cons]
  exact ⟨.ofString, .ofString, List.forall_mem_nil _⟩

theorem Run.plain_toJson (r : Run) : r.toJson.Plain (bound + 7) := by
  refine .record ?_
  simp only [List.forall_mem_cons]
  refine ⟨.record ?_, ?_, List.forall_mem_nil _⟩
  · simp only [List.forall_mem_singleton]
    refine .record ?_
    simp only [List.forall_mem_cons]
    exact ⟨.ofString, .array (List.forall_mem_map.mpr fun r _ => r.plain_toJson),
      List.forall_mem_nil _⟩
  · exact .array (List.forall_mem_map.mpr fun r _ => r.plain_toJson)

theorem Log.plain_toJson (l : Log) : l.toJson.Plain (bound + 9) := by
  refine .record ?_
  simp only [List.forall_mem_cons]
  exact ⟨.ofString, .ofString, .array (List.forall_mem_map.mpr fun r _ => r.plain_toJson),
    List.forall_mem_nil _⟩

end

/-! ## The diagnostics of a log -/

/-- The name of the rule that a result refers to. -/
def Result.ruleName? (rules : List Rule) (r : Result) : Option String :=
  r.ruleIndex.bind fun i => (rules[i.toNat]?).map Rule.name

/-- What a result of a run with these rules says. Its place is that of its first location. -/
def Result.diagnostic (rules : List Rule) (r : Result) : Diagnostic :=
  let region := (r.locations.head?.bind Location.region).getD {}
  { id := r.ruleId
    sym := r.ruleName? rules
    msg := r.message
    level := r.level
    path := r.locations.head?.bind Location.uri
    line := region.startLine
    col := region.startColumn
    eline := region.endLine
    ecol := region.endColumn }

def Run.diagnostics (r : Run) : List Diagnostic := r.results.map (Result.diagnostic r.rules)

def Log.diagnostics (l : Log) : List Diagnostic := l.runs.flatMap Run.diagnostics

@[simp]
theorem bind_uint32?_map (o : Option UInt32) : (o.map ofUInt32).bind Tree.uint32? = o :=
  Tree.bind_map_eq_self Tree.uint32?_ofNat o

@[simp]
theorem bind_level_map (o : Option Level) :
    ((o.map Level.toJson).bind Tree.string?).bind Level.ofWord? = o := by
  cases o with
  | none => rfl
  | some l => exact Level.ofWord?_word l

section

open Format.SarifLog

theorem ruleName?_toJson (rules : List Rule) (r : Result) :
    ruleName? (.array (rules.map Rule.toJson)) r.toJson = r.ruleName? rules := by
  have hindex : (r.toJson.member? "ruleIndex").bind Tree.uint64? = r.ruleIndex := by
    simp [Result.toJson, Tree.bind_map_eq_self Tree.uint64?_ofNat]
  have hname (i : Nat) : ((Tree.array (rules.map Rule.toJson)).item? i).bind
      (stringAt? · ["name"]) = (rules[i]?).map Rule.name := by
    simp only [Tree.item?, List.getElem?_map]
    cases rules[i]? with
    | none => rfl
    | some rule => rfl
  unfold ruleName? Result.ruleName?
  simp only [Option.bind_eq_bind, hname, ← Option.bind_assoc, hindex]

theorem diagnostic_toJson (rules : List Rule) (r : Result) :
    diagnostic (.array (rules.map Rule.toJson)) r.toJson = r.diagnostic rules := by
  obtain ⟨message, locations, level, ruleId, ruleIndex⟩ := r
  rw [diagnostic, ruleName?_toJson]
  -- The reader looks at the first location only, and a region may be absent.
  cases locations with
  | nil => simp [Result.diagnostic, Result.toJson, stringAt?, uint32At?]
  | cons l ls =>
    obtain ⟨uri, region⟩ := l
    cases region with
    | none => simp [Result.diagnostic, Result.toJson, Location.toJson, stringAt?, uint32At?]
    | some r =>
      simp [Result.diagnostic, Result.toJson, Location.toJson, Region.toJson, stringAt?, uint32At?]

theorem runDiagnostics_toJson (r : Run) : runDiagnostics r.toJson = r.diagnostics := by
  have hrules : rules r.toJson = .array (r.rules.map Rule.toJson) := by
    simp [rules, Run.toJson]
  have hresults : results r.toJson = r.results.map Result.toJson := by
    simp [results, Run.toJson, Tree.items?]
  rw [runDiagnostics, hrules, hresults, List.map_map]
  exact List.map_congr_left fun result _ => diagnostic_toJson r.rules result

theorem diagnostics_toJson (l : Log) : diagnostics l.toJson = l.diagnostics := by
  have hruns : runs l.toJson = l.runs.map Run.toJson := by
    simp [runs, Log.toJson, Tree.items?]
  rw [diagnostics, hruns, List.flatMap_map]
  exact List.flatMap_congr fun run _ => runDiagnostics_toJson run

end

/-- The reader of input finds in the text of a log the diagnostics that the log stands for. -/
theorem Log.read?_text (l : Log) : Format.SarifLog.read? l.text = some l.diagnostics := by
  have hplain : l.toJson.Plain 9 := l.plain_toJson
  rw [Format.SarifLog.read?, text, Json.readWhole?_pretty hplain (by decide), Option.map_some,
    diagnostics_toJson]

end Sarif

end LintReview
