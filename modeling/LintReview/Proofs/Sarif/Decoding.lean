import Mathlib.Data.List.Forall2
import Mathlib.Data.List.Nodup
import LintReview.Proofs.Sarif.Ingestion
import LintReview.Proofs.Sequence
import LintReview.Sarif.Decoding

/-! Reading a log as a log. The fields of a written object are found by their names, and each
decoder undoes its encoder (`Log.ofJson?_toJson`). **The text of a log reads back as the log**, is
one document without `null` and ends with a line feed (`read?_text_document`). The reader of input,
which knows nothing of the fields of a log, finds in it just what the log says
(`readers_agree`). -/

namespace LintReview

namespace Json

variable {α : Type} {name : String} {names : List String} {ms : List (String × Tree)}
  {read? : Tree → Option α} {encode : α → Tree}

/-! ## Records -/

theorem Record.select?_map (hmem : ∀ m ∈ ms, m.1 ∈ names) (hnodup : (ms.map Prod.fst).Nodup) :
    select? names (ms.map fun (name, t) => (some name, t)) = some ms := by
  induction ms with
  | nil => rfl
  | cons m ms ih =>
    obtain ⟨hm, hms⟩ := List.forall_mem_cons.mp hmem
    obtain ⟨hnew, hnodup⟩ := List.nodup_cons.mp hnodup
    have habsent : ms.lookup m.1 = none := by
      rw [List.lookup_eq_none_iff]
      rintro n hn
      rw [bne_iff_ne]
      rintro heq
      exact hnew (heq ▸ List.mem_map_of_mem hn)
    simp only [List.map_cons, select?, ih hms hnodup, Option.bind_eq_bind, Option.bind_some,
      List.contains_iff_mem, hm, habsent, Option.isSome_none, Bool.false_eq_true, if_true, if_false]

/-- An object with some of the declared fields, in their order, is read with these. -/
theorem Record.read?_record (hsub : (ms.map Prod.fst).Sublist names) (hnames : names.Nodup) :
    Record.read? names (.record ms) = some ⟨false, ms⟩ := by
  have hmem : ∀ m ∈ ms, m.1 ∈ names := fun m hm => hsub.subset (List.mem_map_of_mem hm)
  rw [Tree.record, Record.read?, select?_map hmem (hsub.nodup hnames)]
  rfl

/-- An object with all the declared fields. -/
theorem Record.read?_record_of_eq (hall : ms.map Prod.fst = names) (hnames : names.Nodup) :
    Record.read? names (.record ms) = some ⟨false, ms⟩ :=
  read?_record (hall ▸ List.Sublist.refl _) hnames

theorem Tree.nullable?_eq (hnull : read? .null = none) {a : α} {t : Tree} (h : read? t = some a) :
    t.nullable? read? = some (some a) := by
  cases t with
  | null => cases hnull.symm.trans h
  | _ => rw [nullable?, h]; rfl; nofun

theorem Record.required_eq {t : Tree} {a : α} (hlookup : ms.lookup name = some t)
    (hread : read? t = some a) : Record.required ⟨false, ms⟩ name read? = some a := by
  rw [Record.required, hlookup]
  exact hread

theorem Record.defaulted_eq {t : Tree} {a value : α} (hlookup : ms.lookup name = some t)
    (hread : read? t = some a) : Record.defaulted ⟨false, ms⟩ name value read? = some a := by
  rw [Record.defaulted, hlookup]
  exact hread

/-- An optional field is read as it was written. -/
theorem Record.optional_eq {o : Option α} (hlookup : ms.lookup name = o.map encode)
    (hread : ∀ a, read? (encode a) = some a) (hnull : read? .null = none) :
    Record.optional ⟨false, ms⟩ name read? = some o := by
  rw [Record.optional, hlookup]
  cases o with
  | none => rfl
  | some a => exact Tree.nullable?_eq hnull (hread a)

theorem readItems?_map (hread : ∀ a, read? (encode a) = some a) (as : List α) :
    readItems? read? (.array (as.map encode)) = some as := by
  rw [readItems?, Tree.items?, Option.bind_some, List.mapM_eq_some_iff_forall₂,
    List.forall₂_map_left_iff]
  exact List.forall₂_same.mpr fun a _ => hread a

end Json

namespace Sarif

open Json (Tree Record readItems?_map)

variable {name : String}

section

variable {α : Type} {n : String} {encode : α → Tree} {o : Option α}

@[simp]
theorem lookup_optionalMember :
    (optionalMember n encode o).lookup name = if name = n then o.map encode else none := by
  cases o with
  | none => simp [optionalMember]
  | some a =>
    by_cases h : name = n
    · simp [optionalMember, h]
    · simp [optionalMember, List.lookup_cons, beq_false_of_ne h, h]

theorem sublist_optionalMember : ((optionalMember n encode o).map Prod.fst).Sublist [n] := by
  cases o with
  | none => exact List.nil_sublist _
  | some a => exact List.Sublist.refl _

end

/-! ## Each decoder undoes its encoder -/

theorem uint32?_ofUInt32 (n : UInt32) : (ofUInt32 n).uint32? = some n := Tree.uint32?_ofNat n

theorem Region.ofJson?_toJson (r : Region) : Region.ofJson? r.toJson = some r := by
  have hfield {name o ms} (hlookup : List.lookup name ms = Option.map ofUInt32 o) :
      Record.optional ⟨false, ms⟩ name Tree.uint32? = some o :=
    Record.optional_eq hlookup uint32?_ofUInt32 rfl
  rw [Region.ofJson?, toJson, Record.read?_record]
  · simp only [Option.bind_eq_bind, Option.bind_some]
    rw [hfield (o := r.startLine) (by simp [List.lookup_append]), Option.bind_some,
      hfield (o := r.startColumn) (by simp [List.lookup_append]), Option.bind_some,
      hfield (o := r.endLine) (by simp [List.lookup_append]), Option.bind_some,
      hfield (o := r.endColumn) (by simp [List.lookup_append])]
    rfl
  · simp only [List.map_append]
    exact ((sublist_optionalMember.append sublist_optionalMember).append
      sublist_optionalMember).append sublist_optionalMember
  · decide

theorem textField?_record (o : Option String) :
    textField? name (.record (optionalMember name Tree.ofString o)) = some o := by
  rw [textField?, Record.read?_record sublist_optionalMember (List.nodup_singleton name)]
  exact Record.optional_eq (by simp) Tree.string?_ofString rfl

theorem Location.ofJson?_toJson (l : Location) : Location.ofJson? l.toJson = some l := by
  rw [Location.ofJson?, toJson, Record.read?_record_of_eq (by rfl) (by decide)]
  simp only [Option.bind_eq_bind, Option.bind_some]
  refine Record.required_eq rfl ?_
  rw [physicalLocation?, Record.read?_record]
  · simp only [Option.bind_eq_bind, Option.bind_some]
    rw [Record.required_eq rfl (textField?_record l.uri), Option.bind_some,
      Record.optional_eq (o := l.region) (by simp [List.lookup_cons]) Region.ofJson?_toJson rfl]
    rfl
  · exact sublist_optionalMember.cons_cons _
  · decide

theorem Result.ofJson?_toJson (r : Result) : Result.ofJson? r.toJson = some r := by
  rw [Result.ofJson?, toJson, Record.read?_record]
  · simp only [Option.bind_eq_bind, Option.bind_some]
    rw [Record.required_eq rfl (textField?_record r.message), Option.bind_some,
      Record.required_eq rfl (readItems?_map Location.ofJson?_toJson r.locations),
      Option.bind_some,
      Record.optional_eq (o := r.level) (by simp [List.lookup_cons, List.lookup_append])
        Level.ofJson?_toJson rfl, Option.bind_some,
      Record.optional_eq (o := r.ruleId) (by simp [List.lookup_cons, List.lookup_append])
        Tree.string?_ofString rfl, Option.bind_some,
      Record.optional_eq (o := r.ruleIndex) (by simp [List.lookup_cons, List.lookup_append])
        Tree.uint64?_ofNat rfl]
    rfl
  · simp only [List.map_append, List.map_cons]
    exact (((sublist_optionalMember.append sublist_optionalMember).append
      sublist_optionalMember).cons_cons _).cons_cons _
  · decide

theorem Rule.ofJson?_toJson (r : Rule) : Rule.ofJson? r.toJson = some r := by
  rw [Rule.ofJson?, toJson, Record.read?_record_of_eq (by rfl) (by decide)]
  rfl

theorem Run.ofJson?_toJson (r : Run) : Run.ofJson? r.toJson = some r := by
  have htool : tool? (.record [("driver", .record
      [("name", .ofString r.toolName), ("rules", .array (r.rules.map Rule.toJson))])]) =
      some (r.toolName, r.rules) := by
    rw [tool?, Record.read?_record_of_eq (by rfl) (by decide)]
    simp only [Option.bind_eq_bind, Option.bind_some]
    refine Record.required_eq rfl ?_
    rw [driver?, Record.read?_record_of_eq (by rfl) (by decide)]
    simp only [Option.bind_eq_bind, Option.bind_some]
    rw [Record.required_eq rfl (Tree.string?_ofString r.toolName), Option.bind_some,
      Record.defaulted_eq rfl (readItems?_map Rule.ofJson?_toJson r.rules)]
    rfl
  rw [Run.ofJson?, toJson, Record.read?_record_of_eq (by rfl) (by decide)]
  simp only [Option.bind_eq_bind, Option.bind_some]
  rw [Record.required_eq rfl htool, Option.bind_some,
    Record.defaulted_eq rfl (readItems?_map Result.ofJson?_toJson r.results)]
  rfl

theorem Log.ofJson?_toJson (l : Log) : Log.ofJson? l.toJson = some l := by
  rw [Log.ofJson?, toJson, Record.read?_record_of_eq (by rfl) (by decide)]
  simp only [Option.bind_eq_bind, Option.bind_some]
  rw [Record.required_eq rfl (Tree.string?_ofString l.version), Option.bind_some,
    Record.required_eq rfl (Tree.string?_ofString l.schema), Option.bind_some,
    Record.required_eq rfl (readItems?_map Run.ofJson?_toJson l.runs)]
  rfl

/-! ## The text of a log -/

/-- A log reads back from any text that is written as its tree. -/
theorem Log.read?_of_scans {l : Log} {s : List Char} (h : Json.Scans s l.toJson.tokens) :
    Log.read? (String.ofList s) = some l := by
  rw [Log.read?, Json.read?_of_scans h, Option.bind_some, ofJson?_toJson]

theorem Log.scans_text (l : Log) : Json.Scans (l.toJson.pretty 0 ++ ['\n']) l.toJson.tokens :=
  have hplain : l.toJson.Plain 9 := l.plain_toJson
  hplain.scans_pretty_newline

/-- The document in the text of a log ends with a brace. -/
theorem Log.getLast?_pretty (l : Log) : (l.toJson.pretty 0).getLast? = some '\x7d' := by
  rw [toJson, Tree.record, List.map_cons, Tree.pretty]
  exact List.getLast?_concat

theorem Log.read?_text_eq (l : Log) : Log.read? l.text = some l := Log.read?_of_scans l.scans_text

/-- **The text of a log reads back as the log.** It is a document followed by one line feed, and
none of its tokens is a `null`; writing what has been read from any text changes nothing for a
reader. -/
theorem read?_text_document :
    (∀ l : Log, Log.read? l.text = some l ∧
      (∃ tokens, Json.Token.scan? l.text.toList = some tokens ∧ .null ∉ tokens) ∧
      ∃ document, l.text = document ++ "\n" ∧ Json.read? document = some l.toJson ∧
        document.toList.getLast? = some '\x7d') ∧
    ∀ s : String, (Log.read? s).bind (fun l => Log.read? l.text) = Log.read? s := by
  constructor
  · intro l
    have hplain : l.toJson.Plain 9 := l.plain_toJson
    refine ⟨l.read?_text_eq, ⟨l.toJson.tokens, ?_, hplain.null_notMem_tokens⟩,
      String.ofList (l.toJson.pretty 0), ?_, ?_, ?_⟩
    · rw [Log.text, String.toList_ofList]
      exact l.scans_text.scan?_eq
    · rw [Log.text, String.ofList_append]
    · exact Json.read?_of_scans (hplain.scans_pretty 0)
    · rw [String.toList_ofList, l.getLast?_pretty]
  · intro s
    cases Log.read? s with
    | none => rfl
    | some l => exact l.read?_text_eq

/-! ## The two readers -/

/-- The diagnostic says what the result says in a run with these rules. Its symbol is the name of
the rule at the index, and its place is that of the first location. -/
structure Result.Says (rules : List Rule) (r : Result) (d : Diagnostic) : Prop where
  id : d.id = r.ruleId
  sym : ∀ s, d.sym = some s ↔
    ∃ (k : UInt64) (rule : Rule), r.ruleIndex = some k ∧ rules[k.toNat]? = some rule ∧ rule.name = s
  msg : d.msg = r.message
  level : d.level = r.level
  path : d.path = r.locations.head?.bind Location.uri
  line : d.line = (r.locations.head?.bind Location.region).bind Region.startLine
  col : d.col = (r.locations.head?.bind Location.region).bind Region.startColumn
  eline : d.eline = (r.locations.head?.bind Location.region).bind Region.endLine
  ecol : d.ecol = (r.locations.head?.bind Location.region).bind Region.endColumn

theorem Result.says_diagnostic (rules : List Rule) (r : Result) :
    r.Says rules (r.diagnostic rules) := by
  have hregion {α : Type} (field : Region → Option α) (hnone : field {} = none) :
      field ((r.locations.head?.bind Location.region).getD {}) =
        (r.locations.head?.bind Location.region).bind field := by
    cases r.locations.head?.bind Location.region with
    | none => exact hnone
    | some region => rfl
  refine ⟨rfl, fun s => ?_, rfl, rfl, rfl, hregion Region.startLine rfl,
    hregion Region.startColumn rfl, hregion Region.endLine rfl, hregion Region.endColumn rfl⟩
  simp only [diagnostic, ruleName?, Option.bind_eq_some_iff, Option.map_eq_some_iff]
  exact exists_congr fun k => exists_and_left.symm

/-- The results of a log with the runs that they belong to. -/
def Log.placedResults (l : Log) : List (Run × Result) :=
  l.runs.flatMap fun run => run.results.map fun r => (run, r)

theorem Log.diagnostics_eq (l : Log) :
    l.diagnostics = l.placedResults.map fun (run, r) => r.diagnostic run.rules := by
  simp only [diagnostics, placedResults, List.map_flatMap, List.map_map]
  rfl

/-- The reader of input and the one of logs, on any text that is written as the tree of a log. -/
theorem Log.readers_of_scans {l : Log} {s : List Char} (h : Json.Scans s l.toJson.tokens) :
    InputReader.sarif.read (String.ofList s) = .ok l.diagnostics ∧
      (Log.read? (String.ofList s)).map Log.diagnostics = some l.diagnostics := by
  have hplain : l.toJson.Plain 9 := l.plain_toJson
  have hkept := Json.readWhole?_of_scans hplain (by decide) h
  constructor
  · rw [InputReader.read, Format.SarifLog.read?, hkept, Option.map_some, diagnostics_toJson]
  · rw [Log.read?_of_scans h, Option.map_some]

/-- **The two readers agree on a log that has been written**, indented or without blanks. The reader
of input finds one diagnostic for each result of each run, in order, which says what the result
says; these are the diagnostics of the log that is read as such. -/
theorem readers_agree (l : Log) :
    ∃ ds, List.Forall₂ (fun (p : Run × Result) d => p.2.Says p.1.rules d) l.placedResults ds ∧
      (InputReader.sarif.read l.text = .ok ds ∧
        (Log.read? l.text).map Log.diagnostics = some ds) ∧
      InputReader.sarif.read (String.ofList l.toJson.compact) = .ok ds ∧
        (Log.read? (String.ofList l.toJson.compact)).map Log.diagnostics = some ds := by
  have hplain : l.toJson.Plain 9 := l.plain_toJson
  refine ⟨l.diagnostics, ?_, Log.readers_of_scans l.scans_text,
    Log.readers_of_scans hplain.scans_compact⟩
  rw [l.diagnostics_eq, List.forall₂_map_right_iff, List.forall₂_same]
  exact fun p _ => p.2.says_diagnostic p.1.rules

end Sarif

end LintReview
