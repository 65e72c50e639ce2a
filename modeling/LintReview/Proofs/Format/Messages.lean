import LintReview.Format
import LintReview.Proofs.Json.Documents
import LintReview.Proofs.Json.Records
import LintReview.Proofs.MachineWords
import LintReview.Proofs.Sequence

/-! Messages of pylint as diagnostics. A diagnostic describes a message if it says of each field what
the message tells, with columns one higher and the type as a level (`Describes`). **A text is read
just if it is one document, an array of messages; there is then one diagnostic for each, in order
and whatever the order of the fields, and any other text is refused as a whole**
(`read_messages_iff`). -/

namespace LintReview.Format.Pylint

open Json (Tree IsRecord Alike Tells Writes)

/-! ## What a message says -/

/-- The fields of a message, in the order in which an array gives them. -/
def declared : List String :=
  ["type", "path", "line", "column", "endLine", "endColumn", "symbol", "message", "message-id"]

def IsText (t : Tree) (s : String) : Prop := t = .text (some s)

/-- The tree is an unsigned number of 32 bits. -/
def IsWord (t : Tree) (n : UInt32) : Prop := t.IsUnsigned n.toNat

/-- The types of messages that stand for a level. -/
def kinds : List (String × Level) :=
  [("convention", .note), ("usage", .note), ("refactor", .note), ("warning", .warning),
    ("error", .error)]

/-- The level is the one that the type stands for. -/
def LevelOf (kind : Option String) (level : Option Level) : Prop :=
  ∀ l, level = some l ↔ ∃ k, kind = some k ∧ (k, l) ∈ kinds

/-- The column is one higher than the other one; it is unknown if that is, or if 32 bits do not hold
it. -/
def OneHigher (column col : Option UInt32) : Prop :=
  ∀ n, col = some n ↔ ∃ c, column = some c ∧ n.toNat = c.toNat + 1

/-- The diagnostic says what these fields tell. -/
structure Says (value : String → Option Tree) (d : Diagnostic) : Prop where
  level : ∃ kind, Tells IsText (value "type") kind ∧ LevelOf kind d.level
  path : Tells IsText (value "path") d.path
  line : Tells IsWord (value "line") d.line
  col : ∃ column, Tells IsWord (value "column") column ∧ OneHigher column d.col
  eline : Tells IsWord (value "endLine") d.eline
  ecol : ∃ column, Tells IsWord (value "endColumn") column ∧ OneHigher column d.ecol
  sym : Tells IsText (value "symbol") d.sym
  msg : Tells IsText (value "message") d.msg
  id : Tells IsText (value "message-id") d.id

/-- The tree is a message, and the diagnostic says the same. -/
def Describes (t : Tree) (d : Diagnostic) : Prop :=
  ∃ value, IsRecord declared t value ∧ Says value d

variable {r : Json.Record} {t : Tree} {d : Diagnostic} {name : String} {kind : Option String}
  {level : Option Level} {column col : Option UInt32}

/-! ## Fields -/

theorem field?_string_eq_some_iff {o : Option String} :
    field? r name Tree.string? = some o ↔ Tells IsText (r.fields.lookup name) o :=
  Json.Record.defaulted_eq_some_iff (fun _ _ => Tree.string?_eq_some_iff) rfl

theorem field?_uint32_eq_some_iff {o : Option UInt32} :
    field? r name Tree.uint32? = some o ↔ Tells IsWord (r.fields.lookup name) o :=
  Json.Record.defaulted_eq_some_iff (fun _ _ => Tree.uint32?_eq_some_iff) rfl

theorem levelOf?_eq_some_iff {k : String} {l : Level} : levelOf? k = some l ↔ (k, l) ∈ kinds := by
  constructor
  · intro h
    unfold levelOf? at h
    split at h
    · next hnote =>
      cases h
      rcases hnote with rfl | rfl | rfl <;> decide
    split at h
    · next hwarning =>
      cases h
      subst hwarning
      decide
    split at h
    · next herror =>
      cases h
      subst herror
      decide
    · cases h
  · intro h
    simp only [kinds, List.mem_cons, List.not_mem_nil, or_false, Prod.mk.injEq] at h
    rcases h with ⟨rfl, rfl⟩ | ⟨rfl, rfl⟩ | ⟨rfl, rfl⟩ | ⟨rfl, rfl⟩ | ⟨rfl, rfl⟩ <;> rfl

theorem levelOf_iff : LevelOf kind level ↔ kind.bind levelOf? = level := by
  have hbind (l : Level) : kind.bind levelOf? = some l ↔ ∃ k, kind = some k ∧ (k, l) ∈ kinds := by
    simp only [Option.bind_eq_some_iff, levelOf?_eq_some_iff]
  constructor
  · intro h
    apply Option.ext
    intro l
    rw [hbind, h]
  · rintro rfl
    exact hbind

theorem fromOne?_eq_some_iff {c n : UInt32} : fromOne? c = some n ↔ n.toNat = c.toNat + 1 := by
  unfold fromOne?
  split
  · next hfits =>
    rw [Option.some.injEq, ← UInt32.toNat_inj, toNat_add_one hfits]
    exact eq_comm
  · next hfits =>
    refine iff_of_false nofun fun h => hfits ?_
    rw [← h]
    exact n.toNat_lt

theorem oneHigher_iff : OneHigher column col ↔ column.bind fromOne? = col := by
  have hbind (n : UInt32) :
      column.bind fromOne? = some n ↔ ∃ c, column = some c ∧ n.toNat = c.toNat + 1 := by
    simp only [Option.bind_eq_some_iff, fromOne?_eq_some_iff]
  constructor
  · intro h
    apply Option.ext
    intro n
    rw [hbind, h]
  · rintro rfl
    exact hbind

/-! ## Messages -/

theorem nodup_declared : declared.Nodup := by decide

theorem message?_eq_some_iff : message? t = some d ↔ Describes t d := by
  unfold message?
  simp only [Option.bind_eq_bind, Option.bind_eq_some_iff, field?_string_eq_some_iff,
    field?_uint32_eq_some_iff]
  constructor
  · rintro ⟨r, hr, kind, hkind, path, hpath, line, hline, column, hcolumn, endLine, hendLine,
      endColumn, hendColumn, symbol, hsymbol, message, hmessage, messageId, hmessageId, ⟨⟩⟩
    exact ⟨_, Json.Record.isRecord_lookup nodup_declared hr,
      { level := ⟨kind, hkind, levelOf_iff.mpr rfl⟩
        path := hpath
        line := hline
        col := ⟨column, hcolumn, oneHigher_iff.mpr rfl⟩
        eline := hendLine
        ecol := ⟨endColumn, hendColumn, oneHigher_iff.mpr rfl⟩
        sym := hsymbol
        msg := hmessage
        id := hmessageId }⟩
  · rintro ⟨value, hrecord, hsays⟩
    obtain ⟨r, hr, hlookup⟩ := Json.Record.exists_read? nodup_declared hrecord
    obtain ⟨kind, hkind, hlevel⟩ := hsays.level
    obtain ⟨column, hcolumn, hcol⟩ := hsays.col
    obtain ⟨endColumn, hendColumn, hecol⟩ := hsays.ecol
    simp only [declared, List.forall_mem_cons] at hlookup
    obtain ⟨htype, hpath, hline, hcolumn', hendLine, hendColumn', hsymbol, hmessage, hmessageId, -⟩ :=
      hlookup
    refine ⟨r, hr, kind, htype ▸ hkind, d.path, hpath ▸ hsays.path, d.line, hline ▸ hsays.line,
      column, hcolumn' ▸ hcolumn, d.eline, hendLine ▸ hsays.eline, endColumn,
      hendColumn' ▸ hendColumn, d.sym, hsymbol ▸ hsays.sym, d.msg, hmessage ▸ hsays.msg, d.id,
      hmessageId ▸ hsays.id, ?_⟩
    rw [levelOf_iff.mp hlevel, oneHigher_iff.mp hcol, oneHigher_iff.mp hecol]

theorem describes_of_alike {t' : Tree} (h : Describes t d) (halike : Alike declared t t') :
    Describes t' d := by
  obtain ⟨value, hrecord, hsays⟩ := h
  exact ⟨value, hrecord.of_alike halike, hsays⟩

theorem read?_eq_some_iff {s : String} {ds : List Diagnostic} :
    read? s = some ds ↔ ∃ items, Writes s (.array items) ∧ List.Forall₂ Describes items ds := by
  have hitems (t : Tree) : Json.readItems? message? t = some ds ↔
      ∃ items, t = .array items ∧ List.Forall₂ Describes items ds := by
    cases t with
    | array items =>
      have hmessages : items.mapM message? = some ds ↔ List.Forall₂ Describes items ds := by
        simp only [List.mapM_eq_some_iff_forall₂, message?_eq_some_iff]
      rw [Json.readItems?, Tree.items?, Option.bind_some, hmessages]
      simp
    | _ => exact iff_of_false nofun fun ⟨items, h, _⟩ => nomatch h
  unfold read?
  simp only [Option.bind_eq_some_iff, Json.read?_eq_some_iff, hitems]
  constructor
  · rintro ⟨t, hwrites, items, rfl, hds⟩
    exact ⟨items, hwrites, hds⟩
  · rintro ⟨items, hwrites, hds⟩
    exact ⟨_, hwrites, items, rfl, hds⟩

theorem forall₂_describes_of_alike {items items' : List Tree} {ds : List Diagnostic}
    (halike : List.Forall₂ (Alike declared) items items') (h : List.Forall₂ Describes items ds) :
    List.Forall₂ Describes items' ds := by
  induction halike generalizing ds with
  | nil => exact h
  | cons hitem _ ih =>
    cases h with
    | cons hd hds => exact .cons (describes_of_alike hd hitem) (ih hds)

/-! ## Texts -/

theorem read?_eq_some_iff_of_writes {s : String} {items : List Tree} {ds : List Diagnostic}
    (h : Writes s (.array items)) : read? s = some ds ↔ List.Forall₂ Describes items ds := by
  rw [read?_eq_some_iff]
  constructor
  · rintro ⟨_, hwrites, hds⟩
    obtain ⟨⟩ := hwrites.unique h
    exact hds
  · exact fun hds => ⟨items, h, hds⟩

theorem read_eq_ok_iff {s : String} {ds : List Diagnostic} :
    InputReader.pylint.read s = .ok ds ↔ read? s = some ds := by
  unfold InputReader.read
  dsimp only
  cases read? s with
  | none => exact iff_of_false nofun nofun
  | some _ => rw [Except.ok.injEq, Option.some.injEq]

theorem read_eq_error_iff {s : String} :
    InputReader.pylint.read s = .error .json ↔ read? s = none := by
  unfold InputReader.read
  dsimp only
  cases read? s with
  | none => exact iff_of_true rfl rfl
  | some _ => exact iff_of_false nofun nofun

/-- **A text is read just if it is a document, an array of messages, and then as one diagnostic for
each of them.** One item that is no message is enough for nothing to be read. The order of the
declared fields and other ones make no difference. -/
theorem read_messages_iff (s : String) :
    (∀ ds, InputReader.pylint.read s = .ok ds ↔
      ∃ items, Writes s (.array items) ∧ List.Forall₂ Describes items ds) ∧
    (InputReader.pylint.read s = .error .json ↔
      ∀ items, Writes s (.array items) → ∃ t ∈ items, ∀ d, ¬Describes t d) ∧
    ∀ s' items items', Writes s (.array items) → Writes s' (.array items') →
      List.Forall₂ (Alike declared) items items' →
      InputReader.pylint.read s' = InputReader.pylint.read s := by
  refine ⟨fun ds => read_eq_ok_iff.trans read?_eq_some_iff, ?_, ?_⟩
  · rw [read_eq_error_iff, Option.eq_none_iff_forall_ne_some]
    constructor
    · intro hnone items hwrites
      by_contra! hall
      obtain ⟨ds, hds⟩ := List.exists_forall₂_iff.mpr hall
      exact hnone ds (read?_eq_some_iff.mpr ⟨items, hwrites, hds⟩)
    · intro hsome ds hds
      obtain ⟨items, hwrites, hitems⟩ := read?_eq_some_iff.mp hds
      obtain ⟨t, ht, hno⟩ := hsome items hwrites
      obtain ⟨d, hd⟩ := List.exists_forall₂_iff.mp ⟨ds, hitems⟩ t ht
      exact hno d hd
  · intro s' items items' hwrites hwrites' halike
    have hread : read? s' = read? s := by
      apply Option.ext
      intro ds
      rw [read?_eq_some_iff_of_writes hwrites, read?_eq_some_iff_of_writes hwrites']
      exact ⟨forall₂_describes_of_alike (halike.flip.imp fun _ _ => Alike.symm),
        forall₂_describes_of_alike halike⟩
    unfold InputReader.read
    dsimp only
    rw [hread]

def exampleMembers : List (String × Tree) :=
  [("type", .ofString "error"), ("line", .ofNat 3), ("column", .ofNat 0)]

def exampleMessage : Tree := .record exampleMembers

/-- The same message in another order, with a field that is not declared. -/
def exampleShuffled : Tree := .record (("obj", .ofString "f") :: exampleMembers.reverse)

theorem plain_exampleMembers {bound : Nat} : ∀ m ∈ exampleMembers, m.2.Plain bound := by
  simp only [exampleMembers, List.forall_mem_cons, List.not_mem_nil, false_imp_iff, implies_true,
    and_true]
  exact ⟨.ofString, .ofNat (by decide), .ofNat (by decide)⟩

theorem plain_exampleMessage : (Tree.array [exampleMessage]).Plain 2 :=
  .array (List.forall_mem_singleton.mpr (.record plain_exampleMembers))

theorem plain_exampleShuffled : (Tree.array [exampleShuffled]).Plain 2 := by
  refine .array (List.forall_mem_singleton.mpr (.record (List.forall_mem_cons.mpr ⟨.ofString, ?_⟩)))
  intro m hm
  exact plain_exampleMembers m (List.mem_reverse.mp hm)

theorem alike_example : Alike declared exampleMessage exampleShuffled := by
  refine .object (by decide) (by decide) ?_
  exact (List.reverse_perm _).symm

theorem read_messages_iff_shuffled :
    let s := String.ofList (Tree.array [exampleMessage]).compact
    let s' := String.ofList (Tree.array [exampleShuffled]).compact
    Writes s (.array [exampleMessage]) ∧ Writes s' (.array [exampleShuffled]) ∧
    InputReader.pylint.read s' = InputReader.pylint.read s ∧
    InputReader.pylint.read s =
      .ok [{ level := some .error, line := some 3, col := some 1 }] := by
  have hs : Writes (String.ofList (Tree.array [exampleMessage]).compact) (.array [exampleMessage]) :=
    Json.writes_compact plain_exampleMessage
  have hs' : Writes (String.ofList (Tree.array [exampleShuffled]).compact)
      (.array [exampleShuffled]) :=
    Json.writes_compact plain_exampleShuffled
  obtain ⟨hok, -, horder⟩ :=
    read_messages_iff (String.ofList (Tree.array [exampleMessage]).compact)
  refine ⟨hs, hs', horder _ _ _ hs hs' (.cons alike_example .nil), ?_⟩
  have hdescribes : Describes exampleMessage
      { level := some .error, line := some 3, col := some 1 } := message?_eq_some_iff.mp rfl
  exact (hok _).mpr ⟨_, hs, .cons hdescribes .nil⟩

end LintReview.Format.Pylint
