import CatalogDdl.Proofs.EarlyStop
import CatalogDdl.Proofs.LowerMarks
import CatalogDdl.Proofs.TableDefects
import CatalogDdl.Proofs.TableLookup
import Mathlib.Algebra.GroupWithZero.Nat

/-!
# The lines of a log

A log is meant to have one line for each table. A table that is converted gets one, and so
does a table that fails, unless the message about it has a line end in it. Messages list
texts between double quotes, with line ends escaped, but they show single texts as they
are: the name of a column, a number that is none, the name, the kind and the positions of
an index. A line end in such a text breaks the line of its table.

- `Text.HasLineEnd`, `Text.lineEnds`: line ends in a text.
- `Fault.names`, `Fault.verbatim`: what a message shows as it is.
  `Fault.hasLineEnd_message_iff`: a line end in a message comes from there.
- `NumberedLines`: a text of so many lines, each of which starts with its position.
- `Job.status`: what the log says about a table.
- `Job.run_log`: the log of a run that started all selected tables.
- `Job.run_numberedLines_iff`: when it has one line for each of them.
-/

namespace CatalogDdl

open Ddl

/-! ## Line ends -/

namespace Text

/-- Whether a text has a line end in it. -/
def HasLineEnd (s : String) : Prop := '\n' ∈ s.toList

instance : DecidablePred HasLineEnd := fun s => inferInstanceAs (Decidable ('\n' ∈ s.toList))

/-- The number of line ends in a text. -/
def lineEnds (s : String) : Nat := s.toList.count '\n'

variable {s t : String}

@[simp] theorem hasLineEnd_append : HasLineEnd (s ++ t) ↔ HasLineEnd s ∨ HasLineEnd t := by
  rw [HasLineEnd, String.toList_append, List.mem_append]
  rfl

@[simp] theorem lineEnds_append : lineEnds (s ++ t) = lineEnds s + lineEnds t := by
  rw [lineEnds, String.toList_append, List.count_append]
  rfl

theorem lineEnds_eq_zero_iff : lineEnds s = 0 ↔ ¬ HasLineEnd s := List.count_eq_zero

@[simp] theorem not_hasLineEnd_toString (n : Nat) : ¬ HasLineEnd (toString n) := by
  intro h
  rw [HasLineEnd, show toString n = n.repr from rfl, Nat.toList_repr] at h
  exact absurd (isDigit_of_mem_toDigits h) (by decide)

@[simp] theorem hasLineEnd_lower : HasLineEnd (lower s) ↔ HasLineEnd s := by
  have hmark : IsMark '\n' := by decide
  unfold HasLineEnd lower lowerChars
  rw [String.toList_ofList]
  exact (lowersTo_lowerAfter [] s.toList).mem_iff hmark

/-- A hexadecimal digit is no line end. -/
theorem hexDigit_ne {n : Nat} (h : n < 16) : hexDigit n ≠ '\n' := by
  revert n
  decide

/-- There is no line end among the digits of a number. -/
theorem not_mem_hex (n : Nat) : '\n' ∉ hex n := by
  fun_induction hex n with
  | case1 n hn =>
    rw [List.mem_singleton]
    exact (hexDigit_ne hn).symm
  | case2 n hn ih =>
    rw [List.mem_append, List.mem_singleton, not_or]
    exact ⟨ih, (hexDigit_ne (Nat.mod_lt n (by decide))).symm⟩

/-- A line end is escaped, and no escape has one in it. -/
theorem not_mem_escapeChar (c : Char) : '\n' ∉ escapeChar c := by
  unfold escapeChar
  split_ifs with hquote hbackslash hfeed hreturn htab hnull hplain hescaped
  · decide
  · decide
  · decide
  · decide
  · decide
  · decide
  · exact fun h => hfeed (List.mem_singleton.mp h).symm
  · have hhex := not_mem_hex c.toNat
    simp [hhex]
  · exact fun h => hfeed (List.mem_singleton.mp h).symm

@[simp] theorem not_hasLineEnd_quoted (s : String) : ¬ HasLineEnd (quoted s) := by
  have hbody : '\n' ∉ s.toList.flatMap escapeChar := by
    rw [List.mem_flatMap]
    rintro ⟨c, -, hc⟩
    exact not_mem_escapeChar c hc
  unfold HasLineEnd quoted
  rw [String.toList_ofList]
  simp [hbody]

/-- Texts without a line end are put together to one without. -/
theorem not_hasLineEnd_joinWith {sep : String} (hsep : ¬ HasLineEnd sep) {ss : List String}
    (h : ∀ s ∈ ss, ¬ HasLineEnd s) : ¬ HasLineEnd (joinWith sep ss) := by
  fun_induction joinWith sep ss with
  | case1 => exact List.not_mem_nil
  | case2 s => exact h s (List.mem_singleton_self s)
  | case3 s t rest ih =>
    obtain ⟨hs, hrest⟩ := List.forall_mem_cons.mp h
    simp [hsep, hs, ih hrest]

/-- A list of texts in a message has no line end, whatever the texts are. -/
@[simp] theorem not_hasLineEnd_quotedList (ss : List String) : ¬ HasLineEnd (quotedList ss) := by
  have hitems : ¬ HasLineEnd (joinWith ", " (ss.map quoted)) := by
    refine not_hasLineEnd_joinWith (by decide) fun s hs => ?_
    obtain ⟨t, -, rfl⟩ := List.mem_map.mp hs
    exact not_hasLineEnd_quoted t
  simp +decide [quotedList, hitems]

/-- Lines put together have as many line ends as they are, and those in them. -/
theorem lineEnds_join (ls : List String) :
    lineEnds (String.join (ls.map (· ++ "\n"))) = ls.length + (ls.map lineEnds).sum := by
  induction ls with
  | nil => rfl
  | cons l ls ih =>
    have hend : lineEnds "\n" = 1 := rfl
    rw [List.map_cons, String.join_cons, lineEnds_append, lineEnds_append, ih, hend,
      List.length_cons, List.map_cons, List.sum_cons]
    omega

end Text

open Text

/-! ## Messages -/

/-- The schema and table names in what a snapshot cannot answer. -/
def CatalogGap.names : CatalogGap → List String
  | otherSchema held asked => [held, asked]
  | noTable schema table => [schema, table]
  | unreadable _ => []

namespace Fault

/-- The schema and table names in a message. -/
def names : Fault → List String
  | malformedNumeric table .. => [table]
  | ambiguousPrimaryKey schema table _ => [schema, table]
  | ambiguousTableComment schema table _ => [schema, table]
  | unsupportedIndex table .. => [table]
  | uniquenessMismatch table .. => [table]
  | emptyIndex table _ => [table]
  | emptyTable schema table => [schema, table]
  | catalog gap => gap.names
  | conflictingOverrides .. => []
  | unreadableSettings => []
  | invalidSettings _ => []
  | files => []
  | json => []
  | noMailbox => []

/-- The other texts that a message shows as they are. -/
def verbatim : Fault → List String
  | malformedNumeric _ column _ value => [column, value]
  | conflictingOverrides column sourceType _ _ => [column, sourceType]
  | unsupportedIndex _ index kind columns => [index, kind, columns]
  | uniquenessMismatch _ index _ _ => [index]
  | emptyIndex _ index => [index]
  | catalog (.unreadable path) => [path]
  | invalidSettings (.missingCatalogFile path) => [path]
  | ambiguousPrimaryKey .. => []
  | ambiguousTableComment .. => []
  | emptyTable .. => []
  | catalog _ => []
  | unreadableSettings => []
  | invalidSettings _ => []
  | files => []
  | json => []
  | noMailbox => []

/-- A line end in a message comes from a text that it shows as it is. -/
theorem hasLineEnd_message_iff (f : Fault) :
    HasLineEnd f.message ↔ ∃ s ∈ f.names ++ f.verbatim, HasLineEnd s := by
  have hlist : ∀ ss, '\n' ∉ (quotedList ss).toList := not_hasLineEnd_quotedList
  have hquoted : ∀ s, '\n' ∉ (quoted s).toList := not_hasLineEnd_quoted
  unfold HasLineEnd message names verbatim
  -- each message is a sequence of texts; what is shown as a list has its line ends escaped
  cases f with
  | malformedNumeric table column field value => cases field <;> simp [NumericField.text]
  | uniquenessMismatch table index expected found =>
    cases expected <;> cases found <;> simp [Uniqueness.text]
  | ambiguousPrimaryKey | ambiguousTableComment | conflictingOverrides | unsupportedIndex
  | emptyIndex | emptyTable | unreadableSettings | files | json | noMailbox => simp [hlist]
  | catalog gap =>
    unfold CatalogGap.message CatalogGap.names
    cases gap <;> simp
  | invalidSettings cause =>
    have hplan : ∀ r : PlanRule, '\n' ∉ r.shown.toList := by
      intro r
      unfold PlanRule.shown
      simp [hquoted]
    have hcustom : ∀ r : CustomRule, '\n' ∉ r.shown.toList := by
      intro r
      unfold CustomRule.shown shownTable
      split <;> simp [hquoted]
    unfold InvalidSettings.message
    cases cause <;> simp [hplan, hcustom]

end Fault

/-! ## Numbered lines -/

/-- A text of `n` lines, each of which is ended by a line end and starts with its position. -/
def NumberedLines (text : String) (n : Nat) : Prop :=
  ∃ lines : List String, lines.length = n ∧ text = String.join (lines.map (· ++ "\n")) ∧
    (∀ l ∈ lines, ¬ HasLineEnd l) ∧
    ∀ (i : Nat) (l : String), lines[i]? = some l → ("[" ++ toString i ++ "] ").toList <+: l.toList

/-- The line of a position with a given text. -/
def numbered (position : Nat) (text : String) : String := "[" ++ toString position ++ "] " ++ text

/-- The position in front of a text adds no line end. -/
theorem lineEnds_numbered (position : Nat) (text : String) :
    lineEnds (numbered position text) = lineEnds text := by
  have hposition : lineEnds (toString position) = 0 :=
    lineEnds_eq_zero_iff.mpr (not_hasLineEnd_toString position)
  have hopen : lineEnds "[" = 0 := rfl
  have hclose : lineEnds "] " = 0 := rfl
  simp only [numbered, lineEnds_append, hposition, hopen, hclose, Nat.zero_add]

/-- So many numbered lines have as many line ends. -/
theorem NumberedLines.lineEnds_eq {text : String} {n : Nat} (h : NumberedLines text n) :
    lineEnds text = n := by
  obtain ⟨lines, hlength, rfl, hfree, -⟩ := h
  have hnone : (lines.map lineEnds).sum = 0 := by
    rw [List.sum_eq_zero_iff_forall_eq_nat]
    intro k hk
    obtain ⟨l, hl, rfl⟩ := List.mem_map.mp hk
    exact lineEnds_eq_zero_iff.mpr (hfree l hl)
  rw [lineEnds_join, hlength, hnone, Nat.add_zero]

/-- What is written for some texts ends a line for each, and wherever one of them has a line end. -/
theorem lineEnds_join_numbered (ss : List String) :
    lineEnds (String.join ((ss.mapIdx numbered).map (· ++ "\n")))
      = ss.length + (ss.map lineEnds).sum := by
  have hmap : (ss.mapIdx numbered).map lineEnds = ss.map lineEnds := by
    refine List.ext_getElem (by simp) fun i hi hi' => ?_
    simp [lineEnds_numbered]
  rw [lineEnds_join, List.length_mapIdx, hmap]

/-- Texts that are put one after the other with their positions are lines iff none of them has a
line end. -/
theorem numberedLines_join_iff {ss : List String} :
    NumberedLines (String.join ((ss.mapIdx numbered).map (· ++ "\n"))) ss.length ↔
      ∀ s ∈ ss, ¬ HasLineEnd s := by
  constructor
  · -- counting is enough: a further line end in a text would make one too many
    intro h s hs
    have hcount := h.lineEnds_eq
    rw [lineEnds_join_numbered] at hcount
    have hsum : (ss.map lineEnds).sum = 0 := by omega
    rw [List.sum_eq_zero_iff_forall_eq_nat] at hsum
    exact lineEnds_eq_zero_iff.mp (hsum _ (List.mem_map_of_mem hs))
  · intro h
    refine ⟨ss.mapIdx numbered, List.length_mapIdx, rfl, fun l hl => ?_, fun i l hl => ?_⟩
    · obtain ⟨i, hi, rfl⟩ := List.mem_mapIdx.mp hl
      rw [← lineEnds_eq_zero_iff, lineEnds_numbered, lineEnds_eq_zero_iff]
      exact h _ (List.getElem_mem hi)
    · rw [List.getElem?_mapIdx, Option.map_eq_some_iff] at hl
      obtain ⟨s, -, rfl⟩ := hl
      simp only [numbered, String.toList_append]
      exact List.prefix_append ..

/-! ## What the log says about a table -/

namespace Job

variable {j : Job}

/-- What the log says about a table, without its position. -/
def status (j : Job) (name : String) : String :=
  match j.bundle name with
  | .ok b =>
    b.source ++ " -> " ++ b.target ++ ": ok, primary=" ++ toString (b.primary.length + 1)
      ++ ", compatibility=" ++ toString b.reviewCount ++ ", warnings=" ++ toString b.warnings.length
  | .error f => name ++ ": failed, " ++ f.message

/-- An entry of the log is a numbered line with the status of the table. -/
theorem logEntry_eq (position : Nat) (name : String) :
    j.logEntry position name = numbered position (j.status name) ++ "\n" := by
  unfold logEntry numbered status
  cases j.bundle name <;> simp only [String.append_assoc]

/-- The entries of a log, line by line. -/
theorem map_logEntry (names : List String) :
    names.mapIdx j.logEntry
      = ((names.map j.status).mapIdx numbered).map (· ++ "\n") := by
  refine List.ext_getElem (by simp) fun i hi hi' => ?_
  simp [logEntry_eq]

/-- The names of schemas and tables, in the source and in the target, have no line ends. -/
structure NamesUnbroken (j : Job) : Prop where
  sourceSchema : ¬ HasLineEnd j.settings.sourceSchema
  targetSchema : ¬ HasLineEnd j.settings.effectiveSchema
  sourceTables : ∀ t ∈ j.snapshot.tables, ¬ HasLineEnd t.name
  targetTables : ∀ t ∈ j.snapshot.tables, ¬ HasLineEnd (j.settings.effectiveTable t.name)

/-- A selected name leads to a table of the snapshot. -/
theorem bundle_of_selected
    (hschema : Text.equalsIgnoringCase j.snapshot.schema j.settings.sourceSchema = true)
    {name : String} (h : name ∈ j.selected) :
    ∃ t ∈ j.snapshot.tables, j.bundle name = (j.request t).synthesize := by
  obtain ⟨u, hu, rfl⟩ := List.mem_map.mp (List.mem_of_mem_filter h)
  -- the table of the name itself has it, so some table is found
  have hfound :
      (j.snapshot.tables.find? fun t => Text.equalsIgnoringCase t.name u.name).isSome := by
    rw [List.find?_isSome]
    exact ⟨u, hu, Text.equalsIgnoringCase_iff.mpr rfl⟩
  obtain ⟨t, ht⟩ := Option.isSome_iff_exists.mp hfound
  refine ⟨t, List.mem_of_find?_eq_some ht, ?_⟩
  unfold bundle
  rw [(Snapshot.table_eq_ok_iff hschema).mpr ht]
  rfl

/-- What is shown of a converted table are names. -/
theorem not_hasLineEnd_source (hnames : j.NamesUnbroken) {t : Table}
    (ht : t ∈ j.snapshot.tables) {b : Bundle} (h : (j.request t).synthesize = .ok b) :
    ¬ HasLineEnd b.source ∧ ¬ HasLineEnd b.target := by
  obtain ⟨p, -, rfl⟩ := Request.synthesize_eq_ok h
  have hdot : ¬ HasLineEnd "." := by decide
  have hsource := hnames.sourceTables t ht
  have htarget := hnames.targetTables t ht
  constructor
  · show ¬ HasLineEnd (j.settings.sourceSchema ++ "." ++ t.name)
    simp [hdot, hnames.sourceSchema, hsource]
  · show ¬ HasLineEnd (Text.lower j.settings.effectiveSchema ++ "."
      ++ Text.lower (j.settings.effectiveTable t.name))
    simp [hdot, hnames.targetSchema, htarget]

end Job

/-- The names in the defects of a column are those of its table. -/
theorem Column.names_of_mem_defects {c : Column} {table : String} {rules : OverrideRules}
    {f : Fault} (h : f ∈ c.defects table rules) : ∀ n ∈ f.names, n = table := by
  unfold Column.defects at h
  rcases c.firstMalformed_or_numbers with ⟨field, text, hmalformed⟩ | ⟨a, hnumbers⟩
  · unfold Column.resolve at h
    rw [hmalformed.attributes_eq] at h
    obtain rfl := List.mem_singleton.mp h
    exact fun n hn => List.mem_singleton.mp hn
  · -- with its numbers read, a column only fails for rules, and that message names no table
    rw [Column.resolve_eq_choice hnumbers] at h
    by_cases hclash : rules.Clash table c.name (builtinType c.dataType a).origin
    · rw [choice_eq_error hclash] at h
      obtain rfl := List.mem_singleton.mp h
      exact nofun
    · obtain ⟨t, ht⟩ := exists_chosen_iff.mpr hclash
      rw [choice_eq_ok_iff.mpr ht] at h
      cases h

/-- The names in the defects of an index are those of its table. -/
theorem Index.names_of_mem_defects {i : Index} {table : String} {expected : Uniqueness} {f : Fault}
    (h : f ∈ i.defects table expected) : ∀ n ∈ f.names, n = table := by
  simp only [Index.defects, List.mem_append, Fault.mem_unless_iff] at h
  obtain (⟨-, rfl⟩ | ⟨-, rfl⟩) | ⟨-, rfl⟩ := h <;> exact fun n hn => List.mem_singleton.mp hn

/-- The names in the fault of a table are its own and that of its schema. -/
theorem Ddl.Request.names_of_synthesize {r : Request} {f : Fault} (h : r.synthesize = .error f) :
    ∀ n ∈ f.names, n = r.sourceSchema ∨ n = r.table.name := by
  have hdefect : f ∈ r.defects := List.mem_of_head? (r.failsByFirst_synthesize.error_iff.mp h)
  simp only [defects, List.mem_append, Fault.mem_unless_iff, List.mem_flatMap] at hdefect
  obtain ⟨-, rfl⟩ | ⟨-, rfl⟩ | ⟨c, -, hc⟩ | ⟨-, rfl⟩ | ⟨i, -, hi⟩ | ⟨i, -, hi⟩ := hdefect
  · simp [Fault.names]
  · simp [Fault.names]
  · exact fun n hn => .inr (Column.names_of_mem_defects hc n hn)
  · simp [Fault.names]
  · exact fun n hn => .inr (Index.names_of_mem_defects hi n hn)
  · exact fun n hn => .inr (Index.names_of_mem_defects hi n hn)

namespace Job

variable {j : Job}

section
variable (hschema : Text.equalsIgnoringCase j.snapshot.schema j.settings.sourceSchema = true)
  (hnames : j.NamesUnbroken) {name : String} (hname : name ∈ j.selected)
include hschema hnames hname

/-- The log says something about a converted table that has no line end. -/
theorem lineEnds_status_of_ok {b : Bundle} (h : j.bundle name = .ok b) :
    lineEnds (j.status name) = 0 := by
  obtain ⟨t, ht, hbundle⟩ := bundle_of_selected hschema hname
  obtain ⟨hsource, htarget⟩ := not_hasLineEnd_source hnames ht (hbundle ▸ h)
  have hcount : ∀ n : Nat, '\n' ∉ (toString n).toList := not_hasLineEnd_toString
  rw [lineEnds_eq_zero_iff, status, h]
  unfold HasLineEnd at hsource htarget ⊢
  simp only [String.toList_append, List.mem_append, hsource, htarget, hcount]
  decide

omit hschema in
/-- About any other one it has the line ends of the message. -/
theorem lineEnds_status_of_error {f : Fault} (h : j.bundle name = .error f) :
    lineEnds (j.status name) = lineEnds f.message := by
  obtain ⟨u, hu, rfl⟩ := List.mem_map.mp (List.mem_of_mem_filter hname)
  have htable : lineEnds u.name = 0 := lineEnds_eq_zero_iff.mpr (hnames.sourceTables u hu)
  have hfailed : lineEnds ": failed, " = 0 := rfl
  rw [status, h]
  show lineEnds (u.name ++ ": failed, " ++ f.message) = _
  rw [lineEnds_append, lineEnds_append, htable, hfailed]
  omega

/-- What the log says about a table has a line end iff the table fails with a fault that shows
one as it is. -/
theorem hasLineEnd_status_iff :
    HasLineEnd (j.status name) ↔
      ∃ f, j.bundle name = .error f ∧ ∃ s ∈ f.verbatim, HasLineEnd s := by
  rw [← not_iff_not, ← lineEnds_eq_zero_iff]
  cases h : j.bundle name with
  | ok b =>
    exact iff_of_true (lineEnds_status_of_ok hschema hnames hname h) fun ⟨_, hf, _⟩ => nomatch hf
  | error f =>
    obtain ⟨t, ht, hbundle⟩ := bundle_of_selected hschema hname
    have hfree : ∀ n ∈ f.names, ¬ HasLineEnd n := by
      intro n hn
      rcases Request.names_of_synthesize (hbundle ▸ h) n hn with rfl | rfl
      · exact hnames.sourceSchema
      · exact hnames.sourceTables t ht
    rw [lineEnds_status_of_error hnames hname h, lineEnds_eq_zero_iff, not_iff_not,
      f.hasLineEnd_message_iff]
    constructor
    · rintro ⟨s, hs, hend⟩
      rcases List.mem_append.mp hs with hs | hs
      · exact absurd hend (hfree s hs)
      · exact ⟨f, rfl, s, hs, hend⟩
    · rintro ⟨_, hf, s, hs, hend⟩
      cases hf
      exact ⟨s, List.mem_append_right _ hs, hend⟩

end

/-- What the log says about tables has the line ends of the messages about those that fail. -/
theorem sum_lineEnds_status
    (hschema : Text.equalsIgnoringCase j.snapshot.schema j.settings.sourceSchema = true)
    (hnames : j.NamesUnbroken) {names : List String}
    (hselected : ∀ name ∈ names, name ∈ j.selected) :
    ((names.map j.status).map lineEnds).sum
      = ((j.failuresOf names).map fun f => lineEnds f.message).sum := by
  unfold failuresOf
  induction names with
  | nil => rfl
  | cons name names ih =>
    obtain ⟨hname, hrest⟩ := List.forall_mem_cons.mp hselected
    rw [List.map_cons, List.map_cons, List.sum_cons, ih hrest, List.filterMap_cons]
    cases h : j.bundle name with
    | ok b =>
      rw [lineEnds_status_of_ok hschema hnames hname h]
      exact Nat.zero_add _
    | error f =>
      rw [lineEnds_status_of_error hnames hname h]
      rfl

/-! ## Runs -/

/-- A run starts all selected tables under a schedule: nothing stops it before. -/
def StartsAll (j : Job) (schedule : Pool.Schedule) : Prop :=
  (j.finalPool schedule j.selected).started.length = j.selected.length

/-- A run that starts all selected tables writes an entry for each of them, in order. -/
theorem scripts_of_startsAll {schedule : Pool.Schedule} (hthreads : 1 ≤ j.settings.threads)
    (hall : j.StartsAll schedule) :
    (j.finalPool schedule j.selected).scripts.log = String.join (j.selected.mapIdx j.logEntry) := by
  obtain ⟨names, rest, hsplit, hstarted, hscripts, -⟩ :=
    Pool.run_written (r := j.rules) hthreads schedule j.selected
  -- as many tables were started as there are, so none is left
  have hlength : names.length = j.selected.length := by
    have hcount : (j.rules.tasks names).length = j.selected.length := hstarted ▸ hall
    rwa [PoolRules.tasks, List.length_mapIdx] at hcount
  have hrest : rest = [] := by
    rw [← List.length_eq_zero_iff]
    rw [← hsplit, List.length_append] at hlength
    omega
  rw [hrest, List.append_nil] at hsplit
  subst hsplit
  exact congrArg Scripts.log (hscripts.trans (j.scripts_of_tables _))

/-- The log of a run that starts all selected tables, whether the run succeeds or has a fault
to report at its end. -/
theorem run_log (schedule : Pool.Schedule) {j : Job} {t : FileTree} (hroom : j.rules.HasRoom)
    (hwrites : j.settings.dryRun = false)
    (hschema : Text.equalsIgnoringCase j.snapshot.schema j.settings.sourceSchema = true)
    (hfiles : j.CanWrite t) (hapart : j.ScriptsApart t) (hall : j.StartsAll schedule) :
    ∃ u, ((∃ s, Gives (Job.run schedule j) t s u) ∨ ∃ f, Fails (Job.run schedule j) t f u) ∧
      u.readText? j.outputs.log = some (String.join (j.selected.mapIdx j.logEntry)) := by
  obtain ⟨u, hhold, hfails, hgives⟩ := run_end hwrites hschema hfiles hapart hroom schedule
  have hlog := hhold.log
  rw [scripts_of_startsAll hroom.one_le_threads hall] at hlog
  refine ⟨u, ?_, hlog⟩
  cases hfault : (j.finalPool schedule j.selected).runFault? with
  | none => exact .inl ⟨_, hgives hfault⟩
  | some f => exact .inr ⟨f, hfails f hfault⟩

/-- **The log has one line for each table unless a message breaks it**: if a run with a mailbox
starts all selected tables, and names of schemas and tables have no line ends, the log has as many
line ends as there are selected tables and line ends in the messages about those that
failed. It consists of one line for each selected table, in order and with its position,
iff no table fails with a fault that shows a text with a line end as it is. -/
theorem run_numberedLines_iff (schedule : Pool.Schedule) {j : Job} {t : FileTree}
    (hroom : j.rules.HasRoom)
    (hwrites : j.settings.dryRun = false)
    (hschema : Text.equalsIgnoringCase j.snapshot.schema j.settings.sourceSchema = true)
    (hfiles : j.CanWrite t) (hapart : j.ScriptsApart t) (hall : j.StartsAll schedule)
    (hnames : j.NamesUnbroken) :
    ∃ u log, ((∃ s, Gives (Job.run schedule j) t s u) ∨ ∃ f, Fails (Job.run schedule j) t f u) ∧
      u.readText? j.outputs.log = some log ∧
      lineEnds log = j.selected.length + (j.failures.map fun f => lineEnds f.message).sum ∧
      (NumberedLines log j.selected.length ↔
        ∀ name ∈ j.selected, ∀ f, j.bundle name = .error f → ∀ s ∈ f.verbatim, ¬ HasLineEnd s) := by
  obtain ⟨u, hrun, hlog⟩ := run_log schedule hroom hwrites hschema hfiles hapart hall
  refine ⟨u, _, hrun, hlog, ?_, ?_⟩
  · have hsum := sum_lineEnds_status hschema hnames fun name (h : name ∈ j.selected) => h
    rw [map_logEntry, lineEnds_join_numbered, List.length_map, hsum]
    rfl
  · have hlength : (j.selected.map j.status).length = j.selected.length := List.length_map _
    rw [map_logEntry, ← hlength, numberedLines_join_iff, List.forall_mem_map]
    refine forall₂_congr fun name hname => ?_
    rw [hasLineEnd_status_iff hschema hnames hname]
    push Not
    rfl

/-- If no selected table stops a run, it starts them all. -/
theorem startsAll_of_stops {j : Job} (hthreads : 1 ≤ j.settings.threads)
    (hnone : ∀ t ∈ j.rules.tasks j.selected, j.rules.stops t = false)
    (schedule : Pool.Schedule) : j.StartsAll schedule := by
  obtain ⟨hstarted, -⟩ := Pool.run_all (r := j.rules) hthreads j.selected hnone schedule
  rw [StartsAll, finalPool, hstarted, PoolRules.tasks, List.length_mapIdx]

/-- The log of two tables, one of which fails, has two lines. -/
theorem ordersJob_numberedLines :
    ∃ (u : FileTree) (log : String), u.readText? ordersJob.outputs.log = some log ∧
      lineEnds log = 2 ∧ NumberedLines log 2 := by
  have hall : ordersJob.StartsAll Pool.eager :=
    startsAll_of_stops (by decide) (by decide +kernel) Pool.eager
  have hnames : ordersJob.NamesUnbroken :=
    ⟨by decide, by decide, by decide +kernel, by decide +kernel⟩
  have hshown : ∀ name ∈ ordersJob.selected, ∀ s ∈ (ordersJob.fault? name).elim [] Fault.verbatim,
      ¬ HasLineEnd s := by
    decide +kernel
  obtain ⟨u, log, -, hlog, hcount, hlines⟩ := run_numberedLines_iff Pool.eager (j := ordersJob)
    (by decide) rfl (by decide +kernel) (canWrite_empty rfl rfl) (scriptsApart_empty rfl rfl) hall
    hnames
  have htwo : ordersJob.selected.length = 2 := by decide +kernel
  have hnone : (ordersJob.failures.map fun f => lineEnds f.message).sum = 0 := by decide +kernel
  rw [htwo] at hcount hlines
  rw [hnone] at hcount
  refine ⟨u, log, hlog, hcount, hlines.mpr fun name hname f hf s hs => ?_⟩
  have hfault : ordersJob.fault? name = some f := fault?_eq_some_iff.mpr hf
  have hfree := hshown name hname
  rw [hfault] at hfree
  exact hfree s hs

/-- A job for a table with a column whose length is no number, and is not even in one line. -/
def brokenJob : Job where
  settings := { sourceSchema := "marvin", outputDir := "out" }
  snapshot := ⟨"MARVIN", "8.0.28",
    [{ name := "ORDERS", columns := [{ name := "ID", dataType := "NUMBER", length := "1\n2" }] }]⟩

/-- Its log has two line ends for one table. -/
theorem brokenJob_not_numberedLines :
    brokenJob.NamesUnbroken ∧ brokenJob.StartsAll Pool.eager ∧ brokenJob.selected = ["ORDERS"] ∧
      ∃ u log, ((∃ s, Gives (Job.run Pool.eager brokenJob) {} s u) ∨
          ∃ f, Fails (Job.run Pool.eager brokenJob) {} f u) ∧
        u.readText? brokenJob.outputs.log = some log ∧
        log = "[0] ORDERS: failed, oracle table [ORDERS] column [ID] "
          ++ "data_length [1\n2] is not an integer\n" ∧
        ¬ NumberedLines log 1 := by
  have hnames : brokenJob.NamesUnbroken :=
    ⟨by decide, by decide, by decide +kernel, by decide +kernel⟩
  have hall : brokenJob.StartsAll Pool.eager :=
    startsAll_of_stops (by decide) (by decide +kernel) Pool.eager
  obtain ⟨u, hrun, hlog⟩ := run_log Pool.eager (j := brokenJob) (by decide) rfl (by decide +kernel)
    (canWrite_empty rfl rfl) (scriptsApart_empty rfl rfl) hall
  refine ⟨hnames, hall, by decide +kernel, u, _, hrun, hlog, by decide +kernel, fun hlines => ?_⟩
  have htwo : lineEnds (String.join (brokenJob.selected.mapIdx brokenJob.logEntry)) = 2 := by
    decide +kernel
  rw [hlines.lineEnds_eq] at htwo
  exact absurd htwo (by decide)

end Job

end CatalogDdl
