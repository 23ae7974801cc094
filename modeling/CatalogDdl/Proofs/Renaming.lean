import CatalogDdl.Proofs.TableDefects
import CatalogDdl.Run.Job

/-!
# Another target

The names that a table gets in the target, and what follows its column list, do not
change how it is translated. Two requests that differ in nothing else fail for the same
cause, or have bundles that say the same about two tables: statement by statement, group
by group and warning by warning. Override rules are chosen by the source table alone, so
renaming a table does not make other rules apply.

- `SameFor`: one statement about two tables.
- `Request.forTarget`: the same request for another target.
- `SameTranslation`: two bundles of one translation.
- `Request.toReview_sameFor`: what is sent to review does not depend on the target.
- `Request.synthesize_forTarget`: neither does anything else; and it is so for the tables
  of a job when the target schema, the renames or the table option of its settings change.
-/

namespace CatalogDdl

open Ddl

/-! ## Statements about two tables -/

namespace Ddl

/-- One statement about two tables: outside the name of the table they are the same text. -/
def SameFor (t t' : TargetTable) (s s' : String) : Prop :=
  ∃ before after, s = before ++ t.quoted ++ after ∧ s' = before ++ t'.quoted ++ after

/-- One statement about two tables, for one catalog object. -/
structure Statement.SameFor (t t' : TargetTable) (s s' : Statement) : Prop where
  object : s.object = s'.object
  sql : Ddl.SameFor t t' s.sql s'.sql

/-- One group of statements about two tables. -/
structure Group.SameFor (t t' : TargetTable) (g g' : Group) : Prop where
  kind : g.kind = g'.kind
  statements : List.Forall₂ (Ddl.SameFor t t') g.statements g'.statements

variable (t t' : TargetTable)

/-- An ALTER TABLE statement names its table once. -/
theorem sameFor_add (clause : String) : SameFor t t' (t.add clause) (t'.add clause) :=
  ⟨"ALTER TABLE ", " ADD " ++ clause, String.append_assoc, String.append_assoc⟩

theorem sameFor_createIndex (words : String) (i : Index) (positions : String) :
    SameFor t t' (createIndex words i t positions) (createIndex words i t' positions) := by
  refine ⟨"CREATE " ++ words ++ "INDEX " ++ quoteName i.name ++ " ON ",
    "(" ++ positions ++ ")", ?_, ?_⟩
  · simp only [createIndex, String.append_assoc]
  · simp only [createIndex, String.append_assoc]

/-- A statement of an index names its table once, whatever the kind of the index. -/
theorem sameFor_indexSql (i : Index) : SameFor t t' (i.sql t) (i.sql t') := by
  unfold Index.sql
  cases i.kind with
  | normal | functionBased | bitmap | other kind => exact sameFor_createIndex t t' ..

/-- What two maps make of one list is related element by element. -/
theorem forall₂_map_map {α β γ : Type} {R : β → γ → Prop} {f : α → β} {g : α → γ}
    (h : ∀ a, R (f a) (g a)) (l : List α) : List.Forall₂ R (l.map f) (l.map g) := by
  rw [List.forall₂_map_left_iff, List.forall₂_map_right_iff, List.forall₂_same]
  exact fun a _ => h a

variable {t t'} in
/-- The group of some statements is of the same kind for both tables, and it is missing
for both if there are none. -/
theorem groupOf_sameFor (kind : GroupKind) {ss ss' : List String}
    (h : List.Forall₂ (SameFor t t') ss ss') :
    List.Forall₂ (Group.SameFor t t') (groupOf kind ss) (groupOf kind ss') := by
  cases h with
  | nil => exact .nil
  | cons hs hss => exact .cons ⟨rfl, .cons hs hss⟩ .nil

/-! ## Requests for two targets -/

/-- The same request for another target. -/
def Request.forTarget (r : Request) (t : TargetTable) (tableOption : String) : Request :=
  { r with targetSchema := t.schema, targetTable := t.name, tableOption }

/-- Two bundles of one translation, for two requests: the CREATE TABLE statements differ in
the name of the table and in the table option, the other statements in the name of the
table, and the warnings not at all. -/
structure SameTranslation (r r' : Request) (b b' : Bundle) : Prop where
  source : b.source = b'.source
  /-- The clauses and the comment come from the catalog and the rules for the source table. -/
  createTable : ∃ columns key comment,
    List.Forall₂ (fun c clause => ∃ t, c.resolve r.table.name r.rules = .ok t ∧
      clause = c.clause t.target) r.table.columns columns ∧
    r.primaryKey = .ok key ∧ r.comment = .ok comment ∧
    b.createTable = r.createTable (columns ++ key.toList) comment ∧
    b'.createTable = r'.createTable (columns ++ key.toList) comment
  primary : List.Forall₂ (SameFor r.target r'.target) b.primary b'.primary
  groups : List.Forall₂ (Group.SameFor r.target r'.target) b.groups b'.groups
  warnings : b.warnings = b'.warnings

/-- Two results are the same fault, or two related bundles. -/
def SameOutcome (same : Bundle → Bundle → Prop) : Except Fault Bundle → Except Fault Bundle → Prop
  | .ok b, .ok b' => same b b'
  | .error f, .error f' => f = f'
  | _, _ => False

theorem SameOutcome.imp {same same' : Bundle → Bundle → Prop} {x x' : Except Fault Bundle}
    (himp : ∀ b b', same b b' → same' b b') (h : SameOutcome same x x') :
    SameOutcome same' x x' := by
  match x, x', h with
  | .ok b, .ok b', h => exact himp b b' h
  | .error _, .error _, h => exact h

namespace Request

variable (r : Request) (t : TargetTable) (tableOption : String)

/-- The defects of a table have nothing to do with the target. -/
theorem defects_forTarget : (r.forTarget t tableOption).defects = r.defects := rfl

/-- The statements of the checks, which are about the same columns. -/
theorem checkStatements_sameFor :
    List.Forall₂ (Statement.SameFor r.target t) r.checkStatements
      (r.forTarget t tableOption).checkStatements := by
  -- a check has a statement for both targets or for none
  have hcheck : ∀ c : Check,
      Option.Rel (Statement.SameFor r.target t)
        ((c.statement? r.target).map fun s => ⟨c.name, s⟩)
        ((c.statement? t).map fun s => ⟨c.name, s⟩) := by
    intro c
    unfold Check.statement?
    cases residue? c.predicate with
    | none => exact .none
    | some p => exact .some ⟨rfl, sameFor_add r.target t _⟩
  refine List.rel_filterMap (R := (· = ·)) ?_ (List.forall₂_refl r.table.checks)
  rintro c _ rfl
  exact hcheck c

/-- The statements of foreign keys. -/
theorem keyStatements_sameFor (keys : List ForeignKey) :
    List.Forall₂ (SameFor r.target t) (r.keyStatements keys)
      ((r.forTarget t tableOption).keyStatements keys) :=
  forall₂_map_map (fun _ => sameFor_add r.target t _) keys

/-- What of a kind has to be reviewed does not depend on the target. -/
theorem toReview_sameFor (kind : GroupKind) :
    List.Forall₂ (Statement.SameFor r.target t) (r.toReview kind)
      ((r.forTarget t tableOption).toReview kind) := by
  cases kind with
  | checkConstraints =>
    show List.Forall₂ _ (if r.reviewsChecks then _ else _) (if r.reviewsChecks then _ else _)
    split
    · exact r.checkStatements_sameFor t tableOption
    · exact .nil
  | foreignKeys | unhandledDeleteRules =>
    exact forall₂_map_map (fun _ => ⟨rfl, sameFor_add r.target t _⟩) _
  | indexes => exact forall₂_map_map (fun i => ⟨rfl, sameFor_indexSql r.target t i⟩) _

/-- The statements without their objects. -/
theorem map_sql_sameFor {t t' : TargetTable} {ss ss' : List Statement}
    (h : List.Forall₂ (Statement.SameFor t t') ss ss') :
    List.Forall₂ (SameFor t t') (ss.map Statement.sql) (ss'.map Statement.sql) :=
  List.rel_map (fun _ _ h => h.sql) h

/-! ### One part of a bundle -/

section
variable {r t tableOption} {b b' : Bundle} (h : r.synthesize = .ok b)
  (h' : (r.forTarget t tableOption).synthesize = .ok b')
include h h'

/-- The statements that can be applied after CREATE TABLE. -/
theorem primary_sameFor : List.Forall₂ (SameFor r.target t) b.primary b'.primary := by
  have hkeys : List.Forall₂ (SameFor r.target t) r.uniqueKeyStatements
      (r.forTarget t tableOption).uniqueKeyStatements :=
    forall₂_map_map (fun _ => sameFor_add r.target t _) r.table.uniqueKeys
  have hindexes : List.Forall₂ (SameFor r.target t) (r.table.portableIndexes.map (·.sql r.target))
      (r.table.portableIndexes.map (·.sql t)) :=
    forall₂_map_map (sameFor_indexSql r.target t) _
  have hchecks := map_sql_sameFor (r.checkStatements_sameFor t tableOption)
  have hforeign := r.keyStatements_sameFor t tableOption r.handledKeys
  rw [synthesize_primary h, synthesize_primary h']
  -- the version, which is the same, decides whether checks and foreign keys are here
  refine List.rel_append (List.rel_append (List.rel_append hkeys hindexes) ?_) ?_
  · show List.Forall₂ _ (if r.reviewsChecks then _ else _) (if r.reviewsChecks then _ else _)
    split
    · exact .nil
    · exact hchecks
  · show List.Forall₂ _ (if r.reviewsForeignKeys then _ else _)
      (if r.reviewsForeignKeys then _ else _)
    split
    · exact .nil
    · exact hforeign

/-- The groups, in the same order and of the same kinds. -/
theorem groups_sameFor : List.Forall₂ (Group.SameFor r.target t) b.groups b'.groups := by
  rw [synthesize_groups h, synthesize_groups h']
  refine List.rel_flatMap (R := (· = ·)) (List.forall₂_refl groupOrder) ?_
  rintro kind _ rfl
  exact groupOf_sameFor kind (map_sql_sameFor (r.toReview_sameFor t tableOption kind))

/-- The warnings, which name objects of the catalog only. -/
theorem warnings_forTarget : b.warnings = b'.warnings := by
  -- the warning about a check is made of its name and not of its statement
  have hchecks : r.checkStatements.map r.checkWarning
      = (r.forTarget t tableOption).checkStatements.map r.checkWarning := by
    rw [← List.forall₂_eq_eq_eq]
    refine List.rel_map (fun s s' hs => ?_) (r.checkStatements_sameFor t tableOption)
    rw [checkWarning, checkWarning, hs.object]
  rw [synthesize_warnings h, synthesize_warnings h', hchecks]
  rfl

end

/-- The clause of a column is that of the type that the rules for the source table give it. -/
theorem columnClause_eq_ok_iff {c : Column} {clause : String} :
    r.columnClause c = .ok clause ↔
      ∃ t, c.resolve r.table.name r.rules = .ok t ∧ clause = c.clause t.target := by
  rw [columnClause, bind_eq_ok_iff]
  refine exists_congr fun t => and_congr_right fun _ => ?_
  exact ⟨fun h => (Except.ok.inj h).symm, fun h => congrArg Except.ok h.symm⟩

variable {r} in
/-- What the CREATE TABLE statement of a bundle is made of. -/
theorem synthesize_createTable {b : Bundle} (h : r.synthesize = .ok b) :
    ∃ columns key comment, r.table.columns.mapM r.columnClause = .ok columns ∧
      r.primaryKey = .ok key ∧ r.comment = .ok comment ∧
      b.createTable = r.createTable (columns ++ key.toList) comment := by
  obtain ⟨p, hp, rfl⟩ := synthesize_eq_ok h
  obtain ⟨-, hcomment, hcolumns, hkey, -⟩ := parts_eq_ok hp
  exact ⟨p.columns, p.primaryKey, p.comment, hcolumns, hkey, hcomment, rfl⟩

/-! ### The whole bundle -/

/-- If both requests have bundles, these are bundles of one translation. -/
theorem sameTranslation_forTarget {b b' : Bundle} (h : r.synthesize = .ok b)
    (h' : (r.forTarget t tableOption).synthesize = .ok b') :
    SameTranslation r (r.forTarget t tableOption) b b' where
  source := by
    obtain ⟨p, -, rfl⟩ := synthesize_eq_ok h
    obtain ⟨p', -, rfl⟩ := synthesize_eq_ok h'
    rfl
  createTable := by
    obtain ⟨columns, key, comment, hcolumns, hkey, hcomment, hb⟩ := synthesize_createTable h
    obtain ⟨columns', key', comment', hcolumns', hkey', hcomment', hb'⟩ := synthesize_createTable h'
    -- what the second request works out is what the first one does
    obtain rfl : columns = columns' := Except.ok.inj (hcolumns.symm.trans hcolumns')
    obtain rfl : key = key' := Except.ok.inj (hkey.symm.trans hkey')
    obtain rfl : comment = comment' := Except.ok.inj (hcomment.symm.trans hcomment')
    refine ⟨columns, key, comment, ?_, hkey, hcomment, hb, hb'⟩
    exact (mapM_eq_ok_iff.mp hcolumns).imp fun _ _ => r.columnClause_eq_ok_iff.mp
  primary := primary_sameFor h h'
  groups := groups_sameFor h h'
  warnings := warnings_forTarget h h'

/-- They fail with the same fault, or both have bundles. -/
theorem sameOutcome_forTarget :
    SameOutcome (SameTranslation r (r.forTarget t tableOption)) r.synthesize
      (r.forTarget t tableOption).synthesize := by
  have hfirst := r.failsByFirst_synthesize
  have hfirst' := (r.forTarget t tableOption).failsByFirst_synthesize
  rw [defects_forTarget] at hfirst'
  -- the defects are the same list, and its first one decides
  cases h : r.synthesize with
  | error f =>
    have h' : (r.forTarget t tableOption).synthesize = .error f :=
      hfirst'.error_iff.mpr (hfirst.error_iff.mp h)
    rw [h']
    rfl
  | ok b =>
    obtain ⟨b', h'⟩ := hfirst'.ok_iff.mpr (hfirst.ok_iff.mp ⟨b, h⟩)
    rw [h']
    exact r.sameTranslation_forTarget t tableOption h h'

end Request

/-- Bundles of one translation have as many statements, in the primary script and in each
group, and the same kinds of groups. -/
theorem SameTranslation.counts {r r' : Request} {b b' : Bundle} (h : SameTranslation r r' b b') :
    b.primary.length = b'.primary.length ∧
      b.groups.map (fun g => (g.kind, g.statements.length))
        = b'.groups.map fun g => (g.kind, g.statements.length) := by
  refine ⟨h.primary.length_eq, ?_⟩
  rw [← List.forall₂_eq_eq_eq]
  refine List.rel_map (fun g g' hg => ?_) h.groups
  rw [hg.kind, hg.statements.length_eq]

end Ddl

/-! ## Jobs with other names for their tables -/

/-- The same job with other target names and another table option. -/
def Job.renamed (j : Job) (targetSchema : Option String) (renames : List Rename)
    (tableOption : String) : Job :=
  { j with settings := { j.settings with targetSchema, renames, tableOption } }

theorem Job.sameOutcome_renamed (j : Job) (targetSchema : Option String) (renames : List Rename)
    (tableOption name : String) :
    SameOutcome
      (fun b b' => ∃ t, j.snapshot.table j.settings.sourceSchema name = .ok t ∧
        SameTranslation (j.request t) ((j.renamed targetSchema renames tableOption).request t) b b')
      (j.bundle name) ((j.renamed targetSchema renames tableOption).bundle name) := by
  unfold Job.bundle
  show SameOutcome _ _ (j.snapshot.table j.settings.sourceSchema name >>= _)
  cases ht : j.snapshot.table j.settings.sourceSchema name with
  | error f => rfl
  | ok t =>
    -- the other job asks for the same table with another target
    have h := (j.request t).sameOutcome_forTarget
      ((j.renamed targetSchema renames tableOption).request t).target tableOption
    exact h.imp fun b b' hsame => ⟨t, rfl, hsame⟩

/-- **Renaming does not change the translation**: two requests that differ in the target
schema, the target table and the table option have the same fault, or bundles of one
translation, with the same groups and as many statements in each place. The same holds of
every table of a job when its target schema, its renames and its table option change. -/
theorem Ddl.Request.synthesize_forTarget :
    (∀ (r : Request) (t : TargetTable) (tableOption : String),
      SameOutcome
        (fun b b' => SameTranslation r (r.forTarget t tableOption) b b' ∧
          b.primary.length = b'.primary.length ∧
          b.groups.map (fun g => (g.kind, g.statements.length))
            = b'.groups.map fun g => (g.kind, g.statements.length))
        r.synthesize (r.forTarget t tableOption).synthesize) ∧
    ∀ (j : Job) (targetSchema : Option String) (renames : List Rename) (tableOption name : String),
      SameOutcome
        (fun b b' => ∃ t, j.snapshot.table j.settings.sourceSchema name = .ok t ∧
          SameTranslation (j.request t) ((j.renamed targetSchema renames tableOption).request t)
            b b')
        (j.bundle name) ((j.renamed targetSchema renames tableOption).bundle name) :=
  ⟨fun r t tableOption =>
      (r.sameOutcome_forTarget t tableOption).imp fun _ _ hsame => ⟨hsame, hsame.counts⟩,
    Job.sameOutcome_renamed⟩

/-- A rule for the source table applies whatever the table is called in the target. -/
example :
    let rule : CustomRule := ⟨some "ORDERS", "ID", "NUMBER(10)", "INT"⟩
    let r : Request := { Request.orders with rules := ⟨[], [rule]⟩ }
    (r.forTarget ⟨"north", "purchases"⟩ "").synthesize.map Bundle.createTable
      = .ok ("CREATE TABLE `north`.`purchases` (\n  `id` int NOT NULL,\n"
          ++ "  PRIMARY KEY (`id`)\n)") := by
  decide +kernel

end CatalogDdl
