import CatalogDdl.Proofs.Candidates
import CatalogDdl.Proofs.LetterCase

/-!
# The case of names in the catalog does not matter

A table can be described with names in any case, and the statements for it are the same:
names are written in lower case, types are compared in upper case, and rules are matched
up to the case of letters. Whoever sees the scripts of a table cannot tell how its
catalog was spelled.

This is about two syntheses, and it is proved step by step for both at once. Steps that
fail may word their faults differently, because a fault shows names as the catalog
spells them; that they fail for the same kind of reason is what is kept.

- `foldLetters`, for everything that a request is made of: the same with the letters A to Z
  of its names in lower case. Two requests that this makes equal are spellings of one.
- `EndAlike`: two steps fail with the same kind of fault, or have related results. It is
  followed through a synthesis by `EndAlike.bind` and `EndAlike.mapM`.
- `SameScripts`: two bundles have the same statements in the same places.
- `Request.synthesize_foldLetters`: a synthesis ends like that of the request in small letters.
- `Request.synthesize_spelling`: two spellings of a request end alike.
-/

namespace CatalogDdl

open Ddl

/-! ## Steps that end alike -/

/-- Two steps end alike: with related results, or with faults of one kind. -/
inductive EndAlike {α β : Type} (R : α → β → Prop) : Except Fault α → Except Fault β → Prop
  | ok {a : α} {b : β} (h : R a b) : EndAlike R (.ok a) (.ok b)
  | error {f g : Fault} (h : f.ctorIdx = g.ctorIdx) : EndAlike R (.error f) (.error g)

namespace EndAlike

variable {α β γ δ : Type} {R : α → β → Prop} {S : γ → δ → Prop}

/-- One step after the other ends alike if both do. -/
theorem bind {x : Except Fault α} {y : Except Fault β} {f : α → Except Fault γ}
    {g : β → Except Fault δ} (h : EndAlike R x y) (hnext : ∀ a b, R a b → EndAlike S (f a) (g b)) :
    EndAlike S (x >>= f) (y >>= g) := by
  cases h with
  | ok hab => exact hnext _ _ hab
  | error hfg => exact .error hfg

/-- Related results stay related. -/
theorem map {x : Except Fault α} {y : Except Fault β} {f : α → γ} {g : β → δ}
    (h : EndAlike R x y) (hnext : ∀ a b, R a b → S (f a) (g b)) :
    EndAlike S (x.map f) (y.map g) := by
  cases h with
  | ok hab => exact .ok (hnext _ _ hab)
  | error hfg => exact .error hfg

/-- Going through two lists, one the image of the other, ends alike if every element does. -/
theorem mapM {f : α → Except Fault γ} {g : β → Except Fault δ} {φ : α → β}
    (h : ∀ a, EndAlike S (f a) (g (φ a))) (l : List α) :
    EndAlike (List.Forall₂ S) (l.mapM f) ((l.map φ).mapM g) := by
  induction l with
  | nil => exact .ok List.Forall₂.nil
  | cons a l ih =>
    rw [List.map_cons, List.mapM_cons, List.mapM_cons]
    refine (h a).bind fun c d hcd => ih.bind fun cs ds hcds => ?_
    exact .ok (List.Forall₂.cons hcd hcds)

/-- Steps that both end like a third one end alike. -/
theorem trans_symm {T : α → γ → Prop} {Q : γ → β → Prop} {x : Except Fault α}
    {y : Except Fault β} {z : Except Fault γ} (hxy : EndAlike R x y) (hzy : EndAlike Q z y)
    (hT : ∀ a b c, R a b → Q c b → T a c) : EndAlike T x z := by
  -- the step in the middle has one end, and both others end like it
  cases hxy with
  | ok hab =>
    cases hzy with
    | ok hcb => exact .ok (hT _ _ _ hab hcb)
  | error hfg =>
    cases hzy with
    | error heg => exact .error (hfg.trans heg.symm)

end EndAlike

/-! ## Rules and types -/

/-- A rule with small letters in its source type. -/
def PlanRule.foldLetters (r : PlanRule) : PlanRule :=
  { r with sourceType := Text.foldLetters r.sourceType }

/-- A rule with small letters in its table, its column and its source type. -/
def CustomRule.foldLetters (r : CustomRule) : CustomRule :=
  { r with
    table := r.table.map Text.foldLetters
    column := Text.foldLetters r.column
    sourceType := Text.foldLetters r.sourceType }

def OverrideRules.foldLetters (rules : OverrideRules) : OverrideRules where
  plan := rules.plan.map PlanRule.foldLetters
  custom := rules.custom.map CustomRule.foldLetters

/-- A custom rule matches the same columns, however both are spelled. -/
theorem CustomRule.matches_foldLetters (r : CustomRule) (table column origin : String) :
    r.foldLetters.matches (Text.foldLetters table) (Text.foldLetters column) origin =
      r.matches table column origin := by
  have hconcerns : r.foldLetters.concerns (Text.foldLetters table) = r.concerns table := by
    unfold CustomRule.concerns CustomRule.foldLetters
    cases r.table with
    | none => rfl
    | some t => exact Text.equalsIgnoringCase_foldLetters t table
  unfold CustomRule.matches
  rw [hconcerns]
  simp [CustomRule.foldLetters]

/-- The targets of the matching custom rules are the same, for targets are no names. -/
theorem OverrideRules.customTargets_foldLetters (rules : OverrideRules)
    (table column origin : String) :
    rules.foldLetters.customTargets (Text.foldLetters table) (Text.foldLetters column) origin =
      rules.customTargets table column origin := by
  unfold customTargets OverrideRules.foldLetters
  rw [List.filter_map, List.map_map]
  refine congrArg (List.map _) (List.filter_congr fun r _ => ?_)
  exact r.matches_foldLetters table column origin

/-- Plan rules are compared by the normal form of their type. -/
theorem OverrideRules.planTargets_foldLetters (rules : OverrideRules) (origin : String) :
    rules.foldLetters.planTargets origin = rules.planTargets origin := by
  unfold planTargets OverrideRules.foldLetters
  rw [List.filter_map, List.map_map]
  refine congrArg (List.map _) (List.filter_congr fun r _ => ?_)
  simp [PlanRule.matches, PlanRule.foldLetters]

/-- A built-in type is found by the normal form of its name. -/
theorem builtinType_foldLetters (dataType : String) (a : TypeAttributes) :
    builtinType (Text.foldLetters dataType) a = builtinType dataType a := by
  unfold builtinType
  rw [TypeName.normalize_foldLetters]

/-! ## Columns -/

namespace Column

/-- A column with small letters in its name and its type. -/
def foldLetters (c : Column) : Column :=
  { c with name := Text.foldLetters c.name, dataType := Text.foldLetters c.dataType }

theorem number_foldLetters (c : Column) (table : String) (field : NumericField) (value : String) :
    EndAlike Eq (c.number table field value)
      (c.foldLetters.number (Text.foldLetters table) field value) := by
  unfold number
  cases Text.readInt64? (Text.trim value) with
  | none => exact .error rfl
  | some i => exact .ok rfl

/-- Numbers are read the same; the fault for one that is none names the column as it is spelled. -/
theorem attributes_foldLetters (c : Column) (table : String) :
    EndAlike Eq (c.attributes table) (c.foldLetters.attributes (Text.foldLetters table)) := by
  unfold attributes
  -- each number is read like its counterpart, in the same order
  refine (c.number_foldLetters table .length c.length).bind ?_
  rintro length _ rfl
  refine (c.number_foldLetters table .precision c.precision).bind ?_
  rintro precision _ rfl
  refine (c.number_foldLetters table .scale c.scale).bind ?_
  rintro scale _ rfl
  exact .ok rfl

/-- A column gets the same type. -/
theorem resolve_foldLetters (c : Column) (table : String) (rules : OverrideRules) :
    EndAlike Eq (c.resolve table rules)
      (c.foldLetters.resolve (Text.foldLetters table) rules.foldLetters) := by
  unfold resolve
  refine (c.attributes_foldLetters table).bind ?_
  rintro a _ rfl
  have htype : builtinType c.foldLetters.dataType a = builtinType c.dataType a :=
    builtinType_foldLetters c.dataType a
  have hcustom : ∀ origin, rules.foldLetters.customTargets (Text.foldLetters table)
      c.foldLetters.name origin = rules.customTargets table c.name origin :=
    rules.customTargets_foldLetters table c.name
  simp only [htype, hcustom, rules.planTargets_foldLetters]
  -- the same rules match, so either both are in conflict or neither is
  generalize rules.customTargets table c.name _ = custom
  generalize rules.planTargets _ = plan
  match custom, plan with
  | [], [] | [], [_] | [_], [] | [_], [_] => exact .ok rfl
  | _ :: _ :: _, _ => exact .error rfl
  | [], _ :: _ :: _ | [_], _ :: _ :: _ => exact .error rfl

/-- A column has the same clause. -/
theorem clause_foldLetters (c : Column) (target : String) :
    c.foldLetters.clause target = c.clause target := by
  unfold clause
  rw [show c.foldLetters.name = Text.foldLetters c.name from rfl, quoteName_foldLetters]
  rfl

end Column

/-! ## Keys and checks -/

def Key.foldLetters (k : Key) : Key where
  name := Text.foldLetters k.name
  columns := k.columns.map Text.foldLetters

def ForeignKey.foldLetters (k : ForeignKey) : ForeignKey where
  name := Text.foldLetters k.name
  columns := k.columns.map Text.foldLetters
  owner := Text.foldLetters k.owner
  table := Text.foldLetters k.table
  tableColumns := k.tableColumns.map Text.foldLetters
  deleteRule := Text.foldLetters k.deleteRule

/-- A check with small letters in its name. Its predicate is an expression and stays as it is. -/
def Check.foldLetters (c : Check) : Check := { c with name := Text.foldLetters c.name }

def Ddl.TargetTable.foldLetters (t : TargetTable) : TargetTable where
  schema := Text.foldLetters t.schema
  name := Text.foldLetters t.name

@[simp] theorem Ddl.TargetTable.quoted_foldLetters (t : TargetTable) :
    t.foldLetters.quoted = t.quoted := by
  simp [TargetTable.quoted, TargetTable.foldLetters, quoteTable]

@[simp] theorem Ddl.TargetTable.add_foldLetters (t : TargetTable) (clause : String) :
    t.foldLetters.add clause = t.add clause :=
  congrArg (fun quoted => "ALTER TABLE " ++ quoted ++ " ADD " ++ clause) t.quoted_foldLetters

/-- The statement of a unique key. -/
theorem Key.uniqueStatement_foldLetters (k : Key) (t : TargetTable) :
    k.foldLetters.uniqueStatement t.foldLetters = k.uniqueStatement t := by
  simp [Key.uniqueStatement, Key.foldLetters]

/-- Whether a delete rule has a counterpart is decided in upper case. -/
theorem ForeignKey.isHandled_foldLetters (k : ForeignKey) :
    k.foldLetters.rule.isHandled = k.rule.isHandled := by
  simp [ForeignKey.rule, ForeignKey.foldLetters, isHandled_ofText]

/-- A rule without a counterpart keeps its own spelling, but it has no clause. -/
theorem Ddl.DeleteRule.clause_foldLetters (s : String) :
    (ofText (Text.foldLetters s)).clause = (ofText s).clause := by
  have hnone : ∀ name, (unhandled name).clause = "" := fun _ => rfl
  unfold ofText
  simp only [Text.trim_foldLetters, Text.upper_foldLetters, apply_ite clause, hnone]

/-- The statement of a foreign key. -/
theorem ForeignKey.statement_foldLetters (k : ForeignKey) (t : TargetTable) :
    k.foldLetters.statement t.foldLetters = k.statement t := by
  have hclause : k.foldLetters.rule.clause = k.rule.clause :=
    DeleteRule.clause_foldLetters k.deleteRule
  unfold ForeignKey.statement
  rw [hclause]
  simp [ForeignKey.foldLetters, ForeignKey.reference, quoteTable]

/-- The statement of a check, whose predicate is the same in both. -/
theorem Check.statement?_foldLetters (c : Check) (t : TargetTable) :
    c.foldLetters.statement? t.foldLetters = c.statement? t := by
  simp [Check.statement?, Check.foldLetters]

/-! ## Indexes -/

/-- A kind with small letters in its name. The known kinds have no other name. -/
def IndexKind.foldLetters : IndexKind → IndexKind
  | .other name => .other (Text.foldLetters name)
  | kind => kind

/-- Texts that are spellings of each other name spellings of one kind. -/
theorem IndexKind.foldLetters_ofText {s t : String} (h : Text.foldLetters s = Text.foldLetters t) :
    (IndexKind.ofText s).foldLetters = (IndexKind.ofText t).foldLetters := by
  have hname : Text.upper (Text.trim s) = Text.upper (Text.trim t) := by
    rw [← Text.upper_foldLetters (Text.trim s), ← Text.trim_foldLetters, h, Text.trim_foldLetters,
      Text.upper_foldLetters]
  unfold IndexKind.ofText
  rw [hname]
  dsimp only
  generalize Text.upper (Text.trim t) = name
  split_ifs
  · rfl
  · rfl
  · rfl
  · exact congrArg IndexKind.other h

def KeyPart.foldLetters : KeyPart → KeyPart
  | .expression text => .expression (Text.foldLetters text)
  | .column name => .column (Text.foldLetters name)

/-- A position is one in both spellings, or in neither. -/
theorem keyPart?_foldLetters (column expression : String) :
    keyPart? (Text.foldLetters column) (Text.foldLetters expression) =
      (keyPart? column expression).map KeyPart.foldLetters := by
  unfold keyPart?
  rw [Text.isBlankText_foldLetters, Text.isBlankText_foldLetters, Text.trim_foldLetters,
    Text.trim_foldLetters]
  split_ifs <;> rfl

/-- The same positions are indexed, whatever the lengths of the two lists. -/
theorem keyPartsOf_foldLetters (columns expressions : List String) :
    keyPartsOf (columns.map Text.foldLetters) (expressions.map Text.foldLetters) =
      (keyPartsOf columns expressions).map KeyPart.foldLetters := by
  -- what is missing beyond the end of a list is the empty text in both spellings
  have hempty : Text.foldLetters "" = "" := by decide +kernel
  fun_induction keyPartsOf columns expressions with
  | case1 es =>
    have hpart := keyPart?_foldLetters ""
    rw [hempty] at hpart
    rw [List.map_nil, keyPartsOf, List.filterMap_map, List.map_filterMap]
    refine List.filterMap_congr fun e _ => ?_
    rw [Function.comp_apply, hpart]
  | case2 c cs ih =>
    have hpart := keyPart?_foldLetters c ""
    rw [hempty] at hpart
    show (keyPart? (Text.foldLetters c) "").toList ++ _ = _
    rw [hpart, List.map_append, ← ih]
    cases keyPart? c "" <;> rfl
  | case3 c cs e es ih =>
    show (keyPart? (Text.foldLetters c) (Text.foldLetters e)).toList ++ _ = _
    rw [keyPart?_foldLetters, List.map_append, ← ih]
    cases keyPart? c e <;> rfl

/-- A position is written the same: names and expressions are put into lower case. -/
theorem renderKeyPart_foldLetters (part : KeyPart) :
    renderKeyPart part.foldLetters = renderKeyPart part := by
  cases part with
  | column name => exact quoteName_foldLetters name
  | expression text =>
    show "(" ++ renderExpression (Text.foldLetters text) ++ ")" = _
    unfold renderExpression
    rw [Text.toList_foldLetters, Text.lowerChars_lowerAscii]
    rfl

/-- Two statements of indexes are the same but for what their warnings say. -/
def Ddl.IndexStatement.SameSql (s t : IndexStatement) : Prop :=
  s.portable? = t.portable? ∧ s.review? = t.review?

namespace Index

def foldLetters (i : Index) : Index where
  name := Text.foldLetters i.name
  uniqueness := i.uniqueness
  kind := i.kind.foldLetters
  columns := i.columns.map Text.foldLetters
  expressions := i.expressions.map Text.foldLetters

theorem keyParts_foldLetters (i : Index) :
    i.foldLetters.keyParts = i.keyParts.map KeyPart.foldLetters :=
  keyPartsOf_foldLetters i.columns i.expressions

/-- The words of a CREATE INDEX around its positions. -/
theorem createIndex_foldLetters (words : String) (i : Index) (t : TargetTable)
    (positions : String) :
    createIndex words i.foldLetters t.foldLetters positions = createIndex words i t positions := by
  show "CREATE " ++ words ++ "INDEX " ++ quoteName (Text.foldLetters i.name) ++ " ON "
    ++ t.foldLetters.quoted ++ "(" ++ positions ++ ")" = _
  rw [quoteName_foldLetters, TargetTable.quoted_foldLetters]
  rfl

/-- An index has the same statement, or none for the same kind of reason. -/
theorem statement_foldLetters (i : Index) (table : String) (t : TargetTable)
    (expected : Uniqueness) :
    EndAlike IndexStatement.SameSql (i.statement table t expected)
      (i.foldLetters.statement (Text.foldLetters table) t.foldLetters expected) := by
  have hempty : i.foldLetters.keyParts.isEmpty = i.keyParts.isEmpty := by
    rw [keyParts_foldLetters, List.isEmpty_map]
  have hpositions : Text.joinWith "," (i.foldLetters.keyParts.map renderKeyPart) =
      Text.joinWith "," (i.keyParts.map renderKeyPart) := by
    rw [keyParts_foldLetters, List.map_map]
    exact congrArg _ (List.map_congr_left fun part _ => renderKeyPart_foldLetters part)
  have hcolumns : quoteNames i.foldLetters.columns = quoteNames i.columns :=
    quoteNames_foldLetters i.columns
  unfold Index.statement
  rw [show i.foldLetters.uniqueness = i.uniqueness from rfl, hempty]
  -- the tests before the kind is looked at come out the same
  split_ifs
  · exact .error rfl
  · exact .error rfl
  · rw [hpositions, hcolumns]
    simp only [createIndex_foldLetters]
    rw [show i.foldLetters.kind = i.kind.foldLetters from rfl]
    cases i.kind with
    | normal => exact .ok ⟨rfl, rfl⟩
    | functionBased => exact .ok ⟨rfl, rfl⟩
    | bitmap => exact .ok ⟨rfl, rfl⟩
    | other name => exact .error rfl

end Index

/-! ## Tables and requests -/

/-- A table with small letters in the names of all it has. Comments are no names. -/
def Table.foldLetters (t : Table) : Table where
  name := Text.foldLetters t.name
  comments := t.comments
  columns := t.columns.map Column.foldLetters
  primaryKeys := t.primaryKeys.map Key.foldLetters
  uniqueKeys := t.uniqueKeys.map Key.foldLetters
  foreignKeys := t.foreignKeys.map ForeignKey.foldLetters
  checks := t.checks.map Check.foldLetters
  uniqueIndexes := t.uniqueIndexes.map Index.foldLetters
  normalIndexes := t.normalIndexes.map Index.foldLetters

namespace Ddl

/-- Two bundles have the same CREATE TABLE, and the same statements in the same places. -/
def SameScripts (b c : Bundle) : Prop :=
  b.createTable = c.createTable ∧ b.primary = c.primary ∧ b.groups = c.groups

namespace Request

/-- A request with small letters in the names of its table, its target and its rules. -/
def foldLetters (r : Request) : Request :=
  { r with
    targetSchema := Text.foldLetters r.targetSchema
    targetTable := Text.foldLetters r.targetTable
    table := r.table.foldLetters
    rules := r.rules.foldLetters }

variable (r : Request)

theorem target_foldLetters : r.foldLetters.target = r.target.foldLetters := rfl

/-! ### What can fail -/

/-- What the first half of two syntheses worked out is the same but for warnings. -/
def SameParts (p q : Parts) : Prop :=
  p.comment = q.comment ∧ p.columns = q.columns ∧ p.primaryKey = q.primaryKey ∧
    List.Forall₂ IndexStatement.SameSql p.indexes q.indexes

theorem requireColumns_foldLetters :
    EndAlike Eq r.requireColumns r.foldLetters.requireColumns := by
  unfold requireColumns
  rw [show r.foldLetters.table.columns = r.table.columns.map Column.foldLetters from rfl,
    List.isEmpty_map]
  cases r.table.columns.isEmpty with
  | true => exact .error rfl
  | false => exact .ok rfl

theorem comment_foldLetters : EndAlike Eq r.comment r.foldLetters.comment := by
  unfold comment
  rw [show r.foldLetters.table.comments = r.table.comments from rfl]
  match r.table.comments with
  | [] | [_] => exact .ok rfl
  | _ :: _ :: _ => exact .error rfl

/-- The clause of a column, if it gets a type. -/
theorem columnClause_foldLetters (c : Column) :
    EndAlike Eq (r.columnClause c) (r.foldLetters.columnClause c.foldLetters) := by
  unfold columnClause
  refine (c.resolve_foldLetters r.table.name r.rules).bind ?_
  rintro t _ rfl
  rw [c.clause_foldLetters]
  exact .ok rfl

theorem primaryKey_foldLetters : EndAlike Eq r.primaryKey r.foldLetters.primaryKey := by
  unfold primaryKey
  rw [show r.foldLetters.table.primaryKeys = r.table.primaryKeys.map Key.foldLetters from rfl]
  match r.table.primaryKeys with
  | [] => exact .ok rfl
  | [k] =>
    have hcolumns : quoteNames k.foldLetters.columns = quoteNames k.columns :=
      quoteNames_foldLetters k.columns
    refine .ok ?_
    rw [hcolumns]
  | _ :: _ :: _ => exact .error rfl

theorem indexStatements_foldLetters (expected : Uniqueness) (indexes : List Index) :
    EndAlike (List.Forall₂ IndexStatement.SameSql) (r.indexStatements expected indexes)
      (r.foldLetters.indexStatements expected (indexes.map Index.foldLetters)) :=
  EndAlike.mapM (fun i => i.statement_foldLetters r.table.name r.target expected) indexes

/-- The part of a synthesis that can fail does so in both spellings or in neither. -/
theorem parts_foldLetters : EndAlike SameParts r.parts r.foldLetters.parts := by
  unfold parts
  -- the steps are made in the same order, so the first failure is the same
  refine r.requireColumns_foldLetters.bind fun _ _ _ => ?_
  refine r.comment_foldLetters.bind ?_
  rintro comment _ rfl
  refine (EndAlike.mapM r.columnClause_foldLetters r.table.columns).bind ?_
  intro columns columns' hcolumns
  refine r.primaryKey_foldLetters.bind ?_
  rintro primaryKey _ rfl
  refine (r.indexStatements_foldLetters .unique r.table.uniqueIndexes).bind ?_
  intro unique unique' hunique
  refine (r.indexStatements_foldLetters .nonunique r.table.normalIndexes).bind ?_
  intro normal normal' hnormal
  exact .ok ⟨rfl, List.forall₂_eq_eq_eq ▸ hcolumns, rfl, List.rel_append hunique hnormal⟩

/-! ### What cannot -/

theorem filterMap_eq_of_forall₂ {α β : Type} {f : α → Option β} {l m : List α}
    (h : List.Forall₂ (fun a b => f a = f b) l m) : l.filterMap f = m.filterMap f := by
  -- the lists have the same length, and what is kept of each place is the same
  induction h with
  | nil => rfl
  | cons hab _ ih => rw [List.filterMap_cons, List.filterMap_cons, hab, ih]

/-- The CREATE TABLE statement. -/
theorem createTable_foldLetters (clauses : List String) (comment : String) :
    r.foldLetters.createTable clauses comment = r.createTable clauses comment := by
  unfold createTable
  rw [target_foldLetters, TargetTable.quoted_foldLetters]
  rfl

theorem uniqueKeyStatements_foldLetters :
    r.foldLetters.uniqueKeyStatements = r.uniqueKeyStatements := by
  show (r.table.uniqueKeys.map Key.foldLetters).map _ = _
  rw [List.map_map]
  exact List.map_congr_left fun k _ => k.uniqueStatement_foldLetters r.target

/-- The statements of the checks, without the names that warnings show. -/
theorem sql_checkStatements_foldLetters :
    r.foldLetters.checkStatements.map Statement.sql = r.checkStatements.map Statement.sql := by
  rw [map_sql_checkStatements, map_sql_checkStatements]
  show (r.table.checks.map Check.foldLetters).filterMap _ = _
  rw [List.filterMap_map]
  exact congrArg (List.filterMap · r.table.checks)
    (funext fun c => c.statement?_foldLetters r.target)

/-- The statements of the foreign keys whose delete rule passes a test that does not read case. -/
theorem keyStatements_foldLetters {test : ForeignKey → Bool}
    (htest : ∀ k : ForeignKey, test k.foldLetters = test k) :
    r.foldLetters.keyStatements (r.foldLetters.table.foreignKeys.filter test) =
      r.keyStatements (r.table.foreignKeys.filter test) := by
  show ((r.table.foreignKeys.map ForeignKey.foldLetters).filter test).map _ = _
  rw [List.filter_map, List.map_map, show test ∘ ForeignKey.foldLetters = test from funext htest]
  exact List.map_congr_left fun k _ => k.statement_foldLetters r.target

/-- The part of a synthesis that cannot fail puts the same statements in the same places. -/
theorem place_foldLetters {p q : Parts} (h : SameParts p q) :
    SameScripts (r.place p) (r.foldLetters.place q) := by
  obtain ⟨hcomment, hcolumns, hkey, hindexes⟩ := h
  have hportable : p.indexes.filterMap IndexStatement.portable? =
      q.indexes.filterMap IndexStatement.portable? :=
    filterMap_eq_of_forall₂ (hindexes.imp fun _ _ hsql => hsql.1)
  have hreview : p.indexes.filterMap IndexStatement.review? =
      q.indexes.filterMap IndexStatement.review? :=
    filterMap_eq_of_forall₂ (hindexes.imp fun _ _ hsql => hsql.2)
  have hhandled : r.foldLetters.keyStatements r.foldLetters.handledKeys =
      r.keyStatements r.handledKeys :=
    r.keyStatements_foldLetters fun k => k.isHandled_foldLetters
  have hunhandled : r.foldLetters.keyStatements r.foldLetters.unhandledKeys =
      r.keyStatements r.unhandledKeys :=
    r.keyStatements_foldLetters fun k => congrArg (!·) k.isHandled_foldLetters
  refine ⟨?_, ?_, ?_⟩
  · show r.createTable _ _ = r.foldLetters.createTable _ _
    rw [createTable_foldLetters, hcomment, hcolumns, hkey]
  · show r.primaryStatements _ = r.foldLetters.primaryStatements _
    unfold primaryStatements
    rw [uniqueKeyStatements_foldLetters, sql_checkStatements_foldLetters, hportable, hhandled]
    rfl
  · show r.reviewGroups _ = r.foldLetters.reviewGroups _
    unfold reviewGroups
    rw [sql_checkStatements_foldLetters, hreview, hhandled, hunhandled]
    rfl

/-! ### Spellings -/

/-- A synthesis ends like that of the request in small letters. -/
theorem synthesize_foldLetters :
    EndAlike SameScripts r.synthesize r.foldLetters.synthesize := by
  rw [synthesize_eq, synthesize_eq]
  exact r.parts_foldLetters.map fun _ _ hparts => r.place_foldLetters hparts

/-- **Case of names**: two spellings of a request fail for the same kind of reason, or both get
the same statements in the same places. An index whose kind is written in another case is
the same index, spelled differently. -/
theorem synthesize_spelling {r q : Request} (h : r.foldLetters = q.foldLetters) :
    EndAlike SameScripts r.synthesize q.synthesize ∧
      ∀ (i : Index) (s t : String), Text.equalsIgnoringCase s t = true →
        Index.foldLetters { i with kind := .ofText s } =
          Index.foldLetters { i with kind := .ofText t } := by
  constructor
  · have hr := r.synthesize_foldLetters
    have hq := q.synthesize_foldLetters
    rw [← h] at hq
    refine hr.trans_symm hq ?_
    intro b d c hb hc
    exact ⟨hb.1.trans hc.1.symm, hb.2.1.trans hc.2.1.symm, hb.2.2.trans hc.2.2.symm⟩
  · intro i s t hst
    have hkind : (IndexKind.ofText s).foldLetters = (IndexKind.ofText t).foldLetters :=
      IndexKind.foldLetters_ofText (Text.equalsIgnoringCase_iff.mp hst)
    simp only [Index.foldLetters, hkind]

/-- The table of `orders` with some of its names spelled in another way. -/
def respelledTable : Table :=
  { ordersTable with
    name := "Orders"
    columns := [{ name := "id", dataType := "Number", nullable := "N", precision := "10" }]
    foreignKeys := [⟨"fk_A", ["iD"], "Marvin", "a", ["id"], "Cascade"⟩,
      ⟨"FK_b", ["ID"], "marvin", "B", ["Id"], "set default"⟩]
    uniqueIndexes := [⟨"ux_id", .unique, .ofText "function-based normal", [], ["abs(\"Id\")"]⟩] }

def respelledOrders : Request :=
  { orders with targetSchema := "STEVEN", table := respelledTable }

/-- A table and its keys, its index and its target, spelled in two ways. -/
theorem orders_spelling :
    orders.foldLetters = respelledOrders.foldLetters ∧
      ∃ b c, orders.synthesize = .ok b ∧ respelledOrders.synthesize = .ok c ∧ SameScripts b c := by
  -- each part is the same in small letters, and so is the whole
  have hname : Text.foldLetters "ORDERS" = Text.foldLetters "Orders" := by decide +kernel
  have hcolumns : ordersTable.columns.map Column.foldLetters =
      respelledTable.columns.map Column.foldLetters := by decide +kernel
  have hkeys : ordersTable.foreignKeys.map ForeignKey.foldLetters =
      respelledTable.foreignKeys.map ForeignKey.foldLetters := by decide +kernel
  have hindexes : ordersTable.uniqueIndexes.map Index.foldLetters =
      respelledTable.uniqueIndexes.map Index.foldLetters := by decide +kernel
  have hschema : Text.foldLetters "steven" = Text.foldLetters "STEVEN" := by decide +kernel
  have htable : ordersTable.foldLetters = respelledTable.foldLetters := by
    unfold Table.foldLetters
    rw [hcolumns, hkeys, hindexes, show ordersTable.name = "ORDERS" from rfl, hname]
    rfl
  have hspelled : orders.foldLetters = respelledOrders.foldLetters := by
    simp only [foldLetters, respelledOrders, orders, htable, hschema]
  obtain ⟨b, hb⟩ : ∃ b, orders.synthesize = .ok b := ⟨_, rfl⟩
  obtain ⟨c, hc⟩ : ∃ c, respelledOrders.synthesize = .ok c := ⟨_, rfl⟩
  have hsame := (synthesize_spelling hspelled).1
  rw [hb, hc] at hsame
  cases hsame with
  | ok hscripts => exact ⟨hspelled, b, c, hb, hc, hscripts⟩

end Request

end Ddl

end CatalogDdl
