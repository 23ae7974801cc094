import CatalogDdl.Proofs.Conservation
import CatalogDdl.Proofs.QuotedNames
import CatalogDdl.Proofs.TableLookup

/-!
# The tables that foreign keys refer to

Two statements name a table by itself: the CREATE TABLE statement of the table, and a
foreign key of another table that refers to it. The first one is about the target of the
run, and it names the target schema. The second one keeps the owner that the catalog has
for the referenced table. So a foreign key refers to a table that is created in the same
run, under the name that it has in the source, iff the target schema is the source schema.

What a statement says is read off its text, in the way a server reads it: an identifier
is skipped as a whole, so that nothing inside of it is taken for a word.

- `skipTo`, `tableAfter?`: the table that is named after a word.
- `absentIn`: a word can be looked for behind a text. `skipTo_append` goes past such a
  text, `skipTo_quoteNames_append` past a list of names.
- `ForeignKey.tableAfter?_statement`, `Request.tableAfter?_createTable`: the tables that
  the two statements name.
- `Job.RefersToCreated`: every foreign key inside the schema refers to a created table.
- `Job.reference_created`: when that is so for a foreign key.
-/

namespace CatalogDdl

namespace Ddl

/-! ## Reading a statement -/

/-- What follows the first place outside of identifiers where a word stands. -/
def skipTo (word : List Char) : List Char → Option (List Char)
  | [] => none
  | c :: cs =>
    match word.isPrefixOf? (c :: cs) with
    | some rest => some rest
    | none =>
      match _ : readName (c :: cs) with
      | some (_, rest) => skipTo word rest
      | none => skipTo word cs
termination_by cs => cs.length
decreasing_by
  · exact length_lt_of_readName ‹_›
  · exact Nat.lt_succ_self _

/-- A schema and a table with a dot between them, at the beginning of a text. -/
def readTable (cs : List Char) : Option (List Char × List Char) :=
  match readName cs with
  | some (schema, c :: rest) =>
    if c = '.' then (readName rest).map fun r => (schema, r.1) else none
  | _ => none

/-- The schema and the name of the table after a word of a statement. -/
def tableAfter? (word statement : String) : Option (String × String) :=
  ((skipTo word.toList statement.toList).bind readTable).map fun r =>
    (String.ofList r.1, String.ofList r.2)

/-- A text without identifiers in which a word does not stand, not even with its beginning
at the end of the text. -/
def absentIn (word : List Char) : List Char → Bool
  | [] => true
  | c :: cs =>
    c != backtick && !word.isPrefixOf (c :: cs) && !(c :: cs).isPrefixOf word && absentIn word cs

variable {word cs name rest lit : List Char}

/-- A character that begins neither the word nor an identifier is skipped. -/
theorem skipTo_cons {c : Char} (hword : word.isPrefixOf? (c :: cs) = none)
    (hname : readName (c :: cs) = none) : skipTo word (c :: cs) = skipTo word cs := by
  rw [skipTo]
  split
  · rename_i hsome
    rw [hword] at hsome
    cases hsome
  · split
    · rename_i hsome
      rw [hname] at hsome
      cases hsome
    · rfl

/-- An identifier is skipped as a whole. -/
theorem skipTo_of_readName (hword : word.isPrefixOf? cs = none)
    (hname : readName cs = some (name, rest)) : skipTo word cs = skipTo word rest := by
  cases cs with
  | nil => cases hname
  | cons c cs =>
    rw [skipTo]
    split
    · rename_i hsome
      rw [hword] at hsome
      cases hsome
    · split
      · rename_i hsome
        rw [hname] at hsome
        cases hsome
        rfl
      · rename_i hnone
        rw [hname] at hnone
        cases hnone

/-- What begins with an absent text does not begin with the word. -/
theorem isPrefixOf?_append_of_absentIn {c : Char} (h : absentIn word (c :: cs) = true)
    (rest : List Char) : word.isPrefixOf? (c :: cs ++ rest) = none := by
  simp only [absentIn, Bool.and_eq_true, Bool.not_eq_true'] at h
  obtain ⟨⟨⟨-, hword⟩, htext⟩, -⟩ := h
  by_contra hne
  obtain ⟨more, hmore⟩ := Option.ne_none_iff_exists'.mp hne
  have happend := List.isPrefixOf?_eq_some_iff_append_eq.mp hmore
  -- of two beginnings of one text one is a beginning of the other
  rcases List.prefix_or_prefix_of_prefix ⟨more, happend⟩ ⟨rest, rfl⟩ with hbegins | hbegins
  · rw [List.isPrefixOf_iff_prefix.mpr hbegins] at hword
    cases hword
  · rw [List.isPrefixOf_iff_prefix.mpr hbegins] at htext
    cases htext

/-- A text in which the word is absent is skipped. -/
theorem skipTo_append (h : absentIn word lit = true) (rest : List Char) :
    skipTo word (lit ++ rest) = skipTo word rest := by
  induction lit with
  | nil => rfl
  | cons c cs ih =>
    have hword := isPrefixOf?_append_of_absentIn h rest
    simp only [absentIn, Bool.and_eq_true, bne_iff_ne] at h
    obtain ⟨⟨⟨hc, -⟩, -⟩, hcs⟩ := h
    have hname : readName (c :: (cs ++ rest)) = none := if_neg hc
    exact (skipTo_cons hword hname).trans (ih hcs)

section Word

-- a word that does not begin like an identifier
variable {w : Char} {ws : List Char} (hw : w ≠ backtick)

/-- A word is found where it stands. -/
theorem skipTo_word (rest : List Char) : skipTo (w :: ws) (w :: ws ++ rest) = some rest := by
  have hfound : (w :: ws).isPrefixOf? (w :: ws ++ rest) = some rest :=
    List.isPrefixOf?_eq_some_iff_append_eq.mpr rfl
  rw [List.cons_append] at hfound ⊢
  rw [skipTo, hfound]

include hw

/-- A name is skipped with the text after it. -/
theorem skipTo_quoteName_append (hlit : absentIn (w :: ws) lit = true) (hne : lit ≠ [])
    (s : String) (rest : List Char) :
    skipTo (w :: ws) ((quoteName s).toList ++ (lit ++ rest)) = skipTo (w :: ws) rest := by
  have hhead : (lit ++ rest).head? ≠ some backtick := by
    cases lit with
    | nil => exact absurd rfl hne
    | cons c cs =>
      simp only [absentIn, Bool.and_eq_true, bne_iff_ne] at hlit
      intro heq
      exact hlit.1.1.1 (Option.some.inj heq)
  have hname := readName_quoteChars hhead (foldName s).toList
  have hword : (w :: ws).isPrefixOf? (quoteChars (foldName s).toList ++ (lit ++ rest)) = none := by
    rw [quoteChars, List.cons_append, List.isPrefixOf?, if_neg (by simpa using hw)]
  rw [toList_quoteName, skipTo_of_readName hword hname, skipTo_append hlit]

/-- A list of names is skipped with the text after it. -/
theorem skipTo_quoteNames_append (hcomma : absentIn (w :: ws) [','] = true)
    (hlit : absentIn (w :: ws) lit = true) (hne : lit ≠ []) (names : List String)
    (rest : List Char) :
    skipTo (w :: ws) ((quoteNames names).toList ++ (lit ++ rest)) = skipTo (w :: ws) rest := by
  induction names with
  | nil => exact skipTo_append hlit rest
  | cons s names ih =>
    cases names with
    | nil => exact skipTo_quoteName_append hw hlit hne s rest
    | cons t names =>
      show skipTo (w :: ws)
        ((quoteName s ++ "," ++ quoteNames (t :: names)).toList ++ (lit ++ rest)) = _
      rw [String.toList_append, String.toList_append, List.append_assoc, List.append_assoc,
        show ",".toList = [','] by decide, skipTo_quoteName_append hw hcomma (by decide), ih]

end Word

theorem toList_quoteTable_append (schema table : String) (rest : List Char) :
    (quoteTable schema table).toList ++ rest =
      quoteChars (foldName schema).toList ++
        ('.' :: (quoteChars (foldName table).toList ++ rest)) := by
  unfold quoteTable
  rw [String.toList_append, String.toList_append, toList_quoteName, toList_quoteName,
    show ".".toList = ['.'] by decide, List.append_assoc, List.append_assoc, List.singleton_append]

/-- A table is read as it was written. -/
theorem readTable_quoteTable {rest : List Char} (hrest : rest.head? ≠ some backtick)
    (schema table : String) :
    readTable ((quoteTable schema table).toList ++ rest) =
      some ((foldName schema).toList, (foldName table).toList) := by
  have hdot : ∀ more : List Char, ('.' :: more).head? ≠ some backtick :=
    fun _ heq => absurd (Option.some.inj heq) (by decide)
  simp only [toList_quoteTable_append, readTable, readName_quoteChars (hdot _), readName_quoteChars hrest, if_true,
    Option.map_some]

end Ddl

open Ddl

/-! ## What the statements say -/

/-- **A foreign key refers to the owner and the table that the catalog has**, whatever the
names in it are and whatever the table is that it belongs to. -/
theorem ForeignKey.tableAfter?_statement (k : ForeignKey) (t : TargetTable) :
    tableAfter? "REFERENCES " (k.statement t) = some (foldName k.owner, foldName k.table) := by
  have hword : "REFERENCES ".toList = 'R' :: "EFERENCES ".toList := by decide
  have hbehind : ") REFERENCES ".toList = ") ".toList ++ "REFERENCES ".toList := by decide
  have hhead : ∀ rest : List Char, ("(".toList ++ rest).head? ≠ some backtick :=
    fun _ heq => absurd (Option.some.inj heq) (by decide)
  have hw : 'R' ≠ backtick := by decide
  have habsent : ∀ lit ∈ ["ALTER TABLE ", ".", " ADD ", "CONSTRAINT ", " FOREIGN KEY(", ",", ") "],
      absentIn ('R' :: "EFERENCES ".toList) lit.toList = true := by decide +kernel
  simp only [List.forall_mem_cons] at habsent
  obtain ⟨halter, hdot, hadd, hconstraint, hkey, hcomma, hclose, -⟩ := habsent
  have hskip : ∃ rest, skipTo "REFERENCES ".toList (k.statement t).toList =
      some ((quoteTable k.owner k.table).toList ++ ("(".toList ++ rest)) := by
    unfold ForeignKey.statement TargetTable.add TargetTable.quoted ForeignKey.reference
    rw [quoteTable]
    simp only [String.toList_append, List.append_assoc, hbehind]
    -- from one end of the statement to the word, piece by piece
    rw [hword, skipTo_append halter, skipTo_quoteName_append hw hdot (by decide),
      skipTo_quoteName_append hw hadd (by decide), skipTo_append hconstraint,
      skipTo_quoteName_append hw hkey (by decide),
      skipTo_quoteNames_append hw hcomma hclose (by decide), skipTo_word]
    exact ⟨_, rfl⟩
  obtain ⟨rest, hrest⟩ := hskip
  rw [tableAfter?, hrest, Option.bind_some, readTable_quoteTable (hhead rest), Option.map_some,
    String.ofList_toList, String.ofList_toList]

/-- The CREATE TABLE statement names the target. -/
theorem Ddl.Request.tableAfter?_createTable (r : Request) (clauses : List String)
    (comment : String) :
    tableAfter? "CREATE TABLE " (r.createTable clauses comment) =
      some (foldName r.targetSchema, foldName r.targetTable) := by
  have hhead : ∀ rest : List Char, (" (\n  ".toList ++ rest).head? ≠ some backtick :=
    fun _ heq => absurd (Option.some.inj heq) (by decide)
  have hword : "CREATE TABLE ".toList = 'C' :: "REATE TABLE ".toList := by decide
  have hskip : ∃ rest, skipTo "CREATE TABLE ".toList (r.createTable clauses comment).toList =
      some ((quoteTable r.targetSchema r.targetTable).toList ++ (" (\n  ".toList ++ rest)) := by
    unfold createTable
    simp only [String.toList_append, List.append_assoc]
    rw [hword, skipTo_word]
    exact ⟨_, rfl⟩
  obtain ⟨rest, hrest⟩ := hskip
  rw [tableAfter?, hrest, Option.bind_some, readTable_quoteTable (hhead rest), Option.map_some,
    String.ofList_toList, String.ofList_toList]

/-- A bundle has the statement of every foreign key. -/
theorem Ddl.Request.foreignKey_mem_statements {r : Request} {b : Bundle}
    (h : r.synthesize = .ok b) {k : ForeignKey} (hk : k ∈ r.table.foreignKeys) :
    k.statement r.target ∈ b.statements := by
  have hmem : k.statement r.target ∈ (r.table.foreignKeys.map (·.statement r.target) : List String) :=
    List.mem_map_of_mem hk
  rw [statements_eq h, Table.statements]
  simp only [Multiset.mem_add, Multiset.mem_coe]
  exact .inl (.inr hmem)

namespace Job

variable {j : Job}

/-- Only a snapshot of the schema has bundles. -/
theorem schema_of_bundle {name : String} {b : Bundle} (h : j.bundle name = .ok b) :
    Text.equalsIgnoringCase j.snapshot.schema j.settings.sourceSchema = true := by
  obtain ⟨t, ht, -⟩ := bind_eq_ok_iff.mp h
  obtain ⟨_, hschema, -⟩ := bind_eq_ok_iff.mp ht
  unfold Snapshot.checkSchema at hschema
  by_contra hother
  rw [if_neg hother] at hschema
  cases hschema

/-- Every foreign key to a table of the schema refers to the table that is created for it, if
there are bundles for both tables. -/
def RefersToCreated (j : Job) : Prop :=
  ∀ t ∈ j.snapshot.tables, ∀ k ∈ t.foreignKeys, ∀ u ∈ j.snapshot.tables,
    Text.equalsIgnoringCase k.owner j.settings.sourceSchema = true →
    Text.equalsIgnoringCase k.table u.name = true →
    ∀ a b, j.bundle t.name = .ok a → j.bundle u.name = .ok b →
      tableAfter? "REFERENCES " (k.statement (j.request t).target) =
        tableAfter? "CREATE TABLE " b.createTable

/-- The table that is created for a table of the snapshot. -/
theorem tableAfter?_created {u : Table} {b : Bundle} (hapart : j.snapshot.NamesApart)
    (hu : u ∈ j.snapshot.tables) (hb : j.bundle u.name = .ok b) :
    tableAfter? "CREATE TABLE " b.createTable =
      some (foldName j.settings.effectiveSchema,
        foldName (j.settings.effectiveTable u.name)) := by
  rw [bundle_of_mem (schema_of_bundle hb) hapart hu] at hb
  obtain ⟨p, -, rfl⟩ := Request.synthesize_eq_ok hb
  exact (j.request u).tableAfter?_createTable _ _

/-- **References and created tables**: for a foreign key to a table of the schema that keeps its
name, if both tables have bundles, the statement of the foreign key is in the bundle of its
table, and it refers to the table under its name in the source. The table is created in the
target schema, so the two are the same iff the target schema is the source schema. -/
theorem reference_created {t u : Table} {k : ForeignKey} {a b : Bundle}
    (hapart : j.snapshot.NamesApart)
    (ht : t ∈ j.snapshot.tables) (hk : k ∈ t.foreignKeys) (hu : u ∈ j.snapshot.tables)
    (howner : Text.equalsIgnoringCase k.owner j.settings.sourceSchema = true)
    (htable : Text.equalsIgnoringCase k.table u.name = true)
    (hkept : foldName (j.settings.effectiveTable u.name) = foldName u.name)
    (ha : j.bundle t.name = .ok a) (hb : j.bundle u.name = .ok b) :
    k.statement (j.request t).target ∈ a.statements ∧
      tableAfter? "REFERENCES " (k.statement (j.request t).target) =
        some (foldName j.settings.sourceSchema, foldName u.name) ∧
      tableAfter? "CREATE TABLE " b.createTable =
        some (foldName j.settings.effectiveSchema, foldName u.name) ∧
      (tableAfter? "REFERENCES " (k.statement (j.request t).target) =
          tableAfter? "CREATE TABLE " b.createTable ↔
        foldName j.settings.sourceSchema = foldName j.settings.effectiveSchema) := by
  have hcreated := tableAfter?_created hapart hu hb
  rw [hkept] at hcreated
  have hreference : tableAfter? "REFERENCES " (k.statement (j.request t).target) =
      some (foldName j.settings.sourceSchema, foldName u.name) := by
    rw [k.tableAfter?_statement, foldName_eq_of_equalsIgnoringCase howner,
      foldName_eq_of_equalsIgnoringCase htable]
  rw [bundle_of_mem (schema_of_bundle ha) hapart ht] at ha
  refine ⟨Request.foreignKey_mem_statements ha hk, hreference, hcreated, ?_⟩
  rw [hreference, hcreated]
  simp

/-- A table that refers to the table CUSTOMERS. -/
def salesOrders : Table where
  name := "ORDERS"
  columns := [{ name := "CUSTOMER_ID", dataType := "NUMBER", precision := "10" }]
  foreignKeys := [⟨"FK_CUSTOMER", ["CUSTOMER_ID"], "MARVIN", "CUSTOMERS", ["ID"], ""⟩]

def salesCustomers : Table where
  name := "CUSTOMERS"
  columns := [{ name := "ID", dataType := "NUMBER", precision := "10" }]

/-- A job for these tables, with a target schema and other names for tables. -/
def salesJob (targetSchema : Option String) (renames : List Rename) : Job where
  settings := { sourceSchema := "MARVIN", targetSchema, renames }
  snapshot := ⟨"MARVIN", "8.0.28", [salesOrders, salesCustomers]⟩

theorem salesJob_namesApart (targetSchema : Option String) (renames : List Rename) :
    (salesJob targetSchema renames).snapshot.NamesApart := by
  have hnames : Text.equalsIgnoringCase salesOrders.name salesCustomers.name = false := by decide
  exact List.pairwise_pair.mpr hnames

/-- With another target schema the foreign key refers to the table of the source schema. -/
theorem salesJob_reference :
    ∃ a b, (salesJob (some "steven") []).bundle "ORDERS" = .ok a ∧
      (salesJob (some "steven") []).bundle "CUSTOMERS" = .ok b ∧
      (∃ s ∈ a.statements, tableAfter? "REFERENCES " s = some ("marvin", "customers")) ∧
      tableAfter? "CREATE TABLE " b.createTable = some ("steven", "customers") := by
  obtain ⟨a, ha⟩ : ∃ a, (salesJob (some "steven") []).bundle "ORDERS" = .ok a := ⟨_, rfl⟩
  obtain ⟨b, hb⟩ : ∃ b, (salesJob (some "steven") []).bundle "CUSTOMERS" = .ok b := ⟨_, rfl⟩
  obtain ⟨hmem, hreference, hcreated, -⟩ := reference_created
    (j := salesJob (some "steven") []) (t := salesOrders) (u := salesCustomers)
    (salesJob_namesApart _ _) (List.mem_cons_self ..) (List.mem_cons_self ..)
    (List.mem_cons_of_mem _ (List.mem_cons_self ..)) (by decide) (by decide) rfl ha hb
  refine ⟨a, b, ha, hb, ⟨_, hmem, ?_⟩, ?_⟩
  · exact hreference.trans (by decide +kernel)
  · exact hcreated.trans (by decide +kernel)

theorem salesJob_not_refers {targetSchema : Option String} {renames : List Rename} {a b : Bundle}
    (ha : (salesJob targetSchema renames).bundle "ORDERS" = .ok a)
    (hb : (salesJob targetSchema renames).bundle "CUSTOMERS" = .ok b)
    (hother : (foldName "MARVIN", foldName "CUSTOMERS") ≠
      (foldName (salesJob targetSchema renames).settings.effectiveSchema,
        foldName ((salesJob targetSchema renames).settings.effectiveTable "CUSTOMERS"))) :
    ¬ (salesJob targetSchema renames).RefersToCreated := by
  intro h
  have howner : Text.equalsIgnoringCase "MARVIN" "MARVIN" = true := by decide
  have hsame := h salesOrders (List.mem_cons_self ..) _ (List.mem_cons_self ..) salesCustomers
    (List.mem_cons_of_mem _ (List.mem_cons_self ..)) howner (by decide) a b ha hb
  rw [ForeignKey.tableAfter?_statement, tableAfter?_created (salesJob_namesApart _ _)
    (List.mem_cons_of_mem _ (List.mem_cons_self ..)) hb] at hsame
  exact hother (Option.some.inj hsame)

/-- A foreign key sees neither that the target schema is another one nor that the table it
refers to has another name there. -/
theorem salesJob_not_refersToCreated :
    ((salesJob (some "steven") []).snapshot.NamesApart ∧
      ¬ (salesJob (some "steven") []).RefersToCreated) ∧
    ((salesJob none [⟨"CUSTOMERS", "clients"⟩]).snapshot.NamesApart ∧
      ¬ (salesJob none [⟨"CUSTOMERS", "clients"⟩]).RefersToCreated) := by
  refine ⟨⟨salesJob_namesApart _ _, ?_⟩, ⟨salesJob_namesApart _ _, ?_⟩⟩
  · exact salesJob_not_refers rfl rfl (by decide +kernel)
  · exact salesJob_not_refers rfl rfl (by decide +kernel)

end Job

end CatalogDdl
