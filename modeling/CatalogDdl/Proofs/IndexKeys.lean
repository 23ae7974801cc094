import CatalogDdl.Proofs.ExpressionLiterals
import CatalogDdl.Proofs.References
import CatalogDdl.Proofs.TableDefects

/-!
# The keys of an index

An index is refused if it has nothing to index, and what that means is decided by its
positions: an expression, or else a column, blank ones left out. A function-based index lists
these positions. The other kinds list their columns as they stand, the blank ones as well, and
leave out the expressions. So an index can have positions and still list no key, or a key
without a name.

- `keyList?`: the keys that a statement lists, read off its text.
- `quotePieces`: the names between the double quotes of an expression.
- `Index.keys`: the positions that the statement of an index lists.
- `KeyPart.IsFull`: a key that is not empty, nor an identifier in it.
- `Index.ListsFullKeys`: the indexes that list full keys.
- `Request.indexStatements_keys`: what the statements of a list of indexes list.
-/

namespace CatalogDdl

namespace Ddl

/-- The statement itself. -/
def IndexStatement.sql : IndexStatement → String
  | .portable s => s
  | .review s _ => s

/-! ## Reading a key list -/

/-- What follows a schema and a table with a dot between them. -/
def behindTable : List Char → Option (List Char)
  | cs =>
    match readName cs with
    | some (_, c :: rest) => if c = '.' then (readName rest).map Prod.snd else none
    | _ => none

/-- The text between a parenthesis at the beginning and one at the end. -/
def inParentheses : List Char → Option (List Char)
  | [] => none
  | c :: cs => if c = '(' ∧ cs.getLast? = some ')' then some cs.dropLast else none

/-- The keys of a statement that creates an index: what it has in parentheses behind the table. -/
def keyList? (statement : String) : Option String :=
  (((skipTo "ON ".toList statement.toList).bind behindTable).bind inParentheses).map String.ofList

theorem behindTable_quoteTable {rest : List Char} (hrest : rest.head? ≠ some backtick)
    (schema table : String) : behindTable ((quoteTable schema table).toList ++ rest) = some rest := by
  have hdot : ∀ more : List Char, ('.' :: more).head? ≠ some backtick :=
    fun _ heq => absurd (Option.some.inj heq) (by decide)
  simp only [toList_quoteTable_append, behindTable, readName_quoteChars (hdot _), readName_quoteChars hrest, if_true,
    Option.map_some]

theorem inParentheses_append (cs : List Char) : inParentheses ('(' :: (cs ++ [')'])) = some cs := by
  rw [inParentheses, if_pos ⟨rfl, List.getLast?_concat ..⟩, List.dropLast_concat]

/-- The keys of a statement are read as they were written. -/
theorem keyList?_createIndex {words : String} (hwords : absentIn "ON ".toList words.toList = true)
    (i : Index) (t : TargetTable) (keys : String) :
    keyList? (createIndex words i t keys) = some keys := by
  have hword : "ON ".toList = 'O' :: "N ".toList := by decide
  have hbehind : " ON ".toList = " ".toList ++ "ON ".toList := by decide
  have hw : 'O' ≠ backtick := by decide
  rw [hword] at hwords
  have habsent : ∀ lit ∈ ["CREATE ", "INDEX ", " "],
      absentIn ('O' :: "N ".toList) lit.toList = true := by decide +kernel
  simp only [List.forall_mem_cons] at habsent
  obtain ⟨hcreate, hindex, hblank, -⟩ := habsent
  have hskip : skipTo "ON ".toList (createIndex words i t keys).toList =
      some ((quoteTable t.schema t.name).toList ++ ('(' :: (keys.toList ++ [')']))) := by
    unfold createIndex TargetTable.quoted
    simp only [String.toList_append, List.append_assoc, hbehind]
    rw [hword, skipTo_append hcreate, skipTo_append hwords, skipTo_append hindex,
      skipTo_quoteName_append hw hblank (by decide), skipTo_word]
    rfl
  have hhead : ('(' :: (keys.toList ++ [')'])).head? ≠ some backtick :=
    fun heq => absurd (Option.some.inj heq) (by decide)
  rw [keyList?, hskip, Option.bind_some, behindTable_quoteTable hhead, Option.bind_some,
    inParentheses_append, Option.map_some, String.ofList_toList]

/-! ## The names in an expression -/

/-- A text divided at its double quotes: the first and the second one have a name between them,
and so on. `name` holds the characters of the name that the text starts in, last one first. A
double quote without a partner is plain. -/
def quotePieces (name : Option (List Char)) : List Char → List Piece
  | [] =>
    match name with
    | none => []
    | some inner => [.plain (doubleQuote :: inner.reverse)]
  | c :: cs =>
    match name with
    | none => if c = doubleQuote then quotePieces (some []) cs else .plain [c] :: quotePieces none cs
    | some inner =>
      if c = doubleQuote then .name inner.reverse :: quotePieces none cs
      else quotePieces (some (c :: inner)) cs

/-- The names of a text are the ones that are put between backticks. -/
theorem flatMap_written_quotePieces (name : Option (List Char)) (cs : List Char) :
    (quotePieces name cs).flatMap Piece.written = requote name cs := by
  -- both go from quote to quote, with the name that is being read as their state
  induction cs generalizing name with
  | nil => cases name with
    | none => rfl
    | some inner => exact List.flatMap_singleton ..
  | cons c cs ih =>
    cases name with
    | none =>
      rw [quotePieces, requote]
      by_cases hc : c = doubleQuote
      · rw [if_pos hc, if_pos hc, ih]
      · rw [if_neg hc, if_neg hc, List.flatMap_cons, ih]
        rfl
    | some inner =>
      rw [quotePieces, requote]
      by_cases hc : c = doubleQuote
      · rw [if_pos hc, if_pos hc, List.flatMap_cons, ih]
        rfl
      · rw [if_neg hc, if_neg hc, ih]

/-- A text without double quotes is plain. -/
theorem quotePieces_none_append {cs : List Char} (h : doubleQuote ∉ cs) (ds : List Char) :
    quotePieces none (cs ++ ds) = cs.map (fun c => .plain [c]) ++ quotePieces none ds := by
  induction cs with
  | nil => rfl
  | cons c cs ih =>
    obtain ⟨hc, hcs⟩ := not_or.mp (mt List.mem_cons.mpr h)
    rw [List.cons_append, quotePieces, if_neg (Ne.symm hc), ih hcs]
    rfl

/-- Inside a name it belongs to the name. -/
theorem quotePieces_some_append {cs : List Char} (h : doubleQuote ∉ cs) (inner ds : List Char) :
    quotePieces (some inner) (cs ++ ds) = quotePieces (some (cs.reverse ++ inner)) ds := by
  induction cs generalizing inner with
  | nil => rfl
  | cons c cs ih =>
    obtain ⟨hc, hcs⟩ := not_or.mp (mt List.mem_cons.mpr h)
    rw [List.cons_append, quotePieces, if_neg (Ne.symm hc), ih hcs, List.reverse_cons,
      List.append_assoc, List.singleton_append]

/-- A text has an empty name iff its lower case has one. -/
theorem emptyName_mem_quotePieces_iff {cs ds : List Char} (h : Text.LowersTo cs ds) :
    (.name [] ∈ quotePieces none ds ↔ .name [] ∈ quotePieces none cs) ∧
      ∀ inner inner' : List Char, (inner' = [] ↔ inner = []) →
        (.name [] ∈ quotePieces (some inner') ds ↔ .name [] ∈ quotePieces (some inner) cs) := by
  -- a small letter may be several characters, but a quote stays one, and nothing becomes a quote
  induction h with
  | nil => exact ⟨Iff.rfl, fun inner inner' _ => by simp [quotePieces]⟩
  | @cons before c after cs ds h ih =>
    obtain ⟨ihnone, ihsome⟩ := ih
    by_cases hc : c = doubleQuote
    · subst hc
      rw [Text.lowerPiece_of_isMark isMark_doubleQuote, List.singleton_append]
      constructor
      · rw [quotePieces, quotePieces, if_pos rfl]
        exact ihsome [] [] Iff.rfl
      · intro inner inner' hinner
        have hname : ∀ inner : List Char,
            Piece.name [] = .name inner.reverse ↔ inner = [] := by simp
        rw [quotePieces, quotePieces, if_pos rfl, if_pos rfl, List.mem_cons, List.mem_cons, ihnone,
          hname, hname, hinner]
    · have hpiece := Text.not_mem_lowerPiece isMark_doubleQuote hc before after
      constructor
      · rw [quotePieces_none_append hpiece, quotePieces, if_neg hc]
        simp [ihnone]
      · intro inner inner' _
        rw [quotePieces_some_append hpiece, quotePieces, if_neg hc]
        exact ihsome _ _ (by simp [Text.lowerPiece_ne_nil])

/-- A name between backticks is never nothing, not even an empty one. -/
theorem requote_ne_nil {cs : List Char} (h : cs ≠ []) : requote none cs ≠ [] := by
  have hsome : ∀ (ds inner : List Char), requote (some inner) ds ≠ [] := by
    intro ds
    induction ds with
    | nil => exact fun inner => List.cons_ne_nil _ _
    | cons d ds ih =>
      intro inner
      rw [requote]
      by_cases hd : d = doubleQuote
      · rw [if_pos hd]
        exact List.cons_ne_nil _ _
      · rw [if_neg hd]
        exact ih _
  obtain ⟨c, cs, rfl⟩ := List.exists_cons_of_ne_nil h
  rw [requote]
  by_cases hc : c = doubleQuote
  · rw [if_pos hc]
    exact hsome cs []
  · rw [if_neg hc]
    exact List.cons_ne_nil _ _

/-- A name is written as nothing iff it is blank. -/
theorem foldName_eq_empty_iff {s : String} : foldName s = "" ↔ Text.trim s = "" := by
  have hlower := (Text.lowersTo_lowerAfter [] (Text.trim s).toList).eq_nil_iff
  rw [foldName, Text.lower, String.ofList_eq_empty_iff, Text.lowerChars, hlower,
    String.toList_eq_nil_iff]

/-- An expression is not written as nothing. -/
theorem renderExpression_ne_empty {e : String} (h : e ≠ "") : renderExpression e ≠ "" := by
  have hlower := (Text.lowersTo_lowerAfter [] e.toList).eq_nil_iff
  have hchars : Text.lowerChars e.toList ≠ [] :=
    mt hlower.mp (mt String.toList_eq_nil_iff.mp h)
  rw [renderExpression, ne_eq, String.ofList_eq_empty_iff]
  exact requote_ne_nil hchars

end Ddl

open Ddl

/-! ## Keys -/

/-- A key that is not empty and has no empty identifier in it. -/
def KeyPart.IsFull : KeyPart → Prop
  | .column c => foldName c ≠ ""
  | .expression e =>
    renderExpression e ≠ "" ∧ .name [] ∉ quotePieces none (Text.lowerChars e.toList)

/-- The positions that the statement of an index lists as keys. -/
def Index.keys (i : Index) : List KeyPart :=
  match i.kind with
  | .functionBased => i.keyParts
  | _ => i.columns.map .column

/-- The indexes that list full keys: of the function-based ones those without an empty name in
an expression, of the others those with columns of which none is blank. -/
def Index.ListsFullKeys (i : Index) : Prop :=
  match i.kind with
  | .functionBased => ∀ e, .expression e ∈ i.keyParts → .name [] ∉ quotePieces none e.toList
  | _ => i.columns ≠ [] ∧ ∀ c ∈ i.columns, Text.trim c ≠ ""

/-- A column is full unless it is blank. -/
theorem KeyPart.isFull_column_iff {c : String} : (KeyPart.column c).IsFull ↔ Text.trim c ≠ "" :=
  not_congr foldName_eq_empty_iff

/-- An expression is full unless there is an empty name in it. -/
theorem KeyPart.isFull_expression_iff {e : String} (h : e ≠ "") :
    (KeyPart.expression e).IsFull ↔ .name [] ∉ quotePieces none e.toList := by
  have hnames := (emptyName_mem_quotePieces_iff (Text.lowersTo_lowerAfter [] e.toList)).1
  rw [KeyPart.IsFull, Text.lowerChars, hnames]
  exact and_iff_right (renderExpression_ne_empty h)

/-- A position is not blank. -/
theorem trim_text_of_keyPart? {column expression : String} {k : KeyPart}
    (h : keyPart? column expression = some k) : Text.trim k.text ≠ "" := by
  unfold keyPart? at h
  split at h
  · rename_i hexpression
    obtain rfl := Option.some.inj h
    rw [KeyPart.text, Text.trim_trim, ne_eq, Text.trim_eq_empty_iff]
    simpa using hexpression
  · split at h
    · rename_i hcolumn
      obtain rfl := Option.some.inj h
      rw [KeyPart.text, Text.trim_trim, ne_eq, Text.trim_eq_empty_iff]
      simpa using hcolumn
    · cases h

/-- No position of an index is blank. -/
theorem trim_text_of_mem_keyPartsOf {columns expressions : List String} {k : KeyPart}
    (h : k ∈ keyPartsOf columns expressions) : Text.trim k.text ≠ "" := by
  -- a position is made at one place of the lists, from what stands there
  fun_induction keyPartsOf columns expressions with
  | case1 es =>
    obtain ⟨e, -, he⟩ := List.mem_filterMap.mp h
    exact trim_text_of_keyPart? he
  | case2 c cs ih =>
    rcases List.mem_append.mp h with h | h
    · exact trim_text_of_keyPart? (Option.mem_toList.mp h)
    · exact ih h
  | case3 c cs e es ih =>
    rcases List.mem_append.mp h with h | h
    · exact trim_text_of_keyPart? (Option.mem_toList.mp h)
    · exact ih h

/-- The keys of a function-based index are its positions, which are not blank. -/
theorem Index.isFull_of_mem_keyParts {i : Index} {k : KeyPart} (hk : k ∈ i.keyParts) :
    k.IsFull ↔ ∀ e, k = .expression e → .name [] ∉ quotePieces none e.toList := by
  have htext := trim_text_of_mem_keyPartsOf hk
  cases k with
  | column c => exact iff_of_true (KeyPart.isFull_column_iff.mpr htext) nofun
  | expression e =>
    have hne : e ≠ "" := by
      rintro rfl
      exact htext Text.trim_empty
    rw [KeyPart.isFull_expression_iff hne]
    exact ⟨fun h e' he' => by cases he'; exact h, fun h => h e rfl⟩

/-- Which indexes list full keys, of those that have something to index. -/
theorem Index.keys_isFull_iff {i : Index} (h : i.HasPosition) :
    i.keys ≠ [] ∧ (∀ k ∈ i.keys, k.IsFull) ↔ i.ListsFullKeys := by
  -- three kinds list their columns, and only the function-based one its positions
  have hcolumns : i.columns.map KeyPart.column ≠ [] ∧
      (∀ k ∈ i.columns.map KeyPart.column, k.IsFull) ↔
        i.columns ≠ [] ∧ ∀ c ∈ i.columns, Text.trim c ≠ "" := by
    rw [ne_eq, List.map_eq_nil_iff, List.forall_mem_map]
    exact and_congr_right fun _ => forall₂_congr fun c _ => KeyPart.isFull_column_iff
  have hparts : i.keyParts ≠ [] :=
    mt List.isEmpty_iff.mpr (mt Index.keyParts_isEmpty_iff.mp (not_not_intro h))
  unfold Index.keys Index.ListsFullKeys
  cases i.kind with
  | functionBased =>
    refine (and_iff_right hparts).trans ⟨fun hfull e he => ?_, fun hnames k hk => ?_⟩
    · exact (Index.isFull_of_mem_keyParts he).mp (hfull _ he) e rfl
    · refine (Index.isFull_of_mem_keyParts hk).mpr fun e he => ?_
      subst he
      exact hnames e hk
  | normal => exact hcolumns
  | bitmap => exact hcolumns
  | other kind => exact hcolumns

/-! ## Statements -/

/-- An index that is not function-based lists its columns, whatever its expressions. -/
theorem Index.keys_eq {i : Index} (h : i.kind ≠ .functionBased) :
    i.keys = i.columns.map .column := by
  unfold Index.keys
  cases hkind : i.kind with
  | functionBased => exact absurd hkind h
  | normal => rfl
  | bitmap => rfl
  | other kind => rfl

theorem joinWith_columns (names : List String) :
    Text.joinWith "," ((names.map KeyPart.column).map renderKeyPart) = quoteNames names := by
  rw [quoteNames, List.map_map]
  rfl

/-- The statement of an index lists its keys. -/
theorem Index.keyList?_statement {i : Index} {table : String} {t : TargetTable}
    {expected : Uniqueness} {s : IndexStatement} (h : i.statement table t expected = .ok s) :
    keyList? s.sql = some (Text.joinWith "," (i.keys.map renderKeyPart)) := by
  obtain ⟨-, -, rfl⟩ := Index.statement_eq_ok h
  have hsql : (i.written t).sql = i.sql t := by
    unfold Index.written
    cases i.kind.needsReview <;> rfl
  -- the words before the name of the index must not hold the word that the table follows
  have hunique : absentIn "ON ".toList (uniqueWord i.uniqueness).toList = true := by
    cases i.uniqueness <;> decide
  have hbitmap : absentIn "ON ".toList (uniqueWord i.uniqueness ++ "BITMAP ").toList = true := by
    cases i.uniqueness <;> decide
  rw [hsql]
  unfold Index.sql Index.keys
  cases i.kind with
  | functionBased => exact keyList?_createIndex hunique ..
  | bitmap => rw [joinWith_columns]; exact keyList?_createIndex hbitmap ..
  | normal => rw [joinWith_columns]; exact keyList?_createIndex hunique ..
  | other kind => rw [joinWith_columns]; exact keyList?_createIndex hunique ..

/-- **The keys of some indexes**: each statement lists the keys of its index. They are there and
full for some indexes only, although all of them have something to index. The names of an index
that is not function-based can be read off its statement, empty ones as well, and an expression
is written with the names between its double quotes put between backticks. -/
theorem Ddl.Request.indexStatements_keys {r : Request} {expected : Uniqueness}
    {is : List Index} {ss : List IndexStatement} (h : r.indexStatements expected is = .ok ss) :
    List.Forall₂ (fun i s =>
      keyList? s.sql = some (Text.joinWith "," (i.keys.map renderKeyPart)) ∧
      i.HasPosition ∧
      (i.keys ≠ [] ∧ (∀ k ∈ i.keys, k.IsFull) ↔ i.ListsFullKeys) ∧
      (i.kind ≠ .functionBased →
        (keyList? s.sql).bind (readNames? ',') = some (i.columns.map foldName)) ∧
      ∀ e, .expression e ∈ i.keys → (renderExpression e).toList =
        (quotePieces none (Text.lowerChars e.toList)).flatMap Piece.written) is ss := by
  refine (mapM_eq_ok_iff.mp h).imp fun i s hs => ?_
  have hlist := Index.keyList?_statement hs
  have hacceptable : i.Acceptable expected :=
    Index.defects_eq_nil_iff.mp
      ((i.failsByFirst_statement r.table.name r.target expected).ok_iff.mp ⟨s, hs⟩)
  refine ⟨hlist, hacceptable.position, Index.keys_isFull_iff hacceptable.position, ?_, ?_⟩
  · intro hkind
    rw [hlist, Index.keys_eq hkind, joinWith_columns, Option.bind_some]
    exact readNames?_joinWith (by decide) (by decide) i.columns
  · intro e _
    rw [renderExpression, String.toList_ofList, flatMap_written_quotePieces]

/-- A normal index and a bitmap index on a column. -/
theorem Ddl.Request.orders_indexKeys :
    ∃ ss, orders.indexStatements .nonunique ordersTable.normalIndexes = .ok ss ∧
      List.Forall₂ (fun i s => keyList? s.sql = some "`id`" ∧ ∀ k ∈ i.keys, k.IsFull)
        ordersTable.normalIndexes ss := by
  obtain ⟨ss, hss⟩ : ∃ ss, orders.indexStatements .nonunique ordersTable.normalIndexes = .ok ss :=
    ⟨_, rfl⟩
  have htrim : Text.trim "ID" ≠ "" := by decide
  refine ⟨ss, hss, ?_⟩
  cases indexStatements_keys hss with
  | cons hnormal hrest =>
    cases hrest with
    | cons hbitmap hnil =>
      cases hnil
      have hfull : ["ID"] ≠ [] ∧ ∀ c ∈ ["ID"], Text.trim c ≠ "" :=
        ⟨List.cons_ne_nil _ _, List.forall_mem_singleton.mpr htrim⟩
      obtain ⟨hlist, -, hiff, -, -⟩ := hnormal
      obtain ⟨hlist', -, hiff', -, -⟩ := hbitmap
      exact .cons ⟨hlist.trans (by decide +kernel), (hiff.mpr hfull).2⟩
        (.cons ⟨hlist'.trans (by decide +kernel), (hiff'.mpr hfull).2⟩ .nil)

/-- An index whose only position is an expression lists nothing if it is a normal one, and a
blank column becomes an identifier without a name. -/
theorem Ddl.Request.indexStatements_emptyKeys :
    ∃ s s' w, orders.indexStatements .nonunique
          [⟨"IX", .nonunique, .normal, [], ["UPPER(\"NAME\")"]⟩,
            ⟨"BX", .nonunique, .bitmap, ["A", " "], []⟩] = .ok [.portable s, .review s' w] ∧
      s = "CREATE INDEX `ix` ON `steven`.`orders`()" ∧
      keyList? s = some "" ∧ keyList? s' = some "`a`,``" := by
  refine ⟨_, _, _, rfl, ?_, ?_, ?_⟩
  · decide +kernel
  · exact (keyList?_createIndex (by decide) ..).trans (by decide +kernel)
  · exact (keyList?_createIndex (by decide) ..).trans (by decide +kernel)

end CatalogDdl
