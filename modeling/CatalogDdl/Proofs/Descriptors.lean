import CatalogDdl.Catalog.Snapshot
import CatalogDdl.Proofs.JsonText
import CatalogDdl.Proofs.OverrideRules
import CatalogDdl.Proofs.Words

/-!
# Written snapshots are read back

A snapshot that was read can be written and read again, and it is the same snapshot then.
Only the kind of an index needs a reason: its text is folded when it is read, but a text
that names none of the known kinds is kept, so what is read may differ from what stood
there; what is read from what is then written does not.

The numbers of a column may be written as integers, as texts or as null. Which one it is
does not matter, and an integer of 64 bits is the number that it writes.

- `record?_ofFields`: a record with all of its fields is read field by field.
- `Column.ofJson?_toJson` and so on: a record that is written is read as the same record.
- `Index.Canonical`, `Table.Canonical`, `Snapshot.Canonical`: the indexes have kinds as they
  are read. `Snapshot.canonical_of_ofJson?`: a snapshot that was read is like that.
- `Snapshot.plain_toJson`: a snapshot is written without loss.
- `Column.Described`, `Column.WithNumber`: what the fields of a record say about a column, and
  a record with a place for one of its numbers.
- `Snapshot.ofText_toJson`: the two results about texts and about numbers.
-/

namespace CatalogDdl

open Json (Plain record? text texts)

/-! ## Records -/

namespace Json

/-- Fields are told apart iff none of their names is there twice. -/
theorem Fields.distinct_iff {fs : Fields} : fs.distinct = true ↔ (fs.map Prod.fst).Nodup := by
  induction fs with
  | nil => simp [Fields.distinct]
  | cons f fs ih =>
    rw [Fields.distinct, Bool.and_eq_true, ih, List.map_cons, List.nodup_cons, Bool.not_eq_true',
      List.any_eq_false]
    refine and_congr_left fun _ => ?_
    simp only [beq_iff_eq, List.mem_map, not_exists, not_and]

/-- The members of an object with known names only are all there. -/
theorem knownMembers?_ofFields {names : List String} {fields : Fields}
    (h : ∀ f ∈ fields, names.contains f.1 = true) :
    knownMembers? names (fields.map fun f => (some f.1, f.2)) = some fields := by
  induction fields with
  | nil => rfl
  | cons f fields ih =>
    obtain ⟨hf, hfields⟩ := List.forall_mem_cons.mp h
    rw [List.map_cons, knownMembers?, ih hfields, Option.map_some, if_pos hf]

/-- A record that is written with all of its fields is read with all of them. -/
theorem record?_ofFields (names : List String) (hnames : names.Nodup) {fields : Fields}
    (h : fields.map Prod.fst = names) : record? names (ofFields fields) = some fields := by
  have hknown : ∀ f ∈ fields, names.contains f.1 = true := by
    intro f hf
    rw [List.contains_iff_mem, ← h]
    exact List.mem_map_of_mem hf
  have hdistinct : Fields.distinct fields = true := Fields.distinct_iff.mpr (h ▸ hnames)
  show (knownMembers? names _).filter Fields.distinct = _
  rw [knownMembers?_ofFields hknown, Option.filter_some, if_pos hdistinct]

/-- A list that is written item by item is read item by item. -/
theorem toList?_map {α : Type} {read : Json → Option α} {write : α → Json} {as : List α}
    (h : ∀ a ∈ as, read (write a) = some a) : toList? read (.array (as.map write)) = some as := by
  show (as.map write).mapM read = some as
  induction as with
  | nil => rfl
  | cons a as ih =>
    obtain ⟨ha, has⟩ := List.forall_mem_cons.mp h
    rw [List.map_cons, List.mapM_cons, ha, ih has]
    rfl

theorem toTexts?_texts (ss : List String) : toTexts? (texts ss) = some ss :=
  toList?_map fun _ _ => rfl

/-- The items of a list that was read were read. -/
theorem exists_of_toList? {α : Type} {read : Json → Option α} {j : Json} {as : List α}
    (h : toList? read j = some as) : ∀ a ∈ as, ∃ k, read k = some a := by
  unfold toList? at h
  split at h
  · rename_i items
    induction items generalizing as with
    | nil =>
      cases h
      exact nofun
    | cons k items ih =>
      rw [List.mapM_cons] at h
      obtain ⟨a, ha, h⟩ := Option.bind_eq_some_iff.mp h
      obtain ⟨as', has, h⟩ := Option.bind_eq_some_iff.mp h
      cases h
      exact List.forall_mem_cons.mpr ⟨⟨k, ha⟩, ih has⟩
  · cases h

/-- A list of texts is written without loss. -/
theorem plain_texts (ss : List String) : Plain (texts ss) := by
  refine .array fun j hj => ?_
  obtain ⟨s, -, rfl⟩ := List.mem_map.mp hj
  exact .text s

/-- So is a list of records each of which is. -/
theorem plain_map {α : Type} {write : α → Json} (h : ∀ a, Plain (write a)) (as : List α) :
    Plain (.array (as.map write)) := by
  refine .array fun j hj => ?_
  obtain ⟨a, -, rfl⟩ := List.mem_map.mp hj
  exact h a

/-- The known members of two lists of members are those of the one and then of the other. -/
theorem knownMembers?_append (names : List String) (xs ys : List (Option String × Json)) :
    knownMembers? names (xs ++ ys)
      = (knownMembers? names xs).bind fun as =>
          (knownMembers? names ys).map fun bs => as ++ bs := by
  induction xs with
  | nil =>
    show knownMembers? names ys = (knownMembers? names ys).map fun bs => bs
    rw [Option.map_id']
  | cons x xs ih =>
    obtain ⟨_ | name, value⟩ := x
    · rfl
    · rw [List.cons_append, knownMembers?, knownMembers?, ih]
      cases knownMembers? names xs with
      | none => rfl
      | some as =>
        cases knownMembers? names ys with
        | none => rfl
        | some bs =>
          show some _ = some _
          split_ifs <;> rfl

/-- Fields that do not depend on the value of one of them, except that this one has it; or no
fields, whatever the value is. -/
def Placed (name : String) (fields : Json → Option Fields) : Prop :=
  (∀ v, fields v = none) ∨
    ∃ before after : Fields, name ∉ before.map Prod.fst ∧
      ∀ v, fields v = some (before ++ (name, v) :: after)

/-- A member of an object with a known name is a place for its value. -/
theorem placed_member {names : List String} {name : String} (hname : name ∈ names)
    (front back : List (Option String × Json)) :
    Placed name fun v => record? names (.object (front ++ (some name, v) :: back)) := by
  have hplace : ∀ v, knownMembers? names ((some name, v) :: back)
      = (knownMembers? names back).map fun bs => (name, v) :: bs := by
    intro v
    have hknown : names.contains name = true := List.contains_iff_mem.mpr hname
    rw [knownMembers?]
    simp only [hknown, if_true]
  show Placed name fun v =>
    (knownMembers? names (front ++ (some name, v) :: back)).filter Fields.distinct
  simp only [knownMembers?_append, hplace]
  cases knownMembers? names front with
  | none => exact .inl fun _ => rfl
  | some before =>
    cases knownMembers? names back with
    | none => exact .inl fun _ => rfl
    | some after =>
      -- whether a name is there twice does not depend on the values
      have hdistinct : ∀ v, Fields.distinct (before ++ (name, v) :: after) = true ↔
          (before.map Prod.fst ++ name :: after.map Prod.fst).Nodup := by
        intro v
        rw [Fields.distinct_iff, List.map_append, List.map_cons]
      by_cases hnodup : (before.map Prod.fst ++ name :: after.map Prod.fst).Nodup
      · refine .inr ⟨before, after, fun hmem => ?_, fun v => ?_⟩
        · exact (List.nodup_append.mp hnodup).2.2 _ hmem _ (List.mem_cons_self ..) rfl
        · exact (Option.filter_some ..).trans (if_pos ((hdistinct v).mpr hnodup))
      · exact .inl fun v => (Option.filter_some ..).trans (if_neg (mt (hdistinct v).mp hnodup))

/-- An item of an array is a place for the value of the field in its position. -/
theorem placed_item {names : List String} (hnodup : names.Nodup) {name : String}
    {front : List Json} (hname : names[front.length]? = some name) (back : List Json) :
    Placed name fun v => record? names (.array (front ++ v :: back)) := by
  obtain ⟨hlt, rfl⟩ := List.getElem?_eq_some_iff.mp hname
  -- the names are cut where the items are, so that the two are paired part by part
  have hsplit : names
      = names.take front.length ++ names[front.length] :: names.drop (front.length + 1) := by
    rw [List.getElem_cons_drop, List.take_append_drop]
  have hlength : (names.take front.length).length = front.length := by
    rw [List.length_take, Nat.min_eq_left (Nat.le_of_lt hlt)]
  have hzip : ∀ v, names.zip (front ++ v :: back)
      = (names.take front.length).zip front
        ++ (names[front.length], v) :: (names.drop (front.length + 1)).zip back := by
    intro v
    conv_lhs => rw [hsplit]
    rw [List.zip_append hlength, List.zip_cons_cons]
  show Placed _ fun v => if (front ++ v :: back).length ≤ names.length then
    some (names.zip (front ++ v :: back)) else none
  simp only [List.length_append, List.length_cons, hzip]
  split_ifs
  · refine .inr ⟨_, _, fun hmem => ?_, fun v => rfl⟩
    obtain ⟨x, hx, hfst⟩ := List.mem_map.mp hmem
    have htake : names[front.length] ∈ names.take front.length := hfst ▸ (List.of_mem_zip hx).1
    rw [hsplit] at hnodup
    exact (List.nodup_append.mp hnodup).2.2 _ htake _ (List.mem_cons_self ..) rfl
  · exact .inl fun _ => rfl

/-- The field with the place is found, and it is in the way of no other one. -/
theorem lookup_place {name : String} {before : Fields} (hname : name ∉ before.map Prod.fst)
    (v : Json) (after : Fields) : (before ++ (name, v) :: after).lookup name = some v := by
  have hbefore : before.lookup name = none := by
    rw [List.lookup_eq_none_iff]
    intro f hf
    refine bne_iff_ne.mpr fun heq => hname ?_
    rw [heq]
    exact List.mem_map_of_mem hf
  rw [List.lookup_append, hbefore, Option.none_or, List.lookup_cons_self]

/-- Another field is looked up around the place. -/
theorem lookup_other {name other : String} (hne : other ≠ name) (before : Fields) (v : Json)
    (after : Fields) :
    (before ++ (name, v) :: after).lookup other = (before ++ after).lookup other := by
  rw [List.lookup_append, List.lookup_append, List.lookup_cons, beq_false_of_ne hne]

end Json

open Json

/-- A step that gives a value, and the rest of the steps. -/
theorem bind_eq_some_of {α β : Type} {x : Option α} {f : α → Option β} {a : α} {b : β}
    (hx : x = some a) (hf : f a = some b) : (x >>= f) = some b :=
  Option.bind_eq_some_iff.mpr ⟨a, hx, hf⟩

/-! ## One record after the other -/

theorem Column.ofJson?_toJson (c : Column) : Column.ofJson? c.toJson = some c :=
  bind_eq_some_of (record?_ofFields fieldNames (by decide) rfl) rfl

theorem Key.ofJson?_toJson (k : Key) : Key.ofJson? k.toJson = some k :=
  bind_eq_some_of (record?_ofFields fieldNames (by decide) rfl) <|
    bind_eq_some_of rfl <| bind_eq_some_of (toTexts?_texts k.columns) rfl

theorem ForeignKey.ofJson?_toJson (k : ForeignKey) : ForeignKey.ofJson? k.toJson = some k :=
  bind_eq_some_of (record?_ofFields fieldNames (by decide) rfl) <|
    bind_eq_some_of rfl <| bind_eq_some_of (toTexts?_texts k.columns) <|
      bind_eq_some_of rfl <| bind_eq_some_of rfl <|
        bind_eq_some_of (toTexts?_texts k.tableColumns) <| bind_eq_some_of rfl rfl

theorem Check.ofJson?_toJson (c : Check) : Check.ofJson? c.toJson = some c :=
  bind_eq_some_of (record?_ofFields fieldNames (by decide) rfl) rfl

/-! ### Indexes -/

/-- The text of a kind that was read names that kind. -/
theorem IndexKind.ofText_text_ofText (s : String) :
    IndexKind.ofText (IndexKind.ofText s).text = IndexKind.ofText s := by
  have hnormal : IndexKind.ofText "NORMAL" = .normal := by decide +kernel
  have hfunction : IndexKind.ofText "FUNCTION-BASED NORMAL" = .functionBased := by decide +kernel
  have hbitmap : IndexKind.ofText "BITMAP" = .bitmap := by decide +kernel
  -- a text that names no known kind is the text of its kind
  have hother : ∀ name, IndexKind.ofText s = .other name → name = s := by
    intro name h
    unfold IndexKind.ofText at h
    simp only at h
    split_ifs at h
    exact (IndexKind.other.inj h).symm
  cases h : IndexKind.ofText s with
  | normal => exact hnormal
  | functionBased => exact hfunction
  | bitmap => exact hbitmap
  | other name =>
    rw [IndexKind.text, hother name h]
    exact h.trans (congrArg _ (hother name h))

/-- An index has a kind as it is read from its text. -/
def Index.Canonical (i : Index) : Prop := IndexKind.ofText i.kind.text = i.kind

/-- The word of a uniqueness names it. -/
theorem Uniqueness.ofJson?_text (u : Uniqueness) :
    Uniqueness.ofJson? (Json.text u.text) = some u := by
  cases u <;> rfl

theorem Index.ofJson?_toJson {i : Index} (h : i.Canonical) : Index.ofJson? i.toJson = some i := by
  refine bind_eq_some_of (record?_ofFields fieldNames (by decide) rfl) <|
    bind_eq_some_of rfl <| bind_eq_some_of (Uniqueness.ofJson?_text i.uniqueness) <|
      bind_eq_some_of rfl <| bind_eq_some_of (toTexts?_texts i.columns) <|
        bind_eq_some_of (toTexts?_texts i.expressions) ?_
  show some ({ i with kind := IndexKind.ofText i.kind.text } : Index) = some i
  rw [show IndexKind.ofText i.kind.text = i.kind from h]

/-- An index that was read has such a kind. -/
theorem Index.canonical_of_ofJson? {j : Json} {i : Index} (h : Index.ofJson? j = some i) :
    i.Canonical := by
  unfold Index.ofJson? at h
  simp only [Option.bind_eq_bind, Option.bind_eq_some_iff] at h
  obtain ⟨fs, -, name, -, uniqueness, -, kind, -, columns, -, expressions, -, h⟩ := h
  obtain rfl := Option.some.inj h
  dsimp only [Index.Canonical]
  exact IndexKind.ofText_text_ofText kind

/-! ### Tables and snapshots -/

/-- The indexes of a table have kinds as they are read. -/
def Table.Canonical (t : Table) : Prop := ∀ i ∈ t.uniqueIndexes ++ t.normalIndexes, i.Canonical

/-- So do those of a snapshot. -/
def Snapshot.Canonical (s : Snapshot) : Prop := ∀ t ∈ s.tables, t.Canonical

theorem Table.ofJson?_toJson {t : Table} (h : t.Canonical) : Table.ofJson? t.toJson = some t := by
  obtain ⟨hunique, hnormal⟩ := List.forall_mem_append.mp h
  exact bind_eq_some_of (record?_ofFields fieldNames (by decide) rfl) <|
    bind_eq_some_of rfl <| bind_eq_some_of (toTexts?_texts t.comments) <|
      bind_eq_some_of (toList?_map fun c _ => c.ofJson?_toJson) <|
      bind_eq_some_of (toList?_map fun k _ => k.ofJson?_toJson) <|
      bind_eq_some_of (toList?_map fun k _ => k.ofJson?_toJson) <|
      bind_eq_some_of (toList?_map fun k _ => k.ofJson?_toJson) <|
      bind_eq_some_of (toList?_map fun c _ => c.ofJson?_toJson) <|
      bind_eq_some_of (toList?_map fun i hi => Index.ofJson?_toJson (hunique i hi)) <|
      bind_eq_some_of (toList?_map fun i hi => Index.ofJson?_toJson (hnormal i hi)) rfl

theorem Snapshot.ofJson?_toJson {s : Snapshot} (h : s.Canonical) :
    Snapshot.ofJson? s.toJson = some s :=
  bind_eq_some_of (record?_ofFields fieldNames (by decide) rfl) <|
    bind_eq_some_of rfl <| bind_eq_some_of rfl <|
      bind_eq_some_of (toList?_map fun t ht => Table.ofJson?_toJson (h t ht)) rfl

/-- What is read from an optional list was read, or there is nothing. -/
theorem exists_of_optional {α : Type} {fs : Fields} {name : String} {read : Json → Option α}
    {as : List α} (h : fs.optional name [] (toList? read) = some as) :
    ∀ a ∈ as, ∃ k, read k = some a := by
  unfold Fields.optional at h
  split at h
  · cases h
    exact nofun
  · exact exists_of_toList? h

/-- So do the indexes of a table that was read, in both of its lists. -/
theorem Table.canonical_of_ofJson? {j : Json} {t : Table} (h : Table.ofJson? j = some t) :
    t.Canonical := by
  unfold Table.ofJson? at h
  simp only [Option.bind_eq_bind, Option.bind_eq_some_iff] at h
  obtain ⟨fs, -, name, -, comments, -, columns, -, primaryKeys, -, uniqueKeys, -, foreignKeys, -,
    checks, -, unique, hunique, normal, hnormal, h⟩ := h
  cases h
  refine List.forall_mem_append.mpr ⟨fun i hi => ?_, fun i hi => ?_⟩
  · obtain ⟨k, hk⟩ := exists_of_optional hunique i hi
    exact Index.canonical_of_ofJson? hk
  · obtain ⟨k, hk⟩ := exists_of_optional hnormal i hi
    exact Index.canonical_of_ofJson? hk

theorem Snapshot.canonical_of_ofJson? {j : Json} {s : Snapshot} (h : Snapshot.ofJson? j = some s) :
    s.Canonical := by
  unfold Snapshot.ofJson? at h
  simp only [Option.bind_eq_bind, Option.bind_eq_some_iff] at h
  obtain ⟨fs, -, schema, -, version, -, tables, htables, h⟩ := h
  cases h
  intro t ht
  obtain ⟨k, hk⟩ := exists_of_optional htables t ht
  exact Table.canonical_of_ofJson? hk

/-! ### Without loss -/

theorem Column.plain_toJson (c : Column) : Plain c.toJson := by
  refine .ofFields ?_
  simp only [List.forall_mem_cons]
  exact ⟨.text _, .text _, .text _, .text _, .text _, .text _, .text _, .text _, nofun⟩

theorem Key.plain_toJson (k : Key) : Plain k.toJson := by
  refine .ofFields ?_
  simp only [List.forall_mem_cons]
  exact ⟨.text _, plain_texts _, nofun⟩

theorem ForeignKey.plain_toJson (k : ForeignKey) : Plain k.toJson := by
  refine .ofFields ?_
  simp only [List.forall_mem_cons]
  exact ⟨.text _, plain_texts _, .text _, .text _, plain_texts _, .text _, nofun⟩

theorem Check.plain_toJson (c : Check) : Plain c.toJson := by
  refine .ofFields ?_
  simp only [List.forall_mem_cons]
  exact ⟨.text _, .text _, nofun⟩

theorem Index.plain_toJson (i : Index) : Plain i.toJson := by
  refine .ofFields ?_
  simp only [List.forall_mem_cons]
  exact ⟨.text _, .text _, .text _, plain_texts _, plain_texts _, nofun⟩

theorem Table.plain_toJson (t : Table) : Plain t.toJson := by
  refine .ofFields ?_
  simp only [List.forall_mem_cons]
  exact ⟨.text _, plain_texts _, plain_map Column.plain_toJson _, plain_map Key.plain_toJson _,
    plain_map Key.plain_toJson _, plain_map ForeignKey.plain_toJson _,
    plain_map Check.plain_toJson _, plain_map Index.plain_toJson _,
    plain_map Index.plain_toJson _, nofun⟩

/-- A snapshot is written without loss. -/
theorem Snapshot.plain_toJson (s : Snapshot) : Plain s.toJson := by
  refine .ofFields ?_
  simp only [List.forall_mem_cons]
  exact ⟨.text _, .text _, plain_map Table.plain_toJson _, nofun⟩

/-- What a text is read as. -/
theorem Snapshot.ofText_eq_ok_iff {text : String} {s : Snapshot} :
    Snapshot.ofText text = .ok s ↔ ∃ j, Json.read? text = some j ∧ Snapshot.ofJson? j = some s := by
  rw [← Option.bind_eq_some_iff, Snapshot.ofText]
  cases (Json.read? text).bind Snapshot.ofJson? with
  | none => exact ⟨nofun, nofun⟩
  | some s' => rw [Except.ok.injEq, Option.some.injEq]

/-! ## The numbers of a column -/

/-- The text of a number of a column. -/
def Column.numeral (c : Column) : NumericField → String
  | .length => c.length
  | .precision => c.precision
  | .scale => c.scale

/-- A column with another text for one of its numbers. -/
def Column.withNumeral (c : Column) (f : NumericField) (text : String) : Column :=
  match f with
  | .length => { c with length := text }
  | .precision => { c with precision := text }
  | .scale => { c with scale := text }

/-- The attributes of a type with another one of the three numbers. -/
def TypeAttributes.withNumber (a : TypeAttributes) (f : NumericField) (n : Int) : TypeAttributes :=
  match f with
  | .length => { a with length := n }
  | .precision => { a with precision := n }
  | .scale => { a with scale := n }

@[simp] theorem Column.withNumeral_numeral (c : Column) (f : NumericField) :
    c.withNumeral f (c.numeral f) = c := by
  cases f <;> rfl

/-- Only the number itself is another one. -/
theorem Column.numeral_withNumeral (c : Column) (f g : NumericField) (text : String) :
    (c.withNumeral f text).numeral g = if g = f then text else c.numeral g := by
  cases f <;> cases g <;> rfl

/-- What the fields of a record say about a column. -/
structure Column.Described (fs : Fields) (c : Column) : Prop where
  name : fs.required "column_name" toText? = some c.name
  dataType : fs.required "data_type" toText? = some c.dataType
  nullable : fs.optional "nullable" "Y" toText? = some c.nullable
  numeral : ∀ f : NumericField, fs.optional f.text "0" numericText? = some (c.numeral f)
  defaultText : fs.optional "data_default" "" toText? = some c.defaultText
  comment : fs.optional "comments" "" toText? = some c.comment

/-- A column is read iff its fields describe it. -/
theorem Column.ofJson?_eq_some_iff {j : Json} {c : Column} :
    Column.ofJson? j = some c ↔ ∃ fs, record? fieldNames j = some fs ∧ Column.Described fs c := by
  unfold Column.ofJson?
  simp only [Option.bind_eq_bind, Option.bind_eq_some_iff]
  constructor
  · rintro ⟨fs, hfs, name, hname, dataType, htype, nullable, hnullable, length, hlength,
      precision, hprecision, scale, hscale, defaultText, hdefault, comment, hcomment, h⟩
    obtain rfl := Option.some.inj h
    refine ⟨fs, hfs, ⟨hname, htype, hnullable, fun f => ?_, hdefault, hcomment⟩⟩
    cases f with
    | length => exact hlength
    | precision => exact hprecision
    | scale => exact hscale
  · rintro ⟨fs, hfs, h⟩
    exact ⟨fs, hfs, _, h.name, _, h.dataType, _, h.nullable, _, h.numeral .length, _,
      h.numeral .precision, _, h.numeral .scale, _, h.defaultText, _, h.comment, rfl⟩

/-- Fields that differ in one number only say the same about everything else. -/
theorem Column.Described.withNumeral {f : NumericField} {fs fs' : Fields} {c : Column}
    {text : String} (h : Column.Described fs c)
    (hother : ∀ name, name ≠ f.text → fs'.lookup name = fs.lookup name)
    (hvalue : fs'.optional f.text "0" numericText? = some text) :
    Column.Described fs' (c.withNumeral f text) where
  -- the names of the three numbers are the names of no other field
  name := by
    rw [Fields.required, hother _ (by cases f <;> decide)]
    cases f <;> exact h.name
  dataType := by
    rw [Fields.required, hother _ (by cases f <;> decide)]
    cases f <;> exact h.dataType
  nullable := by
    rw [Fields.optional, hother _ (by cases f <;> decide)]
    cases f <;> exact h.nullable
  numeral := by
    intro g
    rw [numeral_withNumeral]
    split_ifs with hg
    · rw [hg]
      exact hvalue
    · have hne : g.text ≠ f.text := by
        cases f <;> cases g <;> first | exact absurd rfl hg | decide
      rw [Fields.optional, hother _ hne]
      exact h.numeral g
  defaultText := by
    rw [Fields.optional, hother _ (by cases f <;> decide)]
    cases f <;> exact h.defaultText
  comment := by
    rw [Fields.optional, hother _ (by cases f <;> decide)]
    cases f <;> exact h.comment

/-- A record of a column with a place for one of its numbers: an object with other members, or
an array with other items. -/
inductive Column.WithNumber (f : NumericField) : (Json → Json) → Prop
  | member (front back : List (Option String × Json)) :
      WithNumber f fun v => .object (front ++ (some f.text, v) :: back)
  | item (front back : List Json) (h : fieldNames[front.length]? = some f.text) :
      WithNumber f fun v => .array (front ++ v :: back)

namespace Column.WithNumber

variable {f : NumericField} {col : Json → Json} (h : WithNumber f col) {v w : Json} {c : Column}
  {text : String}
include h

/-- Whichever form such a record has, its place is one for the field. -/
theorem placed : Placed f.text fun v => record? fieldNames (col v) := by
  cases h with
  | member front back =>
    have hname : f.text ∈ fieldNames := by cases f <;> decide
    exact placed_member hname front back
  | item front back h => exact placed_item (by decide) h back

/-- The fields of such a record around its place, if it is a record of a column for some value. -/
theorem exists_fields (hc : Column.ofJson? (col v) = some c) :
    ∃ before after : Fields, f.text ∉ before.map Prod.fst ∧
      (∀ w, record? fieldNames (col w) = some (before ++ (f.text, w) :: after)) ∧
      Column.Described (before ++ (f.text, v) :: after) c := by
  obtain ⟨fs, hfs, hdescribed⟩ := ofJson?_eq_some_iff.mp hc
  obtain hnone | ⟨before, after, hname, hfields⟩ := h.placed
  · cases (hnone v).symm.trans hfs
  · obtain rfl := Option.some.inj ((hfields v).symm.trans hfs)
    exact ⟨before, after, hname, hfields, hdescribed⟩

/-- The number of the column is that of the value in the place. -/
theorem numericText?_eq (hc : Column.ofJson? (col v) = some c) :
    numericText? v = some (c.numeral f) := by
  obtain ⟨before, after, hname, -, hdescribed⟩ := h.exists_fields hc
  have hnumeral := hdescribed.numeral f
  rw [Fields.optional, lookup_place hname] at hnumeral
  exact hnumeral

/-- With another value in the place it is the same column with that value's number. -/
theorem ofJson?_withNumeral (hc : Column.ofJson? (col v) = some c)
    (hw : numericText? w = some text) : Column.ofJson? (col w) = some (c.withNumeral f text) := by
  obtain ⟨before, after, hname, hfields, hdescribed⟩ := h.exists_fields hc
  refine ofJson?_eq_some_iff.mpr ⟨_, hfields w, hdescribed.withNumeral (fun name hne => ?_) ?_⟩
  · rw [lookup_other hne, lookup_other hne]
  · rw [Fields.optional, lookup_place hname]
    exact hw

/-- How the number is written does not matter. -/
theorem ofJson?_congr (hv : numericText? v = some text) (hw : numericText? w = some text) :
    Column.ofJson? (col v) = Column.ofJson? (col w) := by
  -- by symmetry it is enough to follow a column in one direction
  have hsame : ∀ {v w : Json}, numericText? v = some text → numericText? w = some text → ∀ {c},
      Column.ofJson? (col v) = some c → Column.ofJson? (col w) = some c := by
    intro v w hv hw c hc
    obtain rfl : c.numeral f = text := Option.some.inj ((h.numericText?_eq hc).symm.trans hv)
    rw [h.ofJson?_withNumeral hc hw, withNumeral_numeral]
  ext c
  exact ⟨hsame hv hw, hsame hw hv⟩

end Column.WithNumber

/-! ### Integers -/

namespace Text

/-- A digit is no blank. -/
theorem isBlank_of_isDigit {c : Char} (h : c.isDigit = true) : isBlank c = false := by
  rw [Char.isDigit, Bool.and_eq_true, decide_eq_true_eq, decide_eq_true_eq] at h
  have hlow : 48 ≤ c.toNat := h.1
  have hhigh : c.toNat ≤ 57 := h.2
  by_contra hblank
  rw [Bool.not_eq_false] at hblank
  unfold isBlank at hblank
  simp at hblank
  omega

/-- There are no blanks in the text of an integer. -/
theorem trim_toString (n : Int) : trim (toString n) = toString n := by
  have hblank : ∀ c ∈ (toString n).toList, isBlank c = false := by
    intro c hc
    rcases mem_toString_cases hc with hdigit | rfl
    · exact isBlank_of_isDigit hdigit
    · rfl
  have htrimmed : IsTrimmed (toString n).toList :=
    ⟨fun c hc => hblank c (List.mem_of_head? hc), fun c hc => hblank c (List.mem_of_getLast? hc)⟩
  rw [trim, trimChars_of_isTrimmed htrimmed, String.ofList_toList]

/-- An integer of 64 bits is what its text writes. -/
theorem writesInt64_toString {n : Int} (h : fitsInt64 n = true) :
    WritesInt64 (trim (toString n)) n := by
  rw [trim_toString, ← readInt64?_eq_some_iff, readInt64?, readInteger?_toString,
    Option.filter_some, if_pos h]

end Text

/-- Another number in the text is another number of the attributes. -/
theorem Column.Numbers.withNumeral {c : Column} {a : TypeAttributes} (h : c.Numbers a)
    {f : NumericField} {text : String} {n : Int} (htext : Text.WritesInt64 (Text.trim text) n) :
    (c.withNumeral f text).Numbers (a.withNumber f n) := by
  cases f with
  | length => exact ⟨htext, h.precision, h.scale⟩
  | precision => exact ⟨h.length, htext, h.scale⟩
  | scale => exact ⟨h.length, h.precision, htext⟩

/-- A column with an integer in the place of one of its numbers. -/
theorem Column.WithNumber.ofJson?_integer {f : NumericField} {col : Json → Json}
    (h : WithNumber f col) {v : Json} {c : Column} (hc : Column.ofJson? (col v) = some c) {n : Int}
    (hn : Text.fitsInt64 n = true) :
    Column.ofJson? (col (.integer n)) = some (c.withNumeral f (toString n)) ∧
      ∀ {table : String} {a : TypeAttributes}, c.attributes table = .ok a →
        (c.withNumeral f (toString n)).attributes table = .ok (a.withNumber f n) := by
  refine ⟨h.ofJson?_withNumeral hc (if_pos hn), fun {table a} ha => ?_⟩
  have hnumbers := attributes_eq_ok_iff.mp ha
  exact attributes_eq_ok_iff.mpr (hnumbers.withNumeral (Text.writesInt64_toString hn))

/-! ## Reading again -/

/-- **A snapshot that was read from a text is read from every text of its own form in JSON, the
one that is printed included. In a column the integer of 64 bits, its decimal text and, for zero,
null come to the same: the column is the one with any other value in the place, except that the
attribute is the integer.** -/
theorem Snapshot.ofText_toJson :
    (∀ text s, Snapshot.ofText text = .ok s →
      Snapshot.ofJson? s.toJson = some s ∧
      Snapshot.ofText s.toJson.compact = .ok s ∧
      ∀ text', Json.read? text' = some s.toJson → Snapshot.ofText text' = .ok s) ∧
    ∀ f col, Column.WithNumber f col →
      Column.ofJson? (col .null) = Column.ofJson? (col (.integer 0)) ∧
      ∀ n, Text.fitsInt64 n = true →
        Column.ofJson? (col (.integer n)) = Column.ofJson? (col (Json.text (toString n))) ∧
        ∀ v c, Column.ofJson? (col v) = some c →
          Column.ofJson? (col (.integer n)) = some (c.withNumeral f (toString n)) ∧
          ∀ table a, c.attributes table = .ok a →
            (c.withNumeral f (toString n)).attributes table = .ok (a.withNumber f n) := by
  refine ⟨fun text s h => ?_, fun f col h => ⟨h.ofJson?_congr rfl rfl, fun n hn => ?_⟩⟩
  · obtain ⟨j, -, hj⟩ := ofText_eq_ok_iff.mp h
    have hread : Snapshot.ofJson? s.toJson = some s := ofJson?_toJson (canonical_of_ofJson? hj)
    have htext : ∀ text', Json.read? text' = some s.toJson → Snapshot.ofText text' = .ok s :=
      fun text' htext' => ofText_eq_ok_iff.mpr ⟨_, htext', hread⟩
    exact ⟨hread, htext _ (read?_compact s.plain_toJson), htext⟩
  · refine ⟨h.ofJson?_congr (if_pos hn) rfl, fun v c hc => ?_⟩
    obtain ⟨hinteger, hattributes⟩ := h.ofJson?_integer hc hn
    exact ⟨hinteger, fun table a ha => hattributes ha⟩

/-- A snapshot with records in both forms, with kinds of indexes in odd cases and with blanks
around them, and with numbers in all three forms. -/
def harborText : String :=
  "\x7b\"schema\":\"HARBOR\",\"target_version\":\"8.0.28\",\"tables\":["
    ++ "\x7b\"table_name\":\"SHIPS\",\"columns\":[[\"TONS\",\"NUMBER\",\"Y\",\"22\",10,null]],"
    ++ "\"normal_indexes\":[[\"I1\",\"NONUNIQUE\",\" bitmap \"],[\"I2\",\"NONUNIQUE\",\" Domain\"]]"
    ++ "\x7d]\x7d"

/-- The column of that snapshot. -/
def tons : Column := ⟨"TONS", "NUMBER", "Y", "22", "10", "0", "", ""⟩

/-- That snapshot. -/
def harbor : Snapshot :=
  ⟨"HARBOR", "8.0.28",
    [⟨"SHIPS", [], [tons], [], [], [], [], [],
      [⟨"I1", .nonunique, .bitmap, [], []⟩, ⟨"I2", .nonunique, .other " Domain", [], []⟩]⟩]⟩

/-- The column of that snapshot with a value for its scale. -/
def tonsWithScale (v : Json) : Json :=
  .object ([(some "column_name", Json.text "TONS"), (some "data_type", Json.text "NUMBER"),
    (some "data_length", Json.text "22"), (some "data_precision", .integer 10)]
    ++ (some NumericField.scale.text, v) :: [])

/-- It is read from its printed form as it was read the first time, and a scale of -2 is
an integer or a text. -/
theorem harbor_readAgain :
    Snapshot.ofText harborText = .ok harbor ∧ Snapshot.ofText harbor.toJson.compact = .ok harbor ∧
    Column.ofJson? (tonsWithScale .null) = some tons ∧
    Column.ofJson? (tonsWithScale (.integer (-2))) = some (tons.withNumeral .scale "-2") ∧
    Column.ofJson? (tonsWithScale (Json.text "-2")) = some (tons.withNumeral .scale "-2") ∧
    (tons.withNumeral .scale "-2").attributes "SHIPS" = .ok ⟨22, 10, -2⟩ := by
  have htext : Snapshot.ofText harborText = .ok harbor := by decide +kernel
  have hnull : Column.ofJson? (tonsWithScale .null) = some tons := by decide +kernel
  have hplace : Column.WithNumber .scale tonsWithScale := .member _ _
  obtain ⟨hsnapshot, hcolumn⟩ := Snapshot.ofText_toJson
  obtain ⟨-, -, hprinted⟩ := hsnapshot harborText harbor htext
  obtain ⟨-, hinteger⟩ := hcolumn .scale tonsWithScale hplace
  obtain ⟨hsame, hvalue⟩ := hinteger (-2) (by decide)
  obtain ⟨hread, hattributes⟩ := hvalue .null tons hnull
  have hagain := hprinted _ (read?_compact harbor.plain_toJson)
  exact ⟨htext, hagain, hnull, hread, hsame.symm.trans hread,
    hattributes "SHIPS" ⟨22, 10, 0⟩ (by decide +kernel)⟩

end CatalogDdl
