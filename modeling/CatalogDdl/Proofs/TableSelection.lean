import CatalogDdl.Proofs.Text
import CatalogDdl.Proofs.Words
import CatalogDdl.Run.Selection
import CatalogDdl.Settings.Basic

/-!
# Which tables are selected

Two lists decide which tables are selected. What they say is told here from their texts, not
from the way they are taken apart: the pieces of a list are the texts without commas that it is
put together from, and an entry is a piece, trimmed and in upper case. So it does not matter
how a list is spelled, only which entries it has.

The two lists differ in what a blank entry does. Among the tables to leave out it is none; among
those to take it is the entry of a table without a name. And a list of tables to take that is
blank, or a star, has no entries at all but takes every table.

- `IsPieces`, `HasEntry`: the pieces of a list, and its entries.
- `TakesAll`, `IsSelected`: which tables two lists select.
- `hasEntry_iff`, `isSelected_iff`: the program finds these entries, and selects these tables.
- `not_takesAll_joinWith`: a list of names that is put together never takes every table by chance.
- `selectTables_spec`: what a selection is, and what it does not depend on.
-/

namespace CatalogDdl

/-! ## Lists -/

/-- Texts are the pieces of a list: they have no commas, and with commas between them they are
the list. -/
structure IsPieces (list : String) (pieces : List String) : Prop where
  nonempty : pieces ≠ []
  apart : ∀ p ∈ pieces, ',' ∉ p.toList
  joined : Text.joinWith "," pieces = list

/-- A list has an entry: one of its pieces, trimmed and in upper case. -/
def HasEntry (list entry : String) : Prop :=
  ∃ pieces, IsPieces list pieces ∧ ∃ p ∈ pieces, entry = Text.upper (Text.trim p)

/-- A list takes every table: it is blank or a star. -/
def TakesAll (list : String) : Prop := Text.trim list = "" ∨ Text.trim list = "*"

/-- A table is selected: the list of the tables to take takes every table or has it as an entry,
and the list of the tables to leave out does not have it as an entry that is not blank. -/
def IsSelected (included excluded table : String) : Prop :=
  (TakesAll included ∨ HasEntry included (Text.upper table)) ∧
    ¬ (HasEntry excluded (Text.upper table) ∧ Text.upper table ≠ "")

/-- A list has the pieces that it is divided into. -/
theorem isPieces_split (list : String) : IsPieces list (Text.split ',' list) := by
  obtain ⟨hne, hapart, hjoined⟩ := Text.joinCharsWith_splitAt ',' list.toList
  refine ⟨mt List.map_eq_nil_iff.mp hne, fun p hp => ?_, ?_⟩
  · obtain ⟨cs, hcs, rfl⟩ := List.mem_map.mp hp
    rw [String.toList_ofList]
    exact hapart cs hcs
  · have hsame : (Text.split ',' list).map String.toList = Text.splitAt ',' list.toList := by
      simp [Text.split]
    rw [← String.toList_inj, Text.toList_joinWith, hsame]
    exact hjoined

/-- A list has no other pieces. -/
theorem IsPieces.eq_split {list : String} {pieces : List String} (h : IsPieces list pieces) :
    pieces = Text.split ',' list := by
  have hcomma : ",".toList = [','] := rfl
  rw [← h.joined, Text.split_joinWith hcomma h.nonempty h.apart]

/-- The entries that are found are those that a list has. -/
theorem hasEntry_iff {list entry : String} : HasEntry list entry ↔ entry ∈ listEntries list := by
  rw [listEntries, List.mem_map]
  constructor
  · rintro ⟨pieces, hpieces, p, hp, rfl⟩
    exact ⟨p, hpieces.eq_split ▸ hp, rfl⟩
  · rintro ⟨p, hp, rfl⟩
    exact ⟨_, isPieces_split list, p, hp, rfl⟩

/-- The entries of a list that was put together. -/
theorem hasEntry_joinWith_iff {names : List String} (hne : names ≠ [])
    (hapart : ∀ n ∈ names, ',' ∉ n.toList) {entry : String} :
    HasEntry (Text.joinWith "," names) entry ↔ ∃ n ∈ names, entry = Text.upper (Text.trim n) := by
  have hpieces : IsPieces (Text.joinWith "," names) names := ⟨hne, hapart, rfl⟩
  constructor
  · rintro ⟨pieces, h, hentry⟩
    rwa [h.eq_split, ← hpieces.eq_split] at hentry
  · exact fun hentry => ⟨names, hpieces, hentry⟩

theorem takesAll_iff {list : String} : TakesAll list ↔ takesAll list = true := by
  rw [TakesAll, takesAll, Bool.or_eq_true, beq_iff_eq, String.isEmpty_iff, or_comm]

/-- A comma stays when a text is trimmed, and neither of the lists that take every table has
one. -/
theorem comma_not_mem_of_takesAll {list : String} (h : TakesAll list) : ',' ∉ list.toList := by
  intro hcomma
  obtain ⟨front, back, hlist, hfront, hback⟩ := Text.exists_eq_append_trimChars list.toList
  have hmem : ',' ∈ (Text.trim list).toList := by
    rw [Text.trim, String.toList_ofList]
    rw [hlist] at hcomma
    have hblank : ¬ Text.isBlank ',' = true := by decide
    rcases List.mem_append.mp hcomma with hcomma | hcomma
    · exact (List.mem_append.mp hcomma).resolve_left fun hc => hblank (hfront ',' hc)
    · exact absurd (hback ',' hcomma) hblank
  rcases h with h | h <;> rw [h] at hmem <;> exact absurd hmem (by decide)

/-- A list of names that are not blank takes every table only if it is a star alone. -/
theorem not_takesAll_joinWith {names : List String} (hne : names ≠ [])
    (hblank : ∀ n ∈ names, Text.trim n ≠ "") (hstar : ∀ n, names = [n] → Text.trim n ≠ "*") :
    ¬ TakesAll (Text.joinWith "," names) := by
  cases names with
  | nil => exact absurd rfl hne
  | cons n names =>
    cases names with
    | nil => exact fun h => h.elim (hblank n (List.mem_singleton_self n)) (hstar n rfl)
    | cons m names =>
      -- there is a comma behind the first name
      intro h
      refine comma_not_mem_of_takesAll h ?_
      rw [Text.toList_joinWith]
      simp [Text.joinCharsWith]

/-! ## Selections -/

/-- The tables that pass both lists are those that are selected. -/
theorem isSelected_iff {included excluded table : String} :
    IsSelected included excluded table ↔
      (isIncluded included table && !isExcluded excluded table) = true := by
  have hincluded : isIncluded included table = true ↔
      TakesAll included ∨ HasEntry included (Text.upper table) := by
    rw [isIncluded, Bool.or_eq_true, takesAll_iff, hasEntry_iff, List.contains_iff_mem]
  have hexcluded : isExcluded excluded table = true ↔
      HasEntry excluded (Text.upper table) ∧ Text.upper table ≠ "" := by
    rw [isExcluded, List.contains_iff_mem, List.mem_filter, hasEntry_iff, Bool.not_eq_true',
      ← Bool.not_eq_true, String.isEmpty_iff]
  rw [IsSelected, Bool.and_eq_true, hincluded, Bool.not_eq_true', ← Bool.not_eq_true, hexcluded]

instance (included excluded : String) : DecidablePred (IsSelected included excluded) := fun _ =>
  decidable_of_iff _ isSelected_iff.symm

theorem selectTables_eq (included excluded : String) (tables : List String) :
    selectTables included excluded tables
      = tables.filter fun t => IsSelected included excluded t := by
  refine List.filter_congr fun t _ => ?_
  rw [Bool.eq_iff_iff, ← isSelected_iff, decide_eq_true_iff]

/-- Lists that select the same tables from every list do so for each of them. -/
theorem selectTables_congr {included included' excluded excluded' : String}
    (h : ∀ t, IsSelected included excluded t ↔ IsSelected included' excluded' t)
    (tables : List String) :
    selectTables included excluded tables = selectTables included' excluded' tables := by
  rw [selectTables_eq, selectTables_eq]
  exact List.filter_congr fun t _ => decide_eq_decide.mpr (h t)

/-- **Two lists select tables by their entries.** Of any tables, a selection has those that are
selected, in their order and as often as they are there. Selecting again changes nothing, and tables
can be selected part by part. Only the entries of the lists matter: those of the tables to leave
out as far as they are not blank, and those of the tables to take unless these are all. A list of
names that is put together has these names as its entries. -/
theorem selectTables_spec :
    (∀ included excluded tables,
      selectTables included excluded tables
        = tables.filter fun t => IsSelected included excluded t) ∧
    (∀ included excluded tables,
      selectTables included excluded (selectTables included excluded tables)
        = selectTables included excluded tables) ∧
    (∀ included excluded tables others,
      selectTables included excluded (tables ++ others)
        = selectTables included excluded tables ++ selectTables included excluded others) ∧
    (∀ included excluded excluded',
      (∀ e ≠ "", HasEntry excluded e ↔ HasEntry excluded' e) → ∀ tables,
        selectTables included excluded tables = selectTables included excluded' tables) ∧
    (∀ included included' excluded, ¬ TakesAll included → ¬ TakesAll included' →
      (∀ e, HasEntry included e ↔ HasEntry included' e) → ∀ tables,
        selectTables included excluded tables = selectTables included' excluded tables) ∧
    ∀ (s : Settings) (names : List String), s.excludeTables = "" → names ≠ [] →
      (∀ n ∈ names, ',' ∉ n.toList ∧ Text.trim n ≠ "") →
      (∀ n, names = [n] → Text.trim n ≠ "*") → ∀ tables,
        selectTables (s.withIncluded names).includeTables (s.withIncluded names).excludeTables
            tables
          = tables.filter fun t => ∃ n ∈ names, Text.upper t = Text.upper (Text.trim n) := by
  refine ⟨selectTables_eq, fun included excluded tables => ?_,
    fun included excluded tables others => List.filter_append ..,
    fun included excluded excluded' hsame => selectTables_congr fun t => ?_,
    fun included included' excluded hsome hsome' hsame => selectTables_congr fun t => ?_,
    fun s names hexcluded hne hnames hstar tables => ?_⟩
  · unfold selectTables
    rw [List.filter_filter]
    exact List.filter_congr fun t _ => Bool.and_self _
  · -- an entry that is blank does not count in either list
    have hentry : HasEntry excluded (Text.upper t) ∧ Text.upper t ≠ "" ↔
        HasEntry excluded' (Text.upper t) ∧ Text.upper t ≠ "" :=
      and_congr_left fun hne => hsame _ hne
    rw [IsSelected, IsSelected, hentry]
  · rw [IsSelected, IsSelected, or_iff_right hsome, or_iff_right hsome', hsame]
  · obtain ⟨hapart, hblank⟩ := forall₂_and.mp hnames
    have hsome := not_takesAll_joinWith hne hblank hstar
    rw [selectTables_eq]
    refine List.filter_congr fun t _ => decide_eq_decide.mpr ?_
    have hnone : ¬ (HasEntry "" (Text.upper t) ∧ Text.upper t ≠ "") := by
      rintro ⟨hentry, hname⟩
      exact hname (List.mem_singleton.mp (hasEntry_iff.mp hentry))
    show IsSelected (Text.joinWith "," names) s.excludeTables t ↔ _
    rw [hexcluded, IsSelected, or_iff_right hsome, and_iff_left hnone,
      hasEntry_joinWith_iff hne hapart]

/-- Two lists that are spelled differently select the same tables from any others, and a list
put together from two names selects their tables. -/
theorem selectTables_respelled :
    (∀ tables, selectTables "orders, customers" "audit" tables
      = selectTables "CUSTOMERS,Orders,ORDERS " ",AUDIT" tables) ∧
    selectTables ((Settings.new "catalog.json" "MARVIN").withIncluded
        ["orders", " Customers "]).includeTables "" ["CUSTOMERS", "AUDIT", "ORDERS", "ORDERS"]
      = ["CUSTOMERS", "ORDERS", "ORDERS"] := by
  obtain ⟨-, -, -, hexcluded, hincluded, hbuilt⟩ := selectTables_spec
  constructor
  · intro tables
    have horders : listEntries "orders, customers" = ["ORDERS", "CUSTOMERS"] := by decide +kernel
    have hcustomers :
        listEntries "CUSTOMERS,Orders,ORDERS " = ["CUSTOMERS", "ORDERS", "ORDERS"] := by
      decide +kernel
    have haudit : listEntries "audit" = ["AUDIT"] := by decide +kernel
    have hblank : listEntries ",AUDIT" = ["", "AUDIT"] := by decide +kernel
    have hsome : ¬ TakesAll "orders, customers" := by
      rw [takesAll_iff]
      decide +kernel
    have hsome' : ¬ TakesAll "CUSTOMERS,Orders,ORDERS " := by
      rw [takesAll_iff]
      decide +kernel
    have hnames : ∀ e, HasEntry "orders, customers" e ↔ HasEntry "CUSTOMERS,Orders,ORDERS " e := by
      intro e
      rw [hasEntry_iff, hasEntry_iff, horders, hcustomers]
      simp [or_comm]
    have hleft : ∀ e ≠ "", HasEntry "audit" e ↔ HasEntry ",AUDIT" e := by
      intro e he
      rw [hasEntry_iff, hasEntry_iff, haudit, hblank]
      simp [he]
    exact (hincluded _ _ "audit" hsome hsome' hnames tables).trans
      (hexcluded _ "audit" ",AUDIT" hleft tables)
  · have hnames : ∀ n ∈ ["orders", " Customers "], ',' ∉ n.toList ∧ Text.trim n ≠ "" := by
      decide +kernel
    have htwo : ∀ n, ["orders", " Customers "] = [n] → Text.trim n ≠ "*" := by
      intro n h
      simp at h
    exact (hbuilt (Settings.new "catalog.json" "MARVIN") ["orders", " Customers "] rfl
      (List.cons_ne_nil _ _) hnames htwo _).trans (by decide +kernel)

end CatalogDdl
