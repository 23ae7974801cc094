import CatalogDdl.Proofs.TableForms
import CatalogDdl.Settings.Document

/-!
# Settings and the entries that give them

Settings are read from the entries of a table field by field, and what a field has is a matter of
the entry of its name. So two tables give the same settings if each of these entries is read to the
same value in both. A value that stands for itself is read the same whichever way values may stand
for each other, and how its tables came about is never asked.

- `ReadsSame`: one way of reading finds at least what another one does.
- `PlanRule.ofToml?_readsSame` and its neighbours: rules are read so, and lists of them.
- `TextSetting`: the settings that are texts.
- `Settings.GivenBy`: which entries give some settings.
- `Settings.ofEntries?_eq_some_iff`: these are the settings that are read.
-/

namespace CatalogDdl

open Toml

/-! ## Values -/

/-- What one way of reading finds in a value, another one finds in it, and in a value that differs
from it in how tables came about. -/
def ReadsSame {α : Type} (read read' : Toml → Option α) : Prop :=
  ∀ ⦃v w a⦄, v.formless = w.formless → read v = some a → read' w = some a

/-- What stands for itself stands for itself in both coercions. -/
theorem Coercion.text?_readsSame : ReadsSame strict.text? lenient.text? := by
  intro v w a h hread
  cases v with
  -- only a text is a text to the strict coercion, and a text has no form
  | text s => cases w <;> simp_all [formless, strict, lenient]
  | _ => cases hread

theorem Coercion.bool?_readsSame : ReadsSame strict.bool? lenient.bool? := by
  intro v w a h hread
  cases v with
  | bool b => cases w <;> simp_all [formless, strict, lenient]
  | _ => cases hread

theorem Coercion.number?_readsSame : ReadsSame strict.number? lenient.number? := by
  intro v w a h hread
  cases v with
  | integer i => cases w <;> simp_all [formless, strict, lenient]
  | _ => cases hread

namespace ReadsSame

variable {α β : Type} {read read' : Toml → Option α} {es fs : Entries} {name : String} {a : α}

/-- What is made of a value is the same if the value is. -/
theorem map (h : ReadsSame read read') (f : α → β) :
    ReadsSame (fun v => (read v).map f) (fun v => (read' v).map f) := by
  intro v w b hlike hb
  obtain ⟨a, ha, rfl⟩ := Option.map_eq_some_iff.mp hb
  exact congrArg (Option.map f) (h hlike ha)

/-- A field that must be there is read the same from entries that differ in forms. -/
theorem required (h : ReadsSame read read') (hes : formlessEntries es = formlessEntries fs)
    (hread : Toml.required es name read = some a) : Toml.required fs name read' = some a := by
  obtain ⟨v, hv, hva⟩ := Option.bind_eq_some_iff.mp hread
  have hlookup : (es.lookup name).map formless = (fs.lookup name).map formless := by
    rw [← lookup_formlessEntries, hes, lookup_formlessEntries]
  rw [hv, Option.map_some] at hlookup
  obtain ⟨w, hw, hlike⟩ := Option.map_eq_some_iff.mp hlookup.symm
  rw [Toml.required, hw]
  exact h hlike.symm hva

/-- So is a field with a fallback, which both entries lack or neither does. -/
theorem optional {fallback : α} (h : ReadsSame read read')
    (hes : formlessEntries es = formlessEntries fs)
    (hread : Toml.optional es name fallback read = some a) :
    Toml.optional fs name fallback read' = some a := by
  have hlookup : (es.lookup name).map formless = (fs.lookup name).map formless := by
    rw [← lookup_formlessEntries, hes, lookup_formlessEntries]
  unfold Toml.optional at hread ⊢
  -- an entry is there in both or in neither, whatever its form
  cases hv : es.lookup name with
  | none =>
    rw [hv] at hread hlookup
    rw [Option.map_eq_none_iff.mp hlookup.symm]
    exact hread
  | some v =>
    rw [hv] at hread hlookup
    obtain ⟨w, hw, hlike⟩ := Option.map_eq_some_iff.mp hlookup.symm
    rw [hw]
    exact h hlike.symm hread

/-- Items are read one by one. -/
theorem mapM (h : ReadsSame read read') {items items' : List Toml} {as : List α}
    (hitems : items.map formless = items'.map formless) (hread : items.mapM read = some as) :
    items'.mapM read' = some as := by
  -- the two lists have the same length, so they are taken apart together
  induction items generalizing items' as with
  | nil =>
    rw [List.map_eq_nil_iff.mp hitems.symm]
    exact hread
  | cons v items ih =>
    cases items' with
    | nil => cases hitems
    | cons w items' =>
      obtain ⟨hlike, hrest⟩ := List.cons.inj hitems
      rw [List.mapM_cons] at hread ⊢
      obtain ⟨a, ha, hread⟩ := Option.bind_eq_some_iff.mp hread
      obtain ⟨as, has, hread⟩ := Option.bind_eq_some_iff.mp hread
      cases hread
      rw [h hlike ha, ih hrest has]
      rfl

theorem toList? (h : ReadsSame read read') :
    ReadsSame (Toml.toList? read) (Toml.toList? read') := by
  intro v w as hlike hread
  cases v with
  | array byHeaders items =>
    obtain ⟨items', rfl, hitems⟩ := exists_array_of_formless_eq hlike
    exact h.mapM hitems hread
  | _ => cases hread

end ReadsSame

/-! ## Rules -/

/-- A record that is written as a list has the items as its fields, forms apart. -/
theorem formlessEntries_zip (names : List String) {items items' : List Toml}
    (h : items.map formless = items'.map formless) :
    formlessEntries (names.zip items) = formlessEntries (names.zip items') := by
  have hzip : ∀ items : List Toml,
      formlessEntries (names.zip items) = names.zip (items.map formless) := by
    intro items
    rw [formlessEntries_eq_map, List.zip_map_right]
    rfl
  rw [hzip, hzip, h]

/-- The fields of a record are the same for values that differ in forms. -/
theorem Toml.record?_alike {names : List String} {v w : Toml} {es : Entries}
    (h : v.formless = w.formless) (hv : v.record? names = some es) :
    ∃ fs, w.record? names = some fs ∧ formlessEntries es = formlessEntries fs := by
  -- a record is a table with the names of the fields, or a list without them
  cases v with
  | table form entries =>
    obtain ⟨form', fs, rfl, hlike⟩ := exists_table_of_formless_eq h
    cases hv
    exact ⟨fs, rfl, hlike⟩
  | array byHeaders items =>
    obtain ⟨items', rfl, hitems⟩ := exists_array_of_formless_eq h
    cases hv
    exact ⟨_, rfl, formlessEntries_zip names hitems⟩
  | _ => cases hv

/-- Rules are read the same because their fields are. -/
theorem PlanRule.ofToml?_readsSame : ReadsSame (ofToml? .strict) (ofToml? .lenient) := by
  intro v w r hlike hread
  obtain ⟨es, hes, hread⟩ := Option.bind_eq_some_iff.mp hread
  obtain ⟨sourceType, hsource, hread⟩ := Option.bind_eq_some_iff.mp hread
  obtain ⟨targetType, htarget, hread⟩ := Option.bind_eq_some_iff.mp hread
  obtain ⟨fs, hfs, hentries⟩ := record?_alike hlike hes
  have hsource := Coercion.text?_readsSame.required hentries hsource
  have htarget := Coercion.text?_readsSame.required hentries htarget
  simp only [ofToml?, hfs, hsource, htarget, Option.bind_eq_bind, Option.bind_some]
  exact hread

/-- A custom rule may lack its table. -/
theorem CustomRule.ofToml?_readsSame : ReadsSame (ofToml? .strict) (ofToml? .lenient) := by
  intro v w r hlike hread
  obtain ⟨es, hes, hread⟩ := Option.bind_eq_some_iff.mp hread
  obtain ⟨table, htable, hread⟩ := Option.bind_eq_some_iff.mp hread
  obtain ⟨column, hcolumn, hread⟩ := Option.bind_eq_some_iff.mp hread
  obtain ⟨sourceType, hsource, hread⟩ := Option.bind_eq_some_iff.mp hread
  obtain ⟨targetType, htarget, hread⟩ := Option.bind_eq_some_iff.mp hread
  obtain ⟨fs, hfs, hentries⟩ := record?_alike hlike hes
  have htable := (Coercion.text?_readsSame.map some).optional hentries htable
  have hcolumn := Coercion.text?_readsSame.required hentries hcolumn
  have hsource := Coercion.text?_readsSame.required hentries hsource
  have htarget := Coercion.text?_readsSame.required hentries htarget
  simp only [ofToml?, hfs, htable, hcolumn, hsource, htarget, Option.bind_eq_bind, Option.bind_some]
  exact hread

theorem Rename.ofToml?_readsSame : ReadsSame (ofToml? .strict) (ofToml? .lenient) := by
  intro v w r hlike hread
  obtain ⟨es, hes, hread⟩ := Option.bind_eq_some_iff.mp hread
  obtain ⟨sourceTable, hsource, hread⟩ := Option.bind_eq_some_iff.mp hread
  obtain ⟨targetTable, htarget, hread⟩ := Option.bind_eq_some_iff.mp hread
  obtain ⟨fs, hfs, hentries⟩ := record?_alike hlike hes
  have hsource := Coercion.text?_readsSame.required hentries hsource
  have htarget := Coercion.text?_readsSame.required hentries htarget
  simp only [ofToml?, hfs, hsource, htarget, Option.bind_eq_bind, Option.bind_some]
  exact hread

/-! ## Settings that are texts -/

/-- A setting that is a text. -/
inductive TextSetting where
  | catalogFile
  | sourceSchema
  | targetSchema
  | includeTables
  | excludeTables
  | outputDir
  | tableOption
  | logLevel
  deriving DecidableEq, Repr

namespace TextSetting

/-- The name of the entry that gives the setting. -/
def key : TextSetting → String
  | catalogFile => "catalog_file"
  | sourceSchema => "source_schema"
  | targetSchema => "target_schema"
  | includeTables => "include_tables"
  | excludeTables => "exclude_tables"
  | outputDir => "output_dir"
  | tableOption => "table_option"
  | logLevel => "log_level"

/-- What some settings have for it, which may be nothing for two of them. -/
def get (s : Settings) : TextSetting → Option String
  | catalogFile => some s.catalogFile
  | sourceSchema => some s.sourceSchema
  | targetSchema => s.targetSchema
  | includeTables => some s.includeTables
  | excludeTables => some s.excludeTables
  | outputDir => some s.outputDir
  | tableOption => some s.tableOption
  | logLevel => s.logLevel

/-- Settings with another text for it. -/
def put (text : String) (s : Settings) : TextSetting → Settings
  | catalogFile => { s with catalogFile := text }
  | sourceSchema => { s with sourceSchema := text }
  | targetSchema => { s with targetSchema := some text }
  | includeTables => { s with includeTables := text }
  | excludeTables => { s with excludeTables := text }
  | outputDir => { s with outputDir := text }
  | tableOption => { s with tableOption := text }
  | logLevel => { s with logLevel := some text }

/-- What entries give for it. -/
def read (c : Coercion) (es : Entries) (f : TextSetting) : Option (Option String) :=
  Toml.optional es f.key (f.get {}) fun v => (c.text? v).map some

/-- No two settings share an entry. -/
theorem key_injective : Function.Injective key := by
  intro f g h
  cases f <;> cases g <;> first | rfl | exact absurd h (by decide)

/-- A text that is put is had afterwards, and the other settings stay what they were. -/
theorem get_put (f g : TextSetting) (text : String) (s : Settings) :
    get (put text s f) g = if g = f then some text else get s g := by
  cases f <;> cases g <;> rfl

end TextSetting

/-! ## All settings -/

namespace Settings

/-- Some settings are those that entries give. -/
structure GivenBy (c : Coercion) (es : Entries) (s : Settings) : Prop where
  texts : ∀ f : TextSetting, f.read c es = some (f.get s)
  threads : Toml.optional es "threads" 4 c.number? = some s.threads
  failFast : Toml.optional es "fail_fast" false c.bool? = some s.failFast
  dryRun : Toml.optional es "dry_run" false c.bool? = some s.dryRun
  planRules :
    Toml.optional es "column_type_rules" [] (Toml.toList? (PlanRule.ofToml? c)) = some s.planRules
  customRules :
    Toml.optional es "custom_column_rules" [] (Toml.toList? (CustomRule.ofToml? c)) =
      some s.customRules
  renames : Toml.optional es "table_rules" [] (Toml.toList? (Rename.ofToml? c)) = some s.renames

theorem optional_map {α β : Type} (es : Entries) (name : String) (d : α) (read : Toml → Option α)
    (f : α → β) :
    Toml.optional es name (f d) (fun v => (read v).map f) = (Toml.optional es name d read).map f := by
  unfold Toml.optional
  cases es.lookup name <;> rfl

/-- A setting that must have a text, said like the two that may have none. -/
theorem optional_some_iff {es : Entries} {name d s : String} {c : Coercion} :
    Toml.optional es name (some d) (fun v => (c.text? v).map some) = some (some s) ↔
      Toml.optional es name d c.text? = some s := by
  rw [optional_map es name d c.text? some]
  cases Toml.optional es name d c.text? <;> simp

/-- **The settings that are read from entries are the ones that they give.** -/
theorem ofEntries?_eq_some_iff {c : Coercion} {es : Entries} {s : Settings} :
    ofEntries? c es = some s ↔ GivenBy c es s := by
  constructor
  · intro h
    -- the fields are read one after the other, each from its own entry
    obtain ⟨catalogFile, h1, h⟩ := Option.bind_eq_some_iff.mp h
    obtain ⟨sourceSchema, h2, h⟩ := Option.bind_eq_some_iff.mp h
    obtain ⟨targetSchema, h3, h⟩ := Option.bind_eq_some_iff.mp h
    obtain ⟨includeTables, h4, h⟩ := Option.bind_eq_some_iff.mp h
    obtain ⟨excludeTables, h5, h⟩ := Option.bind_eq_some_iff.mp h
    obtain ⟨outputDir, h6, h⟩ := Option.bind_eq_some_iff.mp h
    obtain ⟨threads, hthreads, h⟩ := Option.bind_eq_some_iff.mp h
    obtain ⟨tableOption, h7, h⟩ := Option.bind_eq_some_iff.mp h
    obtain ⟨failFast, hfailFast, h⟩ := Option.bind_eq_some_iff.mp h
    obtain ⟨dryRun, hdryRun, h⟩ := Option.bind_eq_some_iff.mp h
    obtain ⟨logLevel, h8, h⟩ := Option.bind_eq_some_iff.mp h
    obtain ⟨planRules, hplan, h⟩ := Option.bind_eq_some_iff.mp h
    obtain ⟨customRules, hcustom, h⟩ := Option.bind_eq_some_iff.mp h
    obtain ⟨renames, hrenames, h⟩ := Option.bind_eq_some_iff.mp h
    cases h
    refine ⟨fun f => ?_, hthreads, hfailFast, hdryRun, hplan, hcustom, hrenames⟩
    -- two of the texts may be missing; for the others a text is all there is
    cases f with
    | targetSchema => exact h3
    | logLevel => exact h8
    | catalogFile => exact optional_some_iff.mpr h1
    | sourceSchema => exact optional_some_iff.mpr h2
    | includeTables => exact optional_some_iff.mpr h4
    | excludeTables => exact optional_some_iff.mpr h5
    | outputDir => exact optional_some_iff.mpr h6
    | tableOption => exact optional_some_iff.mpr h7
  · intro h
    -- the way back takes the fields in the order in which they are read
    refine Option.bind_eq_some_iff.mpr ⟨_, optional_some_iff.mp (h.texts .catalogFile), ?_⟩
    refine Option.bind_eq_some_iff.mpr ⟨_, optional_some_iff.mp (h.texts .sourceSchema), ?_⟩
    refine Option.bind_eq_some_iff.mpr ⟨_, h.texts .targetSchema, ?_⟩
    refine Option.bind_eq_some_iff.mpr ⟨_, optional_some_iff.mp (h.texts .includeTables), ?_⟩
    refine Option.bind_eq_some_iff.mpr ⟨_, optional_some_iff.mp (h.texts .excludeTables), ?_⟩
    refine Option.bind_eq_some_iff.mpr ⟨_, optional_some_iff.mp (h.texts .outputDir), ?_⟩
    refine Option.bind_eq_some_iff.mpr ⟨_, h.threads, ?_⟩
    refine Option.bind_eq_some_iff.mpr ⟨_, optional_some_iff.mp (h.texts .tableOption), ?_⟩
    refine Option.bind_eq_some_iff.mpr ⟨_, h.failFast, ?_⟩
    refine Option.bind_eq_some_iff.mpr ⟨_, h.dryRun, ?_⟩
    refine Option.bind_eq_some_iff.mpr ⟨_, h.texts .logLevel, ?_⟩
    refine Option.bind_eq_some_iff.mpr ⟨_, h.planRules, ?_⟩
    refine Option.bind_eq_some_iff.mpr ⟨_, h.customRules, ?_⟩
    exact Option.bind_eq_some_iff.mpr ⟨_, h.renames, rfl⟩

end Settings

end CatalogDdl
