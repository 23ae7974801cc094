import CatalogDdl.Proofs.DottedKeys
import CatalogDdl.Proofs.DryRun
import CatalogDdl.Proofs.SettingsEntries
import CatalogDdl.Settings.Load
import Mathlib.Data.List.TakeWhile

/-!
# Settings from a file and from layers

Settings are loaded in two ways. From a file alone, each value must be of the kind of its setting.
From layers, of which the environment is the last one, names are paths, tables are merged, and
values of one kind stand for values of another. If the names of a document are plain names, neither
of it matters: each value stays where it is, and a value that stands for itself is what the setting
has. A variable for a text replaces this text and nothing else.

What is left are documents that are refused as a layer, although they can be read alone: for
integers of more than 64 bits, for what dotted keys do, and files that have nothing but `.toml` for a
name, because they have no extension.

- `IsBareName`: the names that are no paths.
- `Layer.lookup_onto`: the entries after a source with such names.
- `IsPlainText`: the values of variables that stay texts.
- `Settings.overridden`: settings with the texts of an environment.
- `Settings.FitsLayer`: the documents that are taken as a layer too.
- `Settings.load_agrees`: both ways, for the same file.
- `Settings.not_loadersAgree`: three files that only the first way takes.
-/

namespace CatalogDdl

open Toml

/-! ## Names -/

/-- A name of letters, digits, underscores and hyphens, which is not empty. -/
def IsBareName (name : String) : Prop := name.toList ≠ [] ∧ ∀ c ∈ name.toList, isBare c = true

-- by `List.all`, as there are finitely many characters and all of them could be tried instead
instance : DecidablePred IsBareName := fun name =>
  decidable_of_iff (name.toList ≠ [] ∧ name.toList.all isBare = true)
    (by rw [List.all_eq_true]; rfl)

variable {name : String} {es fs : Entries}

/-- A bare name is a key of one step. -/
theorem Selector.ofText?_of_bare (h : IsBareName name) : Selector.ofText? name = some [.name name] := by
  obtain ⟨hne, hbare⟩ := h
  have hchar : ∀ c ∈ name.toList, isNameChar c = true := hbare
  have hdot : '.' ∉ name.toList := fun hmem => absurd (hbare _ hmem) (by decide)
  have htake : name.toList.takeWhile isNameChar = name.toList := List.takeWhile_eq_self_iff.mpr hchar
  have hdrop : name.toList.dropWhile isNameChar = [] := List.dropWhile_eq_nil_iff.mpr hchar
  have hpiece : ofPiece? name.toList = some [.name name] := by
    unfold ofPiece?
    rw [htake, hdrop]
    have hempty : name.toList.isEmpty = false := List.isEmpty_eq_false_iff.mpr hne
    simp [hempty, Text.splitAt, String.ofList_toList]
  rw [ofText?, Text.splitAt_of_not_mem hdot, List.mapM_cons, hpiece]
  rfl

/-- A bare name changes the entry of this name. -/
theorem putKey_of_bare (h : IsBareName name) (base : Entries) (v : Toml) :
    putKey base name v = putEntry name v.overlay base := by
  rw [putKey, Selector.ofText?_of_bare h]
  rfl

namespace Toml

/-- A changed entry is found under its name, and all others as before. -/
theorem lookup_putEntry (name other : String) (change : Option Toml → Toml) (es : Entries) :
    (putEntry name change es).lookup other =
      if other = name then some (change (es.lookup name)) else es.lookup other := by
  induction es with
  | nil =>
    rw [putEntry, List.lookup_cons, List.lookup_nil, List.lookup_nil]
    by_cases h : other = name
    · rw [if_pos h, h, beq_self_eq_true]
    · rw [if_neg h, beq_false_of_ne h]
  | cons x es ih =>
    obtain ⟨n, v⟩ := x
    rw [putEntry]
    by_cases hn : n = name
    · subst hn
      rw [if_pos rfl, List.lookup_cons, List.lookup_cons, List.lookup_cons, beq_self_eq_true]
      by_cases h : other = n
      · rw [if_pos h, h, beq_self_eq_true]
      · rw [if_neg h, beq_false_of_ne h]
    · rw [if_neg hn, List.lookup_cons, List.lookup_cons, List.lookup_cons, ih,
        beq_false_of_ne (Ne.symm hn)]
      by_cases h : other = name
      · rw [if_pos h, if_pos h, h, beq_false_of_ne (Ne.symm hn)]
      · rw [if_neg h, if_neg h]

/-- What is no table takes the place of what is there. -/
theorem overlay_of_entries?_eq_none {v : Toml} (h : v.entries? = none) (old : Option Toml) :
    v.overlay old = v := by
  cases v with
  | table form es => cases h
  | _ => rw [overlay]; nofun

end Toml

/-! ## Layers -/

/-- **The entries after a source** whose keys are different bare names. -/
theorem Layer.lookup_onto {l : Layer} (hbare : ∀ x ∈ l, IsBareName x.1)
    (hdistinct : (l.map Prod.fst).Nodup) (base : Entries) (name : String) :
    (l.onto base).lookup name =
      match l.lookup name with
      | some v => some (v.overlay (base.lookup name))
      | none => base.lookup name := by
  induction l generalizing base with
  | nil => rfl
  | cons x l ih =>
    obtain ⟨key, v⟩ := x
    obtain ⟨hkey, hrest⟩ := List.forall_mem_cons.mp hbare
    obtain ⟨hnew, hdistinct⟩ := List.nodup_cons.mp hdistinct
    have hstep : Layer.onto ((key, v) :: l) base = Layer.onto l (putKey base key v) := rfl
    rw [hstep, ih hrest hdistinct, putKey_of_bare hkey, lookup_putEntry, List.lookup_cons]
    -- the first key is not among the later ones, so nothing is merged into it twice
    by_cases h : name = key
    · subst h
      have hnone : l.lookup name = none := by
        refine List.lookup_eq_none_iff.mpr fun x hx => ?_
        rw [bne_iff_ne]
        rintro rfl
        have hmem : x.1 ∈ l.map Prod.fst := List.mem_map_of_mem hx
        exact hnew hmem
      rw [hnone, if_pos rfl, beq_self_eq_true]
    · rw [if_neg h, beq_false_of_ne h]

/-- A setting that is read from a table: no table stands for it, so what is given for it is not
merged with anything. -/
theorem ReadsSame.overlaid {α : Type} {read read' : Toml → Option α} (h : ReadsSame read read')
    (hno : ∀ form es, read (.table form es) = none) :
    ReadsSame read fun w => read' (w.overlay none) := by
  intro v w a hlike hread
  -- a table in its place would be one in the other form as well, and that is not read
  have hentries : w.entries? = none := by
    cases w with
    | table form es =>
      obtain ⟨form', es', rfl, -⟩ := exists_table_of_formless_eq hlike.symm
      rw [hno] at hread
      cases hread
    | _ => rfl
  show read' (w.overlay none) = some a
  rw [overlay_of_entries?_eq_none hentries]
  exact h hlike hread

/-- What is looked up from a layer is what the document has there, laid over nothing. -/
theorem optional_of_lookup {α : Type} {ls : Entries} {d : α} {read : Toml → Option α}
    (h : ls.lookup name = (es.lookup name).map fun v => v.overlay none) :
    Toml.optional ls name d read = Toml.optional es name d fun v => read (v.overlay none) := by
  unfold Toml.optional
  rw [h]
  cases es.lookup name <;> rfl

namespace Settings

variable {s : Settings}

/-- **Settings that are read from entries alone are read from these as a layer.** -/
theorem GivenBy.layered {ls : Entries} (h : GivenBy .strict es s)
    (hlike : formlessEntries es = formlessEntries fs)
    (hlookup : ∀ name, ls.lookup name = (fs.lookup name).map fun v => v.overlay none) :
    GivenBy .lenient ls s := by
  have hoptional : ∀ {α : Type} {name : String} {d a : α} {read read' : Toml → Option α},
      ReadsSame read read' → (∀ form es, read (.table form es) = none) →
        Toml.optional es name d read = some a → Toml.optional ls name d read' = some a := by
    intro α name d a read read' hsame hno hread
    rw [optional_of_lookup (hlookup name)]
    exact (hsame.overlaid hno).optional hlike hread
  exact {
    texts := fun f =>
      hoptional (Coercion.text?_readsSame.map some) (fun _ _ => rfl) (h.texts f)
    threads := hoptional Coercion.number?_readsSame (fun _ _ => rfl) h.threads
    failFast := hoptional Coercion.bool?_readsSame (fun _ _ => rfl) h.failFast
    dryRun := hoptional Coercion.bool?_readsSame (fun _ _ => rfl) h.dryRun
    planRules := hoptional PlanRule.ofToml?_readsSame.toList? (fun _ _ => rfl) h.planRules
    customRules := hoptional CustomRule.ofToml?_readsSame.toList? (fun _ _ => rfl) h.customRules
    renames := hoptional Rename.ofToml?_readsSame.toList? (fun _ _ => rfl) h.renames }

/-- A text that is given for a setting replaces this setting. -/
theorem GivenBy.put (h : GivenBy .lenient es s) (f : TextSetting) (text : String) :
    GivenBy .lenient (putKey es f.key (.text text)) (f.put text s) := by
  have hkey : IsBareName f.key := by cases f <;> decide
  have hother : ∀ {α : Type} {name : String} {d : α} {read : Toml → Option α}, name ≠ f.key →
      Toml.optional (putKey es f.key (.text text)) name d read = Toml.optional es name d read := by
    intro α name d read hname
    unfold Toml.optional
    rw [putKey_of_bare hkey, lookup_putEntry, if_neg hname]
  have hsame : Toml.optional (putKey es f.key (.text text)) f.key (f.get {})
      (fun v => (Coercion.lenient.text? v).map some) = some (some text) := by
    unfold Toml.optional
    rw [putKey_of_bare hkey, lookup_putEntry, if_pos rfl]
    rfl
  -- of the other settings neither the entry nor the value is touched
  constructor
  case texts =>
    intro g
    rw [TextSetting.get_put]
    by_cases hg : g = f
    · subst hg
      rw [if_pos rfl]
      exact hsame
    · rw [if_neg hg]
      exact (hother (mt (fun heq => TextSetting.key_injective heq) hg)).trans (h.texts g)
  all_goals rw [hother (by cases f <;> decide)]
  case threads => exact h.threads.trans (by cases f <;> rfl)
  case failFast => exact h.failFast.trans (by cases f <;> rfl)
  case dryRun => exact h.dryRun.trans (by cases f <;> rfl)
  case planRules => exact h.planRules.trans (by cases f <;> rfl)
  case customRules => exact h.customRules.trans (by cases f <;> rfl)
  case renames => exact h.renames.trans (by cases f <;> rfl)

end Settings

/-! ## The environment -/

/-- A text that is neither a truth value nor an integer nor a float. -/
structure IsPlainText (text : String) : Prop where
  notTrue : Text.lower text ≠ "true"
  notFalse : Text.lower text ≠ "false"
  notInteger : Text.readInt64? text = none
  notFloat : Binary64.read? text.toList = none

/-- A plain text of the environment stays a text. -/
theorem environmentValue_of_isPlainText {text : String} (h : IsPlainText text) :
    environmentValue text = .text text := by
  unfold environmentValue
  rw [if_neg h.notTrue, if_neg h.notFalse, h.notInteger, h.notFloat]

namespace TextSetting

/-- The settings that are texts. -/
def all : List TextSetting :=
  [catalogFile, sourceSchema, targetSchema, includeTables, excludeTables, outputDir, tableOption,
    logLevel]

/-- The setting that a variable gives, if it is a text. -/
def ofVariable? (variableName : String) : Option TextSetting :=
  (environmentKey? variableName).bind fun key => all.find? fun f => f.key = key

/-- The text that an environment has for the setting: the last one, if there are several. -/
def given? (f : TextSetting) : List (String × String) → Option String
  | [] => none
  | v :: rest => (given? f rest).or (if ofVariable? v.1 = some f then some v.2 else none)

/-- A variable gives a text if the key it stands for is the one of this text. -/
theorem ofVariable?_eq_some_iff {v : String} {f : TextSetting} :
    ofVariable? v = some f ↔ environmentKey? v = some f.key := by
  constructor
  · intro h
    obtain ⟨key, hkey, hfind⟩ := Option.bind_eq_some_iff.mp h
    have heq := List.find?_some hfind
    rw [decide_eq_true_eq] at heq
    rw [hkey, heq]
  · intro h
    rw [ofVariable?, h]
    cases f <;> decide

/-- Other variables give no setting. -/
theorem ofVariable?_of_environmentKey?_eq_none {v : String} (h : environmentKey? v = none) :
    ofVariable? v = none := by
  rw [ofVariable?, h]
  rfl

end TextSetting

namespace Settings

/-- Settings with the texts of an environment in the place of their own. -/
def overridden (s : Settings) (env : List (String × String)) : Settings :=
  env.foldl (fun s v => (TextSetting.ofVariable? v.1).elim s (TextSetting.put v.2 s)) s

variable {s : Settings} {env : List (String × String)}

theorem overridden_cons (s : Settings) (v : String × String) (env : List (String × String)) :
    s.overridden (v :: env) =
      ((TextSetting.ofVariable? v.1).elim s (TextSetting.put v.2 s)).overridden env := rfl

/-- A text is the one of the environment, if it has one. -/
theorem get_overridden (f : TextSetting) :
    f.get (s.overridden env) = (f.given? env).or (f.get s) := by
  induction env generalizing s with
  | nil => rfl
  | cons v env ih =>
    rw [overridden_cons, ih, TextSetting.given?, Option.or_assoc]
    congr 1
    -- a later variable wins, so the first one counts only if the rest says nothing
    cases hv : TextSetting.ofVariable? v.1 with
    | none => rw [if_neg (by simp)]; rfl
    | some g =>
      rw [Option.elim_some, TextSetting.get_put]
      by_cases hf : f = g
      · rw [if_pos hf, if_pos (congrArg some hf.symm)]
        rfl
      · rw [if_neg hf, if_neg (fun heq => hf (Option.some.inj heq).symm)]
        rfl

/-- What is no text stays. -/
theorem overridden_others :
    (s.overridden env).threads = s.threads ∧
      (s.overridden env).failFast = s.failFast ∧
      (s.overridden env).dryRun = s.dryRun ∧
      (s.overridden env).planRules = s.planRules ∧
      (s.overridden env).customRules = s.customRules ∧
      (s.overridden env).renames = s.renames := by
  induction env generalizing s with
  | nil => exact ⟨rfl, rfl, rfl, rfl, rfl, rfl⟩
  | cons v env ih =>
    rw [overridden_cons]
    cases TextSetting.ofVariable? v.1 with
    | none => exact ih
    | some f =>
      obtain ⟨hthreads, hfailFast, hdryRun, hplan, hcustom, hrenames⟩ := ih (s := f.put v.2 s)
      cases f <;> exact ⟨hthreads, hfailFast, hdryRun, hplan, hcustom, hrenames⟩

/-- Without a variable for a setting, nothing changes. -/
theorem overridden_of_forall_eq_none (h : ∀ v ∈ env, environmentKey? v.1 = none) :
    s.overridden env = s := by
  induction env with
  | nil => rfl
  | cons v env ih =>
    obtain ⟨hv, hrest⟩ := List.forall_mem_cons.mp h
    rw [overridden_cons, TextSetting.ofVariable?_of_environmentKey?_eq_none hv]
    exact ih hrest

/-- **An environment whose variables give texts** replaces these texts. -/
theorem GivenBy.overridden (h : GivenBy .lenient es s)
    (henv : ∀ v ∈ env, environmentKey? v.1 = none ∨
      ((TextSetting.ofVariable? v.1).isSome ∧ IsPlainText v.2)) :
    GivenBy .lenient ((environmentLayer env).onto es) (s.overridden env) := by
  induction env generalizing es s with
  | nil => exact h
  | cons v env ih =>
    obtain ⟨hv, hrest⟩ := List.forall_mem_cons.mp henv
    rw [overridden_cons, environmentLayer, List.filterMap_cons]
    rcases hv with hnone | ⟨hsome, hplain⟩
    · rw [hnone, TextSetting.ofVariable?_of_environmentKey?_eq_none hnone]
      exact ih h hrest
    · obtain ⟨f, hf⟩ := Option.isSome_iff_exists.mp hsome
      rw [TextSetting.ofVariable?_eq_some_iff.mp hf, hf, environmentValue_of_isPlainText hplain]
      exact ih (h.put f v.2) hrest

end Settings

/-! ## Integers -/

mutual

theorem Toml.fitsInt64_formless : ∀ v : Toml, v.formless.fitsInt64 = v.fitsInt64
  | .array _ items => by
    rw [formless, fitsInt64, fitsInt64, itemsFitInt64_formless items]
  | .table _ entries => by
    rw [formless, fitsInt64, fitsInt64, entriesFitInt64_formless entries]
  | .text _ | .integer _ | .float _ | .bool _ | .datetime _ => rfl

theorem Toml.itemsFitInt64_formless :
    ∀ items : List Toml, itemsFitInt64 (formlessItems items) = itemsFitInt64 items
  | [] => rfl
  | v :: rest => by
    rw [formlessItems, itemsFitInt64, itemsFitInt64, fitsInt64_formless v,
      itemsFitInt64_formless rest]

theorem Toml.entriesFitInt64_formless :
    ∀ entries : Entries, entriesFitInt64 (formlessEntries entries) = entriesFitInt64 entries
  | [] => rfl
  | (_, v) :: rest => by
    rw [formlessEntries, entriesFitInt64, entriesFitInt64, fitsInt64_formless v,
      entriesFitInt64_formless rest]

end

/-! ## Loading -/

namespace Settings

variable {text path : String} {t : FileTree} {s : Settings} {env : List (String × String)}

/-- The entries of a document as a layer: what the other reading finds in it, if this takes the
document and the integers have 64 bits. -/
theorem documentLayer?_eq (h : Toml.read? .passing text = some es) :
    (∀ fs, Toml.read? .claiming text = some fs →
      documentLayer? text = if Toml.entriesFitInt64 es = true then some fs else none) ∧
    (Toml.read? .claiming text = none → documentLayer? text = none) := by
  obtain ⟨r, hr, -⟩ := Option.bind_eq_some_iff.mp h
  obtain ⟨ts, hts, -⟩ := Option.bind_eq_some_iff.mp hr
  have hread : Toml.read? .claiming (String.ofList (dropByteOrderMark text.toList)) =
      Toml.read? .claiming text := by
    unfold Toml.read?
    rw [tokens?_dropByteOrderMark hts, hts]
  rw [documentLayer?, hread]
  constructor
  · intro fs hfs
    have hfits : Toml.entriesFitInt64 fs = Toml.entriesFitInt64 es := by
      rw [← entriesFitInt64_formless fs, ← entriesFitInt64_formless es, (read?_alike rfl h hfs).1]
    rw [hfs]
    cases hes : Toml.entriesFitInt64 es with
    | true => exact Option.filter_some_pos (hfits.trans hes)
    | false => exact Option.filter_some_neg (by rw [hfits, hes])
  · intro hnone
    rw [hnone]
    rfl

/-- Settings in the text of a document, as a layer below an environment. -/
theorem ofSources_eq_ok (h : Toml.read? .passing text = some es)
    (hs : ofEntries? .strict es = some s) (hbare : ∀ x ∈ es, IsBareName x.1)
    (henv : ∀ v ∈ env, environmentKey? v.1 = none ∨
      ((TextSetting.ofVariable? v.1).isSome ∧ IsPlainText v.2))
    (hfs : Toml.read? .claiming text = some fs) (hfits : Toml.entriesFitInt64 es = true) :
    ofSources (some text) env = .ok (s.overridden env) := by
  have hlayer : documentLayer? text = some fs := by
    rw [(documentLayer?_eq h).1 fs hfs, if_pos hfits]
  obtain ⟨hlike, hdistinct⟩ := read?_alike rfl h hfs
  have hnames : es.map Prod.fst = fs.map Prod.fst := by
    rw [← map_fst_formlessEntries, hlike, map_fst_formlessEntries]
  have hbare' : ∀ x ∈ fs, IsBareName x.1 := by
    intro x hx
    have hmem : x.1 ∈ es.map Prod.fst := by
      rw [hnames]
      exact List.mem_map_of_mem hx
    obtain ⟨y, hy, heq⟩ := List.mem_map.mp hmem
    rw [← heq]
    exact hbare y hy
  have hlookup : ∀ name, (Layer.onto fs []).lookup name =
      (fs.lookup name).map fun v => v.overlay none := by
    intro name
    rw [Layer.lookup_onto hbare' (hnames ▸ hdistinct)]
    cases fs.lookup name <;> rfl
  have hgiven := ((ofEntries?_eq_some_iff.mp hs).layered hlike hlookup).overridden henv
  have hread := ofEntries?_eq_some_iff.mpr hgiven
  show (orUnreadable (documentLayer? text) >>= fun file => _) = _
  rw [hlayer]
  show orUnreadable (ofEntries? .lenient _) = _
  rw [hread]
  rfl

theorem onTree_liftExcept {α : Type} (x : Except Fault α) (t : FileTree) :
    onTree (liftExcept x) t = (x, t) := by
  cases x <;> rfl

theorem onTree_ofFile (h : t.readText? path = some text) :
    onTree (Settings.ofFile path) t = (ofDocument text, t) := by
  unfold ofFile
  rw [(Snapshot.gives_readText? h).onTree_bind]
  exact onTree_liftExcept (ofDocument text) t

/-- A file is looked up as itself, if it has the right extension, and not found if it has not. -/
theorem gives_lookUp (h : t.readText? path = some text) :
    Gives (liftM (lookUp path : StateM FileTree (Option String))) t
      (if Path.extension? path = some fileExtension then some path else none) t := by
  refine Gives.lift ?_
  show (if (t.readText? path).isSome = true then _ else _ : StateM FileTree (Option String)).run t = _
  rw [h, Option.isSome_some, if_pos rfl]
  rfl

theorem onTree_load (h : t.readText? path = some text)
    (hextension : Path.extension? path = some fileExtension) (env : List (String × String)) :
    onTree (Settings.load (some path) env) t = (ofSources (some text) env, t) := by
  unfold load
  show onTree (liftM (lookUp path : StateM FileTree (Option String)) >>= _) t = _
  rw [(gives_lookUp h).onTree_bind, if_pos hextension]
  show onTree (liftM (FileSystem.readText? path : StateM FileTree (Option String)) >>= _) t = _
  rw [(Snapshot.gives_readText? h).onTree_bind]
  exact onTree_liftExcept (ofSources (some text) env) t

/-- Without a layer for the file, nothing is loaded. -/
theorem onTree_load_of_documentLayer?_eq_none (h : t.readText? path = some text)
    (hextension : Path.extension? path = some fileExtension) (hnone : documentLayer? text = none)
    (env : List (String × String)) :
    onTree (Settings.load (some path) env) t = (.error .unreadableSettings, t) := by
  rw [onTree_load h hextension]
  show ((orUnreadable (documentLayer? text) >>= fun file => _ : Except Fault Settings), t) = _
  rw [hnone]
  rfl

/-- Nothing is loaded from a file with another extension, or with none. -/
theorem onTree_load_of_extension?_ne (h : t.readText? path = some text)
    (hextension : Path.extension? path ≠ some fileExtension) (env : List (String × String)) :
    onTree (Settings.load (some path) env) t = (.error .unreadableSettings, t) := by
  unfold load
  show onTree (liftM (lookUp path : StateM FileTree (Option String)) >>= _) t = _
  rw [(gives_lookUp h).onTree_bind, if_neg hextension]
  rfl

/-- Whether a document with given entries is taken as a layer too: by the other reading, and with
integers of 64 bits. -/
def FitsLayer (text : String) (es : Entries) : Prop :=
  (Toml.read? .claiming text).isSome = true ∧ Toml.entriesFitInt64 es = true

theorem fitsLayer_iff_of_hasNoDottedKeys (h : Toml.read? .passing text = some es)
    (hkeys : HasNoDottedKeys text) : FitsLayer text es ↔ Toml.entriesFitInt64 es = true := by
  rw [FitsLayer, read?_eq_of_hasNoDottedKeys hkeys, h]
  exact and_iff_right rfl

/-- **The two ways to load settings agree.** If settings can be read from a file alone, the names in
it are bare, and what variables give are texts for settings that are texts, then the settings from
the file and the environment are the same, but for these texts. Without variables they are the
same. The only files for which the second way fails are those that are not taken as a layer; without
dotted keys these are the ones with an integer of more than 64 bits. -/
theorem load_agrees (hfile : t.readText? path = some text)
    (hextension : Path.extension? path = some fileExtension)
    (hread : Toml.read? .passing text = some es) (hs : ofEntries? .strict es = some s)
    (hbare : ∀ x ∈ es, IsBareName x.1)
    (henv : ∀ v ∈ env, environmentKey? v.1 = none ∨
      ((TextSetting.ofVariable? v.1).isSome ∧ IsPlainText v.2)) :
    onTree (Settings.ofFile path) t = (.ok s, t) ∧
    (FitsLayer text es → onTree (Settings.load (some path) env) t = (.ok (s.overridden env), t)) ∧
    (¬ FitsLayer text es →
      onTree (Settings.load (some path) env) t = (.error .unreadableSettings, t)) ∧
    (HasNoDottedKeys text → (FitsLayer text es ↔ Toml.entriesFitInt64 es = true)) ∧
    ((∀ v ∈ env, environmentKey? v.1 = none) → s.overridden env = s) ∧
    (∀ f : TextSetting, f.get (s.overridden env) = (f.given? env).or (f.get s)) ∧
    (s.overridden env).threads = s.threads ∧
    (s.overridden env).failFast = s.failFast ∧
    (s.overridden env).dryRun = s.dryRun ∧
    (s.overridden env).planRules = s.planRules ∧
    (s.overridden env).customRules = s.customRules ∧
    (s.overridden env).renames = s.renames := by
  refine ⟨?_, fun hfits => ?_, fun hfits => ?_, fitsLayer_iff_of_hasNoDottedKeys hread,
    overridden_of_forall_eq_none, fun f => get_overridden f, overridden_others⟩
  · rw [onTree_ofFile hfile, ofDocument, hread, Option.bind_some, hs]
    rfl
  · obtain ⟨hclaiming, hint⟩ := hfits
    obtain ⟨fs, hfs⟩ := Option.isSome_iff_exists.mp hclaiming
    rw [onTree_load hfile hextension, ofSources_eq_ok hread hs hbare henv hfs hint]
  · have hnone : documentLayer? text = none := by
      cases hclaiming : Toml.read? .claiming text with
      | none => exact (documentLayer?_eq hread).2 hclaiming
      | some fs =>
        rw [(documentLayer?_eq hread).1 fs hclaiming, if_neg]
        exact fun hint => hfits ⟨by rw [hclaiming]; rfl, hint⟩
    exact onTree_load_of_documentLayer?_eq_none hfile hextension hnone env

/-- A file with a rename. -/
def renamingText : String :=
  "source_schema = \"MARVIN\"\nthreads = 8\n[[table_rules]]\nsource_table = \"ORDERS\"\ntarget_table = \"o2\"\n"

/-- A file with a rename in the current directory. -/
def renamingTree : FileTree := { entries := [(["c.toml"], .file renamingText)] }

/-- Two texts from the environment, and a variable for something else. -/
theorem load_renaming :
    onTree (Settings.ofFile "c.toml") renamingTree =
      (.ok { sourceSchema := "MARVIN", threads := 8, renames := [⟨"ORDERS", "o2"⟩] }, renamingTree) ∧
    onTree (Settings.load (some "c.toml")
        [("HOME", "/root"), ("ora2my_Output_Dir", "out"), ("ORA2MY_TARGET_SCHEMA", "steven")])
      renamingTree =
      (.ok { sourceSchema := "MARVIN", threads := 8, renames := [⟨"ORDERS", "o2"⟩], outputDir := "out",
             targetSchema := some "steven" }, renamingTree) := by
  have hread : Toml.read? .passing renamingText = some ((Toml.read? .passing renamingText).getD []) := by
    have hsome : (Toml.read? .passing renamingText).isSome = true := by decide +kernel
    obtain ⟨es, hes⟩ := Option.isSome_iff_exists.mp hsome
    rw [hes]
    rfl
  have hs : ofEntries? .strict ((Toml.read? .passing renamingText).getD []) =
      some { sourceSchema := "MARVIN", threads := 8, renames := [⟨"ORDERS", "o2"⟩] } := by
    decide +kernel
  have hfits : FitsLayer renamingText ((Toml.read? .passing renamingText).getD []) :=
    ⟨by decide +kernel, by decide +kernel⟩
  have hplain : ∀ v ∈ ["out", "steven"], Text.lower v ≠ "true" ∧ Text.lower v ≠ "false" ∧
      Text.readInt64? v = none ∧ Binary64.read? v.toList = none := by
    decide +kernel
  simp only [List.forall_mem_cons] at hplain
  obtain ⟨⟨o1, o2, o3, o4⟩, ⟨s1, s2, s3, s4⟩, -⟩ := hplain
  have hpath : renamingTree.readText? "c.toml" = some renamingText := rfl
  have hextension : Path.extension? "c.toml" = some fileExtension := by decide +kernel
  have hbare : ∀ x ∈ (Toml.read? .passing renamingText).getD [], IsBareName x.1 := by decide +kernel
  have henv : ∀ v ∈ [("HOME", "/root"), ("ora2my_Output_Dir", "out"),
      ("ORA2MY_TARGET_SCHEMA", "steven")], environmentKey? v.1 = none ∨
        ((TextSetting.ofVariable? v.1).isSome ∧ IsPlainText v.2) := by
    simp only [List.forall_mem_cons]
    exact ⟨.inl (by decide +kernel), .inr ⟨by decide +kernel, o1, o2, o3, o4⟩,
      .inr ⟨by decide +kernel, s1, s2, s3, s4⟩, nofun⟩
  obtain ⟨hfile, hload, -⟩ := load_agrees hpath hextension hread hs hbare henv
  refine ⟨hfile, (hload hfits).trans ?_⟩
  decide +kernel

/-- Whether the settings that are read from a file alone are those that are loaded from it, with no
variables. -/
def LoadersAgree (path text : String) : Prop :=
  ∀ (t : FileTree) (s : Settings), t.readText? path = some text →
    onTree (Settings.ofFile path) t = (.ok s, t) → onTree (Settings.load (some path) []) t = (.ok s, t)

/-- A file that gives settings when it is read alone, and is the only one in a file system where it
cannot be loaded. -/
theorem LoadersAgree.absurd_of_fails (hfile : t.readText? path = some text)
    (hread : ofDocument text = .ok s)
    (hload : onTree (Settings.load (some path) []) t = (.error .unreadableSettings, t)) :
    ¬ LoadersAgree path text := by
  intro hagree
  have hsame := hagree t s hfile (by rw [onTree_ofFile hfile, hread])
  rw [hload] at hsame
  cases hsame

/-- An integer of more than 64 bits under a name that is passed over, a file that is only an
extension, and a dotted key that adds to what a header implies. -/
theorem not_loadersAgree :
    ¬ LoadersAgree "c.toml" "x = 9223372036854775808\n" ∧
    ¬ LoadersAgree ".toml" "x = 1\n" ∧
    ¬ LoadersAgree "c.toml" "[a.b.c]\n[a]\nb.d.e = 1\n[a.b]\n" := by
  have hextension : Path.extension? "c.toml" = some fileExtension := by decide +kernel
  have hfile : ∀ text : String,
      FileTree.readText? { entries := [(["c.toml"], .file text)] } "c.toml" = some text :=
    fun _ => rfl
  refine ⟨?_, ?_, ?_⟩
  · refine LoadersAgree.absurd_of_fails (s := {}) (hfile _) (by decide +kernel) ?_
    refine onTree_load_of_documentLayer?_eq_none (hfile _) hextension ?_ []
    exact Option.isNone_iff_eq_none.mp (by decide +kernel)
  · have hfile : FileTree.readText? { entries := [([".toml"], .file "x = 1\n")] } ".toml" =
        some "x = 1\n" := rfl
    refine LoadersAgree.absurd_of_fails (s := {}) hfile (by decide +kernel) ?_
    exact onTree_load_of_extension?_ne hfile (by decide +kernel) []
  · refine LoadersAgree.absurd_of_fails (s := {}) (hfile _) (by decide +kernel) ?_
    refine onTree_load_of_documentLayer?_eq_none (hfile _) hextension ?_ []
    exact Option.isNone_iff_eq_none.mp (by decide +kernel)

end Settings

end CatalogDdl
