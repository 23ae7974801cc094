import CatalogDdl.Toml.Reader
import Mathlib.Data.List.Forall2

/-!
# Two readings of a document

A table of a document remembers how it came about, and whether a dotted key turns a table that
headers imply into one of its own is the one point in which two readings differ. What a table
remembers decides whether a later line is refused and nothing else. So if both readings
take a document, they find the same values, but for how the tables came about.

- `formless`: a value whose tables do not tell how they came about.
- `Change.Agree`: two changes that lead to the same values, as far as both are there.
- `Change.KeepsDistinct`: a change that gives no name twice.
- `Reader.Alike`: two readers that differ in how tables came about; `Reader.feed_alike` is one
  token for both.
- `read?_alike`: all of a document for both.
-/

namespace CatalogDdl.Toml

/-! ## Values without forms -/

mutual

/-- A value whose tables do not tell how they came about. -/
def formless : Toml → Toml
  | .array byHeaders items => .array byHeaders (formlessItems items)
  | .table _ entries => .table .explicit (formlessEntries entries)
  | v => v

/-- Items whose tables do not tell how they came about. -/
def formlessItems : List Toml → List Toml
  | [] => []
  | v :: rest => v.formless :: formlessItems rest

/-- Entries whose tables do not tell how they came about. -/
def formlessEntries : List (String × Toml) → List (String × Toml)
  | [] => []
  | (name, v) :: rest => (name, v.formless) :: formlessEntries rest

end

variable {v w : Toml} {es fs es' fs' : Entries} {items items' : List Toml} {name : String}

theorem formlessItems_eq_map (items : List Toml) : formlessItems items = items.map formless := by
  induction items with
  | nil => rfl
  | cons v items ih => rw [formlessItems, ih, List.map_cons]

theorem formlessEntries_eq_map (es : Entries) :
    formlessEntries es = es.map fun x => (x.1, x.2.formless) := by
  induction es with
  | nil => rfl
  | cons x es ih => rw [formlessEntries, ih, List.map_cons]

/-- Names stay when forms are left out. -/
theorem map_fst_formlessEntries (es : Entries) :
    (formlessEntries es).map Prod.fst = es.map Prod.fst := by
  rw [formlessEntries_eq_map, List.map_map]
  rfl

/-- What is found under a name is what was found before, without forms. -/
theorem lookup_formlessEntries (es : Entries) (name : String) :
    (formlessEntries es).lookup name = (es.lookup name).map formless := by
  induction es with
  | nil => rfl
  | cons x es ih =>
    rw [formlessEntries, List.lookup_cons, List.lookup_cons, ih]
    cases name == x.1 <;> rfl

/-- What is like a table is one. -/
theorem exists_table_of_formless_eq {form : TableForm} (h : (table form es).formless = w.formless) :
    ∃ form' fs, w = .table form' fs ∧ formlessEntries es = formlessEntries fs := by
  cases w with
  | table form' fs =>
    rw [formless, formless] at h
    exact ⟨form', fs, rfl, (table.inj h).2⟩
  | _ => simp [formless] at h

/-- What is like an array is one. -/
theorem exists_array_of_formless_eq {byHeaders : Bool}
    (h : (array byHeaders items).formless = w.formless) :
    ∃ items', w = .array byHeaders items' ∧ items.map formless = items'.map formless := by
  cases w with
  | array byHeaders' items' =>
    rw [formless, formless, formlessItems_eq_map, formlessItems_eq_map] at h
    obtain ⟨rfl, hitems⟩ := array.inj h
    exact ⟨items', rfl, hitems⟩
  | _ => simp [formless] at h

/-- Alike tables have alike entries. -/
theorem entries?_alike (h : v.formless = w.formless) (hv : v.entries? = some es)
    (hw : w.entries? = some fs) : formlessEntries es = formlessEntries fs := by
  cases v with
  | table form es' =>
    obtain ⟨form', fs', rfl, hes⟩ := exists_table_of_formless_eq h
    cases hv
    cases hw
    exact hes
  | _ => cases hv

/-! ## Changes -/

/-- Two changes of an entry lead from values that differ in forms to such values, as far as both
are there. -/
def AgreeWithin (c d : Option Toml → Option Toml) : Prop :=
  ∀ ⦃o p v w⦄, o.map formless = p.map formless → c o = some v → d p = some w →
    v.formless = w.formless

/-- Two changes lead from tables that differ in forms to such tables, as far as both are there. -/
def Change.Agree (c d : Change) : Prop :=
  ∀ ⦃f g es fs v w⦄, formlessEntries es = formlessEntries fs → c f es = some v →
    d g fs = some w → v.formless = w.formless

/-- A change leads from entries with distinct names to such entries. -/
def Change.KeepsDistinct (c : Change) : Prop :=
  ∀ ⦃f es v⦄, (es.map Prod.fst).Nodup → c f es = some v →
    ∃ f' es', v = .table f' es' ∧ (es'.map Prod.fst).Nodup

/-- The change of an entry, as one of the table. -/
def entryChange (name : String) (c : Option Toml → Option Toml) : Change :=
  fun form es => (changeEntry name c es).map (.table form)

section

variable {c d : Option Toml → Option Toml}

/-- Changes that agree about the entry of a name agree about all entries. -/
theorem changeEntry_agree (h : AgreeWithin c d) (hes : formlessEntries es = formlessEntries fs)
    (hc : changeEntry name c es = some es') (hd : changeEntry name d fs = some fs') :
    formlessEntries es' = formlessEntries fs' := by
  -- alike entries have the same names in the same places, so the two lists go in step
  induction es generalizing fs es' fs' with
  | nil =>
    cases fs with
    | nil =>
      obtain ⟨v, hv, rfl⟩ := Option.map_eq_some_iff.mp hc
      obtain ⟨w, hw, rfl⟩ := Option.map_eq_some_iff.mp hd
      simp only [formlessEntries, h rfl hv hw]
    | cons y fs => cases hes
  | cons x es ih =>
    cases fs with
    | nil => cases hes
    | cons y fs =>
      obtain ⟨m, v⟩ := x
      obtain ⟨n, w⟩ := y
      rw [formlessEntries, formlessEntries, List.cons.injEq, Prod.mk.injEq] at hes
      obtain ⟨⟨rfl, hvalue⟩, hrest⟩ := hes
      rw [changeEntry] at hc hd
      by_cases hname : m = name
      · rw [if_pos hname] at hc hd
        obtain ⟨v', hv', rfl⟩ := Option.map_eq_some_iff.mp hc
        obtain ⟨w', hw', rfl⟩ := Option.map_eq_some_iff.mp hd
        have hvalue : (some v).map formless = (some w).map formless := congrArg some hvalue
        rw [formlessEntries, formlessEntries, hrest, h hvalue hv' hw']
      · rw [if_neg hname] at hc hd
        obtain ⟨es', hes', rfl⟩ := Option.map_eq_some_iff.mp hc
        obtain ⟨fs', hfs', rfl⟩ := Option.map_eq_some_iff.mp hd
        rw [formlessEntries, formlessEntries, hvalue, ih hrest hes' hfs']

/-- So they agree about the table, whose form no value depends on. -/
theorem entryChange_agree (h : AgreeWithin c d) (name : String) :
    Change.Agree (entryChange name c) (entryChange name d) := by
  intro f g es fs v w hes hc hd
  obtain ⟨es', hes', rfl⟩ := Option.map_eq_some_iff.mp hc
  obtain ⟨fs', hfs', rfl⟩ := Option.map_eq_some_iff.mp hd
  rw [formless, formless, changeEntry_agree h hes hes' hfs']

/-- A change of an entry gives no other name, or one that was not there. -/
theorem map_fst_changeEntry (h : changeEntry name c es = some es') :
    es'.map Prod.fst = es.map Prod.fst ∨
      (name ∉ es.map Prod.fst ∧ es'.map Prod.fst = es.map Prod.fst ++ [name]) := by
  -- the recursion looks for the name and adds an entry when it comes to the end
  induction es generalizing es' with
  | nil =>
    obtain ⟨v, -, rfl⟩ := Option.map_eq_some_iff.mp h
    exact .inr ⟨List.not_mem_nil, rfl⟩
  | cons x es ih =>
    obtain ⟨n, v⟩ := x
    rw [changeEntry] at h
    by_cases hname : n = name
    · rw [if_pos hname] at h
      obtain ⟨w, -, rfl⟩ := Option.map_eq_some_iff.mp h
      exact .inl rfl
    · rw [if_neg hname] at h
      obtain ⟨rest, hrest, rfl⟩ := Option.map_eq_some_iff.mp h
      rcases ih hrest with heq | ⟨hnew, heq⟩
      · exact .inl (by rw [List.map_cons, List.map_cons, heq])
      · refine .inr ⟨?_, by rw [List.map_cons, List.map_cons, heq, List.cons_append]⟩
        rw [List.map_cons, List.mem_cons, not_or]
        exact ⟨Ne.symm hname, hnew⟩

/-- A change of one entry gives no name twice. -/
theorem entryChange_keepsDistinct (name : String) (c : Option Toml → Option Toml) :
    Change.KeepsDistinct (entryChange name c) := by
  intro f es v hdistinct h
  obtain ⟨es', hes', rfl⟩ := Option.map_eq_some_iff.mp h
  refine ⟨f, es', rfl, ?_⟩
  rcases map_fst_changeEntry hes' with heq | ⟨hnew, heq⟩
  · rwa [heq]
  · rw [heq]
    refine List.nodup_append.mpr ⟨hdistinct, List.pairwise_singleton .., fun m hm n hn => ?_⟩
    rw [List.mem_singleton.mp hn]
    rintro rfl
    exact hnew hm

end

section

variable {c d : Change}

/-- Changes that agree about tables agree about an entry that is a table or ends in one. -/
theorem changeWithin_agree {a b : Approach} (h : Change.Agree c d) :
    AgreeWithin (changeWithin a c) (changeWithin b d) := by
  intro o p v w hvalues hc hd
  cases o with
  | none =>
    cases p with
    | none => exact h rfl hc hd
    | some y => cases hvalues
  | some x =>
    cases p with
    | none => cases hvalues
    | some y =>
      have hvalues : x.formless = y.formless := Option.some.inj hvalues
      -- an approach may refuse one of the two tables, but then there is nothing to compare
      cases x with
      | table form es =>
        obtain ⟨form', fs, rfl, hes⟩ := exists_table_of_formless_eq hvalues
        obtain ⟨f, -, hf⟩ := Option.bind_eq_some_iff.mp hc
        obtain ⟨g, -, hg⟩ := Option.bind_eq_some_iff.mp hd
        exact h hes hf hg
      | array byHeaders items =>
        obtain ⟨items', rfl, hitems⟩ := exists_array_of_formless_eq hvalues
        cases byHeaders with
        | false => cases hc
        | true =>
          -- a path goes into the last table of an array that headers made
          have hlast : items.getLast?.map formless = items'.getLast?.map formless := by
            rw [← List.getLast?_map, ← List.getLast?_map, hitems]
          have hfront : items.dropLast.map formless = items'.dropLast.map formless := by
            rw [List.map_dropLast, List.map_dropLast, hitems]
          rw [changeWithin] at hc hd
          split at hc
          · rename_i form es htable
            rw [htable] at hlast
            obtain ⟨y, hy, hlike⟩ := Option.map_eq_some_iff.mp hlast.symm
            obtain ⟨form', fs, rfl, hes⟩ := exists_table_of_formless_eq hlike.symm
            rw [hy] at hd
            obtain ⟨v', hv', rfl⟩ := Option.map_eq_some_iff.mp hc
            obtain ⟨w', hw', rfl⟩ := Option.map_eq_some_iff.mp hd
            rw [formless, formless, formlessItems_eq_map, formlessItems_eq_map, List.map_append,
              List.map_append, hfront, List.map_singleton, List.map_singleton, h hes hv' hw']
          · cases hc
      | _ => cases hc

theorem changeAt_cons (a : Approach) (name : String) (path : List String) (c : Change) :
    changeAt a (name :: path) c = entryChange name (changeWithin a (changeAt a path c)) := rfl

/-- And so they agree about a table at the end of a path. -/
theorem changeAt_agree {a b : Approach} (h : Change.Agree c d) (path : List String) :
    Change.Agree (changeAt a path c) (changeAt b path d) := by
  induction path with
  | nil => exact h
  | cons name path ih =>
    rw [changeAt_cons, changeAt_cons]
    exact entryChange_agree (changeWithin_agree ih) name

/-- Only the first entry of a path is changed in the table itself. -/
theorem changeAt_keepsDistinct {a : Approach} (h : c.KeepsDistinct) (path : List String) :
    Change.KeepsDistinct (changeAt a path c) := by
  cases path with
  | nil => exact h
  | cons name path => exact entryChange_keepsDistinct name _

end

/-! ## The lines of a document -/

/-- Two values that differ in forms can be added under the same name. -/
theorem addEntry_agree (name : String) (h : v.formless = w.formless) :
    Change.Agree (addEntry name v) (addEntry name w) := by
  refine entryChange_agree (fun o p v' w' _ hc hd => ?_) name
  split at hc
  · split at hd
    · cases hc
      cases hd
      exact h
    · cases hd
  · cases hc

/-- An assignment agrees with another one that treats dotted keys in its own way. -/
theorem assign_agree {keys keys' : DottedKeys} (path : List String) (name : String)
    (h : v.formless = w.formless) :
    Change.Agree (assign keys path name v) (assign keys' path name w) := by
  -- what the two ways refuse differs, and what they do to the values does not
  refine changeAt_agree (fun f g es fs v' w' hes hc hd => ?_) path
  split at hc
  · cases hc
  · split at hd
    · cases hd
    · exact addEntry_agree name h hes hc hd

theorem assign_keepsDistinct {keys : DottedKeys} (path : List String) (name : String) (v : Toml) :
    Change.KeepsDistinct (assign keys path name v) := by
  refine changeAt_keepsDistinct (fun f es v' hdistinct hc => ?_) path
  split at hc
  · cases hc
  · exact entryChange_keepsDistinct name _ hdistinct hc

/-- A header of a table finds no entry, or a table that it may take over. -/
theorem openTable_agree (path : List String) (name : String) :
    Change.Agree (openTable path name) (openTable path name) := by
  refine changeAt_agree (entryChange_agree (fun o p v w hvalues hc hd => ?_) name) path
  -- the entry is missing in both tables, or a table in both; the mixed cases are no alike values
  split at hc
  · cases hc
    split at hd
    · cases hd
      rfl
    · cases hvalues
    · cases hd
  · rename_i inner
    cases hc
    split at hd
    · cases hvalues
    · rename_i inner'
      cases hd
      exact Option.some.inj hvalues
    · cases hd
  · cases hc

/-- A header of an element finds no entry, or an array that headers made. -/
theorem openElement_agree (path : List String) (name : String) :
    Change.Agree (openElement path name) (openElement path name) := by
  refine changeAt_agree (entryChange_agree (fun o p v w hvalues hc hd => ?_) name) path
  split at hc
  · cases hc
    split at hd
    · cases hd
      rfl
    · cases hvalues
    · cases hd
  · rename_i items
    cases hc
    split at hd
    · cases hvalues
    · rename_i items'
      cases hd
      obtain ⟨_, heq, hitems⟩ := exists_array_of_formless_eq (Option.some.inj hvalues)
      cases heq
      rw [formless, formless, formlessItems_eq_map, formlessItems_eq_map, List.map_append,
        List.map_append, hitems]
    · cases hd
  · cases hc

theorem openTable_keepsDistinct (path : List String) (name : String) :
    Change.KeepsDistinct (openTable path name) :=
  changeAt_keepsDistinct (entryChange_keepsDistinct name _) path

theorem openElement_keepsDistinct (path : List String) (name : String) :
    Change.KeepsDistinct (openElement path name) :=
  changeAt_keepsDistinct (entryChange_keepsDistinct name _) path

/-! ## Readers -/

/-- What two keys are for differs in forms at most. -/
inductive KeyUse.Alike : KeyUse → KeyUse → Prop
  | header : Alike .header .header
  | elementHeader : Alike .elementHeader .elementHeader
  | line : Alike .line .line
  | member {es fs : Entries} (h : formlessEntries es = formlessEntries fs) :
      Alike (.member es) (.member fs)

/-- What two values are for differs in forms at most. -/
inductive Frame.Alike : Frame → Frame → Prop
  | line (path : List String) (name : String) : Alike (.line path name) (.line path name)
  | array {items items' : List Toml} (h : items.map formless = items'.map formless) :
      Alike (.array items) (.array items')
  | member {es fs : Entries} (path : List String) (name : String)
      (h : formlessEntries es = formlessEntries fs) :
      Alike (.member es path name) (.member fs path name)

/-- What must come next for two readers differs in forms at most. -/
inductive Expect.Alike : Expect → Expect → Prop
  | line : Alike .line .line
  | lineEnd : Alike .lineEnd .lineEnd
  | key {use use' : KeyUse} (k : KeyPath) (h : use.Alike use') : Alike (.key use k) (.key use' k)
  | equals {es fs : Entries} (path : List String) (name : String)
      (h : formlessEntries es = formlessEntries fs) :
      Alike (.equals es path name) (.equals fs path name)
  | value : Alike .value .value
  | item {items items' : List Toml} (h : items.map formless = items'.map formless) :
      Alike (.item items) (.item items')
  | nextItem {items items' : List Toml} (h : items.map formless = items'.map formless) :
      Alike (.nextItem items) (.nextItem items')
  | member {es fs : Entries} (h : formlessEntries es = formlessEntries fs) :
      Alike (.member es) (.member fs)
  | nextMember {es fs : Entries} (h : formlessEntries es = formlessEntries fs) :
      Alike (.nextMember es) (.nextMember fs)

/-- Two documents differ in forms at most, and no name is given twice in them. -/
def AlikeDistinct (v w : Toml) : Prop :=
  ∃ f g es fs, v = table f es ∧ w = table g fs ∧ formlessEntries es = formlessEntries fs ∧
    (es.map Prod.fst).Nodup

namespace Reader

/-- Two readers differ in how tables came about, and maybe in what dotted keys do. -/
structure Alike (r s : Reader) : Prop where
  root : AlikeDistinct r.root s.root
  header : r.header = s.header
  stack : List.Forall₂ Frame.Alike r.stack s.stack
  expect : r.expect.Alike s.expect

/-- What comes of two readers is alike, as far as both are there. -/
def BothAlike (o p : Option Reader) : Prop := ∀ r ∈ o, ∀ s ∈ p, r.Alike s

variable {r s : Reader} {o p : Option Reader}

theorem BothAlike.some (h : r.Alike s) : BothAlike (some r) (some s) := by
  rintro _ ⟨⟩ _ ⟨⟩
  exact h

theorem BothAlike.none : BothAlike none p := nofun

/-- Alike readers stay alike in a step that keeps them so. -/
theorem BothAlike.bind {f g : Reader → Option Reader} (h : BothAlike o p)
    (hf : ∀ r s : Reader, r.Alike s → BothAlike (f r) (g s)) :
    BothAlike (o.bind f) (p.bind g) := by
  intro r' hr' s' hs'
  obtain ⟨r, hr, hfr⟩ := Option.bind_eq_some_iff.mp hr'
  obtain ⟨s, hs, hgs⟩ := Option.bind_eq_some_iff.mp hs'
  exact hf r s (h r hr s hs) r' hfr s' hgs

theorem Alike.expecting {e e' : Expect} (h : r.Alike s) (he : e.Alike e') :
    (r.expecting e).Alike (s.expecting e') := ⟨h.root, h.header, h.stack, he⟩

theorem Alike.inside {f f' : Frame} {e e' : Expect} (h : r.Alike s) (hf : f.Alike f')
    (he : e.Alike e') : (r.inside f e).Alike (s.inside f' e') :=
  ⟨h.root, h.header, .cons hf h.stack, he⟩

/-- Changes that agree keep documents alike. -/
theorem Alike.change {c d : Change} (h : r.Alike s) (hagree : Change.Agree c d)
    (hkeeps : c.KeepsDistinct) : BothAlike (r.change c) (s.change d) := by
  obtain ⟨f, g, es, fs, hr, hs, hes, hdistinct⟩ := h.root
  unfold Reader.change
  rw [hr, hs]
  intro r' hr' s' hs'
  obtain ⟨v, hv, rfl⟩ := Option.map_eq_some_iff.mp hr'
  obtain ⟨w, hw, rfl⟩ := Option.map_eq_some_iff.mp hs'
  obtain ⟨f', es', rfl, hdistinct'⟩ := hkeeps hdistinct hv
  obtain ⟨g', fs', rfl, hes'⟩ := exists_table_of_formless_eq (hagree hes hv hw)
  exact ⟨⟨f', g', es', fs', rfl, rfl, hes', hdistinct'⟩, h.header, h.stack, .lineEnd⟩

variable {path : List String} {name : String} {frames : List Frame} {v w : Toml}

theorem deliver_nil (h : r.stack = []) (v : Toml) : r.deliver v = Option.none := by
  rw [deliver, h]

theorem deliver_line (h : r.stack = .line path name :: frames) (v : Toml) :
    r.deliver v = { r with stack := frames }.change (assignBelow r.keys r.header path name v) := by
  rw [deliver, h]

theorem deliver_array {items : List Toml} (h : r.stack = .array items :: frames) (v : Toml) :
    r.deliver v = Option.some { r with stack := frames, expect := .nextItem (v :: items) } := by
  rw [deliver, h]

theorem deliver_member {es : Entries} (h : r.stack = .member es path name :: frames) (v : Toml) :
    r.deliver v = (assign r.keys path name v .inline es).bind fun changed =>
      changed.entries?.map fun es => { r with stack := frames, expect := .nextMember es } := by
  rw [deliver, h]
  cases hassign : assign r.keys path name v .inline es with
  | none => simp only [hassign, Option.bind_none]
  | some changed =>
    simp only [hassign, Option.bind_some]
    cases changed <;> rfl

/-- Two alike readers that are given a complete value. -/
theorem deliver_alike (h : r.Alike s) (hv : v.formless = w.formless) :
    BothAlike (r.deliver v) (s.deliver w) := by
  have hstack := h.stack
  generalize hr : r.stack = frames, hs : s.stack = frames' at hstack
  -- the innermost open value says where the value belongs, and it is the same for both
  cases hstack with
  | nil =>
    rw [deliver_nil hr]
    exact .none
  | @cons _ _ frames frames' hframe hrest =>
    cases hframe with
    | line path name =>
      -- the value ends a line, so it goes into the document below the last header
      have hbase : Alike { r with stack := frames } { s with stack := frames', header := r.header } :=
        ⟨h.root, rfl, hrest, h.expect⟩
      rw [deliver_line hr, deliver_line hs, ← h.header]
      exact hbase.change (changeAt_agree (assign_agree path name hv) r.header)
        (changeAt_keepsDistinct (assign_keepsDistinct path name v) r.header)
    | array hitems =>
      rw [deliver_array hr, deliver_array hs]
      refine .some ⟨h.root, h.header, hrest, .nextItem ?_⟩
      rw [List.map_cons, List.map_cons, hv, hitems]
    | member path name hes =>
      rw [deliver_member hr, deliver_member hs]
      intro r' hr' s' hs'
      obtain ⟨changed, hchanged, hr'⟩ := Option.bind_eq_some_iff.mp hr'
      obtain ⟨es', hes', rfl⟩ := Option.map_eq_some_iff.mp hr'
      obtain ⟨changed', hchanged', hs'⟩ := Option.bind_eq_some_iff.mp hs'
      obtain ⟨fs', hfs', rfl⟩ := Option.map_eq_some_iff.mp hs'
      exact ⟨h.root, h.header, hrest,
        .nextMember (entries?_alike (assign_agree path name hv hes hchanged hchanged') hes' hfs')⟩

/-- The bound on nesting asks for the depth only, which is the same for both. -/
theorem enter_alike {e e' : Expect} (h : r.Alike s) (he : e.Alike e') :
    BothAlike (r.enter e) (s.enter e') := by
  unfold enter
  rw [h.stack.length_eq]
  split
  · exact .some (h.expecting he)
  · exact .none

/-- Two alike readers that are fed the first token of a value. -/
theorem begin_alike (h : r.Alike s) (t : Token) : BothAlike (r.begin t) (s.begin t) := by
  cases t with
  | word chars =>
    rw [begin, begin]
    cases ofWord? chars with
    | none => exact .none
    | some v => exact deliver_alike h rfl
  | text string multiline => exact deliver_alike h rfl
  | openBracket => exact enter_alike h (.item rfl)
  | openBrace => exact enter_alike h (.member rfl)
  | _ => exact .none

/-- Two alike readers that are fed a token of a key or the one after it. -/
theorem feedKey_alike {use use' : KeyUse} (h : r.Alike s) (huse : use.Alike use') (k : KeyPath)
    (t : Token) : BothAlike (r.feedKey use k t) (s.feedKey use' k t) := by
  have hheader : ∀ header, Alike { r with header } { s with header } :=
    fun header => ⟨h.root, rfl, h.stack, h.expect⟩
  unfold feedKey
  split
  · rename_i chars
    cases k.addPieces (Text.splitAt '.' chars) with
    | none => exact .none
    | some k => exact .some (h.expecting (.key k huse))
  · rename_i string
    cases k.addName string with
    | none => exact .none
    | some k => exact .some (h.expecting (.key k huse))
  · cases k.complete? with
    | none => exact .none
    | some key =>
      obtain ⟨path, name⟩ := key
      -- the key is complete, and what it is for decides about the token
      cases huse with
      | header =>
        cases t with
        | closeBracket =>
          exact (hheader _).change (openTable_agree path name) (openTable_keepsDistinct path name)
        | _ => exact .none
      | elementHeader =>
        cases t with
        | closeBrackets =>
          exact (hheader _).change (openElement_agree path name) (openElement_keepsDistinct path name)
        | _ => exact .none
      | line =>
        cases t with
        | equals => exact .some (h.inside (.line path name) .value)
        | _ => exact .none
      | member hes =>
        cases t with
        | equals => exact .some (h.inside (.member path name hes) .value)
        | newline => exact .some (h.expecting (.equals path name hes))
        | _ => exact .none

/-- Whether a line may end inside a value depends on what is open, and not on what is in it. -/
theorem mayBreak_alike (h : r.Alike s) : r.mayBreak = s.mayBreak := by
  have hstack := h.stack
  unfold mayBreak
  generalize r.stack = frames, s.stack = frames' at hstack
  cases hstack with
  | nil => rfl
  | cons hframe _ => cases hframe <;> rfl

/-- Two alike readers that are fed a token of an array or of a value. -/
theorem feedItem_alike (h : r.Alike s) (t : Token) : BothAlike (r.feedItem t) (s.feedItem t) := by
  have hbreak := mayBreak_alike h
  have hexpect := h.expect
  unfold feedItem
  generalize r.expect = e, s.expect = e' at hexpect
  cases hexpect with
  | item hitems =>
    cases t with
    | newline => exact .some (h.expecting (.item hitems))
    | closeBracket =>
      refine deliver_alike h ?_
      simp only [formless, formlessItems_eq_map, List.map_reverse, hitems]
    | _ => exact begin_alike (h.inside (.array hitems) .value) _
  | nextItem hitems =>
    cases t with
    | newline => exact .some (h.expecting (.nextItem hitems))
    | comma => exact .some (h.expecting (.item hitems))
    | closeBracket =>
      refine deliver_alike h ?_
      simp only [formless, formlessItems_eq_map, List.map_reverse, hitems]
    | _ => exact .none
  | value =>
    cases t with
    | newline =>
      simp only [hbreak]
      split
      · exact .some h
      · exact .none
    | _ => exact begin_alike h _
  | _ => exact .none

/-- **Two alike readers that are fed the same token.** -/
theorem feed_alike (h : r.Alike s) (t : Token) : BothAlike (r.feed t) (s.feed t) := by
  have hexpect := h.expect
  -- two brackets together are two single ones where a value may begin or end
  have hitem : BothAlike
      ((r.feedItem .openBracket).bind fun r => r.feedItem .openBracket)
      ((s.feedItem .openBracket).bind fun s => s.feedItem .openBracket) :=
    (feedItem_alike h .openBracket).bind fun r s h => feedItem_alike h .openBracket
  have hclose : BothAlike
      ((r.feedItem .closeBracket).bind fun r => r.feedItem .closeBracket)
      ((s.feedItem .closeBracket).bind fun s => s.feedItem .closeBracket) :=
    (feedItem_alike h .closeBracket).bind fun r s h => feedItem_alike h .closeBracket
  unfold feed
  generalize r.expect = e, s.expect = e' at hexpect
  cases hexpect with
  | line =>
    cases t with
    | newline => exact .some h
    | openBracket => exact .some (h.expecting (.key {} .header))
    | openBrackets => exact .some (h.expecting (.key {} .elementHeader))
    | _ => exact feedKey_alike h .line {} _
  | lineEnd =>
    cases t with
    | newline => exact .some (h.expecting .line)
    | _ => exact .none
  | key k huse => exact feedKey_alike h huse k t
  | equals path name hes =>
    cases t with
    | newline => exact .some h
    | equals => exact .some (h.inside (.member path name hes) .value)
    | _ => exact .none
  | member hes =>
    cases t with
    | newline => exact .some (h.expecting (.member hes))
    | closeBrace =>
      refine deliver_alike h ?_
      rw [formless, formless, hes]
    | _ => exact feedKey_alike h (.member hes) {} _
  | nextMember hes =>
    cases t with
    | newline => exact .some (h.expecting (.nextMember hes))
    | comma => exact .some (h.expecting (.member hes))
    | closeBrace =>
      refine deliver_alike h ?_
      rw [formless, formless, hes]
    | _ => exact .none
  | _ =>
    cases t with
    | openBrackets => exact hitem
    | closeBrackets => exact hclose
    | _ => exact feedItem_alike h _

/-- All tokens of a document. -/
theorem foldlM_feed_alike (h : r.Alike s) (ts : List Token) :
    BothAlike (ts.foldlM feed r) (ts.foldlM feed s) := by
  induction ts generalizing r s with
  | nil => exact .some h
  | cons t ts ih =>
    rw [List.foldlM_cons, List.foldlM_cons]
    exact (feed_alike h t).bind fun r s h => ih h

/-- What is read is the document that the reader has built. -/
theorem finish_eq_some {es : Entries} (h : r.finish = Option.some es) : r.root.entries? = Option.some es := by
  unfold finish at h
  split at h
  · exact h
  · exact h
  · cases h

end Reader

/-! ## Documents -/

/-- **A document that two readings take** has the same values in both, for all that a table may
have come about in another way, and no name is given twice in it. -/
theorem read?_alike {keys keys' : DottedKeys} {text text' : String}
    (htokens : tokens? text = tokens? text') (h : read? keys text = some es)
    (h' : read? keys' text' = some fs) :
    formlessEntries es = formlessEntries fs ∧ (es.map Prod.fst).Nodup := by
  obtain ⟨r, hr, hes⟩ := Option.bind_eq_some_iff.mp h
  obtain ⟨s, hs, hfs⟩ := Option.bind_eq_some_iff.mp h'
  obtain ⟨ts, hts, hr⟩ := Option.bind_eq_some_iff.mp hr
  rw [← htokens, hts, Option.bind_some] at hs
  -- both readers start with an empty document and differ in what dotted keys do
  have hstart : Reader.Alike { keys := keys } { keys := keys' } :=
    ⟨⟨.explicit, .explicit, [], [], rfl, rfl, rfl, List.nodup_nil⟩, rfl, .nil, .line⟩
  obtain ⟨⟨f, g, es', fs', hrroot, hsroot, hlike, hdistinct⟩, -, -, -⟩ :=
    Reader.foldlM_feed_alike hstart ts r hr s hs
  have hes := Reader.finish_eq_some hes
  have hfs := Reader.finish_eq_some hfs
  rw [hrroot] at hes
  rw [hsroot] at hfs
  cases hes
  cases hfs
  exact ⟨hlike, hdistinct⟩

/-- The mark of a byte order is no part of a document but at its very start. -/
theorem tokens?_dropByteOrderMark {text : String} {ts : List Token} (h : tokens? text = some ts) :
    tokens? (String.ofList (dropByteOrderMark text.toList)) = some ts := by
  unfold tokens? at h ⊢
  rw [String.toList_ofList]
  generalize dropByteOrderMark text.toList = cs at h
  cases cs with
  | nil => exact h
  | cons c cs =>
    rw [dropByteOrderMark]
    by_cases hmark : c.toNat = 0xFEFF
    · -- a lexer refuses it between tokens
      obtain rfl : c = Char.ofNat 0xFEFF := by rw [← hmark, Char.ofNat_toNat]
      obtain ⟨l, hl, -⟩ := Option.bind_eq_some_iff.mp h
      rw [List.foldlM_cons] at hl
      cases hl
    · rwa [if_neg hmark]

end CatalogDdl.Toml
