import CatalogDdl.Ddl.Identifier
import CatalogDdl.Ddl.Lexer

/-!
# Names are read as they were written

A name can hold anything: backticks, the separators between names, or nothing at all.
A server that reads the identifiers of a statement still finds the names that were
written, because a backtick inside a name is never alone, and what follows a name is
never a backtick.

- `doubled_append`, `doubled_of_not_mem`: what doubling marks does to a text.
- `readQuoted_doubled`, `readName_quoteChars`: one quotation, whatever follows it.
- `readNames?_joinWith`: any names with a separator between them.
- `quoteNames_read`: lists of names and tables with their schema are read back, and so
  nothing but the same names is written the same way.
-/

namespace CatalogDdl.Ddl

/-! ## Doubled marks -/

section
variable {mark : Char}

theorem doubled_cons_self (mark : Char) (cs : List Char) :
    doubled mark (mark :: cs) = mark :: mark :: doubled mark cs := by
  rw [doubled, List.flatMap_cons, if_pos rfl]
  rfl

theorem doubled_cons_of_ne {c : Char} (h : c ≠ mark) (cs : List Char) :
    doubled mark (c :: cs) = c :: doubled mark cs := by
  rw [doubled, List.flatMap_cons, if_neg h]
  rfl

theorem doubled_append (mark : Char) (cs ds : List Char) :
    doubled mark (cs ++ ds) = doubled mark cs ++ doubled mark ds := List.flatMap_append

theorem doubled_of_not_mem {cs : List Char} (h : mark ∉ cs) : doubled mark cs = cs := by
  induction cs with
  | nil => rfl
  | cons c cs ih =>
    obtain ⟨hc, hcs⟩ := not_or.mp (mt List.mem_cons.mpr h)
    rw [doubled_cons_of_ne (Ne.symm hc), ih hcs]

theorem count_doubled_of_ne {m : Char} (h : m ≠ mark) (cs : List Char) :
    (doubled mark cs).count m = cs.count m := by
  induction cs with
  | nil => rfl
  | cons c cs ih =>
    by_cases hc : c = mark
    · subst hc
      rw [doubled_cons_self, List.count_cons_of_ne h.symm, List.count_cons_of_ne h.symm,
        List.count_cons_of_ne h.symm, ih]
    · rw [doubled_cons_of_ne hc, List.count_cons, List.count_cons, ih]

end

/-! ## One name -/

/-- A text between two marks is read as it was before its marks were doubled. -/
theorem readQuoted_doubled {mark : Char} {rest : List Char} (h : rest.head? ≠ some mark)
    (cs : List Char) : readQuoted mark (doubled mark cs ++ mark :: rest) = some (cs, rest) := by
  induction cs with
  | nil => exact readQuoted_mark h
  | cons c cs ih =>
    by_cases hc : c = mark
    · subst hc
      rw [doubled_cons_self, List.cons_append, List.cons_append, readQuoted_mark_mark, ih]
      rfl
    · rw [doubled_cons_of_ne hc, List.cons_append, readQuoted_cons hc, ih]
      rfl

theorem quoteChars_append (cs rest : List Char) :
    quoteChars cs ++ rest = backtick :: (doubled backtick cs ++ backtick :: rest) := by
  rw [quoteChars, List.cons_append, List.append_assoc, List.singleton_append]

/-- A quoted name is read whole, and what follows it is left. -/
theorem readName_quoteChars {rest : List Char} (h : rest.head? ≠ some backtick) (cs : List Char) :
    readName (quoteChars cs ++ rest) = some (cs, rest) := by
  rw [quoteChars_append, readName, if_pos rfl, readQuoted_doubled h]

/-! ## Several names -/

variable {sep : Char} {cs name rest : List Char}

/-- The last name. -/
theorem readSomeNames_of_nil (h : readName cs = some (name, [])) :
    readSomeNames sep cs = some [name] := by
  rw [readSomeNames]
  split
  · rename_i hnone
    rw [h] at hnone
    cases hnone
  · rename_i hsome
    rw [h] at hsome
    cases hsome
    rfl
  · rename_i hsome
    rw [h] at hsome
    cases hsome

/-- A name with others after it. -/
theorem readSomeNames_of_sep (h : readName cs = some (name, sep :: rest)) :
    readSomeNames sep cs = (readSomeNames sep rest).map fun names => name :: names := by
  rw [readSomeNames]
  split
  · rename_i hnone
    rw [h] at hnone
    cases hnone
  · rename_i hsome
    rw [h] at hsome
    cases hsome
  · rename_i hsome
    rw [h] at hsome
    cases hsome
    exact if_pos rfl

/-- The characters of a name as it is written. -/
theorem toList_quoteName (s : String) : (quoteName s).toList = quoteChars (foldName s).toList :=
  String.toList_ofList ..

/-- One or more names with a separator between them are read, up to the end. -/
theorem readSomeNames_joinWith {separator : String} (hseparator : separator.toList = [sep])
    (hsep : sep ≠ backtick) (s : String) (names : List String) :
    readSomeNames sep (Text.joinWith separator ((s :: names).map quoteName)).toList =
      some ((s :: names).map fun n => (foldName n).toList) := by
  induction names generalizing s with
  | nil =>
    have hend : ([] : List Char).head? ≠ some backtick := nofun
    have hname := readName_quoteChars hend (foldName s).toList
    rw [List.append_nil, ← toList_quoteName] at hname
    exact readSomeNames_of_nil hname
  | cons t names ih =>
    have hhead : ∀ cs, (sep :: cs).head? ≠ some backtick := fun _ heq => hsep (Option.some.inj heq)
    show readSomeNames sep
      (quoteName s ++ separator ++ Text.joinWith separator ((t :: names).map quoteName)).toList = _
    rw [String.toList_append, String.toList_append, hseparator, toList_quoteName, List.append_assoc,
      List.singleton_append, readSomeNames_of_sep (readName_quoteChars (hhead _) _), ih]
    rfl

/-- **Names are read as they were written**, with any separator between them that is not
a backtick itself. -/
theorem readNames?_joinWith {separator : String} (hseparator : separator.toList = [sep])
    (hsep : sep ≠ backtick) (names : List String) :
    readNames? sep (Text.joinWith separator (names.map quoteName)) =
      some (names.map foldName) := by
  unfold readNames?
  cases names with
  | nil => rfl
  | cons s names =>
    have hread := readSomeNames_joinWith hseparator hsep s names
    split
    · -- no name is written as nothing
      rename_i hnil
      rw [hnil, readSomeNames] at hread
      cases hread
    · rename_i hcons
      rw [← hcons, hread, Option.map_some, List.map_map]
      simp [Function.comp_def, String.ofList_toList]

/-- A separator inside a name does not divide it. -/
example : quoteNames ["A`,`B ", ""] = "`a``,``b`,``" ∧
    readNames? ',' "`a``,``b`,``" = some ["a`,`b", ""] := ⟨by decide +kernel, by cbv⟩

/-- The names that were written can be told from the text. -/
theorem joinWith_quoteName_inj {separator : String} (hseparator : separator.toList = [sep])
    (hsep : sep ≠ backtick) {names names' : List String} :
    Text.joinWith separator (names.map quoteName) = Text.joinWith separator (names'.map quoteName) ↔
      names.map foldName = names'.map foldName := by
  constructor
  · intro h
    have hread := readNames?_joinWith hseparator hsep names
    rw [h, readNames?_joinWith hseparator hsep names'] at hread
    exact (Option.some.inj hread).symm
  · intro h
    have hquote : ∀ ns : List String, ns.map quoteName =
        (ns.map foldName).map fun n => String.ofList (quoteChars n.toList) := by
      intro ns
      rw [List.map_map]
      rfl
    rw [hquote, hquote, h]

/-- **Quoting is unambiguous**: a list of names is read back as these names, trimmed and
in lower case, and so are the schema and the name of a table. Only the same names are
written the same way. -/
theorem quoteNames_read :
    (∀ names, readNames? ',' (quoteNames names) = some (names.map foldName)) ∧
      (∀ schema table,
        readNames? '.' (quoteTable schema table) = some [foldName schema, foldName table]) ∧
      (∀ names names',
        quoteNames names = quoteNames names' ↔ names.map foldName = names'.map foldName) ∧
      ∀ schema table schema' table', quoteTable schema table = quoteTable schema' table' ↔
        foldName schema = foldName schema' ∧ foldName table = foldName table' := by
  have hcomma : ",".toList = [','] := by decide
  have hdot : ".".toList = ['.'] := by decide
  have hcomma' : ',' ≠ backtick := by decide
  have hdot' : '.' ≠ backtick := by decide
  refine ⟨readNames?_joinWith hcomma hcomma', ?_, ?_, ?_⟩
  · intro schema table
    exact readNames?_joinWith hdot hdot' [schema, table]
  · intro names names'
    exact joinWith_quoteName_inj hcomma hcomma'
  · intro schema table schema' table'
    show Text.joinWith "." ([schema, table].map quoteName) =
      Text.joinWith "." ([schema', table'].map quoteName) ↔ _
    rw [joinWith_quoteName_inj hdot hdot']
    simp

end CatalogDdl.Ddl
