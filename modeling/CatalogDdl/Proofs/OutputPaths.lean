import CatalogDdl.Proofs.FileTree
import CatalogDdl.Proofs.Text
import CatalogDdl.Run.Summary

/-!
# The places of the output files

A path leads to a location with the name that the path ends in. The paths of the
scripts end in `.sql` and the path of the log ends in `.log`, so the log is never at
the location of a script. The two scripts of a schema have names that differ at
their start; only a schema with a slash in its name can bring them together.

- `Path.lastPiece?`: what follows the last slash of a path.
- `FileTree.head?_of_locate?`: it names the location that the path leads to.
- `Outputs.log_apart`, `Outputs.scripts_apart`: different locations.
-/

namespace CatalogDdl

namespace Path

/-- What follows the last slash of a path. -/
def lastPiece? (path : String) : Option String := (pieces path).getLast?

/-- What a path ends in stands after its last slash, unless it has a slash itself. -/
theorem lastPiece?_append {suffix : String} (h : '/' ∉ suffix.toList) (s : String) :
    ∃ stem, lastPiece? (s ++ suffix) = some (stem ++ suffix) := by
  obtain ⟨front, stem, -, happend⟩ := Text.splitAt_append h s.toList
  refine ⟨String.ofList stem, ?_⟩
  rw [lastPiece?, pieces, Text.split, String.toList_append, happend, List.map_append,
    List.map_singleton, List.getLast?_concat, String.ofList_append, String.ofList_toList]

/-- What a name ends in is what the path of that name ends in, below any directory. -/
theorem exists_join_eq_append (dir name suffix : String) :
    ∃ pre, join dir (name ++ suffix) = pre ++ suffix := by
  unfold join
  split
  · exact ⟨name, rfl⟩
  · split
    · exact ⟨dir ++ name, String.append_assoc.symm⟩
    · exact ⟨dir ++ "/" ++ name, String.append_assoc.symm⟩

/-- A name below a directory is the last piece. -/
theorem lastPiece?_join {name : String} (h : '/' ∉ name.toList) (dir : String) :
    lastPiece? (join dir name) = some name := by
  -- what stands before the name is empty or ends in a slash
  have hlast : ∀ pre : List Char, (Text.splitAt '/' pre).getLast? = some [] →
      lastPiece? (String.ofList pre ++ name) = some name := by
    intro pre hpre
    obtain ⟨front, stem, hcs, happend⟩ := Text.splitAt_append h pre
    rw [hcs, List.getLast?_concat] at hpre
    have hstem : stem = [] := Option.some.inj hpre
    rw [lastPiece?, pieces, Text.split, String.toList_append, String.toList_ofList, happend, hstem,
      List.map_append, List.map_singleton, List.getLast?_concat, List.nil_append,
      String.ofList_toList]
  have hslash : ∀ q : List Char, (Text.splitAt '/' (q ++ ['/'])).getLast? = some [] := by
    intro q
    rw [Text.splitAt_concat, List.getLast?_concat]
  unfold join
  split
  · have hnone := hlast [] rfl
    rwa [String.ofList_nil, String.empty_append] at hnone
  · split
    · rename_i hend
      obtain ⟨q, hq⟩ := List.getLast?_eq_some_iff.mp hend
      have hdir := hlast dir.toList (hq ▸ hslash q)
      rwa [String.ofList_toList] at hdir
    · have hdir := hlast (dir.toList ++ ['/']) (hslash _)
      rw [String.ofList_append, String.ofList_toList] at hdir
      exact hdir

end Path

namespace FileTree

variable {t : FileTree} {path piece : String} {l : Location}

/-- A path leads to something of the name that the path ends in. -/
theorem head?_of_locate? (h : t.locate? path = some l) (hlast : Path.lastPiece? path = some piece)
    (hname : piece ∉ ["", ".", ".."]) : l.head? = some piece := by
  obtain ⟨front, hpieces⟩ := List.getLast?_eq_some_iff.mp hlast
  unfold locate? at h
  rw [hpieces] at h
  split at h
  · rw [List.foldlM_append] at h
    -- the last step is made from wherever the others lead
    obtain ⟨above, -, hstep⟩ := Option.bind_eq_some_iff.mp h
    rw [List.foldlM_cons] at hstep
    obtain ⟨l', hstep, hl⟩ := Option.bind_eq_some_iff.mp hstep
    cases hl
    simp only [List.mem_cons, List.not_mem_nil, or_false, not_or] at hname
    obtain ⟨hempty, hdot, hup⟩ := hname
    simp only [step, hempty, hdot, hup, decide_false, Bool.or_self, Bool.false_eq_true,
      if_false] at hstep
    split at hstep
    · cases hstep
    · split at hstep
      · cases hstep
        rfl
      · cases hstep
  · cases h

end FileTree

namespace Outputs

variable {t : FileTree} {dir schema : String} {a b : Location}

/-- A name with a last character other than a dot names something. -/
theorem name_of_suffix {stem suffix : String} {c : Char} (h : suffix.toList.getLast? = some c)
    (hc : c ≠ '.') : stem ++ suffix ∉ ["", ".", ".."] := by
  have hlast : (stem ++ suffix).toList.getLast? = some c := by
    rw [String.toList_append, List.getLast?_append, h]
    rfl
  intro hmem
  simp only [List.mem_cons, List.not_mem_nil, or_false] at hmem
  rcases hmem with hs | hs | hs
  · rw [hs] at hlast
    cases hlast
  · rw [hs] at hlast
    exact hc (Option.some.inj hlast).symm
  · rw [hs] at hlast
    exact hc (Option.some.inj hlast).symm

/-- A path with a given end leads to something whose name has that end. -/
theorem head?_of_suffix {path pre suffix : String} {c : Char} (hpath : path = pre ++ suffix)
    (hslash : '/' ∉ suffix.toList) (hlast : suffix.toList.getLast? = some c) (hc : c ≠ '.')
    (h : t.locate? path = some a) : ∃ stem, a.head? = some (stem ++ suffix) := by
  obtain ⟨stem, hpiece⟩ := Path.lastPiece?_append hslash pre
  rw [← hpath] at hpiece
  exact ⟨stem, FileTree.head?_of_locate? h hpiece (name_of_suffix hlast hc)⟩

/-- The log is not at the location of something that ends like a script. -/
theorem log_apart {path pre : String} (hpath : path = pre ++ ".sql")
    (ha : t.locate? path = some a) (hb : t.locate? (Outputs.of dir schema).log = some b) :
    a ≠ b := by
  obtain ⟨pre', hlog⟩ := Path.exists_join_eq_append dir ("reverse_" ++ schema) ".log"
  obtain ⟨stem, hstem⟩ := head?_of_suffix hpath (c := 'l') (by decide) (by decide) (by decide) ha
  obtain ⟨stem', hstem'⟩ := head?_of_suffix hlog (c := 'g') (by decide) (by decide) (by decide) hb
  rintro rfl
  rw [hstem] at hstem'
  have hchars := congrArg (fun s : String => s.toList.getLast?) (Option.some.inj hstem')
  simp [String.toList_append, List.getLast?_append] at hchars

/-- The two scripts of a schema without a slash in its name are apart. -/
theorem scripts_apart (hschema : '/' ∉ schema.toList)
    (ha : t.locate? (Outputs.of dir schema).primary = some a)
    (hb : t.locate? (Outputs.of dir schema).compatibility = some b) : a ≠ b := by
  have hprimary : '/' ∉ ("reverse_" ++ schema ++ ".sql").toList := by
    simp [String.toList_append, hschema]
  have hcompatibility : '/' ∉ ("compatibility_" ++ schema ++ ".sql").toList := by
    simp [String.toList_append, hschema]
  have hnamea := FileTree.head?_of_locate? ha (Path.lastPiece?_join hprimary dir)
    (name_of_suffix (c := 'l') (by decide) (by decide))
  have hnameb := FileTree.head?_of_locate? hb (Path.lastPiece?_join hcompatibility dir)
    (name_of_suffix (c := 'l') (by decide) (by decide))
  rintro rfl
  rw [hnamea] at hnameb
  have hchars := congrArg (fun s : String => s.toList.head?) (Option.some.inj hnameb)
  simp [String.toList_append] at hchars

end Outputs

end CatalogDdl
