import CatalogDdl.Files.Tree

/-!
# Files in a tree

Giving a path a text changes what is at one location, and as long as no directory was
there, it does not change where any path leads. So files can be written one after
the other without regard to each other, provided that they are at different
locations.

- `FileTree.entry?_put`: what is where after a change.
- `FileTree.locate?_put_file`: where paths lead after a file was put somewhere.
- `FileTree.Writable`: a path leads to a location where a file can be put.
- `FileTree.Writable.put`, `FileTree.Writable.readText?_put_self`,
  `FileTree.Writable.readText?_put_other`: what remains of that, and what is read,
  after a file was put at the same or another location.
-/

namespace CatalogDdl.FileTree

variable {t : FileTree} {l l' : Location}

/-! ## Entries -/

/-- Taking out what is at another location does not matter. -/
theorem lookup_filter_of_ne (h : l' ≠ l) (xs : List (Location × Entry)) :
    (xs.filter fun x => x.1 != l).lookup l' = xs.lookup l' := by
  induction xs with
  | nil => rfl
  | cons x xs ih =>
    rw [List.filter_cons, List.lookup_cons]
    by_cases hx : x.1 = l
    · -- the first one is taken out, and it was not what is looked for
      have hother : (l' == x.1) = false := by
        rw [hx]
        exact beq_false_of_ne h
      have hout : (x.1 != l) = false := by
        simp [hx]
      rw [hother, hout]
      exact ih
    · have hkept : (x.1 != l) = true := by
        simp [hx]
      rw [if_pos hkept, List.lookup_cons, ih]

/-- A change puts its entry at its location and leaves the others alone. -/
theorem entry?_put (hl : l ≠ []) (t : FileTree) (e : Entry) (l' : Location) :
    FileTree.entry? (t.put l e) l' = if l' = l then some e else t.entry? l' := by
  cases l' with
  | nil =>
    rw [if_neg (Ne.symm hl)]
    rfl
  | cons name rest =>
    show ((l, e) :: t.entries.filter fun x => x.1 != l).lookup (name :: rest) = _
    rw [List.lookup_cons]
    by_cases h : name :: rest = l
    · rw [if_pos h, h, beq_self_eq_true]
    · rw [if_neg h, beq_false_of_ne h]
      exact lookup_filter_of_ne h t.entries

/-- The root is a directory. -/
theorem ne_nil_of_isDirectory_eq_false (h : t.isDirectory l = false) : l ≠ [] := by
  rintro rfl
  cases h

/-- A file that does not replace a directory does not change which directories there are. -/
theorem isDirectory_put_file (h : t.isDirectory l = false) (text : String) :
    (t.put l (.file text)).isDirectory = t.isDirectory := by
  funext l'
  unfold isDirectory at h ⊢
  rw [entry?_put (ne_nil_of_isDirectory_eq_false h)]
  by_cases hl : l' = l
  · rw [if_pos hl, hl, h]
    rfl
  · rw [if_neg hl]

/-- Nor does it change where paths lead. -/
theorem locate?_put_file (h : t.isDirectory l = false) (text path : String) :
    (t.put l (.file text)).locate? path = t.locate? path := by
  have hstep : (t.put l (.file text)).step = t.step := by
    funext l' piece
    unfold step
    rw [isDirectory_put_file h]
  unfold locate?
  rw [hstep]
  rfl

/-! ## Files -/

/-- A path leads to a location where a file can be put: no directory is there. -/
structure Writable (t : FileTree) (path : String) (l : Location) : Prop where
  leads : t.locate? path = some l
  free : t.isDirectory l = false

namespace Writable

variable {path : String}

theorem writeText_eq (h : t.Writable path l) (text : String) :
    t.writeText path text = (t.put l (.file text), true) := by
  rw [writeText, h.leads]
  show (if t.isDirectory l = true then _ else _) = _
  rw [h.free]
  rfl

/-- What can be written can still be written after something was. -/
theorem put (h : t.Writable path l) (h' : t.isDirectory l' = false) (text : String) :
    (t.put l' (.file text)).Writable path l where
  leads := (locate?_put_file h' text path).trans h.leads
  free := (congrFun (isDirectory_put_file h' text) l).trans h.free

/-- What was written is read. -/
theorem readText?_put_self (h : t.Writable path l) (text : String) :
    (t.put l (.file text)).readText? path = some text := by
  rw [readText?, find?, (h.put h.free text).leads, Option.bind_some,
    entry?_put (ne_nil_of_isDirectory_eq_false h.free), if_pos rfl]

/-- What is written elsewhere does not change what is read. -/
theorem readText?_put_other (h : t.Writable path l) (h' : t.isDirectory l' = false) (hne : l ≠ l')
    (text : String) : (t.put l' (.file text)).readText? path = t.readText? path := by
  rw [readText?, readText?, find?, find?, (h.put h' text).leads, h.leads, Option.bind_some,
    Option.bind_some, entry?_put (ne_nil_of_isDirectory_eq_false h'), if_neg hne]

end Writable

end CatalogDdl.FileTree
