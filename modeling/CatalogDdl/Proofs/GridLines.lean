import CatalogDdl.Ddl.Banner
import CatalogDdl.Proofs.Text
import Mathlib.Data.List.DropRight
import Mathlib.Data.List.Forall2

/-!
# The lines of a grid

The rules of a grid and its lines of cells are made apart from each other: a rule of the
widths of the columns, a line of cells of cells that are filled up to these widths. They fit
because both are segments with a mark in front of each and one at the end, and the segment
of a column has two characters more than the column is wide, whichever kind of line it is in.
So the marks of every line are at the same offsets, and a line of cells cut there is its
cells again. That no cell is wider than its column is what makes a filled-up cell as long
as it should be.

- `framed`: segments with a mark in front of each and one at the end.
- `barsFrom`: the offsets of the marks, from the widths of the columns.
- `lineLength`: the length of a line, from the widths too.
- `offsetsFrom`, `cutAt`: the offsets that a reader finds in a line, and what stands between
  given ones.
- `Fits`, `Grid.fits`: no cell is wider than its column.
- `isRule_ruleLine`, `cutAt_cellLine`: the rules, and the lines of cells.
- `renderBanner_aligned`: the grid of a banner, read off its text.
-/

namespace CatalogDdl.Ddl

/-! ## Segments and marks -/

/-- Segments with a mark in front of each, and a last mark. -/
def framed (last : Char) : List (Char × List Char) → List Char
  | [] => [last]
  | (mark, segment) :: rest => mark :: (segment ++ framed last rest)

/-- The offsets of the marks around columns of given widths, if the first one is at `start`. A
column has a space on both sides of its cell. -/
def barsFrom (start : Nat) : List Nat → List Nat
  | [] => [start]
  | width :: widths => start :: barsFrom (start + (width + 2) + 1) widths

/-- The offsets of the characters of a text that a test picks, if the text begins at `start`. -/
def offsetsFrom (picks : Char → Bool) (start : Nat) : List Char → List Nat
  | [] => []
  | c :: cs =>
    if picks c then start :: offsetsFrom picks (start + 1) cs else offsetsFrom picks (start + 1) cs

/-- What stands in a text between neighbours of some offsets. -/
def cutAt (cs : List Char) : List Nat → List (List Char)
  | i :: j :: rest => (cs.drop (i + 1)).take (j - (i + 1)) :: cutAt cs (j :: rest)
  | _ => []

/-- How long a line around columns of given widths is. -/
def lineLength : List Nat → Nat
  | [] => 1
  | width :: widths => (width + 2) + 1 + lineLength widths

/-- Segments that are as long as columns of given widths. -/
def Fills (segments : List (Char × List Char)) (widths : List Nat) : Prop :=
  List.Forall₂ (fun x width => x.2.length = width + 2) segments widths

variable {picks : Char → Bool} {last mark : Char} {cs ds : List Char} {widths : List Nat}
  {segments : List (Char × List Char)}

/-- What is picked in the second part of a text is further on by the length of the first. -/
theorem offsetsFrom_append (start : Nat) :
    offsetsFrom picks start (cs ++ ds) =
      offsetsFrom picks start cs ++ offsetsFrom picks (start + cs.length) ds := by
  induction cs generalizing start with
  | nil => rfl
  | cons c cs ih =>
    have hlength : start + (c :: cs).length = start + 1 + cs.length := by
      rw [List.length_cons]
      omega
    rw [List.cons_append, offsetsFrom, offsetsFrom, ih, hlength]
    by_cases hc : picks c = true
    · rw [if_pos hc, if_pos hc]
      rfl
    · rw [if_neg hc, if_neg hc]

/-- Nothing is picked where no character is. -/
theorem offsetsFrom_eq_nil (h : ∀ c ∈ cs, picks c = false) (start : Nat) :
    offsetsFrom picks start cs = [] := by
  induction cs generalizing start with
  | nil => rfl
  | cons c cs ih =>
    obtain ⟨hc, hcs⟩ := List.forall_mem_cons.mp h
    rw [offsetsFrom, if_neg (by rw [hc]; exact Bool.false_ne_true), ih hcs]

theorem length_barsFrom (start : Nat) (widths : List Nat) :
    (barsFrom start widths).length = widths.length + 1 := by
  induction widths generalizing start with
  | nil => rfl
  | cons width widths ih => rw [barsFrom, List.length_cons, ih, List.length_cons]

/-- A reader who knows the marks finds them where the widths of the columns put them. -/
theorem offsetsFrom_framed (h : Fills segments widths) (hlast : picks last = true)
    (hpicks : ∀ x ∈ segments, picks x.1 = true ∧ ∀ c ∈ x.2, picks c = false) (start : Nat) :
    offsetsFrom picks start (framed last segments) = barsFrom start widths := by
  -- a column is passed over with its mark, so the next line begins further on
  induction h generalizing start with
  | nil => exact if_pos hlast
  | @cons x width segments widths hx h ih =>
    obtain ⟨⟨hmark, hsegment⟩, hrest⟩ := List.forall_mem_cons.mp hpicks
    have hnext : start + 1 + x.2.length = start + (width + 2) + 1 := by
      rw [hx]
      omega
    rw [framed, offsetsFrom, if_pos hmark, offsetsFrom_append, offsetsFrom_eq_nil hsegment,
      List.nil_append, hnext, ih hrest]
    rfl

/-- The length of a line depends on nothing but the widths of the columns. -/
theorem length_framed (h : Fills segments widths) :
    (framed last segments).length = lineLength widths := by
  induction h with
  | nil => rfl
  | cons hx h ih =>
    rw [framed, List.length_cons, List.length_append, ih, hx, lineLength]
    omega

theorem cutAt_cons_barsFrom (i start : Nat) (widths : List Nat) :
    cutAt cs (i :: barsFrom start widths) =
      (cs.drop (i + 1)).take (start - (i + 1)) :: cutAt cs (barsFrom start widths) := by
  cases widths <;> rfl

/-- A line with its first column as a part of what stands in front of the others. -/
theorem append_framed_cons (front : List Char) (mark : Char) (segment : List Char)
    (segments : List (Char × List Char)) :
    front ++ framed last ((mark, segment) :: segments) =
      (front ++ mark :: segment) ++ framed last segments := by
  rw [framed, List.append_assoc, List.cons_append]

/-- The next mark stands where that ends. -/
theorem length_append_segment {segment : List Char} {width : Nat} (front : List Char) (mark : Char)
    (h : segment.length = width + 2) :
    front.length + (width + 2) + 1 = (front ++ mark :: segment).length := by
  rw [List.length_append, List.length_cons, h]
  omega

/-- A line cut at its marks is its segments, whatever stands in front of it. -/
theorem cutAt_framed (h : Fills segments widths) (front : List Char) :
    cutAt (front ++ framed last segments) (barsFrom front.length widths) =
      segments.map Prod.snd := by
  -- what was passed over stands in front of the rest, and offsets count from its start
  induction h generalizing front with
  | nil => rfl
  | @cons x width segments widths hx h ih =>
    obtain ⟨mark, segment⟩ := x
    have hx : segment.length = width + 2 := hx
    have hstart := length_append_segment front mark hx
    have hsegment : ((front ++ framed last ((mark, segment) :: segments)).drop (front.length + 1)).take
        (front.length + (width + 2) + 1 - (front.length + 1)) = segment := by
      have hwidth : front.length + (width + 2) + 1 - (front.length + 1) = segment.length := by
        omega
      rw [hwidth, List.drop_append, List.drop_eq_nil_of_le (by omega), List.nil_append,
        Nat.add_sub_cancel_left, framed, List.drop_one, List.tail_cons, List.take_left]
    rw [barsFrom, cutAt_cons_barsFrom, hsegment, List.map_cons, append_framed_cons, hstart, ih]

/-- A mark stands at each of the offsets. -/
theorem getElem?_framed (h : Fills segments widths) (front : List Char) :
    (barsFrom front.length widths).map (fun i => (front ++ framed last segments)[i]?) =
      (segments.map Prod.fst ++ [last]).map some := by
  induction h generalizing front with
  | nil => simp [barsFrom, framed]
  | @cons x width segments widths hx h ih =>
    obtain ⟨mark, segment⟩ := x
    have hx : segment.length = width + 2 := hx
    have hstart := length_append_segment front mark hx
    have hmark : ((front ++ mark :: segment) ++ framed last segments)[front.length]? = some mark := by
      simp
    rw [barsFrom, List.map_cons, append_framed_cons, hmark, hstart, ih]
    rfl

/-- The characters of a line. -/
theorem mem_framed {c : Char} :
    c ∈ framed last segments ↔ c = last ∨ ∃ x ∈ segments, c = x.1 ∨ c ∈ x.2 := by
  induction segments with
  | nil => simp [framed]
  | cons x segments ih =>
    rw [framed, List.mem_cons, List.mem_append, ih]
    simp only [List.mem_cons, exists_eq_or_imp]
    rw [← or_assoc, or_left_comm]

/-- Texts with one mark between neighbours, one in front of all and one after them. -/
theorem cons_joinCharsWith_append (left middle right : Char) (s : List Char)
    (ss : List (List Char)) :
    left :: (Text.joinCharsWith [middle] (s :: ss) ++ [right]) =
      framed right ((left, s) :: ss.map fun t => (middle, t)) := by
  induction ss generalizing left s with
  | nil => rfl
  | cons t ss ih =>
    rw [Text.joinCharsWith, List.append_assoc, List.append_assoc, List.map_cons, framed,
      List.singleton_append, ih]

/-! ## Cells and columns -/

/-- No cell is wider than its column. -/
def Fits (cells : List String) (widths : List Nat) : Prop :=
  List.Forall₂ (fun cell width => cell.length ≤ width) cells widths

/-- The rows of a grid have as many cells as its header. -/
def Grid.IsRegular (g : Grid) : Prop := ∀ row ∈ g.rows, row.length = g.header.length

/-- A cell as it is read off a line: the text behind one space, without the spaces at its end. -/
def readCell? : List Char → Option (List Char)
  | [] => none
  | c :: cs => if c = ' ' then some (cs.rdropWhile (· == ' ')) else none

variable {cells row : List String} {rows : List (List String)}

theorem length_widen (h : cells.length = widths.length) :
    (widen widths cells).length = widths.length := by
  rw [widen, List.length_zipWith, h, Nat.min_self]

/-- Cells are as wide as they are long. -/
theorem fits_map_length (cells : List String) : Fits cells (cells.map String.length) := by
  induction cells with
  | nil => exact .nil
  | cons cell cells ih => exact .cons (Nat.le_refl _) ih

/-- Columns that are made wider for some cells hold these. -/
theorem fits_widen (h : cells.length = widths.length) : Fits cells (widen widths cells) := by
  induction cells generalizing widths with
  | nil =>
    obtain rfl := List.length_eq_zero_iff.mp h.symm
    exact .nil
  | cons cell cells ih =>
    obtain ⟨width, widths, rfl⟩ := List.exists_cons_of_length_eq_add_one h.symm
    exact .cons (Nat.le_max_right ..) (ih (Nat.succ.inj h))

/-- Columns that are made wider hold what they held. -/
theorem Fits.widen (h : Fits cells widths) (hrow : row.length = widths.length) :
    Fits cells (widen widths row) := by
  induction h generalizing row with
  | nil =>
    obtain rfl := List.length_eq_zero_iff.mp hrow
    exact .nil
  | cons hcell h ih =>
    obtain ⟨cell, row, rfl⟩ := List.exists_cons_of_length_eq_add_one hrow
    exact .cons (hcell.trans (Nat.le_max_left ..)) (ih (Nat.succ.inj hrow))

theorem Fits.foldl_widen (h : Fits cells widths) (hrows : ∀ row ∈ rows, row.length = widths.length) :
    Fits cells (rows.foldl Ddl.widen widths) := by
  induction rows generalizing widths with
  | nil => exact h
  | cons row rows ih =>
    obtain ⟨hrow, hrows⟩ := List.forall_mem_cons.mp hrows
    rw [List.foldl_cons]
    exact ih (h.widen hrow) (by rwa [length_widen hrow])

/-- Columns that are made wider for every row hold each of the rows. -/
theorem fits_foldl_widen (hrows : ∀ row ∈ rows, row.length = widths.length) (h : cells ∈ rows) :
    Fits cells (rows.foldl widen widths) := by
  induction rows generalizing widths with
  | nil => cases h
  | cons row rows ih =>
    obtain ⟨hrow, hrows⟩ := List.forall_mem_cons.mp hrows
    have hrest : ∀ r ∈ rows, r.length = (widen widths row).length := by rwa [length_widen hrow]
    rw [List.foldl_cons]
    -- the row is held once its turn has come, and wider columns hold it afterwards
    rcases List.mem_cons.mp h with rfl | h
    · exact (fits_widen hrow).foldl_widen hrest
    · exact ih hrest h

/-- **No cell of a grid is wider than its column**, so filling up never takes more away than
there is. -/
theorem Grid.fits {g : Grid} (hregular : g.IsRegular) (h : cells ∈ g.header :: g.rows) :
    Fits cells g.widths := by
  have hrows : ∀ row ∈ g.rows, row.length = (g.header.map String.length).length := by
    intro row hrow
    rw [List.length_map]
    exact hregular row hrow
  -- the header gives the first widths, and the rows only add to them
  rcases List.mem_cons.mp h with rfl | h
  · exact (fits_map_length g.header).foldl_widen hrows
  · exact fits_foldl_widen hrows h

theorem toList_padCell (cell : String) (width : Nat) :
    (padCell cell width).toList =
      ' ' :: (cell.toList ++ List.replicate (width - cell.length + 1) ' ') := by
  rw [List.replicate_succ']
  simp [padCell, repeated, String.toList_append]

/-- A cell that fits is filled up to the width of its column and a space on both sides. -/
theorem length_padCell {cell : String} {width : Nat} (h : cell.length ≤ width) :
    (padCell cell width).toList.length = width + 2 := by
  rw [toList_padCell, List.length_cons, List.length_append, List.length_replicate,
    String.length_toList]
  omega

theorem rdropWhile_append_replicate (cs : List Char) (n : Nat) :
    (cs ++ List.replicate n ' ').rdropWhile (· == ' ') = cs.rdropWhile (· == ' ') := by
  induction n with
  | zero => rw [List.replicate_zero, List.append_nil]
  | succ n ih =>
    rw [List.replicate_succ', ← List.append_assoc, List.rdropWhile_concat_pos _ _ _ rfl, ih]

/-- A cell is read back from its column, up to spaces at its end. -/
theorem readCell?_padCell (cell : String) (width : Nat) :
    readCell? (padCell cell width).toList = some (cell.toList.rdropWhile (· == ' ')) := by
  rw [toList_padCell, readCell?, if_pos rfl, rdropWhile_append_replicate]

/-! ## Lines -/

/-- The segments of a rule, each with the mark in front of it. -/
def ruleSegments (left middle : Char) : List Nat → List (Char × List Char)
  | [] => []
  | width :: widths =>
    (left, List.replicate (width + 2) '─') ::
      widths.map fun width => (middle, List.replicate (width + 2) '─')

/-- The segments of a line of cells, each with the mark in front of it. -/
def cellSegments (cells : List String) (widths : List Nat) : List (Char × List Char) :=
  (List.zipWith padCell cells widths).map fun s => ('│', s.toList)

/-- The dashes of a rule are as many as a filled-up cell has characters. -/
theorem fills_ruleSegments (left middle : Char) (widths : List Nat) :
    Fills (ruleSegments left middle widths) widths := by
  -- only the mark of the first column is another one
  have hmiddle : ∀ widths : List Nat,
      Fills (widths.map fun width => (middle, List.replicate (width + 2) '─')) widths := by
    intro widths
    induction widths with
    | nil => exact .nil
    | cons width widths ih => exact .cons List.length_replicate ih
  cases widths with
  | nil => exact .nil
  | cons width widths => exact .cons List.length_replicate (hmiddle widths)

/-- Cells that fit are filled up to segments of the right lengths. -/
theorem Fits.fills (h : Fits cells widths) : Fills (cellSegments cells widths) widths := by
  induction h with
  | nil => exact .nil
  | cons hcell h ih => exact .cons (length_padCell hcell) ih

/-- A rule is dashes between marks. -/
theorem toList_ruleLine {left middle right : String} {l m r : Char} (hleft : left.toList = [l])
    (hmiddle : middle.toList = [m]) (hright : right.toList = [r]) (hwidths : widths ≠ []) :
    (ruleLine left middle right widths).toList = framed r (ruleSegments l m widths) := by
  obtain ⟨width, widths, rfl⟩ := List.exists_cons_of_ne_nil hwidths
  have hsegments : ∀ widths : List Nat, (widths.map fun w => repeated '─' (w + 2)).map String.toList =
      widths.map fun w => List.replicate (w + 2) '─' := by
    intro widths
    rw [List.map_map]
    exact List.map_congr_left fun w _ => String.toList_ofList ..
  rw [ruleLine, String.toList_append, String.toList_append, Text.toList_joinWith, hleft, hmiddle,
    hright, hsegments, List.map_cons, List.append_assoc, List.singleton_append,
    cons_joinCharsWith_append, List.map_map]
  rfl

/-- A line of cells is filled-up cells between bars. -/
theorem toList_cellLine (hfits : Fits cells widths) (hwidths : widths ≠ []) :
    (cellLine widths cells).toList = framed '│' (cellSegments cells widths) := by
  have hbar : ("│" : String).toList = ['│'] := by decide
  cases hfits with
  | nil => exact absurd rfl hwidths
  | cons hcell hrest =>
    rw [cellLine, String.toList_append, String.toList_append, Text.toList_joinWith, hbar,
      List.zipWith_cons_cons, List.map_cons, List.append_assoc, List.singleton_append,
      cons_joinCharsWith_append, List.map_map, cellSegments, List.zipWith_cons_cons, List.map_cons]
    rfl

/-- The characters that the columns meet in, in the rules of a grid. -/
def isJunction (c : Char) : Bool :=
  ['┌', '┬', '┐', '├', '┼', '┤', '└', '┴', '┘'].contains c

/-- A line has its junctions at the marks around columns of given widths, and goes no further. -/
structure IsRule (line : String) (widths : List Nat) : Prop where
  offsets : offsetsFrom isJunction 0 line.toList = barsFrom 0 widths
  length_eq : line.length = lineLength widths
  oneLine : '\n' ∉ line.toList

/-- A rule has its junctions at the marks and nowhere else. -/
theorem isRule_ruleLine {left middle right : String} {l m r : Char}
    (hleft : left.toList = [l]) (hmiddle : middle.toList = [m]) (hright : right.toList = [r])
    (hl : isJunction l = true) (hm : isJunction m = true) (hr : isJunction r = true)
    (hwidths : widths ≠ []) : IsRule (ruleLine left middle right widths) widths := by
  -- a dash is no junction, and every mark in front of a column is one
  have hmarks : ∀ x ∈ ruleSegments l m widths, isJunction x.1 = true ∧ ∀ c ∈ x.2, c = '─' := by
    intro x hx
    cases widths with
    | nil => cases hx
    | cons width widths =>
      rcases List.mem_cons.mp hx with rfl | hx
      · exact ⟨hl, fun c => List.eq_of_mem_replicate⟩
      · obtain ⟨w, -, rfl⟩ := List.mem_map.mp hx
        exact ⟨hm, fun c => List.eq_of_mem_replicate⟩
  have hline := toList_ruleLine hleft hmiddle hright hwidths
  refine ⟨?_, ?_, ?_⟩
  · rw [hline]
    refine offsetsFrom_framed (fills_ruleSegments l m widths) hr ?_ 0
    intro x hx
    obtain ⟨hmark, hdashes⟩ := hmarks x hx
    exact ⟨hmark, fun c hc => by rw [hdashes c hc]; rfl⟩
  · rw [← String.length_toList, hline, length_framed (fills_ruleSegments l m widths)]
  · have hjunction : isJunction '\n' = false := rfl
    rw [hline, mem_framed]
    rintro (rfl | ⟨x, hx, hmem⟩)
    · rw [hjunction] at hr
      cases hr
    · obtain ⟨hmark, hdashes⟩ := hmarks x hx
      rcases hmem with heq | hmem
      · rw [← heq, hjunction] at hmark
        cases hmark
      · exact absurd (hdashes _ hmem) (by decide)

/-- A line of cells is as long as a rule. -/
theorem length_cellLine (hfits : Fits cells widths) (hwidths : widths ≠ []) :
    (cellLine widths cells).length = lineLength widths := by
  rw [← String.length_toList, toList_cellLine hfits hwidths, length_framed hfits.fills]

/-- A line of cells has a bar at each of the marks. -/
theorem getElem?_cellLine (hfits : Fits cells widths) (hwidths : widths ≠ []) {i : Nat}
    (h : i ∈ barsFrom 0 widths) : (cellLine widths cells).toList[i]? = some '│' := by
  -- all marks are bars, and the offset is that of one of them
  have hmarks : (barsFrom 0 widths).map (fun i => (framed '│' (cellSegments cells widths))[i]?) =
      ((cellSegments cells widths).map Prod.fst ++ ['│']).map some := getElem?_framed hfits.fills []
  have hmem := List.mem_map_of_mem (f := fun i => (framed '│' (cellSegments cells widths))[i]?) h
  rw [hmarks] at hmem
  rw [toList_cellLine hfits hwidths]
  obtain ⟨c, hc, heq⟩ := List.mem_map.mp hmem
  rw [← heq]
  rcases List.mem_append.mp hc with hc | hc
  · obtain ⟨x, hx, rfl⟩ := List.mem_map.mp hc
    obtain ⟨s, -, rfl⟩ := List.mem_map.mp hx
    rfl
  · rw [List.mem_singleton.mp hc]

/-- A line of cells that is cut at its marks is the cells again. -/
theorem cutAt_cellLine (hfits : Fits cells widths) (hwidths : widths ≠ []) :
    (cutAt (cellLine widths cells).toList (barsFrom 0 widths)).map readCell? =
      cells.map fun s => some (s.toList.rdropWhile (· == ' ')) := by
  have hcut : cutAt (framed '│' (cellSegments cells widths)) (barsFrom 0 widths) =
      (cellSegments cells widths).map Prod.snd := cutAt_framed hfits.fills []
  rw [toList_cellLine hfits hwidths, hcut]
  clear hcut hwidths
  induction hfits with
  | nil => rfl
  | cons hcell h ih => exact congr_arg₂ List.cons (readCell?_padCell _ _) ih

theorem mem_padCell {cell : String} {width : Nat} {c : Char} (h : c ∈ (padCell cell width).toList) :
    c = ' ' ∨ c ∈ cell.toList := by
  rw [toList_padCell, List.mem_cons, List.mem_append] at h
  rcases h with h | h | h
  · exact .inl h
  · exact .inr h
  · exact .inl (List.eq_of_mem_replicate h)

theorem mem_cellSegments {x : Char × List Char} (h : x ∈ cellSegments cells widths) :
    x.1 = '│' ∧ ∃ cell ∈ cells, ∀ c ∈ x.2, c = ' ' ∨ c ∈ cell.toList := by
  obtain ⟨s, hs, rfl⟩ := List.mem_map.mp h
  rw [← List.map_uncurry_zip_eq_zipWith] at hs
  obtain ⟨⟨cell, width⟩, hpair, rfl⟩ := List.mem_map.mp hs
  exact ⟨rfl, cell, (List.of_mem_zip hpair).1, fun c => mem_padCell⟩

/-- If no cell has a bar in it, a reader finds no others. -/
theorem offsetsFrom_cellLine (hfits : Fits cells widths) (hwidths : widths ≠ [])
    (h : ∀ cell ∈ cells, '│' ∉ cell.toList) :
    offsetsFrom (· == '│') 0 (cellLine widths cells).toList = barsFrom 0 widths := by
  rw [toList_cellLine hfits hwidths]
  refine offsetsFrom_framed hfits.fills rfl ?_ 0
  intro x hx
  obtain ⟨hmark, cell, hcell, hchars⟩ := mem_cellSegments hx
  refine ⟨by rw [hmark]; rfl, fun c hc => ?_⟩
  rw [beq_eq_false_iff_ne]
  rintro rfl
  rcases hchars _ hc with hspace | hmem
  · exact absurd hspace (by decide)
  · exact h cell hcell hmem

/-- What is neither a space nor a bar comes from a cell. -/
theorem not_mem_cellLine {c : Char} (hfits : Fits cells widths) (hwidths : widths ≠ [])
    (hspace : c ≠ ' ') (hbar : c ≠ '│') (h : ∀ cell ∈ cells, c ∉ cell.toList) :
    c ∉ (cellLine widths cells).toList := by
  rw [toList_cellLine hfits hwidths, mem_framed]
  rintro (rfl | ⟨x, hx, hmem⟩)
  · exact hbar rfl
  · obtain ⟨hmark, cell, hcell, hchars⟩ := mem_cellSegments hx
    rcases hmem with rfl | hmem
    · exact hbar hmark
    · rcases hchars c hmem with heq | hin
      · exact hspace heq
      · exact h cell hcell hin

/-! ## Banners -/

variable {title source target suggestion : String}

/-- The only row of a banner has four cells, like its header. -/
theorem bannerGrid_isRegular (source target suggestion : String) :
    (bannerGrid source target suggestion).IsRegular := by
  intro row hrow
  rw [List.mem_singleton.mp hrow]
  rfl

/-- The lines of a banner are those of its grid, with two in front of them and two after them. -/
theorem renderBanner_eq_joinWith (title source target suggestion : String) :
    renderBanner title source target suggestion =
      Text.joinWith "\n" (["/*", " " ++ title] ++ (bannerGrid source target suggestion).lines
        ++ ["*/", ""]) := by
  apply String.toList_injective
  simp [renderBanner, Grid.lines, bannerGrid, Text.joinWith, String.toList_append]

/-- The lines of a banner are read off its text, if none of them goes further. -/
theorem split_renderBanner (htitle : '\n' ∉ title.toList)
    (hlines : ∀ line ∈ (bannerGrid source target suggestion).lines, '\n' ∉ line.toList) :
    Text.split '\n' (renderBanner title source target suggestion) =
      ["/*", " " ++ title] ++ (bannerGrid source target suggestion).lines ++ ["*/", ""] := by
  have hend : ("\n" : String).toList = ['\n'] := by decide
  rw [renderBanner_eq_joinWith]
  -- a text is split where it was joined if no part of it has a line end
  refine Text.split_joinWith hend (by simp) fun line hline => ?_
  rcases List.mem_append.mp hline with hline | hline
  · rcases List.mem_append.mp hline with hline | hline
    · rcases List.mem_pair.mp hline with rfl | rfl
      · decide
      · simpa [String.toList_append] using htitle
    · exact hlines line hline
  · rcases List.mem_pair.mp hline with rfl | rfl <;> decide

/-- The lines of a banner's grid, for the widths of its columns. -/
theorem bannerGrid_lines {widths : List Nat}
    (h : (bannerGrid source target suggestion).widths = widths) :
    (bannerGrid source target suggestion).lines =
      [ruleLine "┌" "┬" "┐" widths, cellLine widths bannerHeader, ruleLine "├" "┼" "┤" widths,
        cellLine widths ["TABLE", source, target, suggestion], ruleLine "└" "┴" "┘" widths] := by
  subst h
  rfl

theorem not_mem_dataCells {c : Char} (hc : c ∉ "TABLE".toList) (hsource : c ∉ source.toList)
    (htarget : c ∉ target.toList) (hsuggestion : c ∉ suggestion.toList) :
    ∀ cell ∈ ["TABLE", source, target, suggestion], c ∉ cell.toList := by
  simp only [List.forall_mem_cons]
  exact ⟨hc, hsource, htarget, hsuggestion, List.forall_mem_nil _⟩

/-- **The grid of a banner is aligned.** If none of its texts has a line end, the text of a
banner is nine lines long, five of them those of the grid. No cell is wider than its column.
These five lines have one length, and five marks at the same offsets: the junctions of the
rules, the bars of the header, and bars of the data line, where there are others only if a text
has some. Cut there, the data line is the word TABLE and the texts, each behind one space and
up to spaces at its end. -/
theorem renderBanner_aligned (htitle : '\n' ∉ title.toList) (hsource : '\n' ∉ source.toList)
    (htarget : '\n' ∉ target.toList) (hsuggestion : '\n' ∉ suggestion.toList) :
    ∃ top header middle data bottom : String,
      Text.split '\n' (renderBanner title source target suggestion) =
        ["/*", " " ++ title, top, header, middle, data, bottom, "*/", ""] ∧
      (∀ cells ∈ [bannerHeader, ["TABLE", source, target, suggestion]],
        Fits cells (bannerGrid source target suggestion).widths) ∧
      (∀ line ∈ [header, middle, data, bottom], line.length = top.length) ∧
      ∃ bars : List Nat, bars.length = 5 ∧
        (∀ rule ∈ [top, middle, bottom], offsetsFrom isJunction 0 rule.toList = bars) ∧
        offsetsFrom (· == '│') 0 header.toList = bars ∧
        (∀ i ∈ bars, data.toList[i]? = some '│') ∧
        ('│' ∉ source.toList → '│' ∉ target.toList → '│' ∉ suggestion.toList →
          offsetsFrom (· == '│') 0 data.toList = bars) ∧
        (cutAt data.toList bars).map readCell? =
          ["TABLE", source, target, suggestion].map fun s =>
            some (s.toList.rdropWhile (· == ' ')) := by
  have hfits : ∀ cells ∈ [bannerHeader, ["TABLE", source, target, suggestion]],
      Fits cells (bannerGrid source target suggestion).widths :=
    fun cells => Grid.fits (bannerGrid_isRegular source target suggestion)
  -- from here on the widths are any that hold both rows
  generalize hwidths : (bannerGrid source target suggestion).widths = widths at hfits
  have hheader : Fits bannerHeader widths := hfits _ (List.mem_cons_self ..)
  have hdata : Fits ["TABLE", source, target, suggestion] widths :=
    hfits _ (List.mem_cons_of_mem _ (List.mem_cons_self ..))
  have hlength : widths.length = 4 := hheader.length_eq.symm
  have hne : widths ≠ [] := by
    rintro rfl
    cases hlength
  have hlines := bannerGrid_lines hwidths
  have htop : IsRule (ruleLine "┌" "┬" "┐" widths) widths :=
    isRule_ruleLine (l := '┌') (m := '┬') (r := '┐') rfl rfl rfl rfl rfl rfl hne
  have hmiddle : IsRule (ruleLine "├" "┼" "┤" widths) widths :=
    isRule_ruleLine (l := '├') (m := '┼') (r := '┤') rfl rfl rfl rfl rfl rfl hne
  have hbottom : IsRule (ruleLine "└" "┴" "┘" widths) widths :=
    isRule_ruleLine (l := '└') (m := '┴') (r := '┘') rfl rfl rfl rfl rfl rfl hne
  have hheaderEnd : '\n' ∉ (cellLine widths bannerHeader).toList :=
    not_mem_cellLine hheader hne (by decide) (by decide) (by decide)
  have hdataEnd : '\n' ∉ (cellLine widths ["TABLE", source, target, suggestion]).toList :=
    not_mem_cellLine hdata hne (by decide) (by decide)
      (not_mem_dataCells (by decide) hsource htarget hsuggestion)
  refine ⟨ruleLine "┌" "┬" "┐" widths, cellLine widths bannerHeader, ruleLine "├" "┼" "┤" widths,
    cellLine widths ["TABLE", source, target, suggestion], ruleLine "└" "┴" "┘" widths,
    ?_, hfits, ?_, barsFrom 0 widths, ?_, ?_, ?_, ?_, ?_, cutAt_cellLine hdata hne⟩
  · -- no line goes further, because neither marks nor dashes nor texts have a line end
    have honeLine : ∀ line ∈ (bannerGrid source target suggestion).lines, '\n' ∉ line.toList := by
      rw [hlines]
      simp only [List.forall_mem_cons]
      exact ⟨htop.oneLine, hheaderEnd, hmiddle.oneLine, hdataEnd, hbottom.oneLine, List.forall_mem_nil _⟩
    rw [split_renderBanner htitle honeLine, hlines]
    rfl
  · rw [htop.length_eq]
    simp only [List.forall_mem_cons]
    exact ⟨length_cellLine hheader hne, hmiddle.length_eq, length_cellLine hdata hne,
      hbottom.length_eq, List.forall_mem_nil _⟩
  · rw [length_barsFrom, hlength]
  · simp only [List.forall_mem_cons]
    exact ⟨htop.offsets, hmiddle.offsets, hbottom.offsets, List.forall_mem_nil _⟩
  · exact offsetsFrom_cellLine hheader hne (by decide)
  · exact fun i => getElem?_cellLine hdata hne
  · exact fun hs ht hsug => offsetsFrom_cellLine hdata hne (not_mem_dataCells (by decide) hs ht hsug)

/-- A cell that is narrower than its header, one that is wider, and one with a bar and a space
at its end. -/
theorem renderBanner_aligned_wideName :
    ∃ top header middle data bottom : String,
      Text.split '\n' (renderBanner "tables" "MARVIN.ORDER_LINES" "s│t " "Ü") =
        ["/*", " tables", top, header, middle, data, bottom, "*/", ""] ∧
      top.length = data.length ∧
      ∃ bars : List Nat, offsetsFrom (· == '│') 0 header.toList = bars ∧
        (cutAt data.toList bars).map readCell? =
          [some "TABLE".toList, some "MARVIN.ORDER_LINES".toList, some "s│t".toList,
            some "Ü".toList] := by
  have htitle : '\n' ∉ "tables".toList := by decide
  have hsource : '\n' ∉ "MARVIN.ORDER_LINES".toList := by decide
  have htarget : '\n' ∉ "s│t ".toList := by decide
  have hsuggestion : '\n' ∉ "Ü".toList := by decide
  obtain ⟨top, header, middle, data, bottom, hsplit, -, hlength, bars, -, -, hheader, -, -, hcells⟩ :=
    renderBanner_aligned htitle hsource htarget hsuggestion
  exact ⟨top, header, middle, data, bottom, hsplit, (hlength data (by simp)).symm, bars, hheader,
    hcells⟩

end CatalogDdl.Ddl
