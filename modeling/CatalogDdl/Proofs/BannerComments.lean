import CatalogDdl.Proofs.GridLines
import CatalogDdl.Proofs.LowerMarks
import CatalogDdl.Proofs.Synthesis
import CatalogDdl.Proofs.Text

/-!
# Banners as comments

A banner is a comment, so nothing of it is to be carried out. But it shows the names of
two tables as they are, and a server that reads a comment stops at the first mark that
ends one, whoever wrote it. Whether a banner is a comment as a whole therefore depends on
the names. Everything else in it is a frame: the marks between two cells, the spaces in a
cell and the line ends are no part of the mark that ends a comment, so that mark stands
in a banner exactly if it stands in one of its texts, and in the shown name of a table
exactly if it stands in the name of its schema or its own.

- `readComment`: a comment as a server reads it.
- `IsOpen`: a text without the mark that ends a comment.
- `isOpen_bannerText_iff`: the texts of a banner and the banner.
- `Bundle.BannersAreComments`, `banners_inert_iff`: what a server takes for the
  banners of a bundle, and for which names these are the banners.
-/

namespace CatalogDdl.Ddl

/-! ## Reading a comment -/

/-- The mark that starts a comment. -/
def commentStart : List Char := ['/', '*']

/-- The mark that ends a comment. -/
def commentEnd : List Char := ['*', '/']

/-- The text of a comment that has been started, up to the first mark that ends it, and
what follows the mark. -/
def readCommentText : List Char → Option (List Char × List Char)
  | [] => none
  | c :: cs =>
    match commentEnd.isPrefixOf? (c :: cs) with
    | some rest => some ([], rest)
    | none => (readCommentText cs).map fun r => (c :: r.1, r.2)

/-- The text of the comment that a text starts with, and what follows the comment. -/
def readComment (cs : List Char) : Option (List Char × List Char) :=
  (commentStart.isPrefixOf? cs).bind readCommentText

/-- Whether a text does not end the comment that it stands in. -/
def IsOpen (cs : List Char) : Prop := ¬ commentEnd <:+: cs

instance : DecidablePred IsOpen := fun cs => inferInstanceAs (Decidable (¬ commentEnd <:+: cs))

variable {cs ds : List Char} {c : Char}

/-! ## Open texts -/

theorem isOpen_nil : IsOpen [] := by decide

/-- The mark begins at the first character of a text or later on. -/
theorem isOpen_cons_iff : IsOpen (c :: cs) ↔ ¬ commentEnd <+: c :: cs ∧ IsOpen cs := by
  rw [IsOpen, List.infix_cons_iff, not_or]
  rfl

/-- A character that is no star does not matter. -/
theorem isOpen_cons (h : c ≠ '*') : IsOpen (c :: cs) ↔ IsOpen cs := by
  rw [isOpen_cons_iff, commentEnd, List.cons_prefix_cons]
  exact ⟨And.right, fun hopen => ⟨fun hstarts => h hstarts.1.symm, hopen⟩⟩

/-- What follows a text only completes the mark if it starts with a slash. -/
theorem isPrefix_commentEnd_append (h : ds.head? ≠ some '/') :
    commentEnd <+: c :: (cs ++ ds) ↔ commentEnd <+: c :: cs := by
  rw [commentEnd, List.cons_prefix_cons, List.cons_prefix_cons]
  cases cs with
  | cons d cs => rw [List.cons_append, List.cons_prefix_cons, List.cons_prefix_cons]; simp
  | nil =>
    cases ds with
    | nil => exact Iff.rfl
    | cons d ds =>
      have hd : '/' ≠ d := fun heq => h (congrArg some heq.symm)
      simp [List.cons_prefix_cons, hd]

/-- A character that is not in the mark divides a text. -/
theorem isOpen_append_cons (h : c ∉ commentEnd) (cs ds : List Char) :
    IsOpen (cs ++ c :: ds) ↔ IsOpen cs ∧ IsOpen ds := by
  have hstar : c ≠ '*' := fun heq => h (by rw [heq]; decide)
  have hslash : (c :: ds).head? ≠ some '/' := by
    intro heq
    cases heq
    exact h (by decide)
  induction cs with
  | nil =>
    rw [List.nil_append, isOpen_cons hstar]
    exact ⟨fun hds => ⟨isOpen_nil, hds⟩, And.right⟩
  -- the mark cannot reach over `c`, so it starts in front of it as it does without the rest
  | cons d cs ih =>
    rw [List.cons_append, isOpen_cons_iff, isOpen_cons_iff, isPrefix_commentEnd_append hslash,
      and_assoc]
    exact and_congr_right fun _ => ih

/-- A character at the end does not matter if it is not in the mark. -/
theorem isOpen_concat (h : c ∉ commentEnd) (cs : List Char) : IsOpen (cs ++ [c]) ↔ IsOpen cs := by
  rw [isOpen_append_cons h]
  exact ⟨And.left, fun hcs => ⟨hcs, isOpen_nil⟩⟩

theorem isOpen_replicate (h : c ≠ '*') (n : Nat) : IsOpen (List.replicate n c) := by
  induction n with
  | zero => exact isOpen_nil
  | succ n ih => exact (isOpen_cons h).mpr ih

theorem readComment_append (cs : List Char) :
    readComment (commentStart ++ cs) = readCommentText cs := rfl

theorem readCommentText_commentEnd (rest : List Char) :
    readCommentText (commentEnd ++ rest) = some ([], rest) := rfl

/-- Reading goes on where the mark does not begin. -/
theorem readCommentText_cons (h : ¬ commentEnd <+: c :: cs) :
    readCommentText (c :: cs) = (readCommentText cs).map fun r => (c :: r.1, r.2) := by
  rw [readCommentText]
  cases hstarts : commentEnd.isPrefixOf? (c :: cs) with
  | none => rfl
  | some rest =>
    exact absurd ⟨rest, List.isPrefixOf?_eq_some_iff_append_eq.mp hstarts⟩ h

/-- A comment is read up to the mark that is written after its text iff the text is open. -/
theorem readCommentText_eq_iff (cs rest : List Char) :
    readCommentText (cs ++ (commentEnd ++ rest)) = some (cs, rest) ↔ IsOpen cs := by
  induction cs with
  | nil =>
    exact ⟨fun _ => isOpen_nil, fun _ => readCommentText_commentEnd rest⟩
  | cons c cs ih =>
    have hslash : (commentEnd ++ rest).head? ≠ some '/' := by simp [commentEnd]
    rw [isOpen_cons_iff]
    by_cases hstarts : commentEnd <+: c :: cs
    · -- the comment ends here already
      obtain ⟨more, hmore⟩ := hstarts.trans (List.prefix_append (c :: cs) (commentEnd ++ rest))
      rw [← hmore, readCommentText_commentEnd]
      constructor
      · intro h
        cases h
      · intro h
        exact absurd hstarts h.1
    · have hcons : ¬ commentEnd <+: c :: (cs ++ (commentEnd ++ rest)) :=
        mt (isPrefix_commentEnd_append hslash).mp hstarts
      rw [List.cons_append, readCommentText_cons hcons, Option.map_eq_some_iff, ← ih]
      constructor
      · rintro ⟨⟨text, rest'⟩, hread, heq⟩
        cases heq
        exact ⟨hstarts, hread⟩
      · rintro ⟨-, hread⟩
        exact ⟨(cs, rest), hread, rfl⟩

/-! ## The texts of a banner -/

/-- Texts with a separator between them that is not in the mark. -/
theorem isOpen_joinWith {sep : String} (hsep : sep.toList = [c]) (h : c ∉ commentEnd)
    (texts : List String) :
    IsOpen (Text.joinWith sep texts).toList ↔ ∀ s ∈ texts, IsOpen s.toList := by
  fun_induction Text.joinWith sep texts with
  | case1 =>
    exact iff_of_true isOpen_nil (List.forall_mem_nil _)
  | case2 s => simp
  | case3 s t rest ih =>
    have hjoin : (s ++ sep ++ Text.joinWith sep (t :: rest)).toList =
        s.toList ++ c :: (Text.joinWith sep (t :: rest)).toList := by
      rw [String.toList_append, String.toList_append, hsep, List.append_assoc, List.singleton_append]
    rw [hjoin, isOpen_append_cons h, List.forall_mem_cons, ih]

/-- A text between two marks of the frame. -/
theorem isOpen_between {left right : String} {d : Char} (hleft : left.toList = [c])
    (hright : right.toList = [d]) (hc : c ∉ commentEnd) (hd : d ∉ commentEnd) (s : String) :
    IsOpen (left ++ s ++ right).toList ↔ IsOpen s.toList := by
  have hstar : c ≠ '*' := fun heq => hc (by rw [heq]; decide)
  rw [String.toList_append, String.toList_append, hleft, hright, List.append_assoc,
    List.singleton_append, isOpen_cons hstar, isOpen_concat hd]

theorem isOpen_repeated (h : c ≠ '*') (n : Nat) : IsOpen (repeated c n).toList := by
  rw [repeated, String.toList_ofList]
  exact isOpen_replicate h n

/-- A cell is open if its text is. -/
theorem isOpen_padCell (cell : String) (width : Nat) :
    IsOpen (padCell cell width).toList ↔ IsOpen cell.toList := by
  rw [toList_padCell, List.replicate_succ, isOpen_cons (by decide), isOpen_append_cons (by decide)]
  exact ⟨And.left, fun h => ⟨h, isOpen_replicate (by decide) _⟩⟩

/-- A line of cells is open if their texts are. -/
theorem isOpen_cellLine {widths : List Nat} {cells : List String}
    (h : cells.length = widths.length) :
    IsOpen (cellLine widths cells).toList ↔ ∀ cell ∈ cells, IsOpen cell.toList := by
  have hbar : ("│" : String).toList = ['│'] := by decide
  rw [cellLine, isOpen_between hbar hbar (by decide) (by decide), isOpen_joinWith hbar (by decide)]
  induction cells generalizing widths with
  | nil => exact iff_of_true (List.forall_mem_nil _) (List.forall_mem_nil _)
  | cons cell cells ih =>
    cases widths with
    | nil => cases h
    | cons w widths =>
      have hrest := ih (Nat.succ.inj h)
      rw [List.zipWith_cons_cons, List.forall_mem_cons, List.forall_mem_cons, isOpen_padCell]
      exact and_congr_right fun _ => hrest

/-- A rule is open whatever its widths are. -/
theorem isOpen_ruleLine {left middle right : String} {l m r : Char} (hleft : left.toList = [l])
    (hmiddle : middle.toList = [m]) (hright : right.toList = [r]) (hl : l ∉ commentEnd)
    (hm : m ∉ commentEnd) (hr : r ∉ commentEnd) (widths : List Nat) :
    IsOpen (ruleLine left middle right widths).toList := by
  rw [ruleLine, isOpen_between hleft hright hl hr, isOpen_joinWith hmiddle hm]
  intro s hs
  obtain ⟨w, -, rfl⟩ := List.mem_map.mp hs
  exact isOpen_repeated (by decide) _

variable {title source target suggestion : String}

/-- The lines of a banner's grid are open if the texts in its cells are. -/
theorem isOpen_bannerGrid_lines :
    (∀ line ∈ (bannerGrid source target suggestion).lines, IsOpen line.toList) ↔
      IsOpen source.toList ∧ IsOpen target.toList ∧ IsOpen suggestion.toList := by
  generalize hwidths : (bannerGrid source target suggestion).widths = widths
  have hlength : widths.length = 4 := hwidths ▸ rfl
  have hcells : IsOpen (cellLine widths ["TABLE", source, target, suggestion]).toList ↔
      IsOpen source.toList ∧ IsOpen target.toList ∧ IsOpen suggestion.toList := by
    have htable : IsOpen "TABLE".toList := by decide
    rw [isOpen_cellLine (by rw [hlength]; rfl), List.forall_mem_cons, List.forall_mem_cons,
      List.forall_mem_cons, List.forall_mem_singleton]
    exact and_iff_right htable
  have hheader : IsOpen (cellLine widths bannerHeader).toList :=
    (isOpen_cellLine (by rw [hlength]; rfl)).mpr (by decide)
  rw [bannerGrid_lines hwidths]
  constructor
  · intro h
    exact hcells.mp (h _ (by simp))
  · intro h line hline
    simp only [List.mem_cons, List.not_mem_nil, or_false] at hline
    rcases hline with rfl | rfl | rfl | rfl | rfl
    · exact isOpen_ruleLine (l := '┌') (m := '┬') (r := '┐') (by decide) (by decide) (by decide)
        (by decide) (by decide) (by decide) widths
    · exact hheader
    · exact isOpen_ruleLine (l := '├') (m := '┼') (r := '┤') (by decide) (by decide) (by decide)
        (by decide) (by decide) (by decide) widths
    · exact hcells.mpr h
    · exact isOpen_ruleLine (l := '└') (m := '┴') (r := '┘') (by decide) (by decide) (by decide)
        (by decide) (by decide) (by decide) widths

/-- The text of a banner, between the mark that starts it and the one that ends it. -/
def bannerText (title source target suggestion : String) : String :=
  "\n " ++ title ++ "\n" ++ Text.joinWith "\n" (bannerGrid source target suggestion).lines ++ "\n"

/-- The text of a banner is open if the texts that are shown in it are. -/
theorem isOpen_bannerText_iff :
    IsOpen (bannerText title source target suggestion).toList ↔
      IsOpen title.toList ∧ IsOpen source.toList ∧ IsOpen target.toList ∧
        IsOpen suggestion.toList := by
  have hline : ("\n" : String).toList = ['\n'] := by decide
  have htext : (bannerText title source target suggestion).toList =
      '\n' :: ' ' :: (title.toList ++ '\n' ::
        ((Text.joinWith "\n" (bannerGrid source target suggestion).lines).toList ++ ['\n'])) := by
    simp [bannerText, String.toList_append]
  rw [htext, isOpen_cons (by decide), isOpen_cons (by decide), isOpen_append_cons (by decide),
    isOpen_concat (by decide), isOpen_joinWith hline (by decide), isOpen_bannerGrid_lines]

/-- A banner is its text between the two marks of a comment, and a line end. -/
theorem toList_renderBanner :
    (renderBanner title source target suggestion).toList =
      commentStart ++ ((bannerText title source target suggestion).toList ++
        (commentEnd ++ ['\n'])) := by
  simp [renderBanner, bannerText, String.toList_append, commentStart, commentEnd]

/-! ## The banners of a bundle -/

/-- What is read of a comment, and what follows it, is all there is. -/
theorem eq_append_of_readCommentText {text rest : List Char}
    (h : readCommentText cs = some (text, rest)) : cs = text ++ (commentEnd ++ rest) := by
  induction cs generalizing text with
  | nil => cases h
  | cons c cs ih =>
    rw [readCommentText] at h
    split at h
    · rename_i hstarts
      cases h
      exact (List.isPrefixOf?_eq_some_iff_append_eq.mp hstarts).symm
    · obtain ⟨⟨text', rest'⟩, hread, heq⟩ := Option.map_eq_some_iff.mp h
      cases heq
      exact congrArg (c :: ·) (ih hread)

/-- What follows a comment does not matter for where it ends. -/
theorem readComment_append_right {text rest : List Char}
    (h : readComment cs = some (text, rest)) (ds : List Char) :
    readComment (cs ++ ds) = some (text, rest ++ ds) := by
  obtain ⟨started, hstarted, hread⟩ := Option.bind_eq_some_iff.mp h
  have hcs : cs = commentStart ++ started := (List.isPrefixOf?_eq_some_iff_append_eq.mp hstarted).symm
  have hwhole := eq_append_of_readCommentText hread
  have hopen : IsOpen text := (readCommentText_eq_iff text rest).mp (hwhole ▸ hread)
  rw [hcs, hwhole, List.append_assoc, readComment_append, List.append_assoc, List.append_assoc]
  exact (readCommentText_eq_iff text (rest ++ ds)).mpr hopen

/-- A banner is read as a comment up to its end iff the texts in it are open. -/
theorem readComment_renderBanner_iff (following : String) :
    (∃ text, readComment (renderBanner title source target suggestion ++ following).toList =
      some (text, ("\n" ++ following).toList)) ↔
      IsOpen title.toList ∧ IsOpen source.toList ∧ IsOpen target.toList ∧
        IsOpen suggestion.toList := by
  have hread : readComment (renderBanner title source target suggestion ++ following).toList =
      readCommentText ((bannerText title source target suggestion).toList ++
        (commentEnd ++ ("\n" ++ following).toList)) := by
    rw [String.toList_append, toList_renderBanner, List.append_assoc, readComment_append,
      String.toList_append]
    simp only [List.append_assoc]
    rfl
  rw [hread, ← isOpen_bannerText_iff, ← readCommentText_eq_iff]
  constructor
  · -- whatever is read ends where the banner ends, so it is the text of the banner
    rintro ⟨text, htext⟩
    have hsame := List.append_cancel_right (eq_append_of_readCommentText htext)
    rw [← hsame] at htext
    exact htext
  · intro htext
    exact ⟨_, htext⟩

/-- The shown name of a table is open if its two parts are. -/
theorem isOpen_displayTable (schema table : String) :
    IsOpen (displayTable schema table).toList ↔ IsOpen schema.toList ∧ IsOpen table.toList := by
  have hdot : (displayTable schema table).toList = schema.toList ++ '.' :: table.toList := by
    simp [displayTable, String.toList_append]
  rw [hdot, isOpen_append_cons (by decide)]

/-- No mark comes or goes in lower case. -/
theorem isOpen_lower (s : String) : IsOpen (Text.lower s).toList ↔ IsOpen s.toList := by
  have hmarks : ∀ m ∈ commentEnd, Text.IsMark m := by
    rw [commentEnd, List.forall_mem_cons, List.forall_mem_singleton]
    decide
  exact not_congr (Text.isInfix_lower_iff hmarks s)

/-- Whether a server takes every banner of the two scripts for a comment, and goes on with
what is written after it. -/
structure Bundle.BannersAreComments (b : Bundle) : Prop where
  /-- The banner of the primary script. -/
  primary : ∃ text, readComment b.primarySql.toList =
    some (text, ("\n" ++ (b.createTable ++ ";\n\n" ++ terminated b.primary)).toList)
  /-- The banner of every group of the compatibility script, which starts after the groups
  before it. -/
  groups : ∀ before g after, b.groups = before ++ g :: after →
    ∃ block, b.compatibilitySql = Text.joinWith "" (before.map b.groupSql) ++ block ∧
      ∃ text, readComment block.toList = some (text,
        ("\n" ++ (terminated g.statements ++ Text.joinWith "" (after.map b.groupSql))).toList)

/-- The primary script starts with its banner. -/
theorem Bundle.primarySql_eq (b : Bundle) :
    b.primarySql = renderBanner tableTitle b.source b.target "Manual" ++
      (b.createTable ++ ";\n\n" ++ terminated b.primary) := by
  simp only [primarySql, String.append_assoc]

/-- The banners of a bundle are comments if the shown names of its tables are open. -/
theorem Bundle.bannersAreComments_iff (b : Bundle) :
    b.BannersAreComments ↔ IsOpen b.source.toList ∧ IsOpen b.target.toList := by
  have htitle : IsOpen tableTitle.toList := by decide
  have hmanual : IsOpen "Manual".toList := by decide
  constructor
  · rintro ⟨hread, -⟩
    rw [b.primarySql_eq, readComment_renderBanner_iff] at hread
    exact ⟨hread.2.1, hread.2.2.1⟩
  · rintro ⟨hsource, htarget⟩
    refine ⟨?_, ?_⟩
    · rw [b.primarySql_eq, readComment_renderBanner_iff]
      exact ⟨htitle, hsource, htarget, hmanual⟩
    · intro before g after hgroups
      have hgroupTitle : IsOpen groupTitle.toList := by decide +kernel
      have hmanualCreate : IsOpen "Manual Create".toList := by decide
      refine ⟨renderBanner groupTitle b.source b.target "Manual Create" ++
        (terminated g.statements ++ Text.joinWith "" (after.map b.groupSql)), ?_, ?_⟩
      · rw [compatibilitySql, hgroups, List.map_append, List.map_cons, Text.joinWith_empty,
          Text.joinWith_empty, Text.joinWith_empty, String.join_append, String.join_cons, groupSql]
        simp only [String.append_assoc]
      · exact (readComment_renderBanner_iff _).mpr ⟨hgroupTitle, hsource, htarget, hmanualCreate⟩

/-- **The banners of a table are comments** iff none of the four names that they show ends a
comment. -/
theorem banners_inert_iff {r : Request} {b : Bundle} (h : r.synthesize = .ok b) :
    b.BannersAreComments ↔
      ∀ name ∈ [r.sourceSchema, r.table.name, r.targetSchema, r.targetTable],
        ¬ commentEnd <:+: name.toList := by
  obtain ⟨p, -, rfl⟩ := Request.synthesize_eq_ok h
  have hsource : (r.place p).source = displayTable r.sourceSchema r.table.name := rfl
  have htarget : (r.place p).target =
      displayTable (Text.lower r.targetSchema) (Text.lower r.targetTable) := rfl
  rw [Bundle.bannersAreComments_iff, hsource, htarget, isOpen_displayTable, isOpen_displayTable,
    isOpen_lower, isOpen_lower, List.forall_mem_cons, List.forall_mem_cons, List.forall_mem_cons,
    List.forall_mem_singleton, and_assoc]
  rfl

/-- The names of the orders table and its target end no comment. -/
theorem orders_banners_inert :
    ∃ b, Request.orders.synthesize = .ok b ∧ b.groups.length = 4 ∧ b.BannersAreComments := by
  obtain ⟨b, hb⟩ : ∃ b, Request.orders.synthesize = .ok b := ⟨_, rfl⟩
  have hgroups : Request.orders.synthesize.toOption.map (fun b => b.groups.length) = some 4 := by
    decide +kernel
  rw [hb] at hgroups
  exact ⟨b, hb, Option.some.inj hgroups, (banners_inert_iff hb).mpr (by decide)⟩

/-- The orders table under a name that ends a comment and goes on with a statement. -/
def misnamedOrders : Request :=
  { Request.orders with table := { Request.ordersTable with name := "X*/DROP TABLE T;/*" } }

/-- A server that reads the primary script takes the rest of the name for a statement. -/
theorem misnamedOrders_banner_ends :
    ∃ b, misnamedOrders.synthesize = .ok b ∧ ¬ b.BannersAreComments ∧
      ∃ text rest, readComment b.primarySql.toList = some (text, rest) ∧
        "DROP TABLE T;".toList <+: rest := by
  have hbanner : ((readComment (renderBanner tableTitle "MARVIN.X*/DROP TABLE T;/*" "steven.orders"
      "Manual").toList).map fun r => r.2.take 13) = some "DROP TABLE T;".toList := by
    -- characters instead of strings, which are put together too slowly
    simp only [renderBanner, bannerGrid, bannerHeader, Grid.lines, Grid.widths, widen, ruleLine,
      cellLine, padCell, repeated, Text.joinWith, List.foldl_cons, List.foldl_nil,
      List.zipWith_cons_cons, List.zipWith_nil_left, List.map_cons, List.map_nil, List.cons_append,
      List.nil_append, String.toList_append, String.toList_ofList]
    decide +kernel
  obtain ⟨b, hb⟩ : ∃ b, misnamedOrders.synthesize = .ok b := ⟨_, rfl⟩
  obtain ⟨p, -, rfl⟩ := Request.synthesize_eq_ok hb
  have hsource : (misnamedOrders.place p).source = "MARVIN.X*/DROP TABLE T;/*" := by
    show displayTable "MARVIN" "X*/DROP TABLE T;/*" = _
    decide +kernel
  have htarget : (misnamedOrders.place p).target = "steven.orders" := by
    show displayTable (Text.lower "steven") (Text.lower "ORDERS") = _
    decide +kernel
  obtain ⟨⟨text, rest⟩, htext, hrest⟩ := Option.map_eq_some_iff.mp hbanner
  have hread := readComment_append_right htext ((misnamedOrders.place p).createTable ++ ";\n\n" ++
    terminated (misnamedOrders.place p).primary).toList
  rw [← String.toList_append, ← hsource, ← htarget, ← Bundle.primarySql_eq] at hread
  have hstarts : "DROP TABLE T;".toList <+: rest := hrest ▸ List.take_prefix 13 rest
  refine ⟨_, hb, ?_, text, _, hread, hstarts.trans (List.prefix_append ..)⟩
  rw [Bundle.bannersAreComments_iff, hsource]
  exact fun h => absurd h.1 (by decide)

end CatalogDdl.Ddl
