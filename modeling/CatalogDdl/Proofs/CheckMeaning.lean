import CatalogDdl.Proofs.FlatPredicate

/-!
# Rows that a check accepts

A row makes every clause of a check true or false, and the check accepts the row if the
clauses of one of its groups are all true, where a group is what stands between two ORs.
A group that loses a clause accepts more. But if it loses its first one, the OR in front
goes too, and what is left of the group is joined to the group before it; and if all of
a group is lost, so are the rows that were accepted because of it. So what remains of a
check accepts all rows that were accepted exactly if the first group keeps a clause and
every other group keeps its first one.

- `holds`: whether a check accepts a row.
- `holdsFrom_append_or`: an OR divides a check.
- `holdsFrom_kept`, `holds_kept`: where no OR goes and the first group keeps a clause,
  every row stays accepted.
- `Weakens.exists_untilOr`, `Weakens.keep_of_isOr`: otherwise there is a row that does not,
  the one that makes a single group true.
- `residue?_weakens_iff`: the clauses that remain, and when they accept all rows that were
  accepted.
-/

namespace CatalogDdl.Ddl

/-- Whether the rest of a check holds, where `acc` says whether the clauses since the last
OR do. -/
def holdsFrom (acc : Bool) : List (Clause × Bool) → Bool
  | [] => acc
  | (c, b) :: rest => if c.isOr then acc || holdsFrom b rest else holdsFrom (acc && b) rest

/-- Whether a check accepts a row that gives its clauses these truth values: AND comes
before OR. -/
def holds : List (Clause × Bool) → Bool
  | [] => true
  | (_, b) :: rest => holdsFrom b rest

/-- What a row says about the clauses that are kept. -/
def kept (keep : Clause → Bool) (row : List (Clause × Bool)) : List (Clause × Bool) :=
  row.filter fun x => keep x.1

/-- With no clauses but those that are kept, a check accepts all the rows that it accepted. -/
def Weakens (keep : Clause → Bool) (cs : List Clause) : Prop :=
  ∀ row : List (Clause × Bool), row.map Prod.fst = cs → holds row = true →
    holds (kept keep row) = true

/-- The clauses up to the next OR. -/
def untilOr (cs : List Clause) : List Clause := cs.takeWhile fun c => !c.isOr

/-- The clauses from the next OR on. -/
def fromOr (cs : List Clause) : List Clause := cs.dropWhile fun c => !c.isOr

/-- The row that gives all clauses one truth value. -/
def always (b : Bool) (cs : List Clause) : List (Clause × Bool) := cs.map fun c => (c, b)

variable {keep : Clause → Bool} {c d : Clause} {cs rest : List Clause}

section
variable {b : Bool} {row : List (Clause × Bool)}

theorem kept_cons_pos (h : keep c = true) : kept keep ((c, b) :: row) = (c, b) :: kept keep row :=
  List.filter_cons_of_pos h

theorem kept_cons_neg (h : keep c = false) : kept keep ((c, b) :: row) = kept keep row :=
  List.filter_cons_of_neg (Bool.eq_false_iff.mp h)

theorem kept_append (row row' : List (Clause × Bool)) :
    kept keep (row ++ row') = kept keep row ++ kept keep row' := List.filter_append ..

end

/-- There is no OR in front of the next OR. -/
theorem isOr_of_mem_untilOr (h : d ∈ untilOr cs) : d.isOr = false := by
  simpa using List.mem_takeWhile_imp h

theorem untilOr_cons_or (h : c.isOr = true) (cs : List Clause) : untilOr (c :: cs) = [] :=
  List.takeWhile_cons_of_neg (by simp [h])

theorem untilOr_cons_and (h : c.isOr = false) (cs : List Clause) :
    untilOr (c :: cs) = c :: untilOr cs :=
  List.takeWhile_cons_of_pos (by simp [h])

/-- The two parts are all of the clauses. -/
theorem untilOr_append_fromOr (cs : List Clause) : untilOr cs ++ fromOr cs = cs :=
  List.takeWhile_append_dropWhile

/-- What stands in front of an OR does not end after it. -/
theorem mem_of_mem_untilOr_append {e : Clause} {front back : List Clause} (hor : d.isOr = true)
    (h : e ∈ untilOr (front ++ d :: back)) : e ∈ front := by
  induction front with
  | nil =>
    rw [List.nil_append, untilOr_cons_or hor] at h
    cases h
  | cons f front ih =>
    rw [List.cons_append] at h
    cases hf : f.isOr with
    | true =>
      rw [untilOr_cons_or hf] at h
      cases h
    | false =>
      rw [untilOr_cons_and hf] at h
      rcases List.mem_cons.mp h with rfl | h
      · exact List.mem_cons_self ..
      · exact List.mem_cons_of_mem _ (ih h)

/-! ## Evaluating a check -/

theorem holdsFrom_cons_or {acc b : Bool} {row : List (Clause × Bool)} (h : c.isOr = true) :
    holdsFrom acc ((c, b) :: row) = (acc || holdsFrom b row) := if_pos h

theorem holdsFrom_cons_and {acc b : Bool} {row : List (Clause × Bool)} (h : c.isOr = false) :
    holdsFrom acc ((c, b) :: row) = holdsFrom (acc && b) row := if_neg (Bool.eq_false_iff.mp h)

/-- An OR divides a check. -/
theorem holdsFrom_append_or {b : Bool} (h : d.isOr = true) (acc : Bool)
    (front back : List (Clause × Bool)) :
    holdsFrom acc (front ++ (d, b) :: back) = (holdsFrom acc front || holdsFrom b back) := by
  induction front generalizing acc with
  | nil => exact holdsFrom_cons_or h
  | cons x front ih =>
    obtain ⟨c, b'⟩ := x
    cases hc : c.isOr with
    | true =>
      rw [List.cons_append, holdsFrom_cons_or hc, holdsFrom_cons_or hc, ih, Bool.or_assoc]
    -- the truth of the group so far goes along, which is why `acc` is any
    | false => rw [List.cons_append, holdsFrom_cons_and hc, holdsFrom_cons_and hc, ih]

/-- A group of clauses that are all true is enough, whatever comes after it. -/
theorem holdsFrom_true (cs : List Clause) :
    holdsFrom true (always true (untilOr cs) ++ always false (fromOr cs)) = true := by
  induction cs with
  | nil => rfl
  | cons c cs ih =>
    cases hc : c.isOr with
    | true =>
      have hfrom : fromOr (c :: cs) = c :: cs := List.dropWhile_cons_of_neg (by simp [hc])
      rw [untilOr_cons_or hc, hfrom]
      exact holdsFrom_cons_or hc
    | false =>
      have hfrom : fromOr (c :: cs) = fromOr cs := List.dropWhile_cons_of_pos (by simp [hc])
      rw [untilOr_cons_and hc, hfrom]
      exact (holdsFrom_cons_and hc).trans ih

/-- Once a clause is false, only a clause right after an OR can help. -/
theorem holdsFrom_false {row : List (Clause × Bool)}
    (h : ∀ x ∈ row, x.1.isOr = true → x.2 = false) : holdsFrom false row = false := by
  induction row with
  | nil => rfl
  | cons x row ih =>
    obtain ⟨c, b⟩ := x
    have hrow : holdsFrom false row = false := ih fun y hy => h y (List.mem_cons_of_mem _ hy)
    cases hc : c.isOr with
    | true =>
      have hb : b = false := h (c, b) (List.mem_cons_self ..) hc
      rw [holdsFrom_cons_or hc, hb, hrow]
      rfl
    | false =>
      rw [holdsFrom_cons_and hc]
      exact hrow

/-! ## Rows that stay accepted -/

/-- Leaving out clauses that have an AND in front of them makes no check false. -/
theorem holdsFrom_kept {row : List (Clause × Bool)} {acc acc' : Bool}
    (hor : ∀ x ∈ row, x.1.isOr = true → keep x.1 = true) (hacc : acc = true → acc' = true)
    (h : holdsFrom acc row = true) : holdsFrom acc' (kept keep row) = true := by
  -- with fewer clauses the group so far may be true where it was not
  induction row generalizing acc acc' with
  | nil => exact hacc h
  | cons x row ih =>
    obtain ⟨c, b⟩ := x
    have hor' : ∀ y ∈ row, y.1.isOr = true → keep y.1 = true :=
      fun y hy => hor y (List.mem_cons_of_mem _ hy)
    cases hc : c.isOr with
    | true =>
      have hk : keep c = true := hor (c, b) (List.mem_cons_self ..) hc
      rw [holdsFrom_cons_or hc, Bool.or_eq_true] at h
      rw [kept_cons_pos hk, holdsFrom_cons_or hc, Bool.or_eq_true]
      rcases h with h | h
      · exact .inl (hacc h)
      · exact .inr (ih hor' id h)
    | false =>
      rw [holdsFrom_cons_and hc] at h
      cases hk : keep c with
      | true =>
        rw [kept_cons_pos hk, holdsFrom_cons_and hc]
        refine ih hor' (fun hand => ?_) h
        obtain ⟨ha, hb⟩ := (Bool.and_eq_true _ _).mp hand
        rw [hacc ha, hb]
        rfl
      | false =>
        rw [kept_cons_neg hk]
        exact ih hor' (fun hand => hacc ((Bool.and_eq_true _ _).mp hand).1) h

/-- Among the clauses of the first group, one that is kept is enough to begin with. -/
theorem holds_kept {row : List (Clause × Bool)} {acc : Bool}
    (hfirst : ∃ d ∈ untilOr (row.map Prod.fst), keep d = true)
    (hor : ∀ x ∈ row, x.1.isOr = true → keep x.1 = true) (h : holdsFrom acc row = true) :
    holds (kept keep row) = true := by
  induction row generalizing acc with
  | nil =>
    obtain ⟨d, hd, -⟩ := hfirst
    cases hd
  | cons x row ih =>
    obtain ⟨c, b⟩ := x
    have hor' : ∀ y ∈ row, y.1.isOr = true → keep y.1 = true :=
      fun y hy => hor y (List.mem_cons_of_mem _ hy)
    obtain ⟨d, hd, hkeep⟩ := hfirst
    rw [List.map_cons] at hd
    cases hc : c.isOr with
    -- the first group has ended without a clause that is kept
    | true =>
      rw [untilOr_cons_or hc] at hd
      cases hd
    | false =>
      rw [untilOr_cons_and hc] at hd
      rw [holdsFrom_cons_and hc] at h
      cases hk : keep c with
      | true =>
        rw [kept_cons_pos hk]
        exact holdsFrom_kept hor' (fun hand => ((Bool.and_eq_true _ _).mp hand).2) h
      | false =>
        rw [kept_cons_neg hk]
        rcases List.mem_cons.mp hd with rfl | hd
        · rw [hk] at hkeep
          cases hkeep
        · exact ih ⟨d, hd, hkeep⟩ hor' h

/-! ## Rows that are accepted no longer -/

theorem map_fst_always (b : Bool) (cs : List Clause) : (always b cs).map Prod.fst = cs := by
  rw [always, List.map_map]
  exact List.map_id' cs

theorem kept_always (b : Bool) (cs : List Clause) :
    kept keep (always b cs) = always b (cs.filter keep) := by
  rw [kept, always, always, List.filter_map]
  rfl

/-- A check that keeps a clause in front of a group, but not the first one of the group, does
not accept the row that makes only this group true. -/
theorem holds_kept_eq_false {front group back : List Clause}
    (hfront : ∃ e ∈ front, keep e = true)
    (hgroup : ∀ e ∈ group, keep e = true → e.isOr = false) :
    holds (kept keep (always false front ++ (always true group ++ always false back))) =
      false := by
  -- the check begins with a clause in front of the group, and that one is false
  obtain ⟨e, es, hes⟩ : ∃ e es, front.filter keep = e :: es := by
    refine List.exists_cons_of_ne_nil fun hnil => ?_
    obtain ⟨e, he, hk⟩ := hfront
    exact absurd hk (List.filter_eq_nil_iff.mp hnil e he)
  rw [kept_append, kept_append, kept_always, kept_always, kept_always, hes]
  refine holdsFrom_false fun x hx hor => ?_
  rcases List.mem_append.mp hx with hx | hx
  · obtain ⟨f, -, rfl⟩ := List.mem_map.mp hx
    rfl
  rcases List.mem_append.mp hx with hx | hx
  · obtain ⟨f, hf, rfl⟩ := List.mem_map.mp hx
    obtain ⟨hf, hk⟩ := List.mem_filter.mp hf
    rw [hgroup f hf hk] at hor
    cases hor
  · obtain ⟨f, -, rfl⟩ := List.mem_map.mp hx
    rfl

/-- A row that makes every clause false is not accepted. -/
theorem holds_always_false (h : cs ≠ []) : holds (always false cs) = false := by
  obtain ⟨c, cs, rfl⟩ := List.exists_cons_of_ne_nil h
  refine holdsFrom_false fun x hx _ => ?_
  obtain ⟨d, -, rfl⟩ := List.mem_map.mp hx
  rfl

/-- If some clause is kept, but none of the first group, the row that makes only the first
group true is accepted no longer. -/
theorem Weakens.exists_untilOr (h : Weakens keep (c :: rest))
    (hkeep : (c :: rest).filter keep ≠ []) : ∃ d ∈ c :: untilOr rest, keep d = true := by
  by_contra hno
  have hfirst : (c :: untilOr rest).filter keep = [] :=
    List.filter_eq_nil_iff.mpr fun d hd hk => hno ⟨d, hd, hk⟩
  have hrest : (c :: untilOr rest) ++ fromOr rest = c :: rest :=
    congrArg (c :: ·) (untilOr_append_fromOr rest)
  have hlater : (fromOr rest).filter keep ≠ [] := by
    rw [← hrest, List.filter_append, hfirst] at hkeep
    exact hkeep
  have hrow := h (always true (c :: untilOr rest) ++ always false (fromOr rest))
    (by rw [List.map_append, map_fst_always, map_fst_always, hrest]) (holdsFrom_true rest)
  rw [kept_append, kept_always, kept_always, hfirst] at hrow
  exact absurd hrow (Bool.eq_false_iff.mp (holds_always_false hlater))

/-- If the first group keeps a clause and another one does not keep its first clause, the row
that makes only this other group true is accepted no longer. -/
theorem Weakens.keep_of_isOr (h : Weakens keep (c :: rest))
    (hfirst : ∃ e ∈ c :: untilOr rest, keep e = true) (hd : d ∈ rest) (hor : d.isOr = true) :
    keep d = true := by
  by_contra hk
  obtain ⟨front, back, rfl⟩ := List.append_of_mem hd
  have hfront : ∃ e ∈ c :: front, keep e = true := by
    obtain ⟨e, he, hek⟩ := hfirst
    refine ⟨e, ?_, hek⟩
    rcases List.mem_cons.mp he with rfl | he
    · exact List.mem_cons_self ..
    · exact List.mem_cons_of_mem _ (mem_of_mem_untilOr_append hor he)
  -- the group that makes the check true has lost its OR, and no other one is in it
  have hgroup : ∀ e ∈ d :: untilOr back, keep e = true → e.isOr = false := by
    intro e he hek
    rcases List.mem_cons.mp he with rfl | he
    · exact absurd hek hk
    · exact isOr_of_mem_untilOr he
  have hsource : holds (always false (c :: front) ++
      (always true (d :: untilOr back) ++ always false (fromOr back))) = true :=
    (holdsFrom_append_or hor false (always false front)
      (always true (untilOr back) ++ always false (fromOr back))).trans
      (by rw [holdsFrom_true, Bool.or_true])
  refine absurd (h _ ?_ hsource) ?_
  · rw [List.map_append, List.map_append, map_fst_always, map_fst_always, map_fst_always,
      List.cons_append, List.cons_append, untilOr_append_fromOr]
  · exact Bool.eq_false_iff.mp (holds_kept_eq_false hfront hgroup)

/-- What clauses have to be kept so that no row is lost. -/
theorem weakens_iff (hkeep : (c :: rest).filter keep ≠ []) :
    Weakens keep (c :: rest) ↔
      (∃ d ∈ c :: untilOr rest, keep d = true) ∧ ∀ d ∈ rest, d.isOr = true → keep d = true := by
  constructor
  · intro h
    have hfirst := h.exists_untilOr hkeep
    exact ⟨hfirst, fun d hd hor => h.keep_of_isOr hfirst hd hor⟩
  · rintro ⟨⟨d, hd, hkd⟩, hor⟩ row hclauses hrow
    cases row with
    | nil => cases hclauses
    | cons x row =>
      obtain ⟨c', b⟩ := x
      obtain ⟨rfl, rfl⟩ := List.cons.inj hclauses
      -- the operator of the first clause is not looked at, so it is not one of the others
      have hor' : ∀ y ∈ row, y.1.isOr = true → keep y.1 = true :=
        fun y hy => hor y.1 (List.mem_map_of_mem hy)
      cases hk : keep c' with
      | true =>
        rw [kept_cons_pos hk]
        exact holdsFrom_kept hor' id hrow
      | false =>
        rw [kept_cons_neg hk]
        rcases List.mem_cons.mp hd with rfl | hd
        · exact absurd hkd (Bool.eq_false_iff.mp hk)
        · exact holds_kept ⟨d, hd, hkd⟩ hor' hrow

/-! ## The check that remains -/

/-- **What remains of a flat check** has the clauses without IS NOT NULL, and it accepts every row
that was accepted exactly if the first group keeps a clause and no OR goes. -/
theorem residue?_weakens_iff {p : String} (h : Text.words p.toList = tokens (c :: rest)) :
    (rest ≠ [] → (residue? p = none ↔ ∀ d ∈ c :: rest, d.isNotNull = true)) ∧
      ∀ q, residue? p = some q →
        Text.words q.toList = tokens ((c :: rest).filter (Clause.staysIn (c :: rest))) ∧
          (Weakens (Clause.staysIn (c :: rest)) (c :: rest) ↔
            (∃ d ∈ c :: untilOr rest, Clause.staysIn (c :: rest) d = true) ∧
              ∀ d ∈ rest, d.isOr = true → Clause.staysIn (c :: rest) d = true) := by
  refine ⟨fun hrest => ?_, fun q hq => ⟨words_of_residue? h hq, ?_⟩⟩
  · obtain ⟨d, rest, rfl⟩ := List.exists_cons_of_ne_nil hrest
    exact residue?_eq_none_iff h
  · exact weakens_iff (filter_staysIn_ne_nil h hq)

/-- A condition, as the first clause of a check. -/
def amountCondition : Clause where
  operator := "AND".toList
  words := ["A".toList, ">".toList, "0".toList]
  isOperator_operator := by decide
  words_ne_nil := by decide
  not_isOperator := by decide

/-- A clause with IS NOT NULL that is joined by AND. -/
def andNotNull : Clause where
  operator := "AND".toList
  words := ["B".toList, "IS".toList, "NOT".toList, "NULL".toList]
  isOperator_operator := by decide
  words_ne_nil := by decide
  not_isOperator := by decide

/-- A condition that is joined by OR. -/
def orCondition : Clause where
  operator := "OR".toList
  words := ["C".toList, "<".toList, "5".toList]
  isOperator_operator := by decide
  words_ne_nil := by decide
  not_isOperator := by decide

/-- A clause with IS NOT NULL that is joined by OR. -/
def orNotNull : Clause :=
  { andNotNull with operator := "OR".toList, isOperator_operator := by decide }

/-- The clause in the middle of the first group can go. -/
theorem residue?_andNotNull_weakens :
    Text.words "A > 0 AND B IS NOT NULL OR C < 5".toList =
        tokens [amountCondition, andNotNull, orCondition] ∧
      residue? "A > 0 AND B IS NOT NULL OR C < 5" = some "A > 0 OR C < 5" ∧
      Text.words "A > 0 OR C < 5".toList = tokens [amountCondition, orCondition] ∧
      Weakens (Clause.staysIn [amountCondition, andNotNull, orCondition])
        [amountCondition, andNotNull, orCondition] := by
  have hwords : Text.words "A > 0 AND B IS NOT NULL OR C < 5".toList =
      tokens [amountCondition, andNotNull, orCondition] := by decide
  have hleft : residue? "A > 0 AND B IS NOT NULL OR C < 5" = some "A > 0 OR C < 5" := by
    decide +kernel
  obtain ⟨htokens, hiff⟩ := (residue?_weakens_iff hwords).2 _ hleft
  exact ⟨hwords, hleft, htokens, hiff.mpr ⟨⟨amountCondition, by simp, by decide⟩, by decide⟩⟩

/-- If OR joins a clause with IS NOT NULL, the check that remains does not accept the rows that
were accepted because of it. -/
theorem residue?_orNotNull_rejects :
    Text.words "A > 0 OR B IS NOT NULL".toList = tokens [amountCondition, orNotNull] ∧
      residue? "A > 0 OR B IS NOT NULL" = some "A > 0" ∧
      Text.words "A > 0".toList = tokens [amountCondition] ∧
      holds [(amountCondition, false), (orNotNull, true)] = true ∧
      holds [(amountCondition, false)] = false ∧
      ¬ Weakens (Clause.staysIn [amountCondition, orNotNull]) [amountCondition, orNotNull] := by
  refine ⟨by decide, by decide +kernel, by decide, by decide, by decide, fun h => ?_⟩
  exact absurd (h [(amountCondition, false), (orNotNull, true)] rfl (by decide)) (by decide)

end CatalogDdl.Ddl
