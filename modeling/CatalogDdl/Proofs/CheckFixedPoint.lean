import CatalogDdl.Proofs.FlatPredicate
import Mathlib.Data.List.Chain

/-!
# Taking IS NOT NULL out twice

If the operators of a predicate stand between clauses, so do those of what remains of it,
and nothing is taken out of that a second time. The first is because predicates of this
form are exactly the flat ones, and what remains of a flat predicate is flat. For the
second there are two cases. Two or more clauses that stay are read as the same clauses
again, and all of them stay. A single clause is not looked at word by word any more, but
then its text is looked at as a whole, and IS NOT NULL is not found in it either: not if
it was the only clause before, since it was looked at in the same way then, and not if
others went, since it was put together from its words.

- `WellJoined`, `wellJoined_iff`: the form of predicates that is meant.
- `residue?_trim`: blanks at the ends do not matter.
- `residue?_joinCharsWith`: clauses without IS NOT NULL that are put together stay.
- `residue?_fixed`: the form of what remains, and that it stays when it is looked at again.
-/

namespace CatalogDdl.Ddl

/-- Whether operators stand between other words: not at an end, nor next to each other. -/
structure WellJoined (ws : List Word) : Prop where
  head : ∀ w ∈ ws.head?, isOperator w = false
  last : ∀ w ∈ ws.getLast?, isOperator w = false
  apart : ws.IsChain fun v w => ¬ (isOperator v = true ∧ isOperator w = true)

/-! ## Well-joined words are clauses -/

/-- A clause with a word more in front. -/
def Clause.cons (w : Word) (hw : isOperator w = false) (c : Clause) : Clause where
  operator := c.operator
  words := w :: c.words
  isOperator_operator := c.isOperator_operator
  words_ne_nil := List.cons_ne_nil _ _
  not_isOperator := fun v hv => by
    rcases List.mem_cons.mp hv with rfl | hv
    · exact hw
    · exact c.not_isOperator v hv

/-- A clause of one word. -/
def Clause.single (op : Word) (hop : isOperator op = true) (w : Word)
    (hw : isOperator w = false) : Clause where
  operator := op
  words := [w]
  isOperator_operator := hop
  words_ne_nil := List.cons_ne_nil _ _
  not_isOperator := fun _ hv => List.mem_singleton.mp hv ▸ hw

theorem WellJoined.exists_tokens : ∀ {ws : List Word}, WellJoined ws → ∃ cs, ws = tokens cs
  | [], _ => ⟨[], rfl⟩
  | [w], h => ⟨[.single ['o', 'r'] (by decide) w (h.head w rfl)], rfl⟩
  | w :: v :: ws, h => by
    have hw : isOperator w = false := h.head w rfl
    have hlast : ∀ u ∈ (v :: ws).getLast?, isOperator u = false :=
      fun u hu => h.last u (by rwa [List.getLast?_cons_cons])
    obtain ⟨-, hchain⟩ := List.isChain_cons_cons.mp h.apart
    cases hv : isOperator v with
    | false =>
      -- the word belongs to the first clause of the others
      have hrest : WellJoined (v :: ws) :=
        ⟨fun u hu => by cases hu; exact hv, hlast, hchain⟩
      obtain ⟨cs, hcs⟩ := hrest.exists_tokens
      cases cs with
      | nil => cases hcs
      | cons c cs =>
        exact ⟨c.cons w hw :: cs, congrArg (w :: ·) hcs⟩
    | true =>
      -- the word is a clause, and the words after the operator are the others
      cases ws with
      | nil =>
        rw [hlast v rfl] at hv
        cases hv
      | cons u ws =>
        obtain ⟨hapart, hchain'⟩ := List.isChain_cons_cons.mp hchain
        have hu : isOperator u = false := by
          by_contra hu
          exact hapart ⟨hv, Bool.not_eq_false _ ▸ hu⟩
        have hrest : WellJoined (u :: ws) :=
          ⟨fun t ht => by cases ht; exact hu,
            fun t ht => hlast t (by rwa [List.getLast?_cons_cons]), hchain'⟩
        obtain ⟨cs, hcs⟩ := hrest.exists_tokens
        cases cs with
        | nil => cases hcs
        | cons c cs =>
          refine ⟨.single v hv w hw :: { c with operator := v, isOperator_operator := hv } :: cs, ?_⟩
          exact congrArg (fun ws => w :: v :: ws) hcs

/-! ## Clauses are well joined -/

theorem isChain_of_not_isOperator {ws : List Word} (h : ∀ w ∈ ws, isOperator w = false) :
    ws.IsChain fun v w => ¬ (isOperator v = true ∧ isOperator w = true) := by
  refine (List.pairwise_of_forall_mem_list fun v hv w _ hboth => ?_).isChain
  rw [h v hv] at hboth
  cases hboth.1

theorem isChain_tokens (cs : List Clause) :
    (tokens cs).IsChain fun v w => ¬ (isOperator v = true ∧ isOperator w = true) := by
  induction cs with
  | nil => exact List.isChain_nil
  | cons c cs ih =>
    cases cs with
    | nil =>
      rw [tokens, List.flatMap_nil, List.append_nil]
      exact isChain_of_not_isOperator c.not_isOperator
    | cons d cs =>
      have htokens : tokens (c :: d :: cs) = c.words ++ d.operator :: tokens (d :: cs) := rfl
      rw [htokens, List.isChain_append, List.isChain_cons]
      -- an operator has a word of a clause on both sides
      refine ⟨isChain_of_not_isOperator c.not_isOperator, ⟨fun w hw hboth => ?_, ih⟩,
        fun v hv w _ hboth => ?_⟩
      · rw [not_isOperator_head (d :: cs) w hw] at hboth
        cases hboth.2
      · rw [c.not_isOperator v (List.mem_of_mem_getLast? hv)] at hboth
        cases hboth.1

/-- Predicates with their operators between other words are the flat ones. -/
theorem wellJoined_iff {ws : List Word} : WellJoined ws ↔ ∃ cs, ws = tokens cs := by
  constructor
  · exact WellJoined.exists_tokens
  · rintro ⟨cs, rfl⟩
    exact ⟨not_isOperator_head cs, not_isOperator_last cs, isChain_tokens cs⟩

/-! ## What stays when it is looked at again -/

/-- Blanks at the ends do not matter. -/
theorem residue?_trim (p : String) : residue? (Text.trim p) = residue? p := by
  rw [residue?, residue?, residueChars?, residueChars?, Text.trimChars_trim]

/-- A trimmed text without operators stays if IS NOT NULL is not in its first line. -/
theorem residue?_of_not_isOperator {cs : List Char} (hne : cs ≠ []) (htrimmed : Text.IsTrimmed cs)
    (hwords : ∀ w ∈ Text.words cs, isOperator w = false) (hkeep : isNotNullClause cs = false) :
    residue? (String.ofList cs) = some (String.ofList cs) := by
  rw [residue?, residueChars?, String.toList_ofList, Text.trimChars_of_isTrimmed htrimmed,
    joinsClauses_of_words hwords]
  simp [hne, hkeep]

/-- Clauses without IS NOT NULL that are put together stay. -/
theorem residue?_joinCharsWith {c : Clause} {cs : List Clause}
    (hwords : ∀ w ∈ tokens (c :: cs), Text.IsWord w) (hkeep : ∀ d ∈ c :: cs, d.isNotNull = false) :
    residue? (String.ofList (Text.joinCharsWith [' '] (tokens (c :: cs)))) =
      some (String.ofList (Text.joinCharsWith [' '] (tokens (c :: cs)))) := by
  have hread : Text.words (String.ofList (Text.joinCharsWith [' '] (tokens (c :: cs)))).toList =
      tokens (c :: cs) := by
    rw [String.toList_ofList]
    exact Text.words_joinCharsWith hwords
  have hne : tokens (c :: cs) ≠ [] := mt tokens_eq_nil_iff.mp (List.cons_ne_nil _ _)
  obtain ⟨w, ws, hws⟩ := List.exists_cons_of_ne_nil hne
  cases cs with
  | nil =>
    have hsingle : tokens [c] = c.words := List.append_nil _
    refine residue?_of_not_isOperator ?_ (Text.isTrimmed_joinCharsWith hwords) ?_ ?_
    · rw [hws]
      exact Text.joinCharsWith_ne_nil (hwords w (hws ▸ List.mem_cons_self ..)).1 ws
    · rw [Text.words_joinCharsWith hwords, hsingle]
      exact c.not_isOperator
    · rw [hsingle]
      exact hkeep c (List.mem_cons_self ..)
  | cons d cs =>
    have hall : (c :: d :: cs).filter (!·.isNotNull) = c :: d :: cs :=
      List.filter_eq_self.mpr fun e he => by rw [hkeep e he]; rfl
    rw [residue?_of_joinsClauses (joinsClauses_of_tokens hread), hread, residueWords_tokens, hall,
      hws]

/-! ## The form of what remains -/

/-- A text whose words were not looked at stays as it is the second time, too. -/
theorem residue?_fixed_of_not_joinsClauses {p q : String}
    (hno : joinsClauses (Text.trimChars p.toList) = false) (hq : residue? p = some q) :
    q ≠ "" ∧ q = Text.trim p ∧ residue? q = some q := by
  have htext := residue?_of_not_joinsClauses hno
  rw [hq] at htext
  split at htext
  · cases htext
  · rename_i hstays
    have hqp : q = Text.trim p := Option.some.inj htext
    refine ⟨?_, hqp, by rw [hqp, residue?_trim, hq, hqp]⟩
    rintro rfl
    have hnil : Text.trimChars p.toList = [] := String.ofList_injective hqp.symm
    rw [hnil] at hstays
    exact hstays rfl

/-- What is put together from the clauses that stay is put together in the same way the
second time. -/
theorem residue?_fixed_of_joinsClauses {p q : String} {cs : List Clause}
    (hjoins : joinsClauses (Text.trimChars p.toList) = true)
    (hcs : Text.words p.toList = tokens cs) (hq : residue? p = some q) :
    ∃ c ds, q = String.ofList (Text.joinCharsWith [' '] (tokens (c :: ds))) ∧
      (∀ w ∈ tokens (c :: ds), Text.IsWord w) ∧ residue? q = some q := by
  have hleft : residueWords (Text.words p.toList) = tokens (cs.filter (!·.isNotNull)) := by
    rw [hcs, residueWords_tokens]
  have hkeep : ∀ d ∈ cs.filter (!·.isNotNull), d.isNotNull = false :=
    fun d hd => by simpa using List.of_mem_filter hd
  obtain ⟨hqw, hwords⟩ := residue?_eq_some hjoins hq
  rw [hleft] at hqw hwords
  cases hstay : cs.filter (!·.isNotNull) with
  | nil =>
    rw [(residue?_eq_none hjoins).mpr (by rw [hleft, hstay]; rfl)] at hq
    cases hq
  | cons c ds =>
    rw [hstay] at hqw hwords hkeep
    have hisWord : ∀ w ∈ tokens (c :: ds), Text.IsWord w := by
      rw [← hwords]
      exact fun w hw => Text.isWord_of_mem hw
    refine ⟨c, ds, hqw, hisWord, ?_⟩
    rw [hqw]
    exact residue?_joinCharsWith hisWord hkeep

/-- **What remains of a check whose operators stand between other words** is a trimmed text
of the same form that is not empty, and all of it remains if it is taken for a check again. -/
theorem residue?_fixed {p q : String} (h : WellJoined (Text.words p.toList))
    (hq : residue? p = some q) :
    q ≠ "" ∧ Text.trim q = q ∧ WellJoined (Text.words q.toList) ∧ residue? q = some q := by
  have htrim : ∀ cs : List Char, Text.IsTrimmed cs →
      Text.trim (String.ofList cs) = String.ofList cs := by
    intro cs hcs
    rw [Text.trim, String.toList_ofList, Text.trimChars_of_isTrimmed hcs]
  cases hjoins : joinsClauses (Text.trimChars p.toList) with
  | false =>
    obtain ⟨hne, hqp, hagain⟩ := residue?_fixed_of_not_joinsClauses hjoins hq
    refine ⟨hne, ?_, ?_, hagain⟩
    · rw [hqp]
      exact htrim _ (Text.isTrimmed_trimChars _)
    · rw [hqp, Text.trim, String.toList_ofList, Text.words_trimChars]
      exact h
  | true =>
    obtain ⟨cs, hcs⟩ := h.exists_tokens
    obtain ⟨c, ds, rfl, hwords, hagain⟩ := residue?_fixed_of_joinsClauses hjoins hcs hq
    refine ⟨?_, htrim _ (Text.isTrimmed_joinCharsWith hwords), ?_, hagain⟩
    · obtain ⟨w, ws, hws⟩ :=
        List.exists_cons_of_ne_nil (mt tokens_eq_nil_iff.mp (List.cons_ne_nil c ds))
      rw [hws] at hwords ⊢
      intro hempty
      exact Text.joinCharsWith_ne_nil (hwords w (List.mem_cons_self ..)).1 ws
        (String.ofList_injective hempty)
    · rw [String.toList_ofList, Text.words_joinCharsWith hwords]
      exact wellJoined_iff.mpr ⟨_, rfl⟩

/-- A check of three clauses that loses its first one and its last one: what remains is a
single clause. -/
theorem residue?_middle_fixed :
    WellJoined (Text.words "A IS NOT NULL AND B > 0 OR C IS NOT NULL".toList) ∧
      residue? "A IS NOT NULL AND B > 0 OR C IS NOT NULL" = some "B > 0" ∧
      "B > 0" ≠ "" ∧ Text.trim "B > 0" = "B > 0" ∧ WellJoined (Text.words "B > 0".toList) ∧
      residue? "B > 0" = some "B > 0" := by
  have hwords : WellJoined (Text.words "A IS NOT NULL AND B > 0 OR C IS NOT NULL".toList) :=
    ⟨by decide, by decide, by decide⟩
  have hleft : residue? "A IS NOT NULL AND B > 0 OR C IS NOT NULL" = some "B > 0" := by
    decide +kernel
  exact ⟨hwords, hleft, residue?_fixed hwords hleft⟩

end CatalogDdl.Ddl
