import CatalogDdl.Proofs.CommentLiterals
import CatalogDdl.Proofs.ExpressionLiterals
import CatalogDdl.Proofs.OverrideRules
import Mathlib.Data.Bool.AllAny

/-!
# The string literals of a target type

The target type of a rule can have string literals in it, as an `ENUM` does. It is written in
lower case as a whole, so every literal of it is still a literal in the statement, with the
same marks, but in lower case. It stays what it is iff none of its characters has another
lower case.

A custom rule that applies to a column is all that counts for it. A plan rule that applies to
it as well is not used, and neither are its literals.

- `IsBody`, `readLiteral_source_iff`: what stands between the marks of a string literal.
- `HoldsStrings`: the string literals of a text. `HoldsStrings.unique`: a reader finds them in
  one way at most.
- `HoldsStrings.exists_lower`: what becomes of them in lower case.
- `RuleTarget`: the target type of the rule that counts.
- `ruleTarget_literals`: its literals in the statement.
-/

namespace CatalogDdl.Ddl

open Text

/-- What may stand between the marks of a string literal. -/
inductive IsBody (mark : Char) : List Char → Prop
  | nil : IsBody mark []
  | escape (c : Char) {cs : List Char} (h : IsBody mark cs) : IsBody mark (backslash :: c :: cs)
  | marks {cs : List Char} (h : IsBody mark cs) : IsBody mark (mark :: mark :: cs)
  | char (c : Char) {cs : List Char} (hc : c ≠ backslash) (hmark : c ≠ mark) (h : IsBody mark cs) :
      IsBody mark (c :: cs)

/-- A string literal: its marks and what is written between them. -/
structure StringLiteral where
  mark : Char
  body : List Char
  deriving DecidableEq, Repr

/-- A string literal as it is written. -/
def StringLiteral.source (l : StringLiteral) : List Char := l.mark :: (l.body ++ [l.mark])

/-- A string literal and the same literal in lower case. -/
structure StringLiteral.LowersTo (l l' : StringLiteral) : Prop where
  mark_eq : l'.mark = l.mark
  body : Text.LowersTo l.body l'.body

/-- The string literals that a reader of a text finds, if they are all terminated. They do not
begin in a name between backticks. A backtick without a partner is like any other character. -/
inductive HoldsStrings : List Char → List StringLiteral → Prop
  | nil : HoldsStrings [] []
  | char (c : Char) {cs : List Char} {ls : List StringLiteral} (hc : ¬ IsStringMark c)
      (hlone : c = backtick → backtick ∉ cs) (h : HoldsStrings cs ls) : HoldsStrings (c :: cs) ls
  | name (n : List Char) {cs : List Char} {ls : List StringLiteral} (hn : backtick ∉ n)
      (h : HoldsStrings cs ls) : HoldsStrings (backtick :: (n ++ backtick :: cs)) ls
  | string (l : StringLiteral) {cs value : List Char} {ls : List StringLiteral}
      (hread : readLiteral (l.source ++ cs) = some (value, cs)) (h : HoldsStrings cs ls) :
      HoldsStrings (l.source ++ cs) (l :: ls)

variable {mark : Char} {cs ds body rest value : List Char} {l l' : StringLiteral}
  {ls ms : List StringLiteral}

/-! ## Between the marks -/

theorem IsBody.append_chars (h : IsBody mark cs) (hds : ∀ d ∈ ds, d ≠ backslash ∧ d ≠ mark) :
    IsBody mark (ds ++ cs) := by
  induction ds with
  | nil => exact h
  | cons d ds ih =>
    obtain ⟨⟨hd, hmark⟩, hrest⟩ := List.forall_mem_cons.mp hds
    exact .char d hd hmark (ih hrest)

theorem IsBody.exists_readString (h : IsBody mark body) (hmark : mark ≠ backslash)
    (hrest : rest.head? ≠ some mark) :
    ∃ value, readString mark (body ++ mark :: rest) = some (value, rest) := by
  induction h with
  | nil => exact ⟨[], readString_mark hmark hrest⟩
  | escape c h ih =>
    obtain ⟨value, hvalue⟩ := ih
    exact ⟨_, by rw [List.cons_append, List.cons_append, readString_backslash, hvalue]; rfl⟩
  | marks h ih =>
    obtain ⟨value, hvalue⟩ := ih
    exact ⟨_, by rw [List.cons_append, List.cons_append, readString_mark_mark hmark, hvalue]; rfl⟩
  | char c hc hne h ih =>
    obtain ⟨value, hvalue⟩ := ih
    exact ⟨_, by rw [List.cons_append, readString_cons hc hne, hvalue]; rfl⟩

/-- A string that goes on after some characters ends where the rest of it does. -/
theorem exists_readString_of_map {f : List Char → List Char}
    (h : (readString mark cs).map (fun r => (f r.1, r.2)) = some (value, rest)) :
    ∃ value, readString mark cs = some (value, rest) := by
  obtain ⟨r, hr, heq⟩ := Option.map_eq_some_iff.mp h
  exact ⟨r.1, by rw [hr, ← (Prod.mk.inj heq).2]⟩

/-- A string that takes a mark along does not end in front of what follows the mark. -/
theorem map_readString_ne {f : List Char → List Char} :
    (readString mark rest).map (fun r => (f r.1, r.2)) ≠ some (value, rest) := by
  intro h
  obtain ⟨_, hvalue⟩ := exists_readString_of_map h
  have hlength := length_lt_of_readString hvalue
  omega

/-- What is read up to a mark stands between marks, and the string does not go on after it. -/
theorem isBody_of_readString {body value : List Char} (hmark : mark ≠ backslash)
    (h : readString mark (body ++ mark :: rest) = some (value, rest)) :
    IsBody mark body ∧ rest.head? ≠ some mark := by
  match body with
  | [] =>
    refine ⟨.nil, fun hhead => ?_⟩
    obtain ⟨back, rfl⟩ := List.head?_eq_some_iff.mp hhead
    rw [List.nil_append, readString_mark_mark hmark] at h
    obtain ⟨_, hvalue⟩ := exists_readString_of_map h
    have hlength := length_lt_of_readString hvalue
    rw [List.length_cons] at hlength
    omega
  | c :: body =>
    rw [List.cons_append] at h
    by_cases hc : c = backslash
    · subst hc
      cases body with
      | nil =>
        rw [List.nil_append, readString_backslash] at h
        exact absurd h map_readString_ne
      | cons d body =>
        rw [List.cons_append, readString_backslash] at h
        obtain ⟨_, hvalue⟩ := exists_readString_of_map h
        obtain ⟨hbody, hrest⟩ := isBody_of_readString hmark hvalue
        exact ⟨.escape d hbody, hrest⟩
    · by_cases hcm : c = mark
      · rw [hcm] at h ⊢
        cases body with
        | nil =>
          rw [List.nil_append, readString_mark_mark hmark] at h
          exact absurd h map_readString_ne
        | cons d body =>
          rw [List.cons_append] at h
          by_cases hd : d = mark
          · rw [hd] at h ⊢
            rw [readString_mark_mark hmark] at h
            obtain ⟨_, hvalue⟩ := exists_readString_of_map h
            obtain ⟨hbody, hrest⟩ := isBody_of_readString hmark hvalue
            exact ⟨.marks hbody, hrest⟩
          · -- the string ends here, in front of more than what follows it
            have hnext : (d :: (body ++ mark :: rest)).head? ≠ some mark := fun hhead =>
              hd (Option.some.inj hhead)
            rw [readString_mark hmark hnext] at h
            have hlength := congrArg List.length (Prod.mk.inj (Option.some.inj h)).2
            simp only [List.length_cons, List.length_append] at hlength
            omega
      · rw [readString_cons hc hcm] at h
        obtain ⟨_, hvalue⟩ := exists_readString_of_map h
        obtain ⟨hbody, hrest⟩ := isBody_of_readString hmark hvalue
        exact ⟨.char c hc hcm hbody, hrest⟩
termination_by body.length

theorem StringLiteral.source_append (l : StringLiteral) (cs : List Char) :
    l.source ++ cs = l.mark :: (l.body ++ l.mark :: cs) := by
  rw [source, List.cons_append, List.append_assoc, List.singleton_append]

/-- The texts that are read as a string literal, with a given text after it. -/
theorem readLiteral_source_iff :
    (∃ value, readLiteral (l.source ++ rest) = some (value, rest)) ↔
      IsStringMark l.mark ∧ IsBody l.mark l.body ∧ rest.head? ≠ some l.mark := by
  rw [l.source_append, readLiteral]
  constructor
  · rintro ⟨value, h⟩
    split at h
    · rename_i hmark
      exact ⟨hmark, isBody_of_readString (ne_backslash_of_isStringMark hmark) h⟩
    · cases h
  · rintro ⟨hmark, hbody, hrest⟩
    rw [if_pos hmark]
    exact hbody.exists_readString (ne_backslash_of_isStringMark hmark) hrest

/-! ## Lower case -/

theorem isMark_of_isStringMark (h : IsStringMark mark) : IsMark mark := by
  rcases h with rfl | rfl
  · exact isMark_apostrophe
  · exact isMark_doubleQuote

theorem isMark_backslash : IsMark backslash := by decide

/-- What stands between marks does so in lower case. -/
theorem IsBody.lowersTo (h : IsBody mark body) (hm : IsMark mark) (hlower : Text.LowersTo body ds) :
    IsBody mark ds := by
  have hpiece : ∀ {c : Char} (before after : List Char), c ≠ backslash → c ≠ mark →
      ∀ d ∈ lowerPiece before c after, d ≠ backslash ∧ d ≠ mark := by
    intro c before after hc hcm d hd
    constructor
    · rintro rfl
      exact not_mem_lowerPiece isMark_backslash hc before after hd
    · rintro rfl
      exact not_mem_lowerPiece hm hcm before after hd
  induction h generalizing ds with
  | nil =>
    cases hlower
    exact .nil
  | escape c _ ih =>
    obtain ⟨_, rfl, hafter⟩ := hlower.split_mark isMark_backslash
    cases hafter with
    | cons before _ after hcs =>
      -- the backslash takes the first character along that this one becomes
      have hrest := ih hcs
      by_cases hmarks : c = backslash ∨ c = mark
      · have hsame : lowerPiece before c after = [c] := by
          rcases hmarks with rfl | rfl
          · exact lowerPiece_of_isMark isMark_backslash before after
          · exact lowerPiece_of_isMark hm before after
        rw [hsame]
        exact .escape c hrest
      · obtain ⟨hc, hcm⟩ := not_or.mp hmarks
        obtain ⟨d, piece, hcons⟩ := List.exists_cons_of_ne_nil (lowerPiece_ne_nil before c after)
        have hplain := hpiece before after hc hcm
        rw [hcons] at hplain ⊢
        exact .escape d (hrest.append_chars fun e he => hplain e (List.mem_cons_of_mem _ he))
  | marks _ ih =>
    obtain ⟨_, rfl, hsecond⟩ := hlower.split_mark hm
    obtain ⟨_, rfl, hcs⟩ := hsecond.split_mark hm
    exact .marks (ih hcs)
  | char c hc hcm _ ih =>
    cases hlower with
    | cons before _ after hcs => exact (ih hcs).append_chars (hpiece before after hc hcm)

theorem head?_of_lowersTo (hm : IsMark mark) (h : Text.LowersTo cs ds) (hcs : cs.head? ≠ some mark) :
    ds.head? ≠ some mark := by
  cases h with
  | nil => exact hcs
  | cons before c after h =>
    intro hhead
    rw [List.head?_append_of_ne_nil _ (lowerPiece_ne_nil before c after)] at hhead
    have hc : c ≠ mark := fun heq => hcs (congrArg some heq)
    exact not_mem_lowerPiece hm hc before after (List.mem_of_mem_head? hhead)

/-! ## The string literals of a text -/

/-- What is read as a string literal starts with a mark. -/
theorem StringLiteral.source_append_ne {c : Char}
    (hread : readLiteral (l.source ++ cs) = some (value, cs)) (hc : ¬ IsStringMark c) :
    l.source ++ cs ≠ c :: ds := by
  intro h
  rw [l.source_append] at h
  exact hc ((List.cons.inj h).1 ▸ (readLiteral_source_iff.mp ⟨value, hread⟩).1)

theorem HoldsStrings.append_chars (h : HoldsStrings cs ls)
    (hds : ∀ d ∈ ds, ¬ IsStringMark d ∧ d ≠ backtick) : HoldsStrings (ds ++ cs) ls := by
  induction ds with
  | nil => exact h
  | cons d ds ih =>
    obtain ⟨⟨hd, hne⟩, hrest⟩ := List.forall_mem_cons.mp hds
    exact .char d hd (fun heq => absurd heq hne) (ih hrest)

/-- **A reader finds the string literals of a text in one way at most.** -/
theorem HoldsStrings.unique (h : HoldsStrings cs ls) (h' : HoldsStrings cs ms) : ls = ms := by
  have hbacktick : ¬ IsStringMark backtick := by decide
  induction h generalizing ms with
  | nil => cases h'; rfl
  | char c hc hlone h ih =>
    generalize htext : c :: _ = text at h'
    cases h' with
    | nil => cases htext
    | char c' hc' hlone' h' =>
      obtain ⟨rfl, rfl⟩ := List.cons.inj htext
      exact ih h'
    | name n hn h' =>
      obtain ⟨rfl, rfl⟩ := List.cons.inj htext
      exact absurd (List.mem_append_right _ (List.mem_cons_self ..)) (hlone rfl)
    | string l hread h' => exact absurd htext.symm (StringLiteral.source_append_ne hread hc)
  | name n hn h ih =>
    generalize htext : backtick :: _ = text at h'
    cases h' with
    | nil => cases htext
    | char c' hc' hlone' h' =>
      obtain ⟨rfl, rfl⟩ := List.cons.inj htext
      exact absurd (List.mem_append_right _ (List.mem_cons_self ..)) (hlone' rfl)
    | name n' hn' h' =>
      obtain ⟨rfl, rfl⟩ := eq_of_append_mark_eq hn hn' (List.cons.inj htext).2
      exact ih h'
    | string l hread h' => exact absurd htext.symm (StringLiteral.source_append_ne hread hbacktick)
  | string l hread h ih =>
    generalize htext : l.source ++ _ = text at h'
    cases h' with
    | nil => cases htext
    | char c' hc' hlone' h' => exact absurd htext (StringLiteral.source_append_ne hread hc')
    | name n hn h' => exact absurd htext (StringLiteral.source_append_ne hread hbacktick)
    | string l' hread' h' =>
      -- the string that is read is followed by the same text
      rw [← htext, hread] at hread'
      obtain ⟨rfl, rfl⟩ := Prod.mk.inj (Option.some.inj hread')
      obtain rfl : l = l' := by
        have hsource := List.append_cancel_right htext
        obtain ⟨hmarks, hbodies⟩ := List.cons.inj hsource
        cases l
        cases l'
        cases hmarks
        cases List.append_cancel_right hbodies
        rfl
      rw [ih h']

/-- Characters without meaning can be left out in front of a text. -/
theorem HoldsStrings.of_append_left (h : HoldsStrings (ds ++ cs) ls)
    (hds : ∀ d ∈ ds, ¬ IsStringMark d ∧ d ≠ backtick) : HoldsStrings cs ls := by
  induction ds with
  | nil => exact h
  | cons d ds ih =>
    obtain ⟨⟨hd, hne⟩, hrest⟩ := List.forall_mem_cons.mp hds
    refine ih ?_ hrest
    rw [List.cons_append] at h
    generalize htext : d :: _ = text at h
    cases h with
    | nil => cases htext
    | char c hc hlone h =>
      obtain ⟨rfl, rfl⟩ := List.cons.inj htext
      exact h
    | name n hn h => exact absurd (List.cons.inj htext).1 hne
    | string l hread h => exact absurd htext.symm (StringLiteral.source_append_ne hread hd)

/-- A text up to a mark stays in front of a text without the mark. -/
theorem exists_of_mark_append {m : Char} {front back : List Char} (hm : m ∉ ds)
    (h : front ++ m :: back = cs ++ ds) : ∃ cs', cs = front ++ m :: cs' ∧ back = cs' ++ ds := by
  rcases List.append_eq_append_iff.mp h with ⟨as, rfl, has⟩ | ⟨bs, rfl, rfl⟩
  · cases as with
    | nil =>
      obtain rfl : m :: back = ds := has
      exact absurd (List.mem_cons_self ..) hm
    | cons a as =>
      obtain ⟨rfl, rfl⟩ := List.cons.inj has
      exact ⟨as, rfl, rfl⟩
  · exact absurd (List.mem_append_right _ (List.mem_cons_self ..)) hm

/-- Characters without meaning can be left out at the end of a text. -/
theorem HoldsStrings.of_append_right (h : HoldsStrings (cs ++ ds) ls)
    (hds : ∀ d ∈ ds, ¬ IsStringMark d ∧ d ≠ backtick) : HoldsStrings cs ls := by
  have hbacktick : ∀ {ds : List Char}, (∀ d ∈ ds, ¬ IsStringMark d ∧ d ≠ backtick) →
      backtick ∉ ds := fun hds hmem => (hds _ hmem).2 rfl
  generalize htext : cs ++ ds = text at h
  induction h generalizing cs ds with
  | nil =>
    obtain ⟨rfl, rfl⟩ := List.append_eq_nil_iff.mp htext
    exact .nil
  | @char c text ls hc hlone h ih =>
    cases cs with
    | nil =>
      obtain rfl : ds = c :: text := htext
      exact ih (List.forall_mem_cons.mp hds).2 (List.nil_append text)
    | cons e cs =>
      obtain ⟨rfl, rfl⟩ := List.cons.inj htext
      exact .char e hc (fun heq hmem => hlone heq (List.mem_append_left _ hmem)) (ih hds rfl)
  | @name n text ls hn h ih =>
    have hname : backtick :: n ++ backtick :: text = cs ++ ds := htext.symm
    obtain ⟨cs, rfl, rfl⟩ := exists_of_mark_append (hbacktick hds) hname
    exact .name n hn (ih hds rfl)
  | @string l text _ ls hread h ih =>
    obtain ⟨hmark, hbody, hnext⟩ := readLiteral_source_iff.mp ⟨_, hread⟩
    have hmem : l.mark ∉ ds := fun hmem => (hds _ hmem).1 hmark
    have hstring : l.mark :: l.body ++ l.mark :: text = cs ++ ds := by
      rw [htext, l.source_append]
      rfl
    obtain ⟨cs, rfl, rfl⟩ := exists_of_mark_append hmem hstring
    have hnext' : cs.head? ≠ some l.mark := by
      cases cs with
      | nil => exact nofun
      | cons c cs => exact hnext
    obtain ⟨value, hvalue⟩ := readLiteral_source_iff.mpr ⟨hmark, hbody, hnext'⟩
    have hstring := HoldsStrings.string l hvalue (ih hds rfl)
    rw [l.source_append] at hstring
    exact hstring

/-- Trimming takes no string literals away. -/
theorem HoldsStrings.trim {s : String} (h : HoldsStrings s.toList ls) :
    HoldsStrings (Text.trim s).toList ls := by
  have hblank : ∀ {ds : List Char}, (∀ d ∈ ds, isBlank d = true) →
      ∀ d ∈ ds, ¬ IsStringMark d ∧ d ≠ backtick := by
    intro ds hds d hd
    have hd := hds d hd
    refine ⟨?_, ?_⟩
    · rintro (rfl | rfl) <;> exact absurd hd (by decide)
    · rintro rfl
      exact absurd hd (by decide)
  obtain ⟨front, back, hs, hfront, hback⟩ := exists_eq_append_trimChars s.toList
  rw [hs, List.append_assoc] at h
  rw [Text.trim, String.toList_ofList]
  exact (h.of_append_left (hblank hfront)).of_append_right (hblank hback)

/-- **What becomes of the string literals of a text in lower case**: each of them is a string
literal still, in lower case. -/
theorem HoldsStrings.exists_lower (h : HoldsStrings cs ls) (hlower : Text.LowersTo cs ds) :
    ∃ ms, HoldsStrings ds ms ∧ List.Forall₂ StringLiteral.LowersTo ls ms := by
  induction h generalizing ds with
  | nil =>
    cases hlower
    exact ⟨[], .nil, .nil⟩
  | char c hc hlone h ih =>
    by_cases hbacktick : c = backtick
    · subst hbacktick
      obtain ⟨ds, rfl, hrest⟩ := hlower.split_mark isMark_backtick
      obtain ⟨ms, hms, hall⟩ := ih hrest
      exact ⟨ms, .char _ hc (fun _ => mt (hrest.mem_iff isMark_backtick).mp (hlone rfl)) hms, hall⟩
    · cases hlower with
      | cons before _ after hrest =>
        obtain ⟨ms, hms, hall⟩ := ih hrest
        refine ⟨ms, hms.append_chars fun d hd => ⟨fun hmark => ?_, ?_⟩, hall⟩
        · have hcd : c ≠ d := fun heq => hc (heq ▸ hmark)
          exact not_mem_lowerPiece (isMark_of_isStringMark hmark) hcd before after hd
        · rintro rfl
          exact not_mem_lowerPiece isMark_backtick hbacktick before after hd
  | name n hn h ih =>
    obtain ⟨_, rfl, hinside⟩ := hlower.split_mark isMark_backtick
    obtain ⟨n', _, rfl, hn', hend⟩ := hinside.split_append
    obtain ⟨ds, rfl, hrest⟩ := hend.split_mark isMark_backtick
    obtain ⟨ms, hms, hall⟩ := ih hrest
    exact ⟨ms, .name n' (mt (hn'.mem_iff isMark_backtick).mp hn) hms, hall⟩
  | string l hread h ih =>
    obtain ⟨hmark, hbody, hnext⟩ := readLiteral_source_iff.mp ⟨_, hread⟩
    have hm := isMark_of_isStringMark hmark
    rw [l.source_append] at hlower
    obtain ⟨_, rfl, hinside⟩ := hlower.split_mark hm
    obtain ⟨body, _, rfl, hlowered, hend⟩ := hinside.split_append
    obtain ⟨ds, rfl, hrest⟩ := hend.split_mark hm
    obtain ⟨ms, hms, hall⟩ := ih hrest
    have hread' : IsStringMark l.mark ∧ IsBody l.mark body ∧ ds.head? ≠ some l.mark :=
      ⟨hmark, hbody.lowersTo hm hlowered, head?_of_lowersTo hm hrest hnext⟩
    obtain ⟨value, hvalue⟩ := readLiteral_source_iff (l := ⟨l.mark, body⟩).mpr hread'
    have hstring := HoldsStrings.string ⟨l.mark, body⟩ hvalue hms
    rw [StringLiteral.source_append] at hstring
    exact ⟨⟨l.mark, body⟩ :: ms, hstring, .cons ⟨rfl, hlowered⟩ hall⟩

theorem HoldsStrings.source_isInfix (h : HoldsStrings cs ls) (hl : l ∈ ls) : l.source <:+: cs := by
  induction h with
  | nil => cases hl
  | char c _ _ _ ih => exact (ih hl).trans (List.suffix_cons c _).isInfix
  | name n _ _ ih =>
    refine (ih hl).trans ?_
    exact ⟨backtick :: (n ++ [backtick]), [], by simp⟩
  | string l' _ _ ih =>
    rcases List.mem_cons.mp hl with rfl | hl
    · exact (List.prefix_append ..).isInfix
    · exact (ih hl).trans (List.suffix_append ..).isInfix

/-- A literal is its own lower case iff every character between its marks is. -/
theorem StringLiteral.LowersTo.eq_self_iff (h : l.LowersTo l') :
    l' = l ↔ ∀ c ∈ l.body, lowerChar c = [c] := by
  rw [← h.body.eq_self_iff]
  constructor
  · rintro rfl
    rfl
  · intro hbody
    cases l
    cases l'
    cases h.mark_eq
    cases hbody
    rfl

/-! ## The rule that counts -/

/-- The target type of the rule that counts, of the rules of both tiers that apply to a column:
the custom rule, or else the plan rule. -/
inductive RuleTarget : List CustomRule → List PlanRule → String → Prop
  | custom (rule : CustomRule) {plan : List PlanRule} (h : plan.length ≤ 1) :
      RuleTarget [rule] plan rule.targetType
  | plan (rule : PlanRule) : RuleTarget [] [rule] rule.targetType

section

variable {r : Request} {c : Column} {a : TypeAttributes} {target s : String} {b : Bundle}

theorem RuleTarget.exists_chosen {custom : List CustomRule} {plan : List PlanRule}
    (h : RuleTarget custom plan target) (m : TypeMapping) :
    ∃ t, Chosen m custom plan t ∧ t.target = trim target := by
  cases h with
  | custom rule h => exact ⟨_, .custom rule h, rfl⟩
  | plan rule => exact ⟨_, .plan rule, rfl⟩

theorem clause_trim (c : Column) (target : String) : c.clause (trim target) = c.clause target := by
  rw [Column.clause, trim_trim]
  rfl

/-- The clause of a column has the target type of the rule that counts. -/
theorem columnClause_of_ruleTarget (hnumbers : c.Numbers a)
    (htarget : RuleTarget (r.rules.customFor r.table.name c.name (builtinType c.dataType a).origin)
      (r.rules.planFor (builtinType c.dataType a).origin) target) :
    r.columnClause c = .ok (c.clause target) := by
  obtain ⟨t, hchosen, ht⟩ := htarget.exists_chosen (builtinType c.dataType a)
  refine bind_eq_ok_iff.mpr ⟨t, (Column.resolve_eq_ok_iff hnumbers).mpr hchosen, ?_⟩
  rw [ht, clause_trim]
  rfl

theorem target_infix_clause (c : Column) (target : String) :
    (lower (trim target)).toList <:+: (c.clause target).toList := by
  refine ⟨(quoteName c.name ++ " ").toList,
    (c.nullClause ++ c.defaultClause ++ c.commentClause).toList, ?_⟩
  simp only [Column.clause, String.toList_append, List.append_assoc]

theorem toList_infix_append (s t u : String) : t.toList <:+: (s ++ t ++ u).toList := by
  rw [String.toList_append, String.toList_append]
  exact List.infix_append ..

theorem clauses_infix_createTable (r : Request) (clauses : List String) (comment : String) :
    (joinWith ",\n  " clauses).toList <:+: (r.createTable clauses comment).toList := by
  unfold Request.createTable
  generalize joinWith ",\n  " clauses = body
  rw [String.append_assoc, String.append_assoc]
  exact toList_infix_append ..

/-- The clauses of all columns stand in the statement of the table. -/
theorem columnClause_infix_createTable (hb : r.synthesize = .ok b) (hc : c ∈ r.table.columns)
    (hs : r.columnClause c = .ok s) : s.toList <:+: b.createTable.toList := by
  obtain ⟨p, hp, rfl⟩ := Request.synthesize_eq_ok hb
  obtain ⟨-, -, hcolumns, -⟩ := Request.parts_eq_ok hp
  have hmem : s ∈ p.columns ++ p.primaryKey.toList :=
    List.mem_append_left _ (mem_of_mapM_eq_ok hcolumns hc hs)
  exact (toList_infix_joinWith hmem).trans (clauses_infix_createTable r _ _)

/-- **The string literals of a target type.** The target type of the rule that counts for a column
is written in the clause of the column in lower case. A reader finds as many string literals in it
as in the rule, with the same marks, each of them in lower case: it is the literal of the rule
exactly if no character of it has another lower case. -/
theorem ruleTarget_literals (hnumbers : c.Numbers a)
    (htarget : RuleTarget (r.rules.customFor r.table.name c.name (builtinType c.dataType a).origin)
      (r.rules.planFor (builtinType c.dataType a).origin) target)
    (hstrings : HoldsStrings target.toList ls) :
    ∃ clause ms, r.columnClause c = .ok clause ∧
      clause = quoteName c.name ++ " " ++ lower (trim target) ++ c.nullClause ++ c.defaultClause
        ++ c.commentClause ∧
      (∀ ms', HoldsStrings (lower (trim target)).toList ms' ↔ ms' = ms) ∧
      List.Forall₂ (fun l m => l.LowersTo m ∧ (m = l ↔ ∀ d ∈ l.body, lowerChar d = [d])) ls ms ∧
      (∀ m ∈ ms, m.source <:+: clause.toList) ∧
      ∀ b, r.synthesize = .ok b → c ∈ r.table.columns → clause.toList <:+: b.createTable.toList := by
  have hlower : Text.LowersTo (trim target).toList (lower (trim target)).toList := by
    rw [lower, String.toList_ofList]
    exact lowersTo_lowerAfter [] _
  have hclause := columnClause_of_ruleTarget hnumbers htarget
  obtain ⟨ms, hms, hall⟩ := hstrings.trim.exists_lower hlower
  refine ⟨c.clause target, ms, hclause, rfl, fun ms' => ⟨fun h => h.unique hms, ?_⟩,
    hall.imp fun l m h => ⟨h, h.eq_self_iff⟩, fun m hm => ?_, fun b hb hc => ?_⟩
  · rintro rfl
    exact hms
  · exact (hms.source_isInfix hm).trans (target_infix_clause c target)
  · exact columnClause_infix_createTable hb hc hclause

end

/-- A request for a table with one column and a plan rule for the type of it. -/
def requestWithTarget (target : String) : Request where
  sourceSchema := "MARVIN"
  targetSchema := "steven"
  targetTable := "t"
  tableOption := ""
  table := { name := "T", columns := [{ name := "FLAG", dataType := "VARCHAR2", length := "1" }] }
  rules := { plan := [⟨"VARCHAR2(1)", target⟩] }
  version := .ofText "8.0.30"

/-- The literals of an `ENUM` in small letters. -/
theorem ruleTarget_smallEnum_kept :
    let r := requestWithTarget " ENUM('n','y') "
    let c : Column := { name := "FLAG", dataType := "VARCHAR2", length := "1" }
    let ls : List StringLiteral := [⟨apostrophe, ['n']⟩, ⟨apostrophe, ['y']⟩]
    c.Numbers ⟨1, 0, 0⟩ ∧ HoldsStrings " ENUM('n','y') ".toList ls ∧
      r.columnClause c = .ok "`flag` enum('n','y')" ∧ HoldsStrings "enum('n','y')".toList ls ∧
      ∃ b, r.synthesize = .ok b ∧ "`flag` enum('n','y')".toList <:+: b.createTable.toList := by
  intro r c ls
  have hnumbers : c.Numbers ⟨1, 0, 0⟩ :=
    ⟨readInt64?_eq_some_iff.mp (by decide +kernel), readInt64?_eq_some_iff.mp (by decide +kernel),
      readInt64?_eq_some_iff.mp (by decide +kernel)⟩
  have hplain : (∀ d ∈ " ENUM(".toList, ¬ IsStringMark d ∧ d ≠ backtick) ∧
      (∀ d ∈ ",".toList, ¬ IsStringMark d ∧ d ≠ backtick) ∧
      ∀ d ∈ ") ".toList, ¬ IsStringMark d ∧ d ≠ backtick :=
    ⟨List.all_iff_forall_prop.mp (by decide), List.all_iff_forall_prop.mp (by decide),
      List.all_iff_forall_prop.mp (by decide)⟩
  have hlast : HoldsStrings "'y') ".toList [⟨apostrophe, ['y']⟩] := by
    have hread : readLiteral "'y') ".toList = some (['y'], ") ".toList) := by decide +kernel
    exact .string ⟨apostrophe, ['y']⟩ hread (HoldsStrings.nil.append_chars hplain.2.2)
  have hfirst : HoldsStrings "'n','y') ".toList ls := by
    have hread : readLiteral "'n','y') ".toList = some (['n'], ",'y') ".toList) := by decide +kernel
    exact .string ⟨apostrophe, ['n']⟩ hread (hlast.append_chars hplain.2.1)
  have hstrings : HoldsStrings " ENUM('n','y') ".toList ls := hfirst.append_chars hplain.1
  have hcustom : r.rules.customFor r.table.name c.name (builtinType c.dataType ⟨1, 0, 0⟩).origin = [] := by
    decide +kernel
  have hplan : r.rules.planFor (builtinType c.dataType ⟨1, 0, 0⟩).origin =
      [⟨"VARCHAR2(1)", " ENUM('n','y') "⟩] := by decide +kernel
  have htarget : RuleTarget (r.rules.customFor r.table.name c.name
      (builtinType c.dataType ⟨1, 0, 0⟩).origin)
      (r.rules.planFor (builtinType c.dataType ⟨1, 0, 0⟩).origin) " ENUM('n','y') " := by
    rw [hcustom, hplan]
    exact .plan ⟨"VARCHAR2(1)", " ENUM('n','y') "⟩
  have hlower : lower (trim " ENUM('n','y') ") = "enum('n','y')" := by decide +kernel
  obtain ⟨clause, ms, hclause, htext, hread, hall, -, hinfix⟩ :=
    ruleTarget_literals hnumbers htarget hstrings
  rw [hlower] at htext hread
  obtain rfl : clause = "`flag` enum('n','y')" := htext.trans (by decide +kernel)
  -- small letters are their own lower case
  obtain rfl : ms = ls := by
    obtain ⟨n, _, hn, hrest, rfl⟩ := List.forall₂_cons_left_iff.mp hall
    obtain ⟨y, _, hy, hnil, rfl⟩ := List.forall₂_cons_left_iff.mp hrest
    cases hnil
    rw [hn.2.mpr (List.forall_mem_singleton.mpr (by decide)),
      hy.2.mpr (List.forall_mem_singleton.mpr (by decide))]
  obtain ⟨b, hb⟩ : ∃ b, r.synthesize = .ok b := by
    have hsome : r.synthesize.toOption.isSome = true := by decide +kernel
    cases hb : r.synthesize with
    | ok b => exact ⟨b, rfl⟩
    | error f =>
      rw [hb] at hsome
      cases hsome
  exact ⟨hnumbers, hstrings, hclause, (hread _).mpr rfl, b, hb, hinfix b hb (List.mem_singleton_self c)⟩

/-- The literals of an `ENUM` in capitals become other literals. -/
theorem ruleTarget_capitalEnum_lost :
    let r := requestWithTarget "ENUM('A','B')"
    let c : Column := { name := "FLAG", dataType := "VARCHAR2", length := "1" }
    (∀ rule ∈ r.rules.plan, rule.matches "VARCHAR2(1)" = true) ∧
      (builtinType "VARCHAR2" ⟨1, 0, 0⟩).origin = "VARCHAR2(1)" ∧ r.table.columns = [c] ∧
      readLiteral "'A','B')".toList = some (['A'], ",'B')".toList) ∧
      r.columnClause c = .ok "`flag` enum('a','b')" ∧
      ¬ "'A'".toList <:+: "`flag` enum('a','b')".toList := by
  intro r c
  exact ⟨by decide +kernel, by decide +kernel, rfl, by decide +kernel, by decide +kernel,
    by decide +kernel⟩

end CatalogDdl.Ddl
