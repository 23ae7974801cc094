import CatalogDdl.Proofs.TableForms
import Mathlib.Data.List.Infix

/-!
# Documents without dotted keys

One reading of a document may refuse what another one takes, but only for what dotted keys do. A
key of one name leads through no table, so for a document whose keys are such, what dotted keys do
does not matter at any token of it.

- `HasNoDottedKeys`: the keys that values are given to have one name each.
- `Reader.feed_withKeys`: one token, for readers that differ in what dotted keys do.
- `read?_eq_of_hasNoDottedKeys`: all of a document.
-/

namespace CatalogDdl.Toml

/-- Whether a key that a value part way through is for has one name. -/
def Frame.IsShort : Frame → Prop
  | .line path _ => path = []
  | .array _ => True
  | .member _ path _ => path = []

instance : DecidablePred Frame.IsShort
  | .line path _ => inferInstanceAs (Decidable (path = []))
  | .array _ => inferInstanceAs (Decidable True)
  | .member _ path _ => inferInstanceAs (Decidable (path = []))

/-- No value of a document is given to a dotted key: whenever a reader is inside a value, the keys
that the value is for have one name each. -/
def HasNoDottedKeys (text : String) : Prop :=
  ∀ ts front r, tokens? text = some ts → front <+: ts →
    front.foldlM Reader.feed { keys := .passing } = some r → ∀ f ∈ r.stack, f.IsShort

/-- There are as many starts of a document to look at as it has tokens, and one. -/
theorem hasNoDottedKeys_iff {text : String} : HasNoDottedKeys text ↔
    ∀ ts ∈ tokens? text, ∀ front ∈ ts.inits,
      ∀ r ∈ front.foldlM Reader.feed { keys := .passing }, ∀ f ∈ r.stack, f.IsShort := by
  constructor
  · intro h ts hts front hfront r hr
    exact h ts front r hts ((List.mem_inits ..).mp hfront) hr
  · intro h ts front r hts hfront hr
    exact h ts hts front ((List.mem_inits ..).mpr hfront) r hr

instance : DecidablePred HasNoDottedKeys := fun _ => decidable_of_iff _ hasNoDottedKeys_iff.symm

/-- Headers may have dots. -/
example : HasNoDottedKeys "[a.b]\nc = [1, {d = 2}]\n" ∧ ¬ HasNoDottedKeys "a.b = 1\n" := by
  decide +kernel

namespace Reader

/-- A reader for which dotted keys do something else. -/
def withKeys (keys : DottedKeys) (r : Reader) : Reader := { r with keys := keys }

variable {r : Reader} {keys : DottedKeys}

/-- A change of the document asks for no dotted keys. -/
theorem change_withKeys (keys : DottedKeys) (r : Reader) (c : Change) :
    (r.withKeys keys).change c = (r.change c).map (withKeys keys) := by
  unfold change withKeys
  cases r.root with
  | table form es => simp only [Option.map_map]; rfl
  | _ => rfl

/-- What is open stays open when the document changes. -/
theorem stack_of_change {r' : Reader} {c : Change} (h : r.change c = some r') : r'.stack = r.stack := by
  unfold change at h
  split at h
  · obtain ⟨root, -, rfl⟩ := Option.map_eq_some_iff.mp h
    rfl
  · cases h

/-- Readers whose keys are short stay such, whatever value they are given. -/
theorem isShort_of_deliver {r' : Reader} {v : Toml} (h : ∀ f ∈ r.stack, f.IsShort)
    (hr' : r.deliver v = some r') : ∀ f ∈ r'.stack, f.IsShort := by
  -- the value goes into the innermost open one, which is closed by that or still was there
  cases hstack : r.stack with
  | nil =>
    rw [deliver_nil hstack] at hr'
    cases hr'
  | cons frame frames =>
    have hframes : ∀ f ∈ frames, f.IsShort :=
      fun f hf => h f (by rw [hstack]; exact List.mem_cons_of_mem _ hf)
    cases frame with
    | line path name =>
      rw [deliver_line hstack] at hr'
      rwa [stack_of_change hr']
    | array items =>
      rw [deliver_array hstack] at hr'
      cases hr'
      exact hframes
    | member es path name =>
      rw [deliver_member hstack] at hr'
      obtain ⟨changed, -, hr'⟩ := Option.bind_eq_some_iff.mp hr'
      obtain ⟨es', -, rfl⟩ := Option.map_eq_some_iff.mp hr'
      exact hframes

/-- What dotted keys do does not matter for a key of one name. -/
theorem deliver_withKeys (keys : DottedKeys) (h : ∀ f ∈ r.stack, f.IsShort) (v : Toml) :
    (r.withKeys keys).deliver v = (r.deliver v).map (withKeys keys) := by
  cases hstack : r.stack with
  | nil =>
    have hstack' : (r.withKeys keys).stack = [] := hstack
    rw [deliver_nil hstack, deliver_nil hstack']
    rfl
  | cons frame frames =>
    have hshort := h frame (by rw [hstack]; exact List.mem_cons_self ..)
    have hstack' : (r.withKeys keys).stack = frame :: frames := hstack
    cases frame with
    | line path name =>
      -- a path without tables is an assignment to the table itself, in either way
      obtain rfl : path = [] := hshort
      rw [deliver_line hstack, deliver_line hstack']
      exact change_withKeys keys { r with stack := frames } _
    | array items =>
      rw [deliver_array hstack, deliver_array hstack']
      rfl
    | member es path name =>
      obtain rfl : path = [] := hshort
      have hsame : assign (r.withKeys keys).keys [] name v = assign r.keys [] name v := rfl
      rw [deliver_member hstack, deliver_member hstack', hsame, Option.map_bind]
      congr 1
      funext changed
      rw [Function.comp_apply, Option.map_map]
      rfl

theorem enter_withKeys (keys : DottedKeys) (r : Reader) (e : Expect) :
    (r.withKeys keys).enter e = (r.enter e).map (withKeys keys) := by
  show (if r.stack.length ≤ nestingLimit then _ else _) = _
  rw [enter]
  split <;> rfl

/-- The first token of a value. -/
theorem begin_withKeys (keys : DottedKeys) (h : ∀ f ∈ r.stack, f.IsShort) (t : Token) :
    (r.withKeys keys).begin t = (r.begin t).map (withKeys keys) := by
  cases t with
  | word chars =>
    rw [begin, begin]
    cases ofWord? chars with
    | none => rfl
    | some v => exact deliver_withKeys keys h v
  | text string multiline => exact deliver_withKeys keys h _
  | openBracket => exact enter_withKeys keys r _
  | openBrace => exact enter_withKeys keys r _
  | _ => rfl

/-- A token of a key: the tables that a header names are not reached by a dotted key. -/
theorem feedKey_withKeys (keys : DottedKeys) (r : Reader) (use : KeyUse) (k : KeyPath) (t : Token) :
    (r.withKeys keys).feedKey use k t = (r.feedKey use k t).map (withKeys keys) := by
  unfold feedKey
  split
  · rw [Option.map_map]
    rfl
  · rw [Option.map_map]
    rfl
  · cases k.complete? with
    | none => rfl
    | some key =>
      obtain ⟨path, name⟩ := key
      cases use with
      | header =>
        cases t with
        | closeBracket => exact change_withKeys keys { r with header := path ++ [name] } _
        | _ => rfl
      | elementHeader =>
        cases t with
        | closeBrackets => exact change_withKeys keys { r with header := path ++ [name] } _
        | _ => rfl
      | line => cases t <;> rfl
      | member es => cases t <;> rfl

/-- A token of an array or of a value. -/
theorem feedItem_withKeys (keys : DottedKeys) (h : ∀ f ∈ r.stack, f.IsShort) (t : Token) :
    (r.withKeys keys).feedItem t = (r.feedItem t).map (withKeys keys) := by
  have hexpect : (r.withKeys keys).expect = r.expect := rfl
  have hinside : ∀ items, ∀ f ∈ (r.inside (.array items) .value).stack, f.IsShort :=
    fun items => List.forall_mem_cons.mpr ⟨trivial, h⟩
  unfold feedItem
  rw [hexpect]
  cases r.expect with
  | item items =>
    cases t with
    | newline => rfl
    | closeBracket => exact deliver_withKeys keys h _
    | _ => exact begin_withKeys keys (hinside items) _
  | nextItem items =>
    cases t with
    | closeBracket => exact deliver_withKeys keys h _
    | _ => rfl
  | value =>
    cases t with
    | newline =>
      show (if r.mayBreak = true then _ else _) = Option.map _ (if r.mayBreak = true then _ else _)
      split <;> rfl
    | _ => exact begin_withKeys keys h _
  | _ => rfl

/-- A bracket opens a value, or closes one that is delivered. -/
theorem isShort_of_feedItem {r' : Reader} {t : Token} (h : ∀ f ∈ r.stack, f.IsShort)
    (ht : t = .openBracket ∨ t = .closeBracket) (hr' : r.feedItem t = some r') :
    ∀ f ∈ r'.stack, f.IsShort := by
  have henter : ∀ (r r' : Reader) (e : Expect), r.enter e = some r' → r'.stack = r.stack := by
    intro r r' e he
    unfold enter at he
    split at he
    · cases he
      rfl
    · cases he
  unfold feedItem at hr'
  generalize r.expect = e at hr'
  rcases ht with rfl | rfl
  · cases e with
    | item items =>
      rw [henter _ _ _ hr']
      exact List.forall_mem_cons.mpr ⟨trivial, h⟩
    | value => rwa [henter _ _ _ hr']
    | _ => cases hr'
  · cases e with
    | item items => exact isShort_of_deliver h hr'
    | nextItem items => exact isShort_of_deliver h hr'
    | _ => cases hr'

theorem feedItem_twice_withKeys (keys : DottedKeys) (h : ∀ f ∈ r.stack, f.IsShort) {t : Token}
    (ht : t = .openBracket ∨ t = .closeBracket) :
    (((r.withKeys keys).feedItem t).bind fun r => r.feedItem t) =
      ((r.feedItem t).bind fun r => r.feedItem t).map (withKeys keys) := by
  rw [feedItem_withKeys keys h]
  cases hr' : r.feedItem t with
  | none => rfl
  | some r' => exact feedItem_withKeys keys (isShort_of_feedItem h ht hr') t

/-- One token, if the keys of the open values are short. -/
theorem feed_withKeys (keys : DottedKeys) (h : ∀ f ∈ r.stack, f.IsShort) (t : Token) :
    (r.withKeys keys).feed t = (r.feed t).map (withKeys keys) := by
  have hexpect : (r.withKeys keys).expect = r.expect := rfl
  -- two brackets together are fed one after the other, with short keys in between
  have hopen := feedItem_twice_withKeys keys h (.inl rfl : Token.openBracket = .openBracket ∨ _)
  have hclose := feedItem_twice_withKeys keys h (.inr rfl : _ ∨ Token.closeBracket = .closeBracket)
  have hitem := feedItem_withKeys keys h
  unfold feed
  rw [hexpect]
  cases r.expect with
  | line =>
    cases t with
    | newline => rfl
    | openBracket => rfl
    | openBrackets => rfl
    | _ => exact feedKey_withKeys keys r _ _ _
  | lineEnd => cases t <;> rfl
  | key use k => exact feedKey_withKeys keys r use k t
  | equals es path name => cases t <;> rfl
  | member es =>
    cases t with
    | newline => rfl
    | closeBrace => exact deliver_withKeys keys h _
    | _ => exact feedKey_withKeys keys r _ _ _
  | nextMember es =>
    cases t with
    | closeBrace => exact deliver_withKeys keys h _
    | _ => rfl
  | _ =>
    cases t with
    | openBrackets => exact hopen
    | closeBrackets => exact hclose
    | _ => exact hitem _

/-- Many tokens, if the keys are short after each of them. -/
theorem foldlM_feed_withKeys (keys : DottedKeys) (ts : List Token)
    (h : ∀ front r', front <+: ts → front.foldlM feed r = some r' → ∀ f ∈ r'.stack, f.IsShort) :
    ts.foldlM feed (r.withKeys keys) = (ts.foldlM feed r).map (withKeys keys) := by
  -- what is known of the starts of the tokens is known of those after the first token
  induction ts generalizing r with
  | nil => rfl
  | cons t ts ih =>
    have hstart := h [] r (List.nil_prefix ..) rfl
    rw [List.foldlM_cons, List.foldlM_cons, feed_withKeys keys hstart]
    cases hr' : r.feed t with
    | none => rfl
    | some r' =>
      refine ih fun front r'' hfront hr'' => h (t :: front) r'' ?_ ?_
      · exact List.cons_prefix_cons.mpr ⟨rfl, hfront⟩
      · rw [List.foldlM_cons, hr']
        exact hr''

end Reader

/-- **Without dotted keys, both readings are the same.** -/
theorem read?_eq_of_hasNoDottedKeys {text : String} (h : HasNoDottedKeys text)
    (keys : DottedKeys) : read? keys text = read? .passing text := by
  unfold read?
  cases hts : tokens? text with
  | none => rfl
  | some ts =>
    have hrun := Reader.foldlM_feed_withKeys (r := { keys := .passing }) keys ts
      fun front r' hfront hr' => h ts front r' hts hfront hr'
    have hstart : Reader.withKeys keys { keys := .passing } = { keys } := rfl
    rw [hstart] at hrun
    rw [Option.bind_some, Option.bind_some, hrun]
    cases ts.foldlM Reader.feed { keys := .passing } <;> rfl

end CatalogDdl.Toml
