import CatalogDdl.Proofs.Synthesis

/-!
# The groups of a bundle

A reason for which there is nothing to review has no group. So the groups of a
bundle are some of those that there can be, in a fixed order, and what one of
them holds is known from what has to be reviewed for its reason.

- `Bundle.reviewed`: the statements of a bundle that are reviewed for one reason.
- `Request.reviewed_eq`: they are the statements of `Request.toReview`.
- `Request.groups_sublist`, `Request.groups_nonempty`: no reason has two groups,
  the groups are in order, and none of them is empty.
-/

namespace CatalogDdl.Ddl

/-- The statements of a bundle that are reviewed for a given reason. -/
def Bundle.reviewed (b : Bundle) (kind : GroupKind) : List String :=
  (b.groups.filter fun g => g.kind = kind).flatMap Group.statements

theorem mem_groupOf {kind : GroupKind} {ss : List String} {g : Group} :
    g ∈ groupOf kind ss ↔ ss ≠ [] ∧ g = ⟨kind, ss⟩ := by
  cases ss with
  | nil => simp [groupOf]
  | cons s ss => simp [groupOf]

/-- Elements that were put together key by key are found again by their keys. -/
theorem filter_flatMap_of_key {κ α : Type} [DecidableEq κ] {f : κ → List α} {key : α → κ}
    (hkey : ∀ k, ∀ a ∈ f k, key a = k) {k : κ} {ks : List κ} (hn : ks.Nodup) (hk : k ∈ ks) :
    (ks.flatMap f).filter (fun a => key a = k) = f k := by
  -- the part of another key has nothing of this one
  have hother : ∀ ks' : List κ, k ∉ ks' → (ks'.flatMap f).filter (fun a => key a = k) = [] := by
    intro ks' hmem
    rw [List.filter_eq_nil_iff]
    intro a ha h
    obtain ⟨k', hk', ha'⟩ := List.mem_flatMap.mp ha
    have hsame : k' = k := (hkey k' a ha').symm.trans (of_decide_eq_true h)
    exact hmem (hsame ▸ hk')
  have hown : (f k).filter (fun a => key a = k) = f k :=
    List.filter_eq_self.mpr fun a ha => decide_eq_true (hkey k a ha)
  obtain ⟨before, after, rfl⟩ := List.append_of_mem hk
  rw [List.nodup_append] at hn
  obtain ⟨-, hafter, hdisjoint⟩ := hn
  have hbefore : k ∉ before := fun h => hdisjoint k h k (List.mem_cons_self ..) rfl
  rw [List.flatMap_append, List.filter_append, hother before hbefore, List.flatMap_cons,
    List.filter_append, hown, hother after (List.nodup_cons.mp hafter).1, List.append_nil,
    List.nil_append]

/-- A group is of the kind that it was made for. -/
theorem kind_of_mem_groupOf {kind : GroupKind} {ss : List String} {g : Group}
    (h : g ∈ groupOf kind ss) : g.kind = kind := by
  rw [(mem_groupOf.mp h).2]

/-- Groups made kind by kind are of those kinds, in order, with some left out. -/
theorem map_kind_flatMap_groupOf_sublist (f : GroupKind → List String) (kinds : List GroupKind) :
    ((kinds.flatMap fun kind => groupOf kind (f kind)).map Group.kind).Sublist kinds := by
  induction kinds with
  | nil => exact .slnil
  | cons kind kinds ih =>
    rw [List.flatMap_cons, List.map_append]
    unfold groupOf
    split
    · exact ih.cons kind
    · exact ih.cons_cons kind

namespace Request

variable {r : Request} {b : Bundle}

/-- The groups of a table hold what has to be reviewed, reason by reason. -/
theorem reviewed_eq (h : r.synthesize = .ok b) (kind : GroupKind) :
    b.reviewed kind = (r.toReview kind).map Statement.sql := by
  have hkind : kind ∈ groupOrder := by
    cases kind <;> decide
  rw [Bundle.reviewed, synthesize_groups h,
    filter_flatMap_of_key (fun _ _ hg => kind_of_mem_groupOf hg) (by decide) hkind,
    flatMap_groupOf]

/-- The groups of a table are in order, and no reason has two of them. -/
theorem groups_sublist (h : r.synthesize = .ok b) :
    (b.groups.map Group.kind).Sublist groupOrder := by
  rw [synthesize_groups h]
  exact map_kind_flatMap_groupOf_sublist _ _

/-- No group of a table is empty. -/
theorem groups_nonempty (h : r.synthesize = .ok b) : ∀ g ∈ b.groups, g.statements ≠ [] := by
  intro g hg
  rw [synthesize_groups h] at hg
  obtain ⟨kind, -, hg⟩ := List.mem_flatMap.mp hg
  obtain ⟨hne, rfl⟩ := mem_groupOf.mp hg
  exact hne

end Request

end CatalogDdl.Ddl
