import CatalogDdl.Proofs.Candidates
import CatalogDdl.Proofs.Groups
import CatalogDdl.Proofs.Text

/-!
# What is reviewed is reported

Warnings and statements to review are made apart from each other, and in another
order: warnings about indexes come first, while the statements of indexes are the
last group. Sorted by the reason for the review, they are about the same objects.

- `WarningKind.group`: the reason for the review that a warning gives.
- `Reported`: the warnings of a bundle are about what is in its groups.
- `Request.reports`: the warnings of each reason. `Request.warnings_eq` says that
  the warnings of a bundle are those, reason by reason, so that sorting them by
  reason finds them again.
- `synthesize_reported`: every bundle reports what it sends to review.
-/

namespace CatalogDdl

open Ddl

namespace Ddl

/-- The reason for the review that a warning gives. -/
def WarningKind.group : WarningKind → GroupKind
  | .functionBasedIndex => .indexes
  | .bitmapIndex => .indexes
  | .foreignKey => .foreignKeys
  | .checkConstraint => .checkConstraints
  | .unhandledDeleteRule => .unhandledDeleteRules

/-- The warnings of a bundle that give a given reason. -/
def Bundle.warningsOf (b : Bundle) (kind : GroupKind) : List Warning :=
  b.warnings.filter fun w => w.kind.group = kind

/-- The warnings of a bundle are about what is in its groups, and about all of it. -/
structure Reported (t : Table) (target : TargetTable) (b : Bundle) : Prop where
  /-- There are as many warnings as statements to review. -/
  count : b.warnings.length = b.reviewCount
  /-- For each reason, the warnings name the objects whose statements the group
  holds, in the same order. These are all the objects that can be reviewed for that
  reason, or none. -/
  named : ∀ kind, ∃ objects, (objects = [] ∨ objects = t.candidates target kind) ∧
    (b.warningsOf kind).map Warning.object = objects.map Statement.object ∧
    b.reviewed kind = objects.map Statement.sql
  /-- There is nothing to write for review iff there is nothing to report. -/
  silent : b.compatibilitySql = "" ↔ b.warnings = []

namespace Request

variable {r : Request} {b : Bundle}

/-! ## Warnings by reason -/

variable (r) in
/-- The warnings about what has to be reviewed for a reason. -/
def reports : GroupKind → List Warning
  | .checkConstraints => if r.reviewsChecks then r.checkStatements.map r.checkWarning else []
  | .foreignKeys => if r.reviewsForeignKeys then r.handledKeys.map r.foreignKeyWarning else []
  | .unhandledDeleteRules => r.unhandledKeys.map unhandledWarning
  | .indexes => r.table.reviewedIndexes.map Index.warning

/-- The order of the reasons among the warnings. -/
def warningOrder : List GroupKind :=
  [.indexes, .unhandledDeleteRules, .checkConstraints, .foreignKeys]

/-- The warnings of a table come reason by reason. -/
theorem warnings_eq (h : r.synthesize = .ok b) : b.warnings = warningOrder.flatMap r.reports := by
  rw [synthesize_warnings h]
  simp only [warningOrder, List.flatMap_cons, List.flatMap_nil, List.append_nil, List.append_assoc,
    reports]

/-- Each of them gives its reason. -/
theorem group_of_mem_reports {kind : GroupKind} {w : Warning} (h : w ∈ r.reports kind) :
    w.kind.group = kind := by
  cases kind with
  | checkConstraints =>
    rw [reports] at h
    split at h
    · obtain ⟨s, -, rfl⟩ := List.mem_map.mp h
      rfl
    · cases h
  | foreignKeys =>
    rw [reports] at h
    split at h
    · obtain ⟨k, -, rfl⟩ := List.mem_map.mp h
      rfl
    · cases h
  | unhandledDeleteRules =>
    obtain ⟨k, -, rfl⟩ := List.mem_map.mp h
    rfl
  | indexes =>
    obtain ⟨i, -, rfl⟩ := List.mem_map.mp h
    unfold Index.warning
    cases i.kind <;> rfl

theorem warningsOf_eq (h : r.synthesize = .ok b) (kind : GroupKind) :
    b.warningsOf kind = r.reports kind := by
  have hkind : kind ∈ warningOrder := by
    cases kind <;> decide
  rw [Bundle.warningsOf, warnings_eq h]
  exact filter_flatMap_of_key (fun _ _ hw => group_of_mem_reports hw) (by decide) hkind

/-! ## Warnings and statements -/

/-- A warning names the index that it is about. -/
theorem object_indexWarning (i : Index) : i.warning.object = i.name := by
  unfold Index.warning
  cases i.kind <;> rfl

/-- The warnings of a reason name what has to be reviewed for it. -/
theorem map_object_reports (kind : GroupKind) :
    (r.reports kind).map Warning.object = (r.toReview kind).map Statement.object := by
  cases kind with
  | checkConstraints =>
    rw [reports, toReview]
    cases r.reviewsChecks with
    | true => exact List.map_map
    | false => rfl
  | foreignKeys =>
    rw [reports, toReview]
    cases r.reviewsForeignKeys with
    | true =>
      show (r.handledKeys.map _).map _ = (r.handledKeys.map _).map _
      rw [List.map_map, List.map_map]
      rfl
    | false => rfl
  | unhandledDeleteRules =>
    rw [reports, toReview, List.map_map, List.map_map]
    rfl
  | indexes =>
    rw [reports, toReview, List.map_map, List.map_map]
    exact List.map_congr_left fun i _ => object_indexWarning i

theorem length_reports (kind : GroupKind) : (r.reports kind).length = (r.toReview kind).length := by
  rw [← List.length_map, map_object_reports, List.length_map]

/-! ## Nothing to write -/

/-- A banner is not empty, so neither is the block of a group. -/
theorem groupSql_ne_empty (b : Bundle) (g : Group) : b.groupSql g ≠ "" := by
  intro h
  have hchars := congrArg String.toList h
  simp [Bundle.groupSql, renderBanner, String.toList_append] at hchars

/-- The compatibility block of a bundle is empty iff it has no group. -/
theorem compatibilitySql_eq_empty_iff (b : Bundle) : b.compatibilitySql = "" ↔ b.groups = [] := by
  unfold Bundle.compatibilitySql
  rw [Text.joinWith_empty]
  cases b.groups with
  | nil => simp
  | cons g gs =>
    refine iff_of_false (fun h => ?_) nofun
    rw [List.map_cons, String.join_cons, String.append_eq_empty_iff] at h
    exact groupSql_ne_empty b g h.1

/-- Groups that are not empty have no statements only if there are none of them. -/
theorem reviewCount_eq_zero_iff (h : r.synthesize = .ok b) : b.reviewCount = 0 ↔ b.groups = [] := by
  unfold Bundle.reviewCount
  rw [List.length_eq_zero_iff, List.flatMap_eq_nil_iff]
  constructor
  · intro hempty
    cases hgroups : b.groups with
    | nil => rfl
    | cons g gs =>
      have hg : g ∈ b.groups := hgroups ▸ List.mem_cons_self ..
      exact absurd (hempty g hg) (groups_nonempty h g hg)
  · intro hnone g hg
    rw [hnone] at hg
    cases hg

/-- There are as many warnings as statements to review. -/
theorem warnings_length (h : r.synthesize = .ok b) : b.warnings.length = b.reviewCount := by
  unfold Bundle.reviewCount
  rw [warnings_eq h, synthesize_groups h, List.flatMap_assoc]
  simp only [flatMap_groupOf, groupOrder, warningOrder, List.flatMap_cons, List.flatMap_nil,
    List.append_nil, List.length_append, List.length_map, length_reports]
  omega

/-- **What is reviewed is reported**: whatever the version, the warnings of a bundle
are one for each statement to review; those of one reason name, in order, the
objects whose statements are reviewed for it; and the compatibility block is empty
iff there is no warning. -/
theorem synthesize_reported (h : r.synthesize = .ok b) : Reported r.table r.target b := by
  refine ⟨warnings_length h, fun kind => ?_, ?_⟩
  -- warnings and statements are both made from what has to be reviewed
  · refine ⟨r.toReview kind, ?_, ?_, reviewed_eq h kind⟩
    · rw [toReview_eq]
      cases r.reviews kind with
      | true => exact .inr rfl
      | false => exact .inl rfl
    · rw [warningsOf_eq h, map_object_reports]
  · rw [compatibilitySql_eq_empty_iff, ← reviewCount_eq_zero_iff h, ← warnings_length h,
      List.length_eq_zero_iff]

/-- The orders table has five statements to review on TiDB, and five warnings. -/
theorem orders_reported :
    ∃ b, orders.synthesize = .ok b ∧ Reported ordersTable ⟨"steven", "ORDERS"⟩ b ∧
      b.warnings.map Warning.object = ["UX_ID", "BX_ID", "FK_B", "CK_ID", "FK_A"] := by
  obtain ⟨b, hb⟩ : ∃ b, orders.synthesize = .ok b := ⟨_, rfl⟩
  refine ⟨b, hb, synthesize_reported hb, ?_⟩
  rw [warnings_eq hb]
  decide +kernel

end Request

end Ddl

end CatalogDdl
