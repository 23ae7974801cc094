/-!
# Warnings

A warning names a catalog object whose statement somebody has to review, and says why.
-/

namespace CatalogDdl.Ddl

/-- Why a statement has to be reviewed. -/
inductive WarningKind where
  | functionBasedIndex
  | bitmapIndex
  | foreignKey
  | checkConstraint
  | unhandledDeleteRule
  deriving DecidableEq, Repr

/-- The name of a kind. -/
def WarningKind.text : WarningKind → String
  | .functionBasedIndex => "FunctionBasedIndex"
  | .bitmapIndex => "BitmapIndex"
  | .foreignKey => "ForeignKey"
  | .checkConstraint => "CheckConstraint"
  | .unhandledDeleteRule => "UnhandledDeleteRule"

/-- A warning about an object. -/
structure Warning where
  kind : WarningKind
  /-- The name of the index or constraint. -/
  object : String
  detail : String
  deriving DecidableEq, Repr

/-- A warning in words. -/
def Warning.line (w : Warning) : String := w.kind.text ++ " [" ++ w.object ++ "]: " ++ w.detail

end CatalogDdl.Ddl
