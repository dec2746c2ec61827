import LoweringAudit.Catalog.Fma4
import LoweringAudit.Catalog.Format
import LoweringAudit.Files.Basic
/-!
Where a catalog comes from: the word `embedded`, in any letter case, names the catalog built in, and
anything else is the path of a catalog file.
-/
namespace LoweringAudit

inductive CatalogSource where
  | embedded
  | file (path : String)
  deriving DecidableEq, Repr

namespace CatalogSource

def word : String := "embedded"

def ofWord (arg : String) : CatalogSource :=
  if Text.sameLetters word.toList arg.toList then embedded else file arg

def render : CatalogSource → String
  | embedded => word
  | file path => path

/-- The catalog from this source; lines of a file that name no feature take the default one. -/
def load (files : Files) (defaultFeature : String) : CatalogSource → Except CatalogError Catalog
  | embedded => Fma4.catalog
  | file path =>
    match files.readText path with
    | .error cause => .error (.unreadable path cause)
    | .ok text => Catalog.parse text defaultFeature

end CatalogSource

end LoweringAudit
