import Lapse.Path
import Lapse.Text.Lowercase

/-!
# Files that are taken for binary

A file whose name ends in one of a few extensions, in capital or small letters, is not read.
-/
namespace Lapse.Scan

def binaryExtensions : List String :=
  ["png", "jpg", "jpeg", "gif", "ico", "pdf", "zip", "tar", "gz", "exe", "dll", "so", "dylib",
   "bin", "dat"]

def isLikelyBinary (p : Path) : Bool :=
  match (p.fileName?.bind Path.extension?).bind fun bytes => Path.text? ⟨bytes⟩ with
  | some ext => binaryExtensions.contains (String.ofList (Text.Lowercase.letters ext.toList))
  | none => false

end Lapse.Scan
