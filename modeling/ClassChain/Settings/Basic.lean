/-!
# Settings

The rules by which files are chosen and the two switches on what is reported.
-/

namespace ClassChain

/-- What a run of the program is told beforehand. -/
structure Settings where
  /-- No log lines at all. -/
  quiet : Bool := false
  /-- Unchanged and skipped files stand in the summary too. -/
  detailed : Bool := false
  /-- The extensions of files that are rewritten. -/
  fileExtensions : List String :=
    ["js", "jsx", "ts", "tsx", "html", "vue", "svelte", "astro", "md", "mdx", "blade.php", "php"]
  /-- The extensions of scripts, in which only attribute values are rewritten. -/
  scriptExtensions : List String := ["js", "jsx", "ts", "tsx"]
  /-- The names of directories under which nothing is rewritten. -/
  excludedDirs : List String := ["node_modules"]
  deriving DecidableEq, Repr

end ClassChain
