import ServiceTemplates.Definition.Manifest

/-!
# The command line

Prints the manifest.
-/

/-- Prints the manifest, line by line. -/
def main : IO Unit := ServiceTemplates.manifest.forM IO.println
