import EnvScout.Config.Schema

/-!
The command line: prints the schema of the configuration as editors use it.
-/

def main : IO Unit :=
  IO.println EnvScout.Config.Schema.forEditors.prettyText
