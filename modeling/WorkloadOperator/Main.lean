import WorkloadOperator.Schema

/-!
# The command line

The command writes the definitions of the two kinds, ready to be applied to a
cluster.
-/

/-- Write the definitions to standard output. -/
def main : IO Unit := IO.println WorkloadOperator.Definition.stream
