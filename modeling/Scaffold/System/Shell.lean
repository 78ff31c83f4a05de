import Scaffold.System.Shell.Run

/-!
# A machine with a shell

The shell and its tools as programs of a machine in memory.
-/

namespace Scaffold

/-- A machine with a shell and the programs that scripts use, and a file with nothing in it. -/
def Machine.withShell (w : Machine) : Machine :=
  let w := { w with disk := w.disk.seed ["dev", "null"] .empty }
  (Shell.programDirectories.flatMap fun dir => Shell.programNames.map fun name => (dir, name)).foldl
    (fun w (dir, name) => w.install (dir ++ [name]) (Shell.launch name)) w

end Scaffold
