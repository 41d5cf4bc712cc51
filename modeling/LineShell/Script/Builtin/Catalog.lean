import LineShell.Script.Builtin.Limits
import LineShell.Script.Builtin.Names
import LineShell.Script.Builtin.Places
import LineShell.Script.Builtin.Signals
import LineShell.Script.Builtin.Text
import LineShell.Script.Builtin.Values

/-! The catalog of the builtins that run no other commands. -/

namespace LineShell.Script.Builtin

/-- The builtins that run no other commands, by name. -/
def catalog : List (String × Builtin) := [
  (":", fun _ => return 0), ("true", fun _ => return 0), ("false", fun _ => return 1),
  ("[", bracket), ("alias", alias_), ("bg", resume), ("cd", cd), ("chdir", cd), ("echo", echo),
  ("export", export_), ("fg", resume), ("getopts", getopts), ("hash", hash), ("jobs", jobs),
  ("kill", kill), ("local", local_), ("printf", printf), ("pwd", pwd), ("read", read),
  ("readonly", readonly_), ("set", set), ("shift", shift), ("test", test), ("times", times),
  ("trap", trap), ("type", type), ("ulimit", ulimit), ("umask", umask), ("unalias", unalias),
  ("unset", unset), ("wait", wait)]

end LineShell.Script.Builtin
