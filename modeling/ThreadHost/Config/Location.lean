import ThreadHost.FilePath
/-!
# The default settings file
-/

namespace ThreadHost

/-- The default settings file, from the directory for settings, if one is set, and the home
directory. -/
def Config.location (settings : Option String) (home : String) : FilePath :=
  let directory := settings.getD (FilePath.homeText home ++ "/.config")
  ((FilePath.ofText directory).below "ftd_host").below "config.toml"

end ThreadHost
