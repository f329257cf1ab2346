import CodeHighlight.PathText

/-! # Where the configuration is kept

One directory holds the configuration file, the user's themes and the logs.
-/
namespace CodeHighlight

structure Environment where
  configHome : Option String
  home : Option String
deriving DecidableEq, Repr

namespace Environment

def applicationName : String := "treelight"

/-- Below the configuration home, or below `.config` in the home directory. -/
def configDirectory? (environment : Environment) : Option String :=
  (environment.configHome.or (environment.home.map (PathText.join · ".config"))).map
    (PathText.join · applicationName)

def themesDirectory? (environment : Environment) : Option String :=
  environment.configDirectory?.map (PathText.join · "themes")

def configFile? (environment : Environment) : Option String :=
  environment.configDirectory?.map (PathText.join · "config.yaml")

def logsDirectory? (environment : Environment) : Option String :=
  environment.configDirectory?.map (PathText.join · "logs")

end Environment

end CodeHighlight
