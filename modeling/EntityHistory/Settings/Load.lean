/-
Loading settings.

Settings are what is right for development, unless a file says otherwise, unless a variable of the environment
says otherwise. A file that is not well written, or a setting that is not of its type, spoils them all.
-/
import EntityHistory.Settings.Toml
import EntityHistory.Settings.Variables

namespace EntityHistory

/-- The settings that a file, if there is one, and the given variables say. -/
def Settings.load? (file : Option String) (given : List (String × String)) : Option Settings := do
  let written ← file.mapM SettingTree.ofFile?
  let t := (development.tree.merge (written.getD (.group []))).merge (Variables.settings given)
  Settings.ofTree? t

end EntityHistory
