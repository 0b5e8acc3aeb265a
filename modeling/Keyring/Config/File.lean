import Keyring.Config.Toml
import Keyring.Files

/-!
# Configuration files

A configuration is read from a file, or, where that fails, replaced by the
defaults.  A file that exists and fails is reported; a file that is missing is
not.  The mode flag applies in either case.
-/

namespace Keyring
namespace Config

def loadFile (files : FileSystem) (override : Variable) (path : String) :
    Reply Unit (Except ConfigFault Config) :=
  match files.readText path with
  | .error fault => ⟨.error (.unreadable path fault.message), (), []⟩
  | .ok text => ofToml override text

/-- The defaults, with the mode that the variable asks for. -/
def fallback (override : Variable) (path : String) : Reply Unit Config :=
  let applied := applyVariable {} override
  ⟨applied.next, (), .usingDefault path :: applied.events⟩

/-- Reads the configuration of a file, or falls back to the defaults. -/
def loadOrDefault (files : FileSystem) (override : Variable) (path : String) : Reply Unit Config :=
  if files.pathExists path then
    let loaded := loadFile files override path
    match loaded.answer with
    | .ok config => ⟨config, (), loaded.events⟩
    | .error reason =>
      let defaults := fallback override path
      ⟨defaults.answer, (), loaded.events ++ .loadFailed reason.summary :: defaults.events⟩
  else fallback override path

/-- Reads the configuration of the standard file in a home directory. -/
def load (files : FileSystem) (override : Variable) (home : String) : Reply Unit Config :=
  loadOrDefault files override (standardPath home)

end Config
end Keyring
