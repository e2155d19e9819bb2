import Datagram.Config.Fields
import Datagram.Serialization.Runnable

/-!
# Texts of configurations

JSON and TOML texts, as the runnable library writes them.
-/

namespace Datagram.Config

def json (c : Config) : String :=
  ((codec .runnable).write? Serialization.runnable.json c).getD ""

def toml? (c : Config) : Option String := (codec .runnable).write? Serialization.runnable.toml c

end Datagram.Config
