import Datagram.Config.Fields
import Datagram.Serialization.Runnable

/-!
# Configurations from texts

JSON and TOML texts, as the runnable library reads them.
-/

namespace Datagram.Config

def ofJson? : String → Option Config := (codec .runnable).ofText? Serialization.runnable.json

def ofToml? : String → Option Config := (codec .runnable).ofText? Serialization.runnable.toml

end Datagram.Config
