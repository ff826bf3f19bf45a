import RelayQuality.Catalog.Document
import RelayQuality.Config.Document
import RelayQuality.Files

/-!
# Settings and catalogs in files

What a path leads to becomes settings (`Config.load`) or a catalog (`Catalog.load`), and `Config.save`
puts settings among files.
-/

namespace RelayQuality

namespace Config

def load (s : Source) : Except Fault Config :=
  match s.content with
  | .ok text => ofText text
  | .error reason => .error (.config ("Failed to read config: " ++ reason))

def save (c : Config) (f : Files) (directory name : String) : Except Fault Files :=
  match c.document with
  | .error fault => .error fault
  | .ok text => (f.write directory name text).mapError fun reason => .config ("Failed to write config: " ++ reason)

end Config

namespace Catalog

def load (s : Source) : Except Fault Catalog :=
  match s.content with
  | .ok text => ofText text
  | .error reason => .error (.io reason)

end Catalog

end RelayQuality
