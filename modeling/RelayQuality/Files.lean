/-!
# Files in memory

`Files` is a tree of files below a working directory. Paths are followed name by name, so that a missing
directory is found also where a path leads out of it again.
-/

namespace RelayQuality

/-- What a path leads to. -/
inductive Source where
  /-- To nothing, for a reason. -/
  | missing (reason : String)
  /-- To something that cannot be read, for a reason. -/
  | unreadable (reason : String)
  | text (content : String)
deriving DecidableEq, Repr, Inhabited

namespace Source

def absent : Source := missing "No such file or directory (os error 2)"

def underFile : Source := missing "Not a directory (os error 20)"

def directory : Source := unreadable "Is a directory (os error 21)"

def isThere : Source → Bool
  | missing _ => false
  | _ => true

def content : Source → Except String String
  | missing reason => .error reason
  | unreadable reason => .error reason
  | text content => .ok content

end Source

/-- Files by the names on the way to them. -/
structure Files where
  entries : List (List String × String) := []
deriving DecidableEq, Repr, Inhabited

namespace Files

def names (path : String) : List String :=
  (path.splitToList (· == '/')).filter fun name => !name.isEmpty && name != "."

def ofPaths (files : List (String × String)) : Files := ⟨files.map fun file => (names file.1, file.2)⟩

def file? (f : Files) (place : List String) : Option String :=
  (f.entries.find? (·.1 == place)).map Prod.snd

/-- A file stands somewhere below a place, or the place is the working directory. -/
def isDirectory (f : Files) (place : List String) : Bool :=
  place.isEmpty || f.entries.any fun entry => place.isPrefixOf entry.1 && place.length < entry.1.length

def at? (f : Files) (place : List String) : Source :=
  match f.file? place with
  | some content => .text content
  | none => if f.isDirectory place then .directory else .absent

/-- Where names lead from a directory, or what is in the way. -/
def follow (f : Files) (place : List String) : List String → Except Source (List String)
  | [] => .ok place
  | name :: rest =>
    if f.isDirectory place then
      f.follow (if name = ".." then place.dropLast else place ++ [name]) rest
    else if (f.file? place).isSome then .error .underFile
    else .error .absent

def asksDirectory (path : String) : Bool := path.endsWith "/" || path.endsWith "/."

def read (f : Files) (path : String) : Source :=
  if path.isEmpty || path.startsWith "/" then .absent
  else
    match f.follow [] (names path) with
    | .error source => source
    | .ok place =>
      match f.at? place with
      | .text content => if asksDirectory path then .underFile else .text content
      | source => source

/-- Write a file into a directory, in place of one with its name. The directory has to be there. -/
def write (f : Files) (directory name content : String) : Except String Files :=
  match f.read directory with
  | .unreadable _ =>
    match f.follow [] (names directory) with
    | .ok place => .ok ⟨f.entries.filter (·.1 != place ++ [name]) ++ [(place ++ [name], content)]⟩
    | .error _ => .ok f
  | .missing reason => .error reason
  | .text _ => .error "Not a directory (os error 20)"

/-- The files that stand in a directory itself, in order of their names. -/
def list (f : Files) (directory : String) : List (String × String) :=
  let place := names directory
  let here := f.entries.filterMap fun entry =>
    match entry.1.getLast? with
    | some name => if entry.1.dropLast == place then some (name, entry.2) else none
    | none => none
  here.mergeSort fun a b => a.1 ≤ b.1

end Files

end RelayQuality
