import RelayQuality.Command.Invocation

/-!
# Reading a command line

`Invocation.ofArguments` reads arguments from left to right. An argument with a value stays open until
the next argument begins, so that a mistake behind it is found first where it hides what follows.
-/

namespace RelayQuality

/-- What a name on the command line stands for. -/
inductive Named where
  | valued (a : Valued)
  | switch (s : Switch)
deriving DecidableEq, Repr, Inhabited

namespace Named

def ofLong? : String → Option Named
  | "config" => some (.valued .config)
  | "log-level" => some (.valued .logLevel)
  | "log-json" => some (.switch .logJson)
  | "lat" => some (.valued .latitude)
  | "lon" => some (.valued .longitude)
  | "country" => some (.valued .country)
  | "protocol" => some (.valued .protocol)
  | "port" => some (.valued .port)
  | "timeout" => some (.valued .timeout)
  | "parallel" => some (.valued .parallel)
  | "multihop" => some (.valued .multihop)
  | "json" => some (.switch .json)
  | "export" => some (.valued .exportTo)
  | "watch" => some (.switch .watch)
  | "help" => some (.switch .help)
  | "version" => some (.switch .version)
  | _ => none

def ofShort? : Char → Option Named
  | 'c' => some (.valued .config)
  | 'l' => some (.valued .logLevel)
  | 'p' => some (.valued .protocol)
  | 'w' => some (.switch .watch)
  | 'h' => some (.switch .help)
  | 'V' => some (.switch .version)
  | _ => none

end Named

/-- An argument that has not been taken, with the value it may have by now. -/
structure Pending where
  argument : Valued
  value : Option String
deriving DecidableEq, Repr, Inhabited

/-- A command line that has been read in part. -/
structure CommandLine where
  taken : Invocation := {}
  pending : Option Pending := none
  /-- The catalog has been named. -/
  hasCatalog : Bool := false
  /-- Two dashes have been read, behind which every argument is a value. -/
  isTrailing : Bool := false
deriving Inhabited

namespace CommandLine

def settled (r : CommandLine) : Except Usage CommandLine :=
  match r.pending with
  | none => .ok r
  | some p => do return { r with taken := ← r.taken.take p.argument p.value, pending := none }

def awaiting? (r : CommandLine) : Option Valued :=
  match r.pending with
  | some ⟨a, none⟩ => if r.isTrailing then none else some a
  | _ => none

/-- A coordinate waits for its value, which may begin with dashes. -/
def awaitsCoordinate (r : CommandLine) : Bool :=
  r.awaiting? == some .latitude || r.awaiting? == some .longitude

def supply (r : CommandLine) (text : String) : CommandLine :=
  { r with pending := r.pending.map fun p => { p with value := some text } }

/-- Begin an argument, with a value that is attached to it or without. -/
def begin (r : CommandLine) (a : Valued) (attached : Option String) : Except Usage CommandLine := do
  let r ← r.settled
  match attached with
  | some text => return { r with taken := ← r.taken.take a (some text) }
  | none => return { r with pending := some ⟨a, none⟩ }

def turn (r : CommandLine) (s : Switch) : Except Usage CommandLine := do
  let r ← r.settled
  return { r with taken := ← r.taken.turn s }

/-- A plain value: the catalog, if it has not been named. -/
def place (r : CommandLine) (text : String) : Except Usage CommandLine :=
  if r.hasCatalog then .error .unknown
  else do
    let r ← r.settled
    return { r with pending := some ⟨.catalog, some text⟩, hasCatalog := true }

/-- An argument that begins with two dashes. -/
def long (r : CommandLine) (name : String) (attached : Option String) : Except Usage CommandLine :=
  match Named.ofLong? name, attached with
  | some (.valued a), attached => r.begin a attached
  | some (.switch s), none => r.turn s
  | some (.switch _), some _ => .error .spareValue
  | none, _ => .error .unknown

/-- The value that is attached to a letter: what follows it, without an equals sign. -/
def attachment : List Char → Option String
  | [] => none
  | '=' :: rest => some (String.ofList rest)
  | rest => some (String.ofList rest)

/-- Letters behind one dash. The first that takes a value takes all that follows it. -/
def short (r : CommandLine) : List Char → Except Usage CommandLine
  | [] => .ok r
  | c :: rest =>
    match Named.ofShort? c with
    | none => .error .unknown
    | some (.valued a) => r.begin a (attachment rest)
    | some (.switch s) => do (← r.turn s).short rest

/-- An argument that is no name: the value that is waited for, or a plain value. -/
def plain (r : CommandLine) (text : String) : Except Usage CommandLine :=
  if r.awaiting?.isSome then .ok (r.supply text) else r.place text

/-- A name behind two dashes with what is attached to it by an equals sign. -/
def longParts (cs : List Char) : String × Option String :=
  match splitFirst? '=' cs with
  | some (name, value) => (String.ofList name, some (String.ofList value))
  | none => (String.ofList cs, none)

def next (r : CommandLine) (argument : String) : Except Usage CommandLine :=
  if r.isTrailing then r.place argument
  else if r.awaitsCoordinate then .ok (r.supply argument)
  else
    match argument.toList with
    | ['-', '-'] => .ok { r with isTrailing := true }
    | '-' :: '-' :: cs => r.long (longParts cs).1 (longParts cs).2
    | '-' :: c :: cs => r.short (c :: cs)
    | _ => r.plain argument

end CommandLine

namespace Invocation

def ofArguments (arguments : List String) : Except Usage Invocation := do
  let r ← arguments.foldlM CommandLine.next {}
  (← r.settled).taken.completed

end Invocation

end RelayQuality
