import QueryClient.Gzip.Content
import QueryClient.Text.Quoted
import QueryClient.Text.Split

/-!
# Files

A tree of files and directories below a working directory. Names are looked up one component after
the other; a name may lead through the parent of a directory, and it may be one that does not exist
yet. A file that is open for writing can be removed, and another one made in its place.
-/

namespace QueryClient.Files

open Gzip (Content)

/-- What stands at a place. -/
inductive Node where
  /-- A file. Its number tells it from one that stood at the same place before. -/
  | file (number : Nat) (content : Content)
  | directory
deriving Repr, DecidableEq

/-- Files below a working directory. -/
structure Store where
  /-- The name of the working directory. -/
  root : String := ""
  /-- Places below the working directory with what stands there. -/
  nodes : List (List String × Node) := []
  /-- How many files were made. -/
  made : Nat := 0
  /-- Directories elsewhere that are known to exist. -/
  elsewhere : List String := []
  /-- Directories in which no file can be made or removed, by their full names. -/
  locked : List String := []
deriving Repr, DecidableEq

/-- Why a name leads nowhere. -/
inductive PathFault where
  | missing
  | isDirectory
  | notDirectory
  | denied
deriving Repr, DecidableEq

/-- The message of the system for a name that leads nowhere. -/
def PathFault.message (name : String) : PathFault → String
  | missing => "[Errno 2] No such file or directory: " ++ Text.quoted name
  | isDirectory => "[Errno 21] Is a directory: " ++ Text.quoted name
  | notDirectory => "[Errno 20] Not a directory: " ++ Text.quoted name
  | denied => "[Errno 13] Permission denied: " ++ Text.quoted name

/-- A name that does not start at the working directory. -/
def isAbsolute (name : String) : Bool :=
  name.toList.head? == some '/'

/-- The last component of a name. -/
def baseName (name : String) : String :=
  ((Text.splitAtChar '/' name).getLast?).getD ""

namespace Store

/-! ## Looking up -/

def node? (s : Store) (place : List String) : Option Node :=
  if place.isEmpty then some .directory
  else (s.nodes.find? (·.1 == place)).map (·.2)

/-- Follow components from a place; the last one need not exist. -/
def follow (s : Store) (place : List String) : List String → Except PathFault (List String)
  | [] => .ok place
  | c :: rest =>
    match s.node? place with
    | none => .error .missing
    | some (.file ..) => .error .notDirectory
    | some .directory =>
      if c == "" || c == "." then s.follow place rest
      else if c == ".." then s.follow place.dropLast rest
      else s.follow (place ++ [c]) rest

def placeOf (s : Store) (name : String) : Except PathFault (List String) :=
  if name.isEmpty || isAbsolute name then .error .missing
  else s.follow [] (Text.splitAtChar '/' name)

def isFile (s : Store) (name : String) : Bool :=
  match s.placeOf name with
  | .ok place =>
    match s.node? place with
    | some (.file ..) => true
    | _ => false
  | .error _ => false

def isDirectory (s : Store) (name : String) : Bool :=
  match s.placeOf name with
  | .ok place => s.node? place == some .directory
  | .error _ => s.elsewhere.contains name

/-- A name leads to something. -/
def holds (s : Store) (name : String) : Bool :=
  s.isFile name || s.isDirectory name

def content (s : Store) (name : String) : Except PathFault Content := do
  let place ← s.placeOf name
  match s.node? place with
  | some (.file _ content) => return content
  | some .directory => throw .isDirectory
  | none => throw .missing

/-! ## Writing -/

def put (s : Store) (place : List String) (node : Node) : Store :=
  { s with nodes := s.nodes.filter (·.1 != place) ++ [(place, node)] }

/-- The name of a place with that of the working directory in front. -/
def fullName (s : Store) (place : List String) : String :=
  Text.join "/" (s.root :: place)

def isLocked (s : Store) (directory : String) : Bool :=
  s.locked.contains directory

/-- The place of a file that is to be written. -/
def writablePlace (s : Store) (name : String) : Except PathFault (List String) := do
  let place ← s.placeOf name
  match s.node? place, s.node? place.dropLast with
  | some .directory, _ => throw .isDirectory
  | none, some .directory =>
    if s.isLocked (s.fullName place.dropLast) then throw .denied
    return place
  | some (.file ..), some .directory => return place
  | _, some (.file ..) => throw .notDirectory
  | _, none => throw .missing

/-- Open a file to write to it: it is emptied, or made if there is none. Its number comes back. -/
def openEmpty (s : Store) (place : List String) : Store × Nat :=
  match s.node? place with
  | some (.file number _) => (s.put place (.file number []), number)
  | _ => ({ s with made := s.made + 1 }.put place (.file s.made []), s.made)

/-- Write to an open file from its start. What is written to a file that was removed is lost. -/
def write (s : Store) (place : List String) (number : Nat) (content : Content) : Store :=
  match s.node? place with
  | some (.file present old) =>
    if present = number then s.put place (.file number (content.overwriting old)) else s
  | _ => s

def remove (s : Store) (name : String) : Except PathFault Store := do
  let place ← s.placeOf name
  match s.node? place with
  | some (.file ..) =>
    if s.isLocked (s.fullName place.dropLast) then throw .denied
    return { s with nodes := s.nodes.filter (·.1 != place) }
  | some .directory => throw .isDirectory
  | none => throw .missing

/-- Make a directory and those it stands in. -/
def makeDirectory (s : Store) (place : List String) : Store :=
  (List.range place.length).foldl (fun s n =>
    let p := place.take (n + 1)
    if (s.node? p).isSome then s else s.put p .directory) s

/-- Add a file with the directories it stands in. -/
def addFile (s : Store) (name : String) (data : List UInt8) : Store :=
  let place := (Text.splitAtChar '/' name).filter (· != "")
  let (s, number) := (s.makeDirectory place.dropLast).openEmpty place
  s.write place number [.plain data]

/-! ## Names by their letters -/

/-- Components with those taken out that lead nowhere or back; the first part counts how often the
names lead above the start. -/
def normalized (up : Nat) (names : List String) : List String → Nat × List String
  | [] => (up, names)
  | c :: rest =>
    if c == "" || c == "." then normalized up names rest
    else if c == ".." then
      if names.isEmpty then normalized (up + 1) names rest
      else normalized up names.dropLast rest
    else normalized up (names ++ [c]) rest

/-- The directory that a name stands in, by its letters: its full name and whether it exists. -/
def directoryOf (s : Store) (name : String) : String × Bool :=
  let (up, names) := normalized 0 [] (Text.splitAtChar '/' name)
  let directory := names.dropLast
  if isAbsolute name then
    let full := "/" ++ Text.join "/" directory
    (full, s.elsewhere.contains full)
  else
    let full := Text.join "/" (s.root :: List.replicate up ".." ++ directory)
    (full, if up == 0 then s.node? directory == some .directory else directory.isEmpty)

end Store

end QueryClient.Files
