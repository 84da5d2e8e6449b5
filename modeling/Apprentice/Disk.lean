/-!
# Files and directories

The part of a disk that the program can see, as a value: the working directory, the directories that
exist, and the files with their texts. Paths are written with slashes and start at the working
directory, or at the root if they start with a slash.
-/

namespace Apprentice

/-- The names on the way from the root to a file or directory. -/
abbrev Location := List String

structure Disk where
  workingDirectory : Location
  directories : List Location
  files : List (Location × String)
  deriving Repr

namespace Disk

/-- Nothing but a working directory and those above it. -/
def bare (location : Location) : Disk :=
  ⟨location, (List.range (location.length + 1)).map location.take, []⟩

/-- The parts of a text between slashes. -/
def splitPath (path : List Char) : List (List Char) :=
  match path with
  | [] => [[]]
  | c :: cs =>
    match splitPath cs with
    | part :: parts => if c == '/' then [] :: part :: parts else (c :: part) :: parts
    | [] => [[]]

/-- The names that a path passes through. -/
def names (path : String) : List String :=
  ((splitPath path.toList).map String.ofList).filter fun part => part != "" && part != "."

/-- Where a path starts. -/
def start (disk : Disk) (path : String) : Location :=
  if path.toList.head? == some '/' then [] else disk.workingDirectory

def isDirectory (disk : Disk) (location : Location) : Bool :=
  disk.directories.contains location

def file? (disk : Disk) (location : Location) : Option String :=
  (disk.files.find? fun entry => entry.1 == location).map (·.2)

/-- Where a name leads from a location. Above the root there is nothing but the root. -/
def step (location : Location) (name : String) : Location :=
  if name == ".." then location.dropLast else location ++ [name]

/-- Where a path leads; every location before the last one has to be a directory. -/
def follow (disk : Disk) (location : Location) : List String → Option Location
  | [] => some location
  | name :: names =>
    if disk.isDirectory location then disk.follow (step location name) names else none

def locate? (disk : Disk) (path : String) : Option Location :=
  if path.isEmpty then none else disk.follow (disk.start path) (names path)

/-- Whether a path can only lead to a directory, as it ends in a slash or a dot. -/
def meansDirectory (path : String) : Bool :=
  let last := (splitPath path.toList).getLast?
  last == some [] || last == some ['.']

/-- The text of the file at a path. -/
def read? (disk : Disk) (path : String) : Option String :=
  match disk.locate? path with
  | some location =>
    if disk.isDirectory location || meansDirectory path then none else disk.file? location
  | none => none

/-- Whether a file or directory stands at a path. -/
def pathExists (disk : Disk) (path : String) : Bool :=
  (disk.locate? path).any disk.isDirectory || (disk.read? path).isSome

/-- Makes the directories along the names that do not exist, and says where they lead. A file in the
way ends this; what was made before it stays. -/
def makeDirectories (disk : Disk) (location : Location) : List String → Option Location × Disk
  | [] => (some location, disk)
  | name :: names =>
    let next := step location name
    if disk.isDirectory next then disk.makeDirectories next names
    else if (disk.file? next).isSome then (none, disk)
    else { disk with directories := disk.directories ++ [next] }.makeDirectories next names

/-- Puts a text at a location, over the file that is there. -/
def put (disk : Disk) (location : Location) (text : String) : Disk :=
  { disk with
    files := disk.files.filter (fun entry => entry.1 != location) ++ [(location, text)] }

/-- The parts of a path without those at its end that lead nowhere. -/
def dropStays (parts : List (List Char)) : List (List Char) :=
  (parts.reverse.dropWhile fun part => part == [] || part == ['.']).reverse

/-- The path without its last name. -/
def parent (path : String) : String :=
  let parts := dropStays (splitPath path.toList)
  String.ofList (List.intercalate ['/'] (dropStays parts.dropLast))

/-- The path of a name in a directory. -/
def join (path name : String) : String :=
  if path.toList.getLast? == some '/' then path ++ name else path ++ "/" ++ name

/-- Makes a directory and those above it, and says whether that worked. -/
def makeDirectory (disk : Disk) (path : String) : Bool × Disk :=
  let (place, made) := disk.makeDirectories (disk.start path) (names path)
  (place.isSome, made)

/-- Writes a file, after the directories above it, and says whether that worked. It fails if a file
is in their way, or if the path is that of a directory; the directories above it stay. -/
def write (disk : Disk) (path text : String) : Bool × Disk :=
  match (names path).getLast? with
  | none => (false, disk)
  | some name =>
    match disk.makeDirectories (disk.start path) (names path).dropLast with
    | (none, made) => (false, made)
    | (some directory, made) =>
      let location := step directory name
      if meansDirectory path || made.isDirectory location then (false, made)
      else (true, made.put location text)

/-- The names of the directories in a directory, in ascending order. -/
def subdirectories (disk : Disk) (path : String) : List String :=
  match disk.locate? path with
  | none => []
  | some location =>
    (disk.directories.filterMap fun other =>
      if other.dropLast == location && other != [] then other.getLast? else none).mergeSort

end Disk

end Apprentice
