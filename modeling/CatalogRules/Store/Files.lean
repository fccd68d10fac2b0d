import CatalogRules.Text.Split

/-!
Files as a value. Every entry has the list of names that lead to it from the
working directory; `..` stands for what is above the working directory, and a
first name `/` for the root of everything. Reading and writing fail the way an
operating system says they do.
-/

namespace CatalogRules

inductive FileError where
  | notFound
  | isDirectory
  | notDirectory
  | nameTooLong
  /-- The path holds the character NUL. -/
  | unnameable
  deriving DecidableEq

def FileError.message : FileError → String
  | notFound => "No such file or directory (os error 2)"
  | isDirectory => "Is a directory (os error 21)"
  | notDirectory => "Not a directory (os error 20)"
  | nameTooLong => "File name too long (os error 36)"
  | unnameable => "file name contained an unexpected NUL byte"

inductive FileEntry where
  | file (content : String)
  | directory
  deriving DecidableEq

structure Files where
  entries : List (List String × FileEntry)
  deriving DecidableEq

namespace Files

def empty : Files := ⟨[]⟩

def isAbove (names : List String) : Bool :=
  names.all (fun name => name == ".." || name == "/")

def rootNames : List String :=
  ["bin", "dev", "etc", "home", "lib", "opt", "proc", "root", "run", "sbin", "sys", "tmp",
   "usr", "var"]

/-- What stands outside the working directory anyway: the directories of the root, and
the file that is always empty. -/
def outside? : List String → Option FileEntry
  | ["/", name] => if name ∈ rootNames then some .directory else none
  | ["/", "dev", "null"] => some (.file "")
  | _ => none

def find? (fs : Files) (names : List String) : Option FileEntry :=
  if isAbove names then some .directory
  else (outside? names).or (List.lookup names fs.entries)

def splitPath (path : String) : List String := Text.split '/' path

def isAbsolute (path : String) : Bool := path.toList.head? = some '/'

def nameLimit : Nat := 255

def pathLimit : Nat := 4095

/-- Goes from a directory to one of its parts. -/
def enter (names : List String) (part : String) : List String :=
  if part == "" || part == "." then names
  else if part == ".." then
    if names = ["/"] then names
    else if isAbove names then names ++ [".."]
    else names.dropLast
  else names ++ [part]

/-- Follows the parts of a path; what a part is looked up in has to be a
directory. -/
def follow (fs : Files) (names : List String) : List String → Except FileError (List String)
  | [] => .ok names
  | part :: rest =>
    match fs.find? names with
    | some .directory =>
      if nameLimit < part.utf8ByteSize then .error .nameTooLong
      else follow fs (enter names part) rest
    | some (.file _) => .error .notDirectory
    | none => .error .notFound

def start (path : String) : List String := if isAbsolute path then ["/"] else []

def parts (path : String) : Except FileError (List String) :=
  if path.toList.contains '\x00' then .error .unnameable
  else if pathLimit < path.utf8ByteSize then .error .nameTooLong
  else if path.isEmpty then .error .notFound
  else .ok (splitPath path)

/-- The names that a path leads to. The last of them need not exist. -/
def resolve (fs : Files) (path : String) : Except FileError (List String) := do
  fs.follow (start path) (← parts path)

/-- The names of the file that a path would have written. A path that ends in a
slash leads to no file, whatever its last name is. -/
def target (fs : Files) (path : String) : Except FileError (List String) := do
  let parts ← parts path
  if path.toList.getLast? = some '/' then
    let named := (parts.reverse.dropWhile String.isEmpty).tail.reverse
    let _ ← fs.follow (start path) (named ++ [""])
    .error .isDirectory
  else fs.follow (start path) parts

def look (fs : Files) (path : String) : Except FileError FileEntry :=
  match fs.resolve path with
  | .error e => .error e
  | .ok names =>
    match fs.find? names with
    | some entry => .ok entry
    | none => .error .notFound

def has (fs : Files) (path : String) : Bool := (fs.look path).toBool

def read (fs : Files) (path : String) : Except FileError String :=
  match fs.look path with
  | .ok (.file content) => .ok content
  | .ok .directory => .error .isDirectory
  | .error e => .error e

/-- Replaces what stands under the names, or adds it at the end. -/
def put (names : List String) (entry : FileEntry) :
    List (List String × FileEntry) → List (List String × FileEntry)
  | [] => [(names, entry)]
  | (other, old) :: rest =>
    if names = other then (names, entry) :: rest else (other, old) :: put names entry rest

def write (fs : Files) (path content : String) : Except FileError Files :=
  match fs.target path with
  | .error e => .error e
  | .ok names =>
    match fs.find? names with
    | some .directory => .error .isDirectory
    | _ => .ok ⟨put names (.file content) fs.entries⟩

/-- Adds an entry at a path, with the directories on the way to it. -/
def place (fs : Files) (path : String) (entry : FileEntry) : Files :=
  let names := (splitPath path).foldl enter (start path)
  let ways := (List.range (names.length - 1)).map (fun n => names.take (n + 1))
  ⟨put names entry (ways.foldl (fun entries way => put way .directory entries) fs.entries)⟩

def makeDirectory (fs : Files) (path : String) : Files := fs.place path .directory

/-- The part of a path in front of its last name. -/
def parent (path : String) : String :=
  let front := (path.toList.reverse.dropWhile (· != '/')).reverse
  if front.isEmpty then "." else String.ofList front

theorem lookup_put_self (names : List String) (entry : FileEntry)
    (entries : List (List String × FileEntry)) :
    List.lookup names (put names entry entries) = some entry := by
  induction entries with
  | nil => simp [put]
  | cons e entries ih =>
    obtain ⟨other, old⟩ := e
    simp only [put]
    split
    · simp
    · rename_i h
      simpa [List.lookup_cons, beq_false_of_ne h] using ih

end Files

end CatalogRules
