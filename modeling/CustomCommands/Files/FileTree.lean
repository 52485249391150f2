import CustomCommands.Assoc
import CustomCommands.Files.Path

/-!
# File trees

The files that the program reads, as a value. A file holds a text, or bytes that
are none. Names are texts: a file whose name is none is in no tree.
-/

namespace CustomCommands

inductive FileError where
  | notFound
  | alreadyThere
  | notDirectory
  | isDirectory
  | nameTooLong
  /-- A path holds the character U+0000, which no name may. -/
  | nulInName
  | notText
  deriving DecidableEq, Repr

def FileError.message : FileError → String
  | notFound => "No such file or directory (os error 2)"
  | alreadyThere => "File exists (os error 17)"
  | notDirectory => "Not a directory (os error 20)"
  | isDirectory => "Is a directory (os error 21)"
  | nameTooLong => "File name too long (os error 36)"
  | nulInName => "file name contained an unexpected NUL byte"
  | notText => "stream did not contain valid UTF-8"

inductive FileEntry where
  /-- `none` stands for bytes that are no text. -/
  | file (text : Option String)
  | dir (entries : List (String × FileEntry))
  deriving Inhabited

namespace FileEntry

def entries : FileEntry → List (String × FileEntry)
  | dir es => es
  | file _ => []

def isDir : FileEntry → Bool
  | dir _ => true
  | file _ => false

def get? : FileEntry → List String → Option FileEntry
  | e, [] => some e
  | e, n :: ns => (Assoc.get? n e.entries).bind fun f => get? f ns

/-- Puts an entry under a list of names, with the directories on the way. -/
def put : FileEntry → List String → FileEntry → FileEntry
  | _, [], new => new
  | e, n :: ns, new =>
    dir (Assoc.insert n (put ((Assoc.get? n e.entries).getD (dir [])) ns new) e.entries)

def remove : FileEntry → List String → FileEntry
  | e, [] => e
  | e, [n] => dir (Assoc.erase n e.entries)
  | e, n :: ns =>
    match Assoc.get? n e.entries with
    | some f => dir (Assoc.insert n (remove f ns) e.entries)
    | none => e

end FileEntry

/-- All files, and the directory that relative paths start from. -/
structure FileTree where
  root : FileEntry := .dir []
  here : List String := []

namespace FileTree

/-- Follows pieces of a path from a directory to the names of an entry. Each piece is looked up in
a directory that is there, so the first piece that cannot be followed tells the error. -/
def follow (root : FileEntry) (at_ : List String) :
    List (List Char) → Except FileError (List String)
  | [] => .ok at_
  | w :: ws =>
    match root.get? at_ with
    | none => .error .notFound
    | some (.file _) => .error .notDirectory
    | some (.dir es) =>
      if Path.isHere w then follow root at_ ws
      else if Path.isAround w then follow root at_.dropLast ws
      else if Path.isTooLongName w then .error .nameTooLong
      else
        match Assoc.get? (String.ofList w) es with
        | some _ => follow root (at_ ++ [String.ofList w]) ws
        | none => .error .notFound

def start (path : String) (t : FileTree) : List String :=
  if Path.isAbsolute path then [] else t.here

/-- Why a path is none, whatever files there are. -/
def refusal? (path : String) : Option FileError :=
  if path.toList.contains '\x00' then some .nulInName
  else if path.isEmpty then some .notFound
  else if Path.isTooLong path then some .nameTooLong
  else none

def locate (path : String) (t : FileTree) : Except FileError (List String) :=
  match refusal? path with
  | some e => .error e
  | none => follow t.root (t.start path) (Path.pieces path.toList)

def find? (path : String) (t : FileTree) : Option FileEntry :=
  (t.locate path).toOption.bind t.root.get?

def hasPath (path : String) (t : FileTree) : Bool :=
  (t.find? path).isSome

def readText (path : String) (t : FileTree) : Except FileError String := do
  let names ← t.locate path
  match t.root.get? names with
  | none => .error .notFound
  | some (.dir _) => .error .isDirectory
  | some (.file none) => .error .notText
  | some (.file (some text)) => .ok text

def list (path : String) (t : FileTree) : Except FileError (List (String × FileEntry)) := do
  let names ← t.locate path
  match t.root.get? names with
  | none => .error .notFound
  | some (.file _) => .error .notDirectory
  | some (.dir es) => .ok es

def hasDirectory (path : String) (t : FileTree) : Bool :=
  (t.find? path).any FileEntry.isDir

/-- Makes the directory that the last part of a path names, in a directory that is there. Slashes
at the end count for nothing. -/
def makeLast (path : String) (t : FileTree) : Except FileError FileTree :=
  match refusal? path with
  | some e => .error e
  | none => do
    let ws := (Path.pieces path.toList).reverse.dropWhile List.isEmpty
    let names ← follow t.root (t.start path) ws.tail.reverse
    match t.root.get? names with
    | none => .error .notFound
    | some (.file _) => .error .notDirectory
    | some (.dir es) =>
      match ws.head? with
      | none => .error .alreadyThere
      | some w =>
        if Path.isHere w || Path.isAround w then .error .alreadyThere
        else if Path.isTooLongName w then .error .nameTooLong
        else if (Assoc.get? (String.ofList w) es).isSome then .error .alreadyThere
        else .ok { t with root := t.root.put (names ++ [String.ofList w]) (.dir []) }

/-- Makes the first directory of a chain of paths, each of which lies in the next, and with it those
that are missing. An empty path needs none. -/
def makeInward : List String → FileTree → Except FileError FileTree
  | [], t => .ok t
  | p :: ps, t =>
    if p.isEmpty then .ok t
    else
      match t.makeLast p with
      | .ok made => .ok made
      | .error .notFound => do
        let t ← makeInward ps t
        match t.makeLast p with
        | .ok made => .ok made
        | .error e => if t.hasDirectory p then .ok t else .error e
      | .error e => if t.hasDirectory p then .ok t else .error e

def makeDirectory (path : String) (t : FileTree) : Except FileError FileTree :=
  makeInward (Path.outward path) t

def enter (at_ : List String) (w : List Char) : List String :=
  if Path.isHere w then at_ else if Path.isAround w then at_.dropLast else at_ ++ [String.ofList w]

/-- Puts an entry under a path, with the directories on the way. -/
def write (path : String) (e : FileEntry) (t : FileTree) : FileTree :=
  { t with root := t.root.put ((Path.pieces path.toList).foldl enter (t.start path)) e }

/-- Removes a file. Was there one? -/
def removeFile (path : String) (t : FileTree) : Bool × FileTree :=
  match t.locate path with
  | .error _ => (false, t)
  | .ok names =>
    match t.root.get? names with
    | some (.file _) => (true, { t with root := t.root.remove names })
    | _ => (false, t)

end FileTree

end CustomCommands
