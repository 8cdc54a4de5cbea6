import LSystem.Text.Encoding

/-! # File systems

Files and directories, and the two operations on them that a command needs: reading a text file, and
writing one together with the directories above it. Files and directories go by the names on the way
to them from the root. A path starts at the root if it starts with a slash, and at the working
directory otherwise. -/

namespace LSystem

inductive FileFault where
  | missing
  | exists_
  | isDirectory
  | notDirectory
  /-- A name holds the null character, so that the operating system is not even asked. -/
  | nullCharacter
  /-- The bytes of a file are no text, in the words of the decoder. -/
  | undecodable (words : String)
  | unencodable (fault : EncodingFault)
  /-- Any other reason, in the words of the operating system. -/
  | other (words : String)
  deriving DecidableEq, Repr

/-- The number of a fault among the errors of the operating system, and its wording there, if it is
one of them. -/
def FileFault.errno? : FileFault → Option (Nat × String)
  | .missing => some (2, "No such file or directory")
  | .exists_ => some (17, "File exists")
  | .isDirectory => some (21, "Is a directory")
  | .notDirectory => some (20, "Not a directory")
  | .other words => some (5, words)
  | .nullCharacter => none
  | .undecodable _ => none
  | .unencodable _ => none

/-- A fault, and the path at which it shows. -/
structure FileError where
  fault : FileFault
  path : Text
  deriving DecidableEq, Repr

/-- Files with their texts, and directories, each with the names on the way to it. -/
structure FileSystem where
  files : List (List Text × Text) := []
  directories : List (List Text) := []
  /-- Files whose bytes are no text, with what the decoder says about them. An entry of `files` for
  the same file goes before. -/
  undecodable : List (List Text × String) := []
  /-- The working directory. It is there, and so are those above it. -/
  working : List Text := []
  deriving DecidableEq, Repr

namespace FileSystem

/-- The names in a path between slashes, without empty ones. -/
def names (path : Text) : List Text := Text.pieces '/' path

/-- The path from the root along some names. -/
def absolute (dir : List Text) : Text := '/' :: Text.join ['/'] dir

def isDirectory (fs : FileSystem) (dir : List Text) : Bool :=
  let above (file : List Text) : Bool := dir.length < file.length && dir.isPrefixOf file
  dir.isPrefixOf fs.working || fs.directories.contains dir ||
    (fs.files.any fun (file, _) => above file) || fs.undecodable.any fun (file, _) => above file

def content? (fs : FileSystem) (file : List Text) : Option Text :=
  (fs.files.find? fun (f, _) => f = file).map (·.2)

/-- What reading a file gives, if there is one. -/
def stored? (fs : FileSystem) (file : List Text) : Option (Except String Text) :=
  match fs.content? file with
  | some s => some (.ok s)
  | none => (fs.undecodable.find? fun (f, _) => f = file).map fun (_, words) => .error words

/-- The directory reached from `dir` by some names. All of them must be directories; above the root
is the root. -/
def walk (fs : FileSystem) (dir : List Text) : List Text → Except FileFault (List Text)
  | [] => .ok dir
  | name :: names =>
    if name = ['.'] then walk fs dir names
    else if name = ['.', '.'] then walk fs dir.dropLast names
    else
      let next := dir ++ [name]
      if fs.isDirectory next then walk fs next names
      else if (fs.stored? next).isSome then .error .notDirectory
      else .error .missing

/-- The directory at which a path starts. -/
def start (fs : FileSystem) (path : Text) : List Text :=
  if path.head? = some '/' then [] else fs.working

/-- Where a path leads: the directory that it goes through, and its last name if that is a name of
its own. -/
def locate (fs : FileSystem) (path : Text) : Except FileFault (List Text × Option Text) :=
  if path.isEmpty then .error .missing
  else
    match (names path).getLast? with
    | none => .ok ([], none)
    | some last =>
      if last = ['.'] || last = ['.', '.'] then
        (fs.walk (fs.start path) (names path)).map fun dir => (dir, none)
      else (fs.walk (fs.start path) (names path).dropLast).map fun dir => (dir, some last)

def hasNull (s : Text) : Bool := s.contains (Char.ofNat 0)

def endsInSlash (path : Text) : Bool := path.getLast? = some '/'

/-- The text of the file that a path leads to. -/
def read (fs : FileSystem) (path : Text) : Except FileError Text :=
  let refuse (fault : FileFault) : Except FileError Text := .error ⟨fault, path⟩
  if hasNull path then refuse .nullCharacter
  else
    match fs.locate path with
    | .error fault => refuse fault
    | .ok (_, none) => refuse .isDirectory
    | .ok (dir, some name) =>
      let file := dir ++ [name]
      if fs.isDirectory file then refuse .isDirectory
      else
        match fs.stored? file with
        | none => refuse .missing
        | some stored =>
          if endsInSlash path then refuse .notDirectory
          else
            match stored with
            | .ok s => .ok s
            | .error words => refuse (.undecodable words)

/-- The names that a path comes down to without looking at any directory. -/
def normalize : List Text → List Text → List Text
  | dir, [] => dir
  | dir, name :: names =>
    if name = ['.'] then normalize dir names
    else if name = ['.', '.'] then normalize dir.dropLast names
    else normalize (dir ++ [name]) names

/-- All directories on the way to one. -/
def ancestors (dir : List Text) : List (List Text) :=
  (List.range dir.length).map fun n => dir.take (n + 1)

/-- Makes a directory and all above it. None of them may be a file; they are made from the topmost
one on, so that the first name that cannot be used counts, and those above it are made in any
case. -/
def makeDirectories (fs : FileSystem) (dir : List Text) : Except FileError Unit × FileSystem :=
  match (ancestors dir).find? fun d => (fs.stored? d).isSome with
  | some file =>
    let below := dir.take (file.length + 1)
    let fault : FileFault :=
      if below.any hasNull then .nullCharacter
      else if below = file then .exists_
      else .notDirectory
    (.error ⟨fault, absolute below⟩, fs)
  | none =>
    let new := (ancestors dir).filter fun d => !fs.isDirectory d && !d.any hasNull
    (if dir.any hasNull then .error ⟨.nullCharacter, absolute dir⟩ else .ok (),
      { fs with directories := fs.directories ++ new })

/-- The file system with another content of a file. -/
def put (fs : FileSystem) (file : List Text) (s : Text) : FileSystem :=
  if (fs.content? file).isSome then
    { fs with files := fs.files.map fun (f, t) => if f = file then (f, s) else (f, t) }
  else { fs with files := fs.files ++ [(file, s)] }

/-- Makes the directories above a path, and puts a text into the file there. The file is opened, and
thereby emptied, before the text is encoded. -/
def write (fs : FileSystem) (path s : Text) : Except FileError Unit × FileSystem :=
  match fs.makeDirectories (normalize (fs.start path) (names path)).dropLast with
  | (.error e, fs) => (.error e, fs)
  | (.ok (), fs) =>
    let refuse (fault : FileFault) : Except FileError Unit × FileSystem :=
      (.error ⟨fault, path⟩, fs)
    if hasNull path then refuse .nullCharacter
    else
      match fs.locate path with
      | .error fault => refuse fault
      | .ok (_, none) => refuse .isDirectory
      | .ok (dir, some name) =>
        let file := dir ++ [name]
        if fs.isDirectory file || endsInSlash path then refuse .isDirectory
        else
          match Encoding.utf8.fault? s with
          | none => (.ok (), fs.put file s)
          | some fault => (.error ⟨.unencodable fault, path⟩, fs.put file [])

end FileSystem

end LSystem
