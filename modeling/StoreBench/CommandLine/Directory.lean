import StoreBench.Text.Pieces

namespace StoreBench.CommandLine

/-! Files in a tree of directories, and what a path leads to. A path is a list of names
with slashes between them. Every name but the last must lead to a directory, and no name
may follow a file, not even an empty one. -/

inductive PathFault where
  | missing
  | notDirectory
  | isDirectory
  | nameTooLong
  deriving DecidableEq, Repr

def PathFault.message : PathFault → String
  | .missing => "No such file or directory (os error 2)"
  | .notDirectory => "Not a directory (os error 20)"
  | .isDirectory => "Is a directory (os error 21)"
  | .nameTooLong => "File name too long (os error 36)"

inductive FileTree where
  | file (content : String)
  | directory (entries : List (String × FileTree))

namespace FileTree

def nameLimit : Nat := 255

def pathLimit : Nat := 4095

/-- Follow names from a directory, which comes with those that it lies in. Nothing lies
above the last of these. -/
def follow (above : List FileTree) : FileTree → List String → Except PathFault FileTree
  | tree, [] => .ok tree
  | .file _, _ :: _ => .error .notDirectory
  | .directory entries, name :: rest =>
      let here := FileTree.directory entries
      if name = "" || name = "." then follow above here rest
      else if name = ".." then match above with
        | [] => follow [] here rest
        | parent :: others => follow others parent rest
      else if nameLimit < name.utf8ByteSize then .error .nameTooLong
      else match entries.lookup name with
        | some tree => follow (here :: above) tree rest
        | none => .error .missing

/-- The directories that every system has at the top. Nothing is known to be in them but
one file that is always empty. -/
def top : FileTree :=
  .directory (("dev", .directory [("null", .file "")]) ::
    ["bin", "boot", "etc", "home", "lib", "media", "mnt", "opt", "proc", "root", "run",
      "sbin", "srv", "sys", "tmp", "usr", "var"].map fun name => (name, .directory []))

end FileTree

abbrev Directory := List (String × String)

namespace Directory

def find (directory : Directory) (path : String) : Except PathFault FileTree :=
  let files := directory.map fun (name, content) => (name, FileTree.file content)
  if path = "" then .error .missing
  else if FileTree.pathLimit < path.utf8ByteSize then .error .nameTooLong
  else
    let names := textPieces '/' path
    if path.startsWith "/" then FileTree.top.follow [] names
    else (FileTree.directory files).follow [.directory [], .top] names

def read (directory : Directory) (path : String) : Except PathFault String := do
  match ← directory.find path with
  | .file content => return content
  | .directory _ => throw .isDirectory

def readBeside (path : String) : Option String × Option PathFault :=
  match read [("a", "text")] path with
  | .ok content => (some content, none)
  | .error fault => (none, some fault)

example : readBeside ".//a" = (some "text", none) := by decide +kernel

example : readBeside "a/" = (none, some .notDirectory) := by decide +kernel

example : readBeside "b/.." = (none, some .missing) := by decide +kernel

end Directory
end StoreBench.CommandLine
