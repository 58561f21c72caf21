/-
What the engine sees of the machine that it runs on: the files, the home
directory of the user and the directory of the running program.
-/
import HookRules.FileTree

namespace HookRules

structure Host where
  files : FileTree
  home : Option String
  /-- The absolute directory from which relative paths are looked up. -/
  directory : String

namespace Host

/-- The absolute path that a path means to the running program. -/
def absolute (h : Host) (path : String) : String := Path.join h.directory path

/-- Whether a path as a user writes it leads somewhere. -/
def fileExists (h : Host) (cwd path : String) : Bool :=
  path ≠ "" && h.files.exists? (h.absolute (Path.resolve h.home cwd path))

def isDir (h : Host) (cwd path : String) : Bool :=
  path ≠ "" && h.files.isDir (h.absolute (Path.resolve h.home cwd path))

/-- Whether a path leads to a file that someone may execute. -/
def isExecutable (h : Host) (cwd path : String) : Bool :=
  path ≠ "" && h.files.isExecutable (h.absolute (Path.resolve h.home cwd path))

def isPathUnder (h : Host) (cwd path parent : String) : Bool :=
  h.files.isUnder h.directory h.home cwd path parent

/-- Whether a directory or one that contains it has an entry `.git`. -/
def isGitRepo (h : Host) (cwd : String) : Bool :=
  (cwd :: (FileTree.ancestors cwd).tail.map (·.1)).any fun dir =>
    h.files.exists? (h.absolute (Path.join dir ".git"))

end Host

end HookRules
