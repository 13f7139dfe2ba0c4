/-! What paths lead to, and a tree of files in which they can be looked up. -/

namespace BuildLog

/-- What a path leads to: a file with its bytes, something that can be opened but not read, something
that cannot be opened, or nothing. -/
inductive PathTarget where
  | file (bytes : List UInt8)
  | unreadable (reason : String)
  | locked (reason : String)
  | missing (reason : String)
  deriving DecidableEq, Repr

namespace PathTarget

def isThere : PathTarget → Bool
  | .missing _ => false
  | _ => true

def directory : PathTarget := .unreadable "Is a directory (os error 21)"
def notFound : PathTarget := .missing "No such file or directory (os error 2)"
def notDirectory : PathTarget := .missing "Not a directory (os error 20)"

end PathTarget

/-- Files by the names on the way from the root, and directories besides those that the files
need. -/
structure FileTree where
  files : List (List String × List UInt8) := []
  directories : List (List String) := []
  deriving DecidableEq, Repr

namespace FileTree

def parts (path : List Char) : List (List Char) :=
  path.foldr (fun c parts =>
    match parts with
    | [] => [[c]]
    | part :: rest => if c = '/' then [] :: part :: rest else (c :: part) :: rest) [[]]

def isDirectory (t : FileTree) (path : List String) : Bool :=
  path.isEmpty || t.directories.any path.isPrefixOf ||
    t.files.any fun f => path.isPrefixOf f.1 && path.length < f.1.length

def walk (t : FileTree) (directory : List String) : List String → PathTarget
  | [] => .directory
  | name :: rest =>
    if name = "" ∨ name = "." then t.walk directory rest
    else if name = ".." then t.walk directory.dropLast rest
    else
      let path := directory ++ [name]
      if t.isDirectory path then t.walk path rest
      else
        match t.files.lookup path with
        | some bytes => if rest = [] then .file bytes else .notDirectory
        | none => .notFound

/-- What a path leads to from a directory. An empty path leads nowhere. -/
def lookup (t : FileTree) (directory : List String) (path : String) : PathTarget :=
  if path = "" then .notFound
  else t.walk directory ((parts path.toList).map String.ofList)

end FileTree

end BuildLog
